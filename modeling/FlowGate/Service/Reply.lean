import FlowGate.Service.Command
import FlowGate.Version

/-!
# Replies

`Service.handle` answers a request over a store. A command that the store carries out is answered
with its result; a refused request, and a check that cannot be carried out, leave the store as it
was. The reply is written at last, and not every value can be: `writable` says which ones. A writer
of standard JSON can write values in which all numbers are finite, `Value.isFinite`.
-/

namespace FlowGate

mutual

/-- Whether all numbers in a value are finite. -/
def Value.isFinite : Value → Bool
  | .float x => x.isFinite
  | .scalar _ => true
  | .list items => Value.allFinite items
  | .map entries => Value.allEntriesFinite entries
termination_by structural v => v

def Value.allFinite : List Value → Bool
  | [] => true
  | v :: vs => v.isFinite && Value.allFinite vs
termination_by structural vs => vs

def Value.allEntriesFinite : List (Scalar × Value) → Bool
  | [] => true
  | (_, v) :: es => v.isFinite && Value.allEntriesFinite es
termination_by structural es => es

end

namespace Service

inductive Content where
  | value (v : Value)
  | text (s : String)
  deriving DecidableEq, Repr

structure Reply where
  status : Nat
  content : Content
  deriving DecidableEq, Repr

namespace Reply

def ok (v : Value) : Reply := ⟨200, .value v⟩

def refused (status : Nat) (detail : Value) : Reply :=
  ⟨status, .value (.map [(.str "detail", detail)])⟩

/-- The reply that a request could not be carried out or its reply not be written. -/
def failed : Reply := ⟨500, .text "Internal Server Error"⟩

/-- The reply that is sent, given which values can be written. -/
def sent (writable : Value → Bool) (r : Reply) : Reply :=
  match r.content with
  | .value v => if writable v then r else failed
  | .text _ => r

end Reply

def MisfitKind.name : MisfitKind → String
  | .missing => "missing"
  | .notMapping => "dict_type"
  | .notBody => "model_attributes_type"

def Misfit.value (m : Misfit) : Value :=
  .map [(.str "type", .str m.kind.name), (.str "loc", .list (m.place.map .str))]

/-- The reply to a request that is refused. An integer that is too large is not a fault that the
service expects of a document. -/
def Refusal.reply : Refusal → Reply
  | .misfits parts => .refused 422 (.list (parts.map Misfit.value))
  | .document fault =>
    if fault.isMalformed then
      .refused 422
        (.map [(.str "error", .str "invalid_document"), (.str "message", .str fault.message)])
    else .failed

def nodeReport (key nodeId : String) (issues : List Notice) : Value :=
  .map [(.str "flow_key", .str key), (.str "node_id", .str nodeId),
    (.str "issues", .list (issues.map fun n => n.toIssue.report n.id))]

def Command.run (marks : Marks) (s : Store) : Command → Reply × Store
  | .health =>
    (.ok (.map [(.str "status", .str "ok"), (.str "timestamp", .str marks.time),
      (.str "version", .str programVersion)]), s)
  | .checkFlow f =>
    match Store.checkFlow marks f s with
    | (.ok v, s) => (.ok v.report, s)
    | (.error _, s) => (.failed, s)
  | .checkDomain id domains =>
    match Store.checkDomain marks id domains s with
    | (.ok (some v), s) => (.ok v.report, s)
    | (_, s) => (.failed, s)
  | .checkSystem domains =>
    match Store.checkSystem marks domains s with
    | (.ok v, s) => (.ok v.report, s)
    | (.error _, s) => (.failed, s)
  | .gate flowId domainId => (.ok (s.gate flowId domainId).report, s)
  | .nodeIssues domainId flowId nodeId =>
    let key := Store.flowKey domainId flowId
    (.ok (nodeReport key nodeId (s.nodeIssues key nodeId)), s)
  | .reset => (.ok (.map [(.str "status", .str "reset")]), Store.empty)

/-- Answers a request. What the command does to the store stays if the reply cannot be written. -/
def handle (writable : Value → Bool) (s : Store) (r : Request) : Reply × Store :=
  match r.command with
  | .ok command =>
    let (reply, s) := command.run r.marks s
    (reply.sent writable, s)
  | .error refusal => (refusal.reply.sent writable, s)

/-- Answers requests one after the other. -/
def handleAll (writable : Value → Bool) : Store → List Request → List Reply × Store
  | s, [] => ([], s)
  | s, r :: rs =>
    let (reply, s) := handle writable s r
    let (replies, s) := handleAll writable s rs
    (reply :: replies, s)

end Service

end FlowGate
