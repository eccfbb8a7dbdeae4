import FlowGate.Check.Domain
import FlowGate.Check.Flow
import FlowGate.Check.Events
import FlowGate.Gate

/-!
# The store of results

The store keeps the latest result of each flow, of each domain and of the system. Checking through
the store replaces the result of the target; a check that cannot be carried out, or a domain that is
not registered, leaves the results as they were. Reading never changes them.

Steps on the store are put together as `Store.Action`s: a fault ends the steps that follow and
leaves the store as the steps before it made it.
-/

namespace FlowGate

structure Store where
  flows : Table Verdict
  domains : Table Verdict
  system : Option Verdict

namespace Store

def empty : Store := ⟨.empty, .empty, none⟩

/-- The name of a flow within its project, from the identifiers of its domain and of itself. -/
def flowKey (domainId flowId : String) : String := domainId ++ "/" ++ flowId

/-- A step on the store: what it gives, or the fault at which it stops, and the store that it
leaves. What was kept before a fault stays. -/
def Action (α : Type) : Type := Store → Except CheckFault α × Store

namespace Action

variable {α β : Type}

/-- The second step after the first; a fault ends both. -/
protected def bind (x : Action α) (f : α → Action β) : Action β := fun s =>
  match x s with
  | (.ok a, s) => f a s
  | (.error e, s) => (.error e, s)

instance : Monad Action where
  pure a := fun s => (.ok a, s)
  bind := Action.bind

/-- A step that does not look at the store. -/
def lift (r : Except CheckFault α) : Action α := fun s => (r, s)

def update (f : Store → Store) : Action Unit := fun s => (.ok (), f s)

end Action

/-- Checks a flow and keeps the result. -/
def checkFlow (marks : Marks) (f : Flow) : Action Verdict := do
  let v := (← .lift f.check).made marks
  .update fun s => { s with flows := s.flows.put f.key v }
  return v

/-- Checks a domain and keeps the result, if the domain is registered. -/
def checkDomain (marks : Marks) (id : String) (domains : Table Domain) :
    Action (Option Verdict) := do
  match domains.get? id with
  | none => return none
  | some d =>
    let v := (← .lift (d.check id)).made marks
    .update fun s => { s with domains := s.domains.put id v }
    return some v

/-- Checks the system and keeps the result. -/
def checkSystem (marks : Marks) (domains : Table Domain) : Action Verdict := do
  let v := (Events.check domains).made marks
  .update fun s => { s with system := some v }
  return v

/-- Checks a flow if there is one, a domain if it has a name and is registered, and the system. -/
def checkAll (marks : Scope → Marks) (f : Option Flow) (domainId : Option String)
    (domains : Table Domain) : Action Unit := do
  match f with
  | some f => discard (checkFlow (marks .flow) f)
  | none => pure ()
  let id := domainId.getD ""
  if id ≠ "" then discard (checkDomain (marks .domain) id domains)
  discard (checkSystem (marks .system) domains)

/-- The issues of a flow that point at a node. -/
def nodeIssues (s : Store) (key node : String) : List Notice :=
  match s.flows.get? key with
  | some v => v.notices.filter (·.node == some node)
  | none => []

def gate (s : Store) (flowId domainId : String) : Gate where
  flow := s.flows.get? (flowKey domainId flowId)
  domain := s.domains.get? domainId
  system := s.system

end Store

end FlowGate
