import FlowGate.Flow.Basic

/-!
# Drafts

The flow that the editor starts from: a trigger that is not configured yet, and in an agent flow a
loop that the trigger leads to. New identifiers end in eight characters drawn at random from the
small letters and the digits; the draws are given from outside.
-/

namespace FlowGate

/-- The characters of short identifiers. -/
def ShortId.alphabet : List Char := "abcdefghijklmnopqrstuvwxyz0123456789".toList

/-- A short identifier of a length, from a sequence of draws; a negative length counts as zero. -/
def ShortId.ofDraws (draw : Nat → Nat) (length : Int) : String :=
  String.ofList <| (List.range length.toNat).map fun i =>
    ShortId.alphabet.getD (draw i % ShortId.alphabet.length) 'a'

/-- What a new flow takes from outside: the ends of its new identifiers and the current time. -/
structure DraftStamp where
  triggerId : String
  loopId : String
  time : String

def NodeKind.newId (k : NodeKind) (shortId : String) : String := k.name ++ "-" ++ shortId

def Node.draftTrigger (shortId : String) (targets : List String) : Node where
  id := NodeKind.newId .trigger shortId
  kind := .trigger
  spec := Record.absent _
  label := "Trigger"
  position := ⟨.int 250, .int 50⟩
  connections := targets.map fun t => ⟨t, .null, .null⟩
  parent := .null

def Node.draftLoop (shortId : String) : Node where
  id := NodeKind.newId .agentLoop shortId
  kind := .agentLoop
  spec :=
    { row := (.str "claude-sonnet", .null, some 10, some (.ofDecimal false 7 (-1)), [], [],
        .str "respond", ())
      extra := [] }
  label := "Agent Loop"
  position := ⟨.int 200, .int 200⟩
  connections := []
  parent := .null

/-- A draft; the identifier stands in for a name that is null or empty. -/
def Flow.draft (stamp : DraftStamp) (domainId flowId : String) (name : Option String)
    (kind : FlowKind) : Flow :=
  let nodes := match kind with
    | .agent => [Node.draftLoop stamp.loopId]
    | .traditional => []
  { id := flowId
    name := .str (match name with | some n => if n = "" then flowId else n | none => flowId)
    domain := .str domainId
    kind
    trigger := some (Node.draftTrigger stamp.triggerId (nodes.map (·.id)))
    nodes
    description := .null
    created := .str stamp.time
    modified := .str stamp.time }

end FlowGate
