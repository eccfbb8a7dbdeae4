import FlowGate.Flow.Spec

/-!
# Flows

A flow is a graph of nodes: a trigger, at which it starts, and the other nodes, each with its
outgoing connections. A flow without a trigger can be read, so that checks can report it.
`Flow.allNodes` is the trigger followed by the others, and `Flow.key` names the flow within its
project.
-/

namespace FlowGate

structure Position where
  x : Value
  y : Value
  deriving DecidableEq, Repr

/-- The place of a node that has none. -/
def Position.origin : Position := ⟨.float .zero, .float .zero⟩

/-- An outgoing edge of a node; handles tell edges of one node apart, null for none. -/
structure Connection where
  target : String
  sourceHandle : Value
  targetHandle : Value
  deriving DecidableEq, Repr

structure Node where
  id : String
  kind : NodeKind
  spec : Spec kind
  label : String
  position : Position
  connections : List Connection
  /-- The node of the group around this one, null for none. -/
  parent : Value
  deriving DecidableEq

def Node.targets (n : Node) : List String := n.connections.map (·.target)

structure Flow where
  id : String
  name : Value
  domain : Value
  kind : FlowKind
  trigger : Option Node
  nodes : List Node
  description : Value
  created : Value
  modified : Value
  deriving DecidableEq

namespace Flow

/-- The trigger followed by the other nodes. -/
def allNodes (f : Flow) : List Node := f.trigger.toList ++ f.nodes

/-- The name of a flow within its project: its domain and its identifier. -/
def key (f : Flow) : String := f.domain.text ++ "/" ++ f.id

end Flow

end FlowGate
