import FlowGate.Check.Fault
import FlowGate.Check.Node
import FlowGate.Graph

/-!
# Checks of flows

`Flow.check` runs all checks of a flow, in a fixed order; no finding keeps another check from
running. The graph has to start at a trigger and end at terminals: no node that can be reached is a
dead end, none is cut off, and a traditional flow has no cycle. Decisions lead on for both answers
and terminals lead nowhere. Then come the rules for the nodes, family by family. The result is named
after the flow, whose domain has to have a text for it.
-/

namespace FlowGate

def graphIssue (severity : Severity) (message suggestion : String) (node : Option Node) :
    Issue where
  scope := .flow
  severity
  category := .graphCompleteness
  message
  suggestion := some suggestion
  node := node.map (·.id)
  flow := none
  domain := .null

/-- Kinds of nodes that may have no connections: the end of a path, and nodes that fan out through
their spec. -/
def NodeKind.mayEnd : NodeKind → Bool
  | terminal | loop | parallel => true
  | _ => false

namespace Node

/-- How a graph issue names a node. -/
def described (n : Node) : String := "Node \"" ++ n.label ++ "\" (" ++ n.kind.name ++ ")"

/-- Whether a path can get stuck at a node. -/
def isDeadEnd (n : Node) : Bool := !n.kind.mayEnd && n.connections.isEmpty

/-- Whether a connection leaves a node by a handle. -/
def leavesBy (n : Node) (handle : String) : Bool :=
  n.connections.any (·.sourceHandle == .str handle)

/-- The issues about the answers of a decision. -/
def checkBranches (n : Node) : List Issue :=
  let missing (answer handle : String) : List Issue :=
    if n.leavesBy handle then []
    else
      [graphIssue .error
        ("Decision \"" ++ n.label ++ "\" is missing a \"" ++ answer ++ "\" (" ++ handle
          ++ ") branch connection")
        ("Connect the \"" ++ answer ++ "\" handle to a downstream node") (some n)]
  missing "Yes" "true" ++ missing "No" "false"

/-- The first handle of a node that cannot be compared. -/
def handleFault? (n : Node) : Option CheckFault :=
  (n.connections.find? fun c => !c.sourceHandle.isKey).map fun c => .handle c.sourceHandle

end Node

namespace Flow

def checkTrigger (f : Flow) : List Issue :=
  if f.trigger.isNone then
    [graphIssue .error "Flow must have a trigger node" "Add a trigger node to start the flow" none]
  else []

def checkEnds (f : Flow) : List Issue :=
  if f.allNodes.any (·.kind = .terminal) then
    let reachable := f.reachable
    (f.allNodes.filter fun n => n.isDeadEnd && reachable.contains n.id).map fun n =>
      graphIssue .error (n.described ++ " is a dead end with no outgoing connections")
        "Connect this node to a downstream node or terminal" (some n)
  else
    [graphIssue .error "Flow has no terminal nodes - all paths must end at a terminal"
      "Add a terminal node and connect your flow to it" none]

def checkOrphans (f : Flow) : List Issue :=
  let reachable := f.reachable
  (f.nodes.filter fun n => !reachable.contains n.id).map fun n =>
    graphIssue .error (n.described ++ " is unreachable from the trigger")
      "Connect this node to the flow graph or remove it" (some n)

def hasCycle (f : Flow) : Bool :=
  match f.trigger with
  | some t => f.graph.hasCycle t.id
  | none => false

def checkCycles (f : Flow) : List Issue :=
  if f.kind = .traditional && f.hasCycle then
    [graphIssue .error "Flow contains a circular path (cycle detected)"
      "Remove the cycle or convert to an agent flow if loops are intentional" none]
  else []

def decisions (f : Flow) : List Node := f.allNodes.filter (·.kind = .decision)

def checkDecisions (f : Flow) : Except CheckFault (List Issue) :=
  match f.decisions.findSome? Node.handleFault? with
  | some fault => .error fault
  | none => .ok (f.decisions.flatMap Node.checkBranches)

def checkTerminals (f : Flow) : List Issue :=
  (f.allNodes.filter fun n => n.kind = .terminal && !n.connections.isEmpty).map fun n =>
    graphIssue .warning
      ("Terminal \"" ++ n.label ++ "\" has outgoing connections - terminals should be endpoints")
      "Remove outgoing connections from this terminal node" (some n)

def loopIssue (severity : Severity) (message : String) (suggestion : Option String) : Issue where
  scope := .flow
  severity
  category := .agentValidation
  message
  suggestion
  node := none
  flow := none
  domain := .null

/-- An agent flow has exactly one loop: none is an error, several are a warning. -/
def checkLoopCount (f : Flow) : List Issue :=
  match (f.allNodes.filter (·.kind = .agentLoop)).length with
  | 0 =>
    [loopIssue .error "Agent flow must have exactly one agent_loop node"
      (some "Add an agent_loop node from the toolbar")]
  | 1 => []
  | n =>
    [loopIssue .warning
      ("Agent flow has " ++ toString n ++ " agent_loop nodes - typically only one is expected")
      none]

def checkAgent (f : Flow) : List Issue :=
  if f.kind = .agent then f.checkLoopCount ++ RuleFamily.agent.check f.allNodes else []

/-- The nodes whose rules are run: all but the agent nodes of a flow that is no agent flow. -/
def ruledNodes (f : Flow) : List Node :=
  f.allNodes.filter fun n => f.kind = .agent || n.kind.family ≠ .agent

def findings (f : Flow) : Except CheckFault (List Issue) := do
  let branches ← f.checkDecisions
  if f.ruledNodes.any Node.readsTooLong then throw .tooLong
  return f.checkTrigger ++ f.checkEnds ++ f.checkOrphans ++ f.checkCycles ++ branches
    ++ f.checkTerminals ++ RuleFamily.core.check f.allNodes ++ f.checkAgent
    ++ RuleFamily.orchestration.check f.allNodes ++ RuleFamily.extended.check f.allNodes

/-- The result of checking a flow; every issue carries the flow and its domain. -/
def check (f : Flow) : Except CheckFault Result := do
  let issues ← f.findings
  if f.domain.isTooLong then throw .tooLong
  return { scope := .flow, target := f.key, issues := issues.map (·.stamped (some f.id) f.domain) }

end Flow

end FlowGate
