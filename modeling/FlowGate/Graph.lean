import FlowGate.Flow.Basic
import FlowGate.Table
import FlowGate.Total

/-!
# Graphs

The graph of a flow leads from the identifier of a node to the targets of its connections. A target
need not be a node: an identifier without an entry has no edges. Of several nodes with one
identifier the last one gives the edges.

`Graph.reach` collects what can be reached from a start, and `Graph.hasCycle` searches depth first
for an edge back into the path that leads to it. Each step of either search uses up an edge, or an
identifier that was entered, so a number computed from the edges bounds their steps.
-/

namespace FlowGate

/-- The targets of the edges that leave each identifier. -/
abbrev Graph := Table (List String)

namespace Graph

def ofNodes (nodes : List Node) : Graph := Table.ofList (nodes.map fun n => (n.id, n.targets))

def targets (g : Graph) (id : String) : List String := (g.get? id).getD []

def edgeCount (g : Graph) : Nat := total List.length g.values

/-- What is reached from the identifiers still to be entered, in at most `fuel` steps. -/
def reachFrom (g : Graph) : Nat → List String → List String → List String
  | 0, visited, _ => visited
  | _, visited, [] => visited
  | fuel + 1, visited, id :: queue =>
    if visited.contains id then reachFrom g fuel visited queue
    else
      reachFrom g fuel (id :: visited)
        (queue ++ (g.targets id).filter fun t => !(id :: visited).contains t)

/-- The identifiers that can be reached from a start over any number of edges, itself among
them. -/
def reach (g : Graph) (start : String) : List String :=
  reachFrom g (g.edgeCount + 1) [] [start]

/-- Whether an edge leads back into the path, in at most `fuel` steps. The path holds the
identifiers on it, the last one first, each with the targets that were not looked at yet. -/
def cycleFrom (g : Graph) : Nat → List String → List (String × List String) → Bool
  | 0, _, _ => false
  | _, _, [] => false
  | fuel + 1, visited, (_, []) :: path => cycleFrom g fuel visited path
  | fuel + 1, visited, (id, t :: ts) :: path =>
    if t = id || (path.map Prod.fst).contains t then true
    else if visited.contains t then cycleFrom g fuel visited ((id, ts) :: path)
    else cycleFrom g fuel (t :: visited) ((t, g.targets t) :: (id, ts) :: path)

def hasCycle (g : Graph) (start : String) : Bool :=
  cycleFrom g (2 * g.edgeCount + 2) [start] [(start, g.targets start)]

end Graph

namespace Flow

def graph (f : Flow) : Graph := Graph.ofNodes f.allNodes

/-- What can be reached from the trigger; nothing without a trigger. -/
def reachable (f : Flow) : List String :=
  match f.trigger with
  | some t => f.graph.reach t.id
  | none => []

end Flow

end FlowGate
