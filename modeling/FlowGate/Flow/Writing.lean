import FlowGate.Flow.Basic

/-!
# Writing flows

`Node.write` and `Flow.write` give the mappings that store a node and a flow. A handle that is null
is left out; the group of a node and the description of a flow are left out if they do not count as
given.
-/

namespace FlowGate

/-- An entry under a text key. -/
def Value.under (v : Value) (key : String) : Scalar × Value := (.str key, v)

/-- An entry under a text key, none for null. -/
def Value.unlessNull (v : Value) (key : String) : Entries :=
  if v = .null then [] else [v.under key]

/-- An entry under a text key, none for what does not count as given. -/
def Value.ifGiven (v : Value) (key : String) : Entries :=
  if v.isGiven then [v.under key] else []

def Connection.write (c : Connection) : Value :=
  .map ((Value.str c.target).under "targetNodeId" ::
    (c.sourceHandle.unlessNull "sourceHandle" ++ c.targetHandle.unlessNull "targetHandle"))

def Position.write (p : Position) : Value := .map [p.x.under "x", p.y.under "y"]

def Node.write (n : Node) : Value :=
  .map ([(Value.str n.id).under "id", (Value.str n.kind.name).under "type",
      n.position.write.under "position",
      (Value.list (n.connections.map Connection.write)).under "connections",
      n.spec.write.under "spec", (Value.str n.label).under "label"]
    ++ n.parent.ifGiven "parentId")

def Flow.writeHeader (f : Flow) : Value :=
  .map ([(Value.str f.id).under "id", f.name.under "name", (Value.str f.kind.name).under "type",
      f.domain.under "domain"]
    ++ f.description.ifGiven "description")

def Flow.write (f : Flow) : Value :=
  .map (f.writeHeader.under "flow" ::
    (f.trigger.toList.map (·.write.under "trigger")
      ++ [(Value.list (f.nodes.map Node.write)).under "nodes",
        (Value.map [f.created.under "created", f.modified.under "modified"]).under "metadata"]))

end FlowGate
