import FlowGate.Store

/-!
# Commands

A request comes with the route that it has taken and asks for one command. `Request.command` finds
it: the query and the body must fit the route, and the documents in the body must be well formed.
What does not is refused before the store is looked at.
-/

namespace FlowGate.Service

/-- What the service answers for, with what stands in the path. -/
inductive Route where
  | health
  | flow
  | domain (id : String)
  | system
  | gate
  | nodeIssues (domainId flowId nodeId : String)
  | results
  deriving DecidableEq, Repr

/-- A request as it is delivered, with a body or without one, and with the marks for what is made
while it is answered. -/
structure Request where
  route : Route
  query : List (String × String)
  body : Option Value
  marks : Marks

/-- How a part of a request does not fit. -/
inductive MisfitKind where
  | missing
  | notMapping
  | notBody
  deriving DecidableEq, Repr

/-- A part of a request that does not fit, and where it stands. -/
structure Misfit where
  kind : MisfitKind
  place : List String
  deriving DecidableEq, Repr

inductive Refusal where
  | misfits (parts : List Misfit)
  | document (fault : Fault)
  deriving DecidableEq, Repr

inductive Command where
  | health
  | checkFlow (f : Flow)
  | checkDomain (id : String) (domains : Table Domain)
  | checkSystem (domains : Table Domain)
  | gate (flowId domainId : String)
  | nodeIssues (domainId flowId nodeId : String)
  | reset

/-! ## Parts of requests -/

/-- The entries of a mapping that stands at a place. -/
def entriesAt (place : List String) : Value → Except (List Misfit) Entries
  | .map es => .ok es
  | _ => .error [⟨.notMapping, place⟩]

def documentsAt (place : List String) (v : Value) : Except (List Misfit) Entries := do
  let es ← entriesAt place v
  match es.filter fun e => (entriesAt [] e.2).toOption.isNone with
  | [] => return es
  | others => throw (others.map fun e => ⟨.notMapping, place ++ [e.1.text]⟩)

/-- Two parts, or what does not fit in either. -/
def bothParts {α β : Type} : Except (List Misfit) α → Except (List Misfit) β →
    Except (List Misfit) (α × β)
  | .ok a, .ok b => .ok (a, b)
  | .error ms, .ok _ => .error ms
  | .ok _, .error ns => .error ns
  | .error ms, .error ns => .error (ms ++ ns)

namespace Request

/-- The value of a parameter, of several the last one. -/
def parameter (r : Request) (name : String) : Except (List Misfit) String :=
  match r.query.reverse.lookup name with
  | some s => .ok s
  | none => .error [⟨.missing, ["query", name]⟩]

/-- The body; null is none. -/
def content (r : Request) : Except (List Misfit) Value :=
  match r.body with
  | none | some .null => .error [⟨.missing, ["body"]⟩]
  | some v => .ok v

def fields (r : Request) : Except (List Misfit) Entries := do
  match ← r.content with
  | .map es => return es
  | _ => throw [⟨.notBody, ["body"]⟩]

def documentIn (fields : Entries) (name : String) : Except (List Misfit) Value :=
  match Entries.get? fields name with
  | some v => do return .map (← entriesAt ["body", name] v)
  | none => .error [⟨.missing, ["body", name]⟩]

def documentsIn (fields : Entries) (name : String) : Except (List Misfit) Entries :=
  match Entries.get? fields name with
  | some v => documentsAt ["body", name] v
  | none => .ok []

def flowDocument (r : Request) : Except (List Misfit) Value := do
  return .map (← entriesAt ["body"] (← r.content))

/-- The document of a domain in the body, and those of all domains around it. -/
def domainDocuments (r : Request) : Except (List Misfit) (Value × Entries) := do
  let fields ← r.fields
  bothParts (documentIn fields "domain") (documentsIn fields "all_domains")

def command (r : Request) : Except Refusal Command :=
  match r.route with
  | .health => .ok .health
  | .flow => do
    let v ← r.flowDocument.mapError .misfits
    return .checkFlow (← (Flow.read v).mapError .document)
  | .domain id => do
    let (v, others) ← r.domainDocuments.mapError .misfits
    let domains ← (Domain.readTable others).mapError .document
    return .checkDomain id (domains.put id (← (Domain.read v).mapError .document))
  | .system => do
    let es ← (r.fields.bind fun fields => documentsIn fields "domains").mapError .misfits
    return .checkSystem (← (Domain.readTable es).mapError .document)
  | .gate => do
    let (flowId, domainId) ←
      (bothParts (r.parameter "flow_id") (r.parameter "domain_id")).mapError .misfits
    return .gate flowId domainId
  | .nodeIssues domainId flowId nodeId => .ok (.nodeIssues domainId flowId nodeId)
  | .results => .ok .reset

end Request

end FlowGate.Service
