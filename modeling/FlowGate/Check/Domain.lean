import FlowGate.Check.Fault
import FlowGate.Domain
import FlowGate.Finding

/-!
# Checks of domains

A domain registers each flow once: every further registration of an identifier is an error. The
issue names the domain, so that the check stops if there is one and the name has no text.
-/

namespace FlowGate.Domain

def duplicateIssue (d : Domain) (id : String) : Issue where
  scope := .domain
  severity := .error
  category := .domainConsistency
  message := "Duplicate flow ID \"" ++ id ++ "\" in domain \"" ++ d.name.text ++ "\""
  suggestion := some "Rename or remove one of the flows sharing this ID"
  node := none
  flow := none
  domain := .null

/-- The identifiers of a list that occur earlier in it, given those that stand before the list. -/
def repeated (seen : List String) : List String → List String
  | [] => []
  | id :: ids => if seen.contains id then id :: repeated seen ids else repeated (id :: seen) ids

def findings (d : Domain) : List Issue := (repeated [] (d.flows.map (·.id))).map d.duplicateIssue

def check (id : String) (d : Domain) : Except CheckFault Result :=
  if d.name.isTooLong && !d.findings.isEmpty then .error .tooLong
  else .ok { scope := .domain, target := id, issues := d.findings.map (·.stamped none (.str id)) }

end FlowGate.Domain
