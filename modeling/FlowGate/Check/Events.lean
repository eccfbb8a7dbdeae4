import FlowGate.Domain
import FlowGate.Finding
import FlowGate.Table

/-!
# Checks of events

The events that the domains publish are held against those that they consume. An event that is
consumed and published by no domain is an error, one that is published and consumed by none a
warning, and names in two styles side by side a warning of their own.
-/

namespace FlowGate.Events

/-- The domains that an event has owners among, for each event in the order of first occurrence. -/
abbrev EventIndex := Table (List String)

/-- The index with a domain added to the owners of an event, unless it is one of them. -/
def EventIndex.add (index : EventIndex) (domainId event : String) : EventIndex :=
  let owners := (index.get? event).getD []
  index.put event (if owners.contains domainId then owners else owners ++ [domainId])

/-- The domains that own each event, where a domain owns the events of some of its wirings. -/
def owners (wirings : Domain → List Wiring) (domains : Table Domain) : EventIndex :=
  domains.entries.foldl
    (fun index (id, d) => (wirings d).foldl (fun index w => index.add id w.event) index)
    Table.empty

def wiringIssue (severity : Severity) (message suggestion : String) : Issue where
  scope := .system
  severity
  category := .eventWiring
  message
  suggestion := some suggestion
  node := none
  flow := none
  domain := .null

/-- Whether a name has a small letter followed by a capital one. -/
def hasHump : List Char → Bool
  | a :: b :: rest => (a.isLower && b.isUpper) || hasHump (b :: rest)
  | _ => false

def usesDots (event : String) : Bool := event.toList.contains '.'

def usesHumps (event : String) : Bool := !usesDots event && hasHump event.toList

/-- A warning where some of the names use dots and others use humps. -/
def checkNaming (events : List String) : List Issue :=
  let dotted := (events.filter usesDots).length
  let humped := (events.filter usesHumps).length
  if 0 < dotted && 0 < humped then
    [wiringIssue .warning
      ("Inconsistent event naming: " ++ toString dotted ++ " use dot notation, "
        ++ toString humped ++ " use camelCase")
      "Standardize event naming across domains (prefer dot notation: domain.event.action)"]
  else []

/-- An error for each event of one index that is not in the other. -/
def checkConsumed (consumed published : EventIndex) : List Issue :=
  (consumed.entries.filter fun e => !published.contains e.1).map fun (event, consumers) =>
    wiringIssue .error
      ("Event \"" ++ event ++ "\" is consumed by " ++ ", ".intercalate consumers
        ++ " but no domain publishes it")
      "Add this event to the publishing domain or remove the consumer"

/-- A warning for each event of one index that is not in the other. -/
def checkPublished (published consumed : EventIndex) : List Issue :=
  (published.entries.filter fun e => !consumed.contains e.1).map fun (event, publishers) =>
    wiringIssue .warning
      ("Event \"" ++ event ++ "\" is published by " ++ ", ".intercalate publishers
        ++ " but no domain consumes it")
      "This event may be unused - consider adding a consumer or removing it"

/-- The events that domains publish or consume. -/
def events (domains : Table Domain) : List String :=
  let published := owners Domain.publishes domains
  published.keys
    ++ (owners Domain.consumes domains).keys.filter fun e => !published.contains e

def check (domains : Table Domain) : Result where
  scope := .system
  target := "system"
  issues :=
    let published := owners Domain.publishes domains
    let consumed := owners Domain.consumes domains
    checkConsumed consumed published ++ checkPublished published consumed
      ++ checkNaming (events domains)

end FlowGate.Events
