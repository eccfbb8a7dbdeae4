import FlowGate.Finding
import FlowGate.Flow.Basic

/-!
# Rules for nodes

Each kind of node has one rule, which looks at the spec of the node only: a required field that is
blank is an error, a missing piece of advice a warning. The rules fall into four families, which are
run one after the other; those of the agent family are run on agent flows alone.

`Spec.wordings` lists the values that a rule reads as text, which `Node.readsTooLong` looks through
for one that has none.
-/

namespace FlowGate

inductive RuleFamily where
  | core
  | agent
  | orchestration
  | extended
  deriving DecidableEq, Repr

def NodeKind.family : NodeKind → RuleFamily
  | trigger | input | process | decision | terminal => .core
  | dataStore | serviceCall | event | loop | parallel | subFlow | llmCall => .extended
  | agentLoop | guardrail | humanGate => .agent
  | orchestrator | smartRouter | handoff | agentGroup => .orchestration

/-- What a rule has to say about a node. -/
structure Remark where
  severity : Severity
  category : Category
  message : String
  suggestion : String

namespace Remark

def error (c : Category) (message suggestion : String) : Remark := ⟨.error, c, message, suggestion⟩

def warning (c : Category) (message suggestion : String) : Remark :=
  ⟨.warning, c, message, suggestion⟩

def onlyIf (condition : Bool) (r : Remark) : List Remark := if condition then [r] else []

def issue (r : Remark) (n : Node) : Issue where
  scope := .flow
  severity := r.severity
  category := r.category
  message := r.message
  suggestion := some r.suggestion
  node := some n.id
  flow := none
  domain := .null

end Remark

namespace Spec

open Remark Category

def called (kind label : String) : String := kind ++ " \"" ++ label ++ "\""

/-- An error for a required field that is blank. -/
def required (v : Value) (message suggestion : String) : List Remark :=
  onlyIf v.isBlank (error specCompleteness message suggestion)

def inputRemarks (label : String) (s : Spec .input) : List Remark :=
  s.inputFields.flatMap fun f =>
    required f.fieldType
      (called "Input" label ++ " field \"" ++ f.fieldName.text ++ "\" is missing a type")
      "Set a type for each input field (e.g., string, number)"

def processRemarks (label : String) (s : Spec .process) : List Remark :=
  onlyIf (s.processDescription.isBlank && s.action.isBlank)
    (warning specCompleteness (called "Process" label ++ " has no description or action defined")
      "Add a description or action to clarify what this process does")

def dataStoreRemarks (label : String) (s : Spec .dataStore) : List Remark :=
  required s.operation (called "Data store" label ++ " must have an operation set")
      "Set the operation (create, read, update, or delete)"
    ++ required s.storeModel (called "Data store" label ++ " must have a model defined")
      "Set the model name (e.g., User, Order)"

def serviceCallRemarks (label : String) (s : Spec .serviceCall) : List Remark :=
  required s.method (called "Service call" label ++ " must have a method set")
      "Set the HTTP method (GET, POST, PUT, PATCH, DELETE)"
    ++ required s.url (called "Service call" label ++ " must have a URL defined")
      "Set the service URL"

def eventRemarks (label : String) (s : Spec .event) : List Remark :=
  required s.direction (called "Event" label ++ " must have a direction set")
      "Set the direction (emit or consume)"
    ++ required s.eventName (called "Event" label ++ " must have an event name defined")
      "Set the event name"

def loopRemarks (label : String) (s : Spec .loop) : List Remark :=
  required s.collection (called "Loop" label ++ " must have a collection defined")
      "Set the collection to iterate over"
    ++ required s.iterator (called "Loop" label ++ " must have an iterator variable defined")
      "Set the iterator variable name"

/-- Whether a parallel node waits for a number of branches without saying how many. -/
def lacksJoinCount (s : Spec .parallel) : Bool :=
  s.join == .str "n_of" && match s.joinCount with
    | some n => n < 1
    | none => true

def parallelRemarks (label : String) (s : Spec .parallel) : List Remark :=
  onlyIf (s.branches.length < 2)
      (error specCompleteness (called "Parallel" label ++ " must have at least 2 branches")
        "Add at least 2 branches to the parallel node")
    ++ onlyIf s.lacksJoinCount
      (error specCompleteness
        (called "Parallel" label ++ " uses n_of join but join_count is not set")
        "Set join_count to specify how many branches must complete")

def subFlowRemarks (label : String) (s : Spec .subFlow) : List Remark :=
  if s.flowRef.isBlank then
    [error specCompleteness (called "Sub-flow" label ++ " must have a flow reference defined")
      "Set the flow_ref (e.g., domain/flow-id)"]
  else
    onlyIf (!s.flowRef.text.toList.contains '/')
      (warning specCompleteness
        (called "Sub-flow" label ++ " flow_ref should be in domain/flow-id format")
        "Use the format domain/flow-id for the flow reference")

def llmCallRemarks (label : String) (s : Spec .llmCall) : List Remark :=
  required s.callModel (called "LLM call" label ++ " must have a model specified")
      "Set the model (e.g., claude-sonnet, gpt-4o)"
    ++ onlyIf s.promptTemplate.isBlank
      (warning specCompleteness (called "LLM call" label ++ " has no prompt template defined")
        "Set the prompt template with \x7b\x7bvariables\x7d\x7d for dynamic content")

/-- Whether no tool ends the loop. -/
def lacksTerminalTool (s : Spec .agentLoop) : Bool :=
  !s.tools.any fun t => t.isTerminal == some true

def agentLoopRemarks (label : String) (s : Spec .agentLoop) : List Remark :=
  (if s.tools.isEmpty then
      [error agentValidation (called "Agent loop" label ++ " has no tools defined")
        "Add at least one tool to the agent loop"]
    else
      onlyIf s.lacksTerminalTool
        (error agentValidation
          (called "Agent loop" label ++ " has no terminal tool - the agent needs a way to finish")
          "Mark at least one tool as terminal (is_terminal: true)"))
    ++ onlyIf (s.maxIterations.getD 0 == 0)
      (warning agentValidation (called "Agent loop" label ++ " has no max_iterations set")
        "Set max_iterations to prevent infinite loops")
    ++ onlyIf s.loopModel.isBlank
      (warning agentValidation (called "Agent loop" label ++ " has no LLM model specified")
        "Set the model (e.g., claude-sonnet) in the spec panel")

def orchestratorRemarks (label : String) (s : Spec .orchestrator) : List Remark :=
  onlyIf (s.agents.length < 2)
      (error orchestrationValidation
        (called "Orchestrator" label ++ " must have at least 2 agents")
        "Add agents to the orchestrator in the spec panel")
    ++ onlyIf s.strategy.isBlank
      (error orchestrationValidation
        (called "Orchestrator" label ++ " must have a strategy defined")
        "Set the strategy (supervisor, round_robin, broadcast, or consensus)")

/-- Whether a router leaves the choice of a route to a model. -/
def routesByModel (s : Spec .smartRouter) : Bool :=
  (s.llmRouting.bind Component.routingEnabled) == some true

def smartRouterRemarks (label : String) (s : Spec .smartRouter) : List Remark :=
  onlyIf (s.rules.isEmpty && !s.routesByModel)
    (error orchestrationValidation (called "Smart router" label ++ " has no rules defined")
      "Add routing rules or enable LLM routing")

def handoffRemarks (label : String) (s : Spec .handoff) : List Remark :=
  onlyIf ((s.target.map Component.targetFlow).getD .null).isBlank
    (error orchestrationValidation (called "Handoff" label ++ " must have a target flow")
      "Set the target flow in the spec panel")

/-- The remarks of the rule for a kind about a node with a label. -/
def remarks (label : String) : (k : NodeKind) → Spec k → List Remark
  | .trigger, s =>
    required s.triggerEvent "Trigger must have an event defined"
      "Set the trigger event in the spec panel"
  | .input, s => inputRemarks label s
  | .process, s => processRemarks label s
  | .decision, s =>
    required s.condition (called "Decision" label ++ " must have a condition defined")
      "Set the condition expression in the spec panel"
  | .terminal, _ => []
  | .dataStore, s => dataStoreRemarks label s
  | .serviceCall, s => serviceCallRemarks label s
  | .event, s => eventRemarks label s
  | .loop, s => loopRemarks label s
  | .parallel, s => parallelRemarks label s
  | .subFlow, s => subFlowRemarks label s
  | .llmCall, s => llmCallRemarks label s
  | .agentLoop, s => agentLoopRemarks label s
  | .guardrail, s =>
    onlyIf s.checks.isEmpty
      (warning agentValidation (called "Guardrail" label ++ " has no checks defined")
        "Add at least one check (e.g., pii_detection, content_filter)")
  | .humanGate, s =>
    onlyIf s.approvalOptions.isEmpty
      (warning agentValidation (called "Human gate" label ++ " has no approval options defined")
        "Add approval options (e.g., approve, reject) for the reviewer")
  | .orchestrator, s => orchestratorRemarks label s
  | .smartRouter, s => smartRouterRemarks label s
  | .handoff, s => handoffRemarks label s
  | .agentGroup, s =>
    onlyIf (s.members.length < 2)
      (error orchestrationValidation (called "Agent group" label ++ " must have at least 2 members")
        "Add members to the agent group in the spec panel")

/-- The values that the rule for a kind reads as text. -/
def wordings : (k : NodeKind) → Spec k → List Value
  | .trigger, s => [s.triggerEvent]
  | .input, s =>
    s.inputFields.flatMap fun f =>
      f.fieldType :: if f.fieldType.isBlank then [f.fieldName] else []
  | .process, s =>
    s.processDescription :: if s.processDescription.isBlank then [s.action] else []
  | .decision, s => [s.condition]
  | .dataStore, s => [s.operation, s.storeModel]
  | .serviceCall, s => [s.method, s.url]
  | .event, s => [s.direction, s.eventName]
  | .loop, s => [s.collection, s.iterator]
  | .subFlow, s => [s.flowRef]
  | .llmCall, s => [s.callModel, s.promptTemplate]
  | .agentLoop, s => [s.loopModel]
  | .orchestrator, s => [s.strategy]
  | .handoff, s => (s.target.map Component.targetFlow).toList
  | .terminal, _ | .parallel, _ | .guardrail, _ | .humanGate, _ | .smartRouter, _
  | .agentGroup, _ => []

end Spec

/-- Whether the rule for a node reads a value as text that is too long to have one. -/
def Node.readsTooLong (n : Node) : Bool := (n.spec.wordings n.kind).any Value.isTooLong

def Node.check (n : Node) : List Issue := (n.spec.remarks n.label n.kind).map (·.issue n)

def RuleFamily.check (family : RuleFamily) (nodes : List Node) : List Issue :=
  (nodes.filter (·.kind.family = family)).flatMap Node.check

end FlowGate
