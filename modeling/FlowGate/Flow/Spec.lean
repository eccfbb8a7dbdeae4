import FlowGate.Flow.Kind
import FlowGate.Record.Reading
import FlowGate.Record.Writing

/-!
# Node specs

The schemas of all records: `Part.fields` for the records inside a spec, `NodeKind.fields` for the
spec of each kind of node. `Component p` and `Spec k` are the records of those schemas, and the
definitions after them name the fields that the rules look at.
-/

namespace FlowGate

/-- The records that occur inside a spec. -/
inductive Part where
  | inputField | tool | guardrailCheck | approvalOption | orchestratorAgent | routerRule
  | llmRouting | handoffTarget | groupMember
  deriving DecidableEq, Repr

namespace Field

variable {P : Type}

/-- A field that is stored under its own name. -/
def plain (kind : FieldKind P) (name : String) : Field P := ⟨name, name, kind⟩

def any : String → Field P := plain .any
def integer : String → Field P := plain .integer
def number : String → Field P := plain .number
def boolean : String → Field P := plain .boolean
def texts : String → Field P := plain .texts
def one (p : P) : String → Field P := plain (.one p)
def many (p : P) : String → Field P := plain (.many p)

end Field

namespace Part

def name : Part → String
  | inputField => "InputField"
  | tool => "ToolDefinition"
  | guardrailCheck => "GuardrailCheck"
  | approvalOption => "ApprovalOption"
  | orchestratorAgent => "OrchestratorAgent"
  | routerRule => "SmartRouterRule"
  | llmRouting => "LlmRouting"
  | handoffTarget => "HandoffTarget"
  | groupMember => "AgentGroupMember"

def all : List Part :=
  [inputField, tool, guardrailCheck, approvalOption, orchestratorAgent, routerRule, llmRouting,
    handoffTarget, groupMember]

def fields : Part → List (Field Empty)
  | inputField => [.any "name", .any "type", .boolean "required"]
  | tool =>
    [.any "id", .any "name", .any "description", .any "parameters", .any "implementation",
      .boolean "is_terminal", .boolean "requires_confirmation"]
  | guardrailCheck => [.any "type", .any "action"]
  | approvalOption => [.any "id", .any "label", .any "description", .boolean "requires_input"]
  | orchestratorAgent => [.any "id", .any "flow", .any "specialization", .integer "priority"]
  | routerRule => [.any "id", .any "condition", .any "route", .integer "priority"]
  | llmRouting =>
    [.boolean "enabled", .any "model", .any "routing_prompt", .number "confidence_threshold"]
  | handoffTarget => [.any "flow", .any "domain"]
  | groupMember => [.any "flow", .any "domain"]

end Part

namespace NodeKind

def specName : NodeKind → String
  | trigger => "TriggerSpec"
  | input => "InputSpec"
  | process => "ProcessSpec"
  | decision => "DecisionSpec"
  | terminal => "TerminalSpec"
  | dataStore => "DataStoreSpec"
  | serviceCall => "ServiceCallSpec"
  | event => "EventNodeSpec"
  | loop => "LoopSpec"
  | parallel => "ParallelSpec"
  | subFlow => "SubFlowSpec"
  | llmCall => "LlmCallSpec"
  | agentLoop => "AgentLoopSpec"
  | guardrail => "GuardrailSpec"
  | humanGate => "HumanGateSpec"
  | orchestrator => "OrchestratorSpec"
  | smartRouter => "SmartRouterSpec"
  | handoff => "HandoffSpec"
  | agentGroup => "AgentGroupSpec"

def fields : NodeKind → List (Field Part)
  | trigger => [.any "event", .any "source", .any "description"]
  | input => [.many .inputField "fields", .any "validation", .any "description"]
  | process => [.any "action", .any "service", .any "description"]
  | decision =>
    [.any "condition", ⟨"true_label", "trueLabel", .any⟩, ⟨"false_label", "falseLabel", .any⟩,
      .any "description"]
  | terminal => [.any "outcome", .integer "status", .any "body", .any "description"]
  | dataStore => [.any "operation", .any "model", .any "data", .any "query", .any "description"]
  | serviceCall =>
    [.any "method", .any "url", .any "headers", .any "body", .integer "timeout_ms",
      .any "description"]
  | event =>
    [.any "direction", .any "event_name", .any "payload", ⟨"is_async", "async", .boolean⟩,
      .any "description"]
  | loop => [.any "collection", .any "iterator", .any "break_condition", .any "description"]
  | parallel =>
    [.texts "branches", .any "join", .integer "join_count", .integer "timeout_ms",
      .any "description"]
  | subFlow => [.any "flow_ref", .any "input_mapping", .any "output_mapping", .any "description"]
  | llmCall =>
    [.any "model", .any "system_prompt", .any "prompt_template", .number "temperature",
      .integer "max_tokens", .any "description"]
  | agentLoop =>
    [.any "model", .any "system_prompt", .integer "max_iterations", .number "temperature",
      .texts "stop_conditions", .many .tool "tools", .any "on_max_iterations"]
  | guardrail => [.any "position", .many .guardrailCheck "checks", .any "on_block"]
  | humanGate =>
    [.texts "notification_channels", .many .approvalOption "approval_options", .any "timeout",
      .texts "context_for_human"]
  | orchestrator =>
    [.any "strategy", .any "model", .any "supervisor_prompt", .many .orchestratorAgent "agents",
      .texts "fallback_chain", .any "result_merge_strategy"]
  | smartRouter =>
    [.many .routerRule "rules", .one .llmRouting "llm_routing", .texts "fallback_chain"]
  | handoff => [.any "mode", .one .handoffTarget "target", .boolean "notify_customer"]
  | agentGroup => [.any "name", .any "description", .many .groupMember "members"]

end NodeKind

/-- A record inside a spec; it has no parts of its own. -/
abbrev Component (p : Part) : Type := Record (fun e : Empty => nomatch e) p.fields

abbrev Spec (k : NodeKind) : Type := Record Component k.fields

instance : (e : Empty) → DecidableEq (nomatch e : Type) := nofun

instance (p : Part) : DecidableEq (Component p) := inferInstance

instance (k : NodeKind) : DecidableEq (Spec k) := inferInstance

/-- Reads the records of a component's fields: there are none. -/
def noParts : PartReader (fun e : Empty => (nomatch e : Type)) where
  name e := nomatch e
  read e := nomatch e

def Component.read (p : Part) (v : Value) : Except Fault (Component p) :=
  Record.read noParts p.name p.fields v

def Component.write (p : Part) (r : Component p) : Value :=
  Record.write (fun e => nomatch e) r

def components : PartReader Component := ⟨Part.name, Component.read⟩

def Spec.read (k : NodeKind) (v : Value) : Except Fault (Spec k) :=
  Record.read components k.specName k.fields v

def Spec.write {k : NodeKind} (s : Spec k) : Value := Record.write Component.write s

namespace Component

def fieldName (r : Component .inputField) : Value := r.row.1
def fieldType (r : Component .inputField) : Value := r.row.2.1
def isTerminal (r : Component .tool) : Option Bool := r.row.2.2.2.2.2.1
def routingEnabled (r : Component .llmRouting) : Option Bool := r.row.1
def targetFlow (r : Component .handoffTarget) : Value := r.row.1

end Component

namespace Spec

def triggerEvent (s : Spec .trigger) : Value := s.row.1
def inputFields (s : Spec .input) : List (Component .inputField) := s.row.1
def action (s : Spec .process) : Value := s.row.1
def processDescription (s : Spec .process) : Value := s.row.2.2.1
def condition (s : Spec .decision) : Value := s.row.1
def operation (s : Spec .dataStore) : Value := s.row.1
def storeModel (s : Spec .dataStore) : Value := s.row.2.1
def method (s : Spec .serviceCall) : Value := s.row.1
def url (s : Spec .serviceCall) : Value := s.row.2.1
def direction (s : Spec .event) : Value := s.row.1
def eventName (s : Spec .event) : Value := s.row.2.1
def collection (s : Spec .loop) : Value := s.row.1
def iterator (s : Spec .loop) : Value := s.row.2.1
def branches (s : Spec .parallel) : List String := s.row.1
def join (s : Spec .parallel) : Value := s.row.2.1
def joinCount (s : Spec .parallel) : Option Int := s.row.2.2.1
def flowRef (s : Spec .subFlow) : Value := s.row.1
def callModel (s : Spec .llmCall) : Value := s.row.1
def promptTemplate (s : Spec .llmCall) : Value := s.row.2.2.1
def loopModel (s : Spec .agentLoop) : Value := s.row.1
def maxIterations (s : Spec .agentLoop) : Option Int := s.row.2.2.1
def tools (s : Spec .agentLoop) : List (Component .tool) := s.row.2.2.2.2.2.1
def checks (s : Spec .guardrail) : List (Component .guardrailCheck) := s.row.2.1
def approvalOptions (s : Spec .humanGate) : List (Component .approvalOption) := s.row.2.1
def strategy (s : Spec .orchestrator) : Value := s.row.1
def agents (s : Spec .orchestrator) : List (Component .orchestratorAgent) := s.row.2.2.2.1
def rules (s : Spec .smartRouter) : List (Component .routerRule) := s.row.1
def llmRouting (s : Spec .smartRouter) : Option (Component .llmRouting) := s.row.2.1
def target (s : Spec .handoff) : Option (Component .handoffTarget) := s.row.2.1
def members (s : Spec .agentGroup) : List (Component .groupMember) := s.row.2.2.1

end Spec

end FlowGate
