/-!
# Kinds of nodes and flows

The kind of a node selects the record that configures it and the rules that it is held to. A flow
is traditional, with paths that end, or an agent flow, which may go round in circles.
-/

namespace FlowGate

inductive NodeKind where
  | trigger | input | process | decision | terminal | dataStore | serviceCall | event | loop
  | parallel | subFlow | llmCall | agentLoop | guardrail | humanGate | orchestrator | smartRouter
  | handoff | agentGroup
  deriving DecidableEq, Repr

namespace NodeKind

def name : NodeKind → String
  | trigger => "trigger"
  | input => "input"
  | process => "process"
  | decision => "decision"
  | terminal => "terminal"
  | dataStore => "data_store"
  | serviceCall => "service_call"
  | event => "event"
  | loop => "loop"
  | parallel => "parallel"
  | subFlow => "sub_flow"
  | llmCall => "llm_call"
  | agentLoop => "agent_loop"
  | guardrail => "guardrail"
  | humanGate => "human_gate"
  | orchestrator => "orchestrator"
  | smartRouter => "smart_router"
  | handoff => "handoff"
  | agentGroup => "agent_group"

def all : List NodeKind :=
  [trigger, input, process, decision, terminal, dataStore, serviceCall, event, loop, parallel,
    subFlow, llmCall, agentLoop, guardrail, humanGate, orchestrator, smartRouter, handoff,
    agentGroup]

def ofName? (s : String) : Option NodeKind := all.find? (·.name == s)

@[simp] theorem ofName?_name (k : NodeKind) : ofName? k.name = some k := by cases k <;> decide

end NodeKind

inductive FlowKind where
  | traditional
  | agent
  deriving DecidableEq, Repr

namespace FlowKind

def name : FlowKind → String
  | traditional => "traditional"
  | agent => "agent"

def ofName? (s : String) : Option FlowKind := [traditional, agent].find? (·.name == s)

@[simp] theorem ofName?_name (k : FlowKind) : ofName? k.name = some k := by cases k <;> decide

end FlowKind

end FlowGate
