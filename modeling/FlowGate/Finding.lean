import FlowGate.Value.Text

/-!
# Findings

An issue is one finding of a check, with the scope, severity and category it belongs to and, where
they are known, the node, flow and domain it points at. A result is the list of the issues found in
one target; it is valid if none of them is an error. A check says all this of its target. When the
result is made, each issue gets an identifier and the result a time, which stay with it: `Verdict`.
-/

namespace FlowGate

/-- Errors block a flow; warnings and infos do not. -/
inductive Severity where
  | error
  | warning
  | info
  deriving DecidableEq, Repr

namespace Severity

def name : Severity → String
  | error => "error"
  | warning => "warning"
  | info => "info"

def all : List Severity := [error, warning, info]

/-- The mark in front of an issue of a severity. -/
def tag : Severity → String
  | error => "FAIL"
  | warning => "WARN"
  | info => "INFO"

end Severity

inductive Scope where
  | flow
  | domain
  | system
  deriving DecidableEq, Repr

namespace Scope

def name : Scope → String
  | flow => "flow"
  | domain => "domain"
  | system => "system"

def all : List Scope := [flow, domain, system]

end Scope

inductive Category where
  | graphCompleteness
  | specCompleteness
  | agentValidation
  | orchestrationValidation
  | domainConsistency
  | eventWiring
  deriving DecidableEq, Repr

namespace Category

def name : Category → String
  | graphCompleteness => "graph_completeness"
  | specCompleteness => "spec_completeness"
  | agentValidation => "agent_validation"
  | orchestrationValidation => "orchestration_validation"
  | domainConsistency => "domain_consistency"
  | eventWiring => "event_wiring"

def all : List Category :=
  [graphCompleteness, specCompleteness, agentValidation, orchestrationValidation,
    domainConsistency, eventWiring]

end Category

/-- One finding of a check. A null domain is an unknown one. -/
structure Issue where
  scope : Scope
  severity : Severity
  category : Category
  message : String
  suggestion : Option String
  node : Option String
  flow : Option String
  domain : Value
  deriving DecidableEq, Repr

namespace Issue

/-- The issue with the flow and domain that it was found in; what is not known stays as it is. -/
def stamped (i : Issue) (flow : Option String) (domain : Value) : Issue :=
  { i with
    flow := flow.or i.flow
    domain := if domain = .null then i.domain else domain }

/-- The issue in words: its tag, category, node and message, and the suggestion on a second line.
Empty ones are left out. -/
def text (i : Issue) : String :=
  let place := match i.node with
    | some id => if id = "" then "" else id ++ " "
    | none => ""
  let fix := match i.suggestion with
    | some s => if s = "" then "" else "\n  Fix: " ++ s
    | none => ""
  "[" ++ i.severity.tag ++ "] " ++ i.category.name ++ ": " ++ place ++ i.message ++ fix

def known (key : String) (v : Value) : Entries :=
  if v = .null then [] else [(.str key, v)]

def report (id : String) (i : Issue) : Value :=
  .map ([(.str "id", .str id), (.str "scope", .str i.scope.name),
      (.str "severity", .str i.severity.name), (.str "category", .str i.category.name),
      (.str "message", .str i.message)]
    ++ known "suggestion" ((i.suggestion.map Value.str).getD .null)
    ++ known "nodeId" ((i.node.map Value.str).getD .null)
    ++ known "flowId" ((i.flow.map Value.str).getD .null)
    ++ known "domainId" i.domain)

end Issue

structure Result where
  scope : Scope
  target : String
  issues : List Issue
  deriving DecidableEq, Repr

namespace Result

def ofSeverity (r : Result) (s : Severity) : List Issue := r.issues.filter (·.severity = s)

def errors (r : Result) : List Issue := r.ofSeverity .error
def warnings (r : Result) : List Issue := r.ofSeverity .warning
def errorCount (r : Result) : Nat := r.errors.length
def warningCount (r : Result) : Nat := r.warnings.length
def infoCount (r : Result) : Nat := (r.ofSeverity .info).length

def isValid (r : Result) : Bool := r.errorCount == 0

end Result

/-- What a check takes from outside: an identifier for each issue of its result and the time. -/
structure Marks where
  issueId : Nat → String
  time : String

/-- The marks after some identifiers were used up. -/
def Marks.skip (marks : Marks) (n : Nat) : Marks :=
  { marks with issueId := fun i => marks.issueId (n + i) }

/-- An issue with the identifier that it got when it was made. -/
structure Notice extends Issue where
  id : String
  deriving DecidableEq, Repr

/-- A result with the time at which it was made. -/
structure Verdict where
  scope : Scope
  target : String
  notices : List Notice
  time : String
  deriving DecidableEq, Repr

namespace Verdict

/-- The result without what was taken from outside. -/
def result (v : Verdict) : Result := ⟨v.scope, v.target, v.notices.map (·.toIssue)⟩

def errorCount (v : Verdict) : Nat := v.result.errorCount
def warningCount (v : Verdict) : Nat := v.result.warningCount

def report (v : Verdict) : Value :=
  .map [(.str "scope", .str v.scope.name), (.str "targetId", .str v.target),
    (.str "issues", .list (v.notices.map fun n => n.toIssue.report n.id)),
    (.str "errorCount", .int v.errorCount), (.str "warningCount", .int v.warningCount),
    (.str "infoCount", .int v.result.infoCount), (.str "isValid", .bool v.result.isValid),
    (.str "validatedAt", .str v.time)]

end Verdict

def Result.made (marks : Marks) (r : Result) : Verdict where
  scope := r.scope
  target := r.target
  notices := r.issues.mapIdx fun i issue => { issue with id := marks.issueId i }
  time := marks.time

@[simp] theorem Result.result_made (marks : Marks) (r : Result) : (r.made marks).result = r := by
  have hissues : (r.made marks).notices.map (·.toIssue) = r.issues := by
    refine List.ext_getElem? fun i => ?_
    simp [made, Function.comp_def]
  rw [Verdict.result, hissues]
  rfl

@[simp] theorem Result.errorCount_made (marks : Marks) (r : Result) :
    (r.made marks).errorCount = r.errorCount := by
  rw [Verdict.errorCount, result_made]

/-- The mapping that reports a result as it is made. -/
def Result.report (marks : Marks) (r : Result) : Value := (r.made marks).report

theorem Result.report_eq (marks : Marks) (r : Result) : r.report marks =
    .map [(.str "scope", .str r.scope.name), (.str "targetId", .str r.target),
      (.str "issues", .list (r.issues.mapIdx fun i issue => issue.report (marks.issueId i))),
      (.str "errorCount", .int r.errorCount), (.str "warningCount", .int r.warningCount),
      (.str "infoCount", .int r.infoCount), (.str "isValid", .bool r.isValid),
      (.str "validatedAt", .str marks.time)] := by
  have hissues : (r.made marks).notices.map (fun n => n.toIssue.report n.id) =
      r.issues.mapIdx fun i issue => issue.report (marks.issueId i) := by
    refine List.ext_getElem? fun i => ?_
    simp [made, Function.comp_def]
  rw [report, Verdict.report, hissues, Verdict.errorCount, Verdict.warningCount, result_made]
  rfl

end FlowGate
