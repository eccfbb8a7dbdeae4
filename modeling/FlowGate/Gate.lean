import FlowGate.Finding
import FlowGate.Total

/-!
# The gate

The gate is open for a flow while the latest results of the flow, of its domain and of the system
hold no error. A result that is missing counts as one without issues.
-/

namespace FlowGate

/-- The results that a gate looks at. -/
structure Gate where
  flow : Option Verdict
  domain : Option Verdict
  system : Option Verdict
  deriving DecidableEq, Repr

namespace Gate

def results (g : Gate) : List Verdict := g.flow.toList ++ g.domain.toList ++ g.system.toList

def totalErrors (g : Gate) : Nat := total Verdict.errorCount g.results

def totalWarnings (g : Gate) : Nat := total Verdict.warningCount g.results

def canImplement (g : Gate) : Bool := g.totalErrors == 0

def hasWarnings (g : Gate) : Bool := 0 < g.totalWarnings

theorem canImplement_iff (g : Gate) :
    g.canImplement = true ↔ ∀ r ∈ g.results, r.errorCount = 0 := by
  simp [canImplement, totalErrors, total_eq_zero_iff]

theorem hasWarnings_iff (g : Gate) :
    g.hasWarnings = true ↔ ∃ r ∈ g.results, 0 < r.warningCount := by
  simp [hasWarnings, totalWarnings, total_pos_iff]

def report (g : Gate) : Value :=
  let part (r : Option Verdict) : Value := (r.map Verdict.report).getD .null
  .map [(.str "flowValidation", part g.flow), (.str "domainValidation", part g.domain),
    (.str "systemValidation", part g.system), (.str "canImplement", .bool g.canImplement),
    (.str "hasWarnings", .bool g.hasWarnings)]

end Gate

end FlowGate
