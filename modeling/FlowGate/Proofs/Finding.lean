import FlowGate.Finding

/-!
# Issues without errors

A result is valid exactly if none of its issues is an error (`Result.isValid_iff`). `Faultless` says
so of a list of issues, and the lemmas take it through the ways in which checks put their issues
together.
-/

namespace FlowGate

variable {α : Type}

/-- Issues none of which is an error. -/
def Faultless (issues : List Issue) : Prop := ∀ i ∈ issues, i.severity ≠ .error

@[simp] theorem faultless_nil : Faultless [] := by simp [Faultless]

@[simp] theorem faultless_singleton (i : Issue) : Faultless [i] ↔ i.severity ≠ .error := by
  simp [Faultless]

@[simp] theorem faultless_append (is js : List Issue) :
    Faultless (is ++ js) ↔ Faultless is ∧ Faultless js := List.forall_mem_append

@[simp] theorem faultless_flatMap (xs : List α) (f : α → List Issue) :
    Faultless (xs.flatMap f) ↔ ∀ x ∈ xs, Faultless (f x) := by
  simp only [Faultless, List.mem_flatMap]
  exact ⟨fun h x hx i hi => h i ⟨x, hx, hi⟩, fun h i ⟨x, hx, hi⟩ => h x hx i hi⟩

theorem faultless_map_of_error {xs : List α} {f : α → Issue}
    (hf : ∀ x, (f x).severity = .error) : Faultless (xs.map f) ↔ xs = [] := by
  cases xs with
  | nil => simp
  | cons x xs => simp [Faultless, hf]

theorem faultless_map_of_warning {xs : List α} {f : α → Issue}
    (hf : ∀ x, (f x).severity = .warning) : Faultless (xs.map f) := by
  simp [Faultless, hf]

theorem faultless_map_stamped (issues : List Issue) (flow : Option String) (domain : Value) :
    Faultless (issues.map (·.stamped flow domain)) ↔ Faultless issues := by
  simp [Faultless, Issue.stamped]

/-- Identifiers that number the issues of a time. -/
def Marks.numbered (time : String) : Marks := ⟨fun i => time ++ "-" ++ toString i, time⟩

namespace Result

theorem errorCount_eq_zero_iff (r : Result) : r.errorCount = 0 ↔ Faultless r.issues := by
  simp [errorCount, errors, ofSeverity, Faultless, List.filter_eq_nil_iff]

theorem isValid_iff (r : Result) : r.isValid = true ↔ Faultless r.issues := by
  rw [isValid, beq_iff_eq, errorCount_eq_zero_iff]

theorem counts_of_perm {r s : Result} (h : r.issues.Perm s.issues) :
    r.errorCount = s.errorCount ∧ r.warningCount = s.warningCount ∧
      r.infoCount = s.infoCount ∧ r.isValid = s.isValid := by
  have hcount : ∀ severity, (r.ofSeverity severity).length = (s.ofSeverity severity).length :=
    fun severity => (h.filter _).length_eq
  have herrors : r.errorCount = s.errorCount := hcount .error
  exact ⟨herrors, hcount .warning, hcount .info, by rw [isValid, isValid, herrors]⟩

end Result

end FlowGate
