import FlowGate.Log
import Mathlib.Data.List.Forall2

/-!
# Runs that may fail

What a result says about the steps that led to it, for plain results and for logged ones.
`mapM_eq_ok` pairs the items of a list with what was made of them; `Logged.foldlM_induction` carries
an invariant, which may speak of the items that were taken so far, through a run over a list.
-/

namespace FlowGate

open List (Forall₂)

variable {ε α β : Type}

theorem ok_bind (a : α) (f : α → Except ε β) : Except.ok a >>= f = f a := rfl

theorem bind_eq_ok {x : Except ε α} {f : α → Except ε β} {b : β} :
    x >>= f = .ok b ↔ ∃ a, x = .ok a ∧ f a = .ok b := by
  cases x <;> simp [bind, Except.bind]

theorem map_eq_ok {x : Except ε α} {f : α → β} {b : β} :
    x.map f = .ok b ↔ ∃ a, x = .ok a ∧ f a = b := by
  cases x <;> simp [Except.map]

theorem mapError_eq_ok {δ : Type} {x : Except ε α} {f : ε → δ} {a : α} :
    x.mapError f = .ok a ↔ x = .ok a := by
  cases x <;> simp [Except.mapError]

theorem toOption_eq_some {x : Except ε α} {a : α} : x.toOption = some a ↔ x = .ok a := by
  cases x <;> simp [Except.toOption]

theorem mapM_eq_ok {f : α → Except ε β} {xs : List α} {ys : List β} :
    xs.mapM f = .ok ys ↔ Forall₂ (fun a b => f a = .ok b) xs ys := by
  induction xs generalizing ys with
  | nil =>
    rw [List.mapM_nil, List.forall₂_nil_left_iff]
    show Except.ok [] = Except.ok ys ↔ _
    rw [Except.ok.injEq, eq_comm]
  | cons a xs ih =>
    rw [List.mapM_cons, List.forall₂_cons_left_iff, bind_eq_ok]
    constructor
    · rintro ⟨b, hb, h⟩
      obtain ⟨bs, hbs, h⟩ := bind_eq_ok.1 h
      cases h
      exact ⟨b, bs, hb, ih.1 hbs, rfl⟩
    · rintro ⟨b, bs, hb, hbs, rfl⟩
      exact ⟨b, hb, bind_eq_ok.2 ⟨bs, ih.2 hbs, rfl⟩⟩

theorem not_exists_ok (e : ε) : ¬ ∃ a : α, Except.error e = .ok a := fun ⟨_, h⟩ => nomatch h

theorem exists_map_eq_ok {x : Except ε α} {f : α → β} :
    (∃ b, x.map f = .ok b) ↔ ∃ a, x = .ok a := by
  simp only [map_eq_ok, exists_comm (α := β), exists_and_left, exists_eq', and_true]

theorem exists_bind_eq_ok {x : Except ε α} {f : α → Except ε β} :
    (∃ b, x >>= f = .ok b) ↔ ∃ a, x = .ok a ∧ ∃ b, f a = .ok b := by
  simp only [bind_eq_ok, exists_comm (α := β), exists_and_left]

theorem exists_mapM_eq_ok {f : α → Except ε β} {xs : List α} :
    (∃ ys, xs.mapM f = .ok ys) ↔ ∀ x ∈ xs, ∃ y, f x = .ok y := by
  simp only [mapM_eq_ok]
  induction xs with
  | nil => exact iff_of_true ⟨[], .nil⟩ nofun
  | cons x xs ih =>
    rw [List.forall_mem_cons, ← ih]
    constructor
    · rintro ⟨_, _ | ⟨hy, hys⟩⟩
      exact ⟨⟨_, hy⟩, _, hys⟩
    · rintro ⟨⟨y, hy⟩, ys, hys⟩
      exact ⟨y :: ys, .cons hy hys⟩

theorem exists_of_forall₂ {R : α → β → Prop} {xs : List α} {ys : List β} (h : Forall₂ R xs ys) :
    ∀ b ∈ ys, ∃ a ∈ xs, R a b := by
  induction h with
  | nil => simp
  | cons hab _ ih =>
    intro b hb
    obtain rfl | hb := List.mem_cons.1 hb
    · exact ⟨_, List.mem_cons_self, hab⟩
    · obtain ⟨a, ha, hab⟩ := ih b hb
      exact ⟨a, List.mem_cons_of_mem _ ha, hab⟩

theorem forall_iff_of_forall₂ {R : α → β → Prop} {P : α → Prop} {Q : β → Prop} {xs : List α}
    {ys : List β} (h : Forall₂ R xs ys) (hPQ : ∀ a b, R a b → (P a ↔ Q b)) :
    (∀ a ∈ xs, P a) ↔ ∀ b ∈ ys, Q b := by
  induction h with
  | nil => simp
  | cons hab _ ih => rw [List.forall_mem_cons, List.forall_mem_cons, hPQ _ _ hab, ih]

theorem exists_of_mapM {f : α → Except ε β} {xs : List α} {ys : List β} (h : xs.mapM f = .ok ys) :
    ∀ b ∈ ys, ∃ a ∈ xs, f a = .ok b :=
  exists_of_forall₂ (mapM_eq_ok.1 h)

theorem mapM_map_eq_ok {write : α → β} {read : β → Except ε α} {xs : List α}
    (h : ∀ x ∈ xs, read (write x) = .ok x) : (xs.map write).mapM read = .ok xs := by
  rw [mapM_eq_ok, List.forall₂_map_left_iff, List.forall₂_same]
  exact h

theorem mapM_map_right {γ : Type} (f : α → Except ε β) (g : β → γ) (xs : List α) :
    (xs.mapM fun a => (f a).map g) = (xs.mapM f).map (List.map g) := by
  induction xs with
  | nil => rfl
  | cons a xs ih =>
    rw [List.mapM_cons, List.mapM_cons, ih]
    cases f a with
    | error e => rfl
    | ok b => cases xs.mapM f <;> rfl

theorem mapM_congr {f g : α → Except ε β} {xs : List α} (h : ∀ x ∈ xs, f x = g x) :
    xs.mapM f = xs.mapM g := by
  induction xs with
  | nil => rfl
  | cons a xs ih =>
    obtain ⟨ha, hxs⟩ := List.forall_mem_cons.1 h
    rw [List.mapM_cons, List.mapM_cons, ha, ih hxs]

/-- Whether some item of a list has a property and all items before it have another one. -/
def ComesTo (passes stops : α → Prop) : List α → Prop
  | [] => False
  | x :: xs => stops x ∨ passes x ∧ ComesTo passes stops xs

@[simp] theorem not_comesTo_false (passes : α → Prop) (xs : List α) :
    ¬ ComesTo passes (fun _ => False) xs := by
  induction xs with
  | nil => exact id
  | cons x xs ih =>
    rintro (h | ⟨-, h⟩)
    · exact h
    · exact ih h

theorem ComesTo.exists_stops {passes stops : α → Prop} {xs : List α}
    (h : ComesTo passes stops xs) : ∃ x ∈ xs, stops x := by
  induction xs with
  | nil => exact h.elim
  | cons x xs ih =>
    obtain hx | ⟨-, hxs⟩ := h
    · exact ⟨x, List.mem_cons_self, hx⟩
    · obtain ⟨y, hy, hstops⟩ := ih hxs
      exact ⟨y, List.mem_cons_of_mem x hy, hstops⟩

theorem comesTo_and_left {passes stops : α → Prop} {p : Prop} {xs : List α} :
    ComesTo passes (fun x => p ∧ stops x) xs ↔ p ∧ ComesTo passes stops xs := by
  induction xs with
  | nil => simp [ComesTo]
  | cons x xs ih =>
    simp only [ComesTo, ih, and_or_left]
    exact or_congr_right and_left_comm

/-- Whether a result is a fault of some sort. -/
def Fails (bad : ε → Prop) (x : Except ε α) : Prop := ∃ e, x = .error e ∧ bad e

section

variable {bad : ε → Prop}

@[simp] theorem not_fails_ok (a : α) : ¬ Fails bad (.ok a) := fun ⟨_, h, _⟩ => nomatch h

@[simp] theorem fails_error (e : ε) : Fails bad (.error e : Except ε α) ↔ bad e := by
  simp [Fails]

theorem fails_bind {x : Except ε α} {f : α → Except ε β} :
    Fails bad (x >>= f) ↔ Fails bad x ∨ ∃ a, x = .ok a ∧ Fails bad (f a) := by
  cases x with
  | ok a => simp [ok_bind]
  | error e =>
    show Fails bad (.error e) ↔ _
    simp

theorem fails_map {x : Except ε α} {f : α → β} : Fails bad (x.map f) ↔ Fails bad x := by
  cases x <;> simp [Except.map]

theorem fails_mapError {δ : Type} {bad : δ → Prop} {x : Except ε α} {f : ε → δ} :
    Fails bad (x.mapError f) ↔ Fails (fun e => bad (f e)) x := by
  cases x <;> simp [Except.mapError]

/-- A run over items stops at the first one that has no result. -/
theorem fails_mapM {f : α → Except ε β} {xs : List α} :
    Fails bad (xs.mapM f) ↔ ComesTo (fun x => ∃ y, f x = .ok y) (fun x => Fails bad (f x)) xs := by
  induction xs with
  | nil =>
    rw [List.mapM_nil]
    exact iff_of_false (not_fails_ok []) id
  | cons x xs ih =>
    have hrest : ∀ y, Fails bad (xs.mapM f >>= fun ys => pure (y :: ys)) ↔
        Fails bad (xs.mapM f) := by
      intro y
      rw [fails_bind]
      exact or_iff_left fun ⟨ys, _, h⟩ => not_fails_ok (y :: ys) h
    rw [List.mapM_cons, fails_bind, ComesTo, ← ih]
    simp only [hrest, exists_and_right]

end

namespace Logged

instance : LawfulMonad (Logged ε) := .mk' _
  (fun ⟨r, log⟩ => by cases r <;> simp [Functor.map, Logged.bind])
  (fun a f => by simp [pure, bind, Logged.bind])
  (fun ⟨r, log⟩ f g => by
    cases r with
    | error e => rfl
    | ok a =>
      simp only [bind, Logged.bind]
      cases (f a).result <;> simp)

theorem result_mapError {δ : Type} (f : ε → δ) (x : Logged ε α) :
    (x.mapError f).result = x.result.mapError f := rfl

theorem result_bind_eq_ok {x : Logged ε α} {f : α → Logged ε β} {b : β} :
    (x >>= f).result = .ok b ↔ ∃ a, x.result = .ok a ∧ (f a).result = .ok b := by
  rw [result_bind]
  exact bind_eq_ok

theorem fails_result_bind {bad : ε → Prop} {x : Logged ε α} {f : α → Logged ε β} :
    Fails bad (x >>= f).result ↔
      Fails bad x.result ∨ ∃ a, x.result = .ok a ∧ Fails bad (f a).result := by
  rw [result_bind]
  exact fails_bind

/-- A run over items fails at one of them, after the ones before it were taken. -/
theorem fails_foldlM {bad : ε → Prop} {f : β → α → Logged ε β} {xs : List α} {b : β} :
    Fails bad (xs.foldlM f b).result ↔ ∃ before x after b', xs = before ++ x :: after ∧
      (before.foldlM f b).result = .ok b' ∧ Fails bad (f b' x).result := by
  induction xs generalizing b with
  | nil =>
    refine iff_of_false (not_fails_ok b) ?_
    rintro ⟨before, x, after, b', h, -⟩
    simp at h
  | cons y xs ih =>
    rw [List.foldlM_cons, fails_result_bind]
    constructor
    · rintro (h | ⟨b₁, h₁, h⟩)
      · exact ⟨[], y, xs, b, rfl, rfl, h⟩
      · obtain ⟨before, x, after, b', rfl, hrun, hstop⟩ := ih.1 h
        refine ⟨y :: before, x, after, b', rfl, ?_, hstop⟩
        rw [List.foldlM_cons, result_bind_eq_ok]
        exact ⟨b₁, h₁, hrun⟩
    · rintro ⟨before, x, after, b', hxs, hrun, hstop⟩
      cases before with
      | nil =>
        obtain ⟨rfl, rfl⟩ := List.cons.inj hxs
        cases hrun
        exact .inl hstop
      | cons z before =>
        obtain ⟨rfl, rfl⟩ := List.cons.inj hxs
        rw [List.foldlM_cons, result_bind_eq_ok] at hrun
        obtain ⟨b₁, h₁, hrun⟩ := hrun
        exact .inr ⟨b₁, h₁, ih.2 ⟨before, x, after, b', rfl, hrun, hstop⟩⟩

theorem foldlM_induction {f : β → α → Logged ε β} {xs : List α} {P : List α → β → Prop} {b b' : β}
    (h : (xs.foldlM f b).result = .ok b') (hb : P [] b)
    (hstep : ∀ before a b b', a ∈ xs → P before b → (f b a).result = .ok b' →
      P (before ++ [a]) b') : P xs b' := by
  suffices H : ∀ rest before b, before ++ rest = xs → P before b →
      (rest.foldlM f b).result = .ok b' → P xs b' from H xs [] b rfl hb h
  clear hb h
  intro rest
  induction rest with
  | nil =>
    intro before b hxs hb h
    cases h
    rw [← hxs, List.append_nil]
    exact hb
  | cons a rest ih =>
    intro before b hxs hb h
    rw [List.foldlM_cons, result_bind_eq_ok] at h
    obtain ⟨b₁, h₁, h⟩ := h
    have ha : a ∈ xs := hxs ▸ List.mem_append_right before List.mem_cons_self
    exact ih (before ++ [a]) b₁ (by simpa using hxs) (hstep before a b b₁ ha hb h₁) h

theorem result_mapM (f : α → Logged ε β) (xs : List α) :
    (xs.mapM f).result = xs.mapM fun a => (f a).result := by
  induction xs with
  | nil => rfl
  | cons a xs ih =>
    rw [List.mapM_cons, List.mapM_cons, result_bind, ← ih]
    refine congrArg ((f a).result.bind ·) (funext fun b => ?_)
    rw [result_bind]
    rfl

theorem result_mapM_eq_ok {f : α → Logged ε β} {xs : List α} {ys : List β} :
    (xs.mapM f).result = .ok ys ↔ Forall₂ (fun a b => (f a).result = .ok b) xs ys := by
  rw [result_mapM, mapM_eq_ok]

end Logged

end FlowGate
