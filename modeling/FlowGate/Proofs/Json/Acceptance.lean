import FlowGate.Proofs.Json.Grammar

/-!
# The texts that are read

`Json.exists_read_iff`: a text is read exactly if it is JSON of the dialect that is read. A reader
takes nothing but forms of the grammar (`Takes`), since each of its steps does so if the ones that
it calls do; a form is read up to its end (`IsRead`), by induction on the form, where twice its
length bounds the steps.
-/

namespace FlowGate.Json

/-! ## What is read has its form -/

theorem mem_words_of_readWord? {cs rest : List Char} {v : Value}
    (h : readWord? cs = some (v, rest)) :
    ∃ w ∈ Dialect.accepted.words, cs = w ++ rest := by
  unfold readWord? at h
  obtain ⟨w, hw, heq⟩ := Option.map_eq_some_iff.1 h
  have hstart : w.1.isPrefixOf cs = true := by simpa using List.find?_some hw
  obtain ⟨ds, rfl⟩ := List.isPrefixOf_iff_prefix.1 hstart
  cases heq
  exact ⟨w.1, List.mem_map_of_mem (List.mem_of_find?_eq_some hw), by rw [List.drop_left]⟩

/-- Whether what a reader takes has a form of the grammar. -/
def Takes (role : Role) {α : Type} (reader : List Char → Except ReadFault (α × List Char)) : Prop :=
  ∀ cs rest v, reader cs = .ok (v, rest) → ∃ t, cs = t ++ rest ∧ Grammar .accepted role t

theorem takes_value {fuel : Nat} (hitems : ∀ acc, Takes .items (readItems fuel acc))
    (hmembers : ∀ acc, Takes .members (readMembers fuel acc)) :
    Takes .value (readValue (fuel + 1)) := by
  intro cs rest v h
  rw [readValue.eq_def] at h
  dsimp only at h
  split at h
  · next cs =>
    obtain ⟨⟨s, rest'⟩, hs, h⟩ := bind_eq_ok.1 h
    cases h
    obtain ⟨t, rfl, hbody⟩ := body_of_readString hs
    exact ⟨'"' :: (t ++ ['"']), by simp, .string hbody⟩
  · next cs =>
    obtain ⟨s, hs, hblank⟩ := exists_blank_skipSpace cs
    split at h
    · next after heq =>
      cases h
      rw [heq] at hs
      exact ⟨'[' :: (s ++ [']']), by simp [hs], .emptyList hblank⟩
    · next cs' hopen =>
      obtain ⟨t, ht, hform⟩ := hitems _ _ _ _ h
      rw [ht] at hs
      exact ⟨'[' :: (s ++ t), by simp [hs], .list hblank hform⟩
  · next cs =>
    obtain ⟨s, hs, hblank⟩ := exists_blank_skipSpace cs
    split at h
    · next after heq =>
      cases h
      rw [heq] at hs
      exact ⟨'\x7b' :: (s ++ ['\x7d']), by simp [hs], .emptyMap hblank⟩
    · next cs' hopen =>
      obtain ⟨t, ht, hform⟩ := hmembers _ _ _ _ h
      rw [ht] at hs
      exact ⟨'\x7b' :: (s ++ t), by simp [hs], .map hblank hform⟩
  · split at h
    · next found hword =>
      cases h
      obtain ⟨w, hw, hcs⟩ := mem_words_of_readWord? hword
      exact ⟨w, hcs, .word hw⟩
    · split at h
      · next cs =>
        obtain ⟨t, rfl, hnumeral⟩ := numeral_of_readNumber h
        exact ⟨['-'] ++ t, rfl, .number (by simp) hnumeral⟩
      · obtain ⟨t, rfl, hnumeral⟩ := numeral_of_readNumber h
        exact ⟨[] ++ t, rfl, .number (by simp) hnumeral⟩

theorem takes_items {fuel : Nat} (hvalue : Takes .value (readValue fuel))
    (hitems : ∀ acc, Takes .items (readItems fuel acc)) (acc : List Value) :
    Takes .items (readItems (fuel + 1) acc) := by
  intro cs rest v h
  rw [readItems.eq_def] at h
  obtain ⟨⟨w, cs'⟩, hw, hend⟩ := bind_eq_ok.1 h
  obtain ⟨t, rfl, hform⟩ := hvalue _ _ _ hw
  obtain ⟨s, hs, hbefore⟩ := exists_blank_skipSpace cs'
  dsimp only at hend
  split at hend
  · next cs'' heq =>
    obtain ⟨s', hs', hafter⟩ := exists_blank_skipSpace cs''
    obtain ⟨more, hmore, hrest⟩ := hitems _ _ _ _ hend
    rw [heq, hs', hmore] at hs
    exact ⟨t ++ (s ++ ',' :: (s' ++ more)), by simp [hs], .nextItem hform hbefore hafter hrest⟩
  · next cs'' heq =>
    cases hend
    rw [heq] at hs
    exact ⟨t ++ (s ++ [']']), by simp [hs], .lastItem hform hbefore⟩
  · cases hend

theorem takes_members {fuel : Nat} (hvalue : Takes .value (readValue fuel))
    (hmembers : ∀ acc, Takes .members (readMembers fuel acc)) (acc : List (Scalar × Value)) :
    Takes .members (readMembers (fuel + 1) acc) := by
  intro cs rest v h
  rw [readMembers.eq_def] at h
  dsimp only at h
  split at h
  · next cs =>
    obtain ⟨⟨key, cs'⟩, hkey, hcolon⟩ := bind_eq_ok.1 h
    obtain ⟨t, rfl, hbody⟩ := body_of_readString hkey
    obtain ⟨s, hs, hblank⟩ := exists_blank_skipSpace cs'
    dsimp only at hcolon
    split at hcolon
    · next cs'' heq =>
      obtain ⟨⟨w, cs₃⟩, hw, hend⟩ := bind_eq_ok.1 hcolon
      obtain ⟨u, hu, hform⟩ := hvalue _ _ _ hw
      obtain ⟨s', hs', hblank'⟩ := exists_blank_skipSpace cs''
      obtain ⟨s₃, hs₃, hbefore⟩ := exists_blank_skipSpace cs₃
      have hmember : Grammar .accepted .member _ := .member hbody hblank hblank' hform
      rw [heq, hs', hu] at hs
      dsimp only at hend
      split at hend
      · next cs₄ heq₄ =>
        obtain ⟨s₄, hs₄, hafter⟩ := exists_blank_skipSpace cs₄
        obtain ⟨more, hmore, hrest⟩ := hmembers _ _ _ _ hend
        rw [heq₄, hs₄, hmore] at hs₃
        exact ⟨_, by simp [hs, hs₃], .nextMember hmember hbefore hafter hrest⟩
      · next cs₄ heq₄ =>
        cases hend
        rw [heq₄] at hs₃
        exact ⟨_, by simp [hs, hs₃], .lastMember hmember hbefore⟩
      · cases hend
    · cases hcolon
  · cases h

/-- What is read up to some place has the form that the grammar asks for. -/
theorem takes_of_read (fuel : Nat) : Takes .value (readValue fuel) ∧
    (∀ acc, Takes .items (readItems fuel acc)) ∧ ∀ acc, Takes .members (readMembers fuel acc) := by
  induction fuel with
  | zero => exact ⟨nofun, fun _ => nofun, fun _ => nofun⟩
  | succ fuel ih =>
    obtain ⟨hvalue, hitems, hmembers⟩ := ih
    exact ⟨takes_value hitems hmembers, takes_items hvalue hitems, takes_members hvalue hmembers⟩

/-! ## What has a form is read -/

theorem mem_words {w : List Char} (h : w ∈ Dialect.accepted.words) :
    w = ['n', 'u', 'l', 'l'] ∨ w = ['t', 'r', 'u', 'e'] ∨ w = ['f', 'a', 'l', 's', 'e'] ∨
      w = ['N', 'a', 'N'] ∨ w = ['I', 'n', 'f', 'i', 'n', 'i', 't', 'y'] ∨
      w = ['-', 'I', 'n', 'f', 'i', 'n', 'i', 't', 'y'] := by
  simpa [Dialect.accepted, words] using h

/-- No form begins with a space or with what closes a list or a mapping. -/
theorem Grammar.opens {role : Role} {t : List Char} (h : Grammar .accepted role t) : Opens t := by
  induction h with
  | word mem =>
    obtain rfl | rfl | rfl | rfl | rfl | rfl := mem_words mem <;> exact .cons _ rfl (by decide)
  | @number sign cs signed numeral =>
    obtain ⟨c, cs, rfl, hdigit⟩ := numeral.exists_digit
    rw [List.mem_pair] at signed
    obtain rfl | rfl := signed
    · exact .of_isDigit hdigit cs
    · exact .cons _ rfl (by decide)
  | lastItem _ _ ih => exact ih.append _
  | nextItem _ _ _ _ ih => exact ih.append _
  | lastMember _ _ ih => exact ih.append _
  | nextMember _ _ _ _ ih => exact ih.append _
  | _ => exact .cons _ rfl (by decide)

/-- Whether a form is read up to its end, for which twice its length is steps enough. -/
def IsRead : Role → List Char → Prop
  | .value, t => ∀ fuel rest, EndsNumber rest → 2 * t.length ≤ fuel →
      ∃ v, readValue fuel (t ++ rest) = .ok (v, rest)
  | .member, t => ∀ fuel acc rest, EndsNumber rest → 2 * t.length ≤ fuel →
      ∃ e, readMembers (fuel + 1) acc (t ++ rest) =
        match skipSpace rest with
        | ',' :: rest => readMembers fuel (e :: acc) (skipSpace rest)
        | '\x7d' :: rest => .ok (.map (Entries.ofList (e :: acc).reverse), rest)
        | _ => .error .malformed
  | .items, t => ∀ fuel acc rest, 2 * t.length < fuel →
      ∃ v, readItems fuel acc (t ++ rest) = .ok (v, rest)
  | .members, t => ∀ fuel acc rest, 2 * t.length < fuel →
      ∃ v, readMembers fuel acc (t ++ rest) = .ok (v, rest)

theorem isRead_word {w : List Char} (h : w ∈ Dialect.accepted.words) : IsRead .value w := by
  intro fuel rest _ hfuel
  obtain ⟨fuel, rfl⟩ : ∃ k, fuel = k + 1 := by
    refine Nat.exists_eq_add_one_of_ne_zero ?_
    rintro rfl
    obtain rfl | rfl | rfl | rfl | rfl | rfl := mem_words h <;> simp at hfuel
  obtain rfl | rfl | rfl | rfl | rfl | rfl := mem_words h <;> exact ⟨_, rfl⟩

theorem isRead_number {sign t : List Char} (signed : sign ∈ [[], ['-']])
    (numeral : Numeral Dialect.accepted.fits t) : IsRead .value (sign ++ t) := by
  intro fuel rest hrest hfuel
  obtain ⟨c, cs, ht, hdigit⟩ := numeral.exists_digit
  obtain ⟨fuel, rfl⟩ : ∃ k, fuel = k + 1 := by
    refine Nat.exists_eq_add_one_of_ne_zero ?_
    rintro rfl
    simp [ht] at hfuel
  have hread (negative : Bool) := readNumber_numeral numeral negative hrest
  rw [ht] at hread ⊢
  rw [List.mem_pair] at signed
  obtain rfl | rfl := signed
  · show ∃ v, readValue (fuel + 1) (c :: (cs ++ rest)) = .ok (v, rest)
    rw [readValue_digit hdigit]
    exact hread false
  · show ∃ v, readValue (fuel + 1) ('-' :: c :: (cs ++ rest)) = .ok (v, rest)
    rw [readValue_minus hdigit]
    exact hread true

theorem isRead_string {t : List Char} (body : Body t) : IsRead .value ('"' :: (t ++ ['"'])) := by
  intro fuel rest _ hfuel
  simp only [List.length_cons, List.length_append, List.length_nil] at hfuel
  obtain ⟨fuel, rfl⟩ : ∃ k, fuel = k + 1 := ⟨fuel - 1, by omega⟩
  have hbody : t.length < fuel := by omega
  obtain ⟨s, hs⟩ := readString_body body hbody [] rest
  refine ⟨.str s, ?_⟩
  rw [List.cons_append, List.append_assoc, readValue]
  show (readString fuel [] (t ++ '"' :: rest) >>= _) = _
  rw [hs]
  rfl

theorem isRead_emptyList {s : List Char} (blank : Blank s) :
    IsRead .value ('[' :: (s ++ [']'])) := by
  intro fuel rest _ hfuel
  obtain ⟨fuel, rfl⟩ : ∃ k, fuel = k + 1 := ⟨fuel - 1, by simp at hfuel; omega⟩
  rw [List.cons_append, List.append_assoc, readValue, skipSpace_blank blank]
  exact ⟨_, rfl⟩

theorem isRead_emptyMap {s : List Char} (blank : Blank s) :
    IsRead .value ('\x7b' :: (s ++ ['\x7d'])) := by
  intro fuel rest _ hfuel
  obtain ⟨fuel, rfl⟩ : ∃ k, fuel = k + 1 := ⟨fuel - 1, by simp at hfuel; omega⟩
  rw [List.cons_append, List.append_assoc, readValue, skipSpace_blank blank]
  exact ⟨_, rfl⟩

theorem isRead_list {s cs : List Char} (blank : Blank s) (opens : Opens cs)
    (items : IsRead .items cs) : IsRead .value ('[' :: (s ++ cs)) := by
  intro fuel rest _ hfuel
  rw [List.length_cons, List.length_append] at hfuel
  obtain ⟨fuel, rfl⟩ : ∃ k, fuel = k + 1 := ⟨fuel - 1, by omega⟩
  obtain ⟨v, hv⟩ := items fuel [] rest (by omega)
  refine ⟨v, ?_⟩
  rw [List.cons_append, List.append_assoc, readValue, skipSpace_opens blank opens]
  cases opens with
  | cons cs solid inside =>
    split
    · next heq => exact absurd ((List.cons.inj heq).1 ▸ List.mem_cons_self) inside
    · exact hv

theorem isRead_map {s cs : List Char} (blank : Blank s) (opens : Opens cs)
    (members : IsRead .members cs) : IsRead .value ('\x7b' :: (s ++ cs)) := by
  intro fuel rest _ hfuel
  rw [List.length_cons, List.length_append] at hfuel
  obtain ⟨fuel, rfl⟩ : ∃ k, fuel = k + 1 := ⟨fuel - 1, by omega⟩
  obtain ⟨v, hv⟩ := members fuel [] rest (by omega)
  refine ⟨v, ?_⟩
  rw [List.cons_append, List.append_assoc, readValue, skipSpace_opens blank opens]
  cases opens with
  | cons cs solid inside =>
    split
    · next heq =>
      exact absurd ((List.cons.inj heq).1 ▸ List.mem_cons_of_mem _ List.mem_cons_self) inside
    · exact hv

theorem isRead_member {key s t cs : List Char} (body : Body key) (before : Blank s)
    (after : Blank t) (opens : Opens cs) (value : IsRead .value cs) :
    IsRead .member ('"' :: (key ++ '"' :: (s ++ ':' :: (t ++ cs)))) := by
  intro fuel acc rest hrest hfuel
  simp only [List.length_cons, List.length_append] at hfuel
  have hkey : key.length < fuel := by omega
  obtain ⟨k, hk⟩ := readString_body body hkey [] (s ++ ':' :: (t ++ (cs ++ rest)))
  obtain ⟨v, hv⟩ := value fuel rest hrest (by omega)
  refine ⟨(.str k, v), ?_⟩
  simp only [List.cons_append, List.append_assoc]
  rw [readMembers, hk, ok_bind]
  dsimp only
  rw [skipSpace_mark before rfl]
  show (readValue fuel (skipSpace (t ++ (cs ++ rest))) >>= _) = _
  rw [skipSpace_opens after opens, hv, ok_bind]
  rfl

theorem isRead_lastItem {cs s : List Char} (value : IsRead .value cs) (blank : Blank s) :
    IsRead .items (cs ++ (s ++ [']'])) := by
  intro fuel acc rest hfuel
  simp only [List.length_append, List.length_singleton] at hfuel
  obtain ⟨fuel, rfl⟩ : ∃ k, fuel = k + 1 := ⟨fuel - 1, by omega⟩
  obtain ⟨v, hv⟩ := value fuel (s ++ ']' :: rest)
    (blank.endsNumber (endsNumber_cons (by decide) rest)) (by omega)
  simp only [List.append_assoc, List.singleton_append]
  rw [readItems, hv, ok_bind]
  dsimp only
  rw [skipSpace_mark blank rfl]
  exact ⟨_, rfl⟩

theorem isRead_nextItem {cs s t more : List Char} (value : IsRead .value cs) (before : Blank s)
    (after : Blank t) (opens : Opens more) (items : IsRead .items more) :
    IsRead .items (cs ++ (s ++ ',' :: (t ++ more))) := by
  intro fuel acc rest hfuel
  simp only [List.length_append, List.length_cons] at hfuel
  obtain ⟨fuel, rfl⟩ : ∃ k, fuel = k + 1 := ⟨fuel - 1, by omega⟩
  obtain ⟨v, hv⟩ := value fuel (s ++ ',' :: (t ++ (more ++ rest)))
    (before.endsNumber (endsNumber_cons (by decide) _)) (by omega)
  obtain ⟨w, hw⟩ := items fuel (v :: acc) rest (by omega)
  refine ⟨w, ?_⟩
  simp only [List.append_assoc, List.cons_append]
  rw [readItems, hv, ok_bind]
  dsimp only
  rw [skipSpace_mark before rfl]
  show readItems fuel (v :: acc) (skipSpace (t ++ (more ++ rest))) = _
  rw [skipSpace_opens after opens, hw]

theorem isRead_lastMember {cs s : List Char} (member : IsRead .member cs) (blank : Blank s) :
    IsRead .members (cs ++ (s ++ ['\x7d'])) := by
  intro fuel acc rest hfuel
  simp only [List.length_append, List.length_singleton] at hfuel
  obtain ⟨fuel, rfl⟩ : ∃ k, fuel = k + 1 := ⟨fuel - 1, by omega⟩
  obtain ⟨e, he⟩ := member fuel acc (s ++ '\x7d' :: rest)
    (blank.endsNumber (endsNumber_cons (by decide) rest)) (by omega)
  simp only [List.append_assoc, List.singleton_append]
  rw [he, skipSpace_mark blank rfl]
  exact ⟨_, rfl⟩

theorem isRead_nextMember {cs s t more : List Char} (member : IsRead .member cs) (before : Blank s)
    (after : Blank t) (opens : Opens more) (members : IsRead .members more) :
    IsRead .members (cs ++ (s ++ ',' :: (t ++ more))) := by
  intro fuel acc rest hfuel
  simp only [List.length_append, List.length_cons] at hfuel
  obtain ⟨fuel, rfl⟩ : ∃ k, fuel = k + 1 := ⟨fuel - 1, by omega⟩
  obtain ⟨e, he⟩ := member fuel acc (s ++ ',' :: (t ++ (more ++ rest)))
    (before.endsNumber (endsNumber_cons (by decide) _)) (by omega)
  obtain ⟨w, hw⟩ := members fuel (e :: acc) rest (by omega)
  refine ⟨w, ?_⟩
  simp only [List.append_assoc, List.cons_append]
  rw [he, skipSpace_mark before rfl]
  show readMembers fuel (e :: acc) (skipSpace (t ++ (more ++ rest))) = _
  rw [skipSpace_opens after opens, hw]

theorem isRead_of_grammar {role : Role} {t : List Char} (h : Grammar .accepted role t) :
    IsRead role t := by
  induction h with
  | word mem => exact isRead_word mem
  | number signed numeral => exact isRead_number signed numeral
  | string body => exact isRead_string body
  | emptyList blank => exact isRead_emptyList blank
  | list blank items ih => exact isRead_list blank items.opens ih
  | emptyMap blank => exact isRead_emptyMap blank
  | map blank members ih => exact isRead_map blank members.opens ih
  | member body before after value ih => exact isRead_member body before after value.opens ih
  | lastItem value blank ih => exact isRead_lastItem ih blank
  | nextItem value before after items ihvalue ihitems =>
    exact isRead_nextItem ihvalue before after items.opens ihitems
  | lastMember member blank ih => exact isRead_lastMember ih blank
  | nextMember member before after members ihmember ihmembers =>
    exact isRead_nextMember ihmember before after members.opens ihmembers

/-! ## Whole texts -/

/-- A text is read exactly if it is one of the dialect that is read. -/
theorem exists_read_iff {cs : List Char} : (∃ v, read cs = .ok v) ↔ IsText .accepted cs := by
  unfold read
  constructor
  · rintro ⟨v, h⟩
    obtain ⟨⟨w, rest⟩, hw, hend⟩ := bind_eq_ok.1 h
    obtain ⟨s, hs, hblank⟩ := exists_blank_skipSpace cs
    obtain ⟨t, ht, hform⟩ := (takes_of_read _).1 _ _ _ hw
    dsimp only at hend
    split at hend
    · next hempty =>
      obtain ⟨u, hu, hblank'⟩ := exists_blank_skipSpace rest
      rw [List.isEmpty_iff.1 hempty, List.append_nil] at hu
      exact ⟨s, t, u, by rw [← hu, ← ht, ← hs], hblank, hblank', hform⟩
    · cases hend
  · rintro ⟨s, v, t, rfl, hbefore, hafter, hform⟩
    have hend : EndsNumber (t ++ []) := hafter.endsNumber nofun
    have hlast : skipSpace t = [] := by
      rw [← List.append_nil t, skipSpace_blank hafter]
      rfl
    rw [List.append_nil] at hend
    obtain ⟨w, hw⟩ := isRead_of_grammar hform (2 * (s ++ (v ++ t)).length + 2) t hend
      (by simp; omega)
    refine ⟨w, ?_⟩
    rw [skipSpace_opens hbefore hform.opens, hw, ok_bind]
    dsimp only
    rw [hlast]
    rfl

end FlowGate.Json
