import FlowGate.Proofs.Json.Token
import FlowGate.Proofs.Outcome
import FlowGate.Proofs.Value.Text

/-!
# Reading what was written

`Json.read_write`: a written value is read again, if it is plain and has no overlong integers. How
it is laid out over lines does not matter, since space between its parts is skipped. Twice the
length of its text is steps enough to read a value (`Reads`), and its first character shows what it
is (`Opens`); lists and mappings go through their parts in the same way (`run_joined`).
-/

namespace FlowGate

/-- Whether a value is made of what a text can give back: no numbers with a point and no dates, and
distinct texts as the keys of its mappings. -/
inductive Value.Plain : Value → Prop
  | null : Plain .null
  | bool (b : Bool) : Plain (.bool b)
  | int (n : Int) : Plain (.int n)
  | str (s : String) : Plain (.str s)
  | list {items : List Value} (parts : ∀ v ∈ items, Plain v) : Plain (.list items)
  | map {es : List (String × Value)} (distinct : (es.map Prod.fst).Nodup)
      (parts : ∀ e ∈ es, Plain e.2) : Plain (.map (es.map fun e => (.str e.1, e.2)))

namespace Json

/-! ## Space -/

theorem toList_newline (depth : Nat) :
    (newline depth).toList = '\n' :: List.replicate (2 * depth) ' ' :=
  String.toList_ofList

theorem skipSpace_of_head {c : Char} (h : isSpace c = false) (rest : List Char) :
    skipSpace (c :: rest) = c :: rest := by
  rw [skipSpace, List.dropWhile_cons, h]
  rfl

theorem skipSpace_newline (depth : Nat) (cs : List Char) :
    skipSpace ((newline depth).toList ++ cs) = skipSpace cs := by
  have hblanks (n : Nat) : skipSpace (List.replicate n ' ' ++ cs) = skipSpace cs := by
    induction n with
    | zero => rfl
    | succ n ih => exact ih
  rw [toList_newline]
  exact hblanks (2 * depth)

/-! ## Values -/

/-- What stands between two parts. -/
def gap (depth : Nat) : String := "," ++ newline depth

theorem toList_bracketed {opening closing : String} {depth : Nat} {parts : List String}
    (h : parts ≠ []) :
    (bracketed opening closing depth parts).toList =
      opening.toList ++ ((newline (depth + 1)).toList ++
        (((gap (depth + 1)).intercalate parts).toList ++
          ((newline depth).toList ++ closing.toList))) := by
  rw [bracketed, if_neg (by simpa using h)]
  simp only [String.toList_append, List.append_assoc, gap]

theorem length_bracketed {opening closing : String} {depth : Nat} {parts : List String}
    (h : parts ≠ []) (hopening : opening.length = 1) :
    ((gap (depth + 1)).intercalate parts).length + 3 ≤
      (bracketed opening closing depth parts).length := by
  have hline (d : Nat) : 1 ≤ (newline d).length := by
    rw [← String.length_toList, toList_newline]
    exact Nat.succ_pos _
  have houter := hline depth
  have hinner := hline (depth + 1)
  have htotal : (bracketed opening closing depth parts).length =
      (bracketed opening closing depth parts).toList.length := String.length_toList.symm
  rw [htotal, toList_bracketed h]
  simp only [List.length_append, String.length_toList]
  omega

/-- A text that begins with neither a space nor the end of a list or a mapping. -/
inductive Opens : List Char → Prop
  | cons {c : Char} (cs : List Char) (solid : isSpace c = false) (inside : c ∉ [']', '\x7d']) :
    Opens (c :: cs)

theorem Opens.of_isDigit {c : Char} (h : c.isDigit = true) (cs : List Char) : Opens (c :: cs) := by
  refine .cons cs ?_ ?_
  · simp only [isSpace, Bool.or_eq_false_iff, decide_eq_false_iff_not]
    exact ⟨⟨⟨ne_of_isDigit h rfl, ne_of_isDigit h rfl⟩, ne_of_isDigit h rfl⟩, ne_of_isDigit h rfl⟩
  · rw [List.mem_pair, not_or]
    exact ⟨ne_of_isDigit h rfl, ne_of_isDigit h rfl⟩

theorem Opens.append {cs : List Char} (h : Opens cs) (ds : List Char) : Opens (cs ++ ds) := by
  cases h with
  | cons cs solid inside => exact .cons _ solid inside

theorem Opens.skipSpace {cs : List Char} (h : Opens cs) (rest : List Char) :
    skipSpace (cs ++ rest) = cs ++ rest := by
  cases h with
  | cons cs solid inside => exact skipSpace_of_head solid (cs ++ rest)

theorem Opens.bracketed {opening : String} {c : Char} (h : opening.toList = [c])
    (solid : isSpace c = false) (inside : c ∉ [']', '\x7d']) (closing : String) (depth : Nat)
    (parts : List String) : Opens (bracketed opening closing depth parts).toList := by
  by_cases hparts : parts = []
  · subst hparts
    show Opens (opening ++ closing).toList
    rw [String.toList_append, h]
    exact .cons _ solid inside
  · rw [toList_bracketed hparts, h]
    exact .cons _ solid inside

theorem opens_valueText {v : Value} (h : v.Plain) (depth : Nat) :
    Opens (valueText depth v).toList := by
  cases h with
  | null =>
    show Opens "null".toList
    rw [(rfl : "null".toList = ['n', 'u', 'l', 'l'])]
    exact .cons _ rfl (by decide)
  | bool b =>
    cases b with
    | false =>
      show Opens "false".toList
      rw [(rfl : "false".toList = ['f', 'a', 'l', 's', 'e'])]
      exact .cons _ rfl (by decide)
    | true =>
      show Opens "true".toList
      rw [(rfl : "true".toList = ['t', 'r', 'u', 'e'])]
      exact .cons _ rfl (by decide)
  | int n =>
    show Opens (toString n).toList
    cases n with
    | ofNat n =>
      obtain ⟨c, cs, hcs, hc⟩ := exists_toDigits n
      show Opens (toString (n : Int)).toList
      rw [toList_toString_ofNat, hcs]
      exact .of_isDigit hc cs
    | negSucc n =>
      rw [toList_toString_negSucc]
      exact .cons _ rfl (by decide)
  | str s =>
    show Opens (stringText s).toList
    rw [toList_stringText]
    exact .cons _ rfl (by decide)
  | list parts => exact .bracketed rfl rfl (by decide) _ _ _
  | map distinct parts => exact .bracketed rfl rfl (by decide) _ _ _

/-- Whether a value is read from its text, whatever follows it. -/
def Reads (depth : Nat) (v : Value) : Prop :=
  ∀ fuel rest, EndsNumber rest → 2 * (valueText depth v).length ≤ fuel →
    readValue fuel ((valueText depth v).toList ++ rest) = .ok (v, rest)

theorem endsNumber_newline (depth : Nat) (cs : List Char) :
    EndsNumber ((newline depth).toList ++ cs) := by
  rw [toList_newline]
  exact endsNumber_cons (by decide) _

theorem one_le_length_gap (depth : Nat) : 1 ≤ (gap depth).length := by
  rw [gap, String.length_append]
  exact Nat.le_add_right 1 _

/-- The form of a member of a mapping under a text key. -/
def memberText (depth : Nat) (e : String × Value) : String :=
  stringText e.1 ++ ": " ++ valueText depth e.2

theorem itemTexts_eq_map (depth : Nat) (vs : List Value) :
    itemTexts depth vs = vs.map (valueText depth) := by
  induction vs with
  | nil => rfl
  | cons v vs ih => rw [itemTexts, List.map_cons, ih]

theorem memberTexts_eq_map (depth : Nat) (es : List (String × Value)) :
    memberTexts depth (es.map fun e => (.str e.1, e.2)) = es.map (memberText depth) := by
  induction es with
  | nil => rfl
  | cons e es ih =>
    rw [List.map_cons, memberTexts, List.map_cons, ih]
    rfl

theorem opens_memberText (depth : Nat) (e : String × Value) :
    Opens (memberText depth e).toList := by
  rw [memberText, String.append_assoc, String.toList_append, toList_stringText]
  exact .cons _ rfl (by decide)

theorem opens_intercalate {α : Type} {text : α → String} {xs : List α} (hne : xs ≠ [])
    (h : ∀ x ∈ xs, Opens (text x).toList) (separator : String) :
    Opens (separator.intercalate (xs.map text)).toList := by
  cases xs with
  | nil => exact absurd rfl hne
  | cons x xs =>
    have hx := h x List.mem_cons_self
    cases xs with
    | nil => rwa [List.map_singleton, String.intercalate_singleton]
    | cons y xs =>
      rw [List.map_cons, List.map_cons, String.intercalate_cons_cons, String.append_assoc,
        String.toList_append]
      exact hx.append _

/-- A run over parts with gaps between them takes one part after the other, if it does so with each
of them, before a gap as before the end. -/
theorem run_joined {α β γ : Type} (run : Nat → List β → List Char → γ) (item : α → β)
    (finish : List β → γ) {text : α → String} {depth : Nat} {ending : List Char} {xs : List α}
    (hne : xs ≠ []) (hopens : ∀ x ∈ xs, Opens (text x).toList)
    (hmore : ∀ x ∈ xs, ∀ fuel acc rest, 2 * (text x).length ≤ fuel →
      run (fuel + 1) acc ((text x).toList ++ ',' :: rest) =
        run fuel (item x :: acc) (skipSpace rest))
    (hlast : ∀ x ∈ xs, ∀ fuel acc, 2 * (text x).length ≤ fuel →
      run (fuel + 1) acc ((text x).toList ++ ending) = finish (item x :: acc))
    {fuel : Nat} (hfuel : 2 * ((gap depth).intercalate (xs.map text)).length < fuel)
    (acc : List β) :
    run fuel acc (((gap depth).intercalate (xs.map text)).toList ++ ending) =
      finish ((xs.map item).reverse ++ acc) := by
  induction xs generalizing fuel acc with
  | nil => exact absurd rfl hne
  | cons x xs ih =>
    obtain ⟨fuel, rfl⟩ := Nat.exists_eq_add_one_of_ne_zero (Nat.ne_zero_of_lt hfuel)
    cases xs with
    | nil =>
      rw [List.map_singleton, String.intercalate_singleton] at hfuel ⊢
      exact hlast x List.mem_cons_self fuel acc (by omega)
    | cons y ys =>
      have hnext : Opens ((gap depth).intercalate ((y :: ys).map text)).toList :=
        opens_intercalate (List.cons_ne_nil y ys)
          (fun z hz => hopens z (List.mem_cons_of_mem x hz)) _
      have hgap := one_le_length_gap depth
      have hjoined : (gap depth).intercalate ((x :: y :: ys).map text) =
          text x ++ gap depth ++ (gap depth).intercalate ((y :: ys).map text) :=
        String.intercalate_cons_cons
      have hcomma (cs : List Char) :
          (gap depth).toList ++ cs = ',' :: ((newline depth).toList ++ cs) := by
        rw [gap, String.toList_append, List.append_assoc]
        rfl
      have hitems : ((x :: y :: ys).map item).reverse ++ acc =
          ((y :: ys).map item).reverse ++ item x :: acc := by
        rw [List.map_cons, List.reverse_cons, List.append_assoc]
        rfl
      rw [hjoined, String.length_append, String.length_append] at hfuel
      rw [hjoined, String.toList_append, String.toList_append, List.append_assoc, List.append_assoc,
        hcomma, hmore x List.mem_cons_self fuel acc _ (by omega), skipSpace_newline,
        hnext.skipSpace,
        ih (List.cons_ne_nil y ys) (fun z hz => hopens z (List.mem_cons_of_mem x hz))
          (fun z hz => hmore z (List.mem_cons_of_mem x hz))
          (fun z hz => hlast z (List.mem_cons_of_mem x hz)) (by omega), hitems]

theorem readItems_texts {depth : Nat} {vs : List Value} (hne : vs ≠ [])
    (hall : ∀ v ∈ vs, v.Plain ∧ Reads depth v) {fuel : Nat}
    (hfuel : 2 * ((gap depth).intercalate (vs.map (valueText depth))).length < fuel)
    (outer : Nat) (rest : List Char) :
    readItems fuel [] (((gap depth).intercalate (vs.map (valueText depth))).toList ++
      ((newline outer).toList ++ ']' :: rest)) = .ok (.list vs, rest) := by
  rw [run_joined readItems id (fun acc => .ok (.list acc.reverse, rest)) hne
    (fun v hv => opens_valueText (hall v hv).1 depth) ?_ ?_ hfuel []]
  · rw [List.append_nil, List.reverse_reverse, List.map_id]
  · intro v hv fuel acc rest hfuel
    rw [readItems, (hall v hv).2 fuel _ (endsNumber_cons (by decide) _) hfuel, ok_bind]
    dsimp only
    rw [skipSpace_of_head rfl]
    rfl
  · intro v hv fuel acc hfuel
    rw [readItems, (hall v hv).2 fuel _ (endsNumber_newline _ _) hfuel, ok_bind]
    dsimp only
    rw [skipSpace_newline, skipSpace_of_head rfl]
    rfl

/-! ## Mappings -/

theorem insert_of_notMem {es : List (String × Value)} {k : String} (h : k ∉ es.map Prod.fst)
    (v : Value) :
    Entries.insert (es.map fun e => (.str e.1, e.2)) (.str k) v =
      (es ++ [(k, v)]).map fun e => (.str e.1, e.2) := by
  have hnew : (es.map fun e => ((.str e.1 : Scalar), e.2)).any (·.1.sameKey (.str k)) = false := by
    rw [List.any_map, List.any_eq_false]
    rintro e he hsame
    have hkey : e.1 = k := by simpa [Scalar.sameKey] using hsame
    exact h (hkey ▸ List.mem_map_of_mem he)
  rw [Entries.insert, hnew, List.map_append]
  rfl

theorem ofList_of_nodup {es : List (String × Value)} (h : (es.map Prod.fst).Nodup) :
    Entries.ofList (es.map fun e => (.str e.1, e.2)) = es.map fun e => (.str e.1, e.2) := by
  suffices H : ∀ before : List (String × Value), ((before ++ es).map Prod.fst).Nodup →
      (es.map fun e => ((.str e.1 : Scalar), e.2)).foldl (fun acc e => Entries.insert acc e.1 e.2)
        (before.map fun e => (.str e.1, e.2)) = (before ++ es).map fun e => (.str e.1, e.2) from
    H [] h
  clear h
  induction es with
  | nil => simp
  | cons e es ih =>
    intro before h
    have hnew : e.1 ∉ before.map Prod.fst := by
      rw [List.map_append, List.map_cons, List.nodup_append] at h
      exact fun he => h.2.2 e.1 he e.1 List.mem_cons_self rfl
    rw [List.map_cons, List.foldl_cons, insert_of_notMem hnew,
      ih (before ++ [e]) (by simpa using h)]
    simp

theorem toList_memberText (depth : Nat) (e : String × Value) (rest : List Char) :
    (memberText depth e).toList ++ rest =
      '"' :: (e.1.toList.flatMap escapeChar ++
        '"' :: ':' :: ' ' :: ((valueText depth e.2).toList ++ rest)) := by
  rw [memberText, String.toList_append, String.toList_append, toList_stringText]
  simp

theorem length_memberText (depth : Nat) (e : String × Value) :
    e.1.length + (valueText depth e.2).length + 4 ≤ (memberText depth e).length := by
  have hlength := length_stringText e.1
  have hmark : (": " : String).length = 2 := rfl
  rw [memberText, String.length_append, String.length_append, hmark]
  omega

theorem readMembers_member {depth fuel : Nat} {e : String × Value}
    (h : e.2.Plain ∧ Reads depth e.2) (hfuel : 2 * (memberText depth e).length ≤ fuel)
    {rest : List Char} (hrest : EndsNumber rest) (acc : List (Scalar × Value)) :
    readMembers (fuel + 1) acc ((memberText depth e).toList ++ rest) =
      match skipSpace rest with
      | ',' :: rest => readMembers fuel ((.str e.1, e.2) :: acc) (skipSpace rest)
      | '\x7d' :: rest => .ok (.map (Entries.ofList ((.str e.1, e.2) :: acc).reverse), rest)
      | _ => .error .malformed := by
  have hlength := length_memberText depth e
  have hkey : e.1.toList.length < fuel := by
    rw [String.length_toList]
    omega
  have hskip : skipSpace (' ' :: ((valueText depth e.2).toList ++ rest)) =
      (valueText depth e.2).toList ++ rest := (opens_valueText h.1 depth).skipSpace rest
  rw [toList_memberText, readMembers, readString_escaped hkey, ok_bind]
  dsimp only
  rw [skipSpace_of_head rfl]
  show (readValue fuel (skipSpace (' ' :: ((valueText depth e.2).toList ++ rest))) >>= _) = _
  rw [hskip, h.2 fuel rest hrest (by omega), ok_bind, List.reverse_nil, List.nil_append,
    String.ofList_toList]
  rfl

theorem readMembers_texts {depth : Nat} {es : List (String × Value)} (hne : es ≠ [])
    (hdistinct : (es.map Prod.fst).Nodup) (hall : ∀ e ∈ es, e.2.Plain ∧ Reads depth e.2)
    {fuel : Nat} (hfuel : 2 * ((gap depth).intercalate (es.map (memberText depth))).length < fuel)
    (outer : Nat) (rest : List Char) :
    readMembers fuel [] (((gap depth).intercalate (es.map (memberText depth))).toList ++
        ((newline outer).toList ++ '\x7d' :: rest)) =
      .ok (.map (es.map fun e => (.str e.1, e.2)), rest) := by
  rw [run_joined readMembers (fun e : String × Value => (.str e.1, e.2))
    (fun acc => .ok (.map (Entries.ofList acc.reverse), rest)) hne
    (fun e _ => opens_memberText depth e) ?_ ?_ hfuel []]
  · rw [List.append_nil, List.reverse_reverse, ofList_of_nodup hdistinct]
  · intro e he fuel acc rest hfuel
    rw [readMembers_member (hall e he) hfuel (endsNumber_cons (by decide) _),
      skipSpace_of_head rfl]
    rfl
  · intro e he fuel acc hfuel
    rw [readMembers_member (hall e he) hfuel (endsNumber_newline _ _), skipSpace_newline,
      skipSpace_of_head rfl]
    rfl

/-! ## Whole texts -/

theorem readValue_bracket {cs : List Char} (h : Opens cs) (depth fuel : Nat) (rest : List Char) :
    readValue (fuel + 1) ('[' :: ((newline depth).toList ++ (cs ++ rest))) =
      readItems fuel [] (cs ++ rest) := by
  rw [readValue, skipSpace_newline, h.skipSpace]
  cases h with
  | cons cs solid inside =>
    split
    · next heq => exact absurd ((List.cons.inj heq).1 ▸ List.mem_cons_self) inside
    · rfl

theorem readValue_brace {cs : List Char} (h : Opens cs) (depth fuel : Nat) (rest : List Char) :
    readValue (fuel + 1) ('\x7b' :: ((newline depth).toList ++ (cs ++ rest))) =
      readMembers fuel [] (cs ++ rest) := by
  rw [readValue, skipSpace_newline, h.skipSpace]
  cases h with
  | cons cs solid inside =>
    split
    · next heq =>
      exact absurd ((List.cons.inj heq).1 ▸ List.mem_cons_of_mem _ List.mem_cons_self) inside
    · rfl

/-- The text of a value is not empty, so that there is a step to take. -/
theorem reads_of_step {depth : Nat} {v : Value} (h : v.Plain)
    (hstep : ∀ fuel rest, EndsNumber rest → 2 * (valueText depth v).length ≤ fuel + 1 →
      readValue (fuel + 1) ((valueText depth v).toList ++ rest) = .ok (v, rest)) :
    Reads depth v := by
  intro fuel rest hrest hfuel
  have hpos : 0 < (valueText depth v).length := by
    have hopens := opens_valueText h depth
    rw [← String.length_toList]
    generalize (valueText depth v).toList = cs at hopens ⊢
    cases hopens with
    | cons cs => exact Nat.succ_pos cs.length
  obtain ⟨fuel, rfl⟩ : ∃ k, fuel = k + 1 := ⟨fuel - 1, by omega⟩
  exact hstep fuel rest hrest hfuel

theorem readValue_null (fuel : Nat) (rest : List Char) :
    readValue (fuel + 1) ("null".toList ++ rest) = .ok (.null, rest) := by
  rw [(rfl : "null".toList = ['n', 'u', 'l', 'l'])]
  rfl

theorem readValue_bool (b : Bool) (fuel : Nat) (rest : List Char) :
    readValue (fuel + 1) ((if b then "true" else "false" : String).toList ++ rest) =
      .ok (.bool b, rest) := by
  cases b with
  | false =>
    rw [if_neg Bool.false_ne_true, (rfl : "false".toList = ['f', 'a', 'l', 's', 'e'])]
    rfl
  | true =>
    rw [if_pos rfl, (rfl : "true".toList = ['t', 'r', 'u', 'e'])]
    rfl

theorem readValue_str {s : String} {fuel : Nat} (h : 2 * (stringText s).length ≤ fuel + 1)
    (rest : List Char) :
    readValue (fuel + 1) ((stringText s).toList ++ rest) = .ok (.str s, rest) := by
  have hlength := length_stringText s
  have hchars : s.toList.length < fuel := by
    rw [String.length_toList]
    omega
  rw [toList_stringText, List.cons_append, List.append_assoc, readValue]
  show (readString fuel [] (s.toList.flatMap escapeChar ++ '"' :: rest) >>= _) = _
  rw [readString_escaped hchars, ok_bind, List.reverse_nil, List.nil_append,
    String.ofList_toList]
  rfl

theorem reads_list {depth : Nat} {items : List Value}
    (hall : ∀ v ∈ items, v.Plain ∧ Reads (depth + 1) v) : Reads depth (.list items) := by
  refine reads_of_step (.list fun v hv => (hall v hv).1) fun fuel rest _ hfuel => ?_
  have hform : valueText depth (.list items) =
      bracketed "[" "]" depth (items.map (valueText (depth + 1))) :=
    congrArg (bracketed "[" "]" depth) (itemTexts_eq_map (depth + 1) items)
  rw [hform] at hfuel ⊢
  by_cases hne : items = []
  · subst hne
    show readValue (fuel + 1) ("[]".toList ++ rest) = _
    rw [(rfl : "[]".toList = ['[', ']'])]
    rfl
  · have hparts : items.map (valueText (depth + 1)) ≠ [] := by simpa using hne
    have hlength : ((gap (depth + 1)).intercalate (items.map (valueText (depth + 1)))).length + 3 ≤
        (bracketed "[" "]" depth (items.map (valueText (depth + 1)))).length :=
      length_bracketed hparts rfl
    have hopens :
        Opens ((gap (depth + 1)).intercalate (items.map (valueText (depth + 1)))).toList :=
      opens_intercalate hne (fun v hv => opens_valueText (hall v hv).1 (depth + 1)) _
    rw [toList_bracketed hparts]
    simp only [List.append_assoc]
    show readValue (fuel + 1) ('[' :: (_ ++ (_ ++ (_ ++ ']' :: rest)))) = _
    rw [readValue_bracket hopens]
    exact readItems_texts hne hall (by omega) depth rest

theorem reads_map {depth : Nat} {es : List (String × Value)} (hdistinct : (es.map Prod.fst).Nodup)
    (hall : ∀ e ∈ es, e.2.Plain ∧ Reads (depth + 1) e.2) :
    Reads depth (.map (es.map fun e => (.str e.1, e.2))) := by
  refine reads_of_step (.map hdistinct fun e he => (hall e he).1) fun fuel rest _ hfuel => ?_
  have hform : valueText depth (.map (es.map fun e => (.str e.1, e.2))) =
      bracketed "\x7b" "\x7d" depth (es.map (memberText (depth + 1))) :=
    congrArg (bracketed "\x7b" "\x7d" depth) (memberTexts_eq_map (depth + 1) es)
  rw [hform] at hfuel ⊢
  by_cases hne : es = []
  · subst hne
    show readValue (fuel + 1) ("\x7b\x7d".toList ++ rest) = _
    rw [(rfl : "\x7b\x7d".toList = ['\x7b', '\x7d'])]
    rfl
  · have hparts : es.map (memberText (depth + 1)) ≠ [] := by simpa using hne
    have hlength : ((gap (depth + 1)).intercalate (es.map (memberText (depth + 1)))).length + 3 ≤
        (bracketed "\x7b" "\x7d" depth (es.map (memberText (depth + 1)))).length :=
      length_bracketed hparts rfl
    have hopens : Opens ((gap (depth + 1)).intercalate (es.map (memberText (depth + 1)))).toList :=
      opens_intercalate hne (fun e _ => opens_memberText (depth + 1) e) _
    rw [toList_bracketed hparts]
    simp only [List.append_assoc]
    show readValue (fuel + 1) ('\x7b' :: (_ ++ (_ ++ (_ ++ '\x7d' :: rest)))) = _
    rw [readValue_brace hopens]
    exact readMembers_texts hne hdistinct hall (by omega) depth rest

/-- Words, numbers and strings take one step, lists and mappings one step more than what they
hold. -/
theorem reads_of_plain {v : Value} (h : v.Plain) (htext : v.HasText) (depth : Nat) :
    Reads depth v := by
  induction h generalizing depth with
  | null => exact reads_of_step .null fun fuel rest _ _ => readValue_null fuel rest
  | bool b => exact reads_of_step (.bool b) fun fuel rest _ _ => readValue_bool b fuel rest
  | int n =>
    exact reads_of_step (.int n) fun fuel rest hrest _ =>
      readValue_int (Value.hasText_int.1 htext) fuel hrest
  | str s => exact reads_of_step (.str s) fun fuel rest _ hfuel => readValue_str hfuel rest
  | @list items parts ih =>
    have htexts := (Value.hasText_list items).1 htext
    exact reads_list fun v hv => ⟨parts v hv, ih v hv (htexts v hv) (depth + 1)⟩
  | @map es distinct parts ih =>
    have htexts := (Value.hasText_map _).1 htext
    exact reads_map distinct fun e he =>
      ⟨parts e he, ih e he (htexts _ (List.mem_map_of_mem he)).2 (depth + 1)⟩

/-- A plain value without overlong integers is what is read from its written form. -/
theorem read_write {v : Value} (h : v.Plain) (htext : v.HasText) :
    read (write v ++ "\n").toList = .ok v := by
  have hread := reads_of_plain h htext 0
  have hend : EndsNumber "\n".toList := endsNumber_cons (by decide) []
  unfold read write
  rw [String.toList_append, (opens_valueText h 0).skipSpace, hread _ _ hend, ok_bind]
  · rfl
  · rw [List.length_append, String.length_toList]
    omega

end Json

end FlowGate
