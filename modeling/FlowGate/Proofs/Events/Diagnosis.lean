import FlowGate.Proofs.Events.Index
import FlowGate.Proofs.Firsts
import Mathlib.Data.Set.Card

/-!
# What is said of the events of a project

`Events.diagnosis_of_check` lists the issues of a check of the system in full: which events they are
about, in which order, which domains they name, and when the styles of names are worth a warning.
The counts depend on what is published and consumed alone, not on where it is declared.

An index goes through the wirings of one domain after the other. `Indexed` says where it stands
after some domains: it knows the events declared so far, each at its first occurrence (`firsts`),
and for each of them the domains that declare it (`ownersIn`).
-/

namespace FlowGate

namespace Events

variable {wirings : Domain → List Wiring} {domains domains' : Table Domain} {event : String}

/-! ## What is declared -/

/-- The events among the wirings of some domains, in the order in which they stand there. -/
def declaredIn (wirings : Domain → List Wiring) (es : List (String × Domain)) : List String :=
  es.flatMap fun e => (wirings e.2).map (·.event)

/-- Those of some domains that have an event among their wirings. -/
def ownersIn (wirings : Domain → List Wiring) (es : List (String × Domain)) (event : String) :
    List String :=
  (es.filter fun e => (wirings e.2).any (·.event = event)).map Prod.fst

theorem mem_declaredIn : event ∈ declaredIn wirings domains.entries ↔
    Occurs wirings domains event := by
  simp only [declaredIn, List.mem_flatMap, List.mem_map, Occurs, Table.values,
    exists_exists_and_eq_and]

/-! ## The index -/

/-- Where an index stands after some domains. -/
structure Indexed (wirings : Domain → List Wiring) (es : List (String × Domain))
    (index : EventIndex) : Prop where
  keys : index.keys = firsts (declaredIn wirings es)
  owners : ∀ event, (index.get? event).getD [] = ownersIn wirings es event

theorem keys_add (index : EventIndex) (id added : String) :
    (index.add id added).keys = appendNew index.keys added := Table.keys_put ..

theorem owners_add (index : EventIndex) (id added : String) :
    ((index.add id added).get? event).getD [] =
      if event = added then appendNew ((index.get? event).getD []) id
      else (index.get? event).getD [] := by
  rw [EventIndex.add, Table.get?_put]
  split
  · next h =>
    subst h
    simp [appendNew]
  · rfl

theorem keys_addAll (index : EventIndex) (id : String) (ws : List Wiring) :
    (ws.foldl (fun index w => index.add id w.event) index).keys =
      (ws.map (·.event)).foldl appendNew index.keys := by
  induction ws generalizing index with
  | nil => rfl
  | cons w ws ih => rw [List.foldl_cons, ih, keys_add, List.map_cons, List.foldl_cons]

theorem owners_addAll (index : EventIndex) (id : String) (ws : List Wiring) :
    ((ws.foldl (fun index w => index.add id w.event) index).get? event).getD [] =
      if ws.any (·.event = event) then appendNew ((index.get? event).getD []) id
      else (index.get? event).getD [] := by
  induction ws generalizing index with
  | nil => rfl
  | cons w ws ih =>
    rw [List.foldl_cons, ih, owners_add, List.any_cons]
    by_cases hw : w.event = event
    · simp [hw, appendNew_appendNew]
    · simp [hw, Ne.symm hw]

theorem Indexed.add {es : List (String × Domain)} {index : EventIndex} {id : String} {d : Domain}
    (h : Indexed wirings es index) (hid : id ∉ es.map Prod.fst) :
    Indexed wirings (es ++ [(id, d)])
      ((wirings d).foldl (fun index w => index.add id w.event) index) where
  keys := by
    have hdeclared : declaredIn wirings (es ++ [(id, d)]) =
        declaredIn wirings es ++ (wirings d).map (·.event) := by simp [declaredIn]
    rw [keys_addAll, hdeclared, firsts_append, h.keys]
  owners event := by
    have hnew : id ∉ ownersIn wirings es event := fun hmem =>
      hid ((List.filter_sublist.map Prod.fst).subset hmem)
    rw [owners_addAll, h.owners, appendNew, if_neg hnew]
    unfold ownersIn
    rw [List.filter_append, List.map_append]
    split
    · next hw => simp [hw]
    · next hw => simp [hw]

theorem indexed_owners (wirings : Domain → List Wiring) (domains : Table Domain) :
    Indexed wirings domains.entries (owners wirings domains) := by
  have hfold : ∀ es : List (String × Domain), (es.map Prod.fst).Nodup →
      Indexed wirings es (es.foldl (fun index e =>
        (wirings e.2).foldl (fun index w => index.add e.1 w.event) index) Table.empty) := by
    intro es
    induction es using List.reverseRecOn with
    | nil => exact fun _ => ⟨rfl, fun _ => rfl⟩
    | append_singleton es e ih =>
      intro hnodup
      rw [List.map_append, List.map_singleton, ← List.concat_eq_append, List.nodup_concat] at hnodup
      rw [List.foldl_append]
      exact (ih hnodup.2).add hnodup.1
  exact hfold domains.entries domains.nodup

/-- The index of the owners of all events. -/
theorem entries_owners (wirings : Domain → List Wiring) (domains : Table Domain) :
    (owners wirings domains).entries = (firsts (declaredIn wirings domains.entries)).map
      fun event => (event, ownersIn wirings domains.entries event) := by
  have h := indexed_owners wirings domains
  rw [← h.keys, Table.keys, List.map_map]
  refine (List.map_id _).symm.trans (List.map_congr_left fun e he => ?_)
  have hget : (owners wirings domains).get? e.1 = some e.2 := (Table.get?_eq_some_iff ..).2 he
  have howners := h.owners e.1
  rw [hget] at howners
  exact Prod.ext rfl howners

/-! ## The issues about wiring -/

/-- Some events, each once, in the order in which they are first declared. -/
structure Lists (wirings : Domain → List Wiring) (domains : Table Domain) (p : String → Prop)
    (events : List String) : Prop where
  mem_iff : ∀ event, event ∈ events ↔ Occurs wirings domains event ∧ p event
  ordered : events.Pairwise fun a b =>
    (declaredIn wirings domains.entries).idxOf a < (declaredIn wirings domains.entries).idxOf b

theorem Lists.nodup {p : String → Prop} {events : List String}
    (h : Lists wirings domains p events) : events.Nodup :=
  h.ordered.imp fun hab => by
    rintro rfl
    exact Nat.lt_irrefl _ hab

theorem contains_owners (wirings : Domain → List Wiring) (domains : Table Domain)
    (event : String) :
    (!(owners wirings domains).contains event) = true ↔ ¬ Occurs wirings domains event := by
  rw [Bool.not_eq_true', ← Bool.not_eq_true, Table.contains_iff, mem_keys_owners]

/-- The events of one kind of wirings that do not occur in another kind, read off the indexes. -/
theorem lists_missing (wirings others : Domain → List Wiring) (domains : Table Domain) :
    Lists wirings domains (¬ Occurs others domains ·)
      ((firsts (declaredIn wirings domains.entries)).filter
        fun event => !(owners others domains).contains event) where
  mem_iff event := by
    rw [List.mem_filter, mem_firsts, mem_declaredIn, contains_owners]
  ordered := (pairwise_firsts _).filter _

/-- The error of an event that no domain publishes: it names the domains that consume it. -/
def unpublished (domains : Table Domain) (event : String) : Issue :=
  wiringIssue .error
    ("Event \"" ++ event ++ "\" is consumed by "
      ++ ", ".intercalate (ownersIn Domain.consumes domains.entries event)
      ++ " but no domain publishes it")
    "Add this event to the publishing domain or remove the consumer"

/-- The warning about an event that no domain consumes: it names the domains that publish it. -/
def unconsumed (domains : Table Domain) (event : String) : Issue :=
  wiringIssue .warning
    ("Event \"" ++ event ++ "\" is published by "
      ++ ", ".intercalate (ownersIn Domain.publishes domains.entries event)
      ++ " but no domain consumes it")
    "This event may be unused - consider adding a consumer or removing it"

/-- The issues about wiring, each kind of them in the order in which the events are declared. -/
theorem exists_issues (domains : Table Domain) : ∃ missing unused,
    Lists Domain.consumes domains (¬ Occurs Domain.publishes domains ·) missing ∧
    Lists Domain.publishes domains (¬ Occurs Domain.consumes domains ·) unused ∧
    (check domains).issues = missing.map (unpublished domains) ++ unused.map (unconsumed domains)
      ++ checkNaming (events domains) := by
  refine ⟨_, _, lists_missing Domain.consumes Domain.publishes domains,
    lists_missing Domain.publishes Domain.consumes domains, ?_⟩
  unfold check checkConsumed checkPublished
  dsimp only
  rw [entries_owners, entries_owners, List.filter_map, List.filter_map, List.map_map, List.map_map]
  rfl

/-! ## The styles of names -/

def Dotted (event : String) : Prop := '.' ∈ event.toList

/-- A name without dots in which a small letter stands right before a capital one. -/
def Humped (event : String) : Prop :=
  '.' ∉ event.toList ∧ ∃ before a b after, event.toList = before ++ a :: b :: after ∧
    ('a' ≤ a ∧ a ≤ 'z') ∧ ('A' ≤ b ∧ b ≤ 'Z')

def InUse (domains : Table Domain) (event : String) : Prop :=
  Occurs Domain.publishes domains event ∨ Occurs Domain.consumes domains event

theorem usesDots_iff : usesDots event = true ↔ Dotted event := List.contains_iff_mem

theorem hasHump_iff (cs : List Char) : hasHump cs = true ↔
    ∃ before a b after, cs = before ++ a :: b :: after ∧ ('a' ≤ a ∧ a ≤ 'z') ∧
      ('A' ≤ b ∧ b ≤ 'Z') := by
  have hlower : ∀ c : Char, c.isLower = true ↔ 'a' ≤ c ∧ c ≤ 'z' := fun c =>
    Bool.and_eq_true_iff.trans (and_congr decide_eq_true_iff decide_eq_true_iff)
  have hupper : ∀ c : Char, c.isUpper = true ↔ 'A' ≤ c ∧ c ≤ 'Z' := fun c => decide_eq_true_iff
  fun_induction hasHump cs with
  | case1 a b rest ih =>
    rw [Bool.or_eq_true, Bool.and_eq_true, hlower, hupper]
    refine (or_congr_right ih).trans ?_
    constructor
    · rintro (h | ⟨before, c, d, after, hrest, h⟩)
      · exact ⟨[], a, b, rest, rfl, h⟩
      · exact ⟨a :: before, c, d, after, by rw [hrest, List.cons_append], h⟩
    · rintro ⟨before, c, d, after, hcs, h⟩
      cases before with
      | nil =>
        cases hcs
        exact .inl h
      | cons x before =>
        obtain ⟨rfl, hrest⟩ := List.cons.inj hcs
        exact .inr ⟨before, c, d, after, hrest, h⟩
  | case2 cs hshort =>
    refine iff_of_false Bool.false_ne_true ?_
    rintro ⟨before, a, b, after, rfl, -⟩
    cases before with
    | nil => exact hshort a b after rfl
    | cons x before =>
      cases before with
      | nil => exact hshort x a (b :: after) rfl
      | cons y before => exact hshort x y (before ++ a :: b :: after) rfl

theorem usesHumps_iff : usesHumps event = true ↔ Humped event := by
  rw [usesHumps, Bool.and_eq_true, Bool.not_eq_true', ← Bool.not_eq_true, usesDots_iff, hasHump_iff]
  rfl

theorem mem_events : event ∈ events domains ↔ InUse domains event := by
  simp only [events, List.mem_append, List.mem_filter, mem_keys_owners, contains_owners, InUse]
  tauto

theorem nodup_events (domains : Table Domain) : (events domains).Nodup := by
  refine List.nodup_append.2 ⟨(owners _ domains).nodup, (owners _ domains).nodup.filter _, ?_⟩
  rintro event hpublished _ hconsumed rfl
  have hnot := (contains_owners ..).1 (List.mem_filter.1 hconsumed).2
  exact hnot (mem_keys_owners.1 hpublished)

theorem ncard_eq_length {xs : List String} (hxs : xs.Nodup) {p : String → Prop}
    (hp : ∀ x, x ∈ xs ↔ p x) : {x | p x}.ncard = xs.length := by
  have hset : {x | p x} = (xs.toFinset : Set String) := by
    ext x
    simp [hp]
  rw [hset, Set.ncard_coe_finset, List.toFinset_card_of_nodup hxs]

def Mixed (domains : Table Domain) : Prop :=
  (∃ event, InUse domains event ∧ Dotted event) ∧ ∃ event, InUse domains event ∧ Humped event

/-- The warning about names in two styles, with the numbers of names in each. -/
def mixedNaming (dotted humped : Nat) : Issue :=
  wiringIssue .warning
    ("Inconsistent event naming: " ++ toString dotted ++ " use dot notation, " ++ toString humped
      ++ " use camelCase")
    "Standardize event naming across domains (prefer dot notation: domain.event.action)"

theorem ncard_inUse (domains : Table Domain) {p : String → Prop} {test : String → Bool}
    (htest : ∀ event, test event = true ↔ p event) :
    {event | InUse domains event ∧ p event}.ncard = ((events domains).filter test).length :=
  ncard_eq_length ((nodup_events domains).filter _) fun event => by
    rw [List.mem_filter, mem_events, htest]

theorem length_filter_events_pos (domains : Table Domain) {p : String → Prop}
    {test : String → Bool} (htest : ∀ event, test event = true ↔ p event) :
    0 < ((events domains).filter test).length ↔ ∃ event, InUse domains event ∧ p event := by
  rw [List.length_pos_iff_exists_mem]
  simp only [List.mem_filter, mem_events, htest]

theorem checkNaming_events (domains : Table Domain) :
    Mixed domains ∧ checkNaming (events domains) =
        [mixedNaming {event | InUse domains event ∧ Dotted event}.ncard
          {event | InUse domains event ∧ Humped event}.ncard] ∨
      ¬ Mixed domains ∧ checkNaming (events domains) = [] := by
  have hmixed : (decide (0 < ((events domains).filter usesDots).length) &&
      decide (0 < ((events domains).filter usesHumps).length)) = true ↔ Mixed domains := by
    rw [Bool.and_eq_true, decide_eq_true_eq, decide_eq_true_eq,
      length_filter_events_pos domains fun _ => usesDots_iff,
      length_filter_events_pos domains fun _ => usesHumps_iff]
    rfl
  rw [ncard_inUse domains fun _ => usesDots_iff, ncard_inUse domains fun _ => usesHumps_iff,
    ← hmixed]
  unfold checkNaming
  dsimp only
  split
  · next h => exact .inl ⟨h, rfl⟩
  · next h => exact .inr ⟨h, rfl⟩

/-! ## The whole diagnosis -/

theorem length_filter_severity {F : String → Issue} {severity : Severity}
    (hF : ∀ x, (F x).severity = severity) (xs : List String) (s : Severity) :
    ((xs.map F).filter (·.severity = s)).length = if severity = s then xs.length else 0 := by
  rw [List.filter_map, List.length_map]
  split
  · next hs => rw [List.filter_eq_self.2 fun x _ => by simp [hF, hs]]
  · next hs => rw [List.filter_eq_nil_iff.2 fun x _ => by simp [hF, hs], List.length_nil]

theorem counts_of_issues {missing unused : List String} {naming : List Issue}
    (hissues : (check domains).issues =
      missing.map (unpublished domains) ++ unused.map (unconsumed domains) ++ naming)
    (hnaming : ∀ i ∈ naming, i.severity = .warning) :
    (check domains).errorCount = missing.length ∧
      (check domains).warningCount = unused.length + naming.length := by
  have hmissing := length_filter_severity (F := unpublished domains) (fun _ => rfl) missing
  have hunused := length_filter_severity (F := unconsumed domains) (fun _ => rfl) unused
  have herrors : naming.filter (·.severity = .error) = [] :=
    List.filter_eq_nil_iff.2 fun i hi => by simp [hnaming i hi]
  have hwarnings : naming.filter (·.severity = .warning) = naming :=
    List.filter_eq_self.2 fun i hi => by simp [hnaming i hi]
  unfold Result.errorCount Result.warningCount Result.errors Result.warnings Result.ofSeverity
  rw [hissues]
  simp only [List.filter_append, List.length_append, hmissing, hunused, herrors, hwarnings]
  simp

/-- Domains and the same domains in another order, each with its wirings in another order. -/
def Reordered (domains domains' : Table Domain) : Prop :=
  ∃ es, domains.entries.Perm es ∧ List.Forall₂ (fun e e' => e.1 = e'.1 ∧
    e.2.publishes.Perm e'.2.publishes ∧ e.2.consumes.Perm e'.2.consumes) es domains'.entries

theorem declaredIn_perm {es es' : List (String × Domain)}
    (h : List.Forall₂ (fun e e' => (wirings e.2).Perm (wirings e'.2)) es es') :
    (declaredIn wirings es).Perm (declaredIn wirings es') := by
  induction h with
  | nil => exact .refl _
  | cons hd _ ih => exact (hd.map _).append ih

theorem Reordered.occurs_iff (h : Reordered domains domains') (event : String) :
    (Occurs Domain.publishes domains event ↔ Occurs Domain.publishes domains' event) ∧
      (Occurs Domain.consumes domains event ↔ Occurs Domain.consumes domains' event) := by
  obtain ⟨es, hperm, hes⟩ := h
  have hall : ∀ wirings : Domain → List Wiring,
      List.Forall₂ (fun e e' => (wirings e.2).Perm (wirings e'.2)) es domains'.entries →
        (Occurs wirings domains event ↔ Occurs wirings domains' event) := by
    intro wirings hw
    rw [← mem_declaredIn, ← mem_declaredIn, ← (declaredIn_perm hw).mem_iff]
    exact (hperm.flatMap_right _).mem_iff
  exact ⟨hall _ (hes.imp fun _ _ h => h.2.1), hall _ (hes.imp fun _ _ h => h.2.2)⟩

/-- The counts of a check depend on what is published and what is consumed alone. -/
theorem counts_check (domains : Table Domain) :
    (check domains).errorCount = {event | Occurs Domain.consumes domains event ∧
        ¬ Occurs Domain.publishes domains event}.ncard ∧
      (check domains).warningCount = {event | Occurs Domain.publishes domains event ∧
        ¬ Occurs Domain.consumes domains event}.ncard + (checkNaming (events domains)).length := by
  obtain ⟨missing, unused, hmissing, hunused, hissues⟩ := exists_issues domains
  have hnaming : ∀ i ∈ checkNaming (events domains), i.severity = .warning := by
    obtain ⟨-, h⟩ | ⟨-, h⟩ := checkNaming_events domains <;> simp [h, mixedNaming, wiringIssue]
  rw [ncard_eq_length hmissing.nodup hmissing.mem_iff,
    ncard_eq_length hunused.nodup hunused.mem_iff]
  exact counts_of_issues hissues hnaming

theorem Reordered.counts_eq (h : Reordered domains domains') :
    (check domains').errorCount = (check domains).errorCount ∧
      (check domains').warningCount = (check domains).warningCount := by
  have hpublishes := fun event => (h.occurs_iff event).1
  have hconsumes := fun event => (h.occurs_iff event).2
  have hnaming : (checkNaming (events domains')).length =
      (checkNaming (events domains)).length := by
    have hmixed : Mixed domains ↔ Mixed domains' := by
      simp only [Mixed, InUse, hpublishes, hconsumes]
    obtain ⟨hm, h⟩ | ⟨hm, h⟩ := checkNaming_events domains <;>
      obtain ⟨hm', h'⟩ | ⟨hm', h'⟩ := checkNaming_events domains'
    · rw [h, h']
      rfl
    · exact absurd (hmixed.1 hm) hm'
    · exact absurd (hmixed.2 hm') hm
    · rw [h, h']
  obtain ⟨herrors, hwarnings⟩ := counts_check domains
  obtain ⟨herrors', hwarnings'⟩ := counts_check domains'
  rw [herrors, herrors', hwarnings, hwarnings', hnaming]
  simp only [hpublishes, hconsumes, and_self]

/-- The issues of a check of the system: an error for each event that is consumed and published by
no domain, then a warning for each that is published and consumed by none, each once in the order in
which they are first declared and with all domains that declare it; then a warning if the events in
use are named in both styles. Neither count changes when domains or wirings change places. -/
theorem diagnosis_of_check (domains : Table Domain) : ∃ missing unused naming,
    Lists Domain.consumes domains (¬ Occurs Domain.publishes domains ·) missing ∧
    Lists Domain.publishes domains (¬ Occurs Domain.consumes domains ·) unused ∧
    (Mixed domains ∧ naming = [mixedNaming {event | InUse domains event ∧ Dotted event}.ncard
        {event | InUse domains event ∧ Humped event}.ncard] ∨ ¬ Mixed domains ∧ naming = []) ∧
    (check domains).issues =
      missing.map (unpublished domains) ++ unused.map (unconsumed domains) ++ naming ∧
    (check domains).errorCount = {event | Occurs Domain.consumes domains event ∧
      ¬ Occurs Domain.publishes domains event}.ncard ∧
    (check domains).warningCount = {event | Occurs Domain.publishes domains event ∧
      ¬ Occurs Domain.consumes domains event}.ncard + naming.length ∧
    ∀ domains', Reordered domains domains' →
      (check domains').errorCount = (check domains).errorCount ∧
        (check domains').warningCount = (check domains).warningCount := by
  obtain ⟨missing, unused, hmissing, hunused, hissues⟩ := exists_issues domains
  obtain ⟨herrors, hwarnings⟩ := counts_check domains
  exact ⟨missing, unused, checkNaming (events domains), hmissing, hunused,
    checkNaming_events domains, hissues, herrors, hwarnings, fun domains' h => h.counts_eq⟩

/-- A wiring of which nothing but the event is known. -/
def wire (event : String) : Wiring := ⟨event, .null, .null, .null, .null⟩

/-- Two domains that wait for an event that none of them publishes, with names in two styles. -/
def market : Table Domain :=
  .ofList [
    ("shop", { Domain.empty (.str "Shop") .null with
      consumes := [wire "payment.done", wire "refundSent", wire "payment.done"] }),
    ("bank", { Domain.empty (.str "Bank") .null with
      publishes := [wire "payment.done", wire "cardBlocked"]
      consumes := [wire "refundSent"] })]

/-- The same domains the other way round. -/
def turnedMarket : Table Domain := ⟨market.entries.reverse, by decide⟩

/-- The error names the domains in another order, and all else is counted as before. -/
theorem diagnosis_turnedMarket : Reordered market turnedMarket ∧
    (check market).issues ≠ (check turnedMarket).issues ∧
    (check turnedMarket).errorCount = 1 ∧ (check turnedMarket).warningCount = 2 := by
  have hturned : Reordered market turnedMarket := by
    refine ⟨_, (List.reverse_perm _).symm, List.forall₂_same.2 fun e _ => ?_⟩
    exact ⟨rfl, .refl _, .refl _⟩
  obtain ⟨-, -, -, -, -, -, -, -, -, hcounts⟩ := diagnosis_of_check market
  obtain ⟨herrors, hwarnings⟩ := hcounts turnedMarket hturned
  refine ⟨hturned, by decide, herrors.trans (by decide), hwarnings.trans (by decide)⟩

end Events

end FlowGate
