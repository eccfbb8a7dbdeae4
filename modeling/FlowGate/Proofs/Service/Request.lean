import FlowGate.Proofs.Outcome
import FlowGate.Proofs.Store.Operation
import FlowGate.Service.Reply

/-!
# What a request asks of the store

`Request.Asks` reads the operation off a request: the route selects it, and the parameters, or all
documents in the body, must be as it needs them. A request with a single malformed document asks for
nothing. `asks_iff` says that the command of a request stands for just this operation.
-/

namespace FlowGate.Service

open List (Forall₂)
open Store (Operation)

/-- The documents of domains that a field of a body holds, each under its identifier; without the
field there are none. -/
inductive Holds (body : Entries) (name : String) : List (String × Domain) → Prop where
  | absent (field : Entries.get? body name = none) : Holds body name []
  | present {es : Entries} {docs : List (String × Domain)}
    (field : Entries.get? body name = some (.map es))
    (read : Forall₂ (fun e doc => e.1.text = doc.1 ∧ Domain.read e.2 = .ok doc.2) es docs) :
    Holds body name docs

namespace Request

variable {r : Request}

/-- The operation on the store that a request asks for. The domain that is to be checked comes last,
so that it replaces a document under its identifier. -/
inductive Asks (r : Request) : Operation → Prop where
  | checkFlow {v : Value} {f : Flow} (route : r.route = .flow) (body : r.body = some v)
    (flow : Flow.read v = .ok f) : Asks r (.checkFlow r.marks f)
  | checkDomain {id : String} {es : Entries} {own : Value} {d : Domain}
    {docs : List (String × Domain)} (route : r.route = .domain id) (body : r.body = some (.map es))
    (owned : Entries.get? es "domain" = some own) (domain : Domain.read own = .ok d)
    (others : Holds es "all_domains" docs) :
    Asks r (.checkDomain r.marks id ((Table.ofList docs).put id d))
  | checkSystem {es : Entries} {docs : List (String × Domain)} (route : r.route = .system)
    (body : r.body = some (.map es)) (domains : Holds es "domains" docs) :
    Asks r (.checkSystem r.marks (Table.ofList docs))
  | gate {flowId domainId : String} (route : r.route = .gate)
    (flow : r.parameter "flow_id" = .ok flowId) (domain : r.parameter "domain_id" = .ok domainId) :
    Asks r (.gate flowId domainId)
  | nodeIssues {domainId flowId nodeId : String}
    (route : r.route = .nodeIssues domainId flowId nodeId) :
    Asks r (.nodeIssues (Store.flowKey domainId flowId) nodeId)
  | reset (route : r.route = .results) : Asks r .reset

end Request

/-! ## The parts of a request -/

theorem entriesAt_eq_ok {place : List String} {v : Value} {es : Entries} :
    entriesAt place v = .ok es ↔ v = .map es := by
  cases v <;> simp [entriesAt]

theorem exists_map_of_readFlow {v : Value} {f : Flow} (h : Flow.read v = .ok f) :
    ∃ es, v = .map es := by
  cases v with
  | map es => exact ⟨es, rfl⟩
  | _ => cases h

theorem exists_map_of_readDomain {v : Value} {d : Domain} (h : Domain.read v = .ok d) :
    ∃ es, v = .map es := by
  cases v with
  | map es => exact ⟨es, rfl⟩
  | _ => cases h

theorem documentsAt_eq_ok {place : List String} {v : Value} {es : Entries} :
    documentsAt place v = .ok es ↔ v = .map es ∧ ∀ e ∈ es, ∃ fields, e.2 = .map fields := by
  have hmap (w : Value) : (entriesAt [] w).toOption.isNone = false ↔ ∃ fields, w = .map fields := by
    cases w <;> simp [entriesAt, Except.toOption]
  unfold documentsAt
  rw [bind_eq_ok]
  simp only [entriesAt_eq_ok]
  constructor
  · rintro ⟨es', rfl, h⟩
    split at h
    · next hnone =>
      cases h
      refine ⟨rfl, fun e he => (hmap e.2).1 ?_⟩
      exact eq_false_of_ne_true (List.filter_eq_nil_iff.1 hnone e he)
    · cases h
  · rintro ⟨rfl, h⟩
    have hnone : (es.filter fun e => (entriesAt [] e.2).toOption.isNone) = [] :=
      List.filter_eq_nil_iff.2 fun e he => by simp [(hmap e.2).2 (h e he)]
    refine ⟨es, rfl, ?_⟩
    rw [hnone]
    rfl

theorem bothParts_eq_ok {α β : Type} {x : Except (List Misfit) α} {y : Except (List Misfit) β}
    {a : α} {b : β} : bothParts x y = .ok (a, b) ↔ x = .ok a ∧ y = .ok b := by
  cases x <;> cases y <;> simp [bothParts]

theorem readTable_eq_ok {es : Entries} {t : Table Domain} :
    Domain.readTable es = .ok t ↔ ∃ docs, t = .ofList docs ∧
      Forall₂ (fun e doc => e.1.text = doc.1 ∧ Domain.read e.2 = .ok doc.2) es docs := by
  unfold Domain.readTable
  rw [bind_eq_ok]
  have hdoc (e : Scalar × Value) (doc : String × Domain) :
      (do return (e.1.text, ← Domain.read e.2) : Except Fault (String × Domain)) = .ok doc ↔
        e.1.text = doc.1 ∧ Domain.read e.2 = .ok doc.2 := by
    rw [bind_eq_ok]
    constructor
    · rintro ⟨d, hd, h⟩
      cases h
      exact ⟨rfl, hd⟩
    · rintro ⟨hid, hd⟩
      exact ⟨doc.2, hd, congrArg Except.ok (Prod.ext hid rfl)⟩
  simp only [mapM_eq_ok, hdoc]
  constructor
  · rintro ⟨docs, hdocs, h⟩
    cases h
    exact ⟨docs, rfl, hdocs⟩
  · rintro ⟨docs, rfl, hdocs⟩
    exact ⟨docs, hdocs, rfl⟩

namespace Request

variable {r : Request}

theorem content_eq_ok {v : Value} : r.content = .ok v ↔ r.body = some v ∧ v ≠ .null := by
  unfold content
  split
  · next h => simp [h]
  · next h =>
    rw [h]
    refine iff_of_false nofun ?_
    rintro ⟨hv, hnull⟩
    cases hv
    exact hnull rfl
  · next w _ hnull h =>
    rw [h]
    constructor
    · intro hv
      cases hv
      exact ⟨rfl, hnull⟩
    · rintro ⟨hv, -⟩
      cases hv
      rfl

theorem fields_eq_ok {es : Entries} : r.fields = .ok es ↔ r.body = some (.map es) := by
  unfold fields
  rw [bind_eq_ok]
  simp only [content_eq_ok]
  constructor
  · rintro ⟨v, ⟨hbody, -⟩, h⟩
    split at h
    · cases h
      exact hbody
    · cases h
  · intro hbody
    exact ⟨_, ⟨hbody, nofun⟩, rfl⟩

theorem flowDocument_eq_ok {v : Value} :
    r.flowDocument = .ok v ↔ r.body = some v ∧ ∃ es, v = .map es := by
  unfold flowDocument
  simp only [bind_eq_ok, content_eq_ok, entriesAt_eq_ok]
  constructor
  · rintro ⟨w, ⟨hbody, -⟩, es, rfl, h⟩
    cases h
    exact ⟨hbody, es, rfl⟩
  · rintro ⟨hbody, es, rfl⟩
    exact ⟨_, ⟨hbody, nofun⟩, es, rfl, rfl⟩

theorem documentIn_eq_ok {fields : Entries} {name : String} {v : Value} :
    documentIn fields name = .ok v ↔
      Entries.get? fields name = some v ∧ ∃ es, v = .map es := by
  unfold documentIn
  split
  · next w hw =>
    rw [bind_eq_ok, hw]
    simp only [entriesAt_eq_ok]
    constructor
    · rintro ⟨es, rfl, h⟩
      cases h
      exact ⟨rfl, es, rfl⟩
    · rintro ⟨h, es, rfl⟩
      cases h
      exact ⟨es, rfl, rfl⟩
  · next h =>
    rw [h]
    exact iff_of_false nofun nofun

/-- The documents in a field of a body are there and can all be read exactly if the field holds
them. -/
theorem holds_iff {fields : Entries} {name : String} {t : Table Domain} :
    (∃ es, documentsIn fields name = .ok es ∧ Domain.readTable es = .ok t) ↔
      ∃ docs, t = .ofList docs ∧ Holds fields name docs := by
  unfold documentsIn
  constructor
  · rintro ⟨es, hes, ht⟩
    split at hes
    · next v hv =>
      obtain ⟨rfl, -⟩ := documentsAt_eq_ok.1 hes
      obtain ⟨docs, rfl, hdocs⟩ := readTable_eq_ok.1 ht
      exact ⟨docs, rfl, .present hv hdocs⟩
    · next hnone =>
      cases hes
      cases ht
      exact ⟨[], rfl, .absent hnone⟩
  · rintro ⟨docs, rfl, hdocs⟩
    cases hdocs with
    | absent field =>
      rw [field]
      exact ⟨[], rfl, rfl⟩
    | @present es _ field read =>
      rw [field]
      refine ⟨es, documentsAt_eq_ok.2 ⟨rfl, fun e he => ?_⟩, readTable_eq_ok.2 ⟨docs, rfl, read⟩⟩
      obtain ⟨doc, -, -, hread⟩ := exists_of_forall₂ read.flip e he
      exact exists_map_of_readDomain hread

/-! ## The command of a request -/

theorem command_flow (h : r.route = .flow) {c : Command} : r.command = .ok c ↔
    ∃ v f, r.body = some v ∧ Flow.read v = .ok f ∧ c = .checkFlow f := by
  unfold command
  simp only [h, bind_eq_ok, mapError_eq_ok, flowDocument_eq_ok]
  constructor
  · rintro ⟨v, ⟨hbody, -⟩, f, hf, h⟩
    cases h
    exact ⟨v, f, hbody, hf, rfl⟩
  · rintro ⟨v, f, hbody, hf, rfl⟩
    exact ⟨v, ⟨hbody, exists_map_of_readFlow hf⟩, f, hf, rfl⟩

theorem command_domain {id : String} (h : r.route = .domain id) {c : Command} :
    r.command = .ok c ↔
      ∃ es own d docs, r.body = some (.map es) ∧ Entries.get? es "domain" = some own ∧
        Domain.read own = .ok d ∧ Holds es "all_domains" docs ∧
          c = .checkDomain id ((Table.ofList docs).put id d) := by
  unfold command
  simp only [h, domainDocuments, bind_eq_ok, mapError_eq_ok, fields_eq_ok, Prod.exists,
    bothParts_eq_ok, documentIn_eq_ok]
  constructor
  · rintro ⟨own, others, ⟨es, hbody, ⟨hown, -⟩, hothers⟩, t, ht, d, hd, h⟩
    cases h
    obtain ⟨docs, rfl, hdocs⟩ := holds_iff.1 ⟨others, hothers, ht⟩
    exact ⟨es, own, d, docs, hbody, hown, hd, hdocs, rfl⟩
  · rintro ⟨es, own, d, docs, hbody, hown, hd, hdocs, rfl⟩
    obtain ⟨others, hothers, ht⟩ := holds_iff.2 ⟨docs, rfl, hdocs⟩
    exact ⟨own, others, ⟨es, hbody, ⟨hown, exists_map_of_readDomain hd⟩, hothers⟩, _, ht, d, hd,
      rfl⟩

theorem command_system (h : r.route = .system) {c : Command} : r.command = .ok c ↔
    ∃ es docs, r.body = some (.map es) ∧ Holds es "domains" docs ∧
      c = .checkSystem (.ofList docs) := by
  unfold command
  simp only [h, bind_eq_ok, mapError_eq_ok]
  constructor
  · rintro ⟨fields, hfields, t, ht, h⟩
    cases h
    obtain ⟨es, hbody, hes⟩ := bind_eq_ok.1 hfields
    obtain ⟨docs, rfl, hdocs⟩ := holds_iff.1 ⟨fields, hes, ht⟩
    exact ⟨es, docs, fields_eq_ok.1 hbody, hdocs, rfl⟩
  · rintro ⟨es, docs, hbody, hdocs, rfl⟩
    obtain ⟨fields, hfields, ht⟩ := holds_iff.2 ⟨docs, rfl, hdocs⟩
    exact ⟨fields, bind_eq_ok.2 ⟨es, fields_eq_ok.2 hbody, hfields⟩, _, ht, rfl⟩

theorem command_gate (h : r.route = .gate) {c : Command} : r.command = .ok c ↔
    ∃ flowId domainId, r.parameter "flow_id" = .ok flowId ∧
      r.parameter "domain_id" = .ok domainId ∧ c = .gate flowId domainId := by
  unfold command
  simp only [h, bind_eq_ok, mapError_eq_ok, Prod.exists, bothParts_eq_ok]
  constructor
  · rintro ⟨flowId, domainId, ⟨hflow, hdomain⟩, h⟩
    cases h
    exact ⟨flowId, domainId, hflow, hdomain, rfl⟩
  · rintro ⟨flowId, domainId, hflow, hdomain, rfl⟩
    exact ⟨flowId, domainId, ⟨hflow, hdomain⟩, rfl⟩

theorem command_health (h : r.route = .health) : r.command = .ok .health := by
  rw [command, h]

theorem command_nodeIssues {domainId flowId nodeId : String}
    (h : r.route = .nodeIssues domainId flowId nodeId) :
    r.command = .ok (.nodeIssues domainId flowId nodeId) := by
  rw [command, h]

theorem command_results (h : r.route = .results) : r.command = .ok .reset := by
  rw [command, h]

end Request

/-- The operation on the store that a command stands for. -/
def Command.operation? (marks : Marks) : Command → Option Operation
  | .checkFlow f => some (.checkFlow marks f)
  | .checkDomain id domains => some (.checkDomain marks id domains)
  | .checkSystem domains => some (.checkSystem marks domains)
  | .gate flowId domainId => some (.gate flowId domainId)
  | .nodeIssues domainId flowId nodeId => some (.nodeIssues (Store.flowKey domainId flowId) nodeId)
  | .reset => some .reset
  | .health => none

namespace Request

variable {r : Request} {op : Operation}

theorem exists_operation? {c : Command} {marks : Marks} (hroute : r.route ≠ .health)
    (h : r.command = .ok c) : ∃ op, c.operation? marks = some op := by
  cases c with
  | health =>
    cases hr : r.route with
    | health => exact absurd hr hroute
    | flow =>
      obtain ⟨_, _, -, -, hc⟩ := (command_flow hr).1 h
      cases hc
    | domain id =>
      obtain ⟨_, _, _, _, -, -, -, -, hc⟩ := (command_domain hr).1 h
      cases hc
    | system =>
      obtain ⟨_, _, -, -, hc⟩ := (command_system hr).1 h
      cases hc
    | gate =>
      obtain ⟨_, _, -, -, hc⟩ := (command_gate hr).1 h
      cases hc
    | nodeIssues domainId flowId nodeId => cases (command_nodeIssues hr).symm.trans h
    | results => cases (command_results hr).symm.trans h
  | _ => exact ⟨_, rfl⟩

/-- A request asks for what its command stands for. -/
theorem asks_iff : r.Asks op ↔ ∃ c, r.command = .ok c ∧ c.operation? r.marks = some op := by
  constructor
  · intro h
    cases h with
    | checkFlow route body flow =>
      exact ⟨_, (command_flow route).2 ⟨_, _, body, flow, rfl⟩, rfl⟩
    | checkDomain route body owned domain others =>
      exact ⟨_, (command_domain route).2 ⟨_, _, _, _, body, owned, domain, others, rfl⟩, rfl⟩
    | checkSystem route body domains =>
      exact ⟨_, (command_system route).2 ⟨_, _, body, domains, rfl⟩, rfl⟩
    | gate route flow domain =>
      exact ⟨_, (command_gate route).2 ⟨_, _, flow, domain, rfl⟩, rfl⟩
    | nodeIssues route => exact ⟨_, command_nodeIssues route, rfl⟩
    | reset route => exact ⟨_, command_results route, rfl⟩
  · rintro ⟨c, hc, hop⟩
    cases hroute : r.route with
    | health =>
      cases (command_health hroute).symm.trans hc
      cases hop
    | flow =>
      obtain ⟨v, f, hbody, hf, rfl⟩ := (command_flow hroute).1 hc
      cases hop
      exact .checkFlow hroute hbody hf
    | domain id =>
      obtain ⟨es, own, d, docs, hbody, hown, hd, hdocs, rfl⟩ := (command_domain hroute).1 hc
      cases hop
      exact .checkDomain hroute hbody hown hd hdocs
    | system =>
      obtain ⟨es, docs, hbody, hdocs, rfl⟩ := (command_system hroute).1 hc
      cases hop
      exact .checkSystem hroute hbody hdocs
    | gate =>
      obtain ⟨flowId, domainId, hflow, hdomain, rfl⟩ := (command_gate hroute).1 hc
      cases hop
      exact .gate hroute hflow hdomain
    | nodeIssues domainId flowId nodeId =>
      cases (command_nodeIssues hroute).symm.trans hc
      cases hop
      exact .nodeIssues hroute
    | results =>
      cases (command_results hroute).symm.trans hc
      cases hop
      exact .reset hroute

end Request

end FlowGate.Service
