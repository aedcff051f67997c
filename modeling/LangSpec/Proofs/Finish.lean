import LangSpec.Draft.Finish
import LangSpec.Proofs.Literals
import LangSpec.Proofs.NamespaceTree

/-!
# When a draft can be finished

Most of what is checked at the end holds of every specification that a walk
leads to, whatever the walk: the handles that entries carry, the tree of
namespaces, the regions and pools of scanners, the occurrences of tokens, where
literals lead, and the production an element is linked to. What is left to the
writer is the numbering: that elements are numbered by their place, and that
alternatives are numbered by their place and belong to one nonterminal only.

* `WellMade.isNumbering`: no other violations are found;
* `finish_iff_numbered`: a draft can be finished exactly if nothing was reported
  and the numbering is right.
-/

namespace LangSpec

namespace Spec

variable {s s' : Spec}

/-! ## Elements and their production -/

/-- The elements of a production are linked to it. -/
def ElementsLinked (s : Spec) : Prop :=
  s.productions.Forall fun p x => ∀ e ∈ x.elements, e.production = some p

theorem Edit.elementsLinked (he : s.Edit s') (h : s.ElementsLinked) : s'.ElementsLinked := by
  cases he with
  | renumber => exact Arena.Forall.modify h fun _ _ hx => hx
  | _ => exact h

theorem Bind.elementsLinked {n : NonterminalId} (hb : Bind n s s') (h : s.ElementsLinked) :
    s'.ElementsLinked := by
  cases hb with
  | own => exact Arena.Forall.modify h fun _ _ hx => hx
  | setCapture r f =>
    refine Arena.Forall.modify h fun p _ hp => ?_
    -- A capture does not change what the elements are linked to.
    have e : (p.elements.modify r.pos fun e => { e with capture := some f }).map (·.production) =
        p.elements.map (·.production) := map_modify_of_eq fun _ => rfl
    rw [← List.forall_mem_map (P := (· = some r.production))] at hp ⊢
    exact e ▸ hp
  | addSource | typed | bindField => exact h

theorem ElementsLinked.addProduction {p : Production} (h : s.ElementsLinked) :
    (s.addProduction p).ElementsLinked := by
  refine Arena.Forall.push h fun e he => ?_
  obtain ⟨_, _, rfl⟩ := List.mem_map.1 he
  rfl

theorem Steps.elementsLinked (hs : Steps s s') (hc : s.Closed) (h : s.ElementsLinked) :
    s'.ElementsLinked :=
  (hs.preserves hc Edit.elementsLinked ElementsLinked.addProduction Bind.elementsLinked id h).2

/-! ## Numbering -/

/-- Elements are numbered by their place, and alternatives by theirs, each under
    one nonterminal. -/
structure Numbered (s : Spec) : Prop where
  element : ∀ p ∈ s.productions, ∀ (i : Nat) (e : Element),
    (s.productions.get p).elements[i]? = some e → e.pos = i
  alternative : ∀ n ∈ s.nonterminals, ∀ (i : Nat) (p : ProductionId),
    (s.nonterminals.get n).alternatives[i]? = some p →
      (s.productions.get p).number = i ∧ (s.productions.get p).owner = some n

theorem checkProduction_eq_nil_iff {p : ProductionId} {x : Production} (hid : x.id = p)
    (hl : ∀ e ∈ x.elements, e.production = some p) :
    checkProduction x = [] ↔ ∀ (i : Nat) (e : Element),
      x.elements[i]? = some e → e.pos = i := by
  rw [checkProduction, List.flatMap_eq_nil_iff]
  constructor
  · intro h i e he
    have h := h (e, i) (List.mem_zipIdx_iff_getElem?.2 he)
    rw [List.append_eq_nil_iff, ensure_eq_nil, beq_iff_eq] at h
    exact h.1
  · intro h ⟨e, i⟩ he
    have he := List.mem_zipIdx_iff_getElem?.1 he
    rw [List.append_eq_nil_iff, ensure_eq_nil, ensure_eq_nil, beq_iff_eq, beq_iff_eq, hid]
    exact ⟨h i e he, hl e (List.mem_of_getElem? he)⟩

theorem checkNonterminal_eq_nil_iff {n : NonterminalId} {x : Nonterminal} (hid : x.id = n) :
    s.checkNonterminal x = [] ↔ ∀ (i : Nat) (p : ProductionId),
      x.alternatives[i]? = some p →
        (s.productions.get p).number = i ∧ (s.productions.get p).owner = some n := by
  rw [checkNonterminal, List.flatMap_eq_nil_iff, hid]
  constructor
  · intro h i p hp
    have h := h (p, i) (List.mem_zipIdx_iff_getElem?.2 hp)
    rw [List.append_eq_nil_iff, ensure_eq_nil, ensure_eq_nil, beq_iff_eq, beq_iff_eq] at h
    exact h.symm
  · intro h ⟨p, i⟩ hp
    rw [List.append_eq_nil_iff, ensure_eq_nil, ensure_eq_nil, beq_iff_eq, beq_iff_eq]
    exact (h i p (List.mem_zipIdx_iff_getElem?.1 hp)).symm

/-- What holds of every specification that walks lead to. -/
structure WellMade (s : Spec) : Prop where
  tagged : s.Tagged
  namespaceTree : NamespaceTree s.namespaces
  scannersLaidOut : s.ScannersLaidOut
  tokensReplicated : s.TokensReplicated
  literalsFound : s.LiteralsFound
  elementsLinked : s.ElementsLinked

theorem Steps.wellMade {o : Options} (h : Steps (initial o) s) : s.WellMade where
  tagged := h.tagged (closed_initial o) (tagged_initial o)
  namespaceTree := h.namespaceTree (closed_initial o) (namespaceTree_initial o)
  scannersLaidOut := h.scannersLaidOut (closed_initial o) .empty
  tokensReplicated := (h.tokensReplicated (closed_initial o) .empty .empty).2
  literalsFound := h.literalsFound
  elementsLinked := h.elementsLinked (closed_initial o) .empty

/-- What checks of well-made specifications can find. -/
theorem WellMade.violations_eq (h : s.WellMade) :
    s.violations = s.productions.toList.flatMap checkProduction ++
      s.nonterminals.toList.flatMap s.checkNonterminal := by
  have hnil {t : Table} {α : Type} {a : Arena t α} {check : α → List Violation}
      (hc : ∀ i x, a.get? i = some x → check x = []) : a.toList.flatMap check = [] := by
    rw [List.flatMap_eq_nil_iff]
    intro x hx
    obtain ⟨i, hi⟩ := Arena.mem_toList.1 hx
    exact hc i x hi
  rw [violations, checkAllIds_eq_nil_iff.2 h.tagged,
    hnil fun _ _ hx => checkNamespace_eq_nil h.tagged h.namespaceTree hx,
    hnil fun _ _ hx => checkScanner_eq_nil h.scannersLaidOut hx,
    hnil fun _ _ hx => checkOccurrence_eq_nil h.tokensReplicated hx,
    hnil fun _ _ hx => checkToken_eq_nil h.tokensReplicated hx,
    hnil fun _ _ hx => checkLiterals_eq_nil h.tagged h.literalsFound hx]
  rfl

theorem WellMade.valid_iff (h : s.WellMade) : s.Valid ↔ s.Numbered := by
  rw [Valid, h.violations_eq, List.append_eq_nil_iff, List.flatMap_eq_nil_iff,
    List.flatMap_eq_nil_iff, Arena.forall_mem_toList, Arena.forall_mem_toList]
  have hproduction {p : ProductionId} {x : Production} (hx : s.productions.get? p = some x) :=
    checkProduction_eq_nil_iff (h.tagged.productions p x hx) (h.elementsLinked p x hx)
  have hnonterminal {n : NonterminalId} {x : Nonterminal} (hx : s.nonterminals.get? n = some x) :=
    checkNonterminal_eq_nil_iff (s := s) (h.tagged.nonterminals n x hx)
  constructor
  · rintro ⟨hps, hns⟩
    constructor
    · exact fun p hp => (hproduction (Arena.get?_eq_some_get hp)).1
        (hps p _ (Arena.get?_eq_some_get hp))
    · exact fun n hn => (hnonterminal (Arena.get?_eq_some_get hn)).1
        (hns n _ (Arena.get?_eq_some_get hn))
  · intro hs
    constructor
    · intro p x hx
      exact (hproduction hx).2 (Arena.get_eq hx ▸ hs.element p (Arena.mem_of_get? hx))
    · intro n x hx
      exact (hnonterminal hx).2 (Arena.get_eq hx ▸ hs.alternative n (Arena.mem_of_get? hx))

end Spec

/-- The flaw is one of numbering. -/
def Flaw.isNumbering : Flaw → Bool
  | misnumberedElement _ _ | unlinkedAlternative _ | misnumberedAlternative _ _ _ => true
  | _ => false

theorem Violation.mem_ensure {ok : Bool} {loc : Location} {flaw : Flaw} {v : Violation} :
    v ∈ ensure ok loc flaw ↔ ok = false ∧ v = ⟨loc, flaw⟩ := by
  cases ok <;> simp [ensure]

theorem Spec.WellMade.isNumbering {s : Spec} (h : s.WellMade) {v : Violation}
    (hv : v ∈ s.violations) : v.flaw.isNumbering = true := by
  rw [h.violations_eq] at hv
  rcases List.mem_append.1 hv with hv | hv
  · obtain ⟨x, hx, hv⟩ := List.mem_flatMap.1 hv
    obtain ⟨p, hp⟩ := Arena.mem_toList.1 hx
    obtain ⟨⟨e, i⟩, he, hv⟩ := List.mem_flatMap.1 hv
    rcases List.mem_append.1 hv with hv | hv
    · rw [(Violation.mem_ensure.1 hv).2]
      rfl
    · -- The other check of an element, of its link, does not fail.
      have hlink : e.production = some p :=
        h.elementsLinked p x hp e (List.mem_of_getElem? (List.mem_zipIdx_iff_getElem?.1 he))
      have hid : x.id = p := h.tagged.productions p x hp
      have hok := (Violation.mem_ensure.1 hv).1
      rw [hlink, hid, beq_self_eq_true] at hok
      exact absurd hok Bool.noConfusion
  · obtain ⟨x, hx, hv⟩ := List.mem_flatMap.1 hv
    obtain ⟨⟨p, i⟩, hp, hv⟩ := List.mem_flatMap.1 hv
    rcases List.mem_append.1 hv with hv | hv
    all_goals
      rw [(Violation.mem_ensure.1 hv).2]
      rfl

namespace Draft

variable {o : Options} {d : Draft}

theorem Reachable.wellMade (hd : Reachable o d) : d.spec.WellMade := hd.steps.wellMade

theorem leftOpen_eq_none (hs : d.openScanners = []) (hc : d.openContexts = [])
    (hn : d.openNamespaces = []) : d.leftOpen = none := by
  simp [leftOpen, hs, hc, hn]

theorem failures_eq_nil_iff : d.failures = [] ↔ d.diagnostics = [] ∧ d.spec.Valid := by
  rw [failures, Diagnostic.failures, List.append_eq_nil_iff, List.map_eq_nil_iff,
    List.map_eq_nil_iff, Spec.Valid]

/-- A finished specification is the one written. -/
theorem finish_eq_ok {s : Spec} (h : d.finish = .ok s) :
    s = d.spec ∧ d.diagnostics = [] ∧ d.spec.Valid := by
  rw [finish] at h
  split at h
  next => exact nomatch h
  next =>
    split at h
    next hf =>
      cases h
      exact ⟨rfl, failures_eq_nil_iff.1 (List.isEmpty_iff.1 hf)⟩
    next => exact nomatch h

/-- Nothing else stands in the way of finishing a draft. -/
theorem finish_of_valid (hs : d.openScanners = []) (hc : d.openContexts = [])
    (hn : d.openNamespaces = []) (hdiag : d.diagnostics = []) (hvalid : d.spec.Valid) :
    d.finish = .ok d.spec := by
  rw [finish, leftOpen_eq_none hs hc hn, failures_eq_nil_iff.2 ⟨hdiag, hvalid⟩]
  rfl

/-- A draft where all that was opened has been closed can be finished exactly if
    nothing was reported and the numbering is right, and the specification is
    the one written. Whether or not all has been closed, only the numbering can
    be wrong. -/
theorem finish_iff_numbered (hd : Reachable o d) :
    (d.openScanners = [] → d.openContexts = [] → d.openNamespaces = [] →
      ((∃ s, d.finish = .ok s) ↔ d.diagnostics = [] ∧ d.spec.Numbered) ∧
        ∀ s, d.finish = .ok s → s = d.spec) ∧
    ∀ v ∈ d.spec.violations, v.flaw.isNumbering = true := by
  refine ⟨fun hs hc hn => ⟨⟨?_, ?_⟩, ?_⟩, fun v => hd.wellMade.isNumbering⟩
  · rintro ⟨s, h⟩
    obtain ⟨-, hdiag, hvalid⟩ := finish_eq_ok h
    exact ⟨hdiag, hd.wellMade.valid_iff.1 hvalid⟩
  · rintro ⟨hdiag, hnum⟩
    exact ⟨d.spec, finish_of_valid hs hc hn hdiag (hd.wellMade.valid_iff.2 hnum)⟩
  · exact fun s h => (finish_eq_ok h).1

theorem finish_iff_numbered_sums :
    let d := (start {}).run Op.sums
    Reachable {} d ∧ d.openScanners = [] ∧ d.openContexts = [] ∧ d.openNamespaces = [] ∧
      ((∃ s, d.finish = .ok s) ↔ d.diagnostics = [] ∧ d.spec.Numbered) := by
  have hs : ((start {}).run Op.sums).openScanners = [] := by decide +kernel
  have hc : ((start {}).run Op.sums).openContexts = [] := by decide +kernel
  have hn : ((start {}).run Op.sums).openNamespaces = [] := by decide +kernel
  exact ⟨reachable_sums, hs, hc, hn, ((finish_iff_numbered reachable_sums).1 hs hc hn).1⟩

end Draft

end LangSpec
