import LangSpec.Proofs.SettledCaptures

/-!
# What validity guarantees

The checks of a specification do not ask where it comes from. If none of them
finds a violation and no handle leads nowhere, some things are certain of any
specification, however it was made and changed. The way from an occurrence back
to what it was copied from, which in general may go in circles, ends after one
step, at a primary occurrence of the same token. And as a production has one
number and one owner, it can be an alternative in one place only.

* `Spec.Retraces`: the way back, as far as it goes;
* `Retraces.primary`: `primary` finds the end of a way that is short enough;
* `Valid.numbered`: alternatives are numbered by their place;
* `valid_guarantees`: the whole law.
-/

namespace LangSpec.Spec

variable {s : Spec}

/-- The way from an occurrence back to what it was copied from ends after `n`
    steps, at an occurrence that was not copied. -/
inductive Retraces (s : Spec) : OccurrenceId → Nat → OccurrenceId → Prop
  | here {i : OccurrenceId} (h : (s.occurrences.get i).copyOf = none) : Retraces s i 0 i
  | back {i j p : OccurrenceId} {n : Nat} (h : (s.occurrences.get i).copyOf = some j)
      (hj : Retraces s j n p) : Retraces s i (n + 1) p

namespace Retraces

variable {i p : OccurrenceId} {n : Nat}

theorem copyOf_eq_none (h : s.Retraces i n p) : (s.occurrences.get p).copyOf = none := by
  induction h with
  | here h => exact h
  | back _ _ ih => exact ih

theorem getLast?_retrace (h : s.Retraces i n p) {fuel : Nat} (hn : n < fuel) :
    (s.retrace fuel i).getLast? = some p := by
  induction h generalizing fuel with
  | here h =>
    obtain ⟨fuel, rfl⟩ := Nat.exists_eq_succ_of_ne_zero (Nat.ne_of_gt hn)
    rw [retrace, h, List.getLast?_singleton]
  | back h _ ih =>
    obtain ⟨fuel, rfl⟩ := Nat.exists_eq_succ_of_ne_zero (Nat.ne_of_gt (Nat.zero_lt_of_lt hn))
    rw [retrace, h, List.getLast?_cons, ih (Nat.lt_of_succ_lt_succ hn), Option.getD_some]

/-- A way with fewer steps than there are occurrences is followed to its end. -/
theorem primary (h : s.Retraces i n p) (hn : n < s.occurrences.size) : s.primary i = p := by
  rw [Spec.primary, h.getLast?_retrace hn, Option.getD_some]

end Retraces

/-- A specification is valid if the checks of all its entries are passed. -/
theorem valid_iff_checks : s.Valid ↔ s.Tagged ∧
    (s.namespaces.Forall fun _ x => s.checkNamespace x = []) ∧
    (s.scanners.Forall fun _ x => s.checkScanner x = []) ∧
    (s.occurrences.Forall fun _ x => s.checkOccurrence x = []) ∧
    (s.tokens.Forall fun _ x => s.checkToken x = []) ∧
    (s.namespaces.Forall fun _ x => s.checkLiterals x = []) ∧
    (s.productions.Forall fun _ x => checkProduction x = []) ∧
    s.nonterminals.Forall fun _ x => s.checkNonterminal x = [] := by
  simp only [Valid, violations, List.append_eq_nil_iff, List.flatMap_eq_nil_iff,
    checkAllIds_eq_nil_iff, Arena.forall_mem_toList, and_assoc]

theorem Closed.copyOf_mem (hc : s.Closed) {i p : OccurrenceId} (hi : i ∈ s.occurrences)
    (hp : (s.occurrences.get i).copyOf = some p) : p ∈ s.occurrences := by
  have h := allHandles_arena.1 hc.all.occurrences i _ (Arena.get?_eq_some_get hi)
  exact covers_handle.1 (allHandles_option.1 (allHandles_occurrence.1 h).2.2.2.2.2 p hp)

namespace Valid

/-- What an occurrence is copied from is a primary occurrence of the same
    token. -/
theorem copyOf (hv : s.Valid) {i p : OccurrenceId} (hi : i ∈ s.occurrences)
    (hp : (s.occurrences.get i).copyOf = some p) :
    (s.occurrences.get p).copyOf = none ∧
      (s.occurrences.get p).token = (s.occurrences.get i).token := by
  have h : s.checkOccurrence (s.occurrences.get i) = [] :=
    (valid_iff_checks.1 hv).2.2.2.1 i _ (Arena.get?_eq_some_get hi)
  rw [checkOccurrence, hp, List.append_eq_nil_iff, ensure_eq_nil, ensure_eq_nil, beq_iff_eq,
    Bool.not_eq_true', Occurrence.isDuplicate, Option.isSome_eq_false_iff,
    Option.isNone_iff_eq_none] at h
  exact h

/-- The primary occurrence is at most one step away. -/
theorem exists_retraces (hv : s.Valid) (hc : s.Closed) {i : OccurrenceId}
    (hi : i ∈ s.occurrences) :
    ∃ n ≤ 1, s.Retraces i n (s.primary i) ∧ s.primary i ∈ s.occurrences ∧
      (s.occurrences.get (s.primary i)).token = (s.occurrences.get i).token := by
  cases hp : (s.occurrences.get i).copyOf with
  | none =>
    have h : s.Retraces i 0 i := .here hp
    rw [h.primary (Nat.zero_lt_of_lt hi)]
    exact ⟨0, Nat.zero_le 1, h, hi, rfl⟩
  | some p =>
    obtain ⟨hnone, htoken⟩ := hv.copyOf hi hp
    have h : s.Retraces i 1 p := .back hp (.here hnone)
    have hmem := hc.copyOf_mem hi hp
    -- The two occurrences are different, so there is room for the step.
    have hsize : 1 < s.occurrences.size := by
      by_contra hle
      have hi : i.index < s.occurrences.size := hi
      have hmem : p.index < s.occurrences.size := hmem
      have e : i = p := Handle.index_injective (by omega)
      rw [← e, hp] at hnone
      exact nomatch hnone
    rw [h.primary hsize]
    exact ⟨1, Nat.le_refl 1, h, hmem, htoken⟩

/-- Elements and alternatives are numbered by their place, and alternatives
    belong to their nonterminal. -/
theorem numbered (hv : s.Valid) : s.Numbered := by
  obtain ⟨htagged, -, -, -, -, -, hproductions, hnonterminals⟩ := valid_iff_checks.1 hv
  constructor
  · intro p hp i e he
    have h : checkProduction (s.productions.get p) = [] :=
      hproductions p _ (Arena.get?_eq_some_get hp)
    rw [checkProduction, List.flatMap_eq_nil_iff] at h
    have h := h (e, i) (List.mem_zipIdx_iff_getElem?.2 he)
    rw [List.append_eq_nil_iff, ensure_eq_nil, beq_iff_eq] at h
    exact h.1
  · intro n hn
    have hx := Arena.get?_eq_some_get hn
    exact (checkNonterminal_eq_nil_iff (htagged.nonterminals n _ hx)).1 (hnonterminals n _ hx)

end Valid

/-- In a valid specification without handles that lead nowhere, the way from an
    occurrence back to what it was copied from has at most one step and ends at a
    primary occurrence of the same token. No production is an alternative twice,
    and where it is one, its number is its place and its owner the
    nonterminal. -/
theorem valid_guarantees (hc : s.Closed) (hv : s.Valid) :
    (∀ i ∈ s.occurrences, ∃ n ≤ 1, s.Retraces i n (s.primary i) ∧ s.primary i ∈ s.occurrences ∧
      (s.occurrences.get (s.primary i)).copyOf = none ∧
      (s.occurrences.get (s.primary i)).token = (s.occurrences.get i).token) ∧
    (s.nonterminals.toList.flatMap (·.alternatives)).Nodup ∧
    ∀ n ∈ s.nonterminals, ∀ (i : Nat) (p : ProductionId),
      (s.nonterminals.get n).alternatives[i]? = some p →
        p ∈ s.productions ∧ (s.productions.get p).number = i ∧
          (s.productions.get p).owner = some n := by
  refine ⟨fun i hi => ?_, hv.numbered.nodup_alternatives, fun n hn i p hp => ?_⟩
  · obtain ⟨n, hn, h, hmem, htoken⟩ := hv.exists_retraces hc hi
    exact ⟨n, hn, h, hmem, h.copyOf_eq_none, htoken⟩
  · have hmem : p ∈ s.alternatives :=
      mem_alternatives.2 ⟨n, _, Arena.get?_eq_some_get hn, List.mem_of_getElem? hp⟩
    exact ⟨hc.alternatives_mem hmem, hv.numbered.alternative n hn i p hp⟩

/-- A specification changed after it was written. -/
theorem valid_guarantees_sums :
    let written := ((Draft.start {}).run Op.sums).spec
    let s : Spec :=
      { written with
        rootFrame := written.globalObject
        tokens := written.tokens.modify ⟨0⟩ fun t => { t with name := "a", ignored := true } }
    s.Closed ∧ s.Valid ∧ (⟨1⟩ : OccurrenceId) ∈ s.occurrences ∧ s.primary ⟨1⟩ = ⟨0⟩ ∧
      (∀ i ∈ s.occurrences, ∃ n ≤ 1, s.Retraces i n (s.primary i) ∧
        s.primary i ∈ s.occurrences ∧ (s.occurrences.get (s.primary i)).copyOf = none ∧
        (s.occurrences.get (s.primary i)).token = (s.occurrences.get i).token) ∧
      (s.nonterminals.toList.flatMap (·.alternatives)).Nodup ∧
      ∀ n ∈ s.nonterminals, ∀ (i : Nat) (p : ProductionId),
        (s.nonterminals.get n).alternatives[i]? = some p →
          p ∈ s.productions ∧ (s.productions.get p).number = i ∧
            (s.productions.get p).owner = some n := by
  intro written s
  have hc : s.Closed := by decide +kernel
  have hv : s.Valid := by decide +kernel
  exact ⟨hc, hv, by decide +kernel, by decide +kernel, valid_guarantees hc hv⟩

end LangSpec.Spec
