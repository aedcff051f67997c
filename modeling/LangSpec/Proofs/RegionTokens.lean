import LangSpec.Proofs.Replication

/-!
# What the regions of a scanner look for

Of the tokens of a scanner, all but the sentinels occur twice, and know it: the
mixed region looks for their primary occurrences, and each of the other regions
for the duplicates of its sort, all in the order of declaration. No two scanners
have anything in common.

* `Scanner.Replicates`: what holds of the tokens of a scanner;
* `replicates_of_reachable`: it holds of all scanners, in every draft that can be
  reached.
-/

namespace LangSpec

/-- What holds of the tokens of the scanner `x`. The primary occurrence of a token
    is given by `p`, and its duplicate comes right after. -/
structure Scanner.Replicates (s : Spec) (p : TokenId → OccurrenceId) (x : Scanner) : Prop where
  /-- The two are the occurrences that the token lists, in this order. -/
  twice : ∀ k ∈ x.tokens, (s.tokens.get k).sentinel = false →
    (s.tokens.get k).occurrences = [p k, (p k).succ]
  /-- A sentinel lists none. -/
  never : ∀ k ∈ x.tokens, (s.tokens.get k).sentinel = true → (s.tokens.get k).occurrences = []
  /-- The primary occurrence of a token, in the mixed region. -/
  primary : ∀ k ∈ x.tokens, (s.tokens.get k).sentinel = false →
    s.occurrences.get? (p k) = some
      { id := p k
        loc := (s.tokens.get k).loc
        token := k
        regex := (s.tokens.get k).regex
        home := (s.tokens.get k).home
        region := x.mixed
        copyOf := none }
  /-- Its duplicate, in the region for its sort. -/
  duplicate : ∀ k ∈ x.tokens, (s.tokens.get k).sentinel = false →
    s.occurrences.get? (p k).succ = some
      { id := (p k).succ
        loc := (s.tokens.get k).loc
        token := k
        regex := (s.tokens.get k).regex
        home := (s.tokens.get k).home
        region := if (s.tokens.get k).ignored then x.ignoreOnly else x.tokenOnly
        copyOf := some (p k) }
  /-- There are no other occurrences of the token, and none of a sentinel. -/
  occurrence : ∀ k ∈ x.tokens, ∀ i ∈ s.occurrences, (s.occurrences.get i).token = k ↔
    (s.tokens.get k).sentinel = false ∧ (i = p k ∨ i = (p k).succ)
  /-- What the mixed region looks for. -/
  mixed : s.regionTokens x.mixed =
    (x.tokens.filter fun k => !(s.tokens.get k).sentinel).map p
  /-- What the region of the tokens that are not ignored looks for. -/
  tokenOnly : s.regionTokens x.tokenOnly =
    (x.tokens.filter fun k => !(s.tokens.get k).sentinel && !(s.tokens.get k).ignored).map
      fun k => (p k).succ
  /-- What the region of the ignored tokens looks for. -/
  ignoreOnly : s.regionTokens x.ignoreOnly =
    (x.tokens.filter fun k => (s.tokens.get k).ignored).map fun k => (p k).succ
  /-- What the collecting region looks for. -/
  collect : s.regionTokens x.collect =
    (x.tokens.filter fun k => (s.tokens.get k).ignored).map fun k => (p k).succ

/-- The first occurrence of a token. -/
def Token.first (t : Token) : OccurrenceId := t.occurrences.headD default

theorem flatMap_eq_map_filter {α β : Type} {xs : List α} {f : α → List β} {g : α → β}
    {b : α → Bool} (h : ∀ x ∈ xs, f x = if b x then [g x] else []) :
    xs.flatMap f = (xs.filter b).map g := by
  induction xs with
  | nil => rfl
  | cons x xs ih =>
    rw [List.forall_mem_cons] at h
    rw [List.flatMap_cons, h.1, ih h.2, List.filter_cons]
    split <;> rfl

namespace Token.Occurs

variable {t : Token} {k : TokenId} {occurrences : Arena .occurrences Occurrence}

theorem occurrences_eq (h : t.Occurs k occurrences) :
    t.occurrences = if t.sentinel then [] else [t.first, t.first.succ] := by
  cases h with
  | never hz _ ho => rw [if_pos hz, ho]
  | twice hz ho => simp [first, hz, ho]

theorem primary (h : t.Occurs k occurrences) (hz : t.sentinel = false) :
    occurrences.get? t.first = some (t.occurrenceAt k t.first .mixed none) := by
  cases h with
  | never hz' => exact absurd (hz.symm.trans hz') Bool.false_ne_true
  | twice _ ho hfirst => rwa [first, ho, List.headD_cons]

theorem duplicate (h : t.Occurs k occurrences) (hz : t.sentinel = false) :
    occurrences.get? t.first.succ =
      some (t.occurrenceAt k t.first.succ t.secondRole (some t.first)) := by
  cases h with
  | never hz' => exact absurd (hz.symm.trans hz') Bool.false_ne_true
  | twice _ ho _ hsecond => rwa [first, ho, List.headD_cons]

theorem mem_occurrences (h : t.Occurs k occurrences) {i : OccurrenceId} :
    i ∈ t.occurrences ↔ t.sentinel = false ∧ (i = t.first ∨ i = t.first.succ) := by
  rw [h.occurrences_eq]
  cases t.sentinel <;> simp

theorem mixed (h : t.Occurs k occurrences) :
    t.occurrencesIn .mixed = if !t.sentinel then [t.first] else [] := by
  rw [occurrencesIn, h.occurrences_eq]
  cases t.sentinel <;> rfl

theorem tokenOnly (h : t.Occurs k occurrences) :
    t.occurrencesIn .tokenOnly = if !t.sentinel && !t.ignored then [t.first.succ] else [] := by
  rw [occurrencesIn, h.occurrences_eq]
  cases t.sentinel <;> cases t.ignored <;> rfl

/-- No sentinel is ignored. -/
theorem ignoreOnly (h : t.Occurs k occurrences) :
    t.occurrencesIn .ignoreOnly = if t.ignored then [t.first.succ] else [] := by
  cases h with
  | never _ hi => simp [occurrencesIn, hi]
  | twice _ ho => simp [occurrencesIn, first, ho]

/-- An occurrence is in the region for one part only, but for the collecting
    region, which shares the pool of another one. -/
theorem exists_role (h : t.Occurs k occurrences) {i : OccurrenceId} (hi : i ∈ t.occurrences) :
    ∃ role, i ∈ t.occurrencesIn role ∧
      ∀ role' ≠ .collect, i ∈ t.occurrencesIn role' → role' = role := by
  have hne (j : OccurrenceId) : j ≠ j.succ := fun e =>
    Nat.succ_ne_self _ (congrArg Handle.index e).symm
  obtain ⟨hz, rfl | rfl⟩ := h.mem_occurrences.1 hi
  · -- The primary occurrence is in the mixed region.
    refine ⟨.mixed, by simp [h.mixed, hz], fun role' hr hi' => ?_⟩
    cases role' with
    | mixed => rfl
    | tokenOnly => simp [h.tokenOnly, hne] at hi'
    | ignoreOnly => simp [h.ignoreOnly, hne] at hi'
    | collect => exact absurd rfl hr
  · -- The duplicate is in the region for the sort of the token.
    refine ⟨t.secondRole, ?_, fun role' hr hi' => ?_⟩
    · cases hg : t.ignored <;> simp [secondRole, hg, h.tokenOnly, h.ignoreOnly, hz]
    · cases role' with
      | mixed => simp [h.mixed, (hne _).symm] at hi'
      | tokenOnly => cases hg : t.ignored <;> simp [h.tokenOnly, hg, secondRole] at hi' ⊢
      | ignoreOnly => cases hg : t.ignored <;> simp [h.ignoreOnly, hg, secondRole] at hi' ⊢
      | collect => exact absurd rfl hr

theorem mem_of_mem_occurrencesIn {t : Token} {i : OccurrenceId} {role : Role}
    (hi : i ∈ t.occurrencesIn role) : i ∈ t.occurrences := by
  cases role with
  | mixed => exact List.mem_of_mem_take hi
  | tokenOnly | ignoreOnly | collect =>
    rw [occurrencesIn] at hi
    split at hi
    all_goals first
      | exact List.mem_of_mem_drop hi
      | exact absurd hi List.not_mem_nil

end Token.Occurs

namespace Spec

variable {s : Spec}

theorem regionTokens_eq (hl : s.ScannersLaidOut) (h : s.TokensReplicated) {c : ScannerId}
    {x : Scanner} (hx : s.scanners.get? c = some x) (role : Role) :
    s.regionTokens (x.region role) =
      x.tokens.flatMap fun k => (s.tokens.get k).occurrencesIn role := by
  rw [regionTokens, (hl.scanner c x hx role).1, (hl.region c (Arena.mem_of_get? hx) role).1,
    h.pooled c x hx role]

theorem TokensReplicated.mem_occurrences (h : s.TokensReplicated) {k : TokenId}
    (hk : k ∈ s.tokens) {i : OccurrenceId} (hi : i ∈ (s.tokens.get k).occurrences) :
    i ∈ s.occurrences := by
  have hoccurs := h.occurs k _ (Arena.get?_eq_some_get hk)
  obtain ⟨hz, rfl | rfl⟩ := hoccurs.mem_occurrences.1 hi
  · exact Arena.mem_of_get? (hoccurs.primary hz)
  · exact Arena.mem_of_get? (hoccurs.duplicate hz)

/-- The occurrences of a token are the ones listed with it. -/
theorem TokensReplicated.token_eq_iff (h : s.TokensReplicated) {k : TokenId} (hk : k ∈ s.tokens)
    {i : OccurrenceId} (hi : i ∈ s.occurrences) :
    (s.occurrences.get i).token = k ↔ i ∈ (s.tokens.get k).occurrences := by
  have hoccurs := h.occurs k _ (Arena.get?_eq_some_get hk)
  constructor
  · rintro rfl
    obtain ⟨t, ht, hmem⟩ := h.owned i _ (Arena.get?_eq_some_get hi)
    rwa [Arena.get_eq ht]
  · intro hmem
    obtain ⟨hz, rfl | rfl⟩ := hoccurs.mem_occurrences.1 hmem
    · rw [Arena.get_eq (hoccurs.primary hz)]
      rfl
    · rw [Arena.get_eq (hoccurs.duplicate hz)]
      rfl

theorem TokensReplicated.replicates (hl : s.ScannersLaidOut) (h : s.TokensReplicated)
    {c : ScannerId} {x : Scanner} (hx : s.scanners.get? c = some x) :
    x.Replicates s fun k => (s.tokens.get k).first := by
  -- Where the regions of the scanner are, and what is listed there.
  have hregion := fun role => (hl.scanner c x hx role).1
  have hmixed : x.mixed = Scanner.regionAt c .mixed := hregion .mixed
  have htokenOnly : x.tokenOnly = Scanner.regionAt c .tokenOnly := hregion .tokenOnly
  have hignoreOnly : x.ignoreOnly = Scanner.regionAt c .ignoreOnly := hregion .ignoreOnly
  have hoccurs : ∀ k ∈ x.tokens, (s.tokens.get k).Occurs k s.occurrences := fun k hk =>
    h.occurs k _ (Arena.get?_eq_some_get (h.mem_tokens hx hk))
  have hscanner : ∀ k ∈ x.tokens, (s.tokens.get k).scanner = c := by
    intro k hk
    obtain ⟨t, ht, e⟩ := (h.lists c x hx).2 k hk
    rwa [Arena.get_eq ht]
  refine ⟨?_, ?_, ?_, ?_, ?_, ?_, ?_, ?_, ?_⟩
  · intro k hk hz
    rw [(hoccurs k hk).occurrences_eq, hz, if_neg Bool.false_ne_true]
  · intro k hk hz
    rw [(hoccurs k hk).occurrences_eq, hz, if_pos rfl]
  · intro k hk hz
    rw [(hoccurs k hk).primary hz, hmixed, ← hscanner k hk]
    rfl
  · intro k hk hz
    rw [(hoccurs k hk).duplicate hz, Token.occurrenceAt, Token.secondRole, hscanner k hk,
      htokenOnly, hignoreOnly]
    split <;> rfl
  · intro k hk i hi
    rw [h.token_eq_iff (h.mem_tokens hx hk) hi, (hoccurs k hk).mem_occurrences]
  · exact (regionTokens_eq hl h hx .mixed).trans
      (flatMap_eq_map_filter fun k hk => (hoccurs k hk).mixed)
  · exact (regionTokens_eq hl h hx .tokenOnly).trans
      (flatMap_eq_map_filter fun k hk => (hoccurs k hk).tokenOnly)
  · exact (regionTokens_eq hl h hx .ignoreOnly).trans
      (flatMap_eq_map_filter fun k hk => (hoccurs k hk).ignoreOnly)
  · exact (regionTokens_eq hl h hx .collect).trans
      (flatMap_eq_map_filter fun k hk => (hoccurs k hk).ignoreOnly)

/-- Two scanners have no region in common and no pool, and their regions use
    different pools. -/
theorem ScannersLaidOut.disjoint (hl : s.ScannersLaidOut) {c c' : ScannerId} (hc : c ∈ s.scanners)
    (hc' : c' ∈ s.scanners) (hne : c ≠ c') (role role' : Role) :
    (s.scanners.get c).region role ≠ (s.scanners.get c').region role' ∧
      (s.scanners.get c).poolFor role ≠ (s.scanners.get c').poolFor role' ∧
      (s.regions.get ((s.scanners.get c).region role)).pool ≠
        (s.regions.get ((s.scanners.get c').region role')).pool := by
  have h := hl.scanner c _ (Arena.get?_eq_some_get hc) role
  have h' := hl.scanner c' _ (Arena.get?_eq_some_get hc') role'
  rw [h.1, h'.1, h.2, h'.2, (hl.region c hc role).1, (hl.region c' hc' role').1]
  exact ⟨fun e => hne (Scanner.regionAt_injective e).1, fun e => hne (Scanner.poolAt_injective e),
    fun e => hne (Scanner.poolAt_injective e)⟩

/-- Every occurrence is in one pool only. -/
theorem TokensReplicated.existsUnique_pool (hl : s.ScannersLaidOut) (h : s.TokensReplicated)
    {i : OccurrenceId} (hi : i ∈ s.occurrences) :
    ∃! q, q ∈ s.pools ∧ i ∈ (s.pools.get q).occurrences := by
  obtain ⟨t, ht, hmem⟩ := h.owned i _ (Arena.get?_eq_some_get hi)
  obtain ⟨x, hx, hk⟩ := h.listed _ t ht
  obtain ⟨role, hrole, hunique⟩ := (h.occurs _ t ht).exists_role hmem
  refine ⟨Scanner.poolAt t.scanner role, ⟨hl.pool_mem (Arena.mem_of_get? hx) role, ?_⟩, ?_⟩
  · rw [h.pooled _ x hx role]
    exact List.mem_flatMap.2 ⟨_, hk, by rwa [Arena.get_eq ht]⟩
  · rintro q ⟨hq, hiq⟩
    obtain ⟨c, hc, role', hr, rfl⟩ := hl.exists_poolAt hq
    rw [h.pooled c _ (Arena.get?_eq_some_get hc) role'] at hiq
    obtain ⟨k, hkc, hik⟩ := List.mem_flatMap.1 hiq
    -- The token in the pool is the one that occurs here, so its scanner is `c`.
    have hkt := h.mem_tokens (Arena.get?_eq_some_get hc) hkc
    have e := (h.token_eq_iff hkt hi).2 (Token.Occurs.mem_of_mem_occurrencesIn hik)
    obtain ⟨t', ht', rfl⟩ := (h.lists c _ (Arena.get?_eq_some_get hc)).2 k hkc
    rw [← e, ht] at ht'
    cases ht'
    rw [← e, Arena.get_eq ht] at hik
    rw [hunique role' hr hik]

end Spec

namespace Draft

variable {o : Options} {d : Draft}

theorem Reachable.tokensReplicated (hd : Reachable o d) :
    d.spec.ScannersLaidOut ∧ d.spec.TokensReplicated :=
  Spec.Steps.tokensReplicated hd.steps (Spec.closed_initial o) .empty .empty

/-- The tokens of every scanner list their occurrences and occur in its regions as
    they should, no two scanners have regions or pools in common, and every
    occurrence is in one pool only. -/
theorem replicates_of_reachable (hd : Reachable o d) :
    (∃ p, ∀ c ∈ d.spec.scanners, (d.spec.scanners.get c).Replicates d.spec p) ∧
    (∀ c ∈ d.spec.scanners, ∀ c' ∈ d.spec.scanners, c ≠ c' → ∀ role role',
      (d.spec.scanners.get c).region role ≠ (d.spec.scanners.get c').region role' ∧
      (d.spec.scanners.get c).poolFor role ≠ (d.spec.scanners.get c').poolFor role' ∧
      (d.spec.regions.get ((d.spec.scanners.get c).region role)).pool ≠
        (d.spec.regions.get ((d.spec.scanners.get c').region role')).pool) ∧
    ∀ i ∈ d.spec.occurrences, ∃! q, q ∈ d.spec.pools ∧ i ∈ (d.spec.pools.get q).occurrences := by
  obtain ⟨hl, h⟩ := hd.tokensReplicated
  refine ⟨⟨_, fun c hc => h.replicates hl (Arena.get?_eq_some_get hc)⟩, ?_, ?_⟩
  · exact fun c hc c' hc' hne => hl.disjoint hc hc' hne
  · exact fun i hi => h.existsUnique_pool hl hi

theorem replicates_sums :
    let d := (start {}).run Op.sums
    Reachable {} d ∧
    (∃ p, ∀ c ∈ d.spec.scanners, (d.spec.scanners.get c).Replicates d.spec p) ∧
    (∀ c ∈ d.spec.scanners, ∀ c' ∈ d.spec.scanners, c ≠ c' → ∀ role role',
      (d.spec.scanners.get c).region role ≠ (d.spec.scanners.get c').region role' ∧
      (d.spec.scanners.get c).poolFor role ≠ (d.spec.scanners.get c').poolFor role' ∧
      (d.spec.regions.get ((d.spec.scanners.get c).region role)).pool ≠
        (d.spec.regions.get ((d.spec.scanners.get c').region role')).pool) ∧
    ∀ i ∈ d.spec.occurrences, ∃! q, q ∈ d.spec.pools ∧ i ∈ (d.spec.pools.get q).occurrences := by
  exact ⟨reachable_sums, replicates_of_reachable reachable_sums⟩

end Draft

end LangSpec
