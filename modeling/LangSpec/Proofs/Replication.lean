import LangSpec.Proofs.ScannerLayout
import Mathlib.Data.List.Nodup

/-!
# Tokens and their occurrences

A token that is no sentinel occurs twice: in the mixed region of its scanner
and, as a duplicate, in the region for its sort. Both occurrences are made when
the token is declared, one right after the other, and are put into the pools of
these regions; no other occurrences are ever made.

* `Token.Occurs`: how a token occurs;
* `Replicated`: tokens, occurrences, scanners and pools fit together;
* `addToken_addOccurrences`: what a new token does to the tables, in one
  equation;
* `checkOccurrence_eq_nil`, `checkToken_eq_nil`: two checks that never fail.
-/

namespace LangSpec

namespace Token

/-- The part of the region the duplicate of the token is in. -/
def secondRole (t : Token) : Role := if t.ignored then .ignoreOnly else .tokenOnly

/-- The token `token`, as it occurs in the region for a part. -/
def occurrenceAt (t : Token) (token : TokenId) (id : OccurrenceId) (role : Role)
    (copyOf : Option OccurrenceId) : Occurrence :=
  { id, loc := t.loc, token, regex := t.regex, home := t.home
    region := Scanner.regionAt t.scanner role, copyOf }

/-- The token occurs as it should. -/
inductive Occurs (t : Token) (token : TokenId) (occurrences : Arena .occurrences Occurrence) : Prop
  /-- A sentinel, which is never ignored, does not occur. -/
  | never (hz : t.sentinel = true) (hi : t.ignored = false) (ho : t.occurrences = [])
  /-- Any other token occurs twice in a row, first in the mixed region of its
      scanner and then, as a duplicate, in that for its sort. -/
  | twice {p : OccurrenceId} (hz : t.sentinel = false) (ho : t.occurrences = [p, p.succ])
      (hfirst : occurrences.get? p = some (t.occurrenceAt token p .mixed none))
      (hsecond : occurrences.get? p.succ =
        some (t.occurrenceAt token p.succ t.secondRole (some p)))

theorem Occurs.grow {t : Token} {k : TokenId}
    {occurrences occurrences' : Arena .occurrences Occurrence} (h : t.Occurs k occurrences)
    (ho : ∀ i o, occurrences.get? i = some o → occurrences'.get? i = some o) :
    t.Occurs k occurrences' := by
  cases h with
  | never hz hi hn => exact .never hz hi hn
  | twice hz hp hfirst hsecond => exact .twice hz hp (ho _ _ hfirst) (ho _ _ hsecond)

/-- The occurrences of the token in the region for a part. -/
def occurrencesIn (t : Token) : Role → List OccurrenceId
  | .mixed => t.occurrences.take 1
  | .tokenOnly => if t.ignored then [] else t.occurrences.drop 1
  | .ignoreOnly | .collect => if t.ignored then t.occurrences.drop 1 else []

end Token

/-- The pool with one more occurrence. -/
def Pool.add (o : OccurrenceId) (p : Pool) : Pool := { p with occurrences := p.occurrences ++ [o] }

theorem Pool.get_modify_add {pools : Arena .pools Pool} {h h' : PoolId} {o : OccurrenceId}
    (hh : h ∈ pools) : ((pools.modify h (Pool.add o)).get h').occurrences =
      (pools.get h').occurrences ++ if h' = h then [o] else [] := by
  by_cases e : h' = h
  · rw [e, Arena.get_modify_self hh, if_pos rfl]
    rfl
  · rw [Arena.get_modify_of_ne (Ne.symm e), if_neg e, List.append_nil]

/-- Every token is listed with its scanner and occurs as it should, and there are
    no other occurrences. -/
structure Replicated (scanners : Arena .scanners Scanner) (pools : Arena .pools Pool)
    (tokens : Arena .tokens Token) (occurrences : Arena .occurrences Occurrence) : Prop where
  occurs : tokens.Forall fun k t => t.Occurs k occurrences
  owned : occurrences.Forall fun i o => ∃ t, tokens.get? o.token = some t ∧ i ∈ t.occurrences
  listed : tokens.Forall fun k t => ∃ x, scanners.get? t.scanner = some x ∧ k ∈ x.tokens
  lists : scanners.Forall fun c x =>
    x.tokens.Nodup ∧ ∀ k ∈ x.tokens, ∃ t, tokens.get? k = some t ∧ t.scanner = c
  pooled : scanners.Forall fun c x => ∀ role, (pools.get (Scanner.poolAt c role)).occurrences =
    x.tokens.flatMap fun k => (tokens.get k).occurrencesIn role

namespace Replicated

variable {scanners : Arena .scanners Scanner} {pools pools' : Arena .pools Pool}
  {tokens : Arena .tokens Token} {occurrences occurrences' : Arena .occurrences Occurrence}

theorem empty : Replicated .empty .empty .empty .empty :=
  ⟨.empty, .empty, .empty, .empty, .empty⟩

theorem mem_tokens (h : Replicated scanners pools tokens occurrences) {c : ScannerId}
    {x : Scanner} (hx : scanners.get? c = some x) {k : TokenId} (hk : k ∈ x.tokens) :
    k ∈ tokens := by
  obtain ⟨t, ht, -⟩ := (h.lists c x hx).2 k hk
  exact Arena.mem_of_get? ht

/-- What the tokens of a scanner contribute to a region does not depend on later
    tokens. -/
theorem flatMap_push (h : Replicated scanners pools tokens occurrences) {c : ScannerId}
    {x : Scanner} (hx : scanners.get? c = some x) {t : Token} {role : Role} :
    (x.tokens.flatMap fun k => ((tokens.push t).get k).occurrencesIn role) =
      x.tokens.flatMap fun k => (tokens.get k).occurrencesIn role := by
  rw [List.flatMap_def, List.flatMap_def]
  congr 1
  refine List.map_congr_left fun k hk => ?_
  rw [Arena.get_push_of_mem (h.mem_tokens hx hk)]

/-- A new token, listed with its scanner, and its occurrences, put into the pools
    of this scanner. -/
theorem addToken {t : Token} (h : Replicated scanners pools tokens occurrences)
    (hc : t.scanner ∈ scanners)
    (hkept : ∀ i o, occurrences.get? i = some o → occurrences'.get? i = some o)
    (hnew : ∀ i o, occurrences'.get? i = some o →
      occurrences.get? i = some o ∨ o.token = tokens.next ∧ i ∈ t.occurrences)
    (ht : t.Occurs tokens.next occurrences')
    (hpools : ∀ c role, (pools'.get (Scanner.poolAt c role)).occurrences =
      (pools.get (Scanner.poolAt c role)).occurrences ++
        if c = t.scanner then t.occurrencesIn role else []) :
    Replicated (scanners.modify t.scanner fun x => { x with tokens := x.tokens ++ [tokens.next] })
      pools' (tokens.push t) occurrences' where
  occurs := Arena.Forall.push (h.occurs.imp fun _ _ _ hk => hk.grow hkept) ht
  owned := by
    intro i o ho
    rcases hnew i o ho with ho | ⟨e, hi⟩
    · obtain ⟨t', ht', hi⟩ := h.owned i o ho
      exact ⟨t', Arena.get?_push_of_get? ht', hi⟩
    · exact ⟨t, by rw [e, Arena.get?_push_next], hi⟩
  listed := by
    refine Arena.Forall.push (h.listed.imp fun k t' _ ⟨x, hx, hk⟩ => ?_) ?_
    · rw [Arena.get?_modify, hx]
      split
      · exact ⟨_, rfl, List.mem_append_left _ hk⟩
      · exact ⟨x, rfl, hk⟩
    · rw [Arena.get?_modify, if_pos rfl, Arena.get?_eq_some_get hc]
      exact ⟨_, rfl, List.mem_append_right _ (List.mem_singleton_self _)⟩
  lists := by
    refine Arena.Forall.modify (h.lists.imp (Q := fun c x => x.tokens.Nodup ∧
      ∀ k ∈ x.tokens, ∃ t', (tokens.push t).get? k = some t' ∧ t'.scanner = c) ?_) ?_
    · intro c x hx ⟨hnd, hall⟩
      refine ⟨hnd, fun k hk => ?_⟩
      obtain ⟨t', ht', e⟩ := hall k hk
      exact ⟨t', Arena.get?_push_of_get? ht', e⟩
    · intro x hx ⟨hnd, hall⟩
      -- The scanner lists old tokens only, so the new one is not listed twice.
      have hnext : tokens.next ∉ x.tokens := fun hk => Arena.not_next_mem (h.mem_tokens hx hk)
      refine ⟨?_, fun k hk => ?_⟩
      · rw [List.nodup_append]
        exact ⟨hnd, List.nodup_singleton _, fun k hk k' hk' e =>
          hnext (List.mem_singleton.1 hk' ▸ e ▸ hk)⟩
      · rcases List.mem_append.1 hk with hk | hk
        · exact hall k hk
        · exact ⟨t, by rw [List.mem_singleton.1 hk, Arena.get?_push_next], rfl⟩
  pooled := by
    intro c x hx role
    rw [Arena.get?_modify] at hx
    split at hx
    next e =>
      -- The scanner of the token: it comes last there, and so in the pools.
      obtain ⟨x₀, hx₀, rfl⟩ := Option.map_eq_some_iff.1 hx
      rw [hpools, if_pos e.symm, h.pooled c x₀ hx₀ role, List.flatMap_append,
        List.flatMap_singleton, Arena.get_push_next, h.flatMap_push hx₀]
    next e =>
      rw [hpools, if_neg (Ne.symm e), List.append_nil, h.pooled c x hx role, h.flatMap_push hx]

end Replicated

namespace Spec

variable {s s' : Spec}

/-- What a new token that occurs does to the tables. -/
theorem addToken_addOccurrences (h : s.ScannersLaidOut) {t : Token} (hc : t.scanner ∈ s.scanners) :
    (s.addToken t).addOccurrences s.tokens.next =
      let token := s.tokens.next
      let p := s.occurrences.next
      { s.addToken t with
        tokens := s.tokens.push { t with id := token, occurrences := [p, p.succ] }
        occurrences := (s.occurrences.push (t.occurrenceAt token p .mixed none)).push
          (t.occurrenceAt token p.succ t.secondRole (some p))
        pools := (s.pools.modify (Scanner.poolAt t.scanner .mixed) (Pool.add p)).modify
          (Scanner.poolAt t.scanner t.secondRole) (Pool.add p.succ) } := by
  have hc' : t.scanner ∈ (s.addToken t).scanners := Arena.mem_modify.2 hc
  have hscanner := h.addToken.scanner t.scanner _ (Arena.get?_eq_some_get hc')
  have hmixed : ((s.addToken t).scanners.get t.scanner).mixed = Scanner.regionAt t.scanner .mixed :=
    (hscanner .mixed).1
  have hsecond : (if t.ignored then ((s.addToken t).scanners.get t.scanner).ignoreOnly
      else ((s.addToken t).scanners.get t.scanner).tokenOnly) =
      Scanner.regionAt t.scanner t.secondRole := by
    rw [Token.secondRole]
    split
    · exact (hscanner .ignoreOnly).1
    · exact (hscanner .tokenOnly).1
  have hpool (role : Role) : ((s.addToken t).regions.get (Scanner.regionAt t.scanner role)).pool =
      Scanner.poolAt t.scanner role := (h.region t.scanner hc role).1
  have hget : (s.addToken t).tokens.get s.tokens.next =
      { t with id := s.tokens.next, occurrences := [] } := Arena.get_push_next
  -- The token is changed twice more, to list its occurrences.
  have hmod : ∀ f : Token → Token, (s.addToken t).tokens.modify s.tokens.next f =
      s.tokens.push (f { t with id := s.tokens.next, occurrences := [] }) := fun _ =>
    Arena.modify_push_next
  rw [addOccurrences, hget]
  simp only [hmixed, hsecond, addOccurrence, hget, hmod, Arena.modify_push_next,
    Arena.get_push_next, hpool, Arena.next_push]
  rfl

/-- Every token is listed with its scanner and occurs as it should. -/
abbrev TokensReplicated (s : Spec) : Prop :=
  Replicated s.scanners s.pools s.tokens s.occurrences

theorem TokensReplicated.addScanner {loc : Location} (hl : s.ScannersLaidOut)
    (h : s.TokensReplicated) : (s.addScanner loc).TokensReplicated where
  occurs := h.occurs
  owned := h.owned
  listed := h.listed.imp fun k t _ ⟨x, hx, hk⟩ => ⟨x, Arena.get?_push_of_get? hx, hk⟩
  lists := Arena.Forall.push h.lists ⟨List.nodup_nil, fun _ hk => absurd hk List.not_mem_nil⟩
  pooled := by
    refine Arena.Forall.push (h.pooled.imp fun c x hx hp role => ?_) fun role => ?_
    · rw [hl.pools_addScanner (Arena.mem_of_get? hx) role]
      exact hp role
    · -- The pools of the new scanner come after all others, and are empty.
      have hp := hl.pools_size
      cases role <;>
        simp [Spec.addScanner, Arena.get, Arena.get?_push, Scanner.poolAt, Arena.next, Role.place,
          hp, Nat.add_assoc]

theorem TokensReplicated.addSentinel {t : Token} (h : s.TokensReplicated)
    (hc : t.scanner ∈ s.scanners) (hz : t.sentinel = true) (hi : t.ignored = false) :
    (s.addToken t).TokensReplicated := by
  refine Replicated.addToken (t := { t with id := s.tokens.next, occurrences := [] }) h hc
    (fun _ _ => id) (fun _ _ => .inl) (.never hz hi rfl) fun c role => ?_
  have hnone : ({ t with id := s.tokens.next, occurrences := [] } : Token).occurrencesIn role =
      [] := by
    cases role <;> simp [Token.occurrencesIn]
  rw [hnone, ite_self, List.append_nil]
  rfl

theorem TokensReplicated.addOccurring {t : Token} (hl : s.ScannersLaidOut)
    (h : s.TokensReplicated) (hc : t.scanner ∈ s.scanners) (hz : t.sentinel = false) :
    ((s.addToken t).addOccurrences s.tokens.next).TokensReplicated := by
  rw [addToken_addOccurrences hl hc]
  let t' : Token :=
    { t with id := s.tokens.next, occurrences := [s.occurrences.next, s.occurrences.next.succ] }
  refine Replicated.addToken (t := t') h hc ?_ ?_ ?_ ?_
  · intro i o ho
    exact Arena.get?_push_of_get? (Arena.get?_push_of_get? ho)
  · -- An occurrence is the duplicate, the primary one, or an old one.
    intro i o ho
    rw [Arena.get?_push, Arena.get?_push, Arena.next_push] at ho
    split at ho
    next e =>
      cases ho
      exact .inr ⟨rfl, e ▸ List.mem_cons_of_mem _ List.mem_cons_self⟩
    next =>
      split at ho
      next e =>
        cases ho
        exact .inr ⟨rfl, e ▸ List.mem_cons_self⟩
      next => exact .inl ho
  · refine .twice hz rfl (Arena.get?_push_of_get? (Arena.get?_push_next _ _)) ?_
    exact Arena.get?_push_push_succ
  · intro c role
    rw [Pool.get_modify_add (Arena.mem_modify.2 (hl.pool_mem hc _)),
      Pool.get_modify_add (hl.pool_mem hc _), List.append_assoc]
    congr 1
    -- One of the two pools is meant only if they are those of the scanner.
    by_cases e : c = t.scanner
    · rw [if_pos e, e]
      cases role <;> cases hi : t.ignored <;>
        simp [Scanner.poolAt, Role.place, Token.secondRole, Token.occurrencesIn, t', hi]
    · have hne (role' : Role) : Scanner.poolAt c role ≠ Scanner.poolAt t.scanner role' :=
        fun h => e (Scanner.poolAt_injective h)
      rw [if_neg e, if_neg (hne _), if_neg (hne _)]
      rfl

theorem Edit.tokensReplicated (he : s.Edit s') (hl : s.ScannersLaidOut)
    (h : s.TokensReplicated) : s'.TokensReplicated := by
  cases he with
  | addScanner => exact h.addScanner hl
  | addToken ht hz => exact h.addOccurring hl ht.scanner hz
  | addLiteral ht hz => exact h.addOccurring hl ht.scanner hz
  | addSentinel ht hz hi => exact h.addSentinel ht.scanner hz hi
  | _ => exact h

theorem Bind.tokensReplicated {n : NonterminalId} (hb : Bind n s s') (h : s.TokensReplicated) :
    s'.TokensReplicated := by
  cases hb <;> exact h

theorem Steps.tokensReplicated (hs : Steps s s') (hc : s.Closed) (hl : s.ScannersLaidOut)
    (h : s.TokensReplicated) : s'.ScannersLaidOut ∧ s'.TokensReplicated :=
  (hs.preserves (Q := fun s => s.ScannersLaidOut ∧ s.TokensReplicated) hc
    (fun he h => ⟨he.scannersLaidOut h.1, he.tokensReplicated h.1 h.2⟩) id
    (fun hb h => ⟨hb.scannersLaidOut h.1, hb.tokensReplicated h.2⟩) id ⟨hl, h⟩).2

/-! ## The checks -/

theorem checkOccurrence_eq_nil (h : s.TokensReplicated) {i : OccurrenceId} {o : Occurrence}
    (ho : s.occurrences.get? i = some o) : s.checkOccurrence o = [] := by
  obtain ⟨t, ht, hi⟩ := h.owned i o ho
  cases h.occurs o.token t ht with
  | never hz _ hn => exact absurd (hn ▸ hi) List.not_mem_nil
  | twice hz hp hfirst hsecond =>
    rw [hp, List.mem_pair] at hi
    rcases hi with rfl | rfl
    · rw [Option.some.inj (ho.symm.trans hfirst)]
      rfl
    · rw [Option.some.inj (ho.symm.trans hsecond)]
      simp [checkOccurrence, Arena.get_eq hfirst, ensure_eq_nil, Occurrence.isDuplicate,
        Token.occurrenceAt]

theorem checkToken_eq_nil (h : s.TokensReplicated) {k : TokenId} {t : Token}
    (ht : s.tokens.get? k = some t) : s.checkToken t = [] := by
  rw [checkToken, ensure_eq_nil]
  cases h.occurs k t ht with
  | never hz _ hn => simp [hn, hz]
  | twice hz hp hfirst hsecond =>
    simp [hp, hz, Arena.get_eq hfirst, Arena.get_eq hsecond, Occurrence.isDuplicate,
      Token.occurrenceAt]

end Spec

end LangSpec
