import LangSpec.Proofs.Endurance
import LangSpec.Proofs.Placement
import LangSpec.Proofs.RegionTokens

/-!
# Closed scanners

Tokens are put into the innermost open scanner, and only a new scanner is ever
opened. So a scanner that is closed stays as it is: no token comes to it, none
of its regions looks for anything else, and none gets other code to run at the
end. The scanner made for a token declared while no scanner is open is never
open after it, so this token has it for itself, and shares none of its regions
with another one.

* `Spec.Freezes`: a scanner is the same, with its pools and regions;
* `Spec.Alone`, `Spec.Apart`: a token on its own, and two tokens without a
  common region;
* `ScanningEffect.freezes`: an operation leaves a closed scanner alone;
* `Reachable.freezes_run`, `Reachable.alone_run`: so does a walk;
* `closed_scanners_stay`: the law, from any draft on.
-/

namespace LangSpec

namespace Spec

variable {s s' s'' : Spec} {c : ScannerId}

/-- The scanner `c` is the same, with what its regions look for and the code they
    run at the end. -/
structure Freezes (c : ScannerId) (s s' : Spec) : Prop where
  scanner : s'.scanners.get c = s.scanners.get c
  region : ∀ role, s'.regions.get ((s.scanners.get c).region role) =
    s.regions.get ((s.scanners.get c).region role)
  pool : ∀ role, s'.pools.get ((s.scanners.get c).poolFor role) =
    s.pools.get ((s.scanners.get c).poolFor role)

/-- The token `k` is the only one of its scanner. -/
structure Alone (s : Spec) (k : TokenId) : Prop where
  tokens : (s.scanners.get (s.tokens.get k).scanner).tokens = [k]
  /-- A region of the scanner looks for the token where it should. -/
  regionTokens : ∀ role, s.regionTokens ((s.scanners.get (s.tokens.get k).scanner).region role) =
    (s.tokens.get k).occurrencesIn role
  /-- It looks for nothing else. -/
  occurrence : ∀ role,
    ∀ i ∈ s.regionTokens ((s.scanners.get (s.tokens.get k).scanner).region role),
      i ∈ s.occurrences ∧ (s.occurrences.get i).token = k

/-- The scanners of two tokens have no region in common, and the tokens do not
    occur in the same region. -/
structure Apart (s : Spec) (k k' : TokenId) : Prop where
  region : ∀ role role', (s.scanners.get (s.tokens.get k).scanner).region role ≠
    (s.scanners.get (s.tokens.get k').scanner).region role'
  occurrence : ∀ i ∈ s.occurrences, ∀ i' ∈ s.occurrences,
    (s.occurrences.get i).token = k → (s.occurrences.get i').token = k' →
      (s.occurrences.get i).region ≠ (s.occurrences.get i').region

namespace Freezes

theorem of_eq (h : s'.scanning = s.scanning) : s.Freezes c s' where
  scanner := congrArg (fun t : Scanning => t.scanners.get c) h
  region _ := congrArg (fun t : Scanning => t.regions.get _) h
  pool _ := congrArg (fun t : Scanning => t.pools.get _) h

theorem trans (h : s.Freezes c s') (h' : s'.Freezes c s'') : s.Freezes c s'' where
  scanner := h'.scanner.trans h.scanner
  region role := (h.scanner ▸ h'.region role).trans (h.region role)
  pool role := (h.scanner ▸ h'.pool role).trans (h.pool role)

theorem congr (h : s.Freezes c s') (hs : s''.scanning = s'.scanning) : s.Freezes c s'' :=
  h.trans (.of_eq hs)

end Freezes

/-- Regions and pools are looked up where the layout has them. -/
theorem ScannersLaidOut.freezes (hl : s.ScannersLaidOut) (hc : c ∈ s.scanners)
    (hscanner : s'.scanners.get c = s.scanners.get c)
    (hregion : ∀ role, s'.regions.get (Scanner.regionAt c role) =
      s.regions.get (Scanner.regionAt c role))
    (hpool : ∀ role, s'.pools.get (Scanner.poolAt c role) =
      s.pools.get (Scanner.poolAt c role)) : s.Freezes c s' where
  scanner := hscanner
  region role := (hl.scanner c _ (Arena.get?_eq_some_get hc) role).1 ▸ hregion role
  pool role := (hl.scanner c _ (Arena.get?_eq_some_get hc) role).2 ▸ hpool role

/-! ## Another scanner -/

theorem ScannersLaidOut.freezes_addScanner {loc : Location} (hl : s.ScannersLaidOut)
    (hc : c ∈ s.scanners) : s.Freezes c (s.addScanner loc) :=
  hl.freezes hc (Arena.get_push_of_mem hc) (hl.regions_addScanner hc) (hl.pools_addScanner hc)

theorem ScannersLaidOut.freezes_addToken {t : Token} (hl : s.ScannersLaidOut)
    (hc : c ∈ s.scanners) (hne : t.scanner ≠ c) : s.Freezes c (s.addToken t) :=
  hl.freezes hc (Arena.get_modify_of_ne hne) (fun _ => rfl) fun _ => rfl

/-- The occurrences of a token are put into the pools of its scanner only. -/
theorem ScannersLaidOut.freezes_addOccurring {t : Token} (hl : s.ScannersLaidOut)
    (hc : c ∈ s.scanners) (ht : t.scanner ∈ s.scanners) (hne : t.scanner ≠ c) :
    s.Freezes c ((s.addToken t).addOccurrences s.tokens.next) := by
  rw [addToken_addOccurrences hl ht]
  refine hl.freezes hc (Arena.get_modify_of_ne hne) (fun _ => rfl) fun role => ?_
  have hpool (role' : Role) : Scanner.poolAt t.scanner role' ≠ Scanner.poolAt c role :=
    fun e => hne (Scanner.poolAt_injective e)
  exact (Arena.get_modify_of_ne (hpool _)).trans (Arena.get_modify_of_ne (hpool _))

theorem ScannersLaidOut.freezes_setAtEnd {c' : ScannerId} {code : Code} (hl : s.ScannersLaidOut)
    (hc : c ∈ s.scanners) (hc' : c' ∈ s.scanners) (hne : c' ≠ c) :
    s.Freezes c (s.setAtEnd (s.scanners.get c').mixed code) := by
  have hmixed : (s.scanners.get c').mixed = Scanner.regionAt c' .mixed :=
    (hl.scanner c' _ (Arena.get?_eq_some_get hc') .mixed).1
  rw [hmixed]
  refine hl.freezes hc rfl (fun role => ?_) fun _ => rfl
  exact Arena.get_modify_of_ne fun e => hne (Scanner.regionAt_injective e).1

/-! ## Tokens on their own -/

/-- An occurrence is in a region of the scanner of its token. -/
theorem TokensReplicated.exists_region (h : s.TokensReplicated) {i : OccurrenceId}
    (hi : i ∈ s.occurrences) : ∃ role, (s.occurrences.get i).region =
      Scanner.regionAt (s.tokens.get (s.occurrences.get i).token).scanner role := by
  obtain ⟨t, ht, hmem⟩ := h.owned i _ (Arena.get?_eq_some_get hi)
  have hoccurs := h.occurs _ t ht
  rw [Arena.get_eq ht]
  obtain ⟨hz, rfl | rfl⟩ := hoccurs.mem_occurrences.1 hmem
  · rw [Arena.get_eq (hoccurs.primary hz)]
    exact ⟨_, rfl⟩
  · rw [Arena.get_eq (hoccurs.duplicate hz)]
    exact ⟨_, rfl⟩

/-- A token is on its own if its scanner lists no other one. -/
theorem TokensReplicated.alone (h : s.TokensReplicated) (hl : s.ScannersLaidOut) {k : TokenId}
    (hk : k ∈ s.tokens) (htokens : (s.scanners.get (s.tokens.get k).scanner).tokens = [k]) :
    s.Alone k := by
  obtain ⟨x, hx, -⟩ := h.listed k _ (Arena.get?_eq_some_get hk)
  have hregions (role : Role) :
      s.regionTokens ((s.scanners.get (s.tokens.get k).scanner).region role) =
        (s.tokens.get k).occurrencesIn role := by
    rw [regionTokens_eq hl h (Arena.get?_eq_some_get (Arena.mem_of_get? hx)) role, htokens,
      List.flatMap_singleton]
  refine ⟨htokens, hregions, fun role i hi => ?_⟩
  have hmem := Token.Occurs.mem_of_mem_occurrencesIn (hregions role ▸ hi)
  have hi := h.mem_occurrences hk hmem
  exact ⟨hi, (h.token_eq_iff hk hi).2 hmem⟩

theorem Alone.mem_scanners {k : TokenId} (h : s.Alone k) :
    (s.tokens.get k).scanner ∈ s.scanners := by
  by_contra hc
  have htokens := h.tokens
  rw [Arena.get_of_not_mem hc] at htokens
  exact List.cons_ne_nil _ _ htokens.symm

/-- Two tokens on their own have different scanners. -/
theorem Alone.scanner_ne {k k' : TokenId} (h : s.Alone k) (h' : s.Alone k') (hne : k ≠ k') :
    (s.tokens.get k).scanner ≠ (s.tokens.get k').scanner := by
  intro e
  have htokens := h.tokens
  rw [e, h'.tokens] at htokens
  exact hne (List.singleton_injective htokens).symm

theorem Alone.apart {k k' : TokenId} (h : s.Alone k) (h' : s.Alone k') (hne : k ≠ k')
    (hl : s.ScannersLaidOut) (hr : s.TokensReplicated) : s.Apart k k' where
  region role role' :=
    (hl.disjoint h.mem_scanners h'.mem_scanners (h.scanner_ne h' hne) role role').1
  occurrence := by
    rintro i hi i' hi' rfl rfl e
    obtain ⟨role, hrole⟩ := hr.exists_region hi
    obtain ⟨role', hrole'⟩ := hr.exists_region hi'
    rw [hrole, hrole'] at e
    exact h.scanner_ne h' hne (Scanner.regionAt_injective e).1

end Spec

namespace Draft

variable {o : Options} {d : Draft} {op : Op} {ops : List Op} {c : ScannerId} {k : TokenId}

/-- In the walk `ops` from `d`, the token `k` is declared while no scanner is
    open. -/
def DeclaresAlone (d : Draft) (ops : List Op) (k : TokenId) : Prop :=
  ∃ e op, d.Performs ops e op ∧ e.openScanners = [] ∧ op.declares e = some k

/-! ## What stays of a closed scanner -/

theorem Hosts.freezes {c' : ScannerId} {s : Spec} (h : d.Hosts c' s)
    (hl : d.spec.ScannersLaidOut) (hc : c ∈ d.spec.scanners) : d.spec.Freezes c s := by
  cases h with
  | inner _ hs => exact .of_eq hs
  | own _ _ _ hs => exact (hl.freezes_addScanner hc).congr hs

/-- An operation leaves a scanner that is not open alone. -/
theorem ScanningEffect.freezes {s' : Spec} (h : d.ScanningEffect op s') (hd : d.Sound)
    (hl : d.spec.ScannersLaidOut) (hc : c ∈ d.spec.scanners) (ho : c ∉ d.openScanners) :
    d.spec.Freezes c s' := by
  -- What is written to is the innermost open scanner.
  have hne {c' : ScannerId} (hc' : d.scanner? = some c') : c' ≠ c :=
    fun e => ho (e ▸ List.mem_of_head? hc')
  cases h with
  | nothing _ h => exact .of_eq h
  | scanner loc _ h => exact (hl.freezes_addScanner hc).congr h
  | @token s t _ hs _ _ h =>
    have hold : c ∈ s.scanners := (hs.mem_scanners hd).2 (.inl hc)
    have hmem : t.scanner ∈ s.scanners := (hs.mem_scanners hd).2 (.inr rfl)
    have hadded := (hs.scannersLaidOut hl).freezes_addOccurring hold hmem
      (hs.ne_of_not_open hc ho)
    exact ((hs.freezes hl hc).trans hadded).congr h
  | sentinel _ hc' _ _ h => exact (hl.freezes_addToken hc (hne hc')).congr h
  | atEnd code _ hc' h =>
    exact (hl.freezes_setAtEnd hc (hd.scanner hc') (hne hc')).congr h

/-- A scanner that is there and not open stays so, and is left alone. -/
theorem Reachable.freezes_run (hd : Reachable o d) (hops : d.AdmitsAll ops)
    (hc : c ∈ d.spec.scanners) (ho : c ∉ d.openScanners) :
    c ∉ (d.run ops).openScanners ∧ d.spec.Freezes c (d.run ops).spec := by
  induction ops generalizing d with
  | nil => exact ⟨ho, .of_eq rfl⟩
  | cons op ops ih =>
    obtain ⟨hop, hops⟩ := hops
    have hfreezes := (hd.sound.scanningEffect hop).freezes hd.sound hd.tokensReplicated.1 hc ho
    have hendures := (hd.sound.effect hop).steps.endures hd.sound.closed
    have ho' : c ∉ (op.apply d).openScanners := by
      intro hopen
      rcases hd.sound.mem_openScanners_apply hop hopen with h | rfl
      · exact ho h
      · exact Arena.not_next_mem hc
    obtain ⟨hclosed, hrest⟩ := ih (hd.step hop) hops (hendures.scanners c hc).1 ho'
    exact ⟨hclosed, hfreezes.trans hrest⟩

/-! ## Tokens declared while no scanner is open -/

/-- Opening and closing declare nothing. -/
theorem isBracket_of_declares (h : op.declares d = some k) : op.isBracket = false := by
  cases op with
  | openNamespace | closeNamespace | openScanner | closeScanner | openContext | closeContext
  | openFrame | closeFrame | openScope | closeScope => exact nomatch h
  | _ => rfl

theorem Sound.openScanners_of_declares (hd : d.Sound) (hop : d.Admits op)
    (h : op.declares d = some k) : (op.apply d).openScanners = d.openScanners :=
  congrArg Position.openScanners (hd.position_apply hop (isBracket_of_declares h))

/-- A token declared while no scanner is open gets a scanner of its own. -/
theorem ScanningEffect.own_scanner {s' : Spec} (h : d.ScanningEffect op s') (hd : d.Sound)
    (hl : d.spec.ScannersLaidOut) (ho : d.openScanners = []) (hk : op.declares d = some k) :
    k ∈ s'.tokens ∧ (s'.scanners.get (s'.tokens.get k).scanner).tokens = [k] := by
  have hnone : d.scanner? = none := List.head?_eq_none_iff.2 ho
  cases h with
  | nothing hk' | scanner _ hk' | atEnd _ hk' => exact nomatch hk.symm.trans hk'
  | sentinel _ hc => exact nomatch hnone.symm.trans hc
  | @token s t hk' hs _ _ h =>
    cases Option.some.inj (hk.symm.trans hk')
    have htokens := hs.tokens
    have hmem : t.scanner ∈ s.scanners := (hs.mem_scanners hd).2 (.inr rfl)
    rw [Spec.addToken_addOccurrences (hs.scannersLaidOut hl) hmem] at h
    -- The new token comes to the end of the tokens, and to the new scanner.
    have htokens' := congrArg Scanning.tokens h
    have hscanners' := congrArg Scanning.scanners h
    simp only [Spec.scanning, Spec.addToken] at htokens' hscanners'
    rw [htokens', hscanners', ← htokens, Arena.get_push_next, Arena.get_modify_self hmem]
    refine ⟨Arena.next_mem_push, ?_⟩
    cases hs with
    | inner hc => exact nomatch hnone.symm.trans hc
    | own loc _ hc hs =>
      have hscanners : s.scanners = (d.spec.addScanner loc).scanners :=
        congrArg Scanning.scanners hs
      rw [hscanners, hc]
      exact congrArg (· ++ _) (congrArg Scanner.tokens Arena.get_push_next)

/-- A token declared while no scanner is open is on its own for the rest of the
    walk. -/
theorem Reachable.alone_run (hd : Reachable o d) (hops : d.AdmitsAll ops)
    (hk : d.DeclaresAlone ops k) : (d.run ops).spec.Alone k := by
  obtain ⟨e, op, hperforms, ho, hk⟩ := hk
  obtain ⟨he, hop, rest, hrest, hrun⟩ := hperforms.exists_rest hd hops
  have he' := he.step hop
  obtain ⟨hmem, htokens⟩ :=
    (he.sound.scanningEffect hop).own_scanner he.sound he.tokensReplicated.1 ho hk
  have hclosed : (op.apply e).openScanners = [] :=
    (he.sound.openScanners_of_declares hop hk).trans ho
  have halone := he'.tokensReplicated.2.alone he'.tokensReplicated.1 hmem htokens
  obtain ⟨-, hfreezes⟩ := he'.freezes_run hrest halone.mem_scanners
    (hclosed ▸ List.not_mem_nil)
  -- The token stays as it is, and so does its scanner.
  obtain ⟨hmem', hstays⟩ := he'.retains_tokens hrest k hmem
  have hscanner : (((op.apply e).run rest).spec.tokens.get k).scanner =
      ((op.apply e).spec.tokens.get k).scanner := congrArg Token.scanner hstays
  obtain ⟨hl, hr⟩ := (he'.run hrest).tokensReplicated
  rw [hrun]
  refine hr.alone hl hmem' ?_
  rw [hscanner, hfreezes.scanner, htokens]

/-- A scanner that is not open is never open again, and stays as it is whatever
    is written, with its pools and its regions. So a token declared while no
    scanner is open keeps the scanner made for it to itself, and no two such
    tokens have a region in common. -/
theorem closed_scanners_stay (hd : Reachable o d) (hops : d.AdmitsAll ops) :
    (∀ c ∈ d.spec.scanners, c ∉ d.openScanners →
      c ∉ (d.run ops).openScanners ∧ d.spec.Freezes c (d.run ops).spec) ∧
    (∀ k, d.DeclaresAlone ops k → (d.run ops).spec.Alone k) ∧
    ∀ k k', d.DeclaresAlone ops k → d.DeclaresAlone ops k' → k ≠ k' →
      (d.run ops).spec.Apart k k' := by
  refine ⟨fun c hc ho => hd.freezes_run hops hc ho, fun k hk => hd.alone_run hops hk, ?_⟩
  intro k k' hk hk' hne
  obtain ⟨hl, hr⟩ := (hd.run hops).tokensReplicated
  exact (hd.alone_run hops hk).apart (hd.alone_run hops hk') hne hl hr

/-- A scanner is opened and closed, and a literal and a token are declared outside
    it. -/
theorem closed_scanners_stay_sums :
    let d := (start {}).run Op.sums
    let ops : List Op :=
      [ .openScanner ⟨9, 0⟩
      , .declareToken (.named { text := "digit" } (some (.ofLiteral { raw := "'1'" })))
      , .declareAtEnd [] ⟨1⟩ ⟨10, 0⟩
      , .closeScanner
      , .declareLiteral { raw := "'-'" } false false
      , .declareToken (.named { text := "times" } none) ]
    Reachable {} d ∧ d.AdmitsAll ops ∧ (⟨0⟩ : ScannerId) ∈ d.spec.scanners ∧ d.openScanners = [] ∧
      d.DeclaresAlone ops ⟨5⟩ ∧ d.DeclaresAlone ops ⟨6⟩ ∧
      (∀ c ∈ d.spec.scanners, c ∉ d.openScanners →
        c ∉ (d.run ops).openScanners ∧ d.spec.Freezes c (d.run ops).spec) ∧
      (∀ k, d.DeclaresAlone ops k → (d.run ops).spec.Alone k) ∧
      ∀ k k', d.DeclaresAlone ops k → d.DeclaresAlone ops k' → k ≠ k' →
        (d.run ops).spec.Apart k k' := by
  refine ⟨reachable_sums, ?_, ?_, ?_, ⟨_, _, .later (.later (.later (.later .now))), ?_, ?_⟩,
    ⟨_, _, .later (.later (.later (.later (.later .now)))), ?_, ?_⟩,
    closed_scanners_stay reachable_sums ?_⟩
  all_goals decide +kernel

end Draft

end LangSpec
