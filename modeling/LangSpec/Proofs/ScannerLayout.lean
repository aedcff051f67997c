import LangSpec.Proofs.Identity

/-!
# Where the regions and the pools of a scanner are

Pools and regions are only ever made for a new scanner, three pools and four
regions at a time. So the place of a region tells its scanner and its part in
it, and no two scanners share a region or a pool.

* `Scanner.regionAt`, `Scanner.poolAt`: the region and the pool for a part;
* `ScannerLayout`: pools and regions are where they should be, and a region uses
  the pool for its part;
* `checkScanner_eq_nil`: the check of the scanners never fails.
-/

namespace LangSpec

/-- The place of a region among the four of its scanner. -/
def Role.place : Role → Nat
  | mixed => 0
  | tokenOnly => 1
  | ignoreOnly => 2
  | collect => 3

theorem Role.place_lt (role : Role) : role.place < 4 := by
  cases role <;> decide

theorem Role.place_injective {r r' : Role} (h : r.place = r'.place) : r = r' := by
  cases r <;> cases r' <;> first | rfl | exact absurd h (by decide)

namespace Scanner

/-- The region that plays a part in the scanner `c`. -/
def regionAt (c : ScannerId) (role : Role) : RegionId := ⟨4 * c.index + role.place⟩

/-- The pool for a part in the scanner `c`. The collecting region has none of
    its own. -/
def poolAt (c : ScannerId) (role : Role) : PoolId := ⟨3 * c.index + min role.place 2⟩

theorem index_regionAt (c : ScannerId) (role : Role) :
    (regionAt c role).index = 4 * c.index + role.place := rfl

theorem index_poolAt (c : ScannerId) (role : Role) :
    (poolAt c role).index = 3 * c.index + min role.place 2 := rfl

theorem regionAt_injective {c c' : ScannerId} {r r' : Role} (h : regionAt c r = regionAt c' r') :
    c = c' ∧ r = r' := by
  have h := congrArg Handle.index h
  have hr := r.place_lt
  have hr' := r'.place_lt
  rw [index_regionAt, index_regionAt] at h
  exact ⟨Handle.index_injective (by omega), Role.place_injective (by omega)⟩

theorem poolAt_injective {c c' : ScannerId} {r r' : Role} (h : poolAt c r = poolAt c' r') :
    c = c' := by
  have h := congrArg Handle.index h
  rw [index_poolAt, index_poolAt] at h
  exact Handle.index_injective (by omega)

end Scanner

/-- The region playing the part `role` in the scanner `c` uses the pool for this
    part, and the collecting region goes with that of the ignored tokens. -/
def Region.Plays (c : ScannerId) (role : Role) (r : Region) : Prop :=
  r.pool = Scanner.poolAt c role ∧
    r.collectsFor = if role = .collect then some (Scanner.regionAt c .ignoreOnly) else none

/-- The pools and the regions of all scanners are where they should be. -/
structure ScannerLayout (pools : Arena .pools Pool) (regions : Arena .regions Region)
    (scanners : Arena .scanners Scanner) : Prop where
  pools_size : pools.size = 3 * scanners.size
  regions_size : regions.size = 4 * scanners.size
  scanner : scanners.Forall fun c x => ∀ role,
    x.region role = Scanner.regionAt c role ∧ x.poolFor role = Scanner.poolAt c role
  region : ∀ c ∈ scanners, ∀ role, (regions.get (Scanner.regionAt c role)).Plays c role

namespace ScannerLayout

variable {pools : Arena .pools Pool} {regions : Arena .regions Region}
  {scanners : Arena .scanners Scanner}

theorem region_mem (h : ScannerLayout pools regions scanners) {c : ScannerId} (hc : c ∈ scanners)
    (role : Role) : Scanner.regionAt c role ∈ regions := by
  have hr := role.place_lt
  rw [Arena.mem_iff] at hc ⊢
  rw [h.regions_size, Scanner.index_regionAt]
  omega

theorem pool_mem (h : ScannerLayout pools regions scanners) {c : ScannerId} (hc : c ∈ scanners)
    (role : Role) : Scanner.poolAt c role ∈ pools := by
  rw [Arena.mem_iff] at hc ⊢
  rw [h.pools_size, Scanner.index_poolAt]
  omega

/-- Every pool is the pool for a part in a scanner. -/
theorem exists_poolAt (h : ScannerLayout pools regions scanners) {p : PoolId} (hp : p ∈ pools) :
    ∃ c ∈ scanners, ∃ role, role ≠ .collect ∧ p = Scanner.poolAt c role := by
  rw [Arena.mem_iff, h.pools_size] at hp
  have hc : (⟨p.index / 3⟩ : ScannerId) ∈ scanners := Nat.div_lt_of_lt_mul hp
  -- The remainder tells the part, as a scanner has three pools.
  have hplace : p.index = 3 * (p.index / 3) ∨ p.index = 3 * (p.index / 3) + 1 ∨
      p.index = 3 * (p.index / 3) + 2 := by omega
  refine ⟨_, hc, ?_⟩
  rcases hplace with e | e | e
  · exact ⟨.mixed, by decide, Handle.index_injective e⟩
  · exact ⟨.tokenOnly, by decide, Handle.index_injective e⟩
  · exact ⟨.ignoreOnly, by decide, Handle.index_injective e⟩

theorem empty : ScannerLayout .empty .empty .empty where
  pools_size := rfl
  regions_size := rfl
  scanner := .empty
  region := fun _ hc => absurd hc (Nat.not_lt_zero _)

/-- Regions changed in other respects. -/
theorem modifyRegion {r : RegionId} {f : Region → Region}
    (h : ScannerLayout pools regions scanners) (hp : ∀ x, (f x).pool = x.pool)
    (hf : ∀ x, (f x).collectsFor = x.collectsFor) :
    ScannerLayout pools (regions.modify r f) scanners where
  pools_size := h.pools_size
  regions_size := (Arena.size_modify _ _ _).trans h.regions_size
  scanner := h.scanner
  region := by
    intro c hc role
    have hpool := Arena.apply_get_modify (a := regions) (h := r) (g := Region.pool) hp
    have hcollects := Arena.apply_get_modify (a := regions) (h := r) (g := Region.collectsFor) hf
    rw [Region.Plays, hpool, hcollects]
    exact h.region c hc role

/-- Scanners and pools changed in other respects. -/
theorem modifyScanner {c : ScannerId} {f : Scanner → Scanner}
    (h : ScannerLayout pools regions scanners)
    (hf : ∀ x role, (f x).region role = x.region role ∧ (f x).poolFor role = x.poolFor role) :
    ScannerLayout pools regions (scanners.modify c f) where
  pools_size := by rw [h.pools_size, Arena.size_modify]
  regions_size := by rw [h.regions_size, Arena.size_modify]
  scanner := by
    refine Arena.Forall.modify h.scanner fun x _ hx role => ?_
    rw [(hf x role).1, (hf x role).2]
    exact hx role
  region := fun c hc => h.region c (Arena.mem_modify.1 hc)

theorem modifyPool {p : PoolId} {f : Pool → Pool} (h : ScannerLayout pools regions scanners) :
    ScannerLayout (pools.modify p f) regions scanners :=
  { h with pools_size := (Arena.size_modify _ _ _).trans h.pools_size }

end ScannerLayout

namespace Spec

variable {s s' : Spec}

/-- The pools and the regions of all scanners are where they should be. -/
abbrev ScannersLaidOut (s : Spec) : Prop := ScannerLayout s.pools s.regions s.scanners

/-- The regions of an old scanner lie before those of a new one. -/
theorem ScannersLaidOut.regions_addScanner {loc : Location} (h : s.ScannersLaidOut)
    {c : ScannerId} (hc : c ∈ s.scanners) (role : Role) :
    (s.addScanner loc).regions.get (Scanner.regionAt c role) =
      s.regions.get (Scanner.regionAt c role) := by
  have hmem := h.region_mem hc role
  simp only [Spec.addScanner]
  rw [Arena.get_push_of_mem, Arena.get_push_of_mem, Arena.get_push_of_mem,
    Arena.get_push_of_mem hmem]
  all_goals simp [hmem]

/-- So do its pools. -/
theorem ScannersLaidOut.pools_addScanner {loc : Location} (h : s.ScannersLaidOut)
    {c : ScannerId} (hc : c ∈ s.scanners) (role : Role) :
    (s.addScanner loc).pools.get (Scanner.poolAt c role) =
      s.pools.get (Scanner.poolAt c role) := by
  have hmem := h.pool_mem hc role
  simp only [Spec.addScanner]
  rw [Arena.get_push_of_mem, Arena.get_push_of_mem, Arena.get_push_of_mem hmem]
  all_goals simp [hmem]

theorem ScannersLaidOut.addScanner {loc : Location} (h : s.ScannersLaidOut) :
    (s.addScanner loc).ScannersLaidOut where
  pools_size := by
    have := h.pools_size
    simp only [Spec.addScanner, Arena.size_push]
    omega
  regions_size := by
    have := h.regions_size
    simp only [Spec.addScanner, Arena.size_push]
    omega
  scanner := by
    refine Arena.Forall.push h.scanner fun role => ?_
    have hr := h.regions_size
    have hp := h.pools_size
    constructor
    · refine Handle.index_injective ?_
      cases role <;> simp [Scanner.region, Scanner.index_regionAt, Role.place, hr, Arena.next]
    · refine Handle.index_injective ?_
      cases role <;> simp [Scanner.poolFor, Scanner.index_poolAt, Role.place, hp, Arena.next]
  region := by
    intro c hc role
    have hr := h.regions_size
    have hp := h.pools_size
    rcases Arena.mem_push.1 hc with hc | rfl
    · rw [h.regions_addScanner hc role]
      exact h.region c hc role
    · cases role <;>
        simp [Spec.addScanner, Arena.get, Arena.get?_push, Scanner.regionAt, Arena.next, Role.place,
          hr, Region.Plays, Scanner.poolAt, hp, Nat.add_assoc]

theorem ScannersLaidOut.addToken {t : Token} (h : s.ScannersLaidOut) :
    (s.addToken t).ScannersLaidOut :=
  h.modifyScanner fun _ role => by cases role <;> exact ⟨rfl, rfl⟩

theorem ScannersLaidOut.addOccurrences {token : TokenId} (h : s.ScannersLaidOut) :
    (s.addOccurrences token).ScannersLaidOut :=
  h.modifyPool.modifyPool

theorem Edit.scannersLaidOut (he : s.Edit s') (h : s.ScannersLaidOut) : s'.ScannersLaidOut := by
  cases he with
  | addScanner => exact h.addScanner
  | addToken | addLiteral => exact h.addToken.addOccurrences
  | addSentinel => exact h.addToken
  | setAtEnd => exact h.modifyRegion (fun _ => rfl) fun _ => rfl
  | _ => exact h

theorem Bind.scannersLaidOut {n : NonterminalId} (hb : Bind n s s') (h : s.ScannersLaidOut) :
    s'.ScannersLaidOut := by
  cases hb <;> exact h

theorem Steps.scannersLaidOut (hs : Steps s s') (hc : s.Closed) (h : s.ScannersLaidOut) :
    s'.ScannersLaidOut :=
  (hs.preserves hc Edit.scannersLaidOut id Bind.scannersLaidOut id h).2

/-! ## The check -/

theorem checkScanner_eq_nil (h : s.ScannersLaidOut) {c : ScannerId} {x : Scanner}
    (hx : s.scanners.get? c = some x) : s.checkScanner x = [] := by
  have hregion := fun role => h.region c (Arena.mem_of_get? hx) role
  have hscanner := h.scanner c x hx
  have hcollect : x.collect = Scanner.regionAt c .collect := (hscanner .collect).1
  have hignore : x.ignoreOnly = Scanner.regionAt c .ignoreOnly := (hscanner .ignoreOnly).1
  rw [checkScanner, List.append_eq_nil_iff, ensure_eq_nil, List.flatMap_eq_nil_iff]
  constructor
  · rw [hcollect, hignore, (hregion .collect).1, (hregion .collect).2, (hregion .ignoreOnly).1]
    simp [Scanner.poolAt, Role.place]
  · intro role _
    rw [checkRegion, ensure_eq_nil, (hscanner role).1, (hscanner role).2, (hregion role).1,
      beq_self_eq_true]

end Spec

end LangSpec
