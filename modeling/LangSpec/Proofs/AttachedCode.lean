import LangSpec.Proofs.Finish
import LangSpec.Proofs.NewTokens
import LangSpec.Proofs.Reports

/-!
# Attached code

Code is handed over with tokens, productions and routines, and for the end of
the input of a scanner. Each token, production and routine is new, so its code is
attached once and stays. The mixed region of a scanner has room for one piece of
code, too, but it can be declared more than once: the last piece is attached,
and those before it are gone without a report.

* `Op.code?`, `Op.site?`: the code that an operation hands over, and what it is
  attached to;
* `Sound.codeAt_site`: it is attached by this operation;
* `Reachable.codeAt_run`: what is attached in the end is what came last;
* `code_kept_unless_replaced`: what is left of the code of a finished
  specification;
* `code_replaced`: a specification that has lost code.
-/

namespace LangSpec

/-- What code is attached to. -/
inductive Site
  | region (r : RegionId)
  | token (k : TokenId)
  | production (p : ProductionId)
  | routine (f : RoutineId)
deriving DecidableEq

/-- The handle of what the code is attached to. -/
def Site.handle : Site → AnyHandle
  | region r => ⟨.regions, r.index⟩
  | token k => ⟨.tokens, k.index⟩
  | production p => ⟨.productions, p.index⟩
  | routine f => ⟨.routines, f.index⟩

/-- The code that is attached. -/
def Spec.codeAt (s : Spec) : Site → Option Code
  | .region r => (s.regions.get r).atEnd
  | .token k => (s.tokens.get k).action
  | .production p => (s.productions.get p).action
  | .routine f => (s.routines.get? f).map (·.code)

namespace Op

/-- The code that the operation hands over, if it does: as it is given, or with
    the innermost open context. An iterator has none. -/
def code? (d : Draft) : Op → Option Code
  | declareToken t => t.action
  | declareAtEnd stmts frame _ => some { stmts, frame, context := d.context? }
  | newProduction _ action _ _ _ _ => action
  | declareFunction _ _ stmts _ frame _ => some { stmts, frame, context := d.context? }
  | declareIterator _ _ stmts frame => some { stmts, frame, context := none }
  | _ => none

/-- What this code is for: the new token, production or routine, or the mixed
    region of the innermost open scanner. -/
def site? (d : Draft) : Op → Option Site
  | declareToken t => ((declareToken t).token? d).map fun t => .token t.id
  | declareAtEnd _ _ _ => d.scanner?.map fun c => .region (d.spec.scanners.get c).mixed
  | newProduction _ _ _ _ _ _ => some (.production d.spec.productions.next)
  | declareFunction _ _ _ _ _ _ | declareIterator _ _ _ _ => some (.routine d.spec.routines.next)
  | _ => none

end Op

/-! ## Productions and routines -/

namespace Spec

variable {s s' : Spec}

/-- The code of productions and routines stays. -/
structure KeepsCode (s s' : Spec) : Prop where
  productions : Arena.Retains Production.action s.productions s'.productions
  routines : Arena.Retains id s.routines s'.routines

theorem KeepsCode.refl (s : Spec) : s.KeepsCode s := ⟨.refl, .refl⟩

theorem KeepsCode.trans {s'' : Spec} (h : s.KeepsCode s') (h' : s'.KeepsCode s'') :
    s.KeepsCode s'' :=
  ⟨h.productions.trans h'.productions, h.routines.trans h'.routines⟩

theorem Edit.keepsCode (h : s.Edit s') : s.KeepsCode s' := by
  cases h with
  | renumber => exact ⟨.modify fun _ => rfl, .refl⟩
  | addRoutine => exact ⟨.refl, .push⟩
  | _ => exact ⟨.refl, .refl⟩

theorem Bind.keepsCode {n : NonterminalId} (h : Bind n s s') : s.KeepsCode s' := by
  cases h with
  | own | setCapture => exact ⟨.modify fun _ => rfl, .refl⟩
  | addSource | typed | bindField => exact ⟨.refl, .refl⟩

theorem Steps.keepsCode (h : Steps s s') (hc : s.Closed) : s.KeepsCode s' :=
  (h.preserves (Q := s.KeepsCode) hc (fun he hs => hs.trans he.keepsCode)
    (fun hs => hs.trans ⟨.push, .refl⟩) (fun hb hs => hs.trans hb.keepsCode)
    (fun hs => hs.trans ⟨.refl, .refl⟩) (.refl s)).2

end Spec

namespace Draft

variable {o : Options} {d : Draft} {op : Op} {x : Site}

/-! ## Regions -/

theorem retains_scannerFor (d : Draft) (loc : Location) :
    Arena.Retains id d.spec.regions (d.scannerFor loc).2.spec.regions := by
  rw [scannerFor]
  split
  next => exact .refl
  next => exact .trans (.trans (.trans .push .push) .push) .push

theorem retains_placeToken (d : Draft) (t : TokenDecl) (name : String) :
    Arena.Retains id d.spec.regions (d.placeToken t name).2.spec.regions := by
  have hs := d.retains_scannerFor t.loc
  rw [placeToken_eq]
  cases t.regex with
  | none => exact hs
  | some r =>
    refine Arena.Retains.trans hs (.of_eq ?_)
    exact congrArg Scanning.regions spares_addRegular.scanning

/-- Only code for the end of the input changes a region. -/
theorem Sound.retains_regions (hd : d.Sound) (hop : d.Admits op)
    (h : ∀ stmts frame loc, op ≠ .declareAtEnd stmts frame loc) :
    Arena.Retains id d.spec.regions (op.apply d).spec.regions := by
  cases op with
  | declareAtEnd stmts frame loc => exact absurd rfl (h stmts frame loc)
  | openScanner loc => exact .trans (.trans (.trans .push .push) .push) .push
  | declareToken t =>
    have happly : (Op.declareToken t).apply d = (d.declareToken t).2 := rfl
    rw [happly, declareToken]
    split
    next => exact .refl
    next =>
      split
      next => exact .refl
      next name _ => exact d.retains_placeToken t name
  | declareLiteral l joinsBefore joinsAfter =>
    have happly : (Op.declareLiteral l joinsBefore joinsAfter).apply d =
      (d.declareLiteral l joinsBefore joinsAfter).2 := rfl
    rw [happly, declareLiteral]
    split
    next => exact .refl
    next =>
      dsimp only
      rw [placeLiteral_eq]
      exact d.retains_scannerFor l.loc
  | declareSentinel name =>
    have happly : (Op.declareSentinel name).apply d = (d.declareSentinel name).2 := rfl
    rw [happly, declareSentinel]
    split <;> exact .refl
  | _ => exact .of_eq (congrArg Scanning.regions (hd.scanning_apply hop rfl))

/-! ## One operation -/

/-- Code that is handed over has a place, unless something is reported. -/
theorem exists_site {c : Code} (hc : op.code? d = some c) (h : (op.apply d).diagnostics = []) :
    ∃ x, op.site? d = some x := by
  cases op with
  | declareToken t =>
    have happly : (Op.declareToken t).apply d = (d.declareToken t).2 := rfl
    rw [happly, declareToken] at h
    rw [Op.site?, Op.token?]
    split at h
    next => exact absurd h diagnostics_report_ne_nil
    next hi =>
      rw [if_neg hi]
      cases hn : d.nameOf t with
      | none =>
        rw [hn] at h
        exact absurd h diagnostics_report_ne_nil
      | some name => exact ⟨_, rfl⟩
  | declareAtEnd stmts frame loc =>
    have happly : (Op.declareAtEnd stmts frame loc).apply d = d.declareAtEnd stmts frame loc := rfl
    rw [happly, declareAtEnd] at h
    rw [Op.site?]
    cases hc : d.scanner? with
    | none =>
      rw [hc] at h
      exact absurd h diagnostics_report_ne_nil
    | some c => exact ⟨_, rfl⟩
  | newProduction | declareFunction | declareIterator => exact ⟨_, rfl⟩
  | _ => cases hc

/-- The code is attached. -/
theorem Sound.codeAt_site (hd : d.Sound) (hop : d.Admits op) (hx : op.site? d = some x) :
    x.handle ∈ (op.apply d).spec ∧ (op.apply d).spec.codeAt x = op.code? d := by
  cases op with
  | declareToken t =>
    obtain ⟨t', ht, rfl⟩ := Option.map_eq_some_iff.1 hx
    have hb := hd.brings hop
    rw [ht] at hb
    cases hb with
    | token os htokens =>
      obtain ⟨name, rfl⟩ := exists_tokenOf ht
      have hmem : d.spec.tokens.next ∈ ((Op.declareToken t).apply d).spec.tokens :=
        htokens ▸ Arena.next_mem_push
      refine ⟨hmem, ?_⟩
      rw [Spec.codeAt, htokens]
      exact congrArg Token.action Arena.get_push_next
  | declareAtEnd stmts frame loc =>
    obtain ⟨c, hc, rfl⟩ := Option.map_eq_some_iff.1 hx
    have hm := (allHandles_scanner.1 (hd.closed.all.scanners.get (hd.scanner hc))).2.2.2.2.1
    have hm := Spec.covers_handle.1 hm
    have happly : (Op.declareAtEnd stmts frame loc).apply d = d.declareAtEnd stmts frame loc := rfl
    rw [happly, declareAtEnd, hc]
    refine ⟨Arena.mem_modify.2 hm, ?_⟩
    exact congrArg Region.atEnd (Arena.get_modify_self hm)
  | newProduction =>
    cases hx
    exact ⟨Arena.next_mem_push, congrArg Production.action Arena.get_push_next⟩
  | declareFunction | declareIterator =>
    cases hx
    exact ⟨Arena.next_mem_push, congrArg (Option.map Routine.code) (Arena.get?_push_next _ _)⟩
  | _ => cases hx

/-- What can be attached to something that was there before is code for the end of
    the input. -/
theorem region_of_site? (hx : op.site? d = some x) (hin : x.handle ∈ d.spec) :
    ∃ r c, x = .region r ∧ op.code? d = some c := by
  cases op with
  | declareToken t =>
    obtain ⟨t', ht, rfl⟩ := Option.map_eq_some_iff.1 hx
    obtain ⟨name, rfl⟩ := exists_tokenOf ht
    exact absurd hin Arena.not_next_mem
  | declareAtEnd stmts frame loc =>
    obtain ⟨c, -, rfl⟩ := Option.map_eq_some_iff.1 hx
    exact ⟨_, _, rfl, rfl⟩
  | newProduction | declareFunction | declareIterator =>
    cases hx
    exact absurd hin Arena.not_next_mem
  | _ => cases hx

/-- What other operations attach code to is left alone. -/
theorem Reachable.codeAt_apply (hd : Reachable o d) (hop : d.Admits op)
    (hin : x.handle ∈ d.spec) (hx : op.site? d ≠ some x) :
    (op.apply d).spec.codeAt x = d.spec.codeAt x := by
  have hkeeps := (hd.sound.effect hop).steps.keepsCode hd.sound.closed
  cases x with
  | token k =>
    have hops : d.AdmitsAll [op] := ⟨hop, trivial⟩
    have h := hd.retains_tokens hops k hin
    exact congrArg Token.action h.2
  | production p => exact (hkeeps.productions p hin).2
  | routine f =>
    obtain ⟨hmem, hget⟩ := hkeeps.routines f hin
    rw [Spec.codeAt, Spec.codeAt, Arena.get?_eq_some_get hmem, Arena.get?_eq_some_get hin]
    exact congrArg (fun r => some (Routine.code r)) hget
  | region r =>
    by_cases h : ∃ stmts frame loc, op = .declareAtEnd stmts frame loc
    · obtain ⟨stmts, frame, loc, rfl⟩ := h
      have happly : (Op.declareAtEnd stmts frame loc).apply d = d.declareAtEnd stmts frame loc :=
        rfl
      rw [happly, declareAtEnd]
      rw [Op.site?] at hx
      cases hc : d.scanner? with
      | none => rfl
      | some c =>
        have hne : (d.spec.scanners.get c).mixed ≠ r := by
          rintro rfl
          exact hx (by rw [hc]; rfl)
        exact congrArg Region.atEnd (Arena.get_modify_of_ne hne)
    · have h := hd.sound.retains_regions hop fun stmts frame loc e => h ⟨stmts, frame, loc, e⟩
      exact congrArg Region.atEnd (h r hin).2

/-! ## Walks -/

/-- The pieces of code that the operations hand over for `x`, in order. -/
def handedTo (d : Draft) (x : Site) : List Op → List Code
  | [] => []
  | op :: ops =>
    (if op.site? d = some x then (op.code? d).toList else []) ++ (op.apply d).handedTo x ops

/-- Of all that is handed over, the last piece is attached in the end. -/
theorem Reachable.codeAt_run {ops : List Op} (hd : Reachable o d) (hops : d.AdmitsAll ops)
    (hin : x.handle ∈ d.spec) :
    (d.run ops).spec.codeAt x = (d.handedTo x ops).getLast?.or (d.spec.codeAt x) := by
  induction ops generalizing d with
  | nil => rfl
  | cons op ops ih =>
    obtain ⟨hop, hops⟩ := hops
    have hgrows := (hd.sound.effect hop).steps.grows hd.sound.closed
    have hrest : (d.run (op :: ops)).spec.codeAt x =
        ((op.apply d).handedTo x ops).getLast?.or ((op.apply d).spec.codeAt x) :=
      ih (hd.step hop) hops (hgrows.mem hin)
    rw [hrest, handedTo]
    by_cases hx : op.site? d = some x
    · obtain ⟨r, c, -, hc⟩ := region_of_site? hx hin
      rw [(hd.sound.codeAt_site hop hx).2, if_pos hx, hc, List.getLast?_append]
      cases ((op.apply d).handedTo x ops).getLast? <;> rfl
    · rw [hd.codeAt_apply hop hin hx, if_neg hx, List.nil_append]

/-- Nothing more is handed over for anything but a region. -/
theorem Reachable.handedTo_eq_nil {ops : List Op} (hd : Reachable o d) (hops : d.AdmitsAll ops)
    (hin : x.handle ∈ d.spec) (hx : ∀ r, x ≠ .region r) : d.handedTo x ops = [] := by
  induction ops generalizing d with
  | nil => rfl
  | cons op ops ih =>
    obtain ⟨hop, hops⟩ := hops
    have hgrows := (hd.sound.effect hop).steps.grows hd.sound.closed
    have hsite : op.site? d ≠ some x := by
      intro h
      obtain ⟨r, -, hr, -⟩ := region_of_site? h hin
      exact hx r hr
    rw [handedTo, if_neg hsite, List.nil_append]
    exact ih (hd.step hop) hops (hgrows.mem hin)

/-- In a finished specification, all code that was handed over is attached to the
    token, the production or the routine it was written for, or to the mixed
    region of the scanner it was declared in, as it was given; but code for the
    end of the input is replaced if some is declared for the same region later,
    and the last piece stays. -/
theorem code_kept_unless_replaced {before rest : List Op} {op : Op} {s : Spec} {c : Code}
    (hops : (start o).AdmitsAll (before ++ op :: rest))
    (h : ((start o).run (before ++ op :: rest)).finish = .ok s)
    (hc : op.code? ((start o).run before) = some c) :
    let d := (start o).run before
    ∃ x, op.site? d = some x ∧
      s.codeAt x = some (((op.apply d).handedTo x rest).getLast?.getD c) ∧
      ((∀ r, x ≠ .region r) → s.codeAt x = some c) := by
  intro d
  obtain ⟨hbefore, hop, hrest⟩ := admitsAll_append.1 hops
  obtain ⟨rfl, hdiag, -⟩ := finish_eq_ok h
  have hd : Reachable o d := Reachable.start.run hbefore
  have hrun : (start o).run (before ++ op :: rest) = (op.apply d).run rest := run_append _ _ _
  rw [hrun] at hdiag ⊢
  obtain ⟨x, hx⟩ := exists_site hc (diagnostics_eq_nil hdiag)
  obtain ⟨hin, hat⟩ := hd.sound.codeAt_site hop hx
  have hend := (hd.step hop).codeAt_run hrest hin
  rw [hat, hc] at hend
  refine ⟨x, hx, hend.trans Option.or_some, fun hne => ?_⟩
  rw [hend, (hd.step hop).handedTo_eq_nil hrest hin hne]
  rfl

/-- A function of a context, which is closed before a scanner is given code for the
    end of the input. -/
theorem code_kept_unless_replaced_context :
    let stmts : List Stmt := [.print [] ⟨2, 0⟩]
    let before : List Op := [.openContext { text := "words" }]
    let op : Op := .declareFunction { text := "f" } [] stmts none ⟨1⟩ false
    let rest : List Op :=
      [.closeContext, .openScanner ⟨3, 0⟩, .declareAtEnd [] ⟨1⟩ ⟨4, 0⟩, .closeScanner]
    let d := (start {}).run (before ++ op :: rest)
    let c : Code := { stmts, frame := ⟨1⟩, context := some ⟨0⟩ }
    (start {}).AdmitsAll (before ++ op :: rest) ∧ d.finish = .ok d.spec ∧
      op.code? ((start {}).run before) = some c ∧
      op.site? ((start {}).run before) = some (.routine ⟨0⟩) ∧
      d.spec.codeAt (.routine ⟨0⟩) = some c := by
  intro stmts before op rest d c
  have hops : (start {}).AdmitsAll (before ++ op :: rest) := by decide +kernel
  have hs : d.finish = .ok d.spec := by apply finish_of_valid <;> decide +kernel
  have hc : op.code? ((start {}).run before) = some c := rfl
  have hsite : op.site? ((start {}).run before) = some (.routine ⟨0⟩) := rfl
  obtain ⟨x, hx, -, hkept⟩ := code_kept_unless_replaced hops hs hc
  cases Option.some.inj (hsite.symm.trans hx)
  exact ⟨hops, hs, hc, hsite, hkept (by rintro _ ⟨⟩)⟩

/-- A scanner is given code for the end of the input twice. Nothing is reported,
    and the statement of the first piece is nowhere in the specification. -/
theorem code_replaced :
    let before : List Op := [.openScanner ⟨1, 0⟩]
    let op : Op := .declareAtEnd [.print [] ⟨2, 0⟩] ⟨1⟩ ⟨2, 0⟩
    let d := (start {}).run (before ++ [op, .declareAtEnd [] ⟨1⟩ ⟨3, 0⟩, .closeScanner])
    Reachable {} d ∧ d.finish = .ok d.spec ∧
      op.code? ((start {}).run before) =
        some { stmts := [.print [] ⟨2, 0⟩], frame := ⟨1⟩, context := none } ∧
      ∀ x c, d.spec.codeAt x = some c → c.stmts = [] := by
  intro before op d
  refine ⟨Reachable.start.run (by decide +kernel), ?_, rfl, fun x c hc => ?_⟩
  · apply finish_of_valid <;> decide +kernel
  · cases x with
    | region r =>
      have hall : ∀ x ∈ d.spec.regions.toList, ∀ c ∈ x.atEnd, c.stmts.isEmpty := by decide +kernel
      by_cases hr : r ∈ d.spec.regions
      · have hmem := Arena.mem_toList.2 ⟨r, Arena.get?_eq_some_get hr⟩
        exact List.isEmpty_iff.1 (hall _ hmem c hc)
      · rw [Spec.codeAt, Arena.get_of_not_mem hr] at hc
        cases hc
    | token k | production k =>
      rw [Spec.codeAt, Arena.get_of_not_mem (Nat.not_lt_zero _)] at hc
      cases hc
    | routine f =>
      rw [Spec.codeAt, Arena.get?_eq_none_iff.2 (Nat.not_lt_zero _)] at hc
      cases hc

end Draft

end LangSpec
