import LangSpec.Proofs.Finish

/-!
# What becomes of reports

An operation reports at most one problem, and no report is ever taken back, so
the diagnostics of a draft are all the problems of the walk in the order of
their reports. Where all that was opened has been closed, they are also the
first of the failures that `Draft.finish` returns. But where something is left
open, that is the only failure, and whatever was reported before is not told.

* `reports_apply`: at most one problem comes with an operation;
* `Problem.message_ne`: no problem reads like a fault;
* `finish_tells_reported_iff`: when the failures tell all that was reported;
* `finish_drops_report`: a walk whose report is not told.
-/

namespace LangSpec

namespace Draft

variable {d d' d'' : Draft} {f : FieldId}

/-- The diagnostics are the same, or one problem has been reported. -/
def Reports (d d' : Draft) : Prop :=
  d'.diagnostics = d.diagnostics ∨
    ∃ p loc, d'.diagnostics = d.diagnostics ++ [Problem.reportedAt p loc]

namespace Reports

theorem silent (h : d'.diagnostics = d.diagnostics) : d.Reports d' := .inl h

theorem report {p : Problem} {loc : Location} : d.Reports (d.report p loc) := .inr ⟨p, loc, rfl⟩

theorem after (h' : d'.Reports d'') (h : d'.diagnostics = d.diagnostics) : d.Reports d'' := by
  rwa [Reports, ← h]

theorem before (h : d.Reports d') (h' : d''.diagnostics = d'.diagnostics) : d.Reports d'' := by
  rwa [Reports, h']

end Reports

/-! ## Variables and fields -/

theorem reports_declareIn {scope : ScopeId} {taken : String → Problem} :
    d.Reports (d.declareIn scope f taken) := by
  rw [declareIn]
  split
  · exact .silent rfl
  · exact .report

theorem reports_declareTyped {type : TypeRef} : d.Reports (d.declareTyped f type) :=
  reports_declareIn.after rfl

theorem reports_declareNew {ref : VarRef} {type : Option TypeRef} :
    d.Reports (d.declareNew ref type) := by
  rw [declareNew]
  split
  · exact .silent rfl
  · exact .report

theorem reports_declareGlobal {init : Option Expr} : d.Reports (d.declareGlobal f init).2 := by
  rw [declareGlobal]
  cases d.context? with
  | none => exact reports_declareIn
  | some c => exact reports_declareIn.after rfl

theorem reports_declareExported {init : Option Expr} :
    d.Reports (d.declareExported f init).2 := by
  rw [declareExported]
  split
  next => exact .report
  next =>
    dsimp only
    split
    next => exact reports_declareIn.before rfl
    next => exact reports_declareIn

theorem reports_declareContextField {loc : Location} :
    d.Reports (d.declareContextField f loc).2 := by
  rw [declareContextField]
  cases d.context? with
  | none => exact .silent rfl
  | some c => exact reports_declareIn.after rfl

/-! ## Regular expressions and tokens -/

theorem reports_refer {name : Name} : d.Reports (d.refer name).2 := by
  rw [refer]
  split
  next =>
    split
    next => exact .report
    next => exact .silent rfl
  next => exact .report

theorem reports_repetitionCount {text : String} {loc : Location} :
    d.Reports (d.repetitionCount text loc).2 := by
  rw [repetitionCount]
  split
  next => exact .silent rfl
  next => exact .report

theorem diagnostics_withTrailing {r : Regex} {context : Option Regex} :
    (d.withTrailing r context).2.diagnostics = d.diagnostics := by
  cases context <;> rfl

theorem diagnostics_scannerFor (loc : Location) :
    (d.scannerFor loc).2.diagnostics = d.diagnostics := by
  rw [scannerFor]
  split <;> rfl

theorem reports_addRegular {name : String} {loc : Location} {regex : RegexId} {isSealed : Bool} :
    d.Reports (d.addRegular name loc regex isSealed).2 := by
  rw [addRegular]
  split
  next => exact .report
  next => exact .silent rfl

theorem reports_declareRegular {name : Name} {r : Regex} {isSealed : Bool} :
    d.Reports (d.declareRegular name r isSealed).2 := by
  rw [declareRegular]
  split
  next => exact .report
  next => exact reports_addRegular.after rfl

theorem reports_placeToken {t : TokenDecl} {name : String} :
    d.Reports (d.placeToken t name).2 := by
  have hs := d.diagnostics_scannerFor t.loc
  rw [placeToken]
  generalize d.scannerFor t.loc = placed at hs
  obtain ⟨scanner, d₁⟩ := placed
  cases hr : t.regex with
  | none => exact .silent hs
  | some r => exact reports_addRegular.after hs

theorem reports_declareToken {t : TokenDecl} : d.Reports (d.declareToken t).2 := by
  rw [declareToken]
  split
  next => exact .report
  next =>
    split
    next => exact .report
    next => exact reports_placeToken

theorem reports_declareLiteral {l : Literal} {joinsBefore joinsAfter : Bool} :
    d.Reports (d.declareLiteral l joinsBefore joinsAfter).2 := by
  rw [declareLiteral]
  split
  next => exact .report
  next => exact .silent (d.diagnostics_scannerFor l.loc)

theorem reports_declareSentinel {name : Name} : d.Reports (d.declareSentinel name).2 := by
  rw [declareSentinel]
  split
  next => exact .report
  next => exact .silent rfl

theorem reports_declareAtEnd {stmts : List Stmt} {frame : ObjectId} {loc : Location} :
    d.Reports (d.declareAtEnd stmts frame loc) := by
  rw [declareAtEnd]
  split
  next => exact .report
  next => exact .silent rfl

/-! ## Templates and routines -/

theorem reports_bindFirst {binder : Option VarRef} {items : List PatternItem} :
    d.Reports (d.bindFirst binder items).2 := by
  cases items with
  | nil => exact .silent rfl
  | cons first rest =>
    cases binder with
    | none => exact .silent rfl
    | some v => exact reports_declareNew

theorem reports_declareResult {field : Option FieldId} {type : TypeRef} :
    d.Reports (d.declareResult field type) := by
  cases field with
  | none => exact .silent rfl
  | some f => exact reports_declareTyped

/-! ## Opening and closing -/

theorem diagnostics_openNamespace {name : Name} :
    (d.openNamespace name).2.diagnostics = d.diagnostics := by
  rw [openNamespace]
  split <;> rfl

theorem diagnostics_closeNamespace : d.closeNamespace.2.diagnostics = d.diagnostics := by
  rw [closeNamespace]
  split <;> rfl

theorem diagnostics_closeScanner : d.closeScanner.2.diagnostics = d.diagnostics := by
  rw [closeScanner]
  split <;> rfl

theorem diagnostics_closeContext : d.closeContext.2.diagnostics = d.diagnostics := by
  rw [closeContext]
  split
  next => rfl
  next => exact diagnostics_closeNamespace

theorem diagnostics_closeScope : d.closeScope.2.diagnostics = d.diagnostics := by
  rw [closeScope]
  split <;> rfl

/-! ## All operations -/

theorem reports_apply (d : Draft) (op : Op) : d.Reports (op.apply d) := by
  cases op with
  | openNamespace | openContext => exact .silent diagnostics_openNamespace
  | closeNamespace => exact .silent diagnostics_closeNamespace
  | closeScanner => exact .silent diagnostics_closeScanner
  | closeContext => exact .silent diagnostics_closeContext
  | closeScope => exact .silent diagnostics_closeScope
  | declareVariable | declareField => exact reports_declareIn
  | declareGlobal => exact reports_declareGlobal
  | declareExported => exact reports_declareExported
  | declareContextField => exact reports_declareContextField
  | refer => exact reports_refer
  | repetitionCount => exact reports_repetitionCount
  | withTrailing => exact .silent diagnostics_withTrailing
  | declareToken => exact reports_declareToken
  | declareLiteral => exact reports_declareLiteral
  | declareSentinel => exact reports_declareSentinel
  | declareRegular => exact reports_declareRegular
  | declareAtEnd => exact reports_declareAtEnd
  | bindFirst => exact reports_bindFirst
  | construct | parse => exact reports_declareResult.after rfl
  | declareLoop => exact reports_declareIn.after rfl
  | _ => exact .silent rfl

/-! ## Walks -/

/-- Reports are not taken back, and others come after them. -/
theorem diagnostics_run (d : Draft) (ops : List Op) :
    d.diagnostics <+: (d.run ops).diagnostics := by
  induction ops generalizing d with
  | nil => exact List.prefix_rfl
  | cons op ops ih =>
    refine List.IsPrefix.trans ?_ (ih (op.apply d))
    obtain h | ⟨p, loc, h⟩ := d.reports_apply op
    · exact h ▸ List.prefix_rfl
    · exact h ▸ List.prefix_append _ _

theorem diagnostics_report_ne_nil {p : Problem} {loc : Location} :
    (d.report p loc).diagnostics ≠ [] :=
  List.append_ne_nil_of_right_ne_nil _ (List.cons_ne_nil _ _)

theorem diagnostics_eq_nil {ops : List Op} (h : (d.run ops).diagnostics = []) :
    d.diagnostics = [] :=
  List.prefix_nil.1 (h ▸ d.diagnostics_run ops)

variable {o : Options}

/-- All diagnostics are reports of problems. -/
theorem Reachable.reported (hd : Reachable o d) :
    ∀ x ∈ d.diagnostics, ∃ p loc, x = Problem.reportedAt p loc := by
  induction hd with
  | start => exact fun _ hx => absurd hx List.not_mem_nil
  | @step d op _ _ ih =>
    obtain h | ⟨p, loc, h⟩ := d.reports_apply op
    · rwa [h]
    · rw [h, List.forall_mem_append, List.forall_mem_singleton]
      exact ⟨ih, p, loc, rfl⟩

end Draft

/-! ## The end -/

/-- No problem reads like a fault. -/
theorem Problem.message_ne (p : Problem) (f : Fault) : p.message ≠ f.toFailure.message := by
  -- The first two letters tell.
  have hproblem : p.message.toList.take 2 ≠ "in".toList := by
    unfold message
    split <;> simp
  have hfault : f.toFailure.message.toList.take 2 = "in".toList := by
    simp [Fault.toFailure]
  exact fun h => hproblem (h ▸ hfault)

namespace Draft

variable {o : Options} {d : Draft} {fs : List Failure}

/-- All that was opened has been closed. -/
def AllClosed (d : Draft) : Prop :=
  d.openScanners = [] ∧ d.openContexts = [] ∧ d.openNamespaces = []

instance (d : Draft) : Decidable d.AllClosed := inferInstanceAs (Decidable (_ ∧ _ ∧ _))

theorem leftOpen_eq_none_iff : d.leftOpen = none ↔ d.AllClosed := by
  refine ⟨fun h => ?_, fun ⟨hs, hc, hn⟩ => leftOpen_eq_none hs hc hn⟩
  grind [leftOpen, AllClosed]

theorem finish_of_leftOpen {f : Fault} (h : d.leftOpen = some f) :
    d.finish = .error [f.toFailure] := by
  rw [finish, h]

theorem finish_of_allClosed (h : d.AllClosed) (hfs : d.failures = fs) (hne : fs ≠ []) :
    d.finish = .error fs := by
  rw [finish, leftOpen_eq_none_iff.2 h]
  exact (if_neg fun he => hne (hfs ▸ List.isEmpty_iff.1 he)).trans (congrArg Except.error hfs)

/-- The failures are what was left open, or all problems and all violations. -/
theorem finish_eq_error (h : d.finish = .error fs) :
    (∃ f, d.leftOpen = some f ∧ fs = [f.toFailure]) ∨ d.leftOpen = none ∧ fs = d.failures := by
  rw [finish] at h
  split at h
  next f hf =>
    cases h
    exact .inl ⟨f, hf, rfl⟩
  next hf =>
    split at h
    next => cases h
    next =>
      cases h
      exact .inr ⟨hf, rfl⟩

/-- Where a thing is left open, no report is told. -/
theorem Reachable.not_sublist_of_fault (hd : Reachable o d) (f : Fault)
    (h : d.diagnostics ≠ []) :
    ¬ (d.diagnostics.map (·.message)).Sublist [f.toFailure.message] := by
  obtain ⟨x, xs, hx⟩ := List.exists_cons_of_ne_nil h
  obtain ⟨p, loc, rfl⟩ := hd.reported x (hx ▸ List.mem_cons_self)
  intro hs
  rw [hx, List.map_cons] at hs
  exact p.message_ne f (List.mem_singleton.1 (hs.subset List.mem_cons_self))

/-- What has been reported stays reported until the end. If the draft cannot be
    finished then, the failures tell all that was reported, in this order,
    exactly if nothing was or if all that was opened has been closed; in the
    latter case they begin with it. -/
theorem finish_tells_reported_iff {d₀ : Draft} {ops : List Op} (hd : Reachable o d₀)
    (hops : d₀.AdmitsAll ops) (h : (d₀.run ops).finish = .error fs) :
    let d := d₀.run ops
    d₀.diagnostics <+: d.diagnostics ∧
      ((d.diagnostics.map (·.message)).Sublist (fs.map (·.message)) ↔
        d.diagnostics = [] ∨ d.AllClosed) ∧
      (d.AllClosed → Diagnostic.failures d.diagnostics <+: fs) := by
  intro d
  have htold (hclosed : d.AllClosed) : Diagnostic.failures d.diagnostics <+: fs := by
    obtain ⟨f, hf, -⟩ | ⟨-, rfl⟩ := finish_eq_error h
    · rw [leftOpen_eq_none_iff.2 hclosed] at hf
      exact nomatch hf
    · exact List.prefix_append _ _
  refine ⟨d₀.diagnostics_run ops, ⟨fun hs => ?_, ?_⟩, htold⟩
  · obtain ⟨f, -, rfl⟩ | ⟨hclosed, -⟩ := finish_eq_error h
    · exact .inl (by_contra fun hne => (hd.run hops).not_sublist_of_fault f hne hs)
    · exact .inr (leftOpen_eq_none_iff.1 hclosed)
  · rintro (hnil | hclosed)
    · rw [hnil]
      exact List.nil_sublist _
    · have hprefix := (htold hclosed).sublist.map (·.message)
      rwa [Diagnostic.failures, List.map_map] at hprefix

/-- A name is taken and all is closed: the report is the only failure. -/
theorem finish_tells_reported_iff_sums :
    let d₀ := (start {}).run Op.sums
    let ops : List Op := [.declareField ⟨3⟩ ⟨1⟩]
    let fs : List Failure := [⟨.origin, "object field left renamed"⟩]
    Reachable {} d₀ ∧ d₀.AdmitsAll ops ∧ (d₀.run ops).finish = .error fs ∧
      Diagnostic.failures (d₀.run ops).diagnostics <+: fs := by
  intro d₀ ops fs
  have hops : d₀.AdmitsAll ops := by decide +kernel
  have hclosed : (d₀.run ops).AllClosed := by decide +kernel
  have hfinish : (d₀.run ops).finish = .error fs :=
    finish_of_allClosed hclosed (by decide +kernel) (List.cons_ne_nil _ _)
  refine ⟨reachable_sums, hops, hfinish, ?_⟩
  exact (finish_tells_reported_iff reachable_sums hops hfinish).2.2 hclosed

/-- A sentinel is declared outside scanners, which is reported, and a scanner is
    opened after that. Left open, it is the only failure. -/
theorem finish_drops_report :
    let d := (start {}).run [.declareSentinel { text := "z" }, .openScanner ⟨1, 0⟩]
    let fs : List Failure := [⟨.origin, "internal error: 1 region set(s) left open"⟩]
    Reachable {} d ∧ d.finish = .error fs ∧
      d.diagnostics.map (·.message) = ["zero token should be inside a region"] ∧
      ¬ (d.diagnostics.map (·.message)).Sublist (fs.map (·.message)) := by
  refine ⟨Reachable.start.run (by decide +kernel), ?_, by decide +kernel, by decide +kernel⟩
  exact finish_of_leftOpen (f := .scannersLeftOpen 1) rfl

end Draft

end LangSpec
