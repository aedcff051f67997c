import LangSpec.Proofs.InnermostDefinitions

/-!
# Rejected declarations

Tokens, literals, sentinels and regular definitions are declared only where they
make sense and under names that are free, code for the end of the input only
inside scanners, and references are made only to definitions that can be used.
Whatever is wrong with one of these is found before anything is written: one
problem is reported, and nothing else is different. What is accepted is not
reported, with one exception. A token with a regular expression is a regular
definition, too, and its name may be taken as such; then this is reported, and
the token is entered without a definition. In no case is a scanner left open that
was not open before.

* `Op.accepted?`: whether anything comes of a declaration;
* `Redefines`: a token has the name of another regular definition;
* `Outcome`: the two ways a declaration may end;
* `declareToken_cases`: the three ways of a token;
* `rejected_leaves_no_trace`: the law.
-/

namespace LangSpec

/-- Whether anything comes of the declaration or the reference that the operation
    is, in this draft. -/
def Op.accepted? (d : Draft) : Op → Option Bool
  | declareToken token => some (d.declareToken token).1.isSome
  | declareLiteral literal joinsBefore joinsAfter =>
    some (d.declareLiteral literal joinsBefore joinsAfter).1.isSome
  | declareSentinel name => some (d.declareSentinel name).1.isSome
  | declareRegular name regex isSealed => some (d.declareRegular name regex isSealed).1.isSome
  | refer name => some (d.refer name).1.isSome
  | declareAtEnd _ _ _ => some d.insideScanner
  | _ => none

namespace Draft

variable {o : Options} {d : Draft} {α : Type} {t : TokenDecl} {name : String}

/-- The token comes with a regular expression, and its name is that of a regular
    definition of the current namespace. -/
def Redefines (d : Draft) (t : TokenDecl) (name : String) : Prop :=
  t.regex ≠ none ∧ d.nameOf t = some name ∧ (d.spec.namespaces.get d.home).regular? name ≠ none

/-- A declaration with the result `x` in the draft `d` is rejected, and nothing
    but a report is left of it, or accepted without a report. The open scanners
    are the same. -/
inductive Outcome (d : Draft) : Option α → Draft → Prop
  | rejected (p : Problem) (loc : Location) : Outcome d none (d.report p loc)
  | accepted {x : α} {d' : Draft} (hdiag : d'.diagnostics = d.diagnostics)
      (hopen : d'.openScanners = d.openScanners) : Outcome d (some x) d'

namespace Outcome

variable {x : Option α} {d' : Draft}

theorem of_isNone (h : d.Outcome x d') (hx : some x.isSome = some false) :
    ∃ p loc, d' = { d with diagnostics := d.diagnostics ++ [Problem.reportedAt p loc] } := by
  cases h with
  | rejected p loc => exact ⟨p, loc, rfl⟩
  | accepted => exact nomatch hx

theorem diagnostics (h : d.Outcome x d') (hx : some x.isSome = some true) :
    d'.diagnostics = d.diagnostics := by
  cases h with
  | rejected => exact nomatch hx
  | accepted hdiag => exact hdiag

theorem openScanners (h : d.Outcome x d') : d'.openScanners = d.openScanners := by
  cases h with
  | rejected => rfl
  | accepted _ hopen => exact hopen

end Outcome

theorem openScanners_scannerFor (loc : Location) :
    (d.scannerFor loc).2.openScanners = d.openScanners := by
  rw [scannerFor]
  split <;> rfl

theorem outcome_declareLiteral {l : Literal} {joinsBefore joinsAfter : Bool} :
    d.Outcome (d.declareLiteral l joinsBefore joinsAfter).1
      (d.declareLiteral l joinsBefore joinsAfter).2 := by
  rw [declareLiteral]
  split
  next => exact .rejected _ _
  next => exact .accepted (diagnostics_scannerFor l.loc) (openScanners_scannerFor l.loc)

theorem outcome_declareSentinel {name : Name} :
    d.Outcome (d.declareSentinel name).1 (d.declareSentinel name).2 := by
  rw [declareSentinel]
  split
  next => exact .rejected _ _
  next => exact .accepted rfl rfl

theorem addRegular_of_free {loc : Location} {regex : RegexId} {isSealed : Bool}
    (h : (d.spec.namespaces.get d.home).regular? name = none) :
    d.addRegular name loc regex isSealed =
      (some d.spec.regulars.next, d.update (·.addRegular d.home name loc regex isSealed)) := by
  rw [addRegular, h]

theorem addRegular_of_taken {loc : Location} {regex : RegexId} {isSealed : Bool}
    (h : (d.spec.namespaces.get d.home).regular? name ≠ none) :
    d.addRegular name loc regex isSealed = (none, d.report (.regularTaken name) loc) := by
  obtain ⟨e, he⟩ := Option.ne_none_iff_exists'.1 h
  rw [addRegular, he]

/-- A name that is free is still free once the expression has been entered. -/
theorem outcome_declareRegular {name : Name} {r : Regex} {isSealed : Bool} :
    d.Outcome (d.declareRegular name r isSealed).1 (d.declareRegular name r isSealed).2 := by
  rw [declareRegular]
  split
  next => exact .rejected _ _
  next hn =>
    have hadd : (d.update (·.addRegex r)).addRegular name.text name.loc d.spec.regexes.next
        isSealed = _ := addRegular_of_free hn
    dsimp only
    rw [hadd]
    exact .accepted rfl rfl

theorem outcome_refer {name : Name} : d.Outcome (d.refer name).1 (d.refer name).2 := by
  obtain ⟨m, e, -, -, h⟩ | ⟨-, p, -, h⟩ := d.refer_cases name
  · rw [h]
    exact .accepted rfl rfl
  · rw [h]
    exact .rejected _ _

/-- Code for the end of the input is accepted if there is a scanner for it. -/
theorem outcome_declareAtEnd {stmts : List Stmt} {frame : ObjectId} {loc : Location} :
    d.Outcome d.scanner? (d.declareAtEnd stmts frame loc) := by
  rw [declareAtEnd]
  cases d.scanner? with
  | none => exact .rejected _ _
  | some c => exact .accepted rfl rfl

theorem insideScanner_eq (d : Draft) : d.insideScanner = d.scanner?.isSome := by
  rw [insideScanner, scanner?]
  cases d.openScanners <;> rfl

/-! ## Tokens -/

/-- No token changes what is defined in namespaces. -/
theorem dictionaries_enterToken (d : Draft) (t : Token) :
    dictionaries (d.enterToken t).spec.namespaces = dictionaries d.spec.namespaces :=
  dictionaries_modify fun _ => rfl

section WithToken

variable (d : Draft) (t : TokenDecl) (name : String) (r : Regex)

/-- The draft in which a token with the expression `r` is entered, but not yet as
    a definition. -/
def withToken : Draft :=
  ((d.scannerFor t.loc).2.update (·.addRegex r)).enterToken (d.tokenOf t name)

theorem home_withToken : (d.withToken t name r).home = d.home := d.home_scannerFor t.loc

theorem diagnostics_withToken : (d.withToken t name r).diagnostics = d.diagnostics :=
  diagnostics_scannerFor t.loc

theorem openScanners_withToken : (d.withToken t name r).openScanners = d.openScanners :=
  openScanners_scannerFor t.loc

theorem regulars_withToken : (d.withToken t name r).spec.regulars = d.spec.regulars := by
  have h : (d.scannerFor t.loc).2.spec.regulars = d.spec.regulars := by
    rw [scannerFor]
    split <;> rfl
  exact h

theorem dictionaries_withToken :
    dictionaries (d.withToken t name r).spec.namespaces = dictionaries d.spec.namespaces :=
  (dictionaries_enterToken _ _).trans (congrArg dictionaries (d.scannerFor_namespaces t.loc).1)

theorem regular?_withToken :
    ((d.withToken t name r).spec.namespaces.get (d.withToken t name r).home).regular? name =
      (d.spec.namespaces.get d.home).regular? name := by
  rw [home_withToken]
  exact congrArg (Dict.find? · name) (congrFun (d.dictionaries_withToken t name r) d.home)

end WithToken

theorem placeToken_of_regex {r : Regex} (hr : t.regex = some r) :
    (d.placeToken t name).2 =
      ((d.withToken t name r).addRegular name t.loc d.spec.regexes.next false).2 := by
  rw [placeToken_eq, hr]
  rfl

theorem placeToken_of_redefines (h : d.Redefines t name) :
    ∃ r, (d.placeToken t name).2 = (d.withToken t name r).report (.regularTaken name) t.loc := by
  obtain ⟨hregex, -, htaken⟩ := h
  obtain ⟨r, hr⟩ := Option.ne_none_iff_exists'.1 hregex
  rw [← regular?_withToken d t name r] at htaken
  exact ⟨r, by rw [placeToken_of_regex hr, addRegular_of_taken htaken]⟩

theorem diagnostics_placeToken (hn : d.nameOf t = some name) (h : ¬d.Redefines t name) :
    (d.placeToken t name).2.diagnostics = d.diagnostics := by
  cases hr : t.regex with
  | none =>
    rw [placeToken_eq, hr]
    exact diagnostics_scannerFor t.loc
  | some r =>
    have hfree : (d.spec.namespaces.get d.home).regular? name = none := by
      by_contra htaken
      exact h ⟨by rw [hr]; exact Option.some_ne_none r, hn, htaken⟩
    rw [← regular?_withToken d t name r] at hfree
    rw [placeToken_of_regex hr, addRegular_of_free hfree]
    exact d.diagnostics_withToken t name r

theorem openScanners_placeToken : (d.placeToken t name).2.openScanners = d.openScanners := by
  cases hr : t.regex with
  | none =>
    rw [placeToken_eq, hr]
    exact openScanners_scannerFor t.loc
  | some r =>
    rw [placeToken_of_regex hr, addRegular]
    split <;> exact d.openScanners_withToken t name r

theorem placeToken_fst : (d.placeToken t name).1 = d.spec.tokens.next := by
  have hs := congrArg Arena.next (d.hosts_scannerFor t.loc).tokens
  rw [placeToken]
  cases t.regex <;> exact hs

/-- A token is rejected, or it gets a name and is put into a scanner. -/
theorem declareToken_cases (d : Draft) (t : TokenDecl) :
    (∃ p, d.declareToken t = (none, d.report p t.loc)) ∨
      ∃ name, d.nameOf t = some name ∧
        d.declareToken t = (some d.spec.tokens.next, (d.placeToken t name).2) := by
  rw [declareToken]
  split
  next => exact .inl ⟨_, rfl⟩
  next =>
    cases hn : d.nameOf t with
    | none => exact .inl ⟨_, rfl⟩
    | some name =>
      have hid : (d.placeToken t name).1 = d.spec.tokens.next := placeToken_fst
      exact .inr ⟨name, rfl, by rw [← hid]⟩

/-- A token that no other definition stands in the way of is rejected or
    accepted like any other declaration. -/
theorem outcome_declareToken (h : ∀ name, ¬d.Redefines t name) :
    d.Outcome (d.declareToken t).1 (d.declareToken t).2 := by
  obtain ⟨p, hreject⟩ | ⟨name, hn, haccept⟩ := d.declareToken_cases t
  · rw [hreject]
    exact .rejected p t.loc
  · rw [haccept]
    exact .accepted (diagnostics_placeToken hn (h name)) openScanners_placeToken

theorem openScanners_declareToken : (d.declareToken t).2.openScanners = d.openScanners := by
  obtain ⟨p, hreject⟩ | ⟨name, -, haccept⟩ := d.declareToken_cases t
  · rw [hreject]
    rfl
  · rw [haccept]
    exact openScanners_placeToken

/-- A token that is accepted although its name is taken is entered, and this is
    reported. -/
theorem declareToken_of_redefines (h : d.Redefines t name)
    (ht : (Op.declareToken t).accepted? d = some true) :
    ∃ r, d.declareToken t =
      (some d.spec.tokens.next, (d.withToken t name r).report (.regularTaken name) t.loc) := by
  obtain ⟨p, hreject⟩ | ⟨name', hn, haccept⟩ := d.declareToken_cases t
  · rw [Op.accepted?, hreject] at ht
    exact nomatch ht
  · obtain rfl : name = name' := Option.some.inj (h.2.1.symm.trans hn)
    obtain ⟨r, hplace⟩ := placeToken_of_redefines h
    exact ⟨r, by rw [haccept, hplace]⟩

theorem tokens_withToken (d : Draft) (t : TokenDecl) (name : String) (r : Regex) :
    ∃ os, (d.withToken t name r).spec.tokens =
      d.spec.tokens.push { d.tokenOf t name with occurrences := os } :=
  tokens_enterToken (e := (d.scannerFor t.loc).2.update (·.addRegex r))
    (d.hosts_scannerFor t.loc).tokens rfl

/-- The token is listed with those of its namespace. -/
theorem listed_withToken (hh : d.home ∈ d.spec.namespaces) (r : Regex) :
    ((d.withToken t name r).spec.namespaces.get d.home).tokens =
      (d.spec.namespaces.get d.home).tokens ++ [d.spec.tokens.next] := by
  have hn := (d.scannerFor_namespaces t.loc).1
  have hk := (d.hosts_scannerFor t.loc).tokens
  have hlist : (d.withToken t name r).spec.namespaces =
      (d.scannerFor t.loc).2.spec.namespaces.modify d.home fun x =>
        { x with tokens := x.tokens ++ [(d.scannerFor t.loc).2.spec.tokens.next] } := rfl
  rw [hlist, hn, hk, Arena.get_modify_self hh]

/-! ## The law -/

theorem rejected_trace {op : Op} (h : op.accepted? d = some false) :
    ∃ p loc,
      op.apply d = { d with diagnostics := d.diagnostics ++ [Problem.reportedAt p loc] } := by
  cases op with
  | declareToken t =>
    obtain ⟨p, hreject⟩ | ⟨name, -, haccept⟩ := d.declareToken_cases t
    · exact ⟨p, t.loc, congrArg Prod.snd hreject⟩
    · rw [Op.accepted?, haccept] at h
      exact nomatch h
  | declareLiteral => exact outcome_declareLiteral.of_isNone h
  | declareSentinel => exact outcome_declareSentinel.of_isNone h
  | declareRegular => exact outcome_declareRegular.of_isNone h
  | refer => exact outcome_refer.of_isNone h
  | declareAtEnd => exact outcome_declareAtEnd.of_isNone (d.insideScanner_eq ▸ h)
  | _ => exact nomatch h

theorem accepted_silent {op : Op} (h : op.accepted? d = some true)
    (hr : ∀ t name, op = .declareToken t → ¬d.Redefines t name) :
    (op.apply d).diagnostics = d.diagnostics := by
  cases op with
  | declareToken t => exact (outcome_declareToken fun name => hr t name rfl).diagnostics h
  | declareLiteral => exact outcome_declareLiteral.diagnostics h
  | declareSentinel => exact outcome_declareSentinel.diagnostics h
  | declareRegular => exact outcome_declareRegular.diagnostics h
  | refer => exact outcome_refer.diagnostics h
  | declareAtEnd => exact outcome_declareAtEnd.diagnostics (d.insideScanner_eq ▸ h)
  | _ => exact nomatch h

theorem openScanners_of_accepted? {op : Op} (h : op.accepted? d ≠ none) :
    (op.apply d).openScanners = d.openScanners := by
  cases op with
  | declareToken => exact openScanners_declareToken
  | declareLiteral => exact outcome_declareLiteral.openScanners
  | declareSentinel => exact outcome_declareSentinel.openScanners
  | declareRegular => exact outcome_declareRegular.openScanners
  | refer => exact outcome_refer.openScanners
  | declareAtEnd => exact outcome_declareAtEnd.openScanners
  | _ => exact absurd rfl h

/-- A declaration or a reference that nothing comes of changes the draft by one
    diagnostic and in no other way, and one that something comes of adds no
    diagnostic, unless it is a token whose name is taken by another definition of
    a regular expression. Then exactly this is reported; the token is entered and
    listed, but regular definitions and dictionaries are what they were. The open
    scanners are the same in all cases. -/
theorem rejected_leaves_no_trace (hd : Reachable o d) :
    (∀ op : Op, op.accepted? d = some false → ∃ p loc,
      op.apply d = { d with diagnostics := d.diagnostics ++ [Problem.reportedAt p loc] }) ∧
    (∀ op : Op, op.accepted? d = some true →
      (∀ t name, op = .declareToken t → ¬d.Redefines t name) →
      (op.apply d).diagnostics = d.diagnostics) ∧
    (∀ t name, (Op.declareToken t).accepted? d = some true → d.Redefines t name →
      let d' := (d.declareToken t).2
      let k := d.spec.tokens.next
      d'.diagnostics =
          d.diagnostics ++ [⟨.duplicate, t.loc, (Problem.regularTaken name).message⟩] ∧
        (d.declareToken t).1 = some k ∧
        (∃ os, d'.spec.tokens = d.spec.tokens.push { d.tokenOf t name with occurrences := os }) ∧
        (d'.spec.namespaces.get d.home).tokens = (d.spec.namespaces.get d.home).tokens ++ [k] ∧
        d'.spec.regulars = d.spec.regulars ∧
        ∀ n, (d'.spec.namespaces.get n).regulars = (d.spec.namespaces.get n).regulars) ∧
    ∀ op : Op, op.accepted? d ≠ none → (op.apply d).openScanners = d.openScanners := by
  refine ⟨fun _ => rejected_trace, fun _ => accepted_silent, fun t name ht h => ?_,
    fun _ => openScanners_of_accepted?⟩
  obtain ⟨r, hdeclare⟩ := declareToken_of_redefines h ht
  intro d' k
  have hd' : d' = (d.withToken t name r).report (.regularTaken name) t.loc :=
    congrArg Prod.snd hdeclare
  rw [hd', hdeclare]
  refine ⟨?_, rfl, d.tokens_withToken t name r, listed_withToken hd.sound.home r,
    d.regulars_withToken t name r, congrFun (d.dictionaries_withToken t name r)⟩
  exact congrArg (· ++ _) (d.diagnostics_withToken t name r)

/-- A token with the name of a regular definition, and a sentinel and a literal
    outside scanners. -/
theorem rejected_leaves_no_trace_digit :
    let digit : Name := { text := "digit" }
    let one : Regex := .ofLiteral { raw := "'1'" }
    let token : TokenDecl := { loc := ⟨4, 0⟩, name := some digit, regex := some one }
    let d := (start {}).run [.declareRegular digit one false]
    let comma : Op := .declareLiteral { raw := "','" } false false
    Reachable {} d ∧
      (∃ p loc, (Op.declareSentinel digit).apply d =
        { d with diagnostics := [Problem.reportedAt p loc] }) ∧
      (comma.apply d).diagnostics = [] ∧ (comma.apply d).openScanners = [] ∧
      (d.declareToken token).2.diagnostics =
        [⟨.duplicate, ⟨4, 0⟩, (Problem.regularTaken "digit").message⟩] ∧
      ((d.declareToken token).2.spec.namespaces.get d.home).tokens = [⟨0⟩] ∧
      (d.declareToken token).2.spec.regulars = d.spec.regulars := by
  intro digit one token d comma
  have hd : Reachable {} d := Reachable.start.run (by decide +kernel)
  obtain ⟨hreject, haccept, htoken, hopen⟩ := rejected_leaves_no_trace hd
  have hsilent : (comma.apply d).diagnostics = [] :=
    haccept comma (by decide +kernel) fun _ _ h => nomatch h
  have hredefines : d.Redefines token "digit" := by
    refine ⟨Option.some_ne_none one, ?_, ?_⟩ <;> decide +kernel
  obtain ⟨hreport, -, -, hlisted, hregulars, -⟩ :=
    htoken token "digit" (by decide +kernel) hredefines
  exact ⟨hd, hreject (.declareSentinel digit) (by decide +kernel), hsilent,
    hopen comma (by decide +kernel), hreport, hlisted, hregulars⟩

end Draft

end LangSpec
