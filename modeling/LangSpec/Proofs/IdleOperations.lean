import LangSpec.Proofs.RegularEntries

/-!
# Idle operations

Regular expressions are defined under a name by two kinds of declarations, those
that say so and those of tokens, and tokens are ranked by precedence statements.
All other operations are *idle* in this respect: definitions and ranks are what
they were, and so is the rank of the next statement. Where there is no new
definition, there is no new entry of one, either.

* `Op.statement?`: precedence statements;
* `Stock`: the definitions and the ranks;
* `Sound.stock_apply`: what idle operations leave alone;
* `Sound.ranking_apply`: only precedence statements rank;
* `Sound.dictionaries_apply`: only definitions are entered.
-/

namespace LangSpec

/-- A precedence statement: some tokens, and how they group. -/
structure PrecedenceStatement where
  /-- The tokens, each with its rank. -/
  tokens : List Ranked
  /-- How they group. -/
  associativity : Associativity

namespace Op

/-- The operation may define a regular expression under a name. -/
def mayDefine : Op → Bool
  | declareToken _ | declareRegular _ _ _ => true
  | _ => false

/-- The precedence statement that the operation is, if it is one. -/
def statement? : Op → Option PrecedenceStatement
  | declarePrecedence tokens associativity => some { tokens, associativity }
  | _ => none

end Op

/-- The tokens that have been ranked, and the rank of the next ones. -/
structure Ranking where
  precedences : List Precedence
  next : UInt32

/-- The regular definitions and the ranked tokens. -/
structure Stock where
  regulars : Arena .regulars Regular
  ranking : Ranking

namespace Draft

/-- The ranked tokens of the draft. -/
def ranking (d : Draft) : Ranking := { precedences := d.spec.precedences, next := d.rank }

/-- The regular definitions and the ranked tokens of the draft. -/
def stock (d : Draft) : Stock := { regulars := d.spec.regulars, ranking := d.ranking }

variable {d : Draft} {f : FieldId} {op : Op}

/-! ## Variables and fields -/

theorem stock_declareIn {scope : ScopeId} {taken : String → Problem} :
    (d.declareIn scope f taken).stock = d.stock := by
  rw [declareIn]
  split <;> rfl

theorem stock_declareTyped {type : TypeRef} : (d.declareTyped f type).stock = d.stock :=
  stock_declareIn.trans rfl

theorem stock_declareNew {ref : VarRef} {type : Option TypeRef} :
    (d.declareNew ref type).stock = d.stock := by
  rw [declareNew]
  split <;> rfl

theorem stock_placeIn_declareField {c : ContextId} {object : ObjectId} :
    ((d.placeIn c f).declareField object f).stock = d.stock :=
  stock_declareIn.trans rfl

theorem stock_declareGlobal {init : Option Expr} :
    (d.declareGlobal f init).2.stock = d.stock := by
  rw [declareGlobal]
  cases d.context? with
  | none => exact stock_declareIn
  | some c => exact stock_placeIn_declareField

theorem stock_declareExported {init : Option Expr} :
    (d.declareExported f init).2.stock = d.stock := by
  rw [declareExported]
  split
  next => rfl
  next =>
    have h : (d.declareField d.spec.globalObject f).stock = d.stock := stock_declareIn
    dsimp only
    generalize d.declareField d.spec.globalObject f = declared at h ⊢
    split <;> exact h

theorem stock_declareContextField {loc : Location} :
    (d.declareContextField f loc).2.stock = d.stock := by
  rw [declareContextField]
  cases d.context? with
  | none => rfl
  | some c => exact stock_placeIn_declareField

/-! ## Regular expressions and tokens -/

theorem stock_refer {name : Name} : (d.refer name).2.stock = d.stock := by
  rw [refer]
  split
  next => split <;> rfl
  next => rfl

theorem stock_repetitionCount {text : String} {loc : Location} :
    (d.repetitionCount text loc).2.stock = d.stock := by
  rw [repetitionCount]
  split <;> rfl

theorem stock_withTrailing {r : Regex} {context : Option Regex} :
    (d.withTrailing r context).2.stock = d.stock := by
  cases context <;> rfl

theorem stock_scannerFor (d : Draft) (loc : Location) :
    (d.scannerFor loc).2.stock = d.stock := by
  rw [scannerFor]
  split <;> rfl

theorem stock_declareLiteral {l : Literal} {joinsBefore joinsAfter : Bool} :
    (d.declareLiteral l joinsBefore joinsAfter).2.stock = d.stock := by
  rw [declareLiteral]
  split
  next => rfl
  next =>
    have h := d.stock_scannerFor l.loc
    dsimp only
    rw [placeLiteral_eq]
    generalize (d.scannerFor l.loc).2 = placed at h ⊢
    exact h

theorem stock_declareSentinel {name : Name} : (d.declareSentinel name).2.stock = d.stock := by
  rw [declareSentinel]
  split <;> rfl

theorem stock_declareAtEnd {stmts : List Stmt} {frame : ObjectId} {loc : Location} :
    (d.declareAtEnd stmts frame loc).stock = d.stock := by
  rw [declareAtEnd]
  split <;> rfl

/-! ## Grammar, templates and routines -/

theorem Sound.stock_declareNonterminal (hd : d.Sound) {name : Name} {object : ObjectId}
    {ps : List ProductionId} {reduceFirst : Bool}
    (hop : d.Admits (.declareNonterminal name object ps reduceFirst)) :
    (d.declareNonterminal name object ps reduceFirst).2.stock = d.stock := by
  have hn := hd.fits_nonterminalOf hop
  have hb := Spec.binds_bindAlternatives hd.closed hn
  have hregulars := Spec.Binds.eq (q := Spec.regulars) hb fun hb => by cases hb <;> rfl
  have hranks := Spec.Binds.eq (q := Spec.precedences) hb fun hb => by cases hb <;> rfl
  have hadd : (d.declareNonterminal name object ps reduceFirst).2 =
      { d with spec := d.spec.addNonterminal (d.nonterminalOf name object ps reduceFirst) } := rfl
  rw [hadd, Spec.addNonterminal_eq hd.closed hn]
  simp only [stock, ranking, Spec.enlist, hregulars, hranks]

theorem stock_bindFirst {binder : Option VarRef} {items : List PatternItem} :
    (d.bindFirst binder items).2.stock = d.stock := by
  cases items with
  | nil => rfl
  | cons first rest =>
    cases binder with
    | none => rfl
    | some v => exact stock_declareNew

theorem stock_declareResult {field : Option FieldId} {type : TypeRef} :
    (d.declareResult field type).stock = d.stock := by
  cases field with
  | none => rfl
  | some f => exact stock_declareTyped

theorem stock_declareLoop {name : Name} {type : TypeRef} {iter : IterCall} {body : List Stmt}
    {scope : ScopeId} : (d.declareLoop name type iter body scope).2.stock = d.stock :=
  stock_declareIn.trans rfl

/-! ## Opening and closing -/

theorem stock_openNamespace {name : Name} : (d.openNamespace name).2.stock = d.stock := by
  rw [openNamespace]
  split <;> rfl

theorem stock_openContext {name : Name} : (d.openContext name).2.stock = d.stock := by
  have h : (d.openNamespace name).2.stock = d.stock := stock_openNamespace
  rw [openContext]
  generalize d.openNamespace name = opened at h ⊢
  exact h

theorem stock_closeNamespace : d.closeNamespace.2.stock = d.stock := by
  rw [closeNamespace]
  split <;> rfl

theorem stock_closeScanner : d.closeScanner.2.stock = d.stock := by
  rw [closeScanner]
  split <;> rfl

theorem stock_closeContext : d.closeContext.2.stock = d.stock := by
  rw [closeContext]
  split
  next => rfl
  next c cs _ => exact stock_closeNamespace (d := { d with openContexts := cs })

theorem stock_closeScope : d.closeScope.2.stock = d.stock := by
  rw [closeScope]
  split <;> rfl

/-! ## All operations -/

/-- An operation that neither defines nor ranks leaves both alone. -/
theorem Sound.stock_apply (hd : d.Sound) (hop : d.Admits op) (hm : op.mayDefine = false)
    (hp : op.statement? = none) : (op.apply d).stock = d.stock := by
  cases op with
  | declareToken | declareRegular => exact nomatch hm
  | declarePrecedence => exact nomatch hp
  | openNamespace => exact stock_openNamespace
  | closeNamespace => exact stock_closeNamespace
  | closeScanner => exact stock_closeScanner
  | openContext => exact stock_openContext
  | closeContext => exact stock_closeContext
  | closeScope => exact stock_closeScope
  | declareVariable | declareField => exact stock_declareIn
  | declareGlobal => exact stock_declareGlobal
  | declareExported => exact stock_declareExported
  | declareContextField => exact stock_declareContextField
  | refer => exact stock_refer
  | repetitionCount => exact stock_repetitionCount
  | withTrailing => exact stock_withTrailing
  | declareLiteral => exact stock_declareLiteral
  | declareSentinel => exact stock_declareSentinel
  | declareAtEnd => exact stock_declareAtEnd
  | declareNonterminal => exact hd.stock_declareNonterminal hop
  | bindFirst => exact stock_bindFirst
  | construct | parse => exact stock_declareResult.trans rfl
  | declareLoop => exact stock_declareLoop
  | _ => rfl

end Draft

/-! ## Entries of definitions -/

/-- Where there is no new definition, there is no new entry. -/
theorem Spec.Steps.dictionaries {s s' : Spec} (h : Steps s s') (hc : s.Closed)
    (hsize : s'.regulars.size = s.regulars.size) :
    LangSpec.dictionaries s'.namespaces = LangSpec.dictionaries s.namespaces := by
  let Q (t : Spec) : Prop := s.regulars.size ≤ t.regulars.size ∧
    (t.regulars.size = s.regulars.size →
      LangSpec.dictionaries t.namespaces = LangSpec.dictionaries s.namespaces)
  have hQ : Q s' := by
    refine (h.preserves (Q := Q) hc (fun he hs => ?_) id (fun hb hs => ?_)
      (fun {t n} hs => ?_) ⟨Nat.le_refl _, fun _ => rfl⟩).2
    · rcases he.dictionaries with ⟨hdicts, hregulars⟩ | ⟨_, _, _, _, _, hregulars, -⟩
      · exact ⟨hregulars ▸ hs.1, fun hsize => hdicts.trans (hs.2 (hregulars ▸ hsize))⟩
      · -- A new definition stays, so there are more of them ever after.
        have hgrow := hs.1
        have hpush := congrArg Arena.size hregulars
        rw [Arena.size_push] at hpush
        exact ⟨by omega, fun hsize => by omega⟩
    · cases hb <;> exact hs
    · have h : LangSpec.dictionaries (t.enlist n).namespaces = LangSpec.dictionaries t.namespaces :=
        dictionaries_modify fun _ => rfl
      exact ⟨hs.1, fun hsize => h.trans (hs.2 hsize)⟩
  exact hQ.2 hsize

/-- An operation that defines nothing enters no definition. -/
theorem Draft.Sound.dictionaries_apply {d : Draft} {op : Op} (hd : d.Sound) (hop : d.Admits op)
    (hm : op.mayDefine = false) :
    dictionaries (op.apply d).spec.namespaces = dictionaries d.spec.namespaces := by
  cases hp : op.statement? with
  | some =>
    cases op with
    | declarePrecedence => rfl
    | _ => exact nomatch hp
  | none =>
    have h := congrArg Stock.regulars (hd.stock_apply hop hm hp)
    exact (hd.effect hop).steps.dictionaries hd.closed (congrArg Arena.size h)

end LangSpec
