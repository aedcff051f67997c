import LangSpec.Proofs.Course

/-!
# What operations leave alone

Few operations have to do with scanners and tokens, with productions and
nonterminals, or with regular expressions. Scanners are opened or come with a
token, tokens are declared in three ways, and a scanner may be given code to run
at the end. Productions come with `newProduction`, are numbered by
`appendAlternative` and change once more when they become alternatives of a
nonterminal. A regular expression is entered with a token, a literal, a sentinel
or a regular definition, at the end of the table and as it was written. All else
leaves these tables alone.

* `Op.regexes`: the regular expressions an operation may enter;
* `Spares`: all these tables are the same;
* `Enters`: the rules are the same, but for a regular expression at the end;
* `enters_apply`: what operations enter;
* `Sound.scanning_apply`: which operations leave scanners and tokens alone.
-/

namespace LangSpec

/-- The regular expressions the operation may enter. -/
def Op.regexes : Op → List Regex
  | declareToken token => token.regex.toList
  | declareLiteral literal _ _ => [.ofLiteral literal]
  | declareSentinel name => [.ofLiteral { raw := "\x60", loc := name.loc }]
  | declareRegular _ regex _ => [regex]
  | _ => []

/-- The operation has to do with productions. -/
def Op.isGrammar : Op → Bool
  | newProduction _ _ _ _ _ _ | appendAlternative _ _ | declareNonterminal _ _ _ _ => true
  | _ => false

/-- The operation adds scanners or tokens, or changes a region. -/
def Op.isScanning : Op → Bool
  | openScanner _ | declareToken _ | declareLiteral _ _ _ | declareSentinel _
  | declareAtEnd _ _ _ => true
  | _ => false

/-- The tables of the scanners, with what they are made of and what is declared
    in them. -/
structure Scanning where
  pools : Arena .pools Pool
  regions : Arena .regions Region
  scanners : Arena .scanners Scanner
  tokens : Arena .tokens Token
  occurrences : Arena .occurrences Occurrence

/-- These tables of a specification. -/
def Spec.scanning (s : Spec) : Scanning :=
  { pools := s.pools
    regions := s.regions
    scanners := s.scanners
    tokens := s.tokens
    occurrences := s.occurrences }

namespace Draft

variable {d d' d'' : Draft} {rs : List Regex} {f : FieldId} {op : Op}

/-- Scanners and tokens, productions, nonterminals and regular expressions are the
    same. -/
structure Spares (d d' : Draft) : Prop where
  scanning : d'.spec.scanning = d.spec.scanning
  productions : d'.spec.productions = d.spec.productions
  nonterminals : d'.spec.nonterminals = d.spec.nonterminals
  regexes : d'.spec.regexes = d.spec.regexes

/-- Productions and nonterminals are the same, and so are the regular
    expressions, but for one of the list that may have come. -/
structure Enters (rs : List Regex) (d d' : Draft) : Prop where
  productions : d'.spec.productions = d.spec.productions
  nonterminals : d'.spec.nonterminals = d.spec.nonterminals
  regexes : d'.spec.regexes = d.spec.regexes ∨
    ∃ r ∈ rs, d'.spec.regexes = d.spec.regexes.push r

namespace Spares

theorem refl (d : Draft) : d.Spares d := ⟨rfl, rfl, rfl, rfl⟩

theorem trans (h : d.Spares d') (h' : d'.Spares d'') : d.Spares d'' :=
  ⟨h'.scanning.trans h.scanning, h'.productions.trans h.productions,
    h'.nonterminals.trans h.nonterminals, h'.regexes.trans h.regexes⟩

theorem enters (h : d.Spares d') : d.Enters rs d' := ⟨h.productions, h.nonterminals, .inl h.regexes⟩

end Spares

namespace Enters

theorem entered {r : Regex} (hr : r ∈ rs) : d.Enters rs (d.update (·.addRegex r)) :=
  ⟨rfl, rfl, .inr ⟨r, hr, rfl⟩⟩

/-- Nothing is entered from an empty list. -/
theorem regexes_eq (h : d.Enters [] d') : d'.spec.regexes = d.spec.regexes :=
  h.regexes.resolve_right fun ⟨_, hr, _⟩ => List.not_mem_nil hr

theorem after (h' : d'.Enters rs d'') (h : d.Enters [] d') : d.Enters rs d'' where
  productions := h'.productions.trans h.productions
  nonterminals := h'.nonterminals.trans h.nonterminals
  regexes := h.regexes_eq ▸ h'.regexes

theorem before (h : d.Enters rs d') (h' : d'.Enters [] d'') : d.Enters rs d'' where
  productions := h'.productions.trans h.productions
  nonterminals := h'.nonterminals.trans h.nonterminals
  regexes := h'.regexes_eq ▸ h.regexes

end Enters

/-! ## Variables and fields -/

theorem spares_declareIn {scope : ScopeId} {taken : String → Problem} :
    d.Spares (d.declareIn scope f taken) := by
  rw [declareIn]
  split <;> exact ⟨rfl, rfl, rfl, rfl⟩

theorem spares_declareTyped {type : TypeRef} : d.Spares (d.declareTyped f type) := by
  have h : d.Spares (d.update (·.modifyField f fun x => { x with type := some type })) :=
    ⟨rfl, rfl, rfl, rfl⟩
  exact h.trans spares_declareIn

theorem spares_declareNew {ref : VarRef} {type : Option TypeRef} :
    d.Spares (d.declareNew ref type) := by
  rw [declareNew]
  split <;> exact ⟨rfl, rfl, rfl, rfl⟩

theorem spares_placeIn_declareField {c : ContextId} {object : ObjectId} :
    d.Spares ((d.placeIn c f).declareField object f) := by
  have h : d.Spares (d.placeIn c f) := ⟨rfl, rfl, rfl, rfl⟩
  exact h.trans spares_declareIn

theorem spares_declareGlobal {init : Option Expr} : d.Spares (d.declareGlobal f init).2 := by
  rw [declareGlobal]
  cases d.context? with
  | none => exact spares_declareIn
  | some c => exact spares_placeIn_declareField

theorem spares_declareExported {init : Option Expr} : d.Spares (d.declareExported f init).2 := by
  rw [declareExported]
  split
  next => exact ⟨rfl, rfl, rfl, rfl⟩
  next =>
    dsimp only
    split
    next => exact Spares.trans spares_declareIn ⟨rfl, rfl, rfl, rfl⟩
    next => exact spares_declareIn

theorem spares_declareContextField {loc : Location} :
    d.Spares (d.declareContextField f loc).2 := by
  rw [declareContextField]
  cases d.context? with
  | none => exact .refl d
  | some c => exact spares_placeIn_declareField

/-! ## Regular expressions and tokens -/

theorem spares_refer {name : Name} : d.Spares (d.refer name).2 := by
  rw [refer]
  split
  next => split <;> exact ⟨rfl, rfl, rfl, rfl⟩
  next => exact ⟨rfl, rfl, rfl, rfl⟩

theorem spares_repetitionCount {text : String} {loc : Location} :
    d.Spares (d.repetitionCount text loc).2 := by
  rw [repetitionCount]
  split <;> exact ⟨rfl, rfl, rfl, rfl⟩

theorem spares_withTrailing {r : Regex} {context : Option Regex} :
    d.Spares (d.withTrailing r context).2 := by
  cases context <;> exact ⟨rfl, rfl, rfl, rfl⟩

theorem enters_scannerFor (d : Draft) (loc : Location) : d.Enters [] (d.scannerFor loc).2 := by
  rw [scannerFor]
  split <;> exact ⟨rfl, rfl, .inl rfl⟩

theorem spares_addRegular {name : String} {loc : Location} {regex : RegexId} {isSealed : Bool} :
    d.Spares (d.addRegular name loc regex isSealed).2 := by
  rw [addRegular]
  split <;> exact ⟨rfl, rfl, rfl, rfl⟩

theorem enters_declareRegular {name : Name} {r : Regex} {isSealed : Bool} :
    d.Enters [r] (d.declareRegular name r isSealed).2 := by
  rw [declareRegular]
  split
  next => exact Spares.enters ⟨rfl, rfl, rfl, rfl⟩
  next => exact (Enters.entered List.mem_cons_self).before spares_addRegular.enters

/-- A regular definition enters nothing but itself and its expression. -/
theorem scanning_declareRegular {name : Name} {r : Regex} {isSealed : Bool} :
    (d.declareRegular name r isSealed).2.spec.scanning = d.spec.scanning := by
  rw [declareRegular]
  split
  next => rfl
  next => exact spares_addRegular.scanning.trans rfl

theorem enters_placeToken {t : TokenDecl} {name : String} :
    d.Enters t.regex.toList (d.placeToken t name).2 := by
  have hs := d.enters_scannerFor t.loc
  rw [placeToken]
  generalize d.scannerFor t.loc = placed at hs
  obtain ⟨scanner, d₁⟩ := placed
  cases hr : t.regex with
  | none => exact hs.before ⟨rfl, rfl, .inl rfl⟩
  | some r =>
    have h : d₁.Enters [r] (d₁.update (·.addRegex r)) := .entered List.mem_cons_self
    refine .after (.before ?_ spares_addRegular.enters) hs
    exact h.before ⟨rfl, rfl, .inl rfl⟩

theorem enters_declareToken {t : TokenDecl} : d.Enters t.regex.toList (d.declareToken t).2 := by
  rw [declareToken]
  split
  next => exact Spares.enters ⟨rfl, rfl, rfl, rfl⟩
  next =>
    split
    next => exact Spares.enters ⟨rfl, rfl, rfl, rfl⟩
    next => exact enters_placeToken

theorem enters_declareLiteral {l : Literal} {joinsBefore joinsAfter : Bool} :
    d.Enters [.ofLiteral l] (d.declareLiteral l joinsBefore joinsAfter).2 := by
  rw [declareLiteral]
  split
  next => exact Spares.enters ⟨rfl, rfl, rfl, rfl⟩
  next =>
    have hs := d.enters_scannerFor l.loc
    rw [placeLiteral]
    generalize d.scannerFor l.loc = placed at hs
    obtain ⟨scanner, d₁⟩ := placed
    have h : d₁.Enters [.ofLiteral l] (d₁.update (·.addRegex (.ofLiteral l))) :=
      .entered List.mem_cons_self
    refine .after ?_ hs
    exact h.before ⟨rfl, rfl, .inl rfl⟩

theorem enters_declareSentinel {name : Name} :
    d.Enters [.ofLiteral { raw := "\x60", loc := name.loc }] (d.declareSentinel name).2 := by
  rw [declareSentinel]
  split
  next => exact Spares.enters ⟨rfl, rfl, rfl, rfl⟩
  next => exact (Enters.entered List.mem_cons_self).before ⟨rfl, rfl, .inl rfl⟩

theorem enters_declareAtEnd {stmts : List Stmt} {frame : ObjectId} {loc : Location} :
    d.Enters rs (d.declareAtEnd stmts frame loc) := by
  rw [declareAtEnd]
  split <;> exact ⟨rfl, rfl, .inl rfl⟩

/-! ## Templates and routines -/

theorem spares_bindFirst {binder : Option VarRef} {items : List PatternItem} :
    d.Spares (d.bindFirst binder items).2 := by
  cases items with
  | nil => exact .refl d
  | cons first rest =>
    cases binder with
    | none => exact .refl d
    | some v => exact spares_declareNew

theorem spares_declareResult {field : Option FieldId} {type : TypeRef} :
    d.Spares (d.declareResult field type) := by
  cases field with
  | none => exact .refl d
  | some f => exact spares_declareTyped

theorem spares_construct {field : Option FieldId} {type : TypeRef} {items : List SupplyItem}
    {inits : List (FieldInit Expr)} {loc : Location} :
    d.Spares (d.construct field type items inits loc).2 := by
  have h : d.Spares (d.update (·.addConstructor loc d.home items)) := ⟨rfl, rfl, rfl, rfl⟩
  exact h.trans spares_declareResult

theorem spares_parse {mode : ParseMode} {field : Option FieldId} {type : TypeRef}
    {items : List SupplyItem} {inits : List (FieldInit Expr)} {loc : Location} :
    d.Spares (d.parse mode field type items inits loc).2 := by
  have h : d.Spares (d.update fun s =>
    (s.addConstructor loc d.home []).addFeed loc d.home items) := ⟨rfl, rfl, rfl, rfl⟩
  exact h.trans spares_declareResult

theorem spares_declareLoop {name : Name} {type : TypeRef} {iter : IterCall} {body : List Stmt}
    {scope : ScopeId} : d.Spares (d.declareLoop name type iter body scope).2 := by
  have h : d.Spares (d.newField name .localVar none).2 := ⟨rfl, rfl, rfl, rfl⟩
  exact h.trans spares_declareIn

/-! ## Opening and closing -/

theorem spares_openNamespace {name : Name} : d.Spares (d.openNamespace name).2 := by
  rw [openNamespace]
  split <;> exact ⟨rfl, rfl, rfl, rfl⟩

theorem spares_closeNamespace : d.Spares d.closeNamespace.2 := by
  rw [closeNamespace]
  split <;> exact ⟨rfl, rfl, rfl, rfl⟩

theorem spares_closeScanner : d.Spares d.closeScanner.2 := by
  rw [closeScanner]
  split <;> exact ⟨rfl, rfl, rfl, rfl⟩

theorem spares_openContext {name : Name} : d.Spares (d.openContext name).2 :=
  Spares.trans spares_openNamespace ⟨rfl, rfl, rfl, rfl⟩

theorem spares_closeContext : d.Spares d.closeContext.2 := by
  rw [closeContext]
  split
  next => exact .refl d
  next c cs _ =>
    have h : d.Spares { d with openContexts := cs } := ⟨rfl, rfl, rfl, rfl⟩
    exact h.trans spares_closeNamespace

theorem spares_closeScope : d.Spares d.closeScope.2 := by
  rw [closeScope]
  split <;> exact ⟨rfl, rfl, rfl, rfl⟩

/-! ## All operations -/

/-- An operation that has nothing to do with productions, scanners or tokens, and
    enters no regular expression, leaves all these tables alone. -/
theorem spares_apply (d : Draft) (hg : op.isGrammar = false) (hs : op.isScanning = false)
    (hr : op.regexes = []) : d.Spares (op.apply d) := by
  cases op with
  | newProduction | appendAlternative | declareNonterminal => exact nomatch hg
  | openScanner | declareToken | declareLiteral | declareSentinel | declareAtEnd => exact nomatch hs
  | declareRegular => exact nomatch hr
  | openNamespace => exact spares_openNamespace
  | closeNamespace => exact spares_closeNamespace
  | closeScanner => exact spares_closeScanner
  | openContext => exact spares_openContext
  | closeContext => exact spares_closeContext
  | closeScope => exact spares_closeScope
  | declareVariable | declareField => exact spares_declareIn
  | declareGlobal => exact spares_declareGlobal
  | declareExported => exact spares_declareExported
  | declareContextField => exact spares_declareContextField
  | refer => exact spares_refer
  | repetitionCount => exact spares_repetitionCount
  | withTrailing => exact spares_withTrailing
  | bindFirst => exact spares_bindFirst
  | construct => exact spares_construct
  | parse => exact spares_parse
  | declareLoop => exact spares_declareLoop
  | _ => exact ⟨rfl, rfl, rfl, rfl⟩

/-- An operation that has nothing to do with productions may enter a regular
    expression, and leaves the rules alone. -/
theorem enters_apply (d : Draft) (hg : op.isGrammar = false) :
    d.Enters op.regexes (op.apply d) := by
  cases op with
  | newProduction | appendAlternative | declareNonterminal => exact nomatch hg
  | openScanner => exact ⟨rfl, rfl, .inl rfl⟩
  | declareToken t => exact enters_declareToken
  | declareLiteral l joinsBefore joinsAfter => exact enters_declareLiteral
  | declareSentinel name => exact enters_declareSentinel
  | declareRegular name r isSealed => exact enters_declareRegular
  | declareAtEnd => exact enters_declareAtEnd
  | _ => exact (d.spares_apply rfl rfl rfl).enters

/-- An operation that neither adds scanners or tokens nor changes a region leaves
    these tables alone. -/
theorem Sound.scanning_apply (hd : d.Sound) (hop : d.Admits op) (hs : op.isScanning = false) :
    (op.apply d).spec.scanning = d.spec.scanning := by
  cases op with
  | openScanner | declareToken | declareLiteral | declareSentinel | declareAtEnd => exact nomatch hs
  | newProduction | appendAlternative => rfl
  | declareNonterminal name object ps reduceFirst =>
    have hn := hd.fits_nonterminalOf hop
    have hbind : ∀ {s s' : Spec}, Spec.Bind d.spec.nonterminals.next s s' →
        s'.scanning = s.scanning := fun hb => by cases hb <;> rfl
    have h := Spec.Binds.eq (Spec.binds_bindAlternatives hd.closed hn) hbind
    exact (congrArg Spec.scanning (Spec.addNonterminal_eq hd.closed hn)).trans h
  | declareRegular => exact scanning_declareRegular
  | _ => exact (d.spares_apply rfl rfl rfl).scanning

/-- Whatever the operation, regular expressions are entered or stay as they
    are. -/
theorem Sound.regexes_apply (hd : d.Sound) (hop : d.Admits op) :
    (op.apply d).spec.regexes = d.spec.regexes ∨
      ∃ r ∈ op.regexes, (op.apply d).spec.regexes = d.spec.regexes.push r := by
  cases op with
  | newProduction | appendAlternative => exact .inl rfl
  | declareNonterminal name object ps reduceFirst =>
    have hn := hd.fits_nonterminalOf hop
    have h := Spec.Binds.eq (Spec.binds_bindAlternatives hd.closed hn) Spec.Bind.regexes
    exact .inl ((congrArg Spec.regexes (Spec.addNonterminal_eq hd.closed hn)).trans h)
  | _ => exact (d.enters_apply rfl).regexes

end Draft

end LangSpec
