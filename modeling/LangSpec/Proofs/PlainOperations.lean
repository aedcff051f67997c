import LangSpec.Proofs.NewTokens

/-!
# Plain operations

Few operations make patterns and constructors, and few say of a field whether it
is exported and which context it belongs to. All others are *plain*: they leave
the templates alone and every field in its place. A new field has no place yet,
as if it had been blank before.

* `Field.place`: what is said of a field;
* `Spec.Plain`: the templates and the places of all fields are the same;
* `Sound.plain_apply`: what plain operations do;
* `Sound.templates_apply`, `Sound.place_apply`: what the others leave alone.
-/

namespace LangSpec

/-- What is said of the place of a field: whether it is exported, and the context
    it belongs to. -/
def Field.place (x : Field) : Bool × Option ContextId := (x.isExported, x.context)

/-- The tables of patterns and constructors, and the number of the next one. -/
structure Templates where
  patterns : Arena .patterns Pattern
  constructors : Arena .constructors Constructor
  next : UInt32

/-- The patterns and constructors of a specification. -/
def Spec.templates (s : Spec) : Templates :=
  { patterns := s.patterns, constructors := s.constructors, next := s.nextTemplate }

namespace Op

/-- The operation makes a pattern or a constructor. -/
def isTemplate : Op → Bool
  | fits _ _ _ | require _ _ _ | construct _ _ _ _ _ | parse _ _ _ _ _ _ => true
  | _ => false

/-- The operation says of a field that it is exported, or which context it
    belongs to. -/
def placesField : Op → Bool
  | declareGlobal _ _ | declareExported _ _ | declareContextField _ _ => true
  | _ => false

end Op

namespace Spec

variable {s s' s'' : Spec}

/-- The templates are the same, and every field is in its place. -/
structure Plain (s s' : Spec) : Prop where
  templates : s'.templates = s.templates
  place : ∀ f, (s'.fields.get f).place = (s.fields.get f).place

namespace Plain

theorem refl (s : Spec) : s.Plain s := ⟨rfl, fun _ => rfl⟩

theorem trans (h : s.Plain s') (h' : s'.Plain s'') : s.Plain s'' :=
  ⟨h'.templates.trans h.templates, fun f => (h'.place f).trans (h.place f)⟩

theorem of_eq (ht : s'.templates = s.templates) (hf : s'.fields = s.fields) : s.Plain s' :=
  ⟨ht, fun _ => hf ▸ rfl⟩

theorem addField {name : String} {loc : Location} {kind : FieldKind} {type : Option TypeRef} :
    s.Plain (s.addField name loc kind type) :=
  ⟨rfl, Arena.apply_get_push rfl⟩

theorem modifyField {f : FieldId} {change : Field → Field}
    (hc : ∀ x, (change x).place = x.place) : s.Plain (s.modifyField f change) :=
  ⟨rfl, Arena.apply_get_modify hc⟩

end Plain

theorem Bind.plain {n : NonterminalId} (h : Bind n s s') : s.Plain s' := by
  cases h with
  | own | setCapture | bindField => exact .of_eq rfl rfl
  | addSource | typed => exact .modifyField fun _ => rfl

theorem Binds.plain {n : NonterminalId} (h : Binds n s s') : s.Plain s' := by
  induction h with
  | refl => exact .refl s
  | tail _ hb ih => exact ih.trans hb.plain

end Spec

namespace Draft

variable {d : Draft} {f : FieldId} {op : Op}

/-! ## Variables and fields -/

theorem plain_declareIn {scope : ScopeId} {taken : String → Problem} :
    d.spec.Plain (d.declareIn scope f taken).spec := by
  rw [declareIn]
  split <;> exact .of_eq rfl rfl

theorem plain_declareTyped {type : TypeRef} : d.spec.Plain (d.declareTyped f type).spec := by
  have h : d.spec.Plain (d.update (·.modifyField f fun x => { x with type := some type })).spec :=
    .modifyField fun _ => rfl
  exact h.trans plain_declareIn

/-- A new local variable has no place. -/
theorem plain_declareNew {ref : VarRef} {type : Option TypeRef} :
    d.spec.Plain (d.declareNew ref type).spec := by
  rw [declareNew]
  split
  · exact Spec.Plain.addField.trans (.of_eq rfl rfl)
  · exact .of_eq rfl rfl

theorem plain_refer {name : Name} : d.spec.Plain (d.refer name).2.spec := by
  rw [refer]
  split
  next => split <;> exact .of_eq rfl rfl
  next => exact .of_eq rfl rfl

theorem plain_repetitionCount {text : String} {loc : Location} :
    d.spec.Plain (d.repetitionCount text loc).2.spec := by
  rw [repetitionCount]
  split <;> exact .of_eq rfl rfl

theorem plain_withTrailing {r : Regex} {context : Option Regex} :
    d.spec.Plain (d.withTrailing r context).2.spec := by
  cases context <;> exact .of_eq rfl rfl

theorem plain_scannerFor (d : Draft) (loc : Location) :
    d.spec.Plain (d.scannerFor loc).2.spec := by
  rw [scannerFor]
  split <;> exact .of_eq rfl rfl

theorem plain_addRegular {name : String} {loc : Location} {regex : RegexId} {isSealed : Bool} :
    d.spec.Plain (d.addRegular name loc regex isSealed).2.spec := by
  rw [addRegular]
  split <;> exact .of_eq rfl rfl

theorem plain_declareRegular {name : Name} {r : Regex} {isSealed : Bool} :
    d.spec.Plain (d.declareRegular name r isSealed).2.spec := by
  rw [declareRegular]
  split
  next => exact .of_eq rfl rfl
  next =>
    have h : d.spec.Plain (d.update (·.addRegex r)).spec := .of_eq rfl rfl
    exact h.trans plain_addRegular

theorem plain_placeToken {t : TokenDecl} {name : String} :
    d.spec.Plain (d.placeToken t name).2.spec := by
  have hs := d.plain_scannerFor t.loc
  rw [placeToken_eq]
  generalize (d.scannerFor t.loc).2 = placed at hs
  cases t.regex with
  | none => exact hs.trans (.of_eq rfl rfl)
  | some r =>
    have h : placed.spec.Plain
        ((placed.update (·.addRegex r)).enterToken (d.tokenOf t name)).spec := .of_eq rfl rfl
    exact (hs.trans h).trans plain_addRegular

theorem plain_declareToken {t : TokenDecl} : d.spec.Plain (d.declareToken t).2.spec := by
  rw [declareToken]
  split
  next => exact .of_eq rfl rfl
  next =>
    split
    next => exact .of_eq rfl rfl
    next => exact plain_placeToken

theorem plain_declareLiteral {l : Literal} {joinsBefore joinsAfter : Bool} :
    d.spec.Plain (d.declareLiteral l joinsBefore joinsAfter).2.spec := by
  rw [declareLiteral]
  split
  next => exact .of_eq rfl rfl
  next =>
    rw [placeLiteral_eq]
    exact (d.plain_scannerFor l.loc).trans (.of_eq rfl rfl)

theorem plain_declareSentinel {name : Name} : d.spec.Plain (d.declareSentinel name).2.spec := by
  rw [declareSentinel]
  split <;> exact .of_eq rfl rfl

theorem plain_declareAtEnd {stmts : List Stmt} {frame : ObjectId} {loc : Location} :
    d.spec.Plain (d.declareAtEnd stmts frame loc).spec := by
  rw [declareAtEnd]
  split <;> exact .of_eq rfl rfl

/-! ## Templates and routines -/

theorem plain_bindFirst {binder : Option VarRef} {items : List PatternItem} :
    d.spec.Plain (d.bindFirst binder items).2.spec := by
  cases items with
  | nil => exact .refl _
  | cons first rest =>
    cases binder with
    | none => exact .refl _
    | some v => exact plain_declareNew

theorem plain_declareResult {field : Option FieldId} {type : TypeRef} :
    d.spec.Plain (d.declareResult field type).spec := by
  cases field with
  | none => exact .refl _
  | some f => exact plain_declareTyped

/-- A new variable of a loop has no place. -/
theorem plain_declareLoop {name : Name} {type : TypeRef} {iter : IterCall} {body : List Stmt}
    {scope : ScopeId} : d.spec.Plain (d.declareLoop name type iter body scope).2.spec := by
  have h : d.spec.Plain (d.newField name .localVar none).2.spec := .addField
  exact h.trans plain_declareIn

/-! ## Opening and closing -/

theorem plain_openNamespace {name : Name} : d.spec.Plain (d.openNamespace name).2.spec := by
  rw [openNamespace]
  split <;> exact .of_eq rfl rfl

theorem plain_closeScanner : d.spec.Plain d.closeScanner.2.spec := by
  rw [closeScanner]
  split <;> exact .refl _

theorem plain_closeNamespace : d.spec.Plain d.closeNamespace.2.spec := by
  rw [closeNamespace_spec]
  exact .refl _

theorem plain_closeContext : d.spec.Plain d.closeContext.2.spec := by
  rw [closeContext]
  split
  next => exact .refl _
  next c cs _ => exact plain_closeNamespace (d := { d with openContexts := cs })

theorem plain_closeScope : d.spec.Plain d.closeScope.2.spec := by
  rw [closeScope]
  split <;> exact .refl _

/-! ## All operations -/

theorem Sound.plain_apply (hd : d.Sound) (hop : d.Admits op) (ht : op.isTemplate = false)
    (hp : op.placesField = false) : d.spec.Plain (op.apply d).spec := by
  cases op with
  | fits | require | construct | parse => exact nomatch ht
  | declareGlobal | declareExported | declareContextField => exact nomatch hp
  | openNamespace => exact plain_openNamespace
  | closeNamespace => exact plain_closeNamespace
  | closeScanner => exact plain_closeScanner
  | openContext => exact plain_openNamespace.trans (.of_eq rfl rfl)
  | closeContext => exact plain_closeContext
  | closeScope => exact plain_closeScope
  | newField => exact .addField
  | newParam => exact Spec.Plain.addField.trans (.modifyField fun _ => rfl)
  | declareVariable | declareField => exact plain_declareIn
  | refer => exact plain_refer
  | repetitionCount => exact plain_repetitionCount
  | label => exact Spec.Plain.addField.trans (.of_eq rfl rfl)
  | withTrailing => exact plain_withTrailing
  | declareToken => exact plain_declareToken
  | declareLiteral => exact plain_declareLiteral
  | declareSentinel => exact plain_declareSentinel
  | declareRegular => exact plain_declareRegular
  | declareAtEnd => exact plain_declareAtEnd
  | declareNonterminal name object ps reduceFirst =>
    have hn := hd.fits_nonterminalOf hop
    have hb := (Spec.binds_bindAlternatives hd.closed hn).plain
    have henlist : (d.spec.bindAlternatives (d.nonterminalOf name object ps reduceFirst)).Plain
        (d.spec.addNonterminal (d.nonterminalOf name object ps reduceFirst)) := by
      rw [Spec.addNonterminal_eq hd.closed hn]
      exact .of_eq rfl rfl
    exact hb.trans henlist
  | bindFirst => exact plain_bindFirst
  | declareLoop => exact plain_declareLoop
  | _ => exact .of_eq rfl rfl

/-- An operation that says nothing of the place of a field leaves all fields in
    their places. -/
theorem Sound.place_apply (hd : d.Sound) (hop : d.Admits op) (h : op.placesField = false)
    (f : FieldId) : ((op.apply d).spec.fields.get f).place = (d.spec.fields.get f).place := by
  cases op with
  | declareGlobal | declareExported | declareContextField => exact nomatch h
  | fits | require => rfl
  | construct | parse => exact plain_declareResult.place f
  | _ => exact (hd.plain_apply hop rfl rfl).place f

end Draft

end LangSpec
