import LangSpec.Proofs.Integrity

/-!
# The course of a walk

Every operation of a draft changes its specification by edits, or adds one
production or one nonterminal (`Sound.effect`), provided the draft is *sound*: no
handle in it leads nowhere, and there is a root namespace.

* `Draft.Leads`: what all operations do but those that open or close something,
  and those two: a number of edits, while the positions of the draft stay;
* `Reachable.sound`, `Reachable.steps`: every draft that can be reached is sound,
  and its specification is reached from the initial one by steps;
* `Composed.admits`: built lists of elements have positions in range.
-/

namespace LangSpec

/-- Any number of edits. -/
abbrev Spec.Edits : Spec → Spec → Prop := Relation.ReflTransGen Spec.Edit

/-- Any number of steps. -/
abbrev Spec.Steps : Spec → Spec → Prop := Relation.ReflTransGen Spec.Step

theorem Spec.Edits.closed {s s' : Spec} (h : Edits s s') (hs : s.Closed) : s'.Closed := by
  induction h with
  | refl => exact hs
  | tail _ he ih => exact he.closed ih

theorem Spec.Edits.grows {s s' : Spec} (h : Edits s s') : s.Grows s' := by
  induction h with
  | refl => exact fun _ => Nat.le_refl _
  | tail _ he ih => exact ih.trans he.grows

namespace Draft

/-- No handle in the draft leads nowhere, and there is a root namespace. -/
structure Sound (d : Draft) : Prop where
  closed : d.spec.Closed
  root : Spec.root ∈ d.spec.namespaces
  openNamespaces : d.spec.Covers d.openNamespaces
  openScanners : d.spec.Covers d.openScanners
  openContexts : d.spec.Covers d.openContexts
  frame : d.frame ∈ d.spec.objects
  scope : d.scope ∈ d.spec.scopes

/-- The draft `d'` comes out of `d` by edits and reports, while nothing is opened
    or closed. -/
inductive Leads (d : Draft) : Draft → Prop
  | mk {s : Spec} {ds : List Diagnostic} {r : UInt32} (h : Spec.Edits d.spec s) :
      Leads d { d with spec := s, diagnostics := ds, rank := r }

variable {d d' d'' : Draft}

namespace Leads

theorem edits (h : d.Leads d') : Spec.Edits d.spec d'.spec := by
  cases h with
  | mk h => exact h

theorem refl (d : Draft) : d.Leads d := .mk .refl

theorem trans (h : d.Leads d') (h' : d'.Leads d'') : d.Leads d'' := by
  obtain ⟨h⟩ := h
  obtain ⟨h'⟩ := h'
  exact .mk (h.trans h')

theorem report (p : Problem) (loc : Location) : d.Leads (d.report p loc) := .mk .refl

theorem edit {s : Spec} (h : d.spec.Edit s) : d.Leads { d with spec := s } := .mk (.single h)

theorem grows (h : d.Leads d') : d.spec.Grows d'.spec := h.edits.grows

end Leads

namespace Sound

theorem grow {s : Spec} (hd : d.Sound) (hs : s.Closed) (hg : d.spec.Grows s) :
    { d with spec := s }.Sound where
  closed := hs
  root := hg.mem (h := ⟨.namespaces, _⟩) hd.root
  openNamespaces := Spec.Covers.grow hd.openNamespaces hg
  openScanners := Spec.Covers.grow hd.openScanners hg
  openContexts := Spec.Covers.grow hd.openContexts hg
  frame := hg.mem (h := ⟨.objects, _⟩) hd.frame
  scope := hg.mem (h := ⟨.scopes, _⟩) hd.scope

theorem leads (hd : d.Sound) (h : d.Leads d') : d'.Sound := by
  obtain ⟨h⟩ := h
  obtain ⟨hc, hr, hn, hs, hx, hf, hp⟩ := hd.grow (h.closed hd.closed) h.grows
  exact ⟨hc, hr, hn, hs, hx, hf, hp⟩

theorem home (hd : d.Sound) : d.home ∈ d.spec.namespaces := by
  have h := hd.openNamespaces
  rw [Draft.home]
  cases hn : d.openNamespaces with
  | nil => exact hd.root
  | cons n ns =>
    rw [hn] at h
    exact Spec.covers_handle.1 (allHandles_cons.1 h).1

theorem scanner (hd : d.Sound) {c : ScannerId} (hc : d.scanner? = some c) :
    c ∈ d.spec.scanners :=
  Spec.covers_handle.1 (allHandles_list.1 hd.openScanners c (List.mem_of_head? hc))

theorem context (hd : d.Sound) : d.spec.Covers d.context? :=
  allHandles_option.2 fun c hc => allHandles_list.1 hd.openContexts c (List.mem_of_head? hc)

theorem contextObject (hd : d.Sound) {c : ContextId} (hc : c ∈ d.spec.contexts) :
    (d.spec.contexts.get c).object ∈ d.spec.objects :=
  Spec.covers_handle.1 (allHandles_context.1 (hd.closed.all.contexts.get hc)).2.2

end Sound

/-! ## Variables and fields -/

section Variable

variable {f : FieldId}

theorem leads_newField {name : Name} {kind : FieldKind} {type : Option TypeRef}
    (ht : d.spec.Covers type) : d.Leads (d.newField name kind type).2 :=
  .mk (.single (.addField name.text name.loc kind ht))

theorem newField_mem {name : Name} {kind : FieldKind} {type : Option TypeRef} :
    (d.newField name kind type).1 ∈ (d.newField name kind type).2.spec.fields :=
  Arena.next_mem_push

theorem leads_annotate (a : Annotation) (hf : f ∈ d.spec.fields) (ha : d.spec.Covers a) :
    d.Leads (d.update (·.modifyField f fun x => a.apply x)) :=
  .edit (.annotate a hf ha)

theorem leads_newParam {name : Name} {kind : FieldKind} {type : Option TypeRef}
    (ht : d.spec.Covers type) : d.Leads (d.newParam name kind type).2 :=
  (leads_newField ht).trans (leads_annotate .param newField_mem fun _ hh => nomatch hh)

theorem leads_declareIn {scope : ScopeId} {taken : String → Problem} (hc : scope ∈ d.spec.scopes)
    (hf : f ∈ d.spec.fields) : d.Leads (d.declareIn scope f taken) := by
  rw [declareIn]
  split
  next h => exact .edit (.bindField hc hf (Option.isNone_iff_eq_none.1 h))
  next => exact .report _ _

theorem leads_declareHere (hd : d.Sound) (hf : f ∈ d.spec.fields) : d.Leads (d.declareHere f) :=
  leads_declareIn hd.scope hf

theorem leads_declareField (hd : d.Sound) {object : ObjectId} (ho : object ∈ d.spec.objects)
    (hf : f ∈ d.spec.fields) : d.Leads (d.declareField object f) :=
  leads_declareIn (Spec.covers_handle.1 (allHandles_object.1 (hd.closed.all.objects.get ho)).2.1) hf

theorem leads_declareTyped (hd : d.Sound) {type : TypeRef} (hf : f ∈ d.spec.fields)
    (ht : d.spec.Covers type) : d.Leads (d.declareTyped f type) := by
  have h : d.Leads (d.update (·.modifyField f fun x => { x with type := some type })) :=
    leads_annotate (.typed type) hf ht
  exact h.trans (leads_declareHere (hd.leads h) (Arena.mem_modify.2 hf))

theorem leads_declareNew (hd : d.Sound) {ref : VarRef} {type : Option TypeRef}
    (ht : d.spec.Covers type) : d.Leads (d.declareNew ref type) := by
  rw [declareNew]
  split
  next h =>
    -- The new field is bound under its own name, which the scope does not know.
    refine .mk (.tail (.single (.addField ref.name ref.loc .localVar ht)) ?_)
    refine .bindField hd.scope Arena.next_mem_push ?_
    rw [Spec.addField, Arena.get_push_next]
    exact Option.isNone_iff_eq_none.1 h
  next => exact .report _ _

theorem leads_placeIn {c : ContextId} (hc : c ∈ d.spec.contexts) (hf : f ∈ d.spec.fields) :
    d.Leads (d.placeIn c f) :=
  leads_annotate (.within c) hf (Spec.covers_handle.2 hc)

/-- A field placed in a context is declared as a field of its object. -/
theorem leads_placeIn_declareField (hd : d.Sound) {c : ContextId} (hc : c ∈ d.spec.contexts)
    (hf : f ∈ d.spec.fields) :
    d.Leads ((d.placeIn c f).declareField (d.spec.contexts.get c).object f) := by
  have h := leads_placeIn hc hf
  exact h.trans (leads_declareField (hd.leads h) (hd.contextObject hc) (Arena.mem_modify.2 hf))

theorem Sound.globalObject (hd : d.Sound) : d.spec.globalObject ∈ d.spec.objects :=
  Spec.covers_handle.1 hd.closed.all.globalObject

theorem Sound.openContext (hd : d.Sound) {c : ContextId} (hc : d.context? = some c) :
    c ∈ d.spec.contexts :=
  Spec.covers_handle.1 (allHandles_option.1 hd.context c hc)

theorem leads_declareGlobal (hd : d.Sound) {init : Option Expr} (hf : f ∈ d.spec.fields) :
    d.Leads (d.declareGlobal f init).2 := by
  rw [declareGlobal]
  cases hc : d.context? with
  | none => exact leads_declareField hd hd.globalObject hf
  | some c => exact leads_placeIn_declareField hd (hd.openContext hc) hf

theorem leads_declareExported (hd : d.Sound) {init : Option Expr} (hf : f ∈ d.spec.fields) :
    d.Leads (d.declareExported f init).2 := by
  have h := leads_declareField hd hd.globalObject hf
  rw [declareExported]
  split
  next => exact .report _ _
  next =>
    dsimp only
    split
    next =>
      refine h.trans (leads_annotate .exported ?_ fun _ hh => nomatch hh)
      exact h.edits.grows.mem (h := ⟨.fields, f.index⟩) hf
    next => exact h

theorem leads_declareContextField (hd : d.Sound) {loc : Location} (hf : f ∈ d.spec.fields) :
    d.Leads (d.declareContextField f loc).2 := by
  rw [declareContextField]
  cases hc : d.context? with
  | none => exact .refl d
  | some c => exact leads_placeIn_declareField hd (hd.openContext hc) hf

end Variable

/-! ## Regular expressions and tokens -/

theorem leads_refer {name : Name} : d.Leads (d.refer name).2 := by
  rw [refer]
  split
  next =>
    split
    next => exact .report _ _
    next => exact .refl d
  next => exact .report _ _

theorem leads_repetitionCount {text : String} {loc : Location} :
    d.Leads (d.repetitionCount text loc).2 := by
  rw [repetitionCount]
  split
  next => exact .refl d
  next => exact .report _ _

theorem leads_label {name : Name} {part : Part} : d.Leads (d.label name part).2 := by
  have ht : d.spec.Covers (some (TypeRef.named { loc := name.loc } d.spec.stringType)) := by
    intro h hh
    cases hh
  exact .mk (.tail (.tail (.single (.addField name.text name.loc .matchedText ht)) .addMark)
    .addMark)

theorem leads_withTrailing {r : Regex} {context : Option Regex} :
    d.Leads (d.withTrailing r context).2 := by
  cases context with
  | none => exact .refl d
  | some c => exact .mk (.single .addMark)

theorem leads_scannerFor (hd : d.Sound) (loc : Location) :
    d.Leads (d.scannerFor loc).2 ∧ (d.scannerFor loc).1 ∈ (d.scannerFor loc).2.spec.scanners := by
  rw [scannerFor]
  split
  next c hc => exact ⟨.refl d, hd.scanner hc⟩
  next => exact ⟨.edit (.addScanner loc), Arena.next_mem_push⟩

/-- The scanner a token goes to is not looked for in namespaces. -/
theorem scannerFor_namespaces (d : Draft) (loc : Location) :
    (d.scannerFor loc).2.spec.namespaces = d.spec.namespaces ∧
      (d.scannerFor loc).2.home = d.home := by
  rw [scannerFor]
  split
  next => exact ⟨rfl, rfl⟩
  next => exact ⟨rfl, rfl⟩

theorem leads_addRegular (hd : d.Sound) {name : String} {loc : Location} {regex : RegexId}
    {isSealed : Bool} (hr : regex ∈ d.spec.regexes) :
    d.Leads (d.addRegular name loc regex isSealed).2 := by
  rw [addRegular]
  split
  next => exact .report _ _
  next hn => exact .edit (.addRegular loc isSealed hd.home hr hn)

theorem leads_addRegex {r : Regex} (hr : d.spec.Covers r) : d.Leads (d.update (·.addRegex r)) :=
  .edit (.addRegex hr)

theorem leads_declareRegular (hd : d.Sound) {name : Name} {r : Regex} {isSealed : Bool}
    (hr : d.spec.Covers r) : d.Leads (d.declareRegular name r isSealed).2 := by
  rw [declareRegular]
  split
  next => exact .report _ _
  next =>
    have h := leads_addRegex hr
    exact h.trans (leads_addRegular (hd.leads h) Arena.next_mem_push)

/-- A token is put into a scanner after its regular expression, if it has one. -/
theorem leads_placeToken (hd : d.Sound) {t : TokenDecl} {name : String} (ht : d.spec.Covers t) :
    d.Leads (d.placeToken t name).2 := by
  obtain ⟨hregex, hobject, haction⟩ := allHandles_tokenDecl.1 ht
  obtain ⟨h₁, hc⟩ := leads_scannerFor hd t.loc
  rw [placeToken]
  generalize d.scannerFor t.loc = placed at h₁ hc
  obtain ⟨scanner, d₁⟩ := placed
  cases hr : t.regex with
  | none =>
    refine h₁.trans (.edit (.addToken ?_ rfl rfl))
    have hd₁ := hd.leads h₁
    exact ⟨allHandles_none, Spec.Covers.grow haction h₁.grows, hd₁.home, hc,
      Spec.Covers.grow hobject h₁.grows, hd₁.context⟩
  | some r =>
    rw [hr, allHandles_some] at hregex
    have h₂ := h₁.trans (leads_addRegex (Spec.Covers.grow hregex h₁.grows))
    have hd₂ := hd.leads h₂
    have hr₂ : d₁.spec.regexes.next ∈ (d₁.update (·.addRegex r)).spec.regexes :=
      Arena.next_mem_push
    -- The expression of a token is a regular definition, too, entered after it.
    refine .trans ?placed (leads_addRegular (hd.leads ?placed) hr₂)
    refine h₂.trans (.edit (.addToken ?_ rfl rfl))
    exact ⟨allHandles_some.2 (Spec.covers_handle.2 hr₂), Spec.Covers.grow haction h₂.grows,
      hd₂.home, hc, Spec.Covers.grow hobject h₂.grows, hd₂.context⟩

theorem leads_declareToken (hd : d.Sound) {t : TokenDecl} (ht : d.spec.Covers t) :
    d.Leads (d.declareToken t).2 := by
  rw [declareToken]
  split
  next => exact .report _ _
  next =>
    split
    next => exact .report _ _
    next => exact leads_placeToken hd ht

theorem covers_ofLiteral {s : Spec} {l : Literal} : s.Covers (Regex.ofLiteral l) :=
  fun _ hh => nomatch hh

/-- The token of a literal is put into a scanner after its regular expression
    and its object. -/
theorem leads_declareLiteral (hd : d.Sound) {l : Literal} {joinsBefore joinsAfter : Bool} :
    d.Leads (d.declareLiteral l joinsBefore joinsAfter).2 := by
  rw [declareLiteral]
  split
  next => exact .report _ _
  next hn =>
    obtain ⟨h₁, hc⟩ := leads_scannerFor hd l.loc
    have hn₁ := scannerFor_namespaces d l.loc
    rw [placeLiteral]
    generalize d.scannerFor l.loc = placed at h₁ hc hn₁
    obtain ⟨scanner, d₁⟩ := placed
    have h₂ := h₁.trans (leads_addRegex (r := .ofLiteral l) covers_ofLiteral)
    have h₃ := h₂.trans (.edit (.addObject .type (d.madeUpName "literal")))
    have hd₃ := hd.leads h₃
    refine h₃.trans (.edit (.addLiteral ?_ rfl rfl ?_))
    · -- The expression and the object of the token are the new ones.
      exact ⟨allHandles_some.2 (Spec.covers_handle.2 Arena.next_mem_push), allHandles_none,
        hd₃.home, hc, allHandles_some.2 (Spec.covers_handle.2 Arena.next_mem_push),
        allHandles_none⟩
    · -- The text was free before the scanner was looked for, and still is.
      rw [← hn₁.1, ← hn₁.2] at hn
      exact hn

theorem leads_declareSentinel (hd : d.Sound) {name : Name} :
    d.Leads (d.declareSentinel name).2 := by
  rw [declareSentinel]
  split
  next => exact .report _ _
  next c hc =>
    have h := leads_addRegex (d := d) (r := .ofLiteral { raw := "\x60", loc := name.loc })
      covers_ofLiteral
    have hd' := hd.leads h
    refine h.trans (.edit (.addSentinel ?_ rfl rfl rfl))
    exact ⟨allHandles_some.2 (Spec.covers_handle.2 Arena.next_mem_push), allHandles_none, hd'.home,
      hd'.scanner hc, allHandles_none, hd'.context⟩

theorem leads_declareAtEnd (hd : d.Sound) {stmts : List Stmt} {frame : ObjectId} {loc : Location}
    (hs : d.spec.Covers stmts) (hf : frame ∈ d.spec.objects) :
    d.Leads (d.declareAtEnd stmts frame loc) := by
  rw [declareAtEnd]
  split
  next => exact .report _ _
  next c hc =>
    -- The code goes to the mixed region of the scanner.
    have hm := (allHandles_scanner.1 (hd.closed.all.scanners.get (hd.scanner hc))).2.2.2.2.1
    refine .edit (.setAtEnd (Spec.covers_handle.1 hm) ?_)
    exact allHandles_code.2 ⟨hs, Spec.covers_handle.2 hf, hd.context⟩

/-! ## Grammar, templates and routines -/

theorem leads_appendAlternative {ps : List ProductionId} {p : ProductionId}
    (hp : p ∈ d.spec.productions) : d.Leads (d.appendAlternative ps p).2 :=
  .mk (.single (.renumber ps.length hp))

theorem leads_declarePrecedence {tokens : List Ranked} {associativity : Associativity}
    (ht : d.spec.Covers tokens) : d.Leads (d.declarePrecedence tokens associativity) := by
  refine .mk (.single (.rank ?_))
  rw [Spec.Covers, allHandles_list] at ht ⊢
  intro p hp
  obtain ⟨r, hr, rfl⟩ := List.mem_map.1 hp
  exact ht r hr

theorem leads_bindFirst (hd : d.Sound) {binder : Option VarRef} {items : List PatternItem}
    (hi : d.spec.Covers items) : d.Leads (d.bindFirst binder items).2 := by
  cases items with
  | nil => exact .refl d
  | cons first rest =>
    cases binder with
    | none => exact .refl d
    | some v =>
      -- The type of the new variable is that of the first item.
      refine leads_declareNew hd (allHandles_option.2 fun type ht => ?_)
      have hfirst := (allHandles_cons.1 hi).1
      rw [PatternItem.type?] at ht
      split at ht
      next e he =>
        cases ht
        have he : d.spec.Covers e := fun h hh =>
          hfirst h (List.mem_append_left _ (by rw [he]; exact hh))
        exact (allHandles_element.1 he).1
      next => exact nomatch ht

theorem leads_addPattern (hd : d.Sound) (loc : Location) {items : List PatternItem}
    (hi : d.spec.Covers items) : d.Leads (d.update (·.addPattern loc d.home items)) :=
  .edit (.addPattern loc hd.home hi)

theorem leads_addFeed (hd : d.Sound) (loc : Location) {items : List SupplyItem}
    (hi : d.spec.Covers items) : d.Leads (d.update (·.addFeed loc d.home items)) :=
  .edit (.addFeed loc hd.home hi)

theorem leads_addConstructor (hd : d.Sound) (loc : Location) {items : List SupplyItem}
    (hi : d.spec.Covers items) : d.Leads (d.update (·.addConstructor loc d.home items)) :=
  .edit (.addConstructor loc hd.home hi)

theorem leads_declareResult (hd : d.Sound) {field : Option FieldId} {type : TypeRef}
    (hf : d.spec.Covers field) (ht : d.spec.Covers type) :
    d.Leads (d.declareResult field type) := by
  cases field with
  | none => exact .refl d
  | some f => exact leads_declareTyped hd (Spec.covers_handle.1 (allHandles_some.1 hf)) ht

theorem leads_construct (hd : d.Sound) {field : Option FieldId} {type : TypeRef}
    {items : List SupplyItem} {inits : List (FieldInit Expr)} {loc : Location}
    (hf : d.spec.Covers field) (ht : d.spec.Covers type) (hi : d.spec.Covers items) :
    d.Leads (d.construct field type items inits loc).2 := by
  have h := leads_addConstructor hd loc hi
  exact h.trans (leads_declareResult (hd.leads h) (Spec.Covers.grow hf h.grows)
    (Spec.Covers.grow ht h.grows))

theorem leads_parse (hd : d.Sound) {mode : ParseMode} {field : Option FieldId} {type : TypeRef}
    {items : List SupplyItem} {inits : List (FieldInit Expr)} {loc : Location}
    (hf : d.spec.Covers field) (ht : d.spec.Covers type) (hi : d.spec.Covers items) :
    d.Leads (d.parse mode field type items inits loc).2 := by
  have h₁ : d.Leads (d.update (·.addConstructor loc d.home [])) :=
    leads_addConstructor hd loc allHandles_nil
  have h := h₁.trans (leads_addFeed (hd.leads h₁) loc (Spec.Covers.grow hi h₁.grows))
  exact h.trans (leads_declareResult (hd.leads h) (Spec.Covers.grow hf h.grows)
    (Spec.Covers.grow ht h.grows))

theorem leads_declareLoop (hd : d.Sound) {name : Name} {type : TypeRef} {iter : IterCall}
    {body : List Stmt} {scope : ScopeId} :
    d.Leads (d.declareLoop name type iter body scope).2 := by
  have h : d.Leads (d.newField name .localVar none).2 := leads_newField allHandles_none
  exact h.trans (leads_declareHere (hd.leads h) newField_mem)

theorem leads_declareFunction (hd : d.Sound) {name : Name} {params : List FieldId}
    {stmts : List Stmt} {result : Option TypeRef} {frame : ObjectId} {isExported : Bool}
    (hp : d.spec.Covers params) (hs : d.spec.Covers stmts) (hr : d.spec.Covers result)
    (hf : d.spec.Covers frame) :
    d.Leads (d.declareFunction name params stmts result frame isExported).2 :=
  .mk (.single (.addRoutine ⟨hr, hp, allHandles_code.2 ⟨hs, hf, hd.context⟩, hd.context⟩))

theorem leads_declareIterator {name : Name} {params : List FieldId} {stmts : List Stmt}
    {frame : ObjectId} (hp : d.spec.Covers params) (hs : d.spec.Covers stmts)
    (hf : d.spec.Covers frame) : d.Leads (d.declareIterator name params stmts frame).2 :=
  .mk (.single (.addRoutine ⟨allHandles_none, hp, allHandles_code.2 ⟨hs, hf, allHandles_none⟩,
    allHandles_none⟩))

theorem leads_declareAlias (hd : d.Sound) {name : Name} {type : TypeRef}
    (ht : d.spec.Covers type) : d.Leads (d.declareAlias name type).2 :=
  .mk (.single (.addAlias name.text name.loc hd.home ht))

/-! ## Opening and closing -/

/-- The sound draft `d'` comes out of `d` by edits, while something is opened or
    closed. -/
structure Shifts (d d' : Draft) : Prop where
  edits : Spec.Edits d.spec d'.spec
  sound : d'.Sound

theorem Leads.shifts (h : d.Leads d') (hd : d.Sound) : d.Shifts d' := ⟨h.edits, hd.leads h⟩

theorem Sound.enter (hd : d.Sound) {n : NamespaceId} (hn : n ∈ d.spec.namespaces) :
    (d.enter n).Sound :=
  { hd with openNamespaces := allHandles_cons.2 ⟨Spec.covers_handle.2 hn, hd.openNamespaces⟩ }

theorem shifts_openNamespace (hd : d.Sound) (name : Name) :
    d.Shifts (d.openNamespace name).2 ∧
      (d.openNamespace name).1 ∈ (d.openNamespace name).2.spec.namespaces ∧
      (d.openNamespace name).2.home = (d.openNamespace name).1 := by
  rw [openNamespace]
  split
  next n hn =>
    -- The namespace is opened again: it is one of those within the current one.
    have hch := (allHandles_namespace.1 (hd.closed.all.namespaces.get hd.home)).2.2.1
    have hn : n ∈ d.spec.namespaces :=
      Spec.covers_handle.1 (allHandles_list.1 hch n (List.mem_of_find?_eq_some hn))
    exact ⟨⟨.refl, hd.enter hn⟩, hn, rfl⟩
  next hn =>
    have h : d.Leads (d.update (·.addNamespace name.loc name.text d.home)) :=
      .edit (.addNamespace name.loc hd.home hn)
    have hn : d.spec.namespaces.next ∈ (d.spec.addNamespace name.loc name.text d.home).namespaces :=
      Arena.mem_modify.2 Arena.next_mem_push
    exact ⟨⟨h.edits, (hd.leads h).enter hn⟩, hn, rfl⟩

theorem name_openNamespace (d : Draft) (name : Name) :
    ((d.openNamespace name).2.spec.namespaces.get (d.openNamespace name).1).name = name.text := by
  rw [openNamespace]
  split
  next n hn =>
    rw [Spec.child?] at hn
    have hname := List.find?_some hn
    exact beq_iff_eq.1 hname
  next =>
    -- The new namespace is listed with its parent, which keeps the names.
    exact (Arena.apply_get_modify (g := Namespace.name) (by intro; rfl) _).trans
      (congrArg Namespace.name Arena.get_push_next)

theorem sound_closeNamespace (hd : d.Sound) : d.closeNamespace.2.Sound := by
  rw [closeNamespace]
  split
  next => exact hd
  next n ns hn =>
    have h := hd.openNamespaces
    rw [hn] at h
    exact { hd with openNamespaces := (allHandles_cons.1 h).2 }

theorem closeNamespace_spec : d.closeNamespace.2.spec = d.spec := by
  rw [closeNamespace]
  split <;> rfl

theorem shifts_closeNamespace (hd : d.Sound) : d.Shifts d.closeNamespace.2 :=
  ⟨closeNamespace_spec ▸ .refl, sound_closeNamespace hd⟩

theorem shifts_openScanner (hd : d.Sound) {loc : Location} : d.Shifts (d.openScanner loc).2 := by
  have h : d.Leads (d.update (·.addScanner loc)) := .edit (.addScanner loc)
  have hc : (d.spec.addScanner loc).Covers d.spec.scanners.next :=
    Spec.covers_handle.2 Arena.next_mem_push
  have hd' := hd.leads h
  exact ⟨h.edits, { hd' with openScanners := allHandles_cons.2 ⟨hc, hd'.openScanners⟩ }⟩

theorem shifts_closeScanner (hd : d.Sound) : d.Shifts d.closeScanner.2 := by
  rw [closeScanner]
  split
  next => exact ⟨.refl, hd⟩
  next c cs hc =>
    have h := hd.openScanners
    rw [hc] at h
    exact ⟨.refl, { hd with openScanners := (allHandles_cons.1 h).2 }⟩

/-- A context is opened after its namespace. -/
theorem shifts_openContext (hd : d.Sound) {name : Name} : d.Shifts (d.openContext name).2 := by
  obtain ⟨⟨he, hd₁⟩, hn, -⟩ := shifts_openNamespace hd name
  have hname := d.name_openNamespace name
  rw [openContext]
  generalize d.openNamespace name = opened at he hd₁ hn hname
  obtain ⟨home, d₁⟩ := opened
  have h₂ : d₁.Leads (d₁.update (·.addObject .type name.text)) := .edit (.addObject _ _)
  have h₃ := h₂.trans (.edit (.addContext name.text name.loc d₁.spec.objects.next hn
    Arena.next_mem_push hname))
  have hd₃ := hd₁.leads h₃
  have hc := allHandles_cons.2 ⟨Spec.covers_handle.2 Arena.next_mem_push, hd₃.openContexts⟩
  exact ⟨he.trans h₃.edits, { hd₃ with openContexts := hc }⟩

theorem shifts_closeContext (hd : d.Sound) : d.Shifts d.closeContext.2 := by
  rw [closeContext]
  split
  next => exact ⟨.refl, hd⟩
  next c cs hc =>
    have h := hd.openContexts
    rw [hc] at h
    -- The context is closed before the namespace it opened.
    have hd₁ : Sound { d with openContexts := cs } :=
      { hd with openContexts := (allHandles_cons.1 h).2 }
    have h₂ := shifts_closeNamespace hd₁
    exact ⟨h₂.edits, h₂.sound⟩

theorem shifts_openFrame (hd : d.Sound) : d.Shifts d.openFrame.2 := by
  have h : d.Leads (d.update (·.addObject .frame "local")) := .edit (.addObject _ _)
  exact ⟨h.edits, { hd.leads h with frame := Arena.next_mem_push, scope := Arena.next_mem_push }⟩

theorem shifts_closeFrame (hd : d.Sound) : d.Shifts d.closeFrame := by
  have hf : d.spec.rootFrame ∈ d.spec.objects := Spec.covers_handle.1 hd.closed.all.rootFrame
  have hc := (allHandles_object.1 (hd.closed.all.objects.get hf)).2.1
  exact ⟨.refl, { hd with frame := hf, scope := Spec.covers_handle.1 hc }⟩

theorem shifts_openScope (hd : d.Sound) : d.Shifts d.openScope.2 := by
  have h : d.Leads (d.update (·.addScope d.scope)) := .edit (.addScope hd.scope)
  exact ⟨h.edits, { hd.leads h with scope := Arena.mem_modify.2 Arena.next_mem_push }⟩

theorem shifts_closeScope (hd : d.Sound) : d.Shifts d.closeScope.2 := by
  have h := (allHandles_scope.1 (hd.closed.all.scopes.get hd.scope)).2.2.1
  rw [closeScope]
  split
  next => exact ⟨.refl, hd⟩
  next p hp => exact ⟨.refl, { hd with scope := Spec.covers_handle.1 (allHandles_option.1 h p hp) }⟩

/-! ## All operations -/

/-- What an admitted operation `op` does to a draft. -/
inductive Effect (d : Draft) (op : Op) : Draft → Prop
  /-- It edits. -/
  | shifts {d' : Draft} (h : d.Shifts d') : Effect d op d'
  /-- It adds a production. -/
  | production {p : Production} (hp : p.FitsIn d.spec) (he : p.elements = op.elements) :
      Effect d op (d.update (·.addProduction p))
  /-- It adds a nonterminal. -/
  | nonterminal {n : Nonterminal} (hn : n.FitsIn d.spec) :
      Effect d op (d.update (·.addNonterminal n))

theorem Leads.effect {op : Op} (h : d.Leads d') (hd : d.Sound) : d.Effect op d' :=
  .shifts (h.shifts hd)

/-- An operation that opens or closes nothing and adds no rule leads on. -/
theorem Sound.leads_apply (hd : d.Sound) {op : Op} (hop : d.Admits op)
    (hb : op.isBracket = false) (hr : op.isRule = false) : d.Leads (op.apply d) := by
  obtain ⟨hh, -⟩ := hop
  -- The handles of the operation are taken apart as its arguments list them.
  have mem {t : Table} {h : Handle t} (h : d.spec.Covers h) := Spec.covers_handle.1 h
  cases op with
  | openNamespace | closeNamespace | openScanner | closeScanner | openContext | closeContext
  | openFrame | closeFrame | openScope | closeScope => exact nomatch hb
  | newProduction | declareNonterminal => exact nomatch hr
  | newField name kind type => exact leads_newField hh
  | newParam name kind type => exact leads_newParam hh
  | newObject name => exact .mk (.single (.addObject _ _))
  | declareVariable f init =>
    exact leads_declareHere hd (mem (List.forall_mem_append.1 hh).1)
  | declareGlobal f init =>
    exact leads_declareGlobal hd (mem (List.forall_mem_append.1 hh).1)
  | declareExported f init =>
    exact leads_declareExported hd (mem (List.forall_mem_append.1 hh).1)
  | declareContextField f loc => exact leads_declareContextField hd (mem hh)
  | declareField object f =>
    obtain ⟨ho, hf⟩ := List.forall_mem_append.1 hh
    exact leads_declareField hd (mem ho) (mem hf)
  | refer name => exact leads_refer
  | repetitionCount text loc => exact leads_repetitionCount
  | label name part => exact leads_label
  | withTrailing r context => exact leads_withTrailing
  | declareToken t => exact leads_declareToken hd hh
  | declareLiteral l joinsBefore joinsAfter => exact leads_declareLiteral hd
  | declareSentinel name => exact leads_declareSentinel hd
  | declareRegular name r isSealed => exact leads_declareRegular hd hh
  | declareAtEnd stmts frame loc =>
    obtain ⟨hs, hf⟩ := List.forall_mem_append.1 hh
    exact leads_declareAtEnd hd hs (mem hf)
  | appendAlternative ps p =>
    exact leads_appendAlternative (mem (List.forall_mem_append.1 hh).2)
  | declarePrecedence tokens associativity => exact leads_declarePrecedence hh
  | bindFirst binder items =>
    exact leads_bindFirst hd (List.forall_mem_append.1 hh).2
  | fits tree items loc => exact leads_addPattern hd loc (List.forall_mem_append.1 hh).2
  | require tree items loc =>
    exact leads_addPattern hd loc (List.forall_mem_append.1 hh).2
  | construct field type items inits loc =>
    obtain ⟨h, -⟩ := List.forall_mem_append.1 hh
    obtain ⟨h, hi⟩ := List.forall_mem_append.1 h
    obtain ⟨hf, ht⟩ := List.forall_mem_append.1 h
    exact leads_construct hd hf ht hi
  | send parser items eof loc =>
    exact leads_addFeed hd loc (List.forall_mem_append.1 hh).2
  | sendTree parser items eof loc =>
    exact leads_addFeed hd loc (List.forall_mem_append.1 hh).2
  | parse mode field type items inits loc =>
    obtain ⟨h, -⟩ := List.forall_mem_append.1 hh
    obtain ⟨h, hi⟩ := List.forall_mem_append.1 h
    obtain ⟨hf, ht⟩ := List.forall_mem_append.1 h
    exact leads_parse hd hf ht hi
  | declareLoop name type iter body scope => exact leads_declareLoop hd
  | declareFunction name params stmts result frame isExported =>
    obtain ⟨h, hf⟩ := List.forall_mem_append.1 hh
    obtain ⟨h, hr⟩ := List.forall_mem_append.1 h
    obtain ⟨hp, hs⟩ := List.forall_mem_append.1 h
    exact leads_declareFunction hd hp hs hr hf
  | declareIterator name params stmts frame =>
    obtain ⟨h, hf⟩ := List.forall_mem_append.1 hh
    obtain ⟨hp, hs⟩ := List.forall_mem_append.1 h
    exact leads_declareIterator hp hs hf
  | declareAlias name type => exact leads_declareAlias hd hh

/-- The nonterminal that `declareNonterminal` adds. -/
def nonterminalOf (d : Draft) (name : Name) (object : ObjectId) (alternatives : List ProductionId)
    (reduceFirst : Bool) : Nonterminal :=
  { id := d.spec.nonterminals.next, loc := name.loc, name := name.text, reduceFirst, object
    alternatives
    home := d.home
    context := d.context? }

theorem Sound.fits_nonterminalOf (hd : d.Sound) {name : Name} {object : ObjectId}
    {alternatives : List ProductionId} {reduceFirst : Bool}
    (hop : d.Admits (.declareNonterminal name object alternatives reduceFirst)) :
    (d.nonterminalOf name object alternatives reduceFirst).FitsIn d.spec := by
  obtain ⟨ho, hps⟩ := List.forall_mem_append.1 hop.1
  refine ⟨hd.home, hd.context, Spec.covers_handle.1 ho, fun p hp => ?_, hop.2⟩
  exact Spec.covers_handle.1 (allHandles_list.1 hps p hp)

theorem Sound.effect (hd : d.Sound) {op : Op} (hop : d.Admits op) :
    d.Effect op (op.apply d) := by
  cases op with
  | openNamespace name => exact .shifts (shifts_openNamespace hd name).1
  | closeNamespace => exact .shifts (shifts_closeNamespace hd)
  | openScanner loc => exact .shifts (shifts_openScanner hd)
  | closeScanner => exact .shifts (shifts_closeScanner hd)
  | openContext name => exact .shifts (shifts_openContext hd)
  | closeContext => exact .shifts (shifts_closeContext hd)
  | openFrame => exact .shifts (shifts_openFrame hd)
  | closeFrame => exact .shifts (shifts_closeFrame hd)
  | openScope => exact .shifts (shifts_openScope hd)
  | closeScope => exact .shifts (shifts_closeScope hd)
  | newProduction elements action predicateOf name commit loc =>
    obtain ⟨hea, hp⟩ := List.forall_mem_append.1 hop.1
    obtain ⟨he, ha⟩ := List.forall_mem_append.1 hea
    exact .production ⟨he, ha, hp⟩ rfl
  | declareNonterminal name object ps reduceFirst =>
    exact .nonterminal (hd.fits_nonterminalOf hop)
  | _ => exact (hd.leads_apply hop rfl rfl).effect hd

theorem Effect.sound {op : Op} (h : d.Effect op d') (hd : d.Sound) : d'.Sound := by
  cases h with
  | shifts h => exact h.sound
  | production hp => exact hd.grow (hd.closed.addProduction hp) (Spec.grows_addProduction _)
  | nonterminal hn =>
    exact hd.grow (hd.closed.addNonterminal hn) (Spec.grows_addNonterminal hd.closed hn)

theorem Effect.steps {op : Op} (h : d.Effect op d') : Spec.Steps d.spec d'.spec := by
  cases h with
  | shifts h => exact Relation.ReflTransGen.mono (fun _ _ he => Spec.Step.edit he) _ _ h.edits
  | production hp => exact .single (.production hp)
  | nonterminal hn => exact .single (.nonterminal hn)

end Draft

namespace Spec

/-- The options do not matter for the handles of the initial specification. -/
theorem closed_initial (o : Options) : (initial o).Closed := by
  have h : (initial {}).Covers (initial {}) := by decide
  exact h

end Spec

namespace Draft

variable {o : Options} {d : Draft}

theorem sound_start (o : Options) : (start o).Sound where
  closed := Spec.closed_initial o
  root := Nat.zero_lt_one
  openNamespaces := allHandles_nil
  openScanners := allHandles_nil
  openContexts := allHandles_nil
  frame := Nat.lt_succ_self 1
  scope := Nat.lt_succ_self 1

theorem Reachable.sound (h : Reachable o d) : d.Sound := by
  induction h with
  | start => exact sound_start o
  | step _ hop ih => exact (ih.effect hop).sound ih

theorem Reachable.steps (h : Reachable o d) : Spec.Steps (Spec.initial o) d.spec := by
  induction h with
  | start => exact .refl
  | step h hop ih => exact ih.trans (h.sound.effect hop).steps

/-- A walk that goes on from a draft goes on by steps. -/
theorem Reachable.steps_run {ops : List Op} (hd : Reachable o d) (h : d.AdmitsAll ops) :
    Spec.Steps d.spec (d.run ops).spec := by
  induction ops generalizing d with
  | nil => exact .refl
  | cons op ops ih => exact (hd.sound.effect h.1).steps.trans (ih (.step hd h.1) h.2)

end Draft

namespace Spec

variable {s s' : Spec}

/-- A property kept by edits, by new productions, by what new nonterminals bind
    and by their entries, is kept by any number of steps. -/
theorem Steps.preserves {Q : Spec → Prop} (h : Steps s s') (hs : s.Closed)
    (edit : ∀ {s s'}, Edit s s' → Q s → Q s')
    (production : ∀ {s p}, Q s → Q (s.addProduction p))
    (bind : ∀ {n s s'}, Bind n s s' → Q s → Q s')
    (enlist : ∀ {s n}, Q s → Q (s.enlist n)) (hQ : Q s) : s'.Closed ∧ Q s' := by
  induction h with
  | refl => exact ⟨hs, hQ⟩
  | tail _ h ih => exact ⟨h.closed ih.1, h.preserves ih.1 edit production bind enlist ih.2⟩

/-! ## Built lists of elements -/

/-- The elements of all productions have positions in range. -/
def AllInRange (s : Spec) : Prop := s.productions.Forall fun _ p => p.InRange

theorem AllInRange.get (hs : s.AllInRange) (p : ProductionId) :
    (s.productions.get p).InRange := by
  rw [Arena.get]
  cases hp : s.productions.get? p with
  | none => exact fun _ he => absurd he List.not_mem_nil
  | some x => exact hs p x hp

theorem Edit.allInRange (h : s.Edit s') (hs : s.AllInRange) : s'.AllInRange := by
  cases h with
  | renumber => exact Arena.Forall.modify hs fun _ _ hp => hp
  | _ => exact hs

theorem Bind.allInRange {n : NonterminalId} (h : Bind n s s') (hs : s.AllInRange) :
    s'.AllInRange := by
  cases h with
  | own => exact Arena.Forall.modify hs fun _ _ hp => hp
  | setCapture r f =>
    refine Arena.Forall.modify hs fun p _ hp e he => ?_
    -- The positions of the elements stay the same.
    have hpos : e.pos ∈ p.elements.map (·.pos) := by
      rw [← map_modify_of_eq (f := fun e : Element => { e with capture := some f }) fun _ => rfl]
      exact List.mem_map_of_mem he
    obtain ⟨e', he', hpos⟩ := List.mem_map.1 hpos
    rw [List.length_modify, ← hpos]
    exact hp e' he'
  | addSource | typed | bindField => exact hs

/-- Elements of a production are in range no matter what they are linked to. -/
theorem allInRange_addProduction {p : Production} (hs : s.AllInRange)
    (hp : ∀ e ∈ p.elements, e.pos < p.elements.length) : (s.addProduction p).AllInRange := by
  refine Arena.Forall.push hs fun e he => ?_
  obtain ⟨e', he', rfl⟩ := List.mem_map.1 he
  rw [List.length_map]
  exact hp e' he'

end Spec

namespace Draft

variable {o : Options} {d d' : Draft}

theorem Effect.allInRange {op : Op} (h : d.Effect op d') (hd : d.Sound)
    (hop : Element.Built op.elements) (hs : d.spec.AllInRange) : d'.spec.AllInRange := by
  cases h with
  | shifts h =>
    have he := h.edits
    generalize d'.spec = s at he
    induction he with
    | refl => exact hs
    | tail _ he ih => exact he.allInRange ih
  | production hp he => exact Spec.allInRange_addProduction hs (he ▸ hop.pos_lt)
  | nonterminal hn =>
    exact Spec.preserves_addNonterminal hd.closed hn Spec.Bind.allInRange id hs

theorem Composed.inRange (h : Composed o d) : Reachable o d ∧ d.spec.AllInRange := by
  induction h with
  | start => exact ⟨.start, Arena.Forall.empty⟩
  | @step d op _ hh hop ih =>
    obtain ⟨hd, hs⟩ := ih
    have hadmits : d.Admits op := ⟨hh, fun p _ => hs.get p⟩
    exact ⟨.step hd hadmits, (hd.sound.effect hadmits).allInRange hd.sound hop hs⟩

theorem Composed.reachable (h : Composed o d) : Reachable o d := h.inRange.1

/-- If only built lists of elements are written, all operations are admitted
    whose handles lie inside their tables. -/
theorem Composed.admits (h : Composed o d) {op : Op} (hop : d.spec.Covers op) : d.Admits op :=
  ⟨hop, fun p _ => h.inRange.2.get p⟩

/-! ## Handles -/

theorem Sound.covers (hd : d.Sound) : d.spec.Covers d := by
  have hframe := Spec.covers_handle.2 hd.frame
  have hscope := Spec.covers_handle.2 hd.scope
  have h := List.forall_mem_append.2 ⟨hd.closed, hd.openNamespaces⟩
  have h := List.forall_mem_append.2 ⟨h, hd.openScanners⟩
  have h := List.forall_mem_append.2 ⟨h, hd.openContexts⟩
  exact List.forall_mem_append.2 ⟨List.forall_mem_append.2 ⟨h, hframe⟩, hscope⟩

/-- After an admitted operation, as before it, no handle in the draft leads
    nowhere: each is smaller than the length of its table. Operations are
    admitted at once if all lists of elements are built. -/
theorem handle_lt_size (o : Options) :
    (∀ d op, Reachable o d → d.Admits op →
      ∀ h ∈ handles (op.apply d), h.index < (op.apply d).spec.size h.table) ∧
    ∀ d op, Composed o d → d.spec.Covers op → Reachable o d ∧ d.Admits op := by
  constructor
  · intro d op hd hop
    exact (Reachable.step hd hop).sound.covers
  · intro d op hd hop
    exact ⟨hd.reachable, hd.admits hop⟩

theorem handle_lt_size_sums :
    let d := (start {}).run Op.sums
    let op : Op := .declareNonterminal { text := "more" } ⟨3⟩ [⟨1⟩] false
    Reachable {} d ∧ d.Admits op ∧
      ∀ h ∈ handles (op.apply d), h.index < (op.apply d).spec.size h.table := by
  have hop : ((start {}).run Op.sums).Admits
      (.declareNonterminal { text := "more" } ⟨3⟩ [⟨1⟩] false) := by decide +kernel
  exact ⟨reachable_sums, hop, (handle_lt_size {}).1 _ _ reachable_sums hop⟩

end Draft

end LangSpec
