import LangSpec.Proofs.Walk
import Mathlib.Logic.Relation

/-!
# Edits

All operations of a draft change its specification by a few small *edits*, each
of which adds one thing or changes one entry in place. An edit comes with what
the operations check before it: that handles lie inside their tables, and that a
name is still free. So a property of specifications that no edit breaks holds
wherever the operations lead.

* `Edit`: the edits;
* `Step`: an edit, a new production or a new nonterminal;
* `Bind`: what a new nonterminal does to its alternatives and to the fields they
  capture, one change at a time (`binds_bindAlternatives`);
* `Step.preserves`: how a property is shown to be kept by every step.
-/

namespace LangSpec

/-- What a declaration notes on a field. -/
inductive Annotation
  /-- It is a parameter. -/
  | param
  /-- It has this type. -/
  | typed (type : TypeRef)
  /-- It belongs to this context. -/
  | within (context : ContextId)
  /-- It is exported. -/
  | exported

namespace Annotation

/-- The field with the note. -/
def apply (x : Field) : Annotation → Field
  | param => { x with isParam := true }
  | typed type => { x with type := some type }
  | within context => { x with context := some context }
  | exported => { x with isExported := true }

instance : Holds Annotation :=
  ⟨fun
    | param | exported => []
    | typed type => handles type
    | within context => handles context⟩

end Annotation

/-- What a new token refers to lies inside the tables. -/
structure Token.FitsIn (s : Spec) (t : Token) : Prop where
  regex : s.Covers t.regex
  action : s.Covers t.action
  home : t.home ∈ s.namespaces
  scanner : t.scanner ∈ s.scanners
  object : s.Covers t.object
  context : s.Covers t.context

/-- What a new production refers to lies inside the tables. -/
structure Production.FitsIn (s : Spec) (p : Production) : Prop where
  elements : s.Covers p.elements
  action : s.Covers p.action
  predicateOf : s.Covers p.predicateOf

/-- What a new nonterminal refers to lies inside the tables, and the elements of
    its alternatives have positions in range. -/
structure Nonterminal.FitsIn (s : Spec) (n : Nonterminal) : Prop where
  home : n.home ∈ s.namespaces
  context : s.Covers n.context
  object : n.object ∈ s.objects
  alternatives : ∀ p ∈ n.alternatives, p ∈ s.productions
  inRange : ∀ p ∈ n.alternatives, (s.productions.get p).InRange

/-- What a new routine refers to lies inside the tables. -/
structure Routine.FitsIn (s : Spec) (r : Routine) : Prop where
  result : s.Covers r.result
  params : s.Covers r.params
  code : s.Covers r.code
  context : s.Covers r.context

namespace Spec

/-- The small changes of a specification. -/
inductive Edit (s : Spec) : Spec → Prop
  | addNamespace (loc : Location) {name : String} {parent : NamespaceId}
      (hp : parent ∈ s.namespaces) (hn : s.child? parent name = none) :
      Edit s (s.addNamespace loc name parent)
  | addObject (kind : ObjectKind) (name : String) : Edit s (s.addObject kind name)
  | addScope {parent : ScopeId} (hp : parent ∈ s.scopes) : Edit s (s.addScope parent)
  | addField (name : String) (loc : Location) (kind : FieldKind) {type : Option TypeRef}
      (ht : s.Covers type) : Edit s (s.addField name loc kind type)
  | annotate {f : FieldId} (a : Annotation) (hf : f ∈ s.fields) (ha : s.Covers a) :
      Edit s (s.modifyField f fun x => a.apply x)
  | bindField {scope : ScopeId} {f : FieldId} (hc : scope ∈ s.scopes) (hf : f ∈ s.fields)
      (hn : (s.scopes.get scope).member? (s.fields.get f).name = none) :
      Edit s (s.bindField scope f)
  | addScanner (loc : Location) : Edit s (s.addScanner loc)
  /-- A token that occurs. -/
  | addToken {t : Token} (ht : t.FitsIn s) (hz : t.sentinel = false) (hl : t.literal = none) :
      Edit s ((s.addToken t).addOccurrences s.tokens.next)
  /-- The token of a literal, which occurs, and the entry of the literal. -/
  | addLiteral {t : Token} {l : Literal} (ht : t.FitsIn s) (hz : t.sentinel = false)
      (hl : t.literal = some l.raw)
      (hn : (s.namespaces.get t.home).literal? l.meaning.text = none) :
      Edit s (((s.addToken t).addOccurrences s.tokens.next).addLiteral t.home l.meaning.text
        s.occurrences.next)
  /-- A token that does not occur. -/
  | addSentinel {t : Token} (ht : t.FitsIn s) (hz : t.sentinel = true) (hi : t.ignored = false)
      (hl : t.literal = none) : Edit s (s.addToken t)
  | addRegex {r : Regex} (hr : s.Covers r) : Edit s (s.addRegex r)
  | addMark : Edit s s.addMark
  | addRegular {home : NamespaceId} {name : String} (loc : Location) {regex : RegexId}
      (isSealed : Bool) (hh : home ∈ s.namespaces) (hr : regex ∈ s.regexes)
      (hn : (s.namespaces.get home).regular? name = none) :
      Edit s (s.addRegular home name loc regex isSealed)
  | setAtEnd {region : RegionId} {code : Code} (hr : region ∈ s.regions) (hc : s.Covers code) :
      Edit s (s.setAtEnd region code)
  | renumber {p : ProductionId} (n : Nat) (hp : p ∈ s.productions) :
      Edit s (s.modifyProduction p fun x => { x with number := n })
  | addPattern (loc : Location) {home : NamespaceId} {items : List PatternItem}
      (hh : home ∈ s.namespaces) (hi : s.Covers items) : Edit s (s.addPattern loc home items)
  | addConstructor (loc : Location) {home : NamespaceId} {items : List SupplyItem}
      (hh : home ∈ s.namespaces) (hi : s.Covers items) : Edit s (s.addConstructor loc home items)
  | addFeed (loc : Location) {home : NamespaceId} {items : List SupplyItem}
      (hh : home ∈ s.namespaces) (hi : s.Covers items) : Edit s (s.addFeed loc home items)
  | addRoutine {r : Routine} (hr : r.FitsIn s) : Edit s (s.addRoutine r)
  /-- A context with the name of its namespace. -/
  | addContext (name : String) (loc : Location) (object : ObjectId) {home : NamespaceId}
      (hh : home ∈ s.namespaces) (ho : object ∈ s.objects)
      (hn : (s.namespaces.get home).name = name) : Edit s (s.addContext name loc home object)
  | addAlias (name : String) (loc : Location) {home : NamespaceId} {type : TypeRef}
      (hh : home ∈ s.namespaces) (ht : s.Covers type) : Edit s (s.addAlias name loc home type)
  | rank {ps : List Precedence} (hp : s.Covers ps) :
      Edit s { s with precedences := s.precedences ++ ps }

/-- An edit, a new production or a new nonterminal. -/
inductive Step (s : Spec) : Spec → Prop
  | edit {s' : Spec} (h : s.Edit s') : Step s s'
  | production {p : Production} (hp : p.FitsIn s) : Step s (s.addProduction p)
  | nonterminal {n : Nonterminal} (hn : n.FitsIn s) : Step s (s.addNonterminal n)

/-! ## New nonterminals -/

/-- The changes a new nonterminal, found under `n`, makes to productions, fields
    and scopes. -/
inductive Bind (n : NonterminalId) (s : Spec) : Spec → Prop
  | own (p : ProductionId) : Bind n s (s.modifyProduction p fun x => { x with owner := some n })
  | setCapture (r : ElementRef) (f : FieldId) : Bind n s (s.setCapture r f)
  | addSource (r : ElementRef) (f : FieldId) : Bind n s (s.addSource r f)
  | typed (f : FieldId) (type : TypeRef) :
      Bind n s (s.modifyField f fun x => { x with type := some type })
  | bindField {scope : ScopeId} {f : FieldId} (hf : f ∈ s.fields)
      (hn : (s.scopes.get scope).member? (s.fields.get f).name = none) :
      Bind n s (s.bindField scope f)

/-- Any number of such changes. -/
abbrev Binds (n : NonterminalId) : Spec → Spec → Prop := Relation.ReflTransGen (Bind n)

/-- The captured elements of the list bound to fields in `scope`, one after
    another. -/
def bindEach (s : Spec) (scope : ScopeId) (cs : List (ElementRef × FieldId)) : Spec :=
  cs.foldl (fun s c => s.bindCapture scope c.1 c.2) s

/-- The alternatives of the nonterminal `n` linked to it, and what they capture
    bound to fields of its object. -/
def bindAlternatives (s : Spec) (n : Nonterminal) : Spec :=
  let linked := s.linkAlternatives n.alternatives s.nonterminals.next
  linked.bindCaptures (linked.objects.get n.object).rootScope n.alternatives

/-- The nonterminal `n` entered at the end of its table and in its namespace. -/
def enlist (s : Spec) (n : Nonterminal) : Spec :=
  { s with
    nonterminals := s.nonterminals.push { n with id := s.nonterminals.next }
    namespaces := s.namespaces.modify n.home
      fun m => { m with nonterminals := m.nonterminals ++ [s.nonterminals.next] } }

variable {s s' : Spec}

/-- What no change alters, no number of them does. -/
theorem Binds.eq {n : NonterminalId} {β : Type} {q : Spec → β} (h : Binds n s s')
    (hq : ∀ {s s'}, Bind n s s' → q s' = q s) : q s' = q s := by
  induction h with
  | refl => rfl
  | tail _ hb ih => rw [hq hb, ih]

theorem Bind.nonterminals {n : NonterminalId} (h : Bind n s s') :
    s'.nonterminals = s.nonterminals := by
  cases h <;> rfl

theorem Bind.objects {n : NonterminalId} (h : Bind n s s') : s'.objects = s.objects := by
  cases h <;> rfl

theorem Bind.regexes {n : NonterminalId} (h : Bind n s s') : s'.regexes = s.regexes := by
  cases h <;> rfl

theorem Bind.size {n : NonterminalId} (h : Bind n s s') : s'.size = s.size := by
  funext t
  cases h with
  | own | setCapture => cases t <;> simp [Spec.size, modifyProduction, Spec.setCapture]
  | addSource | typed => cases t <;> simp [Spec.size, modifyField, Spec.addSource]
  | bindField => cases t <;> simp [Spec.size, Spec.bindField]

/-- The elements of productions keep their positions. -/
theorem Bind.positions {n : NonterminalId} (h : Bind n s s') (p : ProductionId) :
    (s'.productions.get p).elements.map (·.pos) = (s.productions.get p).elements.map (·.pos) := by
  have key {q : ProductionId} {change : Production → Production}
      (hc : ∀ x, (change x).elements.map (·.pos) = x.elements.map (·.pos)) :=
    Arena.apply_get_modify (a := s.productions) (h := q)
      (g := fun x : Production => x.elements.map (·.pos)) hc p
  cases h with
  | own => exact key fun _ => rfl
  | setCapture => exact key fun _ => map_modify_of_eq fun _ => rfl
  | addSource | typed | bindField => rfl

theorem Binds.length_elements {n : NonterminalId} (h : Binds n s s') (p : ProductionId) :
    (s'.productions.get p).elements.length = (s.productions.get p).elements.length := by
  have h := congrArg List.length (Binds.eq h fun hb => hb.positions p)
  rwa [List.length_map, List.length_map] at h

theorem Binds.mem {n : NonterminalId} (h : Binds n s s') {x : AnyHandle} : x ∈ s' ↔ x ∈ s := by
  rw [mem_iff, mem_iff, Binds.eq h Bind.size]

theorem Binds.mem_fields {n : NonterminalId} (h : Binds n s s') {f : FieldId} :
    f ∈ s'.fields ↔ f ∈ s.fields := Binds.mem h (x := ⟨.fields, f.index⟩)

theorem Binds.mem_scopes {n : NonterminalId} (h : Binds n s s') {c : ScopeId} :
    c ∈ s'.scopes ↔ c ∈ s.scopes := Binds.mem h (x := ⟨.scopes, c.index⟩)

theorem Binds.mem_productions {n : NonterminalId} (h : Binds n s s') {p : ProductionId} :
    p ∈ s'.productions ↔ p ∈ s.productions := Binds.mem h (x := ⟨.productions, p.index⟩)

theorem binds_linkAlternatives (n : NonterminalId) (ps : List ProductionId) :
    Binds n s (s.linkAlternatives ps n) := by
  induction ps generalizing s with
  | nil => exact .refl
  | cons p ps ih => exact .head (.own p) ih

theorem binds_bindCapture (n : NonterminalId) (scope : ScopeId) (r : ElementRef) {f : FieldId}
    (hf : f ∈ s.fields) : Binds n s (s.bindCapture scope r f) := by
  rw [bindCapture]
  split
  · exact .tail (.single (.setCapture r _)) (.addSource r _)
  next hn =>
    -- The type is noted first, which changes neither the name nor the scopes.
    let typed := s.modifyField f fun x => { x with type := some (s.elementAt r).type }
    have hname : (typed.fields.get f).name = (s.fields.get f).name :=
      Arena.apply_get_modify (g := Field.name) (by intro; rfl) f
    have hbind : Bind n typed (typed.bindField scope f) :=
      .bindField (Arena.mem_modify.2 hf) (hname ▸ hn)
    exact .tail (.tail (.tail (.single (.typed f _)) hbind) (.setCapture r f)) (.addSource r f)

theorem binds_bindEach (n : NonterminalId) (scope : ScopeId)
    {cs : List (ElementRef × FieldId)} (hcs : ∀ c ∈ cs, c.2 ∈ s.fields) :
    Binds n s (s.bindEach scope cs) := by
  induction cs generalizing s with
  | nil => exact .refl
  | cons c cs ih =>
    have hc : Binds n s (s.bindCapture scope c.1 c.2) :=
      binds_bindCapture n scope c.1 (hcs c List.mem_cons_self)
    refine hc.trans (ih fun c' hc' => ?_)
    exact (Binds.mem_fields hc).2 (hcs c' (List.mem_cons_of_mem _ hc'))

theorem capturesOf_linkAlternatives (ps : List ProductionId) (n : NonterminalId)
    (p : ProductionId) : (s.linkAlternatives ps n).capturesOf p = s.capturesOf p := by
  induction ps generalizing s with
  | nil => rfl
  | cons q ps ih =>
    let owned := s.modifyProduction q fun x => { x with owner := some n }
    have hq : (owned.productions.get p).elements = (s.productions.get p).elements :=
      Arena.apply_get_modify (g := Production.elements) (by intro; rfl) p
    refine (ih (s := owned)).trans ?_
    rw [capturesOf, hq, capturesOf]

/-- What a captured element is captured in is a field. -/
theorem Closed.mem_fields_of_capturesOf (hs : s.Closed) {p : ProductionId} (hp : p ∈ s.productions)
    {c : ElementRef × FieldId} (hc : c ∈ s.capturesOf p) : c.2 ∈ s.fields := by
  obtain ⟨e, he, hc⟩ := List.mem_filterMap.1 hc
  obtain ⟨f, hf, rfl⟩ := Option.map_eq_some_iff.1 hc
  have hp : s.Covers (s.productions.get p) :=
    allHandles_arena.1 hs.all.productions p _ (Arena.get?_eq_some_get hp)
  have he : s.Covers e := allHandles_list.1 (allHandles_production.1 hp).2.1 e he
  exact allHandles_handle.1 (allHandles_option.1 (allHandles_element.1 he).2.1 f hf)

/-- Linking the alternatives changes neither what they capture nor the objects. -/
theorem bindAlternatives_eq (n : Nonterminal) :
    s.bindAlternatives n =
      (s.linkAlternatives n.alternatives s.nonterminals.next).bindEach
        (s.objects.get n.object).rootScope (n.alternatives.flatMap s.capturesOf) := by
  have hlink := binds_linkAlternatives (s := s) s.nonterminals.next n.alternatives
  rw [bindAlternatives, bindCaptures, Binds.eq hlink Bind.objects,
    funext (capturesOf_linkAlternatives n.alternatives s.nonterminals.next), bindEach]

theorem binds_bindAlternatives (hs : s.Closed) {n : Nonterminal} (hn : n.FitsIn s) :
    Binds s.nonterminals.next s (s.bindAlternatives n) := by
  have hlink := binds_linkAlternatives (s := s) s.nonterminals.next n.alternatives
  rw [bindAlternatives_eq]
  refine hlink.trans (binds_bindEach _ _ fun c hc => ?_)
  obtain ⟨p, hp, hc⟩ := List.mem_flatMap.1 hc
  have hc : c.2 ∈ s.fields := hs.mem_fields_of_capturesOf (hn.alternatives p hp) hc
  exact (Binds.mem_fields hlink).2 hc

/-- A new nonterminal is entered after a number of changes to productions,
    fields and scopes. -/
theorem addNonterminal_eq (hs : s.Closed) {n : Nonterminal} (hn : n.FitsIn s) :
    s.addNonterminal n = (s.bindAlternatives n).enlist n := by
  have hnt := Binds.eq (binds_bindAlternatives hs hn) Bind.nonterminals
  rw [enlist, congrArg Arena.next hnt]
  rfl

/-- A property kept by what new nonterminals bind and by their entries is kept by
    a new nonterminal. -/
theorem preserves_addNonterminal {Q : Spec → Prop} (hs : s.Closed) {n : Nonterminal}
    (hn : n.FitsIn s) (bind : ∀ {n s s'}, Bind n s s' → Q s → Q s')
    (enlist : ∀ {s n}, Q s → Q (s.enlist n)) (hQ : Q s) : Q (s.addNonterminal n) := by
  rw [addNonterminal_eq hs hn]
  refine enlist ?_
  have hb := binds_bindAlternatives hs hn
  generalize s.bindAlternatives n = s₁ at hb
  induction hb with
  | refl => exact hQ
  | tail _ hb ih => exact bind hb ih

/-- A property kept by edits, by new productions, by what new nonterminals bind
    and by their entries, is kept by every step. -/
theorem Step.preserves {Q : Spec → Prop} (h : s.Step s') (hs : s.Closed)
    (edit : ∀ {s s'}, Edit s s' → Q s → Q s')
    (production : ∀ {s p}, Q s → Q (s.addProduction p))
    (bind : ∀ {n s s'}, Bind n s s' → Q s → Q s')
    (enlist : ∀ {s n}, Q s → Q (s.enlist n)) (hQ : Q s) : Q s' := by
  cases h with
  | edit h => exact edit h hQ
  | production _ => exact production hQ
  | nonterminal hn => exact preserves_addNonterminal hs hn bind enlist hQ

end Spec

end LangSpec
