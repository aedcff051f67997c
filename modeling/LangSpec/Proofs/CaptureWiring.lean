import LangSpec.Proofs.Numbering

/-!
# How captured elements are wired

A new nonterminal goes through all captured elements of its alternatives and
binds each to a field of its object. The scope it looks names up in is the one it
puts new fields into, and the elements it takes captures from are the ones it
writes them to. In the end all depends on the scope as it was before: a name it
knew keeps its field, and a name it did not know gets the field of the first
element captured under it, with the type of this element. Every field has all
elements of its name as sources, in order, and every element is captured in the
field of its name.

* `Spec.firsts`: the first captured elements of the names that are new;
* `member?_bindEach`, `scopes_bindEach`, `fields_bindEach`,
  `productions_bindEach`: what becomes of the tables, each by induction over the
  elements;
* `captures_wired`: the law for new nonterminals.
-/

namespace LangSpec

/-- The scope with new fields after its own, under the names that come with
    them. -/
def Scope.extend (x : Scope) (entries : List (String × FieldId)) : Scope :=
  { x with
    fields := x.fields ++ entries.map (·.2)
    members := ⟨x.members.entries ++ entries⟩ }

namespace Scope

variable {x : Scope}

theorem extend_nil : x.extend [] = x := by
  rw [extend, List.map_nil, List.append_nil, List.append_nil]

theorem extend_extend (es es' : List (String × FieldId)) :
    (x.extend es).extend es' = x.extend (es ++ es') := by
  simp only [extend, List.map_append, List.append_assoc]

theorem insert_eq_extend {k : String} {f : FieldId} (hk : x.member? k = none) :
    x.insert k f = x.extend [(k, f)] := by
  have hmembers : x.members.insert k f = ⟨x.members.entries ++ [(k, f)]⟩ := by
    rw [← Dict.entries_insert_of_find?_eq_none hk f]
  rw [insert, extend, hk, Option.isNone_none, if_pos rfl, hmembers]
  rfl

end Scope

/-- The field with further sources, and with another type if one is given. -/
def Field.withSources (x : Field) (type : Option TypeRef) (sources : List ElementRef) : Field :=
  { x with
    type := type.or x.type
    isCaptured := x.isCaptured || !sources.isEmpty
    sources := x.sources ++ sources }

namespace Field

variable (x : Field)

theorem withSources_none_nil : x.withSources none [] = x := by
  rw [withSources, Option.none_or, List.isEmpty_nil, Bool.not_true, Bool.or_false, List.append_nil]

theorem withSources_withSources (type type' : Option TypeRef) (rs rs' : List ElementRef) :
    (x.withSources type rs).withSources type' rs' = x.withSources (type'.or type) (rs ++ rs') := by
  have hempty : (rs ++ rs').isEmpty = (rs.isEmpty && rs'.isEmpty) := by cases rs <;> rfl
  simp only [withSources, Option.or_assoc, List.append_assoc, Bool.or_assoc, hempty, Bool.not_and]

end Field

/-- The element captured in the field that the one it was captured in leads to. -/
def Element.recapture (e : Element) (lead : FieldId → Option FieldId) : Element :=
  { e with capture := e.capture.bind lead }

/-- What is not captured stays so. -/
theorem Element.recapture_of_none {e : Element} (h : e.capture = none)
    (lead : FieldId → Option FieldId) : e.recapture lead = e := by
  rw [recapture, h, Option.bind_none, ← h]

/-- The production with its elements changed, each by its place. -/
def Production.mapElements (x : Production) (change : Nat → Element → Element) : Production :=
  { x with elements := x.elements.mapIdx change }

namespace Production

variable (x : Production)

instance : Decidable x.InOrder := inferInstanceAs (Decidable (_ = _))

theorem mapElements_mapElements (change change' : Nat → Element → Element) :
    (x.mapElements change).mapElements change' =
      x.mapElements fun i e => change' i (change i e) := by
  rw [mapElements, mapElements, mapElements, List.mapIdx_mapIdx]
  rfl

/-- A change that does not depend on the place. -/
theorem mapElements_eq_map {change : Nat → Element → Element} {f : Element → Element}
    (h : ∀ i e, x.elements[i]? = some e → change i e = f e) :
    x.mapElements change = { x with elements := x.elements.map f } := by
  rw [mapElements]
  congr 1
  refine List.mapIdx_eq_iff.2 fun i => ?_
  rw [List.getElem?_map]
  exact Option.map_congr fun e he => (h i e he).symm

theorem mapElements_eq_self {change : Nat → Element → Element}
    (h : ∀ i e, x.elements[i]? = some e → change i e = e) : x.mapElements change = x := by
  have hmap := x.mapElements_eq_map (f := fun e => e) h
  rwa [List.map_id'] at hmap

end Production

namespace Spec

/-- The name a captured element is captured under. -/
def nameOf (s : Spec) (c : ElementRef × FieldId) : String := (s.fields.get c.2).name

/-- The scope does not know the name of the captured element. -/
def isNew (s : Spec) (scope : ScopeId) (c : ElementRef × FieldId) : Bool :=
  ((s.scopes.get scope).member? (s.nameOf c)).isNone

/-- The field a captured element is bound to: the one the scope has under the name,
    if it has one. -/
def target (s : Spec) (scope : ScopeId) (c : ElementRef × FieldId) : FieldId :=
  ((s.scopes.get scope).member? (s.nameOf c)).getD c.2

/-- Of the captured elements with names that the scope does not know, the first
    one of each name. -/
def firsts (s : Spec) (scope : ScopeId) (cs : List (ElementRef × FieldId)) :
    List (ElementRef × FieldId) :=
  (cs.filter (s.isNew scope)).eraseDupsBy fun c c' => s.nameOf c == s.nameOf c'

variable {s : Spec} {scope : ScopeId} {r : ElementRef} {f g : FieldId}
  {c : ElementRef × FieldId} {cs : List (ElementRef × FieldId)} {k : String}

/-! ## One element -/

theorem name_addSource (g : FieldId) :
    ((s.addSource r f).fields.get g).name = (s.fields.get g).name :=
  Arena.apply_get_modify (g := Field.name) (by intro; rfl) g

theorem name_typed {type : TypeRef} (g : FieldId) :
    ((s.modifyField f fun x => { x with type := some type }).fields.get g).name =
      (s.fields.get g).name :=
  Arena.apply_get_modify (g := Field.name) (by intro; rfl) g

theorem name_bindCapture (g : FieldId) :
    ((s.bindCapture scope r f).fields.get g).name = (s.fields.get g).name := by
  rw [bindCapture]
  split
  next => exact name_addSource g
  next => exact (name_addSource g).trans (name_typed g)

theorem nameOf_bindCapture (c : ElementRef × FieldId) :
    (s.bindCapture scope r f).nameOf c = s.nameOf c := name_bindCapture c.2

theorem member?_bindCapture (hscope : scope ∈ s.scopes) (k : String) :
    ((s.bindCapture scope c.1 c.2).scopes.get scope).member? k =
      ((s.scopes.get scope).member? k).or (if s.nameOf c = k then some c.2 else none) := by
  rw [nameOf, bindCapture]
  split
  next g hg =>
    by_cases e : (s.fields.get c.2).name = k
    · rw [← e, hg]
      exact hg
    · rw [if_neg e, Option.or_none]
      rfl
  next hn =>
    let typed := s.modifyField c.2 fun x => { x with type := some (s.elementAt c.1).type }
    refine (member?_bindField (s := typed) hscope scope k).trans ?_
    rw [name_typed]
    by_cases e : (s.fields.get c.2).name = k
    · rw [if_pos ⟨rfl, e⟩, if_pos e, ← e, hn, Option.none_or]
    · rw [if_neg fun h => e h.2, if_neg e, Option.or_none]
      rfl

/-- A name is new that was new before, and is not the one of the element. -/
theorem isNew_bindCapture (hscope : scope ∈ s.scopes) (c' : ElementRef × FieldId) :
    (s.bindCapture scope c.1 c.2).isNew scope c' =
      (s.isNew scope c' && !(s.nameOf c == s.nameOf c')) := by
  rw [isNew, nameOf_bindCapture, member?_bindCapture hscope, Option.isNone_or, isNew]
  congr 1
  by_cases e : s.nameOf c = s.nameOf c'
  · rw [if_pos e, beq_iff_eq.2 e]
    rfl
  · rw [if_neg e, beq_eq_false_iff_ne.2 e]
    rfl

theorem firsts_nil : s.firsts scope [] = [] := rfl

/-- An element with a new name comes first, and no others of its name do. -/
theorem firsts_cons (hscope : scope ∈ s.scopes) :
    s.firsts scope (c :: cs) =
      if s.isNew scope c then c :: (s.bindCapture scope c.1 c.2).firsts scope cs
      else (s.bindCapture scope c.1 c.2).firsts scope cs := by
  simp only [firsts, nameOf_bindCapture, List.filter_cons]
  split
  next =>
    rw [List.eraseDupsBy_cons, List.filter_filter]
    congr 2
    refine List.filter_congr fun c' _ => ?_
    rw [isNew_bindCapture hscope, Bool.decide_eq_false, Bool.and_comm, Bool.beq_comm]
  next hknown =>
    congr 1
    refine List.filter_congr fun c' _ => ?_
    rw [isNew_bindCapture hscope]
    -- A new name is not that of the element, which is known.
    cases hn : s.isNew scope c' with
    | false => rfl
    | true =>
      have hne : s.nameOf c ≠ s.nameOf c' := by
        intro e
        rw [isNew, ← e] at hn
        exact hknown hn
      rw [beq_eq_false_iff_ne.2 hne]
      rfl

/-! ## Many elements -/

theorem bindEach_cons :
    s.bindEach scope (c :: cs) = (s.bindCapture scope c.1 c.2).bindEach scope cs := rfl

/-- A name the scope did not know leads to the field of the first element captured
    under it. -/
theorem member?_bindEach (h : s.Bindable scope cs) (k : String) :
    ((s.bindEach scope cs).scopes.get scope).member? k =
      ((s.scopes.get scope).member? k).or
        ((cs.find? fun c => s.nameOf c == k).map (·.2)) := by
  induction cs generalizing s with
  | nil => exact Option.or_none.symm
  | cons c cs ih =>
    refine (ih h.tail).trans ?_
    simp only [nameOf_bindCapture, member?_bindCapture h.scope, Option.or_assoc, List.find?_cons]
    congr 1
    by_cases e : s.nameOf c = k
    · rw [if_pos e, beq_iff_eq.2 e]
      rfl
    · rw [if_neg e, beq_eq_false_iff_ne.2 e, Option.none_or]

/-- What the binding of one element makes of the scopes. -/
theorem scopes_bindCapture (c' : ScopeId) :
    (s.bindCapture scope c.1 c.2).scopes.get? c' = (s.scopes.get? c').map fun x =>
      if c' = scope ∧ s.isNew scope c then x.extend [(s.nameOf c, c.2)] else x := by
  rw [isNew, nameOf, bindCapture]
  split
  next g hg =>
    simp only [hg, Option.isNone_some, Bool.false_eq_true, and_false, if_false, Option.map_id']
    rfl
  next hn =>
    refine (Arena.get?_modify s.scopes scope c' _).trans ?_
    simp only [name_typed, hn, Option.isNone_none, and_true]
    by_cases e : c' = scope
    · rw [if_pos e.symm]
      refine Option.map_congr fun x hx => ?_
      rw [if_pos e]
      rw [← e, Arena.get_eq hx] at hn
      exact Scope.insert_eq_extend hn
    · simp only [if_neg e, if_neg (Ne.symm e), Option.map_id']

/-- The scope is extended by the fields of the first elements of new names. -/
theorem scopes_bindEach (h : s.Bindable scope cs) (c' : ScopeId) :
    (s.bindEach scope cs).scopes.get? c' = (s.scopes.get? c').map fun x =>
      if c' = scope then x.extend ((s.firsts scope cs).map fun c => (s.nameOf c, c.2)) else x := by
  induction cs generalizing s with
  | nil =>
    simp only [firsts_nil, List.map_nil, Scope.extend_nil, ite_self, Option.map_id']
    rfl
  | cons c cs ih =>
    refine (ih h.tail).trans ?_
    rw [scopes_bindCapture, Option.map_map, firsts_cons h.scope]
    simp only [nameOf_bindCapture]
    refine Option.map_congr fun x _ => ?_
    by_cases e : c' = scope
    · by_cases hn : s.isNew scope c = true
      · simp only [Function.comp, if_pos e, if_pos hn, if_pos (And.intro e hn),
          Scope.extend_extend, List.map_cons, List.singleton_append]
      · simp only [Function.comp, if_pos e, if_neg hn, if_neg fun h : _ ∧ _ => hn h.2]
    · simp only [Function.comp, if_neg e, if_neg fun h : _ ∧ _ => e h.1]

/-! ## Fields -/

/-- The type of an element does not depend on what it is captured in. -/
theorem type_elementAt_setCapture (r' : ElementRef) :
    ((s.setCapture r f).elementAt r').type = (s.elementAt r').type := by
  have htypes : ((s.setCapture r f).productions.get r'.production).elements.map (·.type) =
      (s.productions.get r'.production).elements.map (·.type) := by
    refine Arena.apply_get_modify (g := fun x : Production => x.elements.map (·.type)) ?_ _
    exact fun x => map_modify_of_eq fun _ => rfl
  have hat := congrArg (·[r'.pos]?.getD (default : Element).type) htypes
  simp only [List.getElem?_map, Option.getD_map] at hat
  exact hat

theorem productions_bindCapture :
    (s.bindCapture scope c.1 c.2).productions =
      (s.setCapture c.1 (s.target scope c)).productions := by
  rw [target, nameOf, bindCapture]
  split
  next g hg => rw [hg]; rfl
  next hn => rw [hn]; rfl

theorem type_elementAt_bindCapture (r' : ElementRef) :
    ((s.bindCapture scope c.1 c.2).elementAt r').type = (s.elementAt r').type := by
  rw [elementAt, productions_bindCapture]
  exact type_elementAt_setCapture r'

theorem fields_addSource (g : FieldId) :
    (s.addSource r f).fields.get? g =
      (s.fields.get? g).map (·.withSources none (if f = g then [r] else [])) := by
  refine (Arena.get?_modify s.fields f g _).trans ?_
  by_cases e : f = g
  · simp only [if_pos e, Field.withSources, Option.none_or, List.isEmpty_cons, Bool.not_false,
      Bool.or_true]
  · simp only [if_neg e, Field.withSources_none_nil, Option.map_id']

theorem fields_typed {type : TypeRef} (g : FieldId) :
    (s.modifyField f fun x => { x with type := some type }).fields.get? g =
      (s.fields.get? g).map (·.withSources (if f = g then some type else none) []) := by
  refine (Arena.get?_modify s.fields f g _).trans ?_
  by_cases e : f = g
  · simp only [if_pos e, Field.withSources, Option.some_or, List.isEmpty_nil, Bool.not_true,
      Bool.or_false, List.append_nil]
  · simp only [if_neg e, Field.withSources_none_nil, Option.map_id']

/-- What the binding of one element makes of the fields. -/
theorem fields_bindCapture (g : FieldId) :
    (s.bindCapture scope c.1 c.2).fields.get? g = (s.fields.get? g).map fun x =>
      x.withSources (if s.isNew scope c ∧ c.2 = g then some (s.elementAt c.1).type else none)
        (if s.target scope c = g then [c.1] else []) := by
  rw [isNew, target, nameOf, bindCapture]
  split
  next h hh =>
    simp only [hh, Option.isNone_some, Bool.false_eq_true, false_and, if_false, Option.getD_some]
    exact fields_addSource g
  next hn =>
    simp only [hn, Option.isNone_none, true_and, Option.getD_none]
    refine (fields_addSource g).trans ((congrArg _ (fields_typed g)).trans ?_)
    rw [Option.map_map]
    refine Option.map_congr fun x _ => ?_
    rw [Function.comp, Field.withSources_withSources, Option.none_or, List.nil_append]

/-- A first element of a new name is the one at the head, or it is also one once
    that is bound. -/
theorem mem_firsts_cons {c' : ElementRef × FieldId} (hscope : scope ∈ s.scopes)
    (hc : c' ∈ s.firsts scope (c :: cs)) :
    (c' = c ∧ s.isNew scope c = true) ∨ c' ∈ (s.bindCapture scope c.1 c.2).firsts scope cs := by
  rw [firsts_cons hscope] at hc
  split at hc
  next hn => exact (List.mem_cons.1 hc).imp_left fun e => ⟨e, hn⟩
  next => exact .inr hc

/-- The first elements of new names are new. -/
theorem isNew_of_mem_firsts (h : s.Bindable scope cs) (hc : c ∈ s.firsts scope cs) :
    s.isNew scope c = true := by
  induction cs generalizing s with
  | nil => exact absurd hc List.not_mem_nil
  | cons c' cs ih =>
    rcases mem_firsts_cons h.scope hc with ⟨rfl, hn⟩ | hc
    · exact hn
    · have hnew := ih h.tail hc
      rw [isNew_bindCapture h.scope] at hnew
      exact (Bool.and_eq_true_iff.1 hnew).1

theorem member?_bindEach_head (h : s.Bindable scope (c :: cs)) :
    ((s.bindEach scope (c :: cs)).scopes.get scope).member? (s.nameOf c) =
      some (s.target scope c) := by
  rw [member?_bindEach h, List.find?_cons, beq_self_eq_true, target]
  cases (s.scopes.get scope).member? (s.nameOf c) <;> rfl

/-- A new name leads to the field of the first element captured under it. -/
theorem member?_of_mem_firsts (h : s.Bindable scope cs) (hc : c ∈ s.firsts scope cs) :
    ((s.bindEach scope cs).scopes.get scope).member? (s.nameOf c) = some c.2 := by
  induction cs generalizing s with
  | nil => exact absurd hc List.not_mem_nil
  | cons c' cs ih =>
    rcases mem_firsts_cons h.scope hc with ⟨rfl, hn⟩ | hc
    · rw [member?_bindEach_head h, target, Option.isNone_iff_eq_none.1 hn, Option.getD_none]
    · exact nameOf_bindCapture (s := s) c ▸ ih h.tail hc

/-- The first element of a new name that comes with the field `g`. -/
theorem find?_firsts_cons (h : s.Bindable scope (c :: cs)) (g : FieldId) :
    (s.firsts scope (c :: cs)).find? (·.2 == g) =
      (((s.bindCapture scope c.1 c.2).firsts scope cs).find? (·.2 == g)).or
        (if s.isNew scope c ∧ c.2 = g then some c else none) := by
  rw [firsts_cons h.scope]
  by_cases hn : s.isNew scope c = true
  · rw [if_pos hn, List.find?_cons]
    by_cases e : c.2 = g
    · -- No later element is new under the name, which is known from now on.
      have hnone : ((s.bindCapture scope c.1 c.2).firsts scope cs).find? (·.2 == g) = none := by
        refine List.find?_eq_none.2 fun c' hc' hg => ?_
        have hnew := isNew_of_mem_firsts h.tail hc'
        have hname : s.nameOf c = s.nameOf c' := by
          rw [nameOf, nameOf, e, beq_iff_eq.1 hg]
        rw [isNew_bindCapture h.scope, beq_iff_eq.2 hname, Bool.not_true, Bool.and_false] at hnew
        exact nomatch hnew
      rw [hnone, if_pos ⟨hn, e⟩, beq_iff_eq.2 e]
      rfl
    · rw [if_neg fun h => e h.2, beq_eq_false_iff_ne.2 e, Option.or_none]
  · rw [if_neg hn, if_neg fun h => hn h.1, Option.or_none]

/-- A field gets the type of the element it comes with, and the elements as sources
    whose names lead to it in the end. -/
theorem fields_bindEach (h : s.Bindable scope cs) (g : FieldId) :
    (s.bindEach scope cs).fields.get? g = (s.fields.get? g).map fun x =>
      x.withSources
        (((s.firsts scope cs).find? (·.2 == g)).map fun c => (s.elementAt c.1).type)
        ((cs.filter fun c =>
          ((s.bindEach scope cs).scopes.get scope).member? (s.nameOf c) == some g).map
            (·.1)) := by
  induction cs generalizing s with
  | nil =>
    simp only [firsts_nil, List.find?_nil, Option.map_none, List.filter_nil, List.map_nil,
      Field.withSources_none_nil, Option.map_id']
    rfl
  | cons c cs ih =>
    have hhead := member?_bindEach_head h
    rw [bindEach_cons] at hhead ⊢
    rw [ih h.tail, fields_bindCapture, Option.map_map]
    simp only [nameOf_bindCapture, type_elementAt_bindCapture]
    refine Option.map_congr fun x _ => ?_
    rw [Function.comp, Field.withSources_withSources]
    congr 1
    · rw [find?_firsts_cons h, Option.map_or]
      split <;> rfl
    · rw [List.filter_cons, hhead]
      by_cases e : s.target scope c = g
      · rw [if_pos e, if_pos (beq_iff_eq.2 (congrArg some e))]
        rfl
      · rw [if_neg e, if_neg fun h => e (Option.some.inj (beq_iff_eq.1 h))]
        rfl

/-- What the scope has in the end under a name is a field of this name. -/
theorem name_of_member?_bindEach (h : s.Bindable scope cs)
    (hf : ((s.bindEach scope cs).scopes.get scope).member? k = some f) :
    (s.fields.get f).name = k := by
  have hname : ((s.bindEach scope cs).fields.get f).name = (s.fields.get f).name :=
    h.preserves (Q := fun t => (t.fields.get f).name = (s.fields.get f).name)
      (fun _ _ _ _ _ hb ht => (hb.name f).trans ht) rfl
  exact hname.symm.trans (h.scopesNamed scope k f hf).2

/-- The elements that lead to a field in the end are those of its name, if the
    field is found under it. Otherwise there are none. -/
theorem filter_member?_bindEach (h : s.Bindable scope cs) (f : FieldId) :
    (cs.filter fun c =>
        ((s.bindEach scope cs).scopes.get scope).member? (s.nameOf c) == some f) =
      if ((s.bindEach scope cs).scopes.get scope).member? (s.fields.get f).name = some f then
        cs.filter (s.nameOf · == (s.fields.get f).name)
      else [] := by
  split
  next hf =>
    refine List.filter_congr fun c _ => Bool.eq_iff_iff.2 ?_
    rw [beq_iff_eq, beq_iff_eq]
    exact ⟨fun e => (name_of_member?_bindEach h e).symm, fun e => e ▸ hf⟩
  next hf =>
    refine List.filter_eq_nil_iff.2 fun c _ e => hf ?_
    have hc := beq_iff_eq.1 e
    rw [name_of_member?_bindEach h hc, hc]

/-- The first element that comes with a field is that of its name, if the field is
    found under it in the end. Otherwise there is none. -/
theorem find?_firsts_eq (h : s.Bindable scope cs) (f : FieldId) :
    (s.firsts scope cs).find? (·.2 == f) =
      if ((s.bindEach scope cs).scopes.get scope).member? (s.fields.get f).name = some f then
        (s.firsts scope cs).find? (s.nameOf · == (s.fields.get f).name)
      else none := by
  split
  next hf =>
    rw [← List.head?_filter, ← List.head?_filter]
    refine congrArg _ (List.filter_congr fun c hc => Bool.eq_iff_iff.2 ?_)
    rw [beq_iff_eq, beq_iff_eq]
    refine ⟨fun e => e ▸ rfl, fun e => ?_⟩
    have hc := member?_of_mem_firsts h hc
    rw [e, hf] at hc
    exact (Option.some.inj hc).symm
  next hf =>
    refine List.find?_eq_none.2 fun c hc e => hf ?_
    have hc := member?_of_mem_firsts h hc
    rw [nameOf, beq_iff_eq.1 e] at hc
    exact hc

/-- A field that the scope has in the end under its name gets all elements of this
    name as sources, and the type of the first of them, if the name is new. Other
    fields stay as they are. -/
theorem fields_bindEach_of_name (h : s.Bindable scope cs) (f : FieldId) :
    (s.bindEach scope cs).fields.get? f = (s.fields.get? f).map fun x =>
      if ((s.bindEach scope cs).scopes.get scope).member? x.name = some f then
        x.withSources
          (((s.firsts scope cs).find? (s.nameOf · == x.name)).map fun c => (s.elementAt c.1).type)
          ((cs.filter (s.nameOf · == x.name)).map (·.1))
      else x := by
  rw [fields_bindEach h, find?_firsts_eq h, filter_member?_bindEach h]
  refine Option.map_congr fun x hx => ?_
  obtain rfl := Arena.get_eq hx
  split
  next => rfl
  next => exact Field.withSources_none_nil _

/-! ## Productions -/

theorem productions_setCapture (p : ProductionId) :
    (s.setCapture r f).productions.get? p = (s.productions.get? p).map (·.mapElements fun i e =>
      if r = ⟨p, i⟩ then { e with capture := some f } else e) := by
  refine (Arena.get?_modify s.productions r.production p _).trans ?_
  by_cases e : r.production = p
  · rw [if_pos e]
    refine Option.map_congr fun x _ => ?_
    rw [Production.mapElements]
    congr 1
    refine (List.mapIdx_eq_iff.2 fun i => ?_).symm
    rw [List.getElem?_modify]
    refine congrArg (Option.map · _) (funext fun e' => ?_)
    by_cases hi : r.pos = i
    · rw [if_pos hi, if_pos (ElementRef.ext e hi)]
    · rw [if_neg hi, if_neg fun h => hi (congrArg ElementRef.pos h)]
  · rw [if_neg e]
    have hne (i : Nat) : r ≠ ⟨p, i⟩ := fun h => e (congrArg ElementRef.production h)
    simp only [if_neg (hne _), Production.mapElements_eq_self _ fun _ _ _ => rfl, Option.map_id']

/-- Every element of the list is captured in the field that the scope has in the
    end under its name. -/
theorem productions_bindEach (h : s.Bindable scope cs) {capture : ElementRef → Option FieldId}
    (hcapture : ∀ c ∈ cs, capture c.1 = some c.2) (p : ProductionId) :
    (s.bindEach scope cs).productions.get? p =
      (s.productions.get? p).map (·.mapElements fun i e =>
        if ⟨p, i⟩ ∈ cs.map (·.1) then
          { e with capture := (capture ⟨p, i⟩).bind fun f =>
            ((s.bindEach scope cs).scopes.get scope).member? (s.fields.get f).name }
        else e) := by
  induction cs generalizing s with
  | nil =>
    simp only [List.map_nil, List.not_mem_nil, if_false,
      Production.mapElements_eq_self _ fun _ _ _ => rfl, Option.map_id']
    rfl
  | cons c cs ih =>
    have hhead := member?_bindEach_head h
    rw [bindEach_cons] at hhead ⊢
    rw [ih h.tail fun c' hc' => hcapture c' (List.mem_cons_of_mem _ hc'), productions_bindCapture,
      productions_setCapture, Option.map_map]
    simp only [name_bindCapture]
    refine Option.map_congr fun x _ => ?_
    rw [Function.comp, Production.mapElements_mapElements]
    congr 1
    funext i e
    by_cases hc : c.1 = ⟨p, i⟩
    · have hhere : capture ⟨p, i⟩ = some c.2 := hc ▸ hcapture c List.mem_cons_self
      have hmem : (⟨p, i⟩ : ElementRef) ∈ (c :: cs).map (·.1) := hc ▸ List.mem_cons_self
      rw [nameOf] at hhead
      rw [if_pos hc, if_pos hmem, hhere, Option.bind_some, hhead]
      split <;> rfl
    · rw [if_neg hc, List.map_cons]
      simp only [List.mem_cons, Ne.symm hc, false_or]

/-- Linking gives the listed productions their owner. -/
theorem productions_linkAlternatives (ps : List ProductionId) (n : NonterminalId)
    (p : ProductionId) :
    (s.linkAlternatives ps n).productions.get? p = (s.productions.get? p).map fun x =>
      if p ∈ ps then { x with owner := some n } else x := by
  induction ps generalizing s with
  | nil =>
    simp only [List.not_mem_nil, if_false, Option.map_id']
    rfl
  | cons q ps ih =>
    refine (ih (s := s.modifyProduction q fun x => { x with owner := some n })).trans ?_
    rw [modifyProduction, Arena.get?_modify]
    by_cases e : q = p
    · rw [if_pos e, Option.map_map, e]
      refine Option.map_congr fun x _ => ?_
      rw [if_pos List.mem_cons_self, Function.comp]
      split <;> rfl
    · rw [if_neg e]
      simp only [List.mem_cons, Ne.symm e, false_or]

/-- In order, what a production captures is told by the places of its elements. -/
theorem captureAt_of_mem_capturesOf {p : ProductionId} (hp : (s.productions.get p).InOrder)
    (hc : c ∈ s.capturesOf p) : s.captureAt c.1 = some c.2 := by
  obtain ⟨e, he, hc⟩ := List.mem_filterMap.1 hc
  obtain ⟨f, hf, rfl⟩ := Option.map_eq_some_iff.1 hc
  obtain ⟨i, hi⟩ := List.mem_iff_getElem?.1 he
  rw [hp.pos_eq hi]
  exact captureAt_eq_some_iff.2 ⟨e, hi, hf⟩

theorem mem_captures_alternatives {ps : List ProductionId} :
    r ∈ (ps.flatMap s.capturesOf).map (·.1) ↔
      r.production ∈ ps ∧ r ∈ (s.capturesOf r.production).map (·.1) := by
  simp only [← List.count_pos_iff, count_captures, Nat.pos_iff_ne_zero, Nat.mul_ne_zero_iff]

/-! ## New nonterminals -/

section BindAlternatives

variable {n : Nonterminal} (hc : s.Closed) (hn : ScopesNamed s.scopes s.fields) (hfit : n.FitsIn s)
include hc hn hfit

/-- What the alternatives capture is bound element by element, in productions that
    have got their owners and are as before otherwise. -/
theorem bindAlternatives_eq_bindEach :
    let root := (s.objects.get n.object).rootScope
    let cs := n.alternatives.flatMap s.capturesOf
    ∃ a, s.bindAlternatives n = { s with productions := a }.bindEach root cs ∧
      { s with productions := a }.Bindable root cs ∧
      (∀ r, { s with productions := a }.elementAt r = s.elementAt r) ∧
      ∀ p, a.get? p = (s.productions.get? p).map fun x =>
        if p ∈ n.alternatives then { x with owner := some s.nonterminals.next } else x := by
  intro root cs
  have hb := bindable_linkAlternatives hc hn hfit
  have howner := productions_linkAlternatives (s := s) n.alternatives s.nonterminals.next
  obtain ⟨a, ha, helements, -⟩ := linkAlternatives_eq (s := s) n.alternatives s.nonterminals.next
  rw [ha] at hb howner
  refine ⟨a, ?_, hb, fun r => ?_, howner⟩
  · rw [bindAlternatives_eq, ha]
  · rw [elementAt, helements, elementAt]

theorem scopes_bindAlternatives (c : ScopeId) :
    let root := (s.objects.get n.object).rootScope
    let new := s.firsts root (n.alternatives.flatMap s.capturesOf)
    (s.bindAlternatives n).scopes.get? c = (s.scopes.get? c).map fun x =>
      if c = root then x.extend (new.map fun c => (s.nameOf c, c.2)) else x := by
  obtain ⟨a, ha, hb, -⟩ := bindAlternatives_eq_bindEach hc hn hfit
  rw [ha]
  exact scopes_bindEach hb c

theorem member?_bindAlternatives (k : String) :
    let root := (s.objects.get n.object).rootScope
    let cs := n.alternatives.flatMap s.capturesOf
    ((s.bindAlternatives n).scopes.get root).member? k =
      ((s.scopes.get root).member? k).or ((cs.find? fun c => s.nameOf c == k).map (·.2)) := by
  obtain ⟨a, ha, hb, -⟩ := bindAlternatives_eq_bindEach hc hn hfit
  rw [ha]
  exact member?_bindEach hb k

theorem fields_bindAlternatives (f : FieldId) :
    let root := (s.objects.get n.object).rootScope
    let cs := n.alternatives.flatMap s.capturesOf
    let scope := (s.bindAlternatives n).scopes.get root
    (s.bindAlternatives n).fields.get? f = (s.fields.get? f).map fun x =>
      if scope.member? x.name = some f then
        x.withSources
          (((s.firsts root cs).find? (s.nameOf · == x.name)).map fun c => (s.elementAt c.1).type)
          ((cs.filter (s.nameOf · == x.name)).map (·.1))
      else x := by
  obtain ⟨a, ha, hb, hat, -⟩ := bindAlternatives_eq_bindEach hc hn hfit
  have hbound := fields_bindEach_of_name hb f
  simp only [hat] at hbound
  rw [ha]
  exact hbound

theorem productions_bindAlternatives
    (hin : ∀ p ∈ n.alternatives, (s.productions.get p).InOrder) (p : ProductionId) :
    let scope := (s.bindAlternatives n).scopes.get (s.objects.get n.object).rootScope
    (s.bindAlternatives n).productions.get? p = (s.productions.get? p).map fun x =>
      if p ∈ n.alternatives then
        { x with
          owner := some s.nonterminals.next
          elements := x.elements.map (·.recapture fun f => scope.member? (s.fields.get f).name) }
      else x := by
  have hcapture : ∀ c ∈ n.alternatives.flatMap s.capturesOf, s.captureAt c.1 = some c.2 := by
    intro c hc
    obtain ⟨q, hq, hc⟩ := List.mem_flatMap.1 hc
    exact captureAt_of_mem_capturesOf (hin q hq) hc
  obtain ⟨a, ha, hb, -, howner⟩ := bindAlternatives_eq_bindEach hc hn hfit
  have hbound := productions_bindEach hb hcapture p
  rw [howner, Option.map_map] at hbound
  dsimp only
  rw [ha]
  refine hbound.trans (Option.map_congr fun x hx => ?_)
  rw [Function.comp]
  by_cases hp : p ∈ n.alternatives
  · rw [if_pos hp, if_pos hp]
    refine Production.mapElements_eq_map _ fun i e he => ?_
    have hat : s.captureAt ⟨p, i⟩ = e.capture := by
      rw [captureAt, Arena.get_eq hx, he]
      rfl
    by_cases hmem : ⟨p, i⟩ ∈ (n.alternatives.flatMap s.capturesOf).map (·.1)
    · rw [if_pos hmem, hat]
      rfl
    · -- It is not among the captures, so it is not captured.
      have hnone : e.capture = none := by
        by_contra hne
        rw [← hat] at hne
        exact hmem (mem_captures_alternatives.2 ⟨hp, (mem_captures_iff (hin p hp)).2 hne⟩)
      rw [if_neg hmem, Element.recapture_of_none hnone]
  · rw [if_neg hp, if_neg hp]
    refine Production.mapElements_eq_self _ fun i e _ => if_neg fun hmem => ?_
    exact hp (mem_captures_alternatives.1 hmem).1

end BindAlternatives

end Spec

namespace Draft

variable {o : Options} {d : Draft} {name : Name} {object : ObjectId} {ps : List ProductionId}
  {reduceFirst : Bool}

/-- What a new nonterminal does to scopes, fields and productions, if the elements
    of its alternatives are in order. Its object takes, for each new name, the
    field of the first element captured under it, which gets the type of the
    element. Every captured element is then captured in the field that the object
    has under its name, and comes last among the sources of this field. Nothing
    else changes, and nothing is reported. -/
theorem captures_wired (hd : Reachable o d)
    (hop : d.spec.Covers (Op.declareNonterminal name object ps reduceFirst))
    (hin : ∀ p ∈ ps, (d.spec.productions.get p).InOrder) :
    let s := d.spec
    let n := (d.declareNonterminal name object ps reduceFirst).1
    let d' := (d.declareNonterminal name object ps reduceFirst).2
    let root := (s.objects.get object).rootScope
    let cs := ps.flatMap s.capturesOf
    let new := s.firsts root cs
    let scope := d'.spec.scopes.get root
    (∀ c, d'.spec.scopes.get? c = (s.scopes.get? c).map fun x =>
        if c = root then x.extend (new.map fun c => (s.nameOf c, c.2)) else x) ∧
      (∀ k, scope.member? k =
        ((s.scopes.get root).member? k).or ((cs.find? fun c => s.nameOf c == k).map (·.2))) ∧
      (∀ f, d'.spec.fields.get? f = (s.fields.get? f).map fun x =>
        if scope.member? x.name = some f then
          x.withSources ((new.find? (s.nameOf · == x.name)).map fun c => (s.elementAt c.1).type)
            ((cs.filter (s.nameOf · == x.name)).map (·.1))
        else x) ∧
      (∀ p, d'.spec.productions.get? p = (s.productions.get? p).map fun x =>
        if p ∈ ps then
          { x with
            owner := some n
            elements := x.elements.map (·.recapture fun f => scope.member? (s.fields.get f).name) }
        else x) ∧
      d'.diagnostics = d.diagnostics := by
  have hadmits : d.Admits (.declareNonterminal name object ps reduceFirst) :=
    ⟨hop, fun p hp => (hin p hp).inRange⟩
  have hc := hd.sound.closed
  have hn := hd.steps.capturesSettled.named
  have hfit := hd.sound.fits_nonterminalOf hadmits
  have hspec : (d.declareNonterminal name object ps reduceFirst).2.spec =
      (d.spec.bindAlternatives (d.nonterminalOf name object ps reduceFirst)).enlist
        (d.nonterminalOf name object ps reduceFirst) := Spec.addNonterminal_eq hc hfit
  dsimp only
  rw [hspec]
  exact ⟨Spec.scopes_bindAlternatives hc hn hfit, Spec.member?_bindAlternatives hc hn hfit,
    Spec.fields_bindAlternatives hc hn hfit, Spec.productions_bindAlternatives hc hn hfit hin, rfl⟩

/-- The object has a field of the first name already, without a type. The second
    name is new, and captured twice, first with a letter and then with a digit. -/
theorem captures_wired_shared :
    let letter (capture : Option FieldId) : Element :=
      .ofName { text := "letter" } none capture .bare false
    let digit (capture : Option FieldId) : Element :=
      .ofName { text := "digit" } none capture .bare false
    let d := (start {}).run
      [ .newObject { text := "sum" }
      , .newField { text := "left" } .structField none
      , .declareField ⟨2⟩ ⟨0⟩
      , .newField { text := "left" } .captured none
      , .newField { text := "right" } .captured none
      , .newField { text := "right" } .captured none
      , .newProduction (Element.append (Element.append (Element.append [] (letter (some ⟨1⟩)))
          (letter none)) (letter (some ⟨2⟩))) none none none false ⟨1, 0⟩
      , .newProduction (Element.append [] (digit (some ⟨3⟩))) none none none false ⟨2, 0⟩ ]
    let ps : List ProductionId := [⟨0⟩, ⟨1⟩]
    let d' := (d.declareNonterminal { text := "sum" } ⟨2⟩ ps false).2
    let root := (d.spec.objects.get ⟨2⟩).rootScope
    let scope := d'.spec.scopes.get root
    Reachable {} d ∧ d.spec.Covers (Op.declareNonterminal { text := "sum" } ⟨2⟩ ps false) ∧
      (∀ p ∈ ps, (d.spec.productions.get p).InOrder) ∧
      d.spec.firsts root (ps.flatMap d.spec.capturesOf) = [(⟨⟨0⟩, 2⟩, ⟨2⟩)] ∧
      scope.member? "left" = some ⟨0⟩ ∧ scope.member? "right" = some ⟨2⟩ ∧
      (d'.spec.scopes.get? root).map (·.fields) = some [⟨0⟩, ⟨2⟩] ∧
      (d'.spec.fields.get? ⟨0⟩).map (fun x => (x.type, x.sources)) = some (none, [⟨⟨0⟩, 0⟩]) ∧
      (d'.spec.fields.get? ⟨2⟩).map (fun x => (x.type, x.sources)) =
        some (some (letter none).type, [⟨⟨0⟩, 2⟩, ⟨⟨1⟩, 0⟩]) ∧
      (d'.spec.productions.get? ⟨1⟩).map (·.elements.map (·.capture)) = some [some ⟨2⟩] ∧
      d'.diagnostics = d.diagnostics := by
  intro letter digit d ps d' root scope
  have hd : Reachable {} d := Reachable.start.run (by decide +kernel)
  have hop : d.spec.Covers (Op.declareNonterminal { text := "sum" } ⟨2⟩ ps false) := by
    decide +kernel
  have hin : ∀ p ∈ ps, (d.spec.productions.get p).InOrder := by decide +kernel
  obtain ⟨hscopes, hmember, hfields, hproductions, hdiag⟩ := captures_wired hd hop hin
  refine ⟨hd, hop, hin, by decide +kernel, ?_, ?_, ?_, ?_, ?_, ?_, hdiag⟩
  · exact (hmember "left").trans (by decide +kernel)
  · exact (hmember "right").trans (by decide +kernel)
  · rw [hscopes root]
    decide +kernel
  · rw [hfields ⟨0⟩]
    decide +kernel
  · rw [hfields ⟨2⟩]
    decide +kernel
  · rw [hproductions ⟨1⟩]
    decide +kernel

end Draft

end LangSpec
