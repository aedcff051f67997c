import LangSpec.Proofs.Integrity

/-!
# Captured elements and their fields

A captured element and the field that stands for it know each other: the field
lists the element among its sources, and the element names the field. A field
is found in its scope under its own name, and what is found there stays.

* `Attaches`: what binding one captured element does;
* `Settled`: an element and its field know each other, or there is none;
* `Bindable.settles`, `Bindable.preserves`: binding a list of captured elements
  settles each that comes once, and leaves alone those that do not come;
* `count_captures`: how often an element comes in the captures of productions.
-/

namespace LangSpec

theorem ElementRef.ext {r r' : ElementRef} (hp : r.production = r'.production)
    (hi : r.pos = r'.pos) : r = r' := by
  cases r
  cases r'
  cases hp
  cases hi
  rfl

namespace Spec

variable {s s' : Spec}

/-! ## Names in scopes -/

/-- What a scope knows under a name is a field of this name. -/
def ScopesNamed (scopes : Arena .scopes Scope) (fields : Arena .fields Field) : Prop :=
  ∀ c k f, (scopes.get c).member? k = some f → f ∈ fields ∧ (fields.get f).name = k

theorem member?_bind {scopes : Arena .scopes Scope} {c : ScopeId} {name : String} {f : FieldId}
    (hc : c ∈ scopes) (c' : ScopeId) (k : String) :
    ((scopes.modify c fun x => x.insert name f).get c').member? k =
      if c = c' ∧ name = k then some f else (scopes.get c').member? k := by
  by_cases e : c = c'
  · subst e
    rw [Arena.get_modify_self hc, Scope.member?, Scope.insert, Dict.find?_insert]
    simp [Scope.member?]
  · rw [Arena.get_modify_of_ne e, if_neg fun h => e h.1]

namespace ScopesNamed

variable {scopes : Arena .scopes Scope} {fields : Arena .fields Field}

theorem pushScope {x : Scope} (h : ScopesNamed scopes fields) (hx : x.members = .empty) :
    ScopesNamed (scopes.push x) fields := by
  intro c k f hf
  rw [Arena.get, Arena.get?_push] at hf
  split at hf
  next =>
    rw [Option.getD_some, Scope.member?, hx, Dict.find?_empty] at hf
    exact absurd hf (Option.some_ne_none f).symm
  next => exact h c k f hf

theorem modifyScope {c : ScopeId} {change : Scope → Scope} (h : ScopesNamed scopes fields)
    (hc : ∀ x, (change x).members = x.members) : ScopesNamed (scopes.modify c change) fields := by
  intro c' k f hf
  have e : ((scopes.modify c change).get c').members = (scopes.get c').members :=
    Arena.apply_get_modify (g := Scope.members) hc c'
  rw [Scope.member?, e] at hf
  exact h c' k f hf

theorem pushField {x : Field} (h : ScopesNamed scopes fields) :
    ScopesNamed scopes (fields.push x) := by
  intro c k f hf
  obtain ⟨hmem, hname⟩ := h c k f hf
  exact ⟨Arena.mem_push.2 (.inl hmem), Arena.get_push_of_mem hmem ▸ hname⟩

theorem modifyField {f : FieldId} {change : Field → Field} (h : ScopesNamed scopes fields)
    (hc : ∀ x, (change x).name = x.name) : ScopesNamed scopes (fields.modify f change) := by
  intro c k g hg
  obtain ⟨hmem, hname⟩ := h c k g hg
  exact ⟨Arena.mem_modify.2 hmem, (Arena.apply_get_modify (g := Field.name) hc g).trans hname⟩

/-- A field put into a scope, under its name. -/
theorem bind {c : ScopeId} {f : FieldId} (h : ScopesNamed scopes fields) (hc : c ∈ scopes)
    (hf : f ∈ fields) :
    ScopesNamed (scopes.modify c fun x => x.insert (fields.get f).name f) fields := by
  intro c' k g hg
  rw [member?_bind hc] at hg
  split at hg
  next e =>
    cases hg
    exact ⟨hf, e.2⟩
  next => exact h c' k g hg

end ScopesNamed

theorem member?_bindField {c : ScopeId} {f : FieldId} (hc : c ∈ s.scopes) (c' : ScopeId)
    (k : String) : ((s.bindField c f).scopes.get c').member? k =
      if c = c' ∧ (s.fields.get f).name = k then some f else (s.scopes.get c').member? k :=
  member?_bind hc c' k

/-! ## Captured elements -/

/-- The field the element at `r` is captured in. -/
def captureAt (s : Spec) (r : ElementRef) : Option FieldId :=
  (s.productions.get r.production).elements[r.pos]?.bind (·.capture)

theorem captureAt_setCapture {r : ElementRef} {f : FieldId} (hr : s.HasElement r)
    (r' : ElementRef) :
    (s.setCapture r f).captureAt r' = if r' = r then some f else s.captureAt r' := by
  obtain ⟨hp, hlt⟩ := hr
  rw [captureAt, setCapture, modifyProduction]
  -- Another element is one of another production or at another position.
  by_cases e : r' = r
  · rw [e, Arena.get_modify_self hp, List.getElem?_modify_eq, List.getElem?_eq_getElem hlt,
      if_pos rfl]
    rfl
  · rw [if_neg e, captureAt]
    by_cases hprod : r.production = r'.production
    · have hpos : r.pos ≠ r'.pos := fun hpos => e (ElementRef.ext hprod.symm hpos.symm)
      rw [← hprod, Arena.get_modify_self hp, List.getElem?_modify_ne _ _ hpos]
    · rw [Arena.get_modify_of_ne hprod]

theorem sources_addSource {r : ElementRef} {g : FieldId} (hg : g ∈ s.fields) (h : FieldId) :
    ((s.addSource r g).fields.get h).sources =
      (s.fields.get h).sources ++ if h = g then [r] else [] := by
  by_cases e : h = g
  · rw [e, addSource, modifyField, Arena.get_modify_self hg, if_pos rfl]
  · rw [addSource, modifyField, Arena.get_modify_of_ne (Ne.symm e), if_neg e, List.append_nil]

/-- What happens when the element at `r` is bound to the field `g` of a scope. -/
structure Attaches (s s' : Spec) (scope : ScopeId) (r : ElementRef) (g : FieldId) : Prop where
  owner : ∀ p, (s'.productions.get p).owner = (s.productions.get p).owner
  capture : ∀ r', s'.captureAt r' = if r' = r then some g else s.captureAt r'
  sources : ∀ h, (s'.fields.get h).sources =
    (s.fields.get h).sources ++ if h = g then [r] else []
  name : ∀ h, (s'.fields.get h).name = (s.fields.get h).name
  isCaptured : (s'.fields.get g).isCaptured = true
  staysCaptured : ∀ h, (s.fields.get h).isCaptured = true → (s'.fields.get h).isCaptured = true
  member : (s'.scopes.get scope).member? (s.fields.get g).name = some g
  staysMember : ∀ c k h, (s.scopes.get c).member? k = some h →
    (s'.scopes.get c).member? k = some h

/-- An element captured in a field of the scope. -/
theorem attaches_member {scope : ScopeId} {r : ElementRef} {g : FieldId} (hr : s.HasElement r)
    (hg : g ∈ s.fields) (hm : (s.scopes.get scope).member? (s.fields.get g).name = some g) :
    Attaches s ((s.setCapture r g).addSource r g) scope r g where
  owner := Arena.apply_get_modify (g := Production.owner) fun _ => rfl
  capture := captureAt_setCapture hr
  sources := sources_addSource hg
  name := Arena.apply_get_modify (g := Field.name) fun _ => rfl
  isCaptured := by
    rw [addSource, modifyField, Arena.get_modify_self (a := (s.setCapture r g).fields) hg]
  staysCaptured :=
    fun _ => Arena.get_modify_of_imp (p := fun x : Field => x.isCaptured = true) fun _ _ => rfl
  member := hm
  staysMember := fun _ _ _ => id

/-- An element captured in a new field of the scope. -/
theorem attaches_new {scope : ScopeId} {r : ElementRef} {f : FieldId} {type : TypeRef}
    (hr : s.HasElement r) (hc : scope ∈ s.scopes) (hf : f ∈ s.fields)
    (hm : (s.scopes.get scope).member? (s.fields.get f).name = none) :
    let typed := s.modifyField f fun x => { x with type := some type }
    Attaches s (((typed.bindField scope f).setCapture r f).addSource r f) scope r f := by
  intro typed
  -- The note of the type changes nothing that matters here.
  have hf' : f ∈ typed.fields := Arena.mem_modify.2 hf
  have hname (h : FieldId) : (typed.fields.get h).name = (s.fields.get h).name :=
    Arena.apply_get_modify (g := Field.name) (by intro; rfl) h
  have hsources (h : FieldId) : (typed.fields.get h).sources = (s.fields.get h).sources :=
    Arena.apply_get_modify (g := Field.sources) (by intro; rfl) h
  have hcaptured (h : FieldId) :
      (typed.fields.get h).isCaptured = (s.fields.get h).isCaptured :=
    Arena.apply_get_modify (g := Field.isCaptured) (by intro; rfl) h
  have hmember := member?_bindField (s := typed) (f := f) hc
  have hbound : ((typed.bindField scope f).scopes.get scope).member? (typed.fields.get f).name =
      some f := (hmember _ _).trans (if_pos ⟨rfl, rfl⟩)
  have h : Attaches (typed.bindField scope f)
      (((typed.bindField scope f).setCapture r f).addSource r f) scope r f :=
    attaches_member hr hf' hbound
  exact
    { owner := h.owner
      capture := h.capture
      sources := fun g => (h.sources g).trans (by rw [← hsources g]; rfl)
      name := fun g => (h.name g).trans (hname g)
      isCaptured := h.isCaptured
      staysCaptured := fun g hg => h.staysCaptured g ((hcaptured g).trans hg)
      member := hname f ▸ h.member
      staysMember := fun c k g hg => h.staysMember c k g <| by
        rw [hmember, hname, if_neg]
        · exact hg
        · rintro ⟨rfl, rfl⟩
          exact nomatch hm.symm.trans hg }

/-- Binding a captured element, to the field that the scope has under the name
    or to the one written. -/
theorem exists_attaches {scope : ScopeId} {r : ElementRef} {f : FieldId}
    (hn : ScopesNamed s.scopes s.fields) (hr : s.HasElement r) (hc : scope ∈ s.scopes)
    (hf : f ∈ s.fields) : ∃ g, Attaches s (s.bindCapture scope r f) scope r g := by
  rw [bindCapture]
  split
  next g hg =>
    obtain ⟨hmem, hname⟩ := hn scope _ g hg
    exact ⟨g, attaches_member hr hmem (hname ▸ hg)⟩
  -- The name is free: the field written becomes that of the scope.
  next hm => exact ⟨f, attaches_new hr hc hf hm⟩

/-! ## Settled elements -/

/-- No field has the element at `r` among its sources. -/
def Unbound (s : Spec) (r : ElementRef) : Prop := ∀ f, r ∉ (s.fields.get f).sources

/-- The field `f` of the scope has the element at `r` among its sources, once, and
    no other field has it. -/
structure Bound (s : Spec) (scope : ScopeId) (r : ElementRef) (f : FieldId) : Prop where
  sources : ∀ g, (s.fields.get g).sources.count r = if g = f then 1 else 0
  isCaptured : (s.fields.get f).isCaptured = true
  member : (s.scopes.get scope).member? (s.fields.get f).name = some f

/-- The element at `r` and the field it is captured in know each other, or there
    is no such field. -/
inductive Settled (s : Spec) (scope : ScopeId) (r : ElementRef) : Prop
  | bound {f : FieldId} (hf : s.captureAt r = some f) (h : s.Bound scope r f)
  | unbound (hn : s.captureAt r = none) (h : s.Unbound r)

namespace Attaches

variable {scope : ScopeId} {r r' : ElementRef} {g : FieldId}

/-- The element that is bound is settled, if it was not bound before. -/
theorem settles (h : Attaches s s' scope r g) (hr : s.Unbound r) : s'.Settled scope r := by
  refine .bound ((h.capture r).trans (if_pos rfl)) ⟨fun f => ?_, h.isCaptured, ?_⟩
  · rw [h.sources, List.count_append, List.count_eq_zero_of_not_mem (hr f), Nat.zero_add]
    split
    · exact List.count_singleton_self
    · rfl
  · rw [h.name]
    exact h.member

/-- Other elements stay as they are. -/
theorem unbound (h : Attaches s s' scope r g) (hne : r' ≠ r) (hr : s.Unbound r') :
    s'.Unbound r' := by
  intro f hf
  rw [h.sources, List.mem_append] at hf
  rcases hf with hf | hf
  · exact hr f hf
  · split at hf
    · exact hne (List.mem_singleton.1 hf)
    · exact List.not_mem_nil hf

theorem settled (h : Attaches s s' scope r g) (hne : r' ≠ r) {c : ScopeId}
    (hr : s.Settled c r') : s'.Settled c r' := by
  have hcapture : s'.captureAt r' = s.captureAt r' := (h.capture r').trans (if_neg hne)
  cases hr with
  | @bound f hf hb =>
    -- The field may get another source, and nothing is lost.
    refine .bound (hcapture.trans hf) ⟨fun f' => ?_, h.staysCaptured _ hb.isCaptured, ?_⟩
    · rw [h.sources, List.count_append, hb.sources, Nat.add_eq_left]
      refine List.count_eq_zero_of_not_mem fun hmem => ?_
      split at hmem
      · exact hne (List.mem_singleton.1 hmem)
      · exact List.not_mem_nil hmem
    · rw [h.name]
      exact h.staysMember _ _ _ hb.member
  | unbound hn hu => exact .unbound (hcapture.trans hn) (h.unbound hne hu)

end Attaches

/-! ## Lists of captured elements -/

/-- The captured elements of the list can be bound one after another: there are
    such elements and fields. -/
structure Bindable (s : Spec) (scope : ScopeId) (cs : List (ElementRef × FieldId)) : Prop where
  named : ScopesNamed s.scopes s.fields
  scope : scope ∈ s.scopes
  captures : ∀ c ∈ cs, s.HasElement c.1 ∧ c.2 ∈ s.fields

theorem ScopesNamed.bindCapture {scope : ScopeId} {r : ElementRef} {f : FieldId}
    (hn : ScopesNamed s.scopes s.fields) (hc : scope ∈ s.scopes) (hf : f ∈ s.fields) :
    ScopesNamed (s.bindCapture scope r f).scopes (s.bindCapture scope r f).fields := by
  rw [Spec.bindCapture]
  split
  next => exact hn.modifyField fun _ => rfl
  next =>
    let typed := s.modifyField f fun x => { x with type := some (s.elementAt r).type }
    have h : ScopesNamed typed.scopes typed.fields := hn.modifyField fun _ => rfl
    exact (h.bind hc (Arena.mem_modify.2 hf)).modifyField fun _ => rfl

namespace Bindable

variable {scope : ScopeId} {c : ElementRef × FieldId} {cs : List (ElementRef × FieldId)}

theorem tail (h : s.Bindable scope (c :: cs)) :
    (s.bindCapture scope c.1 c.2).Bindable scope cs := by
  obtain ⟨-, hf⟩ := h.captures c List.mem_cons_self
  have hb : Binds default s (s.bindCapture scope c.1 c.2) := binds_bindCapture _ scope c.1 hf
  refine ⟨h.named.bindCapture h.scope hf, ?_, fun c' hc' => ?_⟩
  · exact (Binds.mem_scopes hb).2 h.scope
  · obtain ⟨hr, hf⟩ := h.captures c' (List.mem_cons_of_mem _ hc')
    exact ⟨hr.binds hb, (Binds.mem_fields hb).2 hf⟩

theorem exists_attaches (h : s.Bindable scope (c :: cs)) :
    ∃ g, Attaches s (s.bindCapture scope c.1 c.2) scope c.1 g := by
  obtain ⟨hr, hf⟩ := h.captures c List.mem_cons_self
  exact Spec.exists_attaches h.named hr h.scope hf

/-- Fields keep their names in the end. -/
theorem scopesNamed (h : s.Bindable scope cs) :
    ScopesNamed (s.bindEach scope cs).scopes (s.bindEach scope cs).fields := by
  induction cs generalizing s with
  | nil => exact h.named
  | cons c cs ih => exact ih h.tail

/-- What the binding of each element keeps, the binding of the whole list
    keeps. -/
theorem preserves {Q : Spec → Prop} (h : s.Bindable scope cs)
    (step : ∀ c ∈ cs, ∀ {s s' g}, Attaches s s' scope c.1 g → Q s → Q s') (hQ : Q s) :
    Q (s.bindEach scope cs) := by
  induction cs generalizing s with
  | nil => exact hQ
  | cons c cs ih =>
    obtain ⟨g, hg⟩ := h.exists_attaches
    exact ih h.tail (fun c' hc' => step c' (List.mem_cons_of_mem _ hc'))
      (step c List.mem_cons_self hg hQ)

/-- An element that comes once in the list is settled in the end. -/
theorem settles (h : s.Bindable scope cs) {r : ElementRef}
    (hr : (cs.map Prod.fst).count r = 1) (hu : s.Unbound r) :
    (s.bindEach scope cs).Settled scope r := by
  induction cs generalizing s with
  | nil => exact nomatch hr
  | cons c cs ih =>
    obtain ⟨g, hg⟩ := h.exists_attaches
    rw [List.map_cons, List.count_cons] at hr
    by_cases e : c.1 = r
    · -- The element is bound now, and does not come again.
      rw [if_pos (beq_iff_eq.2 e)] at hr
      have hrest : r ∉ cs.map Prod.fst := List.count_eq_zero.1 (Nat.succ.inj hr)
      refine h.tail.preserves (Q := (·.Settled scope r)) (fun c' hc' _ _ _ hb hs => ?_)
        (e ▸ hg.settles (e ▸ hu))
      exact hb.settled (fun e' => hrest (List.mem_map.2 ⟨c', hc', e'.symm⟩)) hs
    · rw [if_neg fun h => e (beq_iff_eq.1 h)] at hr
      exact ih h.tail hr (hg.unbound (Ne.symm e) hu)

end Bindable

/-! ## What productions capture -/

theorem captureAt_eq_some_iff {p : ProductionId} {i : Nat} {f : FieldId} :
    s.captureAt ⟨p, i⟩ = some f ↔
      ∃ e, (s.productions.get p).elements[i]? = some e ∧ e.capture = some f :=
  Option.bind_eq_some_iff

theorem mem_captures {p : ProductionId} {r : ElementRef} :
    r ∈ (s.capturesOf p).map Prod.fst ↔
      ∃ e ∈ (s.productions.get p).elements, e.capture.isSome ∧ r = ⟨p, e.pos⟩ := by
  rw [List.mem_map]
  constructor
  · rintro ⟨c, hc, rfl⟩
    obtain ⟨e, he, hc⟩ := List.mem_filterMap.1 hc
    obtain ⟨f, hf, rfl⟩ := Option.map_eq_some_iff.1 hc
    exact ⟨e, he, Option.isSome_of_eq_some hf, rfl⟩
  · rintro ⟨e, he, hf, rfl⟩
    obtain ⟨f, hf⟩ := Option.isSome_iff_exists.1 hf
    exact ⟨(_, f), List.mem_filterMap.2 ⟨e, he, Option.map_eq_some_iff.2 ⟨f, hf, rfl⟩⟩, rfl⟩

/-- An element comes in the captures of a list of productions as often as its
    production comes in the list, if it comes once in those of its production. -/
theorem count_captures (ps : List ProductionId) (r : ElementRef) :
    ((ps.flatMap s.capturesOf).map Prod.fst).count r =
      ps.count r.production * ((s.capturesOf r.production).map Prod.fst).count r := by
  induction ps with
  | nil => rw [List.count_nil, Nat.zero_mul, List.flatMap_nil, List.map_nil, List.count_nil]
  | cons p ps ih =>
    rw [List.flatMap_cons, List.map_append, List.count_append, ih, List.count_cons, Nat.add_mul,
      Nat.add_comm]
    congr 1
    -- What a production captures are its own elements.
    by_cases e : p = r.production
    · rw [e, beq_self_eq_true, if_pos rfl, Nat.one_mul]
    · rw [if_neg fun h => e (beq_iff_eq.1 h), Nat.zero_mul]
      refine List.count_eq_zero_of_not_mem fun hr => ?_
      obtain ⟨e', -, -, rfl⟩ := mem_captures.1 hr
      exact e rfl

end Spec

/-! ## Elements in order -/

/-- The elements of the production are numbered by their place. -/
def Production.InOrder (p : Production) : Prop :=
  p.elements.map (·.pos) = List.range p.elements.length

theorem Production.inOrder_of_getElem? {p : Production}
    (h : ∀ (i : Nat) (e : Element), p.elements[i]? = some e → e.pos = i) : p.InOrder := by
  refine List.ext_getElem? fun i => ?_
  rw [List.getElem?_map]
  cases he : p.elements[i]? with
  | none => exact (List.getElem?_eq_none (by simpa using he)).symm
  | some e =>
    have hi : i < p.elements.length := (List.getElem?_eq_some_iff.1 he).1
    rw [List.getElem?_range hi, Option.map_some, h i e he]

theorem Production.InOrder.pos_eq {p : Production} (h : p.InOrder) {i : Nat} {e : Element}
    (he : p.elements[i]? = some e) : e.pos = i := by
  have hi : i < p.elements.length := (List.getElem?_eq_some_iff.1 he).1
  have hpos : (p.elements.map (·.pos))[i]? = (List.range p.elements.length)[i]? := by rw [h]
  rw [List.getElem?_map, he, List.getElem?_range hi] at hpos
  exact Option.some.inj hpos

namespace Spec

variable {s : Spec} {p : ProductionId} {i : Nat}

/-- If the elements are in order, those captured are those that say so. -/
theorem mem_captures_iff (h : (s.productions.get p).InOrder) :
    ⟨p, i⟩ ∈ (s.capturesOf p).map Prod.fst ↔ s.captureAt ⟨p, i⟩ ≠ none := by
  rw [mem_captures, Option.ne_none_iff_exists']
  constructor
  · rintro ⟨e, he, hf, hr⟩
    obtain ⟨j, hj⟩ := List.mem_iff_getElem?.1 he
    obtain ⟨f, hf⟩ := Option.isSome_iff_exists.1 hf
    have hpos : i = e.pos := congrArg ElementRef.pos hr
    rw [hpos, h.pos_eq hj]
    exact ⟨f, captureAt_eq_some_iff.2 ⟨e, hj, hf⟩⟩
  · rintro ⟨f, hf⟩
    obtain ⟨e, he, hf⟩ := captureAt_eq_some_iff.1 hf
    exact ⟨e, List.mem_of_getElem? he, Option.isSome_of_eq_some hf, by rw [h.pos_eq he]⟩

/-- If the elements are in order, none is captured twice. -/
theorem nodup_captures (h : (s.productions.get p).InOrder) :
    ((s.capturesOf p).map Prod.fst).Nodup := by
  have hpos : ((s.productions.get p).elements.map (·.pos)).Nodup := by
    rw [h]
    exact List.nodup_range
  refine List.pairwise_map.2 ((List.pairwise_map.1 hpos).filterMap _ ?_)
  intro e e' hne c hc c' hc' heq
  obtain ⟨f, -, rfl⟩ := Option.map_eq_some_iff.1 hc
  obtain ⟨f', -, rfl⟩ := Option.map_eq_some_iff.1 hc'
  exact hne (congrArg ElementRef.pos heq)

end Spec

end LangSpec
