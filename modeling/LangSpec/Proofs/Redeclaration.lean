import LangSpec.Proofs.CaptureWiring
import LangSpec.Proofs.ScopeFields

/-!
# Names declared twice

Many operations declare a name: variables, fields of objects and of contexts,
global and exported variables, the variables of loops, and those that patterns
and expressions come with. They differ in the scope that is to have the name, in
what they enter before, and in what they note on the field. But all of them ask
only this scope, and whether it has the name decides everything: if it has, one
duplicate is reported, and no scope is different; otherwise nothing is reported,
and the name comes last in the scope. Other scopes may use the name or not.

* `Declaration`: the name that is declared, and the scope that is to have it;
* `Op.declaration?`: what operations declare;
* `Prepares`: what happens before the scope is asked;
* `Declares`: the two ends of a declaration;
* `only_the_scope_decides`: the law.
-/

namespace LangSpec

namespace Spec

/-- The field is one of those declared in some scope. -/
def Registered (s : Spec) (f : FieldId) : Prop := ∃ c, f ∈ (s.scopes.get c).fields

variable {s : Spec} {f : FieldId}

theorem registered_iff : s.Registered f ↔ ∃ x ∈ s.scopes.toList, f ∈ x.fields := by
  constructor
  · rintro ⟨c, hf⟩
    by_cases hc : c ∈ s.scopes
    · exact ⟨_, Arena.mem_toList.2 ⟨c, Arena.get?_eq_some_get hc⟩, hf⟩
    · rw [Arena.get_of_not_mem hc] at hf
      exact absurd hf List.not_mem_nil
  · rintro ⟨x, hx, hf⟩
    obtain ⟨c, hc⟩ := Arena.mem_toList.1 hx
    exact ⟨c, Arena.get_eq hc ▸ hf⟩

instance : Decidable (s.Registered f) := decidable_of_iff _ registered_iff.symm

end Spec

/-- What an operation declares: a name, in one scope. -/
structure Declaration where
  /-- The scope that is to have the name. -/
  scope : ScopeId
  /-- The name. -/
  name : String
  /-- The place. -/
  loc : Location
  /-- The field the operation is called with. It may also make one itself. -/
  field : Option FieldId
  /-- What is reported if the scope has the name. -/
  problem : Problem
  /-- This is a duplicate. -/
  isDuplicate : problem.kind = .duplicate

namespace Declaration

variable (d : Draft)

/-- The field `f` as a variable of the current scope. -/
def ofVariable (f : FieldId) : Declaration :=
  let x := d.spec.fields.get f
  { scope := d.scope
    name := x.name
    loc := x.loc
    field := some f
    problem := .variableTaken x.name
    isDuplicate := rfl }

/-- The field `f` as a field of an object. -/
def ofField (object : ObjectId) (f : FieldId) : Declaration :=
  let x := d.spec.fields.get f
  { scope := (d.spec.objects.get object).rootScope
    name := x.name
    loc := x.loc
    field := some f
    problem := .fieldTaken x.name
    isDuplicate := rfl }

/-- A new variable of the current scope. -/
def ofNew (name : String) (loc : Location) : Declaration :=
  { scope := d.scope, name, loc
    field := none
    problem := .variableTaken name
    isDuplicate := rfl }

end Declaration

/-- What the operation declares in this draft, if it declares anything. A field
    cannot be exported from a context, and there are fields of a context only
    within one. -/
def Op.declaration? (d : Draft) : Op → Option Declaration
  | declareVariable f _ => some (.ofVariable d f)
  | declareGlobal f _ =>
    match d.context? with
    | none => some (.ofField d d.spec.globalObject f)
    | some c => some (.ofField d (d.spec.contexts.get c).object f)
  | declareExported f _ =>
    match d.context? with
    | none => some (.ofField d d.spec.globalObject f)
    | some _ => none
  | declareContextField f _ => d.context?.map fun c => .ofField d (d.spec.contexts.get c).object f
  | declareField object f => some (.ofField d object f)
  | declareLoop name _ _ _ _ => some (.ofNew d name.text name.loc)
  | construct (some f) _ _ _ _ => some (.ofVariable d f)
  | parse _ (some f) _ _ _ _ => some (.ofVariable d f)
  | bindFirst (some v) (_ :: _) => some (.ofNew d v.name v.loc)
  | _ => none

namespace Draft

variable {o : Options} {d d' e e' : Draft} {op : Op} {x : Declaration} {f : FieldId}

/-- The scope of a declaration is in its table. -/
theorem Sound.mem_scopes_of_declaration? (hd : d.Sound) (hop : d.Admits op)
    (hx : op.declaration? d = some x) : x.scope ∈ d.spec.scopes := by
  cases op with
  | declareVariable | declareLoop =>
    cases hx
    exact hd.scope
  | declareField =>
    cases hx
    exact hd.closed.rootScope_mem (Spec.covers_handle.1 (List.forall_mem_append.1 hop.1).1)
  | declareGlobal =>
    rw [Op.declaration?] at hx
    split at hx <;> cases hx
    next => exact hd.closed.rootScope_mem hd.globalObject
    next hc => exact hd.closed.rootScope_mem (hd.contextObject (hd.openContext hc))
  | declareExported =>
    rw [Op.declaration?] at hx
    split at hx <;> cases hx
    exact hd.closed.rootScope_mem hd.globalObject
  | declareContextField =>
    obtain ⟨c, hc, rfl⟩ := Option.map_eq_some_iff.1 hx
    exact hd.closed.rootScope_mem (hd.contextObject (hd.openContext hc))
  | construct field =>
    cases field <;> cases hx
    exact hd.scope
  | parse _ field =>
    cases field <;> cases hx
    exact hd.scope
  | bindFirst binder items =>
    cases binder <;> cases items <;> cases hx
    exact hd.scope
  | _ => cases hx

/-! ## Before the scope is asked -/

/-- The draft `e` is what the declaration `x` makes of `d` before it asks its
    scope. It has the field `f` for the name; scopes and their fields are the
    same. -/
structure Prepares (d : Draft) (x : Declaration) (f : FieldId) (e : Draft) : Prop where
  scopes : e.spec.scopes = d.spec.scopes
  diagnostics : e.diagnostics = d.diagnostics
  fields : ∀ g, d.spec.Registered g → e.spec.fields.get g = d.spec.fields.get g
  name : (e.spec.fields.get f).name = x.name
  loc : (e.spec.fields.get f).loc = x.loc
  fresh : ¬d.spec.Registered f
  field : ∀ g ∈ x.field, f = g

/-- The two ends of a declaration. -/
structure Declares (d : Draft) (x : Declaration) (d' : Draft) : Prop where
  fields : ∀ g, d.spec.Registered g → d'.spec.fields.get g = d.spec.fields.get g
  taken : d.isFree x.scope x.name = false → d'.spec.scopes = d.spec.scopes ∧
    d'.diagnostics = d.diagnostics ++ [x.problem.reportedAt x.loc]
  free : d.isFree x.scope x.name = true → d'.diagnostics = d.diagnostics ∧
    ∃ f, ¬d.spec.Registered f ∧ (∀ g ∈ x.field, f = g) ∧ (d'.spec.fields.get f).name = x.name ∧
      d'.spec.scopes = d.spec.scopes.modify x.scope fun c => c.insert x.name f

/-- No field of a scope is different after a change to one that is in no scope. -/
theorem get_modifyField {s : Spec} {change : Field → Field} {g : FieldId}
    (hf : ¬d.spec.Registered f) (hg : d.spec.Registered g) :
    (s.modifyField f change).fields.get g = s.fields.get g := by
  have hne : f ≠ g := fun h => hf (h ▸ hg)
  exact Arena.get_modify_of_ne hne

namespace Prepares

theorem ofVariable (hf : ¬d.spec.Registered f) : d.Prepares (.ofVariable d f) f d :=
  ⟨rfl, rfl, fun _ _ => rfl, rfl, rfl, hf, fun _ hg => Option.some.inj hg⟩

theorem ofField {object : ObjectId} (hf : ¬d.spec.Registered f) :
    d.Prepares (.ofField d object f) f d :=
  ⟨rfl, rfl, fun _ _ => rfl, rfl, rfl, hf, fun _ hg => Option.some.inj hg⟩

/-- Other tables do not matter. -/
theorem aside (h : d.Prepares x f e) (hscopes : e'.spec.scopes = e.spec.scopes)
    (hfields : e'.spec.fields = e.spec.fields) (hdiag : e'.diagnostics = e.diagnostics) :
    d.Prepares x f e' where
  scopes := hscopes.trans h.scopes
  diagnostics := hdiag.trans h.diagnostics
  fields := hfields ▸ h.fields
  name := hfields ▸ h.name
  loc := hfields ▸ h.loc
  fresh := h.fresh
  field := h.field

/-- The field may be changed. -/
theorem modifyField {change : Field → Field} (h : d.Prepares x f e)
    (hname : ∀ y, (change y).name = y.name) (hloc : ∀ y, (change y).loc = y.loc) :
    d.Prepares x f (e.update (·.modifyField f change)) where
  scopes := h.scopes
  diagnostics := h.diagnostics
  fields g hg := (get_modifyField h.fresh hg).trans (h.fields g hg)
  name := (Arena.apply_get_modify hname f).trans h.name
  loc := (Arena.apply_get_modify hloc f).trans h.loc
  fresh := h.fresh
  field := h.field

theorem declareIn {taken : String → Problem} (h : d.Prepares x f e)
    (hproblem : x.problem = taken x.name) : d.Declares x (e.declareIn x.scope f taken) := by
  have hfree : e.isFree x.scope x.name = d.isFree x.scope x.name := by
    rw [isFree, isFree, h.scopes]
  rw [Draft.declareIn, h.name, h.loc, hfree, ← hproblem]
  split
  next hn =>
    refine ⟨h.fields, fun ht => absurd (ht.symm.trans hn) Bool.false_ne_true, fun _ => ?_⟩
    refine ⟨h.diagnostics, f, h.fresh, h.field, h.name, ?_⟩
    rw [← h.name, ← h.scopes]
    rfl
  next hn =>
    refine ⟨h.fields, fun _ => ⟨h.scopes, ?_⟩, fun ht => absurd ht hn⟩
    exact congrArg (· ++ [x.problem.reportedAt x.loc]) h.diagnostics

end Prepares

/-- The field may still be changed once it is in the scope. -/
theorem Declares.modifyField {change : Field → Field} (h : d.Declares x d')
    (hf : ¬d.spec.Registered f) (hname : ∀ y, (change y).name = y.name) :
    d.Declares x (d'.update (·.modifyField f change)) where
  fields g hg := (get_modifyField hf hg).trans (h.fields g hg)
  taken := h.taken
  free hn := by
    obtain ⟨hdiag, g, hg, hx, hgname, hscopes⟩ := h.free hn
    exact ⟨hdiag, g, hg, hx, (Arena.apply_get_modify hname g).trans hgname, hscopes⟩

/-! ## The declarations -/

theorem declares_declareHere (hf : ¬d.spec.Registered f) :
    d.Declares (.ofVariable d f) (d.declareHere f) :=
  (Prepares.ofVariable hf).declareIn rfl

theorem declares_declareField {object : ObjectId} (hf : ¬d.spec.Registered f) :
    d.Declares (.ofField d object f) (d.declareField object f) :=
  (Prepares.ofField hf).declareIn rfl

/-- The field is noted to be one of a context before. -/
theorem declares_placeIn_declareField {c : ContextId} {object : ObjectId}
    (hf : ¬d.spec.Registered f) :
    d.Declares (.ofField d object f) ((d.placeIn c f).declareField object f) := by
  have h : d.Prepares (.ofField d object f) f (d.placeIn c f) :=
    (Prepares.ofField hf).modifyField (fun _ => rfl) fun _ => rfl
  exact h.declareIn rfl

/-- The field is given its type before. -/
theorem declares_declareTyped {type : TypeRef} (h : d.Prepares (.ofVariable d f) f e)
    (hscope : e.scope = d.scope) : d.Declares (.ofVariable d f) (e.declareTyped f type) := by
  have htyped : d.Prepares (.ofVariable d f) f
      (e.update (·.modifyField f fun y => { y with type := some type })) :=
    h.modifyField (fun _ => rfl) fun _ => rfl
  have hdeclares : d.Declares _ (Draft.declareIn _ d.scope f .variableTaken) :=
    htyped.declareIn rfl
  rw [declareTyped, declareHere]
  exact hscope ▸ hdeclares

/-- The field is noted to be exported after, if the global object has taken it. -/
theorem declares_declareExported {init : Option Expr} (hf : ¬d.spec.Registered f)
    (hc : d.context? = none) :
    d.Declares (.ofField d d.spec.globalObject f) (d.declareExported f init).2 := by
  have h : d.Declares _ (d.declareField d.spec.globalObject f) := declares_declareField hf
  rw [declareExported, hc, Option.isSome_none, if_neg Bool.false_ne_true]
  dsimp only
  split
  next => exact h.modifyField hf fun _ => rfl
  next => exact h

/-- A new field is in no scope, since all fields of scopes are in the table. -/
theorem Reachable.prepares_addField (hd : Reachable o d) {name : String} {loc : Location}
    {kind : FieldKind} {type : Option TypeRef} :
    d.Prepares (.ofNew d name loc) d.spec.fields.next
      (d.update (·.addField name loc kind type)) := by
  have hmem : ∀ g, d.spec.Registered g → g ∈ d.spec.fields := fun g ⟨c, hg⟩ =>
    (hd.steps.scopesCoherent.get c).known g hg
  exact
    { scopes := rfl
      diagnostics := rfl
      fields := fun g hg => Arena.get_push_of_mem (hmem g hg)
      name := congrArg Field.name Arena.get_push_next
      loc := congrArg Field.loc Arena.get_push_next
      fresh := fun h => Arena.not_next_mem (hmem _ h)
      field := fun _ hg => nomatch hg }

/-- If the name is taken, no field is made. -/
theorem Reachable.declares_declareNew (hd : Reachable o d) {v : VarRef} {type : Option TypeRef} :
    d.Declares (.ofNew d v.name v.loc) (d.declareNew v type) := by
  have h : d.Prepares (.ofNew d v.name v.loc) d.spec.fields.next
      (d.update (·.addField v.name v.loc .localVar type)) := hd.prepares_addField
  rw [declareNew]
  split
  next hn =>
    have hin : (d.update (·.addField v.name v.loc .localVar type)).declareIn d.scope
        d.spec.fields.next .variableTaken =
          d.update fun s => (s.addField v.name v.loc .localVar type).bindField d.scope
            d.spec.fields.next := by
      rw [declareIn, h.name]
      exact if_pos hn
    exact hin ▸ h.declareIn rfl
  next hn => exact ⟨fun _ _ => rfl, fun _ => ⟨rfl, rfl⟩, fun hfree => absurd hfree hn⟩

theorem Reachable.declares_apply (hd : Reachable o d) (hx : op.declaration? d = some x)
    (hf : ∀ f ∈ x.field, ¬d.spec.Registered f) : d.Declares x (op.apply d) := by
  cases op with
  | declareVariable =>
    cases hx
    exact declares_declareHere (hf _ rfl)
  | declareField =>
    cases hx
    exact declares_declareField (hf _ rfl)
  | declareGlobal f init =>
    rw [Op.declaration?] at hx
    rw [Op.apply, declareGlobal]
    split at hx <;> cases hx
    next hc =>
      rw [hc]
      exact declares_declareField (hf _ rfl)
    next hc =>
      rw [hc]
      exact declares_placeIn_declareField (hf _ rfl)
  | declareExported =>
    rw [Op.declaration?] at hx
    split at hx <;> cases hx
    next hc => exact declares_declareExported (hf _ rfl) hc
  | declareContextField =>
    obtain ⟨c, hc, rfl⟩ := Option.map_eq_some_iff.1 hx
    rw [Op.apply, declareContextField, hc]
    exact declares_placeIn_declareField (hf _ rfl)
  | declareLoop =>
    cases hx
    exact hd.prepares_addField.declareIn rfl
  | construct field =>
    cases field <;> cases hx
    exact declares_declareTyped ((Prepares.ofVariable (hf _ rfl)).aside rfl rfl rfl) rfl
  | parse _ field =>
    cases field <;> cases hx
    exact declares_declareTyped ((Prepares.ofVariable (hf _ rfl)).aside rfl rfl rfl) rfl
  | bindFirst binder items =>
    cases binder <;> cases items <;> cases hx
    exact hd.declares_declareNew
  | _ => cases hx

/-- The name a declaration is about clashes with no name but one of the scope
    that is to have it. If this scope has the name already, one duplicate is
    reported at the place of the declaration, and no scope is different. Otherwise
    nothing is reported, the scope has one field more, the last one, which no
    scope had before, and other scopes are not different. The fields that scopes
    had are the same in both cases. -/
theorem only_the_scope_decides (hd : Reachable o d) (hop : d.Admits op)
    (hx : op.declaration? d = some x) (hf : ∀ f ∈ x.field, ¬d.spec.Registered f) :
    let s := d.spec
    let s' := (op.apply d).spec
    let scope := s.scopes.get x.scope
    (∀ f, s.Registered f → s'.fields.get f = s.fields.get f) ∧
      (scope.member? x.name ≠ none → s'.scopes = s.scopes ∧
        (op.apply d).diagnostics = d.diagnostics ++ [⟨.duplicate, x.loc, x.problem.message⟩]) ∧
      (scope.member? x.name = none → (op.apply d).diagnostics = d.diagnostics ∧
        s'.scopes.size = s.scopes.size ∧ (∀ c ≠ x.scope, s'.scopes.get c = s.scopes.get c) ∧
        ∃ f, (∀ g ∈ x.field, f = g) ∧ ¬s.Registered f ∧ (s'.fields.get f).name = x.name ∧
          s'.scopes.get x.scope =
            { scope with
              fields := scope.fields ++ [f]
              members := ⟨scope.members.entries ++ [(x.name, f)]⟩ }) := by
  intro s s' scope
  have h := hd.declares_apply hx hf
  refine ⟨h.fields, fun hn => ?_, fun hn => ?_⟩
  · have hsome := Option.isSome_iff_ne_none.2 hn
    obtain ⟨hscopes, hdiag⟩ := h.taken (Option.isNone_eq_false_iff.2 hsome)
    refine ⟨hscopes, ?_⟩
    rw [hdiag, Problem.reportedAt, x.isDuplicate]
  · obtain ⟨hdiag, f, hfresh, hfield, hname, hscopes⟩ := h.free (Option.isNone_iff_eq_none.2 hn)
    have hscope : x.scope ∈ s.scopes := hd.sound.mem_scopes_of_declaration? hop hx
    refine ⟨hdiag, ?_, fun c hc => ?_, f, hfield, hfresh, hname, ?_⟩
    · rw [hscopes, Arena.size_modify]
    · rw [hscopes, Arena.get_modify_of_ne hc.symm]
    · rw [hscopes, Arena.get_modify_self hscope, Scope.insert_eq_extend hn]
      rfl

/-- A field with the name of a variable of an outer scope, as a variable of the
    inner scope and as a field of the frame, which has the outer scope. -/
theorem only_the_scope_decides_count :
    let d := (start {}).run
      [ .newField { text := "count" } .localVar none
      , .declareVariable ⟨0⟩ none
      , .openScope
      , .newField { text := "count", loc := ⟨7, 2⟩ } .localVar none ]
    let inner : Op := .declareVariable ⟨1⟩ none
    let outer : Op := .declareField d.frame ⟨1⟩
    Reachable {} d ∧ d.spec.Registered ⟨0⟩ ∧ ¬d.spec.Registered ⟨1⟩ ∧
      (inner.apply d).diagnostics = [] ∧ ((inner.apply d).spec.scopes.get ⟨2⟩).fields = [⟨1⟩] ∧
      (inner.apply d).spec.scopes.get ⟨1⟩ = d.spec.scopes.get ⟨1⟩ ∧
      (outer.apply d).diagnostics =
        [⟨.duplicate, ⟨7, 2⟩, (Problem.fieldTaken "count").message⟩] ∧
      (outer.apply d).spec.scopes = d.spec.scopes := by
  intro d inner outer
  have hd : Reachable {} d := Reachable.start.run (by decide +kernel)
  have hnew : ¬d.spec.Registered ⟨1⟩ := by decide +kernel
  have hnone : d.diagnostics = [] := by decide +kernel
  have hempty : (d.spec.scopes.get ⟨2⟩).fields = [] := by decide +kernel
  let x : Declaration := .ofVariable d ⟨1⟩
  let y : Declaration := .ofField d d.frame ⟨1⟩
  have hfresh {f : FieldId} (hf : f ∈ some (⟨1⟩ : FieldId)) : ¬d.spec.Registered f :=
    Option.some.inj hf ▸ hnew
  have hinner : inner.declaration? d = some x := rfl
  have houter : outer.declaration? d = some y := rfl
  obtain ⟨-, -, hfree⟩ := only_the_scope_decides hd (by decide +kernel) hinner fun _ => hfresh
  obtain ⟨hdiag, -, hothers, f, hfield, -, -, hscope⟩ := hfree (by decide +kernel)
  obtain ⟨-, htaken, -⟩ := only_the_scope_decides hd (by decide +kernel) houter fun _ => hfresh
  obtain ⟨hscopes, hreport⟩ := htaken (by decide +kernel)
  have hx : x.scope = ⟨2⟩ := by decide +kernel
  have hloc : y.loc = ⟨7, 2⟩ := by decide +kernel
  have hproblem : y.problem = .fieldTaken "count" := by decide +kernel
  rw [hx] at hothers hscope
  refine ⟨hd, by decide +kernel, hnew, hdiag.trans hnone, ?_, hothers ⟨1⟩ (by decide), ?_,
    hscopes⟩
  · rw [hscope, hempty, hfield ⟨1⟩ rfl, List.nil_append]
  · rw [hreport, hnone, hloc, hproblem, List.nil_append]

end Draft

end LangSpec
