import LangSpec.Proofs.Endurance
import LangSpec.Proofs.PlainOperations
import LangSpec.Proofs.Reports
import LangSpec.Proofs.Scopes
import LangSpec.Proofs.SettledCaptures

/-!
# Where fields live

What is noted on a field tells where it is found. A field is noted to be
exported only after the global object has taken it. It is noted to be captured
together with an element it captures, when it is a field of the object of a
nonterminal with the production of the element. It is noted to belong to a
context before the object of the context takes it, which may fail; but then this
is reported. Fields keep their names and objects what they have taken, so it
stays so, however often a handle is used again.

* `Spec.FieldOf`: an object has a field;
* `CapturesHoused`: what captures an element is a field of an object that may have
  it;
* `Placed`: what an operation may note on the place of a field;
* `notes_tell_home`: the law.
-/

namespace LangSpec

/-- The field is noted to be captured exactly if it captures an element. -/
def Field.Noted (x : Field) : Prop := x.isCaptured = true ↔ x.sources ≠ []

namespace Spec

variable {s s' : Spec} {o : ObjectId} {f g : FieldId}

/-- The object has the field `f` under its name. -/
def FieldOf (s : Spec) (o : ObjectId) (f : FieldId) : Prop :=
  (s.scopes.get (s.objects.get o).rootScope).member? (s.fields.get f).name = some f

instance (s : Spec) (o : ObjectId) (f : FieldId) : Decidable (s.FieldOf o f) :=
  inferInstanceAs (Decidable (_ = _))

/-- What an object has taken, it keeps. -/
theorem FieldOf.steps (h : s.FieldOf o f) (hs : Steps s s') (hc : s.Closed) (ho : o ∈ s.objects)
    (hf : f ∈ s.fields) : s'.FieldOf o f := by
  have he := hs.endures hc
  have hname : (s'.fields.get f).name = (s.fields.get f).name :=
    congrArg Prod.snd (he.fields f hf).2
  rw [FieldOf, ((hs.stands hc).objects o ho).2, hname]
  exact he.scopes.members _ _ _ h

theorem fieldOf_bindField (hc : (s.objects.get o).rootScope ∈ s.scopes) :
    (s.bindField (s.objects.get o).rootScope f).FieldOf o f :=
  (member?_bindField hc _ _).trans (if_pos ⟨rfl, rfl⟩)

theorem FieldOf.modifyField {change : Field → Field} (h : s.FieldOf o f)
    (hc : ∀ x, (change x).name = x.name) : (s.modifyField g change).FieldOf o f := by
  rw [FieldOf, Spec.modifyField, Arena.apply_get_modify (g := Field.name) hc]
  exact h

/-- No step is taken by another global object. -/
theorem Steps.globalObject (h : Steps s s') (hc : s.Closed) : s'.globalObject = s.globalObject :=
  (h.preserves (Q := fun t => t.globalObject = s.globalObject) hc
    (fun he ht => by cases he <;> exact ht) id (fun hb ht => by cases hb <;> exact ht) id rfl).2

theorem Edit.contexts (h : s.Edit s') : Arena.Retains id s.contexts s'.contexts := by
  cases h with
  | addContext => exact .push
  | _ => exact .refl

/-- Contexts stay as they are. -/
theorem Steps.contexts (h : Steps s s') (hc : s.Closed) :
    Arena.Retains id s.contexts s'.contexts :=
  (h.preserves (Q := fun t => Arena.Retains id s.contexts t.contexts) hc
    (fun he ht => ht.trans he.contexts) id
    (fun hb ht => by cases hb <;> exact ht) id .refl).2

/-! ## Captured elements -/

theorem Edit.noted (h : s.Edit s') (hs : (s.fields.get f).Noted) : (s'.fields.get f).Noted := by
  rw [Field.Noted, h.keeps.isCaptured, h.keeps.sources]
  exact hs

theorem Bind.noted {n : NonterminalId} (h : Bind n s s') (hs : (s.fields.get f).Noted) :
    (s'.fields.get f).Noted := by
  cases h with
  | own | setCapture | bindField => exact hs
  | addSource r =>
    have hadd (x : Field) (_ : x.Noted) :
        Field.Noted { x with isCaptured := true, sources := x.sources ++ [r] } :=
      iff_of_true rfl (List.append_ne_nil_of_right_ne_nil _ (List.cons_ne_nil _ _))
    exact Arena.get_modify_of_imp hadd hs
  | typed =>
    refine Arena.get_modify_of_imp (p := Field.Noted) ?_ hs
    exact fun _ hx => hx

theorem Steps.noted {o : Options} (h : Steps (initial o) s) (f : FieldId) :
    (s.fields.get f).Noted :=
  (h.preserves (Q := fun t => (t.fields.get f).Noted) (closed_initial o) Edit.noted id Bind.noted
    id (iff_of_false Bool.false_ne_true (not_not_intro rfl))).2

/-- Every field that captures an element is found under its name in a scope that
    may have the element. -/
def Housed (s : Spec) (may : ScopeId → ElementRef → Prop) : Prop :=
  ∀ f, ∀ r ∈ (s.fields.get f).sources,
    ∃ c, may c r ∧ (s.scopes.get c).member? (s.fields.get f).name = some f

/-- The scope is the root scope of an object whose nonterminal has the production
    of the element among its alternatives. -/
def MayHave (s : Spec) (c : ScopeId) (r : ElementRef) : Prop :=
  ∃ n x, s.nonterminals.get? n = some x ∧ r.production ∈ x.alternatives ∧
    (s.objects.get x.object).rootScope = c

namespace Housed

variable {may may' : ScopeId → ElementRef → Prop}

theorem imp (h : s.Housed may) (hmay : ∀ c r, may c r → may' c r) : s.Housed may' := by
  intro f r hr
  obtain ⟨c, hc, hm⟩ := h f r hr
  exact ⟨c, hmay c r hc, hm⟩

theorem keeps (h : s.Housed may) (hk : Keeps s s') : s'.Housed may := by
  intro f r hr
  rw [hk.sources] at hr
  obtain ⟨c, hc, hm⟩ := h f r hr
  -- A field with a source is in its table.
  have hf : f ∈ s.fields := by
    by_contra hf
    rw [Arena.get_of_not_mem hf] at hr
    exact absurd hr List.not_mem_nil
  exact ⟨c, hc, hk.name f hf ▸ hk.member c _ f hm⟩

/-- The field an element is bound to is found in the scope. -/
theorem attaches {scope : ScopeId} {r : ElementRef} {g : FieldId} (h : s.Housed may)
    (hb : Attaches s s' scope r g) (hr : may scope r) : s'.Housed may := by
  intro f r' hr'
  rw [hb.name]
  rw [hb.sources, List.mem_append] at hr'
  rcases hr' with hr' | hr'
  · obtain ⟨c, hc, hm⟩ := h f r' hr'
    exact ⟨c, hc, hb.staysMember _ _ _ hm⟩
  · split at hr'
    next e =>
      rw [List.mem_singleton.1 hr', e]
      exact ⟨scope, hr, hb.member⟩
    next => exact absurd hr' List.not_mem_nil

end Housed

/-- What captures an element is a field of the object of a nonterminal with its
    production. -/
def CapturesHoused (s : Spec) : Prop := s.Housed s.MayHave

namespace CapturesHoused

theorem edit (h : s.CapturesHoused) (hc : s.Closed) (he : s.Edit s') : s'.CapturesHoused := by
  have hk := he.keeps
  refine (Housed.keeps h hk).imp ?_
  rintro c r ⟨n, x, hx, hr, hroot⟩
  refine ⟨n, x, hk.nonterminals ▸ hx, hr, ?_⟩
  rw [hk.rootScope _ (hc.object_mem hx), hroot]

theorem addNonterminal (h : s.CapturesHoused) (hc : s.Closed)
    (hnamed : ScopesNamed s.scopes s.fields) {n : Nonterminal} (hn : n.FitsIn s) :
    (s.addNonterminal n).CapturesHoused := by
  have hb := binds_bindAlternatives hc hn
  have hobjects : (s.bindAlternatives n).objects = s.objects := Binds.eq hb Bind.objects
  have hnonterminals : (s.bindAlternatives n).nonterminals = s.nonterminals :=
    Binds.eq hb Bind.nonterminals
  let may (c : ScopeId) (r : ElementRef) : Prop :=
    s.MayHave c r ∨ (r.production ∈ n.alternatives ∧ (s.objects.get n.object).rootScope = c)
  have hbound : (s.bindAlternatives n).Housed may := by
    rw [bindAlternatives_eq]
    have hlinked := Housed.keeps h (keeps_linkAlternatives n.alternatives s.nonterminals.next)
    refine (bindable_linkAlternatives hc hnamed hn).preserves (Q := (·.Housed may)) ?_
      (hlinked.imp fun _ _ => .inl)
    exact fun c hcap _ _ _ hb hs => hs.attaches hb (.inr ⟨(hc.captures hn hcap).1, rfl⟩)
  rw [addNonterminal_eq hc hn]
  -- The nonterminal is entered last, and it is then one of all.
  intro f r hr
  obtain ⟨c, hmay, hm⟩ := hbound f r hr
  refine ⟨c, ?_, hm⟩
  rw [MayHave, enlist, hnonterminals, hobjects]
  rcases hmay with ⟨m, x, hx, hr, hroot⟩ | ⟨hr, hroot⟩
  · exact ⟨m, x, Arena.get?_push_of_get? hx, hr, hroot⟩
  · exact ⟨_, _, Arena.get?_push_next _ _, hr, hroot⟩

end CapturesHoused

theorem Steps.capturesHoused {o : Options} (h : Steps (initial o) s) : s.CapturesHoused := by
  suffices s.Closed ∧ s.CapturesHoused from this.2
  induction h with
  | refl => exact ⟨closed_initial o, fun _ _ hr => absurd hr List.not_mem_nil⟩
  | tail hs h ih =>
    obtain ⟨hc, ih⟩ := ih
    refine ⟨h.closed hc, ?_⟩
    cases h with
    | edit he => exact ih.edit hc he
    | production _ => exact ih
    | nonterminal hn => exact ih.addNonterminal hc (Steps.capturesSettled hs).named hn

end Spec

namespace Draft

variable {o : Options} {d d' : Draft} {op : Op} {f g : FieldId}

/-! ## Exported fields and fields of contexts -/

/-- What happens to the place of the field `f` between two drafts, if anything
    does. -/
inductive Placed (d d' : Draft) (f : FieldId) : Prop
  | kept (h : (d'.spec.fields.get f).place = (d.spec.fields.get f).place)
  /-- The global object has the field, and it is exported. -/
  | exported (h : (d'.spec.fields.get f).place = (true, (d.spec.fields.get f).context))
      (hf : d'.spec.FieldOf d'.spec.globalObject f)
  /-- The object of a context has the field, unless this was reported. -/
  | within {c : ContextId} (hc : c ∈ d'.spec.contexts)
      (h : (d'.spec.fields.get f).place = ((d.spec.fields.get f).isExported, some c))
      (hf : d'.diagnostics = [] → d'.spec.FieldOf (d'.spec.contexts.get c).object f)

theorem place_declareIn {scope : ScopeId} {taken : String → Problem} :
    ((d.declareIn scope f taken).spec.fields.get g).place = (d.spec.fields.get g).place :=
  plain_declareIn.place g

/-- A field is declared under a free name, or this is reported. -/
theorem declareIn_cases (d : Draft) (scope : ScopeId) (f : FieldId) (taken : String → Problem) :
    d.isFree scope (d.spec.fields.get f).name = true ∧
        d.declareIn scope f taken = d.update (·.bindField scope f) ∨
      d.isFree scope (d.spec.fields.get f).name = false ∧
        ∃ p loc, d.declareIn scope f taken = d.report p loc := by
  rw [declareIn]
  cases d.isFree scope (d.spec.fields.get f).name with
  | true => exact .inl ⟨rfl, rfl⟩
  | false => exact .inr ⟨rfl, _, _, rfl⟩

theorem placed_placeIn_declareField (hd : d.Sound) {c : ContextId} (hc : c ∈ d.spec.contexts)
    (hg : g ∈ d.spec.fields) :
    d.Placed ((d.placeIn c g).declareField (d.spec.contexts.get c).object g) f := by
  by_cases e : g = f
  · subst e
    have hplace : ((d.placeIn c g).spec.fields.get g).place =
        ((d.spec.fields.get g).isExported, some c) :=
      congrArg Field.place (Arena.get_modify_self hg)
    rw [declareField]
    rcases declareIn_cases (d.placeIn c g) _ g .fieldTaken with ⟨-, h⟩ | ⟨-, p, loc, h⟩
    · rw [h]
      exact .within hc hplace fun _ =>
        Spec.fieldOf_bindField (s := (d.placeIn c g).spec)
          (hd.closed.rootScope_mem (hd.contextObject hc))
    · rw [h]
      exact .within hc hplace fun hdiag => absurd hdiag diagnostics_report_ne_nil
  · exact .kept (place_declareIn.trans (congrArg Field.place (Arena.get_modify_of_ne e)))

theorem placed_declareGlobal (hd : d.Sound) {init : Option Expr} (hg : g ∈ d.spec.fields) :
    d.Placed (d.declareGlobal g init).2 f := by
  rw [declareGlobal]
  cases hc : d.context? with
  | none => exact .kept place_declareIn
  | some c => exact placed_placeIn_declareField hd (hd.openContext hc) hg

theorem placed_declareExported (hd : d.Sound) {init : Option Expr} (hg : g ∈ d.spec.fields) :
    d.Placed (d.declareExported g init).2 f := by
  rw [declareExported, declareField]
  split
  next => exact .kept rfl
  next =>
    dsimp only
    rcases declareIn_cases d _ g .fieldTaken with ⟨hfree, h⟩ | ⟨hfree, p, loc, h⟩
    · rw [h, hfree, if_pos rfl]
      by_cases e : g = f
      · subst e
        have hroot := hd.closed.rootScope_mem hd.globalObject
        have hexported := Arena.get_modify_self (a := d.spec.fields) hg
          (f := fun x => { x with isExported := true })
        have hof : (d.spec.bindField _ g).FieldOf d.spec.globalObject g :=
          Spec.fieldOf_bindField hroot
        exact .exported (congrArg Field.place hexported) (hof.modifyField fun _ => rfl)
      · exact .kept (congrArg Field.place (Arena.get_modify_of_ne e))
    · rw [h, hfree]
      exact .kept rfl

theorem placed_declareContextField (hd : d.Sound) {loc : Location} (hg : g ∈ d.spec.fields) :
    d.Placed (d.declareContextField g loc).2 f := by
  rw [declareContextField]
  cases hc : d.context? with
  | none => exact .kept rfl
  | some c => exact placed_placeIn_declareField hd (hd.openContext hc) hg

theorem Sound.placed_apply (hd : d.Sound) (hop : d.Admits op) (f : FieldId) :
    d.Placed (op.apply d) f := by
  have hh := hop.1
  cases op with
  | declareGlobal g init =>
    exact placed_declareGlobal hd (Spec.covers_handle.1 (List.forall_mem_append.1 hh).1)
  | declareExported g init =>
    exact placed_declareExported hd (Spec.covers_handle.1 (List.forall_mem_append.1 hh).1)
  | declareContextField g loc => exact placed_declareContextField hd (Spec.covers_handle.1 hh)
  | _ => exact .kept (hd.place_apply hop rfl f)

/-- A field with a place is in its table. -/
theorem mem_fields_of_place {s : Spec} (h : (s.fields.get f).place ≠ (false, none)) :
    f ∈ s.fields := by
  by_contra hf
  rw [Arena.get_of_not_mem hf] at h
  exact h rfl

/-- Fields are found where their places tell: exported ones in the global object,
    and those of contexts, if nothing was reported, in the objects of these. -/
structure PlacesHold (d : Draft) : Prop where
  exported : ∀ f, (d.spec.fields.get f).isExported = true →
    d.spec.FieldOf d.spec.globalObject f
  within : d.diagnostics = [] → ∀ f c, (d.spec.fields.get f).context = some c →
    c ∈ d.spec.contexts ∧ d.spec.FieldOf (d.spec.contexts.get c).object f

namespace PlacesHold

theorem exported_apply (h : d.PlacesHold) (hd : d.Sound) (hop : d.Admits op)
    (hf : ((op.apply d).spec.fields.get f).isExported = true) :
    (op.apply d).spec.FieldOf (op.apply d).spec.globalObject f := by
  have hsteps := (hd.effect hop).steps
  -- A field exported before is still where it was.
  have hstay (he : (d.spec.fields.get f).isExported = true) :
      (op.apply d).spec.FieldOf (op.apply d).spec.globalObject f := by
    have hmem : f ∈ d.spec.fields :=
      mem_fields_of_place fun hp => Bool.false_ne_true ((congrArg Prod.fst hp).symm.trans he)
    rw [hsteps.globalObject hd.closed]
    exact (h.exported f he).steps hsteps hd.closed hd.globalObject hmem
  cases hd.placed_apply hop f with
  | kept hk => exact hstay ((congrArg Prod.fst hk).symm.trans hf)
  | exported _ hof => exact hof
  | within _ hk _ => exact hstay ((congrArg Prod.fst hk).symm.trans hf)

theorem within_apply (h : d.PlacesHold) (hd : d.Sound) (hop : d.Admits op)
    (hdiag : (op.apply d).diagnostics = []) {c : ContextId}
    (hf : ((op.apply d).spec.fields.get f).context = some c) :
    c ∈ (op.apply d).spec.contexts ∧
      (op.apply d).spec.FieldOf ((op.apply d).spec.contexts.get c).object f := by
  have hsteps := (hd.effect hop).steps
  -- A field of a context is still where it was.
  have hstay (he : (d.spec.fields.get f).context = some c) :
      c ∈ (op.apply d).spec.contexts ∧
        (op.apply d).spec.FieldOf ((op.apply d).spec.contexts.get c).object f := by
    have hrun : (d.run [op]).diagnostics = [] := hdiag
    obtain ⟨hc, hof⟩ := h.within (diagnostics_eq_nil hrun) f c he
    have hmem : f ∈ d.spec.fields :=
      mem_fields_of_place fun hp => nomatch (congrArg Prod.snd hp).symm.trans he
    obtain ⟨hc', hget⟩ := hsteps.contexts hd.closed c hc
    have hget : (op.apply d).spec.contexts.get c = d.spec.contexts.get c := hget
    rw [hget]
    exact ⟨hc', hof.steps hsteps hd.closed (hd.contextObject hc) hmem⟩
  cases hd.placed_apply hop f with
  | kept hk => exact hstay ((congrArg Prod.snd hk).symm.trans hf)
  | exported hk _ => exact hstay ((congrArg Prod.snd hk).symm.trans hf)
  | within hc hk hof =>
    obtain rfl := Option.some.inj ((congrArg Prod.snd hk).symm.trans hf)
    exact ⟨hc, hof hdiag⟩

end PlacesHold

theorem Reachable.placesHold (hd : Reachable o d) : d.PlacesHold := by
  induction hd with
  | start => exact ⟨fun _ hf => absurd hf Bool.false_ne_true, fun _ _ _ hf => nomatch hf⟩
  | step hd hop ih =>
    exact ⟨fun _ => ih.exported_apply hd.sound hop, fun hdiag _ _ =>
      ih.within_apply hd.sound hop hdiag⟩

/-- What is noted on a field tells where it lives, in every draft. An exported
    field is one of the global object. A field is noted to be captured exactly if
    it has sources, and it is a field of the objects of the nonterminals that
    these come from. Where nothing was reported, a field of a context is one of
    the object of the context. -/
theorem notes_tell_home (hd : Reachable o d) :
    let s := d.spec
    (∀ f, (s.fields.get f).isExported = true → s.FieldOf s.globalObject f) ∧
      (∀ f, (s.fields.get f).isCaptured = true ↔ (s.fields.get f).sources ≠ []) ∧
      (∀ f p i, ⟨p, i⟩ ∈ (s.fields.get f).sources →
        ∃ n x, s.nonterminals.get? n = some x ∧ p ∈ x.alternatives ∧ s.FieldOf x.object f) ∧
      (d.diagnostics = [] → ∀ f c, (s.fields.get f).context = some c →
        c ∈ s.contexts ∧ s.FieldOf (s.contexts.get c).object f) := by
  refine ⟨hd.placesHold.exported, hd.steps.noted, fun f p i hr => ?_, hd.placesHold.within⟩
  obtain ⟨c, ⟨n, x, hx, hp, rfl⟩, hm⟩ := hd.steps.capturesHoused f ⟨p, i⟩ hr
  exact ⟨n, x, hx, hp, hm⟩

/-- Fields of a context, one of which is exported later on, and captured ones. -/
theorem notes_tell_home_sums :
    let d := (start {}).run (Op.sums ++
      [ .openContext { text := "words" }
      , .newField { text := "count" } .userField none
      , .declareGlobal ⟨2⟩ none
      , .newField { text := "last" } .userField none
      , .declareContextField ⟨3⟩ ⟨9, 0⟩
      , .closeContext
      , .declareExported ⟨2⟩ none ])
    let s := d.spec
    Reachable {} d ∧ d.diagnostics = [] ∧
      (s.fields.get ⟨0⟩).sources = [⟨⟨0⟩, 0⟩, ⟨⟨1⟩, 0⟩] ∧
      (s.fields.get ⟨2⟩).place = (true, some ⟨0⟩) ∧ (s.fields.get ⟨3⟩).place = (false, some ⟨0⟩) ∧
      s.FieldOf s.globalObject ⟨2⟩ ∧ s.FieldOf (s.contexts.get ⟨0⟩).object ⟨2⟩ ∧
      s.FieldOf (s.contexts.get ⟨0⟩).object ⟨3⟩ ∧ (s.fields.get ⟨0⟩).isCaptured = true ∧
      ∃ n x, s.nonterminals.get? n = some x ∧ ⟨1⟩ ∈ x.alternatives ∧ s.FieldOf x.object ⟨0⟩ := by
  intro d s
  have hd : Reachable {} d := Reachable.start.run (by decide +kernel)
  have hdiag : d.diagnostics = [] := by decide +kernel
  have hsources : (s.fields.get ⟨0⟩).sources = [⟨⟨0⟩, 0⟩, ⟨⟨1⟩, 0⟩] := by decide +kernel
  have hcount : (s.fields.get ⟨2⟩).place = (true, some ⟨0⟩) := by decide +kernel
  have hlast : (s.fields.get ⟨3⟩).place = (false, some ⟨0⟩) := by decide +kernel
  obtain ⟨hexported, hcaptured, hsource, hwithin⟩ := notes_tell_home hd
  refine ⟨hd, hdiag, hsources, hcount, hlast, ?_, ?_, ?_, ?_, ?_⟩
  · exact hexported ⟨2⟩ (congrArg Prod.fst hcount)
  · exact (hwithin hdiag ⟨2⟩ ⟨0⟩ (congrArg Prod.snd hcount)).2
  · exact (hwithin hdiag ⟨3⟩ ⟨0⟩ (congrArg Prod.snd hlast)).2
  · exact (hcaptured ⟨0⟩).2 (hsources ▸ List.cons_ne_nil _ _)
  · exact hsource ⟨0⟩ ⟨1⟩ 0 (hsources ▸ List.mem_cons_of_mem _ List.mem_cons_self)

end Draft

end LangSpec
