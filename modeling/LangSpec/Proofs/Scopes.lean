import LangSpec.Proofs.Course

/-!
# Scopes and their objects

A scope belongs to an object: the root scope of an object to this object, and a
scope within another one to the object of that one. Once it is there, neither
the scope around it nor the object it belongs to changes, and objects keep their
root scopes. So the scope of the code being written belongs to the frame of the
code, whatever is opened and closed in whatever order.

* `Stands`: what no walk changes about scopes and objects;
* `ScopesOwned`: whom scopes belong to;
* `position_apply`, `code_apply`: which operations stay where they are;
* `Reachable.owner_scope`: the current scope belongs to the current frame.
-/

namespace LangSpec

/-- The operation opens or closes a frame or a scope. -/
def Op.movesCode : Op → Bool
  | openFrame | closeFrame | openScope | closeScope => true
  | _ => false

/-- Where a scope stands: in which scope, and in which object. -/
def Scope.place (c : Scope) : Option ScopeId × ObjectId := (c.parent, c.owner)

/-- Root scopes belong to their objects, and scopes within another one to the
    object of that one. -/
structure ScopesOwned (objects : Arena .objects Object) (scopes : Arena .scopes Scope) : Prop where
  root : objects.Forall fun o x => x.rootScope ∈ scopes ∧ (scopes.get x.rootScope).owner = o
  parent : scopes.Forall fun _ x =>
    ∀ p, x.parent = some p → p ∈ scopes ∧ (scopes.get p).owner = x.owner

namespace ScopesOwned

variable {objects : Arena .objects Object} {scopes : Arena .scopes Scope}

theorem pushObject {x : Object} (h : ScopesOwned objects scopes) (hx : x.rootScope ∈ scopes)
    (howner : (scopes.get x.rootScope).owner = objects.next) :
    ScopesOwned (objects.push x) scopes where
  root := Arena.Forall.push h.root ⟨hx, howner⟩
  parent := h.parent

theorem modifyObject {o : ObjectId} {f : Object → Object} (h : ScopesOwned objects scopes)
    (hf : ∀ x, (f x).rootScope = x.rootScope) : ScopesOwned (objects.modify o f) scopes where
  root := Arena.Forall.modify h.root fun x _ hx => hf x ▸ hx
  parent := h.parent

/-- Scopes that stay in their places, whatever comes with them. -/
theorem relocate {scopes' : Arena .scopes Scope} (h : ScopesOwned objects scopes)
    (hr : Arena.Retains Scope.place scopes scopes')
    (hp : scopes'.Forall fun _ x => ∀ p, x.parent = some p → p ∈ scopes ∧
      (scopes.get p).owner = x.owner) : ScopesOwned objects scopes' := by
  have hold {p : ScopeId} {o : ObjectId} (hp : p ∈ scopes ∧ (scopes.get p).owner = o) :
      p ∈ scopes' ∧ (scopes'.get p).owner = o := by
    obtain ⟨hmem, hplace⟩ := hr p hp.1
    exact ⟨hmem, (congrArg Prod.snd hplace).trans hp.2⟩
  exact ⟨fun o x hx => hold (h.root o x hx), fun c x hx p hpar => hold (hp c x hx p hpar)⟩

theorem pushScope {x : Scope} (h : ScopesOwned objects scopes)
    (hx : ∀ p, x.parent = some p → p ∈ scopes ∧ (scopes.get p).owner = x.owner) :
    ScopesOwned objects (scopes.push x) :=
  h.relocate .push (Arena.Forall.push h.parent hx)

theorem modifyScope {c : ScopeId} {f : Scope → Scope} (h : ScopesOwned objects scopes)
    (hf : ∀ x, (f x).place = x.place) : ScopesOwned objects (scopes.modify c f) := by
  refine h.relocate (.modify hf) (Arena.Forall.modify h.parent fun x _ hx => ?_)
  obtain ⟨hparent, howner⟩ := Prod.mk.inj (hf x)
  rw [hparent, howner]
  exact hx

end ScopesOwned

namespace Spec

variable {s s' s'' : Spec}

/-! ## What no walk changes -/

/-- The root frame is the same, objects have the same root scopes, and scopes
    stand in the same places. -/
structure Stands (s s' : Spec) : Prop where
  rootFrame : s'.rootFrame = s.rootFrame
  objects : Arena.Retains Object.rootScope s.objects s'.objects
  scopes : Arena.Retains Scope.place s.scopes s'.scopes

namespace Stands

theorem refl : Stands s s := ⟨rfl, .refl, .refl⟩

theorem trans (h : Stands s s') (h' : Stands s' s'') : Stands s s'' :=
  ⟨h'.rootFrame.trans h.rootFrame, h.objects.trans h'.objects, h.scopes.trans h'.scopes⟩

theorem of_eq (hf : s'.rootFrame = s.rootFrame) (ho : s'.objects = s.objects)
    (hc : s'.scopes = s.scopes) : Stands s s' :=
  ⟨hf, ho ▸ .refl, hc ▸ .refl⟩

theorem parent (h : Stands s s') {c : ScopeId} (hc : c ∈ s.scopes) :
    (s'.scopes.get c).parent = (s.scopes.get c).parent :=
  congrArg Prod.fst (h.scopes c hc).2

theorem owner (h : Stands s s') {c : ScopeId} (hc : c ∈ s.scopes) :
    (s'.scopes.get c).owner = (s.scopes.get c).owner :=
  congrArg Prod.snd (h.scopes c hc).2

end Stands

theorem Edit.stands (h : s.Edit s') : Stands s s' := by
  cases h with
  | addObject => exact ⟨rfl, .push, .push⟩
  | addScope => exact ⟨rfl, .modify fun _ => rfl, Arena.Retains.push.trans (.modify fun _ => rfl)⟩
  | bindField => exact ⟨rfl, .refl, .modify fun _ => rfl⟩
  | _ => exact .of_eq rfl rfl rfl

theorem Bind.stands {n : NonterminalId} (h : Bind n s s') : Stands s s' := by
  cases h with
  | bindField => exact ⟨rfl, .refl, .modify fun _ => rfl⟩
  | own | setCapture | addSource | typed => exact .of_eq rfl rfl rfl

theorem Steps.stands (h : Steps s s') (hc : s.Closed) : Stands s s' :=
  (h.preserves (Q := Stands s) hc (fun he hs => hs.trans he.stands)
    (fun hs => hs.trans (.of_eq rfl rfl rfl)) (fun hb hs => hs.trans hb.stands)
    (fun hs => hs.trans (.of_eq rfl rfl rfl)) .refl).2

/-! ## Whom scopes belong to -/

theorem scopesOwned_addObject {kind : ObjectKind} {name : String}
    (hs : ScopesOwned s.objects s.scopes) :
    ScopesOwned (s.addObject kind name).objects (s.addObject kind name).scopes := by
  refine ScopesOwned.pushObject (hs.pushScope ?_) Arena.next_mem_push ?_
  · exact fun _ hp => absurd hp.symm (Option.some_ne_none _)
  · exact congrArg Scope.owner Arena.get_push_next

theorem scopesOwned_addScope {parent : ScopeId} (hs : ScopesOwned s.objects s.scopes)
    (hp : parent ∈ s.scopes) :
    ScopesOwned (s.addScope parent).objects (s.addScope parent).scopes := by
  refine ScopesOwned.modifyObject (ScopesOwned.modifyScope (hs.pushScope ?_) fun _ => rfl)
    fun _ => rfl
  intro p hpar
  cases hpar
  exact ⟨hp, rfl⟩

theorem Edit.scopesOwned (h : s.Edit s') (hs : ScopesOwned s.objects s.scopes) :
    ScopesOwned s'.objects s'.scopes := by
  cases h with
  | addObject => exact scopesOwned_addObject hs
  | addScope hp => exact scopesOwned_addScope hs hp
  | bindField => exact hs.modifyScope fun _ => rfl
  | _ => exact hs

theorem Bind.scopesOwned {n : NonterminalId} (h : Bind n s s')
    (hs : ScopesOwned s.objects s.scopes) : ScopesOwned s'.objects s'.scopes := by
  cases h with
  | bindField => exact hs.modifyScope fun _ => rfl
  | own | setCapture | addSource | typed => exact hs

theorem Steps.scopesOwned {o : Options} (h : Steps (initial o) s) :
    ScopesOwned s.objects s.scopes := by
  have hinitial : ScopesOwned (initial o).objects (initial o).scopes := by
    refine scopesOwned_addObject (scopesOwned_addObject ⟨?_, ?_⟩)
    · exact Arena.Forall.empty
    · exact Arena.Forall.empty
  exact (h.preserves (Q := fun s => ScopesOwned s.objects s.scopes) (closed_initial o)
    Edit.scopesOwned id Bind.scopesOwned id hinitial).2

end Spec

namespace Draft

variable {o : Options} {d d' : Draft} {op : Op}

/-! ## Where the writing stands -/

/-- Where the writing stands. -/
structure Position where
  /-- The open namespaces within the root, innermost first. -/
  openNamespaces : List NamespaceId
  /-- The open scanners, innermost first. -/
  openScanners : List ScannerId
  /-- The open contexts, innermost first. -/
  openContexts : List ContextId
  /-- The frame of the code. -/
  frame : ObjectId
  /-- The scope of the code. -/
  scope : ScopeId
deriving DecidableEq

/-- Where the writing stands in the draft. -/
def position (d : Draft) : Position :=
  { openNamespaces := d.openNamespaces
    openScanners := d.openScanners
    openContexts := d.openContexts
    frame := d.frame
    scope := d.scope }

theorem Leads.position (h : d.Leads d') : d'.position = d.position := by
  cases h
  rfl

/-- An operation that opens or closes nothing stays where it is. -/
theorem Sound.position_apply (hd : d.Sound) (hop : d.Admits op) (hb : op.isBracket = false) :
    (op.apply d).position = d.position := by
  cases hr : op.isRule with
  | false => exact (hd.leads_apply hop hb hr).position
  | true =>
    cases op with
    | newProduction | declareNonterminal => rfl
    | _ => exact nomatch hr

/-! ### Opening and closing -/

theorem position_openNamespace (d : Draft) (name : Name) :
    (d.openNamespace name).2.position =
      { d.position with openNamespaces := (d.openNamespace name).1 :: d.openNamespaces } := by
  rw [openNamespace]
  split <;> rfl

theorem position_closeNamespace (d : Draft) :
    d.closeNamespace.2.position =
      { d.position with openNamespaces := d.openNamespaces.tail } := by
  rw [closeNamespace]
  split
  next hn => rw [hn, List.tail_nil, ← hn, position]
  next hn => rw [hn, List.tail_cons, position, position]

theorem position_closeScanner (d : Draft) :
    d.closeScanner.2.position = { d.position with openScanners := d.openScanners.tail } := by
  rw [closeScanner]
  split
  next hn => rw [hn, List.tail_nil, ← hn, position]
  next hn => rw [hn, List.tail_cons, position, position]

/-- A context is opened after its namespace. -/
theorem position_openContext (d : Draft) (name : Name) :
    (d.openContext name).2.position =
      { d.position with
        openNamespaces := (d.openNamespace name).1 :: d.openNamespaces
        openContexts := (d.openContext name).1 :: d.openContexts } := by
  have hn := position_openNamespace d name
  have h : (d.openContext name).2.position =
      { (d.openNamespace name).2.position with
        openContexts := (d.openContext name).1 :: (d.openNamespace name).2.openContexts } := rfl
  have hc : (d.openNamespace name).2.openContexts = d.openContexts :=
    congrArg Position.openContexts hn
  rw [h, hn, hc]

theorem position_closeContext (d : Draft) :
    d.closeContext.2.position =
      if d.openContexts = [] then d.position
      else
        { d.position with
          openNamespaces := d.openNamespaces.tail
          openContexts := d.openContexts.tail } := by
  rw [closeContext]
  split
  next hc => rw [if_pos hc]
  next c cs hc =>
    rw [if_neg (hc ▸ List.cons_ne_nil c cs), hc, List.tail_cons]
    exact position_closeNamespace _

theorem position_closeFrame (d : Draft) :
    d.closeFrame.position =
      { d.position with
        frame := d.spec.rootFrame
        scope := (d.spec.objects.get d.spec.rootFrame).rootScope } := rfl

theorem position_closeScope (d : Draft) :
    d.closeScope.2.position =
      { d.position with scope := (d.spec.scopes.get d.scope).parent.getD d.scope } := by
  rw [closeScope]
  split
  next hp => rw [hp, Option.getD_none, position]
  next hp => rw [hp, Option.getD_some, position, position]

/-- An operation that opens or closes no frame and no scope stays with the frame
    and the scope of the code. -/
theorem Sound.code_apply (hd : d.Sound) (hop : d.Admits op) (hm : op.movesCode = false) :
    (op.apply d).frame = d.frame ∧ (op.apply d).scope = d.scope := by
  have stay {q : Position} (hq : (op.apply d).position = q) (hf : q.frame = d.frame)
      (hc : q.scope = d.scope) : (op.apply d).frame = d.frame ∧ (op.apply d).scope = d.scope :=
    ⟨(congrArg Position.frame hq).trans hf, (congrArg Position.scope hq).trans hc⟩
  cases op with
  | openFrame | closeFrame | openScope | closeScope => exact nomatch hm
  | openNamespace name => exact stay (position_openNamespace d name) rfl rfl
  | closeNamespace => exact stay (position_closeNamespace d) rfl rfl
  | openScanner loc => exact ⟨rfl, rfl⟩
  | closeScanner => exact stay (position_closeScanner d) rfl rfl
  | openContext name => exact stay (position_openContext d name) rfl rfl
  | closeContext =>
    refine stay (position_closeContext d) ?_ ?_
    all_goals split <;> rfl
  | _ => exact stay (hd.position_apply hop rfl) rfl rfl

theorem parent_openScope (d : Draft) :
    (d.openScope.2.spec.scopes.get d.openScope.2.scope).parent = some d.scope := by
  refine (Arena.apply_get_modify (g := Scope.parent) (by intro; rfl) d.spec.scopes.next).trans ?_
  rw [Arena.get_push_next]

theorem owner_openScope (d : Draft) :
    (d.openScope.2.spec.scopes.get d.openScope.2.scope).owner =
      (d.spec.scopes.get d.scope).owner := by
  refine (Arena.apply_get_modify (g := Scope.owner) (by intro; rfl) d.spec.scopes.next).trans ?_
  rw [Arena.get_push_next]

theorem Reachable.stands_apply (hd : Reachable o d) (hop : d.Admits op) :
    d.spec.Stands (op.apply d).spec :=
  (hd.sound.effect hop).steps.stands hd.sound.closed

theorem Reachable.scopesOwned (hd : Reachable o d) :
    ScopesOwned d.spec.objects d.spec.scopes := hd.steps.scopesOwned

/-- The root scope of an object belongs to it. -/
theorem Reachable.owner_rootScope (hd : Reachable o d) {x : ObjectId} (hx : x ∈ d.spec.objects) :
    (d.spec.scopes.get (d.spec.objects.get x).rootScope).owner = x :=
  (hd.scopesOwned.root x _ (Arena.get?_eq_some_get hx)).2

theorem Reachable.rootFrame_mem (hd : Reachable o d) : d.spec.rootFrame ∈ d.spec.objects :=
  Spec.covers_handle.1 hd.sound.closed.all.rootFrame

/-- The scope of the code belongs to the frame of the code. -/
theorem Reachable.owner_scope (hd : Reachable o d) :
    (d.spec.scopes.get d.scope).owner = d.frame := by
  induction hd with
  | start => rfl
  | @step d op hd hop ih =>
    -- While frame and scope stay, the scope stays with its owner.
    have stay (hf : (op.apply d).frame = d.frame) (hc : (op.apply d).scope = d.scope) :
        ((op.apply d).spec.scopes.get (op.apply d).scope).owner = (op.apply d).frame := by
      rw [hf, hc, (hd.stands_apply hop).owner hd.sound.scope, ih]
    cases op with
    | openFrame => exact congrArg Scope.owner Arena.get_push_next
    | closeFrame => exact hd.owner_rootScope hd.rootFrame_mem
    | openScope => exact (owner_openScope d).trans ih
    | closeScope =>
      cases hp : (d.spec.scopes.get d.scope).parent with
      | none =>
        have hscope := congrArg Position.scope (position_closeScope d)
        rw [hp] at hscope
        exact stay (congrArg Position.frame (position_closeScope d)) hscope
      | some parent =>
        -- The scope around the current one belongs to the same object.
        have hclose : Op.apply d .closeScope = { d with scope := parent } := by
          rw [Op.apply, closeScope, hp]
        rw [hclose]
        have hcurrent := Arena.get?_eq_some_get hd.sound.scope
        exact (hd.scopesOwned.parent _ _ hcurrent parent hp).2.trans ih
    | _ =>
      obtain ⟨hf, hc⟩ := hd.sound.code_apply hop rfl
      exact stay hf hc

end Draft

end LangSpec
