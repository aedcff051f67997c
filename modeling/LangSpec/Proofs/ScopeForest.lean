import LangSpec.Proofs.Nesting

/-!
# The forest of scopes

The scopes of an object form a tree, whose root is the root scope of the object.
A scope is within an older one, and is listed there and with its object as soon
as it is opened. So the lists tell what the entries tell: an object lists its
scopes, and a scope those within it, in the order of their opening. A frame is
an object of its own kind, and the scope of the code belongs to the frame of the
code. To close scopes leads to the root scope of this frame after finitely many
steps, and no further.

* `ScopeForest`: what a scope is within;
* `ScopesListed`: the lists are those of the entries;
* `Edit.scopesForm`, `Bind.scopesForm`: both stay so;
* `Reachable.kind_frame`: the frame of the code is a frame;
* `Reachable.exists_depth`: how often the scope of the code can be closed;
* `scope_forest_stands`: the whole law.
-/

namespace LangSpec

/-- The object with one more scope. -/
def Object.withScope (c : ScopeId) (x : Object) : Object := { x with scopes := x.scopes ++ [c] }

/-- The scope with one more scope within. -/
def Scope.withChild (c : ScopeId) (x : Scope) : Scope := { x with children := x.children ++ [c] }

/-- A scope is within an older one, or it is the root scope of its object. -/
structure ScopeForest (objects : Arena .objects Object) (scopes : Arena .scopes Scope) :
    Prop where
  owner : ∀ c ∈ scopes, (scopes.get c).owner ∈ objects
  rootScope : ∀ o ∈ objects, (objects.get o).rootScope ∈ scopes
  root : ∀ c ∈ scopes,
    (scopes.get c).parent = none ↔ (objects.get (scopes.get c).owner).rootScope = c
  older : ∀ c ∈ scopes, ∀ p, (scopes.get c).parent = some p → p.index < c.index

/-- Objects and scopes list the scopes that belong to them or are within them, in
    the order of their opening. -/
structure ScopesListed (objects : Arena .objects Object) (scopes : Arena .scopes Scope) :
    Prop where
  owned : ∀ o ∈ objects, (objects.get o).scopes = scopes.select fun c => c.owner = o
  first : ∀ o ∈ objects, (objects.get o).scopes.head? = some (objects.get o).rootScope
  within : ∀ p ∈ scopes, (scopes.get p).children = scopes.select fun c => c.parent = some p

section Tables

variable {objects : Arena .objects Object} {scopes : Arena .scopes Scope} {x : Object} {y : Scope}
  {p : ScopeId}

/-! ## The entries -/

namespace ScopeForest

theorem empty : ScopeForest .empty .empty := by
  refine ⟨?_, ?_, ?_, ?_⟩
  all_goals exact fun _ h => absurd h (Nat.not_lt_zero _)

/-- A new object and its root scope. -/
theorem push (h : ScopeForest objects scopes) (hroot : x.rootScope = scopes.next)
    (howner : y.owner = objects.next) (hparent : y.parent = none) :
    ScopeForest (objects.push x) (scopes.push y) where
  owner := by
    intro c hc
    rcases Arena.mem_push.1 hc with hc | rfl
    · rw [Arena.get_push_of_mem hc]
      exact Arena.mem_push.2 (.inl (h.owner c hc))
    · rw [Arena.get_push_next, howner]
      exact Arena.next_mem_push
  rootScope := by
    intro o ho
    rcases Arena.mem_push.1 ho with ho | rfl
    · rw [Arena.get_push_of_mem ho]
      exact Arena.mem_push.2 (.inl (h.rootScope o ho))
    · rw [Arena.get_push_next, hroot]
      exact Arena.next_mem_push
  root := by
    intro c hc
    rcases Arena.mem_push.1 hc with hc | rfl
    · rw [Arena.get_push_of_mem hc, Arena.get_push_of_mem (h.owner c hc)]
      exact h.root c hc
    · rw [Arena.get_push_next, howner, Arena.get_push_next]
      exact iff_of_true hparent hroot
  older := by
    intro c hc p hp
    rcases Arena.mem_push.1 hc with hc | rfl
    · exact h.older c hc p (Arena.get_push_of_mem hc ▸ hp)
    · rw [Arena.get_push_next, hparent] at hp
      exact nomatch hp

/-- A new scope within an older one. -/
theorem pushScope (h : ScopeForest objects scopes) (hp : p ∈ scopes)
    (howner : y.owner = (scopes.get p).owner) (hparent : y.parent = some p) :
    ScopeForest objects (scopes.push y) where
  owner := by
    intro c hc
    rcases Arena.mem_push.1 hc with hc | rfl
    · rw [Arena.get_push_of_mem hc]
      exact h.owner c hc
    · rw [Arena.get_push_next, howner]
      exact h.owner p hp
  rootScope := fun o ho => Arena.mem_push.2 (.inl (h.rootScope o ho))
  root := by
    intro c hc
    rcases Arena.mem_push.1 hc with hc | rfl
    · rw [Arena.get_push_of_mem hc]
      exact h.root c hc
    · -- The new scope has a parent, and root scopes are old.
      rw [Arena.get_push_next, hparent, howner]
      refine iff_of_false (Option.some_ne_none p) fun e => ?_
      exact Arena.not_next_mem (e ▸ h.rootScope _ (h.owner p hp))
  older := by
    intro c hc q hq
    rcases Arena.mem_push.1 hc with hc | rfl
    · exact h.older c hc q (Arena.get_push_of_mem hc ▸ hq)
    · rw [Arena.get_push_next, hparent] at hq
      cases hq
      exact hp

/-- An object changed in other respects. -/
theorem modifyObject {o : ObjectId} {f : Object → Object} (h : ScopeForest objects scopes)
    (hf : ∀ x, (f x).rootScope = x.rootScope) : ScopeForest (objects.modify o f) scopes := by
  have hget := Arena.apply_get_modify (a := objects) (h := o) (g := Object.rootScope) hf
  refine ⟨fun c hc => Arena.mem_modify.2 (h.owner c hc), fun o ho => ?_, fun c hc => ?_, h.older⟩
  · rw [hget]
    exact h.rootScope o (Arena.mem_modify.1 ho)
  · rw [hget]
    exact h.root c hc

/-- A scope changed in other respects. -/
theorem modifyScope {c : ScopeId} {f : Scope → Scope} (h : ScopeForest objects scopes)
    (hf : ∀ x, (f x).place = x.place) : ScopeForest objects (scopes.modify c f) := by
  have hparent := Arena.apply_get_modify (a := scopes) (h := c) (g := Scope.parent)
    fun x => congrArg Prod.fst (hf x)
  have howner := Arena.apply_get_modify (a := scopes) (h := c) (g := Scope.owner)
    fun x => congrArg Prod.snd (hf x)
  refine ⟨fun c hc => ?_, fun o ho => Arena.mem_modify.2 (h.rootScope o ho), fun c hc => ?_,
    fun c hc => ?_⟩
  · rw [howner]
    exact h.owner c (Arena.mem_modify.1 hc)
  · rw [howner, hparent]
    exact h.root c (Arena.mem_modify.1 hc)
  · rw [hparent]
    exact h.older c (Arena.mem_modify.1 hc)

/-- Nothing is within a scope that is not there yet. -/
theorem none_within_next (h : ScopeForest objects scopes) :
    (scopes.select fun c => c.parent = some scopes.next) = [] := by
  refine Arena.select_eq_nil fun c hc => decide_eq_false fun e => ?_
  exact Nat.lt_asymm hc (h.older c hc _ e)

/-- Nothing belongs to an object that is not there yet. -/
theorem none_of_next (h : ScopeForest objects scopes) :
    (scopes.select fun c => c.owner = objects.next) = [] := by
  refine Arena.select_eq_nil fun c hc => decide_eq_false fun e => ?_
  exact Arena.not_next_mem (e ▸ h.owner c hc)

end ScopeForest

/-! ## The lists -/

namespace ScopesListed

theorem empty : ScopesListed .empty .empty := by
  refine ⟨?_, ?_, ?_⟩
  all_goals exact fun _ h => absurd h (Nat.not_lt_zero _)

theorem mem_scopes (h : ScopesListed objects scopes) {o : ObjectId} (ho : o ∈ objects)
    {c : ScopeId} : c ∈ (objects.get o).scopes ↔ c ∈ scopes ∧ (scopes.get c).owner = o := by
  rw [h.owned o ho, Arena.mem_select, decide_eq_true_iff]

/-- A new object and its root scope. -/
theorem push (h : ScopesListed objects scopes) (hf : ScopeForest objects scopes)
    (hroot : x.rootScope = scopes.next) (hscopes : x.scopes = [scopes.next])
    (howner : y.owner = objects.next) (hparent : y.parent = none) (hchildren : y.children = []) :
    ScopesListed (objects.push x) (scopes.push y) where
  owned := by
    intro o ho
    rw [Arena.select_push, howner]
    rcases Arena.mem_push.1 ho with ho | rfl
    · have hne : objects.next ≠ o := fun e => Arena.not_next_mem (e ▸ ho)
      rw [Arena.get_push_of_mem ho, h.owned o ho, if_neg (by simpa using hne), List.append_nil]
    · rw [Arena.get_push_next, hscopes, hf.none_of_next, if_pos (decide_eq_true rfl),
        List.nil_append]
  first := by
    intro o ho
    rcases Arena.mem_push.1 ho with ho | rfl
    · rw [Arena.get_push_of_mem ho, h.first o ho]
    · rw [Arena.get_push_next, hscopes, hroot, List.head?_cons]
  within := by
    intro p hp
    have hne : y.parent ≠ some p := hparent ▸ (Option.some_ne_none p).symm
    rw [Arena.select_push, if_neg (by simpa using hne), List.append_nil]
    rcases Arena.mem_push.1 hp with hp | rfl
    · rw [Arena.get_push_of_mem hp, h.within p hp]
    · rw [Arena.get_push_next, hchildren, hf.none_within_next]

/-- A new scope within an older one is listed there and with its object. -/
theorem adopt (h : ScopesListed objects scopes) (hf : ScopeForest objects scopes)
    (hp : p ∈ scopes) (howner : y.owner = (scopes.get p).owner) (hparent : y.parent = some p)
    (hchildren : y.children = []) :
    ScopesListed (objects.modify (scopes.get p).owner (Object.withScope scopes.next))
      ((scopes.push y).modify p (Scope.withChild scopes.next)) where
  owned := by
    intro o ho
    have ho := Arena.mem_modify.1 ho
    rw [Arena.select_push_modify (by intro; rfl), howner]
    by_cases e : (scopes.get p).owner = o
    · rw [e, Arena.get_modify_self ho, if_pos (decide_eq_true rfl), ← h.owned o ho]
      rfl
    · rw [Arena.get_modify_of_ne e, if_neg (by simpa using e), List.append_nil, h.owned o ho]
  first := by
    intro o ho
    refine Arena.get_modify_of_imp (p := fun x : Object => x.scopes.head? = some x.rootScope)
      (fun x hx => ?_) (h.first o (Arena.mem_modify.1 ho))
    rw [Object.withScope, List.head?_append, hx, Option.some_or]
  within := by
    intro q hq
    rw [Arena.select_push_modify (by intro; rfl), hparent]
    by_cases e : p = q
    · subst e
      rw [Arena.get_modify_self (Arena.mem_push.2 (.inl hp)), Arena.get_push_of_mem hp,
        if_pos (decide_eq_true rfl), ← h.within p hp]
      rfl
    · rw [Arena.get_modify_of_ne e, if_neg (by simpa using e), List.append_nil]
      rcases Arena.mem_push.1 (Arena.mem_modify.1 hq) with hq | rfl
      · rw [Arena.get_push_of_mem hq, h.within q hq]
      · rw [Arena.get_push_next, hchildren, hf.none_within_next]

/-- A scope changed in other respects. -/
theorem modifyScope {c : ScopeId} {f : Scope → Scope} (h : ScopesListed objects scopes)
    (hf : ∀ x, (f x).place = x.place) (hc : ∀ x, (f x).children = x.children) :
    ScopesListed objects (scopes.modify c f) := by
  have hparent (x : Scope) : (f x).parent = x.parent := congrArg Prod.fst (hf x)
  have howner (x : Scope) : (f x).owner = x.owner := congrArg Prod.snd (hf x)
  have hchildren := Arena.apply_get_modify (a := scopes) (h := c) (g := Scope.children) hc
  refine ⟨fun o ho => ?_, h.first, fun p hp => ?_⟩
  · rw [h.owned o ho]
    exact (Arena.select_modify fun x => by rw [howner]).symm
  · rw [hchildren, h.within p (Arena.mem_modify.1 hp)]
    exact (Arena.select_modify fun x => by rw [hparent]).symm

end ScopesListed

end Tables

namespace Spec

variable {s s' : Spec}

/-! ## Along walks -/

/-- Entries and lists of scopes are as they should be. -/
abbrev ScopesForm (s : Spec) : Prop :=
  ScopeForest s.objects s.scopes ∧ ScopesListed s.objects s.scopes

theorem ScopesForm.addObject {kind : ObjectKind} {name : String} (h : s.ScopesForm) :
    (s.addObject kind name).ScopesForm :=
  ⟨h.1.push rfl rfl rfl, h.2.push h.1 rfl rfl rfl rfl rfl⟩

theorem ScopesForm.addScope {parent : ScopeId} (h : s.ScopesForm) (hp : parent ∈ s.scopes) :
    (s.addScope parent).ScopesForm := by
  refine ⟨ScopeForest.modifyObject (ScopeForest.modifyScope ?_ fun _ => rfl) fun _ => rfl, ?_⟩
  · exact h.1.pushScope hp rfl rfl
  · exact h.2.adopt h.1 hp rfl rfl rfl

theorem ScopesForm.bindField {scope : ScopeId} {f : FieldId} (h : s.ScopesForm) :
    (s.bindField scope f).ScopesForm :=
  ⟨h.1.modifyScope fun _ => rfl, h.2.modifyScope (fun _ => rfl) fun _ => rfl⟩

theorem Edit.scopesForm (he : s.Edit s') (h : s.ScopesForm) : s'.ScopesForm := by
  cases he with
  | addObject => exact h.addObject
  | addScope hp => exact h.addScope hp
  | bindField => exact h.bindField
  | _ => exact h

theorem Bind.scopesForm {n : NonterminalId} (hb : Bind n s s') (h : s.ScopesForm) :
    s'.ScopesForm := by
  cases hb with
  | bindField => exact h.bindField
  | own | setCapture | addSource | typed => exact h

theorem Steps.scopesForm {o : Options} (hs : Steps (initial o) s) : s.ScopesForm := by
  have hempty : ScopeForest .empty .empty ∧ ScopesListed .empty .empty := ⟨.empty, .empty⟩
  have hinitial : (initial o).ScopesForm := ScopesForm.addObject (ScopesForm.addObject hempty)
  exact (hs.preserves (closed_initial o) Edit.scopesForm id Bind.scopesForm id hinitial).2

/-! ## Kinds of objects -/

theorem Edit.kinds (h : s.Edit s') : Arena.Retains Object.kind s.objects s'.objects := by
  cases h with
  | addObject => exact .push
  | addScope => exact .modify fun _ => rfl
  | _ => exact .refl

theorem Steps.kinds (h : Steps s s') (hc : s.Closed) :
    Arena.Retains Object.kind s.objects s'.objects :=
  (h.preserves (Q := fun t => Arena.Retains Object.kind s.objects t.objects) hc
    (fun he hs => hs.trans he.kinds) id (fun hb hs => hb.objects ▸ hs) id .refl).2

end Spec

namespace Draft

variable {o : Options} {d : Draft} {op : Op}

theorem Reachable.scopeForest (hd : Reachable o d) : ScopeForest d.spec.objects d.spec.scopes :=
  hd.steps.scopesForm.1

theorem Reachable.scopesListed (hd : Reachable o d) :
    ScopesListed d.spec.objects d.spec.scopes := hd.steps.scopesForm.2

/-- A scope is the root scope of its object, or it is within an older scope of
    this object, which lists it once. -/
theorem Reachable.root_or_within (hd : Reachable o d) {c : ScopeId} (hc : c ∈ d.spec.scopes) :
    ((d.spec.scopes.get c).parent = none ∧
      (d.spec.objects.get (d.spec.scopes.get c).owner).rootScope = c) ∨
    ∃ p ∈ d.spec.scopes, (d.spec.scopes.get c).parent = some p ∧ p.index < c.index ∧
      (d.spec.scopes.get p).owner = (d.spec.scopes.get c).owner ∧
      (d.spec.scopes.get p).children.count c = 1 := by
  have hforest := hd.scopeForest
  cases hp : (d.spec.scopes.get c).parent with
  | none => exact .inl ⟨rfl, (hforest.root c hc).1 hp⟩
  | some p =>
    obtain ⟨hmem, howner⟩ := hd.scopesOwned.parent c _ (Arena.get?_eq_some_get hc) p hp
    refine .inr ⟨p, hmem, rfl, hforest.older c hc p hp, howner, ?_⟩
    rw [hd.scopesListed.within p hmem]
    exact List.count_eq_one_of_mem Arena.nodup_select
      (Arena.mem_select.2 ⟨hc, decide_eq_true hp⟩)

theorem Reachable.kind_rootFrame (hd : Reachable o d) :
    (d.spec.objects.get d.spec.rootFrame).kind = .frame := by
  have hc := Spec.closed_initial o
  have hroot : (Spec.initial o).rootFrame ∈ (Spec.initial o).objects :=
    Spec.covers_handle.1 hc.all.rootFrame
  rw [(hd.steps.stands hc).rootFrame, (hd.steps.kinds hc _ hroot).2]
  rfl

/-- Only opening and closing a frame leads to another frame. -/
theorem Sound.frame_apply (hd : d.Sound) (hop : d.Admits op) (ho : op ≠ .openFrame)
    (hc : op ≠ .closeFrame) : (op.apply d).frame = d.frame := by
  cases op with
  | openFrame => exact absurd rfl ho
  | closeFrame => exact absurd rfl hc
  | openScope => rfl
  | closeScope => exact congrArg Position.frame (position_closeScope d)
  | _ => exact (hd.code_apply hop rfl).1

/-- The frame of the code is a frame. -/
theorem Reachable.kind_frame (hd : Reachable o d) :
    (d.spec.objects.get d.frame).kind = .frame := by
  induction hd with
  | start => rfl
  | @step d op hd hop ih =>
    by_cases ho : op = .openFrame
    · subst ho
      exact congrArg Object.kind Arena.get_push_next
    by_cases hc : op = .closeFrame
    · subst hc
      exact hd.kind_rootFrame
    · have hkinds := (hd.sound.effect hop).steps.kinds hd.sound.closed
      rw [hd.sound.frame_apply hop ho hc, (hkinds _ hd.sound.frame).2, ih]

/-! ## Closing scopes -/

/-- The draft after scopes have been closed `i` times, as far as there are
    any. -/
def closeScopes (d : Draft) (i : Nat) : Draft := d.run (List.replicate i .closeScope)

theorem closeScopes_succ (d : Draft) (i : Nat) :
    d.closeScopes (i + 1) = d.closeScope.2.closeScopes i := rfl

theorem Reachable.closeScope (hd : Reachable o d) : Reachable o d.closeScope.2 := by
  have h : Reachable o (Op.closeScope.apply d) := (hd.step_bracket rfl).1
  exact h

theorem Reachable.closeScopes (hd : Reachable o d) (i : Nat) : Reachable o (d.closeScopes i) := by
  induction i generalizing d with
  | zero => exact hd
  | succ i ih => exact ih hd.closeScope

theorem frame_closeScopes (d : Draft) (i : Nat) : (d.closeScopes i).frame = d.frame := by
  induction i generalizing d with
  | zero => rfl
  | succ i ih =>
    rw [closeScopes_succ, ih]
    exact congrArg Position.frame (position_closeScope d)

/-- The root scope of a frame stays the current one. -/
theorem closeScope_of_root (h : (d.spec.scopes.get d.scope).parent = none) :
    d.closeScope = (.error .closesRootScope, d) := by
  rw [closeScope, h]

theorem closeScopes_of_root (h : (d.spec.scopes.get d.scope).parent = none) (i : Nat) :
    d.closeScopes i = d := by
  induction i with
  | zero => rfl
  | succ i ih => rw [closeScopes_succ, closeScope_of_root h, ih]

/-- The scope of the code can be closed a number of times, which is not greater
    than its index, and never again. -/
theorem Reachable.exists_depth (hd : Reachable o d) :
    ∃ n ≤ d.scope.index, ∀ i, (d.closeScopes i).closeScope.1 =
      if i < n then .ok (d.closeScopes i).scope else .error .closesRootScope := by
  -- Every scope is within an older one.
  induction hi : d.scope.index using Nat.strongRecOn generalizing d with
  | ind k ih =>
    cases hp : (d.spec.scopes.get d.scope).parent with
    | none =>
      refine ⟨0, Nat.zero_le _, fun i => ?_⟩
      rw [closeScopes_of_root hp, closeScope_of_root hp, if_neg (Nat.not_lt_zero i)]
    | some parent =>
      have hlt := hd.scopeForest.older _ hd.sound.scope parent hp
      have hclose := closeScope_of_parent hp
      have hd' := hd.closeScope
      rw [hclose] at hd'
      obtain ⟨n, hn, hcloses⟩ := ih parent.index (hi ▸ hlt) hd' rfl
      refine ⟨n + 1, hi ▸ Nat.le_trans (Nat.succ_le_succ hn) hlt, fun i => ?_⟩
      cases i with
      | zero =>
        rw [if_pos (Nat.succ_pos n)]
        exact congrArg Prod.fst hclose
      | succ i =>
        rw [closeScopes_succ, hclose, hcloses i]
        simp only [Nat.succ_lt_succ_iff]

/-! ## The whole law -/

/-- A scope is the root scope of its object, or it is within an older scope of
    this object, which lists it once. An object lists all its scopes in their
    order, its root scope first, and no other one is without a scope around it.
    The scope of the code belongs to the frame of the code, which is a frame, and
    can be closed finitely often, without leaving the frame. -/
theorem scope_forest_stands (hd : Reachable o d) :
    (∀ c ∈ d.spec.scopes,
      let x := d.spec.scopes.get c
      x.owner ∈ d.spec.objects ∧
        ((x.parent = none ∧ (d.spec.objects.get x.owner).rootScope = c) ∨
          ∃ p ∈ d.spec.scopes, x.parent = some p ∧ p.index < c.index ∧
            (d.spec.scopes.get p).owner = x.owner ∧
            (d.spec.scopes.get p).children.count c = 1)) ∧
    (∀ x ∈ d.spec.objects,
      let object := d.spec.objects.get x
      (object.scopes = d.spec.scopes.select fun c => c.owner = x) ∧
        object.scopes.head? = some object.rootScope ∧
        ∀ c ∈ object.scopes, (d.spec.scopes.get c).parent = none ↔ c = object.rootScope) ∧
    (d.spec.scopes.get d.scope).owner = d.frame ∧
    (d.spec.objects.get d.frame).kind = .frame ∧
    ∃ n ≤ d.scope.index, ∀ i,
      ((d.closeScopes i).closeScope.1 =
        if i < n then .ok (d.closeScopes i).scope else .error .closesRootScope) ∧
      (d.closeScopes i).frame = d.frame ∧
      ((d.closeScopes i).spec.scopes.get (d.closeScopes i).scope).owner = d.frame := by
  have hforest := hd.scopeForest
  have hlisted := hd.scopesListed
  refine ⟨fun c hc => ⟨hforest.owner c hc, hd.root_or_within hc⟩,
    fun x hx => ⟨hlisted.owned x hx, hlisted.first x hx, fun c hc => ?_⟩,
    hd.owner_scope, hd.kind_frame, ?_⟩
  · obtain ⟨hmem, rfl⟩ := (hlisted.mem_scopes hx).1 hc
    exact (hforest.root c hmem).trans eq_comm
  · obtain ⟨n, hn, hcloses⟩ := hd.exists_depth
    refine ⟨n, hn, fun i => ⟨hcloses i, frame_closeScopes d i, ?_⟩⟩
    rw [(hd.closeScopes i).owner_scope, frame_closeScopes]

/-- Two frames, one left with a scope open and one with two. -/
theorem scope_forest_stands_sums :
    let d := (start {}).run (Op.sums ++
      [ .openFrame, .openScope, .closeFrame, .closeScope
      , .openFrame, .openScope, .closeScope, .openScope, .openScope ])
    Reachable {} d ∧ d.frame = ⟨5⟩ ∧ d.scope = ⟨9⟩ ∧ (⟨9⟩ : ScopeId) ∈ d.spec.scopes ∧
      (d.spec.objects.get ⟨5⟩).scopes = [⟨6⟩, ⟨7⟩, ⟨8⟩, ⟨9⟩] ∧
      (∀ c ∈ d.spec.scopes,
        let x := d.spec.scopes.get c
        x.owner ∈ d.spec.objects ∧
          ((x.parent = none ∧ (d.spec.objects.get x.owner).rootScope = c) ∨
            ∃ p ∈ d.spec.scopes, x.parent = some p ∧ p.index < c.index ∧
              (d.spec.scopes.get p).owner = x.owner ∧
              (d.spec.scopes.get p).children.count c = 1)) ∧
      ∃ n ≤ d.scope.index, ∀ i,
        ((d.closeScopes i).closeScope.1 =
          if i < n then .ok (d.closeScopes i).scope else .error .closesRootScope) ∧
        (d.closeScopes i).frame = d.frame ∧
        ((d.closeScopes i).spec.scopes.get (d.closeScopes i).scope).owner = d.frame := by
  intro d
  have hd : Reachable {} d := Reachable.start.run (by decide +kernel)
  obtain ⟨hscopes, -, -, -, hcloses⟩ := scope_forest_stands hd
  refine ⟨hd, ?_, ?_, ?_, ?_, hscopes, hcloses⟩
  all_goals decide +kernel

end Draft

end LangSpec
