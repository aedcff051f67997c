import LangSpec.Proofs.Identity
import Mathlib.Data.List.Nodup

/-!
# The tree of namespaces

The first namespace is the root and the only one without a parent, a namespace
is listed with its parent, and siblings have different names. A new namespace is
made only if its parent has none of its name yet, and nothing ever changes the
parent, the name or the namespaces within a namespace otherwise.

* `NamespaceTree.adopt`: a namespace listed with its parent;
* `Steps.namespaceTree`: the tree is kept along walks;
* `checkNamespace_eq_nil_iff`: what the check of a namespace requires;
* `checkNamespace_eq_nil`: it never fails.
-/

namespace LangSpec

/-- The namespaces form a tree, siblings having different names. -/
structure NamespaceTree (a : Arena .namespaces Namespace) : Prop where
  root : Spec.root ∈ a
  parent : a.Forall fun n x => x.parent = none ↔ n = Spec.root
  child : a.Forall fun n x => ∀ c ∈ x.children, c ∈ a ∧ (a.get c).parent = some n
  names : a.Forall fun _ x => (x.children.map fun c => (a.get c).name).Nodup

namespace NamespaceTree

variable {a : Arena .namespaces Namespace}

/-- A namespace with a parent and nothing within, not yet listed anywhere. -/
theorem push {x : Namespace} (ha : NamespaceTree a) (hp : x.parent ≠ none)
    (hc : x.children = []) : NamespaceTree (a.push x) where
  root := Arena.mem_push.2 (.inl ha.root)
  parent := by
    refine Arena.Forall.push ha.parent (iff_of_false hp fun e => ?_)
    exact Arena.not_next_mem (e ▸ ha.root)
  child := by
    refine Arena.Forall.push (ha.child.imp fun n y _ h c hy => ?_) fun c hx => ?_
    · obtain ⟨hmem, hpar⟩ := h c hy
      exact ⟨Arena.mem_push.2 (.inl hmem), Arena.get_push_of_mem hmem ▸ hpar⟩
    · exact absurd (hc ▸ hx) List.not_mem_nil
  names := by
    -- The namespaces within an old one are old, so their names are read as before.
    refine Arena.Forall.push (fun n y hy => ?_) (hc ▸ List.nodup_nil)
    have e : y.children.map (fun c => ((a.push x).get c).name) =
        y.children.map fun c => (a.get c).name :=
      List.map_congr_left fun c hc => by rw [Arena.get_push_of_mem (ha.child n y hy c hc).1]
    exact e ▸ ha.names n y hy

variable {n : NamespaceId} {f : Namespace → Namespace}

/-- A namespace that keeps its parent and its name, and the namespaces within it
    listed anew. -/
theorem relist (ha : NamespaceTree a) (hp : ∀ x, (f x).parent = x.parent)
    (hn : ∀ x, (f x).name = x.name)
    (hc : ∀ x, a.get? n = some x → (∀ c ∈ (f x).children, c ∈ a ∧ (a.get c).parent = some n) ∧
      ((f x).children.map fun c => (a.get c).name).Nodup) : NamespaceTree (a.modify n f) := by
  -- Parents and names read the same before and after the change.
  have hpar : ∀ c, ((a.modify n f).get c).parent = (a.get c).parent :=
    Arena.apply_get_modify (g := Namespace.parent) hp
  have hname : ∀ c, ((a.modify n f).get c).name = (a.get c).name :=
    Arena.apply_get_modify (g := Namespace.name) hn
  refine ⟨Arena.mem_modify.2 ha.root, ?_, ?_, ?_⟩
  · exact Arena.Forall.modify ha.parent fun x _ h => by rw [hp, h]
  · simp only [Arena.mem_modify, hpar]
    exact Arena.Forall.modify ha.child fun x hx _ => (hc x hx).1
  · simp only [hname]
    exact Arena.Forall.modify ha.names fun x hx _ => (hc x hx).2

/-- A namespace changed in other respects. -/
theorem modify (ha : NamespaceTree a) (hp : ∀ x, (f x).parent = x.parent)
    (hn : ∀ x, (f x).name = x.name) (hc : ∀ x, (f x).children = x.children) :
    NamespaceTree (a.modify n f) :=
  ha.relist hp hn fun x hx => by
    rw [hc]
    exact ⟨ha.child n x hx, ha.names n x hx⟩

/-- A namespace listed with its parent, which has none of its name yet. -/
theorem adopt (ha : NamespaceTree a) {c : NamespaceId} (hc : c ∈ a)
    (hp : (a.get c).parent = some n)
    (hn : ∀ c' ∈ (a.get n).children, (a.get c').name ≠ (a.get c).name) :
    NamespaceTree (a.modify n fun x => { x with children := x.children ++ [c] }) := by
  refine ha.relist (fun _ => rfl) (fun _ => rfl) fun x hx => ?_
  rw [Arena.get_eq hx] at hn
  constructor
  · intro c' hc'
    rcases List.mem_append.1 hc' with hc' | hc'
    · exact ha.child n x hx c' hc'
    · rw [List.mem_singleton.1 hc']
      exact ⟨hc, hp⟩
  · rw [List.map_append, List.map_singleton, List.nodup_append]
    refine ⟨ha.names n x hx, List.nodup_singleton _, ?_⟩
    intro name hname name' hname'
    obtain ⟨c', hc', rfl⟩ := List.mem_map.1 hname
    rw [List.mem_singleton.1 hname']
    exact hn c' hc'

end NamespaceTree

namespace Spec

variable {s s' : Spec}

theorem namespaceTree_addNamespace {loc : Location} {name : String} {parent : NamespaceId}
    (hs : NamespaceTree s.namespaces) (hp : parent ∈ s.namespaces)
    (hn : s.child? parent name = none) :
    NamespaceTree (s.addNamespace loc name parent).namespaces := by
  refine (hs.push (Option.some_ne_none parent) rfl).adopt Arena.next_mem_push ?_ ?_
  · rw [Arena.get_push_next]
  · intro c hc
    rw [Arena.get_push_of_mem hp] at hc
    obtain ⟨hmem, -⟩ := hs.child parent _ (Arena.get?_eq_some_get hp) c hc
    rw [Arena.get_push_of_mem hmem, Arena.get_push_next]
    -- The lookup would have found a sibling of this name.
    exact fun e => List.find?_eq_none.1 hn c hc (beq_iff_eq.2 e)

theorem Edit.namespaceTree (h : s.Edit s') (hs : NamespaceTree s.namespaces) :
    NamespaceTree s'.namespaces := by
  cases h with
  | addNamespace _ hp hn => exact namespaceTree_addNamespace hs hp hn
  | addToken | addSentinel | addRegular | addContext | addAlias =>
    exact hs.modify (fun _ => rfl) (fun _ => rfl) fun _ => rfl
  | addLiteral =>
    refine NamespaceTree.modify ?_ (fun _ => rfl) (fun _ => rfl) fun _ => rfl
    exact hs.modify (fun _ => rfl) (fun _ => rfl) fun _ => rfl
  | _ => exact hs

theorem Bind.namespaces {n : NonterminalId} (h : Bind n s s') : s'.namespaces = s.namespaces := by
  cases h <;> rfl

theorem namespaceTree_initial (o : Options) : NamespaceTree (initial o).namespaces where
  root := Nat.zero_lt_one
  parent := .push .empty (iff_of_true rfl rfl)
  child := .push .empty fun _ hc => absurd hc List.not_mem_nil
  names := .push .empty List.nodup_nil

theorem Steps.namespaceTree (h : Steps s s') (hc : s.Closed) (hs : NamespaceTree s.namespaces) :
    NamespaceTree s'.namespaces :=
  (h.preserves (Q := fun s => NamespaceTree s.namespaces) hc Edit.namespaceTree id
    (fun hb h => hb.namespaces ▸ h)
    (fun h => h.modify (fun _ => rfl) (fun _ => rfl) fun _ => rfl) hs).2

/-! ## The check -/

open Violation

theorem checkChildren_eq_nil_iff {n : NamespaceId} {seen : List String} {cs : List Namespace} :
    checkChildren n seen cs = [] ↔
      (∀ c ∈ cs, c.parent = some n) ∧ (cs.map (·.name)).Nodup ∧ ∀ c ∈ cs, c.name ∉ seen := by
  induction cs generalizing seen with
  | nil => simp [checkChildren]
  | cons c cs ih =>
    rw [checkChildren, List.append_eq_nil_iff, List.append_eq_nil_iff, ensure_eq_nil, ensure_eq_nil,
      beq_iff_eq, Bool.not_eq_true', List.contains_eq_mem, decide_eq_false_iff_not, ih,
      List.forall_mem_cons, List.map_cons, List.nodup_cons, List.forall_mem_cons]
    -- The names that come later are neither this one nor seen before.
    have hnew : (∀ c' ∈ cs, c'.name ∉ c.name :: seen) ↔
        c.name ∉ cs.map (·.name) ∧ ∀ c' ∈ cs, c'.name ∉ seen := by
      simp only [List.mem_cons, not_or, forall_and, List.mem_map, not_exists, not_and]
    rw [hnew]
    tauto

/-- What the check of a namespace requires. -/
theorem checkNamespace_eq_nil_iff {n : NamespaceId} {x : Namespace} (hid : x.id = n) :
    s.checkNamespace x = [] ↔ (x.parent = none ↔ n = root) ∧
      (∀ c ∈ x.children, (s.namespaces.get c).parent = some n) ∧
      (x.children.map fun c => (s.namespaces.get c).name).Nodup := by
  rw [checkNamespace, List.append_eq_nil_iff, ensure_eq_nil, checkChildren_eq_nil_iff, hid,
    Namespace.isRoot, beq_iff_eq, Bool.eq_iff_iff, beq_iff_eq, Option.isNone_iff_eq_none,
    List.forall_mem_map, List.map_map]
  simp only [List.not_mem_nil, not_false_eq_true, implies_true, and_true, Function.comp_def]

theorem checkNamespace_eq_nil (ht : s.Tagged) (hs : NamespaceTree s.namespaces) {n : NamespaceId}
    {x : Namespace} (hx : s.namespaces.get? n = some x) : s.checkNamespace x = [] :=
  (checkNamespace_eq_nil_iff (ht.namespaces n x hx)).2
    ⟨hs.parent n x hx, fun c hc => (hs.child n x hx c hc).2, hs.names n x hx⟩

end Spec

end LangSpec
