import LangSpec.Proofs.Endurance
import LangSpec.Proofs.NamespaceTree
import LangSpec.Proofs.Nesting
import Mathlib.Data.List.Chain

/-!
# Paths of namespaces

A namespace comes after the one it lies in, so the way outward from any of them
ends at the root, and a namespace can be told by its *path*: the names on that
way, outermost first. Siblings have different names, so no two namespaces have
the same path; and if names are words, the path can be read off its written form,
where the names are joined by colons.

The writing never leaves the tree. Each open namespace lies in the one it was
opened in, the outermost one in the root, so the names of the open namespaces are
the path of the current one. To close it and to open its name again leads back
to the same draft.

* `NamespacesListed`: a namespace comes after the one it lies in and is listed
  there;
* `within_induction`: every namespace is reached from the root;
* `path_injective`, `renderPath_injective`: a path leads to one namespace;
* `Reachable.isChain_openNamespaces`: the open namespaces lie in each other;
* `namespaces_addressed_by_path`: the tree, its paths and the open namespaces
  together.
-/

namespace LangSpec

/-! ## Names joined by colons -/

/-- The name is a word that can be part of a path: it is not empty, and no colon
    is in it. -/
def IsSegment (name : String) : Prop := name ≠ "" ∧ ':' ∉ name.toList

instance : DecidablePred IsSegment := fun _ => inferInstanceAs (Decidable (_ ∧ _))

namespace IsSegment

variable {x y : String} {xs ys : List String}

/-- The names, each with two colons before it. -/
def continued (xs : List String) : List Char := xs.flatMap fun x => "::".toList ++ x.toList

theorem continued_cons (x : String) (xs : List String) :
    continued (x :: xs) = "::".toList ++ (x.toList ++ continued xs) := by
  rw [continued, List.flatMap_cons, List.append_assoc, continued]

theorem toList_intercalate_cons (x : String) (xs : List String) :
    ("::".intercalate (x :: xs)).toList = x.toList ++ continued xs := by
  induction xs generalizing x with
  | nil => simp [continued]
  | cons y ys ih =>
    rw [String.intercalate_cons_cons, String.toList_append, String.toList_append, ih,
      continued_cons, List.append_assoc]

/-- The first name ends at the first colon. -/
theorem takeWhile_append (hx : IsSegment x) (xs : List String) :
    (x.toList ++ continued xs).takeWhile (· != ':') = x.toList := by
  have hcolon : (continued xs).takeWhile (· != ':') = [] := by
    cases xs <;> rfl
  rw [List.takeWhile_append_of_pos, hcolon, List.append_nil]
  intro c hc
  exact bne_iff_ne.2 fun e => hx.2 (e ▸ hc)

theorem eq_of_append_eq (hx : IsSegment x) (hy : IsSegment y)
    (h : x.toList ++ continued xs = y.toList ++ continued ys) :
    x = y ∧ continued xs = continued ys := by
  have e : x = y := by
    rw [← String.toList_inj, ← hx.takeWhile_append xs, h, hy.takeWhile_append ys]
  subst e
  exact ⟨rfl, List.append_cancel_left h⟩

theorem continued_injective (hx : ∀ x ∈ xs, IsSegment x) (hy : ∀ y ∈ ys, IsSegment y)
    (h : continued xs = continued ys) : xs = ys := by
  induction xs generalizing ys with
  | nil =>
    cases ys with
    | nil => rfl
    | cons y ys => exact nomatch h
  | cons x xs ih =>
    cases ys with
    | nil => exact nomatch h
    | cons y ys =>
      rw [List.forall_mem_cons] at hx hy
      rw [continued_cons, continued_cons] at h
      obtain ⟨rfl, hrest⟩ := eq_of_append_eq hx.1 hy.1 (List.append_cancel_left h)
      rw [ih hx.2 hy.2 hrest]

/-- Only the empty list of names is written as the empty text. -/
theorem intercalate_ne_empty (hx : IsSegment x) : "::".intercalate (x :: xs) ≠ "" := by
  intro h
  have h := congrArg String.toList h
  rw [toList_intercalate_cons] at h
  exact hx.1 (String.toList_inj.1 (List.append_eq_nil_iff.1 h).1)

/-- Names joined by colons can be told apart again. -/
theorem intercalate_injective (hx : ∀ x ∈ xs, IsSegment x) (hy : ∀ y ∈ ys, IsSegment y)
    (h : "::".intercalate xs = "::".intercalate ys) : xs = ys := by
  cases xs with
  | nil =>
    cases ys with
    | nil => rfl
    | cons y ys => exact absurd h.symm (hy y List.mem_cons_self).intercalate_ne_empty
  | cons x xs =>
    cases ys with
    | nil => exact absurd h (hx x List.mem_cons_self).intercalate_ne_empty
    | cons y ys =>
      rw [List.forall_mem_cons] at hx hy
      have h := congrArg String.toList h
      rw [toList_intercalate_cons, toList_intercalate_cons] at h
      obtain ⟨rfl, hrest⟩ := eq_of_append_eq hx.1 hy.1 h
      rw [continued_injective hx.2 hy.2 hrest]

end IsSegment

/-! ## Where namespaces are listed -/

/-- A namespace that lies in another one comes after it and is listed there. -/
def NamespacesListed (a : Arena .namespaces Namespace) : Prop :=
  a.Forall fun n x => ∀ p, x.parent = some p → p.index < n.index ∧ n ∈ (a.get p).children

namespace NamespacesListed

variable {a : Arena .namespaces Namespace} {n : NamespaceId} {f : Namespace → Namespace}

/-- A namespace changed in other respects. -/
theorem modify (h : NamespacesListed a) (hp : ∀ x, (f x).parent = x.parent)
    (hc : ∀ x, (f x).children = x.children) : NamespacesListed (a.modify n f) := by
  have hchildren : ∀ p, ((a.modify n f).get p).children = (a.get p).children :=
    Arena.apply_get_modify (g := Namespace.children) hc
  simp only [NamespacesListed, hchildren]
  exact Arena.Forall.modify h fun x _ hx p hpar => hx p (hp x ▸ hpar)

/-- A new namespace listed where it lies. -/
theorem adopt {x : Namespace} (h : NamespacesListed a) (hn : n ∈ a) (hx : x.parent = some n) :
    NamespacesListed
      ((a.push x).modify n fun y => { y with children := y.children ++ [a.next] }) := by
  refine Arena.Forall.modify (Arena.Forall.push (h.imp ?_) ?_) fun _ _ hy => hy
  · intro c y hc hy p hp
    obtain ⟨hlt, hmem⟩ := hy p hp
    refine ⟨hlt, Arena.get_modify_of_imp (p := fun z : Namespace => c ∈ z.children) ?_ ?_⟩
    · exact fun z hz => List.mem_append_left _ hz
    · rwa [Arena.get_push_of_mem (hlt.trans (Arena.mem_of_get? hc))]
  · intro p hp
    cases hx.symm.trans hp
    refine ⟨hn, ?_⟩
    rw [Arena.get_modify_self (Arena.mem_push.2 (.inl hn))]
    exact List.mem_append_right _ List.mem_cons_self

end NamespacesListed

namespace Spec

variable {s s' : Spec} {n m p q : NamespaceId}

theorem Edit.namespacesListed (h : s.Edit s') (hs : NamespacesListed s.namespaces) :
    NamespacesListed s'.namespaces := by
  cases h with
  | addNamespace _ hp _ => exact hs.adopt hp rfl
  | addToken | addSentinel | addRegular | addContext | addAlias =>
    exact hs.modify (fun _ => rfl) fun _ => rfl
  | addLiteral =>
    refine NamespacesListed.modify ?_ (fun _ => rfl) fun _ => rfl
    exact hs.modify (fun _ => rfl) fun _ => rfl
  | _ => exact hs

theorem Steps.namespacesListed {o : Options} (h : Steps (initial o) s) :
    NamespacesListed s.namespaces := by
  have hinitial : NamespacesListed (initial o).namespaces :=
    .push .empty fun _ hp => absurd hp (Option.some_ne_none _).symm
  exact (h.preserves (Q := fun s => NamespacesListed s.namespaces) (closed_initial o)
    Edit.namespacesListed id (fun hb h => hb.namespaces ▸ h)
    (fun h => h.modify (fun _ => rfl) fun _ => rfl) hinitial).2

/-! ## The way to a namespace -/

/-- The namespace `inner` lies in `outer`. -/
def Within (s : Spec) (inner outer : NamespaceId) : Prop :=
  inner ∈ s.namespaces ∧ (s.namespaces.get inner).parent = some outer

instance : Decidable (s.Within n p) := inferInstanceAs (Decidable (_ ∧ _))

/-- A namespace lies for good where it lies once. -/
theorem Within.endures (h : s.Within n p) (hs : s.Endures s') : s'.Within n p := by
  obtain ⟨hmem, hentry⟩ := hs.namespaces.entries n h.1
  have hparent : (s'.namespaces.get n).parent = (s.namespaces.get n).parent :=
    congrArg (·.2.2) hentry
  exact ⟨hmem, hparent.trans h.2⟩

/-- Namespaces up to the root lie in each other if the innermost one lies in the
    next and the others lie in each other. -/
theorem isChain_cons_iff {ns : List NamespaceId} :
    (n :: ns ++ [root]).IsChain s.Within ↔
      s.Within n (ns.head?.getD root) ∧ (ns ++ [root]).IsChain s.Within := by
  cases ns <;> simp

/-- The namespaces are a tree, and each is listed where it lies. -/
structure Addressable (s : Spec) : Prop where
  tree : NamespaceTree s.namespaces
  listed : NamespacesListed s.namespaces

namespace Addressable

theorem parent_eq_none_iff (hs : s.Addressable) (hn : n ∈ s.namespaces) :
    (s.namespaces.get n).parent = none ↔ n = root :=
  hs.tree.parent n _ (Arena.get?_eq_some_get hn)

/-- The root lies in no namespace. -/
theorem ne_root (hs : s.Addressable) (h : s.Within n p) : n ≠ root := by
  intro e
  rw [← hs.parent_eq_none_iff h.1, h.2] at e
  exact nomatch e

/-- Every namespace is the root or lies in another one. -/
theorem exists_within (hs : s.Addressable) (hn : n ∈ s.namespaces) (hr : n ≠ root) :
    ∃ p, s.Within n p := by
  obtain ⟨p, hp⟩ := Option.ne_none_iff_exists'.1 (mt (hs.parent_eq_none_iff hn).1 hr)
  exact ⟨p, hn, hp⟩

theorem lt_and_mem_children (hs : s.Addressable) (h : s.Within n p) :
    p.index < n.index ∧ n ∈ (s.namespaces.get p).children :=
  hs.listed n _ (Arena.get?_eq_some_get h.1) p h.2

theorem mem_outer (hs : s.Addressable) (h : s.Within n p) : p ∈ s.namespaces :=
  (hs.lt_and_mem_children h).1.trans h.1

theorem nodup_names (hs : s.Addressable) (hp : p ∈ s.namespaces) :
    ((s.namespaces.get p).children.map fun c => (s.namespaces.get c).name).Nodup :=
  hs.tree.names p _ (Arena.get?_eq_some_get hp)

theorem count_children (hs : s.Addressable) (h : s.Within n p) :
    (s.namespaces.get p).children.count n = 1 := by
  have hnodup := (hs.nodup_names (hs.mem_outer h)).of_map
  exact List.count_eq_one_of_mem hnodup (hs.lt_and_mem_children h).2

/-- Siblings have different names. -/
theorem eq_of_name_eq (hs : s.Addressable) (hn : s.Within n p) (hm : s.Within m p)
    (h : (s.namespaces.get n).name = (s.namespaces.get m).name) : n = m :=
  List.inj_on_of_nodup_map (hs.nodup_names (hs.mem_outer hn)) (hs.lt_and_mem_children hn).2
    (hs.lt_and_mem_children hm).2 h

/-- What is found within a namespace lies in it and has the name looked for. -/
theorem within_of_child? (hs : s.Addressable) {name : String} (hp : p ∈ s.namespaces)
    (h : s.child? p name = some n) : s.Within n p ∧ (s.namespaces.get n).name = name := by
  rw [child?] at h
  have hname := List.find?_some h
  have hmem := List.mem_of_find?_eq_some h
  exact ⟨hs.tree.child p _ (Arena.get?_eq_some_get hp) n hmem, beq_iff_eq.1 hname⟩

/-- A namespace is found where it lies. -/
theorem child?_of_within (hs : s.Addressable) (h : s.Within n p) :
    s.child? p (s.namespaces.get n).name = some n := by
  obtain ⟨-, hmem⟩ := hs.lt_and_mem_children h
  cases hc : s.child? p (s.namespaces.get n).name with
  | none => exact absurd BEq.rfl (List.find?_eq_none.1 hc n hmem)
  | some c =>
    have hc' := hs.within_of_child? (hs.mem_outer h) hc
    exact congrArg some (hs.eq_of_name_eq hc'.1 h hc'.2)

/-- What holds of the root, and of a namespace if of the one it lies in, holds of
    all. -/
theorem within_induction (hs : s.Addressable) {P : NamespaceId → Prop} (hroot : P root)
    (hstep : ∀ n p, s.Within n p → P p → P n) : ∀ n ∈ s.namespaces, P n := by
  intro n hn
  -- The way outward leads to smaller handles.
  induction hi : n.index using Nat.strong_induction_on generalizing n with
  | _ i ih =>
    by_cases hr : n = root
    · exact hr ▸ hroot
    · obtain ⟨p, hp⟩ := hs.exists_within hn hr
      exact hstep n p hp (ih p.index (hi ▸ (hs.lt_and_mem_children hp).1) p (hs.mem_outer hp) rfl)

/-! ### Paths -/

/-- A way outward that has reached the root goes no further. -/
theorem climb_succ (hs : s.Addressable) {fuel : Nat} (hn : n ∈ s.namespaces)
    (h : n.index < fuel) : s.climb (fuel + 1) n = s.climb fuel n := by
  induction fuel generalizing n with
  | zero => exact absurd h (Nat.not_lt_zero _)
  | succ fuel ih =>
    rw [climb, climb]
    cases hp : (s.namespaces.get n).parent with
    | none => rfl
    | some p =>
      have hw : s.Within n p := ⟨hn, hp⟩
      have hlt := (hs.lt_and_mem_children hw).1
      exact congrArg (n :: ·) (ih (hs.mem_outer hw) (hlt.trans_le (Nat.le_of_lt_succ h)))

theorem outward_of_within (hs : s.Addressable) (h : s.Within n p) :
    s.outward n = n :: s.outward p := by
  have hlt := (hs.lt_and_mem_children h).1
  have hn : n.index < s.namespaces.size := h.1
  obtain ⟨fuel, hfuel⟩ := Nat.exists_eq_add_one_of_ne_zero (Nat.ne_zero_of_lt hn)
  rw [hfuel] at hn
  rw [outward, outward, hfuel, hs.climb_succ (hs.mem_outer h) (hlt.trans_le (Nat.le_of_lt_succ hn)),
    climb, h.2]

theorem path_of_within (hs : s.Addressable) (h : s.Within n p) :
    s.path n = s.path p ++ [(s.namespaces.get n).name] := by
  have hroot : (s.namespaces.get n).isRoot = false := by
    rw [Namespace.isRoot, h.2, Option.isNone_some]
  rw [path, hs.outward_of_within h, List.map_cons, List.reverse_cons, List.filterMap_append, path]
  simp [hroot]

theorem path_root (hs : s.Addressable) : s.path root = [] := by
  have hparent := (hs.parent_eq_none_iff hs.tree.root).2 rfl
  obtain ⟨fuel, hfuel⟩ := Nat.exists_eq_add_one_of_ne_zero (Nat.ne_zero_of_lt hs.tree.root)
  rw [path, outward, hfuel, climb, hparent]
  simp [Namespace.isRoot, hparent]

/-- Only the root has an empty path. -/
theorem path_eq_nil_iff (hs : s.Addressable) (hn : n ∈ s.namespaces) :
    s.path n = [] ↔ n = root := by
  refine ⟨fun h => by_contra fun hr => ?_, fun h => h ▸ hs.path_root⟩
  obtain ⟨p, hp⟩ := hs.exists_within hn hr
  rw [hs.path_of_within hp] at h
  exact List.append_ne_nil_of_right_ne_nil _ (List.cons_ne_nil _ _) h

theorem path_injective (hs : s.Addressable) :
    ∀ n ∈ s.namespaces, ∀ m ∈ s.namespaces, s.path n = s.path m → n = m := by
  refine hs.within_induction (fun m hm h => ?_) fun n p hp ih m hm h => ?_
  · exact ((hs.path_eq_nil_iff hm).1 (h.symm.trans hs.path_root)).symm
  · have hr : m ≠ root := fun e =>
      hs.ne_root hp ((hs.path_eq_nil_iff hp.1).1 (h.trans (e ▸ hs.path_root)))
    obtain ⟨q, hq⟩ := hs.exists_within hm hr
    rw [hs.path_of_within hp, hs.path_of_within hq] at h
    -- The same way leads to where both lie, and there they have the same name.
    obtain ⟨hpath, hname⟩ := List.append_inj' h rfl
    have e : p = q := ih q (hs.mem_outer hq) hpath
    exact hs.eq_of_name_eq hp (e ▸ hq) (List.head_eq_of_cons_eq hname)

theorem isSegment_path (hs : s.Addressable)
    (hw : ∀ n ∈ s.namespaces, n ≠ root → IsSegment (s.namespaces.get n).name) :
    ∀ n ∈ s.namespaces, ∀ x ∈ s.path n, IsSegment x := by
  refine hs.within_induction ?_ fun n p hp ih => ?_
  · exact hs.path_root ▸ fun _ hx => absurd hx List.not_mem_nil
  · rw [hs.path_of_within hp, List.forall_mem_append, List.forall_mem_singleton]
    exact ⟨ih, hw n hp.1 (hs.ne_root hp)⟩

/-- If names are words, a written path leads to one namespace. -/
theorem renderPath_injective (hs : s.Addressable)
    (hw : ∀ n ∈ s.namespaces, n ≠ root → IsSegment (s.namespaces.get n).name)
    (hn : n ∈ s.namespaces) (hm : m ∈ s.namespaces) (h : s.renderPath n = s.renderPath m) :
    n = m :=
  hs.path_injective n hn m hm
    (IsSegment.intercalate_injective (hs.isSegment_path hw n hn) (hs.isSegment_path hw m hm) h)

/-- Namespaces that lie in each other, up to the root, spell the path of the
    innermost one. -/
theorem path_of_isChain (hs : s.Addressable) {ns : List NamespaceId}
    (h : (ns ++ [root]).IsChain s.Within) :
    s.path (ns.head?.getD root) = ns.reverse.map fun n => (s.namespaces.get n).name := by
  induction ns with
  | nil => exact hs.path_root
  | cons n ns ih =>
    obtain ⟨hfirst, hrest⟩ := isChain_cons_iff.1 h
    rw [List.head?_cons, Option.getD_some, hs.path_of_within hfirst, ih hrest, List.reverse_cons,
      List.map_append, List.map_singleton]

end Addressable

theorem within_addNamespace {loc : Location} {name : String} :
    (s.addNamespace loc name p).Within s.namespaces.next p := by
  refine ⟨Arena.mem_modify.2 Arena.next_mem_push, ?_⟩
  exact (Arena.apply_get_modify (g := Namespace.parent) (by intro; rfl) _).trans
    (congrArg Namespace.parent Arena.get_push_next)

theorem Within.addContext {name : String} {loc : Location} {home : NamespaceId}
    {object : ObjectId} (h : s.Within n p) : (s.addContext name loc home object).Within n p :=
  ⟨Arena.mem_modify.2 h.1,
    (Arena.apply_get_modify (g := Namespace.parent) (by intro; rfl) n).trans h.2⟩

end Spec

namespace Draft

variable {o : Options} {d : Draft}

open Spec (root)

theorem Reachable.addressable (hd : Reachable o d) : d.spec.Addressable where
  tree := hd.steps.namespaceTree (Spec.closed_initial o) (Spec.namespaceTree_initial o)
  listed := hd.steps.namespacesListed

/-! ## The open namespaces -/

/-- A namespace is opened in the current one. -/
theorem Reachable.within_openNamespace (hd : Reachable o d) (name : Name) :
    (d.openNamespace name).2.spec.Within (d.openNamespace name).1 d.home := by
  rw [openNamespace]
  split
  next n hn => exact (hd.addressable.within_of_child? hd.sound.home hn).1
  next => exact Spec.within_addNamespace

/-- An operation opens a namespace in the current one, closes the current one, or
    does neither. -/
theorem Reachable.openNamespaces_apply (hd : Reachable o d) {op : Op} (hop : d.Admits op) :
    (op.apply d).openNamespaces = d.openNamespaces ∨
      (op.apply d).openNamespaces = d.openNamespaces.tail ∨
      ∃ n, (op.apply d).openNamespaces = n :: d.openNamespaces ∧
        (op.apply d).spec.Within n d.home := by
  cases op with
  | openNamespace name =>
    have h := congrArg Position.openNamespaces (position_openNamespace d name)
    exact .inr (.inr ⟨_, h, hd.within_openNamespace name⟩)
  | openContext name =>
    have h := congrArg Position.openNamespaces (position_openContext d name)
    have hw : (d.openContext name).2.spec.Within (d.openNamespace name).1 d.home :=
      .addContext (hd.within_openNamespace name)
    exact .inr (.inr ⟨_, h, hw⟩)
  | closeNamespace =>
    exact .inr (.inl (congrArg Position.openNamespaces (position_closeNamespace d)))
  | closeContext =>
    have h := congrArg Position.openNamespaces (position_closeContext d)
    by_cases hc : d.openContexts = []
    · rw [if_pos hc] at h
      exact .inl h
    · rw [if_neg hc] at h
      exact .inr (.inl h)
  | openScanner | openFrame | closeFrame | openScope => exact .inl rfl
  | closeScanner => exact .inl (congrArg Position.openNamespaces (position_closeScanner d))
  | closeScope => exact .inl (congrArg Position.openNamespaces (position_closeScope d))
  | _ => exact .inl (congrArg Position.openNamespaces (hd.sound.position_apply hop rfl))

/-- Each open namespace lies in the one that was opened before it, and the first
    one in the root. -/
theorem Reachable.isChain_openNamespaces (hd : Reachable o d) :
    (d.openNamespaces ++ [root]).IsChain d.spec.Within := by
  induction hd with
  | start => exact List.isChain_singleton root
  | @step d op hd hop ih =>
    -- What was open before is still where it was.
    have hendures : d.spec.Endures (op.apply d).spec :=
      (hd.sound.effect hop).steps.endures hd.sound.closed
    have hold : (d.openNamespaces ++ [root]).IsChain (op.apply d).spec.Within :=
      ih.imp fun _ _ h => h.endures hendures
    obtain h | h | ⟨n, h, hn⟩ := hd.openNamespaces_apply hop
    · rwa [h]
    · rw [h]
      cases hns : d.openNamespaces with
      | nil => exact List.isChain_singleton root
      | cons n ns => exact (Spec.isChain_cons_iff.1 (hns ▸ hold)).2
    · rw [h]
      exact Spec.isChain_cons_iff.2 ⟨hn, hold⟩

theorem openNamespace_of_child? {name : Name} {n : NamespaceId}
    (h : d.spec.child? d.home name.text = some n) : d.openNamespace name = (n, d.enter n) := by
  rw [openNamespace, h]

/-- Within the root, to close the current namespace and to open its name again
    changes nothing. -/
theorem Reachable.reopens (hd : Reachable o d) (hr : d.home ≠ root) {name : Name}
    (hname : name.text = (d.spec.namespaces.get d.home).name) :
    d.closeNamespace.1 = .ok d.home ∧ d.closeNamespace.2.openNamespace name = (d.home, d) := by
  cases hns : d.openNamespaces with
  | nil => exact absurd (by rw [home, hns]; rfl) hr
  | cons n ns =>
    have hhome : d.home = n := by rw [home, hns]; rfl
    obtain ⟨hw, -⟩ := Spec.isChain_cons_iff.1 (hns ▸ hd.isChain_openNamespaces)
    have hfound : d.spec.child? (ns.head?.getD root) name.text = some n := by
      rw [hname, hhome]
      exact hd.addressable.child?_of_within hw
    have hsame : enter { d with openNamespaces := ns } n = d := by
      rw [enter, ← hns]
    rw [closeNamespace_of_cons hns, hhome]
    exact ⟨rfl, (openNamespace_of_child? hfound).trans (congrArg (n, ·) hsame)⟩

/-- Namespaces are a tree: the root alone lies in no other, any other one comes
    after the one it lies in and is listed there once, and siblings have
    different names. Each open namespace lies in the one opened before it, so
    their names, joined by colons, are the path of the current one; if names are
    words, no two namespaces have the same path. To close the current namespace,
    if it is not the root, and to open its name again leads to the same draft. -/
theorem namespaces_addressed_by_path (hd : Reachable o d) :
    let spaces := d.spec.namespaces
    let name := fun n => (spaces.get n).name
    (∀ n ∈ spaces, (spaces.get n).parent = none ↔ n = root) ∧
      (∀ n ∈ spaces, n ≠ root → ∃ p ∈ spaces, (spaces.get n).parent = some p ∧
        p.index < n.index ∧ (spaces.get p).children.count n = 1) ∧
      (∀ p ∈ spaces, ((spaces.get p).children.map name).Nodup) ∧
      (d.openNamespaces ++ [root]).IsChain (fun n p => n ∈ (spaces.get p).children) ∧
      d.spec.renderPath d.home = "::".intercalate (d.openNamespaces.reverse.map name) ∧
      ((∀ n ∈ spaces, n ≠ root → IsSegment (name n)) →
        ∀ n ∈ spaces, ∀ m ∈ spaces, d.spec.renderPath n = d.spec.renderPath m → n = m) ∧
      (d.home ≠ root → ∀ x : Name, x.text = name d.home →
        d.closeNamespace.1 = .ok d.home ∧ d.closeNamespace.2.openNamespace x = (d.home, d)) := by
  have hs := hd.addressable
  have hopen := hd.isChain_openNamespaces
  refine ⟨fun n hn => hs.parent_eq_none_iff hn, fun n hn hr => ?_, fun p hp => hs.nodup_names hp,
    hopen.imp fun _ _ h => (hs.lt_and_mem_children h).2, ?_, fun hw n hn m hm => ?_,
    fun hr x hx => hd.reopens hr hx⟩
  · obtain ⟨p, hp⟩ := hs.exists_within hn hr
    exact ⟨p, hs.mem_outer hp, hp.2, (hs.lt_and_mem_children hp).1, hs.count_children hp⟩
  · exact congrArg ("::".intercalate ·) (hs.path_of_isChain hopen)
  · exact hs.renderPath_injective hw hn hm

/-- A namespace with another one and a context within it, closed and opened
    again: the context is open, in the namespace of its name. -/
theorem namespaces_addressed_by_path_nested :
    let d := (start {}).run
      [ .openNamespace { text := "outer" }
      , .openNamespace { text := "inner" }
      , .closeNamespace
      , .openContext { text := "state" }
      , .closeContext
      , .closeNamespace
      , .openNamespace { text := "outer" }
      , .openContext { text := "state" } ]
    Reachable {} d ∧ d.openNamespaces = [⟨3⟩, ⟨1⟩] ∧ d.home ≠ root ∧
      (∀ n ∈ d.spec.namespaces, n ≠ root → IsSegment (d.spec.namespaces.get n).name) ∧
      d.spec.renderPath d.home = "outer::state" ∧
      (∀ n ∈ d.spec.namespaces, d.spec.renderPath n = "outer::state" → n = d.home) ∧
      d.closeNamespace.2.openNamespace { text := "state" } = (d.home, d) := by
  intro d
  have hd : Reachable {} d := Reachable.start.run (by decide +kernel)
  have hr : d.home ≠ root := by decide +kernel
  have hpath : d.spec.renderPath d.home = "outer::state" := by decide +kernel
  have hnames : ∀ x ∈ d.spec.namespaces.toList, IsSegment x.name := by decide +kernel
  have hw : ∀ n ∈ d.spec.namespaces, n ≠ root → IsSegment (d.spec.namespaces.get n).name :=
    fun n hn _ => hnames _ (Arena.mem_toList.2 ⟨n, Arena.get?_eq_some_get hn⟩)
  obtain ⟨-, -, -, -, -, hinjective, hreopens⟩ := namespaces_addressed_by_path hd
  refine ⟨hd, by decide +kernel, hr, hw, hpath, fun n hn h => ?_, ?_⟩
  · exact hinjective hw n hn d.home hd.sound.home (h.trans hpath.symm)
  · exact (hreopens hr { text := "state" } (by decide +kernel)).2

end Draft

end LangSpec
