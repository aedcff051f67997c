import LangSpec.Arena
import Mathlib.Data.List.Nodup

/-!
# Entries of arenas

A property of a specification is mostly one of the entries of an arena, each
under its handle. Such a property (`Arena.Forall`) holds of a longer arena if it
holds of the new entry, and of a changed one if the change keeps it.

* `get_push_of_mem`, `get_modify_self`, `get_modify_of_ne`: reading a changed
  arena;
* `apply_get_push`, `apply_get_modify`: what all entries keep;
* `Forall.push`, `Forall.modify`: the two ways an arena changes;
* `select`: the handles of the entries with a property;
* `Retains`: what stays of all entries, while others come;
* `Finds`: what is found in an entry under a name is found there for good.
-/

namespace LangSpec

/-- What a change keeps of an element of a list, the list keeps. -/
theorem map_modify_of_eq {α β : Type} {xs : List α} {i : Nat} {f : α → α} {g : α → β}
    (hg : ∀ x, g (f x) = g x) : (xs.modify i f).map g = xs.map g := by
  induction xs generalizing i with
  | nil => rw [List.modify_nil]
  | cons x xs ih =>
    -- The first element is the one changed, or it is one of the others.
    cases i with
    | zero => rw [List.modify_zero_cons, List.map_cons, List.map_cons, hg]
    | succ i => rw [List.modify_succ_cons, List.map_cons, List.map_cons, ih]

/-- The handle after this one. -/
def Handle.succ {t : Table} (h : Handle t) : Handle t := ⟨h.index + 1⟩

namespace Arena

variable {t : Table} {α : Type} {a : Arena t α} {x y : α} {h : Handle t} {f : α → α}

/-! ## Reading an arena -/

theorem mem_of_get? (hx : a.get? h = some x) : h ∈ a := by
  obtain ⟨hi, _⟩ := Array.getElem?_eq_some_iff.1 hx
  exact hi

theorem exists_get?_of_mem (hh : h ∈ a) : ∃ x, a.get? h = some x :=
  ⟨_, Array.getElem?_eq_getElem hh⟩

theorem not_next_mem : a.next ∉ a := Nat.lt_irrefl _

@[simp] theorem next_mem_push : a.next ∈ a.push x := mem_push.2 (.inr rfl)

theorem next_push : (a.push x).next = a.next.succ := congrArg Handle.mk (size_push a x)

theorem get_eq [Inhabited α] (hx : a.get? h = some x) : a.get h = x := by
  rw [get, hx]
  rfl

theorem get?_eq_some_get [Inhabited α] (hh : h ∈ a) : a.get? h = some (a.get h) := by
  obtain ⟨x, hx⟩ := exists_get?_of_mem hh
  rw [hx, get_eq hx]

@[simp] theorem get?_empty : (empty : Arena t α).get? h = none := by
  simp [get?, empty]

theorem get?_push_of_mem (hh : h ∈ a) : (a.push x).get? h = a.get? h := by
  rw [get?_push, if_neg fun e => not_next_mem (e ▸ hh)]

theorem get?_push_of_get? (hy : a.get? h = some y) : (a.push x).get? h = some y := by
  rw [get?_push_of_mem (mem_of_get? hy), hy]

@[simp] theorem get_push_next [Inhabited α] : (a.push x).get a.next = x :=
  get_eq (get?_push_next a x)

/-- The second of two new entries. -/
theorem get?_push_push_succ : ((a.push x).push y).get? a.next.succ = some y := by
  rw [← next_push (x := x), get?_push_next]

theorem get_push_of_mem [Inhabited α] (hh : h ∈ a) : (a.push x).get h = a.get h := by
  rw [get, get?_push_of_mem hh, get]

theorem get_of_not_mem [Inhabited α] (hh : h ∉ a) : a.get h = default := by
  rw [get, get?_eq_none_iff.2 hh]
  rfl

/-- What a new entry shares with a blank one is the same under all handles. -/
theorem apply_get_push [Inhabited α] {β : Type} {g : α → β} (hx : g x = g default)
    (h' : Handle t) : g ((a.push x).get h') = g (a.get h') := by
  by_cases e : h' = a.next
  · -- The handle led nowhere before, so a blank entry was read.
    rw [e, get_push_next, get_of_not_mem not_next_mem, hx]
  · rw [get, get?_push, if_neg e, get]

theorem get_modify_self [Inhabited α] (hh : h ∈ a) : (a.modify h f).get h = f (a.get h) := by
  rw [get, get?_modify, if_pos rfl, get?_eq_some_get hh]
  rfl

theorem get_modify_of_ne [Inhabited α] {h' : Handle t} (hne : h ≠ h') :
    (a.modify h f).get h' = a.get h' := by
  rw [get, get?_modify, if_neg hne, get]

/-- What a change keeps of an entry, it keeps of all. -/
theorem apply_get_modify [Inhabited α] {β : Type} {g : α → β} (hg : ∀ x, g (f x) = g x)
    (h' : Handle t) : g ((a.modify h f).get h') = g (a.get h') := by
  rw [get, get?_modify, get]
  split
  · cases a.get? h' with
    | none => rfl
    | some x => exact hg x
  · rfl

/-- What a change keeps true of an entry, it keeps true of all. -/
theorem get_modify_of_imp [Inhabited α] {p : α → Prop} (hf : ∀ x, p x → p (f x)) {h' : Handle t}
    (hp : p (a.get h')) : p ((a.modify h f).get h') := by
  rw [get] at hp
  rw [get, get?_modify]
  split
  · cases hx : a.get? h' with
    | none => rwa [hx] at hp
    | some x =>
      rw [hx] at hp
      exact hf x hp
  · exact hp

theorem modify_push_next : (a.push x).modify a.next f = a.push (f x) := by
  obtain ⟨es⟩ := a
  simp only [modify, push, next, size, mk.injEq]
  apply Array.ext_getElem?
  intro i
  rw [Array.getElem?_modify, Array.getElem?_push, Array.getElem?_push]
  by_cases hi : es.size = i
  · rw [if_pos hi, if_pos hi.symm, if_pos hi.symm]
    rfl
  · rw [if_neg hi, if_neg (Ne.symm hi), if_neg (Ne.symm hi)]

theorem getElem?_toList (i : Nat) : a.toList[i]? = a.get? ⟨i⟩ := Array.getElem?_toList

theorem mem_toList : x ∈ a.toList ↔ ∃ h, a.get? h = some x := by
  simp only [List.mem_iff_getElem?, getElem?_toList]
  exact ⟨fun ⟨i, hi⟩ => ⟨⟨i⟩, hi⟩, fun ⟨h, hh⟩ => ⟨h.index, hh⟩⟩

theorem mem_zipIdx_toList {i : Nat} : (x, i) ∈ a.toList.zipIdx ↔ a.get? ⟨i⟩ = some x := by
  rw [List.mem_zipIdx_iff_getElem?, getElem?_toList]

/-- Lists kept in the entries of an arena have no element twice if each has none,
    and no element is in two of them. -/
theorem nodup_flatMap {β : Type} {g : α → List β} (hg : ∀ h x, a.get? h = some x → (g x).Nodup)
    (hd : ∀ {h h' x x' b}, a.get? h = some x → a.get? h' = some x' → b ∈ g x → b ∈ g x' → h = h') :
    (a.toList.flatMap g).Nodup := by
  rw [List.nodup_flatMap]
  constructor
  · intro x hx
    obtain ⟨h, hh⟩ := mem_toList.1 hx
    exact hg h x hh
  · -- An element of two lists would be under one handle, at two places.
    rw [List.pairwise_iff_getElem]
    intro i j hi hj hlt b hb hb'
    have hx := (getElem?_toList i).symm.trans (List.getElem?_eq_getElem hi)
    have hx' := (getElem?_toList j).symm.trans (List.getElem?_eq_getElem hj)
    exact Nat.ne_of_lt hlt (congrArg Handle.index (hd hx hx' hb hb'))

/-! ## Properties of all entries -/

/-- Every entry has the property `P`, which may speak of its handle, too. -/
def Forall (a : Arena t α) (P : Handle t → α → Prop) : Prop :=
  ∀ h x, a.get? h = some x → P h x

namespace Forall

variable {P Q : Handle t → α → Prop}

theorem empty : (empty : Arena t α).Forall P := fun _ _ hx => by simp at hx

theorem imp (ha : a.Forall P) (hpq : ∀ h x, a.get? h = some x → P h x → Q h x) : a.Forall Q :=
  fun h x hx => hpq h x hx (ha h x hx)

theorem push (ha : a.Forall P) (hx : P a.next x) : (a.push x).Forall P := by
  intro h y hy
  rw [get?_push] at hy
  split at hy
  next e =>
    cases hy
    exact e ▸ hx
  next => exact ha h y hy

theorem modify (ha : a.Forall P) (hf : ∀ x, a.get? h = some x → P h x → P h (f x)) :
    (a.modify h f).Forall P := by
  intro h' y hy
  rw [get?_modify] at hy
  split at hy
  next e =>
    obtain ⟨x, hx, rfl⟩ := Option.map_eq_some_iff.1 hy
    subst e
    exact hf x hx (ha h x hx)
  next => exact ha h' y hy

end Forall

theorem forall_mem_toList {p : α → Prop} :
    (∀ x ∈ a.toList, p x) ↔ a.Forall fun _ x => p x := by
  simp only [mem_toList, forall_exists_index, Forall]
  exact forall_comm

/-! ## The entries with a property -/

theorem ids_push : (a.push x).ids = a.ids ++ [a.next] := by
  rw [ids, size_push, List.range_succ, List.map_append]
  rfl

theorem ids_modify : (a.modify h f).ids = a.ids := by
  rw [ids, size_modify, ids]

/-- The handles of the entries with the property `p`, in order. -/
def select [Inhabited α] (a : Arena t α) (p : α → Bool) : List (Handle t) :=
  a.ids.filter fun h => p (a.get h)

section Select

variable [Inhabited α] {p : α → Bool}

theorem mem_select : h ∈ a.select p ↔ h ∈ a ∧ p (a.get h) = true := by
  rw [select, List.mem_filter, mem_ids]

/-- A handle is less than those after it. -/
theorem pairwise_select : (a.select p).Pairwise fun h h' => h.index < h'.index := by
  refine List.Pairwise.filter _ ?_
  rw [ids, List.pairwise_map]
  exact List.pairwise_lt_range

theorem nodup_select : (a.select p).Nodup :=
  pairwise_select.imp fun hlt e => Nat.ne_of_lt hlt (congrArg Handle.index e)

theorem select_eq_nil (hp : ∀ h ∈ a, p (a.get h) = false) : a.select p = [] := by
  rw [select, List.filter_eq_nil_iff]
  intro h hh
  rw [hp h (mem_ids.1 hh)]
  exact Bool.false_ne_true

/-- A new entry comes last, if it has the property. -/
theorem select_push : (a.push x).select p = a.select p ++ if p x then [a.next] else [] := by
  have hold : a.ids.filter (fun h => p ((a.push x).get h)) = a.select p :=
    List.filter_congr fun h hh => by rw [get_push_of_mem (mem_ids.1 hh)]
  rw [select, ids_push, List.filter_append, hold, List.filter_singleton, get_push_next,
    Bool.cond_eq_ite]

/-- A change that does not matter for the property changes nothing here. -/
theorem select_modify (hp : ∀ x, p (f x) = p x) : (a.modify h f).select p = a.select p := by
  rw [select, ids_modify]
  exact List.filter_congr fun h' _ => apply_get_modify hp h'

theorem select_push_modify (hp : ∀ x, p (f x) = p x) :
    ((a.push x).modify h f).select p = a.select p ++ if p x then [a.next] else [] :=
  (select_modify hp).trans select_push

end Select

/-! ## What stays of all entries -/

/-- The entries are still there, and `g` is the same of each. -/
def Retains [Inhabited α] {β : Type} (g : α → β) (a a' : Arena t α) : Prop :=
  ∀ h ∈ a, h ∈ a' ∧ g (a'.get h) = g (a.get h)

namespace Retains

variable [Inhabited α] {β : Type} {g : α → β} {a' a'' : Arena t α}

theorem refl : Retains g a a := fun _ hh => ⟨hh, rfl⟩

theorem of_eq (h : a' = a) : Retains g a a' := h ▸ refl

theorem trans (h₁ : Retains g a a') (h₂ : Retains g a' a'') : Retains g a a'' := by
  intro h hh
  obtain ⟨hmem, heq⟩ := h₁ h hh
  obtain ⟨hmem', heq'⟩ := h₂ h hmem
  exact ⟨hmem', heq'.trans heq⟩

theorem push : Retains g a (a.push x) :=
  fun _ hh => ⟨mem_push.2 (.inl hh), congrArg g (get_push_of_mem hh)⟩

theorem modify (hg : ∀ x, g (f x) = g x) : Retains g a (a.modify h f) :=
  fun h' hh => ⟨mem_modify.2 hh, apply_get_modify hg h'⟩

end Retains

/-! ## What stays of all lookups -/

/-- Whatever `find` finds in an entry under a name, it still finds. -/
def Finds [Inhabited α] {β : Type} (find : α → String → Option β) (a a' : Arena t α) : Prop :=
  ∀ h k v, find (a.get h) k = some v → find (a'.get h) k = some v

namespace Finds

variable [Inhabited α] {β : Type} {find : α → String → Option β} {a' a'' : Arena t α}

theorem refl : Finds find a a := fun _ _ _ hv => hv

theorem trans (h₁ : Finds find a a') (h₂ : Finds find a' a'') : Finds find a a'' :=
  fun h k v hv => h₂ h k v (h₁ h k v hv)

theorem push (hd : ∀ k, find default k = none) : Finds find a (a.push x) := by
  intro h k v hv
  by_cases hh : h ∈ a
  · rwa [get_push_of_mem hh]
  · -- Under a handle that leads nowhere nothing is found.
    rw [get_of_not_mem hh, hd k] at hv
    exact nomatch hv

/-- An entry changed so that everything found in it stays. -/
theorem modify (hf : ∀ k v, find (a.get h) k = some v → find (f (a.get h)) k = some v) :
    Finds find a (a.modify h f) := by
  intro h' k v hv
  by_cases e : h = h'
  · subst e
    by_cases hh : h ∈ a
    · rw [get_modify_self hh]
      exact hf k v hv
    · rwa [get_of_not_mem fun hh' => hh (mem_modify.1 hh'), ← get_of_not_mem hh]
  · rwa [get_modify_of_ne e]

end Finds

end Arena

end LangSpec
