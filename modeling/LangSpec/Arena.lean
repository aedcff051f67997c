import LangSpec.Handle

/-!
# Arenas

An arena is one table of a specification: entries are added at its end and
changed in place, never removed, so that a handle once given stays good.

* `get?_push`: adding an entry puts it at the next handle and keeps the others;
* `get?_modify`: changing an entry keeps the others;
* `Arena.ids`: the handles of an arena, in order.
-/

namespace LangSpec

/-- The table `t`, with entries of type `α`. -/
structure Arena (t : Table) (α : Type) where
  /-- The entries, in the order of their handles. -/
  entries : Array α

namespace Arena

variable {t : Table} {α : Type}

/-- The arena without entries. -/
def empty : Arena t α := ⟨#[]⟩

instance : Inhabited (Arena t α) := ⟨empty⟩

/-- The number of entries. -/
def size (a : Arena t α) : Nat := a.entries.size

/-- The handle the next entry gets. -/
def next (a : Arena t α) : Handle t := ⟨a.size⟩

instance : Membership (Handle t) (Arena t α) := ⟨fun a h => h.index < a.size⟩

theorem mem_iff {a : Arena t α} {h : Handle t} : h ∈ a ↔ h.index < a.size := Iff.rfl

instance (a : Arena t α) (h : Handle t) : Decidable (h ∈ a) :=
  inferInstanceAs (Decidable (h.index < a.size))

/-- The entry at `h`, if `h` lies in the arena. -/
def get? (a : Arena t α) (h : Handle t) : Option α := a.entries[h.index]?

/-- The entry at `h`, and a blank one for a handle outside the arena. -/
def get [Inhabited α] (a : Arena t α) (h : Handle t) : α := (a.get? h).getD default

/-- The arena with `x` added at its end. -/
def push (a : Arena t α) (x : α) : Arena t α := ⟨a.entries.push x⟩

/-- The arena with the entry at `h` changed by `f`. A handle outside the
    arena changes nothing. -/
def modify (a : Arena t α) (h : Handle t) (f : α → α) : Arena t α :=
  ⟨a.entries.modify h.index f⟩

/-- The entries, in the order of their handles. -/
def toList (a : Arena t α) : List α := a.entries.toList

/-- The handles of the arena, in order. -/
def ids (a : Arena t α) : List (Handle t) := (List.range a.size).map Handle.mk

@[simp] theorem size_push (a : Arena t α) (x : α) : (a.push x).size = a.size + 1 :=
  Array.size_push x

@[simp] theorem size_modify (a : Arena t α) (h : Handle t) (f : α → α) :
    (a.modify h f).size = a.size :=
  Array.size_modify

@[simp] theorem toList_push (a : Arena t α) (x : α) : (a.push x).toList = a.toList ++ [x] :=
  Array.toList_push

@[simp] theorem mem_push {a : Arena t α} {x : α} {h : Handle t} :
    h ∈ a.push x ↔ h ∈ a ∨ h = a.next := by
  rw [mem_iff, mem_iff, size_push, Nat.lt_succ_iff_lt_or_eq]
  exact or_congr_right ⟨fun e => Handle.index_injective e, fun e => e ▸ rfl⟩

@[simp] theorem mem_modify {a : Arena t α} {f : α → α} {h h' : Handle t} :
    h' ∈ a.modify h f ↔ h' ∈ a := by
  rw [mem_iff, mem_iff, size_modify]

theorem get?_eq_none_iff {a : Arena t α} {h : Handle t} : a.get? h = none ↔ h ∉ a := by
  rw [get?, mem_iff, size, Array.getElem?_eq_none_iff, Nat.not_lt]

theorem get?_push (a : Arena t α) (x : α) (h : Handle t) :
    (a.push x).get? h = if h = a.next then some x else a.get? h := by
  obtain ⟨i⟩ := h
  simp only [get?, push, next, size, Array.getElem?_push, Handle.mk.injEq]

@[simp] theorem get?_push_next (a : Arena t α) (x : α) : (a.push x).get? a.next = some x := by
  rw [get?_push, if_pos rfl]

theorem get?_modify (a : Arena t α) (h h' : Handle t) (f : α → α) :
    (a.modify h f).get? h' = if h = h' then (a.get? h').map f else a.get? h' := by
  obtain ⟨i⟩ := h
  obtain ⟨j⟩ := h'
  simp only [get?, modify, Array.getElem?_modify, Handle.mk.injEq]

@[simp] theorem mem_ids {a : Arena t α} {h : Handle t} : h ∈ a.ids ↔ h ∈ a := by
  rw [ids, List.mem_map, mem_iff]
  exact ⟨fun ⟨_, hi, e⟩ => e ▸ List.mem_range.1 hi, fun hi => ⟨h.index, List.mem_range.2 hi, rfl⟩⟩

end Arena

end LangSpec
