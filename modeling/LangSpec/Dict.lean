/-!
# Dictionaries

A dictionary maps names to values and keeps the order in which the names came:
a name that is already there keeps its place when its value is replaced.

* `find?_insert`: a name finds what was last put under it;
* `entries_insert_of_find?_eq_none`: a new name comes last;
* `keys_insert`: an old name keeps its place.
-/

namespace LangSpec

/-- A map from names to values, in the order of the names' arrival. -/
structure Dict (β : Type) where
  /-- The names with their values. -/
  entries : List (String × β)

namespace Dict

variable {β : Type}

/-- The dictionary without entries. -/
def empty : Dict β := ⟨[]⟩

instance : Inhabited (Dict β) := ⟨empty⟩

/-- The value of the first entry named `k`. -/
def findEntry (k : String) : List (String × β) → Option β
  | [] => none
  | e :: es => if e.1 = k then some e.2 else findEntry k es

/-- Writes `v` over the value of the first entry named `k`, or after all
    entries if there is none. -/
def insertEntry (k : String) (v : β) : List (String × β) → List (String × β)
  | [] => [(k, v)]
  | e :: es => if e.1 = k then (k, v) :: es else e :: insertEntry k v es

/-- The value under `k`. -/
def find? (d : Dict β) (k : String) : Option β := findEntry k d.entries

/-- The names, in the order of their arrival. -/
def keys (d : Dict β) : List String := d.entries.map (·.1)

/-- The values, in the order of their names. -/
def values (d : Dict β) : List β := d.entries.map (·.2)

/-- The dictionary with the value `v` under `k`. -/
def insert (d : Dict β) (k : String) (v : β) : Dict β := ⟨insertEntry k v d.entries⟩

/-- The dictionary without the name `k`. -/
def erase (d : Dict β) (k : String) : Dict β := ⟨d.entries.filter (·.1 != k)⟩

@[simp] theorem find?_empty (k : String) : (empty : Dict β).find? k = none := rfl

theorem findEntry_insertEntry (k k' : String) (v : β) (es : List (String × β)) :
    findEntry k' (insertEntry k v es) = if k = k' then some v else findEntry k' es := by
  induction es with
  | nil => rfl
  | cons e es ih =>
    by_cases h : e.1 = k
    · by_cases h' : k = k' <;> simp [insertEntry, findEntry, h, h']
    · by_cases h' : e.1 = k'
      · subst h'
        simp [insertEntry, findEntry, h, Ne.symm h]
      · simp [insertEntry, findEntry, h, h', ih]

theorem find?_insert (d : Dict β) (k k' : String) (v : β) :
    (d.insert k v).find? k' = if k = k' then some v else d.find? k' :=
  findEntry_insertEntry k k' v d.entries

@[simp] theorem find?_insert_self (d : Dict β) (k : String) (v : β) :
    (d.insert k v).find? k = some v := by
  rw [find?_insert, if_pos rfl]

/-- What a name finds stays when another name comes in. -/
theorem find?_insert_of_free {d : Dict β} {k k' : String} {v v' : β} (h : d.find? k = none)
    (hv : d.find? k' = some v') : (d.insert k v).find? k' = some v' := by
  rw [find?_insert, if_neg, hv]
  rintro rfl
  exact nomatch h.symm.trans hv

theorem find?_eq_none_iff {d : Dict β} {k : String} : d.find? k = none ↔ k ∉ d.keys := by
  obtain ⟨es⟩ := d
  induction es with
  | nil => simp [find?, findEntry, keys]
  | cons e es ih =>
    by_cases h : e.1 = k
    · simp [find?, findEntry, keys, h]
    · simpa [find?, findEntry, keys, h, Ne.symm h] using ih

theorem mem_entries_of_find? {d : Dict β} {k : String} {v : β} (h : d.find? k = some v) :
    (k, v) ∈ d.entries := by
  obtain ⟨es⟩ := d
  induction es with
  | nil => exact nomatch h
  | cons e es ih =>
    rw [find?, findEntry] at h
    split at h
    next he =>
      cases h
      exact he ▸ List.mem_cons_self
    next => exact List.mem_cons_of_mem _ (ih h)

theorem find?_of_mem_entries {d : Dict β} (hd : d.keys.Nodup) {k : String} {v : β}
    (h : (k, v) ∈ d.entries) : d.find? k = some v := by
  obtain ⟨es⟩ := d
  induction es with
  | nil => exact absurd h List.not_mem_nil
  | cons e es ih =>
    rw [keys, List.map_cons, List.nodup_cons] at hd
    rw [find?, findEntry]
    rcases List.mem_cons.1 h with rfl | h
    · rw [if_pos rfl]
    · -- The first entry has another name, as none comes twice.
      have hk : k ∈ es.map (·.1) := List.mem_map.2 ⟨_, h, rfl⟩
      have hne : e.1 ≠ k := fun he => hd.1 (he ▸ hk)
      rw [if_neg hne]
      exact ih hd.2 h

/-- A new name comes last. -/
theorem entries_insert_of_find?_eq_none {d : Dict β} {k : String} (h : d.find? k = none) (v : β) :
    (d.insert k v).entries = d.entries ++ [(k, v)] := by
  obtain ⟨es⟩ := d
  induction es with
  | nil => rfl
  | cons e es ih =>
    rw [find?_eq_none_iff, keys, List.map_cons, List.mem_cons, not_or] at h
    have := ih (find?_eq_none_iff.2 h.2)
    simpa [insert, insertEntry, Ne.symm h.1] using this

/-- Nothing comes in but the new entry. -/
theorem mem_insert {d : Dict β} {k : String} {v : β} {e : String × β}
    (he : e ∈ (d.insert k v).entries) : e ∈ d.entries ∨ e = (k, v) := by
  obtain ⟨es⟩ := d
  induction es with
  | nil => exact .inr (List.mem_singleton.1 he)
  | cons e' es ih =>
    rw [insert, insertEntry] at he
    split at he
    · rcases List.mem_cons.1 he with he | he
      · exact .inr he
      · exact .inl (List.mem_cons_of_mem _ he)
    · rcases List.mem_cons.1 he with he | he
      · exact .inl (he ▸ List.mem_cons_self)
      · exact (ih he).imp_left (List.mem_cons_of_mem _)

/-- A new name comes last, an old one keeps its place. -/
theorem keys_insert (d : Dict β) (k : String) (v : β) :
    (d.insert k v).keys = if k ∈ d.keys then d.keys else d.keys ++ [k] := by
  obtain ⟨es⟩ := d
  induction es with
  | nil => rfl
  | cons e es ih =>
    by_cases h : e.1 = k
    · simp [insert, insertEntry, keys, h]
    · by_cases hk : k ∈ es.map (·.1)
      · simpa [insert, insertEntry, keys, h, hk, Ne.symm h] using ih
      · simpa [insert, insertEntry, keys, h, hk, Ne.symm h] using ih

end Dict

end LangSpec
