import LangSpec.Regex.CharClass
import Mathlib.Data.List.Chain

/-!
# Texts in character classes

Nothing is lost when the texts of a character class are put together. The items,
as they are written, fall into *runs*: a range is a run by itself, and texts one
after another are one run as long as no range comes in between. The items of the
class are one for each run, in this order: the range, or the texts of the run
written as one.

So a class can be told from its runs. A run is appended like the one item that
stands for it, whatever the class before (`foldl_append_written`), and items of
which no two adjacent ones are texts are appended as they are
(`items_foldl_append`).

* `runs`: the runs of a list of items;
* `merged`: the items that stand for them;
* `adjacent_texts_merged`: what a class is made of, and when two are the same.
-/

namespace LangSpec.Regex

/-- The item is a text. -/
def ClassItem.isChars : ClassItem → Bool
  | chars _ => true
  | range _ _ => false

/-- At most one of the two items is a text. -/
def ClassItem.Apart (x y : ClassItem) : Prop := ¬(x.isChars = true ∧ y.isChars = true)

/-- A range, or at least one text after another. -/
inductive Run
  | range (low high : Char)
  | texts (first : String) (rest : List String)

/-- The items of the run, as they are written. -/
def Run.written : Run → List ClassItem
  | range low high => [.range low high]
  | texts first rest => (first :: rest).map .chars

/-- The item that stands for the run. -/
def Run.item : Run → ClassItem
  | range low high => .range low high
  | texts first rest => .chars (String.join (first :: rest))

namespace CharClass

variable {c : CharClass}

/-- The runs of the items. A text belongs to the texts right after it. -/
def runs : List ClassItem → List Run
  | [] => []
  | .range low high :: xs => .range low high :: runs xs
  | .chars text :: xs =>
    match runs xs with
    | .texts first rest :: rs => .texts text (first :: rest) :: rs
    | rs => .texts text [] :: rs

/-- The items with one text in place of each run of texts. -/
def merged (xs : List ClassItem) : List ClassItem := (runs xs).map Run.item

/-- The runs are what is written. -/
theorem flatMap_written_runs (xs : List ClassItem) : (runs xs).flatMap Run.written = xs := by
  fun_induction runs xs with
  | case1 => rfl
  | case2 low high xs ih => rw [List.flatMap_cons, ih]; rfl
  | case3 text xs first rest rs h ih =>
    rw [h] at ih
    rw [← ih]
    rfl
  | case4 text xs h ih => rw [List.flatMap_cons, ih]; rfl

/-- No two adjacent runs are runs of texts. -/
theorem isChain_merged (xs : List ClassItem) : (merged xs).IsChain ClassItem.Apart := by
  rw [merged]
  fun_induction runs xs with
  | case1 => exact .nil
  | case2 low high xs ih => exact ih.cons fun _ _ => fun h => nomatch h.1
  | case3 text xs first rest rs h ih =>
    rw [h, List.map_cons, List.isChain_cons] at ih
    exact List.isChain_cons.2 ih
  | case4 text xs h ih =>
    -- What comes next begins with a range, if anything does.
    refine ih.cons fun y hy hboth => ?_
    cases hr : runs xs with
    | nil => rw [hr] at hy; exact nomatch hy
    | cons r rs =>
      rw [hr] at hy
      cases Option.mem_some.1 hy
      cases r with
      | range => exact nomatch hboth.2
      | texts first rest => exact h first rest rs hr

/-- A run is appended like the item that stands for it. -/
theorem foldl_append_written (c : CharClass) (r : Run) :
    r.written.foldl append c = c.append r.item := by
  cases r with
  | range low high => rfl
  | texts first rest =>
    induction rest generalizing first with
    | nil => simp [Run.written, Run.item, String.join]
    | cons next rest ih =>
      have h : (rest.map ClassItem.chars).foldl append (c.append (.chars (first ++ next))) =
          c.append (.chars (String.join ((first ++ next) :: rest))) := ih (first ++ next)
      rw [← append_chars_append_chars] at h
      simpa [Run.written, Run.item, String.join] using h

theorem ofItems_flatMap_written (rs : List Run) :
    ofItems (rs.flatMap Run.written) = ofItems (rs.map Run.item) := by
  rw [ofItems, ofItems, List.foldl_flatMap, List.foldl_map]
  simp only [foldl_append_written]

/-- An item after one it stands apart from is appended as it is. -/
theorem items_append {x : ClassItem} (h : (c.items ++ [x]).IsChain ClassItem.Apart) :
    (c.append x).items = c.items ++ [x] := by
  cases c with
  | empty => rfl
  | snoc before last =>
    cases last with
    | range => rfl
    | chars text =>
      cases x with
      | range => rfl
      | chars more =>
        rw [items, List.append_assoc] at h
        have hpair : [ClassItem.chars text, .chars more].IsChain ClassItem.Apart :=
          h.right_of_append
        exact absurd ⟨rfl, rfl⟩ (List.isChain_pair.1 hpair)

theorem items_foldl_append {xs : List ClassItem}
    (h : (c.items ++ xs).IsChain ClassItem.Apart) :
    (xs.foldl append c).items = c.items ++ xs := by
  induction xs generalizing c with
  | nil => exact (List.append_nil _).symm
  | cons x xs ih =>
    rw [List.append_cons] at h ⊢
    have hx : (c.append x).items = c.items ++ [x] := items_append h.left_of_append
    rw [← hx] at h ⊢
    exact ih h

theorem items_ofItems (xs : List ClassItem) : (ofItems xs).items = merged xs := by
  have h : ofItems xs = ofItems (merged xs) := by
    rw [merged, ← ofItems_flatMap_written, flatMap_written_runs]
  rw [h]
  exact items_foldl_append (isChain_merged xs)

theorem items_injective : Function.Injective items := by
  intro c c' h
  induction c generalizing c' with
  | empty =>
    cases c' with
    | empty => rfl
    | snoc => simp [items] at h
  | snoc before last ih =>
    cases c' with
    | empty => simp [items] at h
    | snoc before' last' =>
      obtain ⟨hbefore, hlast⟩ := List.append_inj' h rfl
      rw [ih hbefore, List.singleton_inj.1 hlast]

/-- The items written one after another are made of runs, no two adjacent ones of
    texts. The items of their class are one for each run, in this order; its depth
    is one more than the number of runs; and two classes are the same exactly if
    the same items stand for their runs. -/
theorem adjacent_texts_merged :
    (∀ xs, (runs xs).flatMap Run.written = xs ∧ (ofItems xs).items = merged xs ∧
      (ofItems xs).items.IsChain ClassItem.Apart ∧ (ofItems xs).depth = (runs xs).length + 1) ∧
    ∀ xs ys, ofItems xs = ofItems ys ↔ merged xs = merged ys := by
  refine ⟨fun xs => ⟨flatMap_written_runs xs, items_ofItems xs, ?_, ?_⟩, fun xs ys => ?_⟩
  · rw [items_ofItems]
    exact isChain_merged xs
  · rw [depth_eq_length_items, items_ofItems, merged, List.length_map]
  · rw [← items_ofItems, ← items_ofItems, items_injective.eq_iff]

/-- A range in between keeps texts apart, an empty text does not. -/
example :
    (ofItems [.chars "a", .chars "", .chars "b", .range '0' '9', .chars "c"]).items =
      [.chars "ab", .range '0' '9', .chars "c"] := by
  decide

end CharClass

end LangSpec.Regex
