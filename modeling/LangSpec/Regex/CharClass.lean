/-!
# Character classes

The contents of a character class `[...]` are texts, each offering its
characters, and ranges. A class is built from left to right, and adjacent texts
are put together, so that a long class stays shallow.

* `CharClass.append`: a class with one more item;
* `CharClass.items`: the items, in the order they were written.
-/

namespace LangSpec.Regex

/-- One item of a character class. -/
inductive ClassItem
  /-- Any character of the text. -/
  | chars (text : String)
  /-- Any character from `low` to `high`. -/
  | range (low high : Char)
deriving DecidableEq

/-- The contents of a character class: what was written before the last item,
    and that item. -/
inductive CharClass
  | empty
  | snoc (before : CharClass) (last : ClassItem)
deriving DecidableEq

namespace CharClass

/-- The class with `item` added at its end. A text right after a text extends
    it. -/
def append (c : CharClass) (item : ClassItem) : CharClass :=
  match c, item with
  | snoc before (.chars text), .chars more => snoc before (.chars (text ++ more))
  | c, item => snoc c item

/-- Two texts one after another are one text. -/
theorem append_chars_append_chars (c : CharClass) (s t : String) :
    (c.append (.chars s)).append (.chars t) = c.append (.chars (s ++ t)) := by
  cases c with
  | empty => rfl
  | snoc before last =>
    cases last with
    | chars text => simp [append, String.append_assoc]
    | range low high => rfl

/-- The class of the items, written one after another. -/
def ofItems (items : List ClassItem) : CharClass := items.foldl append empty

/-- The number of nested classes, the empty one included. -/
def depth : CharClass → Nat
  | empty => 1
  | snoc before _ => before.depth + 1

/-- The items, in the order they were written. -/
def items : CharClass → List ClassItem
  | empty => []
  | snoc before last => before.items ++ [last]

theorem depth_eq_length_items (c : CharClass) : c.depth = c.items.length + 1 := by
  induction c with
  | empty => rfl
  | snoc before last ih => simp [depth, items, ih]

end CharClass

end LangSpec.Regex
