import LangSpec.Grammar

/-!
# Templates

A template is a tree with holes, written as a list of items. A *pattern* takes
trees apart, a *constructor* puts them together; the two share one numbering. A
*feed* is the input of a parser run from within the code.
-/

namespace LangSpec

/-- What an item of a pattern matches. -/
inductive PatternForm
  /-- A tree of the element's type. -/
  | element (element : Element)
  /-- The trees of a piece of text. -/
  | text (text : String)

/-- An item of a pattern. -/
structure PatternItem where
  /-- What it matches. -/
  form : PatternForm
  /-- The variable the matched tree goes to. -/
  binder : Option VarRef := none
  /-- The place. -/
  loc : Location

namespace PatternItem

/-- The type of the matched tree, if the item tells it. -/
def type? (i : PatternItem) : Option TypeRef :=
  match i.form with
  | .element e => some e.type
  | .text _ => none

end PatternItem

/-- A template for taking a tree apart. -/
structure Pattern where
  /-- The handle of the pattern. -/
  id : PatternId
  /-- The place. -/
  loc : Location
  /-- The namespace it was written in. -/
  home : NamespaceId
  /-- The items, from left to right. -/
  items : List PatternItem
  /-- The number among all patterns and constructors. -/
  number : Nat
deriving Inhabited

/-- What an item of a constructor or a feed supplies. -/
inductive SupplyForm
  /-- The token of a literal. -/
  | literal (element : Element)
  /-- The trees of a piece of text. -/
  | text (text : String)
  /-- The value of an expression. -/
  | expr (expr : Expr)

/-- An item of a constructor or a feed. -/
structure SupplyItem where
  /-- What it supplies. -/
  form : SupplyForm
  /-- The place. -/
  loc : Location

/-- A template for putting a tree together. -/
structure Constructor where
  /-- The handle of the constructor. -/
  id : ConstructorId
  /-- The place. -/
  loc : Location
  /-- The namespace it was written in. -/
  home : NamespaceId
  /-- The items, from left to right. -/
  items : List SupplyItem
  /-- The number among all patterns and constructors. -/
  number : Nat
deriving Inhabited

/-- The input of a parser. -/
structure Feed where
  /-- The handle of the feed. -/
  id : FeedId
  /-- The place. -/
  loc : Location
  /-- The namespace it was written in. -/
  home : NamespaceId
  /-- The items, from left to right. -/
  items : List SupplyItem
deriving Inhabited

end LangSpec
