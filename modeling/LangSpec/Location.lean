/-!
# Locations

Every construct of a specification remembers where it starts in the source
text. Locations are only carried along: no rule of the library depends on
them, they tell the reader of a message where to look.
-/

namespace LangSpec

/-- A place in the source text: a line, counted from one, and a column,
    counted from zero. -/
structure Location where
  /-- The line, counted from one. -/
  line : Nat
  /-- The column, counted from zero. -/
  column : Nat
deriving DecidableEq

namespace Location

/-- The place given to what has no place of its own. -/
def origin : Location := ⟨1, 0⟩

instance : Inhabited Location := ⟨origin⟩

/-- A location is written `line:column`. -/
def render (l : Location) : String :=
  toString l.line ++ ":" ++ toString l.column

end Location

end LangSpec
