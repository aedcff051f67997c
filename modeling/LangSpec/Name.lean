import LangSpec.Location
import LangSpec.Text.Blank

/-!
# Names

A name is a word of the specification with the place it was written at. Two
names are the same if they read the same, wherever they stand.
-/

namespace LangSpec

/-- A word and the place it was written at. -/
structure Name where
  /-- The word. -/
  text : String
  /-- The place. -/
  loc : Location := .origin

namespace Name

/-- The name that `source` consists of but for the blanks and the comments
    around it, and for the byte order mark a file may start with. It goes as far
    as there is neither a blank nor a slash. -/
def read? (source : String) : Option Name :=
  let start := match source.toList with
    | '\ufeff' :: cs => cs
    | cs => cs
  let (word, rest) := (Text.dropBlanks start).span fun c => !Text.isBlank c && c != '/'
  if word.isEmpty || !(Text.dropBlanks rest).isEmpty then none
  else some { text := String.ofList word }

instance : BEq Name := ⟨fun a b => a.text == b.text⟩

theorem beq_iff {a b : Name} : (a == b) = true ↔ a.text = b.text :=
  beq_iff_eq (a := a.text)

end Name

end LangSpec
