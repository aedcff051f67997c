/-!
# Blanks and comments

What separates the words of a specification: white space, and comments. A
*line comment* goes from `//` to the end of the line, a *block comment* from
`/*` to the `*/` that closes it, and block comments nest. Comments that
document a declaration (`///`, `//!`, `/**` and `/*!`) are part of what is
written and do not separate.

A comment takes up at least one character (`length_afterComment`), which is why
dropping blanks comes to an end.
-/

namespace LangSpec.Text

/-- White space: the code points with the property `White_Space`, and the two
    marks that set the direction of writing. -/
def isBlank (c : Char) : Bool :=
  [(0x9, 0xD), (0x20, 0x20), (0x85, 0x85), (0xA0, 0xA0), (0x1680, 0x1680), (0x2000, 0x200A),
    (0x200E, 0x200F), (0x2028, 0x2029), (0x202F, 0x202F), (0x205F, 0x205F),
    (0x3000, 0x3000)].any fun r => r.1 ≤ c.toNat && c.toNat ≤ r.2

/-- What follows the block comment that `cs` is in, with `depth` more of them
    around it. There is nothing if one of them is not closed. -/
def afterBlock? (depth : Nat) : List Char → Option (List Char)
  | [] => none
  | '/' :: '*' :: cs => afterBlock? (depth + 1) cs
  | '*' :: '/' :: cs =>
    match depth with
    | 0 => some cs
    | depth + 1 => afterBlock? depth cs
  | _ :: cs => afterBlock? depth cs

/-- After `//` or `/*`, the comment documents a declaration: its `mark`, the
    second of those characters, comes once more and not twice, or a `!` does. -/
def isDocumentation (mark : Char) : List Char → Bool
  | [] => false
  | c :: cs => c == '!' || (c == mark && cs.head? != some mark)

/-- What follows the comment that `cs` starts with, if it starts with one. The
    empty comment `/**/` documents nothing. -/
def afterComment? : List Char → Option (List Char)
  | '/' :: '/' :: cs => if isDocumentation '/' cs then none else some (cs.dropWhile (· != '\n'))
  | '/' :: '*' :: '*' :: '/' :: cs => some cs
  | '/' :: '*' :: cs => if isDocumentation '*' cs then none else afterBlock? 0 cs
  | _ => none

theorem length_afterBlock {depth : Nat} {cs rest : List Char}
    (h : afterBlock? depth cs = some rest) : rest.length < cs.length := by
  fun_induction afterBlock? depth cs <;> grind

theorem length_afterComment {cs rest : List Char} (h : afterComment? cs = some rest) :
    rest.length < cs.length := by
  fun_cases afterComment? cs with
  | case2 cs =>
    have := (List.dropWhile_sublist (l := cs) (· != '\n')).length_le
    grind [afterComment?]
  | case5 cs =>
    have := @length_afterBlock 0 cs rest
    grind [afterComment?]
  | _ => grind [afterComment?]

/-- The rest of a text after the blanks and the comments it starts with. -/
def dropBlanks (cs : List Char) : List Char :=
  match _ : afterComment? cs with
  | some rest => dropBlanks rest
  | none =>
    match cs with
    | [] => []
    | c :: rest => if isBlank c then dropBlanks rest else c :: rest
termination_by cs.length
decreasing_by
  · exact length_afterComment ‹_›
  · simp

end LangSpec.Text
