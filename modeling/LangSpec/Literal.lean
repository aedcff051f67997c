import LangSpec.Location

/-!
# Literals

A literal is written between single or double quotation marks, with escapes
for what cannot be typed, and followed by `i` if the case of letters does not
matter: `'begin'i`. It is kept as it was written; its *meaning* is the text it
stands for.

* `Literal.meaning`: quotation marks, case mark and escapes taken off;
* `unescape`: a backslash and what follows read as one character.
-/

namespace LangSpec

/-- The text a literal stands for. -/
structure Meaning where
  /-- The text, with quotation marks and escapes taken off. -/
  text : String
  /-- The case of letters does not matter. -/
  ignoreCase : Bool
deriving DecidableEq

/-- A literal as it was written, and where. -/
structure Literal where
  /-- The literal as written, quotation marks and escapes included. -/
  raw : String
  /-- The place it was written at. -/
  loc : Location := .origin

namespace Literal

instance : BEq Literal := ⟨fun a b => a.raw == b.raw⟩

theorem beq_iff {a b : Literal} : (a == b) = true ↔ a.raw = b.raw :=
  beq_iff_eq (a := a.raw)

/-- The quotation marks. -/
def isMark (c : Char) : Bool := c == '\'' || c == '"'

/-- A literal carries the case mark if it starts with a quotation mark and ends
    with an `i`, with something in between. -/
def hasCaseMark (cs : List Char) : Bool :=
  cs.head?.any isMark && cs.getLast? == some 'i' && 2 < cs.length

/-- Takes off the quotation marks, if the text starts and ends with the same
    one. -/
def stripMarks : List Char → List Char
  | [] => []
  | c :: cs => if isMark c && cs.getLast? == some c then cs.dropLast else c :: cs

/-- What a backslash and `c` stand for: a control character for its letter,
    nothing for a line break, which continues the literal on the next line, and
    `c` itself otherwise. -/
def escaped (c : Char) : List Char :=
  match c with
  | '0' => ['\x00']
  | 'a' => ['\x07']
  | 'b' => ['\x08']
  | 't' => ['\t']
  | 'n' => ['\n']
  | 'v' => ['\x0b']
  | 'f' => ['\x0c']
  | 'r' => ['\r']
  | '\n' => []
  | c => [c]

/-- Reads the escapes. A backslash at the very end stands for itself. -/
def unescape : List Char → List Char
  | [] => []
  | [c] => [c]
  | c :: d :: cs => if c = '\\' then escaped d ++ unescape cs else c :: unescape (d :: cs)

@[simp] theorem unescape_backslash_cons (d : Char) (cs : List Char) :
    unescape ('\\' :: d :: cs) = escaped d ++ unescape cs := rfl

theorem unescape_cons_of_ne {c : Char} (h : c ≠ '\\') (cs : List Char) :
    unescape (c :: cs) = c :: unescape cs := by
  cases cs with
  | nil => rfl
  | cons d cs => rw [unescape, if_neg h]

/-- The text the literal stands for. -/
def meaning (l : Literal) : Meaning :=
  let written := l.raw.toList
  let marked := hasCaseMark written
  let quoted := if marked then written.dropLast else written
  ⟨String.ofList (unescape (stripMarks quoted)), marked⟩

end Literal

end LangSpec
