import LangSpec.Text.Combining
import LangSpec.Text.Hex
import LangSpec.Text.Printable

/-!
# Quoted text

Quoting writes a text between double quotation marks, on one line and with
nothing invisible in it: a character that could not be read back is replaced by
an *escape*, a backslash and what stands for the character. Two styles differ
in how they write the null character, as `QuoteStyle` tells.
-/

namespace LangSpec.Text

/-- The two places a quoted text is put in. -/
inductive QuoteStyle
  /-- Source code. There `\0` before an octal digit could be mistaken for an
      octal escape, and the null character is written `\x00` instead. -/
  | code
  /-- A message to a reader. The null character is always `\0`. -/
  | message
deriving DecidableEq

/-- The null character, before a character `next`. -/
def QuoteStyle.null (style : QuoteStyle) (next : Option Char) : List Char :=
  match style, next with
  | .code, some c => if '0' ≤ c ∧ c ≤ '7' then ['\\', 'x', '0', '0'] else ['\\', '0']
  | _, _ => ['\\', '0']

/-- A character as its number. -/
def escapeByNumber (c : Char) : List Char :=
  ['\\', 'u', '\x7b'] ++ hexDigits c.toNat ++ ['\x7d']

/-- A character other than the null character between quotation marks: those
    that would end the text, start an escape or break the line are escaped by a
    letter, those that cannot be seen on their own by their number. -/
def escape (c : Char) : List Char :=
  match c with
  | '\t' => ['\\', 't']
  | '\r' => ['\\', 'r']
  | '\n' => ['\\', 'n']
  | '"' => ['\\', '"']
  | '\\' => ['\\', '\\']
  | c => if isCombining c || !isPrintable c then escapeByNumber c else [c]

/-- What stands between the quotation marks. -/
def quotedBody (style : QuoteStyle) : List Char → List Char
  | [] => []
  | c :: cs =>
    (if c = '\x00' then style.null cs.head? else escape c) ++ quotedBody style cs

/-- The text between double quotation marks. -/
def quote (style : QuoteStyle) (s : String) : String :=
  String.ofList ('"' :: quotedBody style s.toList ++ ['"'])

/-- A list of texts as messages show it: one quoted text a line. -/
def quoteLines (texts : List String) : String :=
  match texts with
  | [] => "[]"
  | _ => "[\n" ++ String.join (texts.map fun s => "    " ++ quote .message s ++ ",\n") ++ "]"

end LangSpec.Text
