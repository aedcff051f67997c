/-!
# Counts

A count is written in plain decimal digits and is at most `maxCount`. Leading
zeros are harmless, signs and other scripts' digits are not digits.

* `readCount`: the count a text stands for, or why it stands for none.
-/

namespace LangSpec.Text

/-- The largest count. -/
def maxCount : Nat := Nat.pow 2 31 - 1

/-- Why a text is no count. -/
inductive CountFault
  /-- Decimal digits, but too large a number. -/
  | tooLarge
  /-- Not a sequence of decimal digits. -/
  | notDecimal
deriving DecidableEq

/-- The number written by decimal digits, most significant first. -/
def decimalValue (digits : List Char) : Nat :=
  digits.foldl (fun n c => 10 * n + (c.toNat - '0'.toNat)) 0

/-- The text is a sequence, not empty, of the digits `0` to `9`. -/
def isDecimal (s : String) : Bool := !s.toList.isEmpty && s.toList.all Char.isDigit

/-- The count written as `s`. -/
def readCount (s : String) : Except CountFault Nat :=
  if isDecimal s then
    if decimalValue s.toList ≤ maxCount then .ok (decimalValue s.toList) else .error .tooLarge
  else .error .notDecimal

end LangSpec.Text
