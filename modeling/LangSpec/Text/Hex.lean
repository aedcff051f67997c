/-!
# Hexadecimal numbers

Numbers are written in base sixteen with lower-case digits, filled up with
zeros to a least width. A number wider than that is written in full, so no two
numbers are written alike, however wide they are.

* `hexPadded`: a number as it is written;
* `hexValue`: the number that digits are read as;
* `hexPadded_injective`: a number can be told from its digits.
-/

namespace LangSpec.Text

/-- The digits of `n` in base sixteen, without leading zeros. -/
def hexDigits (n : Nat) : List Char := Nat.toDigits 16 n

/-- `n` in base sixteen, filled up with zeros to at least `width` digits. -/
def hexPadded (width n : Nat) : String :=
  String.ofList (List.leftpad width '0' (hexDigits n))

/-! ## Reading -/

/-- The number that a digit in base sixteen stands for. -/
def hexDigitValue (c : Char) : Nat :=
  if c.isDigit then c.toNat - '0'.toNat else 10 + (c.toNat - 'a'.toNat)

/-- The number written by digits in base sixteen, most significant first. -/
def hexValue (digits : List Char) : Nat :=
  digits.foldl (fun n c => 16 * n + hexDigitValue c) 0

theorem hexDigitValue_digitChar : ∀ n < 16, hexDigitValue n.digitChar = n := by
  decide

theorem hexValue_concat (digits : List Char) (c : Char) :
    hexValue (digits ++ [c]) = 16 * hexValue digits + hexDigitValue c := by
  rw [hexValue, List.foldl_append]
  rfl

theorem hexValue_hexDigits (n : Nat) : hexValue (hexDigits n) = n := by
  induction n using Nat.strongRecOn with
  | ind n ih =>
    by_cases h : n < 16
    · rw [hexDigits, Nat.toDigits_of_lt_base h]
      exact (Nat.zero_add _).trans (hexDigitValue_digitChar n h)
    · have hdigits : hexDigits n = hexDigits (n / 16) ++ [(n % 16).digitChar] :=
        Nat.toDigits_of_base_le (by decide) (Nat.not_lt.1 h)
      rw [hdigits, hexValue_concat, hexDigitValue_digitChar _ (Nat.mod_lt n (by decide)),
        ih (n / 16) (by omega)]
      exact Nat.div_add_mod n 16

/-- Zeros at the beginning do not count. -/
theorem hexValue_leftpad (width : Nat) (digits : List Char) :
    hexValue (List.leftpad width '0' digits) = hexValue digits := by
  have hzeros (k : Nat) : hexValue (List.replicate k '0') = 0 := by
    induction k with
    | zero => rfl
    | succ k ih => exact ih
  rw [hexValue, List.leftpad, List.foldl_append]
  exact congrArg (digits.foldl _) (hzeros _)

theorem hexPadded_injective (width : Nat) : Function.Injective (hexPadded width) := by
  intro m n h
  have hvalue := congrArg hexValue (String.ofList_injective h)
  rwa [hexValue_leftpad, hexValue_leftpad, hexValue_hexDigits, hexValue_hexDigits] at hvalue

/-- A number wider than the least width. -/
example : hexPadded 4 65536 = "10000" := by
  decide

end LangSpec.Text
