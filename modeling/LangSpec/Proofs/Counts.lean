import LangSpec.Draft.Regex
import Mathlib.Data.Nat.Digits.Defs

/-!
# Repetition counts

A repetition count is written in the digits `0` to `9`, of which the last one
counts once, the one before it ten times, and so on. However many there are, and
however many zeros they begin with, the number they stand for is the count,
unless it is too large. What is too large is told apart from what is no number at
all; either is reported, and the count `1` is taken instead.

* `Decimal`: the texts that are numbers;
* `placeValue`: the numbers they stand for;
* `decimalValue_toList`: reading the digits one after another comes to the same;
* `Draft.repetition_counts_exact`: what is read, and what is reported.
-/

namespace LangSpec

namespace Text

/-- The text has at least one character, and all of them are digits. -/
def Decimal (s : String) : Prop := s ≠ "" ∧ ∀ c ∈ s.toList, '0' ≤ c ∧ c ≤ '9'

/-- The number that the digits stand for by their places. -/
def placeValue (s : String) : Nat :=
  Nat.ofDigits 10 (s.toList.reverse.map fun c => c.toNat - '0'.toNat)

theorem isDecimal_iff {s : String} : isDecimal s = true ↔ Decimal s := by
  have hdigit (c : Char) : c.isDigit = true ↔ '0' ≤ c ∧ c ≤ '9' := by
    simp [Char.isDigit, Char.le_def]
  simp [isDecimal, Decimal, hdigit]

/-- Ten times the number so far and the next digit, again and again, is what the
    places of the digits come to. -/
theorem decimalValue_toList (s : String) : decimalValue s.toList = placeValue s := by
  rw [decimalValue, placeValue, Nat.ofDigits_eq_foldr, List.foldr_map, List.foldr_reverse]
  simp [Nat.add_comm]

/-- A number as it is usually written, with some zeros before it. -/
def written (zeros n : Nat) : String := String.ofList (List.replicate zeros '0') ++ toString n

theorem toList_written (zeros n : Nat) :
    (written zeros n).toList = List.replicate zeros '0' ++ Nat.toDigits 10 n := by
  rw [written, String.toList_append, String.toList_ofList, Nat.toString_eq_repr, Nat.toList_repr]

theorem decimal_written (zeros n : Nat) : Decimal (written zeros n) := by
  rw [← isDecimal_iff, isDecimal, toList_written]
  have hdigits : ∀ c ∈ Nat.toDigits 10 n, c.isDigit = true := fun c =>
    Nat.isDigit_of_mem_toDigits (by decide) (by decide)
  have hne : Nat.toDigits 10 n ≠ [] := Nat.toDigits_ne_nil
  simp only [Bool.and_eq_true, List.all_append, List.all_eq_true, List.mem_replicate]
  refine ⟨by simp [hne], ?_, hdigits⟩
  rintro c ⟨-, rfl⟩
  rfl

/-- Zeros at the beginning do not count. -/
theorem placeValue_written (zeros n : Nat) : placeValue (written zeros n) = n := by
  have h := Nat.ofDigitChars_append (b := 10) (l := List.replicate zeros '0')
    (m := Nat.toDigits 10 n) 0
  rw [Nat.ofDigitChars_replicate_zero, Nat.mul_zero, Nat.ofDigitChars_ten_toDigits] at h
  rw [← decimalValue_toList, toList_written]
  exact h

theorem readCount_of_decimal {s : String} (h : Decimal s) :
    readCount s =
      if placeValue s ≤ maxCount then .ok (placeValue s) else .error .tooLarge := by
  rw [readCount, if_pos (isDecimal_iff.2 h), decimalValue_toList]

theorem readCount_of_not_decimal {s : String} (h : ¬Decimal s) :
    readCount s = .error .notDecimal :=
  if_neg fun hs => h (isDecimal_iff.1 hs)

end Text

open Text

namespace Draft

/-- A text of digits, however many, is read as the number they stand for if it is
    at most `2147483647`, and nothing is reported. Digits that stand for a larger
    number, and all other texts, are read as `1`, each with one diagnostic of its
    own at the place of the text; nothing else in the draft is different. Every
    number has such a text, with any zeros before it. -/
theorem repetition_counts_exact (d : Draft) (s : String) (loc : Location) :
    (Decimal s → placeValue s ≤ 2147483647 → d.repetitionCount s loc = (placeValue s, d)) ∧
    (Decimal s → 2147483647 < placeValue s → d.repetitionCount s loc =
      (1, { d with diagnostics := d.diagnostics ++
        [⟨.malformed, loc, "repetition number " ++ s ++ " overflows"⟩] })) ∧
    (¬Decimal s → d.repetitionCount s loc =
      (1, { d with diagnostics := d.diagnostics ++
        [⟨.malformed, loc, "repetition number " ++ s ++ " is not a decimal count"⟩] })) ∧
    ∀ zeros n, Decimal (written zeros n) ∧ placeValue (written zeros n) = n := by
  have hmax : maxCount = 2147483647 := rfl
  refine ⟨fun hs hle => ?_, fun hs hlt => ?_, fun hs => ?_, fun zeros n =>
    ⟨decimal_written zeros n, placeValue_written zeros n⟩⟩
  · rw [repetitionCount, readCount_of_decimal hs, hmax, if_pos hle]
  · rw [repetitionCount, readCount_of_decimal hs, hmax, if_neg (Nat.not_le.2 hlt)]
    rfl
  · rw [repetitionCount, readCount_of_not_decimal hs]
    rfl

/-- The largest count, with zeros before it, the number after it, and a sign. -/
theorem repetition_counts_exact_bound :
    let d := start {}
    let fault (text : String) : Draft := { d with diagnostics := [⟨.malformed, ⟨3, 1⟩, text⟩] }
    Decimal "002147483647" ∧ placeValue "002147483647" = 2147483647 ∧
      d.repetitionCount "002147483647" ⟨3, 1⟩ = (2147483647, d) ∧
      Decimal "2147483648" ∧ placeValue "2147483648" = 2147483648 ∧
      d.repetitionCount "2147483648" ⟨3, 1⟩ =
        (1, fault "repetition number 2147483648 overflows") ∧
      ¬Decimal "-3" ∧
      d.repetitionCount "-3" ⟨3, 1⟩ =
        (1, fault "repetition number -3 is not a decimal count") := by
  intro d fault
  have hmost : Decimal "002147483647" := isDecimal_iff.1 (by decide)
  have hmore : Decimal "2147483648" := isDecimal_iff.1 (by decide)
  have hsign : ¬Decimal "-3" := fun h => absurd (isDecimal_iff.2 h) (by decide)
  have hmost' : placeValue "002147483647" = 2147483647 := by
    rw [← decimalValue_toList]
    decide
  have hmore' : placeValue "2147483648" = 2147483648 := by
    rw [← decimalValue_toList]
    decide
  refine ⟨hmost, hmost', ?_, hmore, hmore', ?_, hsign, ?_⟩
  · have h := (repetition_counts_exact d _ ⟨3, 1⟩).1 hmost hmost'.le
    rwa [hmost'] at h
  · exact (repetition_counts_exact d _ ⟨3, 1⟩).2.1 hmore (by rw [hmore']; decide)
  · exact (repetition_counts_exact d _ ⟨3, 1⟩).2.2.1 hsign

end Draft

end LangSpec
