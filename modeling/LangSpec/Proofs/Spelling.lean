import LangSpec.Literal

/-!
# Spellings of literals

A text can be written as a literal in many ways. A character stands for itself,
unless it is a backslash or the quotation mark in use. A backslash before it
takes away its special meaning, if it has one, and may be put before all others
but a few letters, which stand for control characters then. And a literal can be
continued on the next line wherever a character might begin. None of this makes
a difference: whichever of its spellings is written between whichever quotation
marks, the literal stands for the text, and the case mark is told apart from the
text it follows.

* `Spells`: the spellings of a text;
* `Spells.unescape_eq`: reading the escapes leads back to the text;
* `Spells.exists_of_isMark`: every text can be spelled;
* `meaning_of_spelling`: what a spelled literal stands for.
-/

namespace LangSpec.Literal

/-- The letters that stand for control characters after a backslash, each with
    its character. -/
def controls : List (Char × Char) :=
  [('0', '\x00'), ('a', '\x07'), ('b', '\x08'), ('t', '\t'), ('n', '\n'), ('v', '\x0b'),
    ('f', '\x0c'), ('r', '\r')]

/-- `Spells mark e t`: between quotation marks `mark`, the text `t` may be written
    as `e`. -/
inductive Spells (mark : Char) : List Char → List Char → Prop
  | nil : Spells mark [] []
  /-- A character as it is. -/
  | plain {c : Char} {e t : List Char} (hs : c ≠ '\\') (hm : c ≠ mark) (h : Spells mark e t) :
      Spells mark (c :: e) (c :: t)
  /-- A backslash before the character. -/
  | quoted {c : Char} {e t : List Char} (hl : c ∉ controls.map (·.1)) (hn : c ≠ '\n')
      (h : Spells mark e t) : Spells mark ('\\' :: c :: e) (c :: t)
  /-- A control character by its letter. -/
  | letter {l c : Char} {e t : List Char} (hl : (l, c) ∈ controls) (h : Spells mark e t) :
      Spells mark ('\\' :: l :: e) (c :: t)
  /-- The literal continued on the next line. -/
  | continued {e t : List Char} (h : Spells mark e t) : Spells mark ('\\' :: '\n' :: e) t

/-- The literal written as `e` between quotation marks, with a case mark if
    `ignoreCase`. -/
def between (mark : Char) (e : List Char) (ignoreCase : Bool) (loc : Location) : Literal :=
  { raw := String.ofList ((mark :: e ++ [mark]) ++ if ignoreCase then ['i'] else []), loc }

variable {mark c : Char} {e t : List Char}

theorem escaped_of_mem_controls : ∀ x ∈ controls, escaped x.1 = [x.2] := by
  decide

theorem escaped_of_not_mem_controls (hl : c ∉ controls.map (·.1)) (hn : c ≠ '\n') :
    escaped c = [c] := by
  unfold escaped
  split
  case h_9 => exact absurd rfl hn
  case h_10 => rfl
  all_goals exact absurd (by decide) hl

namespace Spells

/-- Reading the escapes leads back to the text. -/
theorem unescape_eq (h : Spells mark e t) : unescape e = t := by
  induction h with
  | nil => rfl
  | plain hs _ _ ih => rw [unescape_cons_of_ne hs, ih]
  | quoted hl hn _ ih =>
    rw [unescape_backslash_cons, escaped_of_not_mem_controls hl hn, ih, List.singleton_append]
  | letter hl _ ih =>
    rw [unescape_backslash_cons, escaped_of_mem_controls _ hl, ih, List.singleton_append]
  | continued _ ih =>
    rw [unescape_backslash_cons, ih]
    rfl

/-- A quotation mark is no letter of a control character. -/
theorem not_mem_controls_of_isMark (hm : isMark mark = true) :
    mark ∉ controls.map (·.1) ∧ mark ≠ '\n' := by
  rw [isMark, Bool.or_eq_true, beq_iff_eq, beq_iff_eq] at hm
  rcases hm with rfl | rfl <;> decide

/-- Every text can be spelled between any quotation marks. -/
theorem exists_of_isMark (hm : isMark mark = true) (t : List Char) : ∃ e, Spells mark e t := by
  induction t with
  | nil => exact ⟨[], .nil⟩
  | cons c t ih =>
    obtain ⟨e, he⟩ := ih
    by_cases hs : c = '\\'
    · exact ⟨_, .quoted (hs ▸ by decide) (hs ▸ by decide) he⟩
    · by_cases hc : c = mark
      · obtain ⟨hl, hn⟩ := not_mem_controls_of_isMark hm
        exact ⟨_, .quoted (hc ▸ hl) (hc ▸ hn) he⟩
      · exact ⟨_, .plain hs hc he⟩

end Spells

/-! ## Quotation marks and case marks -/

theorem stripMarks_marked (hm : isMark mark = true) (e : List Char) :
    stripMarks (mark :: e ++ [mark]) = e := by
  rw [List.cons_append, stripMarks, hm, List.getLast?_concat, List.dropLast_concat]
  exact if_pos (beq_self_eq_true (some mark))

/-- A quotation mark at the end is no case mark. -/
theorem hasCaseMark_marked (hm : isMark mark = true) (e : List Char) :
    hasCaseMark (mark :: e ++ [mark]) = false := by
  have hi : mark ≠ 'i' := by
    rintro rfl
    exact nomatch hm
  rw [hasCaseMark, List.getLast?_concat]
  simp [hi]

/-- What ends with a case mark is longer than two characters. -/
theorem hasCaseMark_marked_append (hm : isMark mark = true) (e : List Char) :
    hasCaseMark ((mark :: e ++ [mark]) ++ ['i']) = true := by
  rw [hasCaseMark, List.getLast?_concat]
  simp [hm]

theorem meaning_between (hm : isMark mark = true) (e : List Char) (ignoreCase : Bool)
    (loc : Location) :
    (between mark e ignoreCase loc).meaning = ⟨String.ofList (unescape e), ignoreCase⟩ := by
  have hstrip := stripMarks_marked hm e
  have hraw : (between mark e ignoreCase loc).raw.toList =
      (mark :: e ++ [mark]) ++ if ignoreCase then ['i'] else [] :=
    String.toList_ofList
  cases ignoreCase with
  | false =>
    have hcase := hasCaseMark_marked hm e
    rw [if_neg Bool.false_ne_true, List.append_nil] at hraw
    simp only [meaning, hraw, hcase, Bool.false_eq_true, if_false, hstrip]
  | true =>
    have hcase := hasCaseMark_marked_append hm e
    rw [if_pos rfl] at hraw
    simp only [meaning, hraw, hcase, if_true, List.dropLast_concat, hstrip]

/-- A literal stands for the text it spells, whichever the spelling and the
    quotation marks, and ignores the case of letters exactly if it has a case
    mark; so two spellings of a text have the same meaning. Every text can be
    spelled between any quotation marks, and so every meaning has a literal. -/
theorem meaning_of_spelling :
    (∀ (mark : Char) (e : List Char) (text : String), isMark mark = true →
      Spells mark e text.toList → ∀ ignoreCase loc,
        (between mark e ignoreCase loc).meaning = ⟨text, ignoreCase⟩) ∧
    (∀ (mark mark' : Char) (e e' : List Char) (text : String), isMark mark = true →
      isMark mark' = true → Spells mark e text.toList → Spells mark' e' text.toList →
        ∀ ignoreCase loc,
          (between mark e ignoreCase loc).meaning = (between mark' e' ignoreCase loc).meaning) ∧
    (∀ (mark : Char) (text : String), isMark mark = true → ∃ e, Spells mark e text.toList) ∧
    ∀ m : Meaning, ∃ l : Literal, l.meaning = m := by
  have hspelled {mark : Char} {e : List Char} {text : String} (hm : isMark mark = true)
      (he : Spells mark e text.toList) (ignoreCase : Bool) (loc : Location) :
      (between mark e ignoreCase loc).meaning = ⟨text, ignoreCase⟩ := by
    rw [meaning_between hm, he.unescape_eq, String.ofList_toList]
  refine ⟨fun mark e text hm he => hspelled hm he, fun mark mark' e e' text hm hm' he he' => ?_,
    fun mark text hm => Spells.exists_of_isMark hm _, fun ⟨text, ignoreCase⟩ => ?_⟩
  · intro ignoreCase loc
    rw [hspelled hm he, hspelled hm' he']
  · obtain ⟨e, he⟩ : ∃ e, Spells '"' e text.toList := Spells.exists_of_isMark rfl _
    exact ⟨_, hspelled rfl he ignoreCase .origin⟩

/-- A text that ends with a backslash and an `i`, spelled over two lines and on
    one. -/
theorem meaning_of_spelling_two_lines :
    let text := "it's\n\\i"
    let e := ['i', 't', '\\', '\'', 's', '\\', '\n', '\\', 'n', '\\', '\\', '\\', 'i']
    let e' := ['i', 't', '\'', 's', '\n', '\\', '\\', 'i']
    isMark '\'' = true ∧ isMark '"' = true ∧ Spells '\'' e text.toList ∧ Spells '"' e' text.toList ∧
      (between '\'' e true .origin).raw = "'it\\'s\\\n\\n\\\\\\i'i" ∧
      (between '\'' e true .origin).meaning = ⟨text, true⟩ ∧
      (between '\'' e false .origin).meaning = (between '"' e' false .origin).meaning := by
  intro text e e'
  have htext : text.toList = ['i', 't', '\'', 's', '\n', '\\', 'i'] := by decide
  have he : Spells '\'' e text.toList := by
    rw [htext]
    refine .plain (by decide) (by decide) (.plain (by decide) (by decide) ?_)
    refine .quoted (by decide) (by decide) (.plain (by decide) (by decide) ?_)
    refine .continued (.letter (by decide) (.quoted (by decide) (by decide) ?_))
    exact .quoted (by decide) (by decide) .nil
  have he' : Spells '"' e' text.toList := by
    rw [htext]
    refine .plain (by decide) (by decide) (.plain (by decide) (by decide) ?_)
    refine .plain (by decide) (by decide) (.plain (by decide) (by decide) ?_)
    refine .plain (by decide) (by decide) (.quoted (by decide) (by decide) ?_)
    exact .plain (by decide) (by decide) .nil
  obtain ⟨hmeaning, hequal, -⟩ := meaning_of_spelling
  exact ⟨rfl, rfl, he, he', by decide, hmeaning _ _ _ rfl he true .origin,
    hequal _ _ _ _ text rfl rfl he he' false .origin⟩

end LangSpec.Literal
