import LangSpec.Proofs.Literals
import LangSpec.Proofs.Placement
import Mathlib.Data.Set.Function

/-!
# The dictionary of literals

A namespace knows its literals by the texts they stand for. These texts and the
tokens declared in the namespace by literals belong together one to one, and a
text leads to the first occurrence of its token. So whether a literal is taken
is told by the walk alone: it is if a literal that stands for the same text was
accepted in the same namespace before, whenever the namespace was open and
however the literal was written.

* `LiteralsMatch.bijOn`: texts and tokens one to one;
* `declareLiteral_eq_none_iff`: when a literal is not accepted;
* `literal_dictionary_exact`: the whole law.
-/

namespace LangSpec

namespace Spec

variable {s : Spec}

/-- The tokens of the namespace `n` that were declared by literals. -/
def literalTokens (s : Spec) (n : NamespaceId) : Set TokenId :=
  {k | k ∈ s.tokens ∧ (s.tokens.get k).home = n ∧ (s.tokens.get k).isLiteral = true}

/-- The first occurrence tells the token. -/
theorem TokensReplicated.eq_of_head? (h : s.TokensReplicated) {k k' : TokenId}
    (hk : k ∈ s.tokens) (hk' : k' ∈ s.tokens) {i : OccurrenceId}
    (hi : (s.tokens.get k).occurrences.head? = some i)
    (hi' : (s.tokens.get k').occurrences.head? = some i) : k = k' := by
  have hmem := List.mem_of_head? hi
  have hocc := h.mem_occurrences hk hmem
  exact ((h.token_eq_iff hk hocc).2 hmem).symm.trans
    ((h.token_eq_iff hk' hocc).2 (List.mem_of_head? hi'))

/-- The tokens declared by literals belong to the texts one to one. -/
theorem LiteralsMatch.bijOn (h : s.LiteralsMatch) (hr : s.TokensReplicated) (n : NamespaceId) :
    Set.BijOn (fun k => (s.tokens.get k).text) (s.literalTokens n)
      {x | x ∈ (s.namespaces.get n).literals.keys} := by
  refine ⟨?_, ?_, ?_⟩
  · rintro k ⟨hk, rfl, hlit⟩
    obtain ⟨i, -, hfound⟩ := h.found k hk hlit
    by_contra hkey
    exact nomatch (Dict.find?_eq_none_iff.2 hkey).symm.trans hfound
  · rintro k ⟨hk, hhome, hlit⟩ k' ⟨hk', hhome', hlit'⟩ htext
    obtain ⟨i, hi, hfound⟩ := h.found k hk hlit
    obtain ⟨i', hi', hfound'⟩ := h.found k' hk' hlit'
    -- Both texts lead to the same occurrence.
    have htext : (s.tokens.get k).text = (s.tokens.get k').text := htext
    rw [hhome, htext, ← hhome', hfound'] at hfound
    cases hfound
    exact hr.eq_of_head? hk hk' hi hi'
  · intro x hx
    obtain ⟨e, he, rfl⟩ := List.mem_map.1 hx
    obtain ⟨k, hk, hlit, hhome, htext, -⟩ := h.entered n e he
    exact ⟨k, ⟨hk, hhome, hlit⟩, htext⟩

end Spec

namespace Draft

variable {o : Options} {d : Draft} {ops : List Op} {l : Literal} {joinsBefore joinsAfter : Bool}

theorem Reachable.literalsMatch (hd : Reachable o d) : d.spec.LiteralsMatch :=
  hd.steps.literalsMatch

/-- A literal is not accepted if the namespace has one of its text. -/
theorem declareLiteral_eq_none_iff : (d.declareLiteral l joinsBefore joinsAfter).1 = none ↔
    ∃ i, (d.spec.namespaces.get d.home).literal? l.meaning.text = some i := by
  rw [declareLiteral]
  split
  next i h => exact iff_of_true rfl ⟨i, h⟩
  next h =>
    refine iff_of_false (Option.some_ne_none _) ?_
    rintro ⟨i, hi⟩
    exact Option.some_ne_none i (hi.symm.trans h)

/-- A token has a literal only if the operation that declared it was that of this
    literal. -/
theorem exists_literal_of_literal? {op : Op} {raw : String} (h : op.literal? = some raw) :
    ∃ l joinsBefore joinsAfter, op = .declareLiteral l joinsBefore joinsAfter ∧ l.raw = raw := by
  cases op with
  | declareLiteral l joinsBefore joinsAfter => exact ⟨l, _, _, rfl, Option.some.inj h⟩
  | _ => exact nomatch h

theorem text_of_literal {t : Token} (h : t.literal = some l.raw) : t.text = l.meaning.text := by
  rw [Token.text, h]
  rfl

/-- In the walk `ops` from `d`, a literal that stands for `text` is accepted in
    the namespace `n`. -/
def AcceptsLiteral (d : Draft) (ops : List Op) (n : NamespaceId) (text : String) : Prop :=
  ∃ e l joinsBefore joinsAfter, d.Performs ops e (.declareLiteral l joinsBefore joinsAfter) ∧
    e.home = n ∧ (e.declareLiteral l joinsBefore joinsAfter).1 ≠ none ∧ l.meaning.text = text

/-- The texts a namespace knows are those of the literals accepted there. -/
theorem exists_literal?_iff (hops : (start o).AdmitsAll ops) {n : NamespaceId} {text : String} :
    (∃ i, (((start o).run ops).spec.namespaces.get n).literal? text = some i) ↔
      (start o).AcceptsLiteral ops n text := by
  have hmatch := (Reachable.start.run hops).literalsMatch
  constructor
  · rintro ⟨i, hi⟩
    obtain ⟨k, hk, hlit, rfl, htext, -⟩ := hmatch.entered n _ (Dict.mem_entries_of_find? hi)
    obtain ⟨e, op, h, hdeclares⟩ := Reachable.start.exists_performs hops hk (Nat.not_lt_zero _)
    obtain ⟨-, hhome, hliteral⟩ := Reachable.start.declared hops h hdeclares
    obtain ⟨raw, hraw⟩ := Option.isSome_iff_exists.1 hlit
    obtain ⟨l, joinsBefore, joinsAfter, rfl, rfl⟩ :=
      exists_literal_of_literal? (hliteral.symm.trans hraw)
    have htext := (text_of_literal hraw).symm.trans htext
    refine ⟨e, l, joinsBefore, joinsAfter, h, hhome.symm, ?_, htext⟩
    exact Option.ne_none_iff_exists'.2 ⟨k, hdeclares⟩
  · rintro ⟨e, l, joinsBefore, joinsAfter, h, rfl, haccepted, rfl⟩
    obtain ⟨k, hk⟩ := Option.ne_none_iff_exists'.1 haccepted
    obtain ⟨hmem, hhome, hliteral⟩ := Reachable.start.declared hops h hk
    have hliteral : (((start o).run ops).spec.tokens.get k).literal = some l.raw := hliteral
    obtain ⟨i, -, hfound⟩ := hmatch.found k hmem (by rw [Token.isLiteral, hliteral]; rfl)
    exact ⟨i, text_of_literal hliteral ▸ hhome ▸ hfound⟩

/-- The literals of a namespace are exactly those its tokens were declared by,
    each under the text it stands for and leading to the first occurrence of the
    token. So a literal is not accepted exactly if one that stands for the same
    text was accepted in the same namespace before. -/
theorem literal_dictionary_exact (hd : Reachable o d) :
    (∀ n ∈ d.spec.namespaces,
      Set.BijOn (fun k => (d.spec.tokens.get k).text) (d.spec.literalTokens n)
        {x | x ∈ (d.spec.namespaces.get n).literals.keys} ∧
      ∀ k ∈ d.spec.literalTokens n, ∃ i, (d.spec.tokens.get k).occurrences.head? = some i ∧
        (d.spec.namespaces.get n).literal? (d.spec.tokens.get k).text = some i) ∧
    ∀ ops, (start o).AdmitsAll ops → (start o).run ops = d → ∀ l joinsBefore joinsAfter,
      (d.declareLiteral l joinsBefore joinsAfter).1 = none ↔
        (start o).AcceptsLiteral ops d.home l.meaning.text := by
  have hmatch := hd.literalsMatch
  refine ⟨fun n _ => ⟨hmatch.bijOn hd.tokensReplicated.2 n, ?_⟩, ?_⟩
  · rintro k ⟨hk, rfl, hlit⟩
    exact hmatch.found k hk hlit
  · rintro ops hops rfl l joinsBefore joinsAfter
    exact declareLiteral_eq_none_iff.trans (exists_literal?_iff hops)

/-- A namespace is opened again, where a literal with another spelling was
    accepted before. -/
theorem literal_dictionary_exact_sums :
    let ops := Op.sums ++
      [ .openNamespace { text := "more" }
      , .declareLiteral { raw := "'-'" } false false
      , .closeNamespace
      , .declareLiteral { raw := "'-'" } false false
      , .openNamespace { text := "more" } ]
    let d := (start {}).run ops
    Reachable {} d ∧ (start {}).AdmitsAll ops ∧ (start {}).run ops = d ∧ d.home = ⟨1⟩ ∧
      (d.declareLiteral { raw := "\"\\-\"i" } false false).1 = none ∧
      (start {}).AcceptsLiteral ops d.home "-" ∧ ¬(start {}).AcceptsLiteral ops d.home "+" ∧
      Set.BijOn (fun k => (d.spec.tokens.get k).text) (d.spec.literalTokens d.home)
        {x | x ∈ (d.spec.namespaces.get d.home).literals.keys} := by
  intro ops d
  have hops : (start {}).AdmitsAll ops := by decide +kernel
  have hd : Reachable {} d := Reachable.start.run hops
  have hhome : d.home ∈ d.spec.namespaces := by decide +kernel
  obtain ⟨hbij, haccepts⟩ := literal_dictionary_exact hd
  have hminus : (d.declareLiteral { raw := "\"\\-\"i" } false false).1 = none := by decide +kernel
  have hplus : (d.declareLiteral { raw := "'+'" } false false).1 ≠ none := by decide +kernel
  have htext : ({ raw := "\"\\-\"i" } : Literal).meaning.text = "-" := by decide +kernel
  have htext' : ({ raw := "'+'" } : Literal).meaning.text = "+" := by decide +kernel
  refine ⟨hd, hops, rfl, by decide +kernel, hminus, ?_, ?_, (hbij _ hhome).1⟩
  · exact htext ▸ (haccepts ops hops rfl _ false false).1 hminus
  · exact fun h => hplus ((haccepts ops hops rfl _ false false).2 (htext' ▸ h))

end Draft

end LangSpec
