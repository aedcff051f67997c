import LangSpec.Proofs.Replication

/-!
# Literals and their tokens

A literal of a namespace is entered together with its token, whose home the
namespace is, under the text it stands for, and leads to the primary occurrence
of this token. Nothing is entered over it, and the token and its occurrences
never change. So the literals of a namespace are exactly those its tokens were
declared by.

* `LiteralsExact`: what is entered, and what is found;
* `Edit.literalsExact`: no edit changes this;
* `LiteralsExact.lead`: where the literals lead;
* `checkLiterals_eq_nil`: the check of the literals never fails.
-/

namespace LangSpec

/-- The text that the literal the token was declared by stands for. -/
def Token.text (t : Token) : String := ({ raw := t.literal.getD "" } : Literal).meaning.text

/-- A namespace has the literals that its tokens were declared by, and no
    others. -/
structure LiteralsExact (namespaces : Arena .namespaces Namespace)
    (tokens : Arena .tokens Token) : Prop where
  /-- What a literal stands for leads to the first occurrence of its token. -/
  found : ∀ k ∈ tokens, (tokens.get k).isLiteral = true →
    ∃ i, (tokens.get k).occurrences.head? = some i ∧
      (namespaces.get (tokens.get k).home).literal? (tokens.get k).text = some i
  /-- Every entry comes from such a token. -/
  entered : ∀ n, ∀ e ∈ (namespaces.get n).literals.entries, ∃ k ∈ tokens,
    (tokens.get k).isLiteral = true ∧ (tokens.get k).home = n ∧ (tokens.get k).text = e.1 ∧
      (tokens.get k).occurrences.head? = some e.2

/-- The literals of all namespaces lead to primary occurrences of tokens declared
    there by literals. -/
def LiteralsLead (namespaces : Arena .namespaces Namespace) (tokens : Arena .tokens Token)
    (occurrences : Arena .occurrences Occurrence) : Prop :=
  namespaces.Forall fun n x => ∀ e ∈ x.literals.entries, ∃ o t,
    occurrences.get? e.2 = some o ∧ o.copyOf = none ∧
      tokens.get? o.token = some t ∧ t.isLiteral = true ∧ t.home = n

namespace LiteralsExact

variable {namespaces namespaces' : Arena .namespaces Namespace} {tokens : Arena .tokens Token}
  {t : Token}

theorem empty {x : Namespace} (hx : x.literals = .empty) :
    LiteralsExact (Arena.empty.push x) .empty where
  found := fun _ hk => absurd hk (Nat.not_lt_zero _)
  entered := by
    intro n e he
    rw [Arena.apply_get_push (g := Namespace.literals) hx] at he
    exact absurd he List.not_mem_nil

/-- Namespaces that keep their literals. -/
theorem congr (h : LiteralsExact namespaces tokens)
    (hl : ∀ n, (namespaces'.get n).literals = (namespaces.get n).literals) :
    LiteralsExact namespaces' tokens where
  found := by
    intro k hk hlit
    rw [Namespace.literal?, hl]
    exact h.found k hk hlit
  entered := fun n e he => h.entered n e (hl n ▸ he)

/-- A namespace changed in other respects. -/
theorem modify {n : NamespaceId} {f : Namespace → Namespace}
    (h : LiteralsExact namespaces tokens) (hf : ∀ x, (f x).literals = x.literals) :
    LiteralsExact (namespaces.modify n f) tokens :=
  h.congr (Arena.apply_get_modify hf)

theorem pushNamespace {x : Namespace} (h : LiteralsExact namespaces tokens)
    (hx : x.literals = .empty) : LiteralsExact (namespaces.push x) tokens :=
  h.congr (Arena.apply_get_push hx)

theorem entered_push (h : LiteralsExact namespaces tokens) (n : NamespaceId) :
    ∀ e ∈ (namespaces.get n).literals.entries, ∃ k ∈ tokens.push t,
      ((tokens.push t).get k).isLiteral = true ∧ ((tokens.push t).get k).home = n ∧
        ((tokens.push t).get k).text = e.1 ∧
          ((tokens.push t).get k).occurrences.head? = some e.2 := by
  intro e he
  obtain ⟨k, hk, hlit⟩ := h.entered n e he
  exact ⟨k, Arena.mem_push.2 (.inl hk), Arena.get_push_of_mem hk ▸ hlit⟩

/-- A token declared by no literal. -/
theorem pushToken (h : LiteralsExact namespaces tokens) (ht : t.literal = none) :
    LiteralsExact namespaces (tokens.push t) where
  found := by
    intro k hk
    rcases Arena.mem_push.1 hk with hk | rfl
    · rw [Arena.get_push_of_mem hk]
      exact h.found k hk
    · rw [Arena.get_push_next, Token.isLiteral, ht]
      exact fun hlit => absurd hlit Bool.false_ne_true
  entered := h.entered_push

/-- A token declared by a literal, and the entry of the literal. -/
theorem pushLiteral {i : OccurrenceId} (h : LiteralsExact namespaces tokens)
    (ht : t.isLiteral = true) (hi : t.occurrences.head? = some i) (hn : t.home ∈ namespaces)
    (hfree : (namespaces.get t.home).literal? t.text = none) :
    LiteralsExact
      (namespaces.modify t.home fun x => { x with literals := x.literals.insert t.text i })
      (tokens.push t) where
  found := by
    intro k hk hlit
    rcases Arena.mem_push.1 hk with hk | rfl
    · rw [Arena.get_push_of_mem hk] at hlit ⊢
      obtain ⟨j, hj, hfound⟩ := h.found k hk hlit
      refine ⟨j, hj, ?_⟩
      -- The new entry has another text, or is one of another namespace.
      by_cases e : t.home = (tokens.get k).home
      · rw [← e, Arena.get_modify_self hn]
        exact Dict.find?_insert_of_free hfree (e ▸ hfound)
      · rw [Arena.get_modify_of_ne e, hfound]
    · rw [Arena.get_push_next, Arena.get_modify_self hn]
      exact ⟨i, hi, Dict.find?_insert_self _ _ _⟩
  entered := by
    intro n e he
    by_cases hne : t.home = n
    · subst hne
      rw [Arena.get_modify_self hn] at he
      rcases Dict.mem_insert he with he | rfl
      · exact h.entered_push _ e he
      · refine ⟨tokens.next, Arena.next_mem_push, ?_⟩
        rw [Arena.get_push_next]
        exact ⟨ht, rfl, rfl, hi⟩
    · rw [Arena.get_modify_of_ne hne] at he
      exact h.entered_push n e he

/-- The first occurrence of a token declared by a literal is its primary one. -/
theorem lead {scanners : Arena .scanners Scanner} {pools : Arena .pools Pool}
    {occurrences : Arena .occurrences Occurrence} (h : LiteralsExact namespaces tokens)
    (hr : Replicated scanners pools tokens occurrences) :
    LiteralsLead namespaces tokens occurrences := by
  intro n x hx e he
  obtain ⟨k, hk, hlit, hhome, -, hi⟩ := h.entered n e (Arena.get_eq hx ▸ he)
  have ht := Arena.get?_eq_some_get hk
  cases hr.occurs k _ ht with
  | never _ _ hnone =>
    rw [hnone] at hi
    exact nomatch hi
  | twice _ ho hfirst =>
    rw [ho] at hi
    exact ⟨_, _, Option.some.inj hi ▸ hfirst, rfl, ht, hlit, hhome⟩

end LiteralsExact

namespace Spec

variable {s s' : Spec}

/-- The namespaces have exactly the literals of their tokens. -/
abbrev LiteralsMatch (s : Spec) : Prop := LiteralsExact s.namespaces s.tokens

/-- The literals of all namespaces lead to the primary occurrences of their
    tokens. -/
abbrev LiteralsFound (s : Spec) : Prop := LiteralsLead s.namespaces s.tokens s.occurrences

theorem LiteralsMatch.addToken {t : Token} (h : s.LiteralsMatch) (ht : t.literal = none) :
    (s.addToken t).LiteralsMatch :=
  LiteralsExact.pushToken (LiteralsExact.modify h fun _ => rfl) ht

theorem LiteralsMatch.addOccurring {t : Token} (h : s.LiteralsMatch) (hl : s.ScannersLaidOut)
    (hc : t.scanner ∈ s.scanners) (ht : t.literal = none) :
    ((s.addToken t).addOccurrences s.tokens.next).LiteralsMatch := by
  rw [addToken_addOccurrences hl hc]
  exact LiteralsExact.pushToken (LiteralsExact.modify h fun _ => rfl) ht

theorem LiteralsMatch.addLiteral {t : Token} {l : Literal} (h : s.LiteralsMatch)
    (hl : s.ScannersLaidOut) (ht : t.FitsIn s) (hlit : t.literal = some l.raw)
    (hn : (s.namespaces.get t.home).literal? l.meaning.text = none) :
    (((s.addToken t).addOccurrences s.tokens.next).addLiteral t.home l.meaning.text
      s.occurrences.next).LiteralsMatch := by
  rw [addToken_addOccurrences hl ht.scanner]
  let t' : Token :=
    { t with id := s.tokens.next, occurrences := [s.occurrences.next, s.occurrences.next.succ] }
  have htext : t'.text = l.meaning.text := by
    rw [Token.text, hlit]
    rfl
  -- The token is listed in its home first, which the literals do not notice.
  have h' : LiteralsExact
      (s.namespaces.modify t.home fun n => { n with tokens := n.tokens ++ [s.tokens.next] })
      s.tokens := LiteralsExact.modify h fun _ => rfl
  have hfree := Arena.apply_get_modify (a := s.namespaces) (h := t.home) (g := Namespace.literals)
    (f := fun n => { n with tokens := n.tokens ++ [s.tokens.next] }) (fun _ => rfl) t.home
  rw [← htext]
  refine h'.pushLiteral (t := t') ?_ rfl (Arena.mem_modify.2 ht.home) ?_
  · rw [Token.isLiteral, hlit]
    rfl
  · rw [htext]
    exact (congrArg (Dict.find? · l.meaning.text) hfree).trans hn

theorem Edit.literalsMatch (he : s.Edit s') (hl : s.ScannersLaidOut) (h : s.LiteralsMatch) :
    s'.LiteralsMatch := by
  cases he with
  | addNamespace => exact (LiteralsExact.pushNamespace h rfl).modify fun _ => rfl
  | addToken ht _ hlit => exact h.addOccurring hl ht.scanner hlit
  | addLiteral ht _ hlit hn => exact h.addLiteral hl ht hlit hn
  | addSentinel _ _ _ hlit => exact h.addToken hlit
  | addRegular | addContext | addAlias => exact LiteralsExact.modify h fun _ => rfl
  | _ => exact h

theorem Bind.literalsMatch {n : NonterminalId} (hb : Bind n s s') (h : s.LiteralsMatch) :
    s'.LiteralsMatch := by
  cases hb <;> exact h

theorem Steps.literalsMatch {o : Options} (hs : Steps (initial o) s) : s.LiteralsMatch :=
  (hs.preserves (Q := fun s => s.ScannersLaidOut ∧ s.LiteralsMatch) (closed_initial o)
    (fun he h => ⟨he.scannersLaidOut h.1, he.literalsMatch h.1 h.2⟩) id
    (fun hb h => ⟨hb.scannersLaidOut h.1, hb.literalsMatch h.2⟩)
    (fun h => ⟨h.1, LiteralsExact.modify h.2 fun _ => rfl⟩) ⟨.empty, .empty rfl⟩).2.2

theorem Steps.literalsFound {o : Options} (hs : Steps (initial o) s) : s.LiteralsFound :=
  hs.literalsMatch.lead (hs.tokensReplicated (closed_initial o) .empty .empty).2

/-! ## The check -/

theorem checkLiterals_eq_nil (ht : s.Tagged) (h : s.LiteralsFound) {n : NamespaceId}
    {x : Namespace} (hx : s.namespaces.get? n = some x) : s.checkLiterals x = [] := by
  rw [checkLiterals, List.flatMap_eq_nil_iff]
  intro ⟨text, i⟩ he
  obtain ⟨o, t, ho, hp, hk, hl, hh⟩ := h n x hx _ he
  have hid : x.id = n := ht.namespaces n x hx
  rw [ensure_eq_nil, Arena.get_eq ho, Arena.get_eq hk, hl, hh, hid, Occurrence.isDuplicate, hp]
  simp

end Spec

end LangSpec
