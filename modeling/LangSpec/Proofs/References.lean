import LangSpec.Proofs.Footprint
import LangSpec.Regex.References

/-!
# References to regular definitions

A regular expression refers to regular definitions that were looked up while it
was written. A definition is entered after its expression, so it refers to
earlier ones only, and never to itself, directly or in a circle. What can be
looked up is not sealed, and stays so: nothing is entered over an entry, and no
definition has two.

* `RegularsOrdered`: definitions refer to earlier ones;
* `Spec.HasEntry`, `Edit.entries`: the entries of definitions, and which come;
* `EntriesApart`: a definition has at most one entry;
* `Spec.Usable`: a definition without a sealed entry, and how it stays so;
* `Draft.Resolved`: the drafts of walks whose expressions refer to what was
  looked up before;
* `references_of_resolved`: where the references of such a draft lead.
-/

namespace LangSpec

/-! ## References are handles -/

section Handles

variable {t : RegularId}

mutual

theorem Factor.mem_handles : (x : Factor) → t ∈ x.references →
    (⟨.regulars, t.index⟩ : AnyHandle) ∈ x.handles
  | .reference target _, h => by
    rw [Factor.references, List.mem_singleton] at h
    exact h ▸ List.mem_singleton_self _
  | .paren inner, h => inner.mem_handles h
  | .literal _, h | .range _ _, h | .oneOf _, h | .noneOf _, h => absurd h List.not_mem_nil

theorem Negated.mem_handles : (x : Negated) → t ∈ x.references →
    (⟨.regulars, t.index⟩ : AnyHandle) ∈ x.handles
  | .plain factor, h => factor.mem_handles h
  | .negate _ inner, h => inner.mem_handles h

theorem Repeated.mem_handles : (x : Repeated) → t ∈ x.references →
    (⟨.regulars, t.index⟩ : AnyHandle) ∈ x.handles
  | .plain inner, h => inner.mem_handles h
  | .repeated _ inner, h => inner.mem_handles h

theorem Part.mem_handles : (x : Part) → t ∈ x.references →
    (⟨.regulars, t.index⟩ : AnyHandle) ∈ x.handles
  | .mk body _ _, h => List.mem_append_left _ (List.mem_append_left _ (body.mem_handles h))

theorem Term.mem_handles : (x : Term) → t ∈ x.references →
    (⟨.regulars, t.index⟩ : AnyHandle) ∈ x.handles
  | .single part, h => part.mem_handles h
  | .join _ left right, h =>
    List.mem_append.2 ((List.mem_append.1 h).imp left.mem_handles right.mem_handles)

theorem RegexExpr.mem_handles : (x : RegexExpr) → t ∈ x.references →
    (⟨.regulars, t.index⟩ : AnyHandle) ∈ x.handles
  | .single term, h => term.mem_handles h
  | .join _ left right, h =>
    List.mem_append.2 ((List.mem_append.1 h).imp left.mem_handles right.mem_handles)

theorem Regex.mem_handles : (x : Regex) → t ∈ x.references →
    (⟨.regulars, t.index⟩ : AnyHandle) ∈ x.handles
  | .plain body _, h => List.mem_append_left _ (body.mem_handles h)
  | .trailing body context _, h =>
    List.mem_append_left _
      (List.mem_append.2 ((List.mem_append.1 h).imp body.mem_handles context.mem_handles))

end

end Handles

/-- What a covered regular expression refers to is there. -/
theorem Spec.Covers.references {s : Spec} {r : Regex} (hr : s.Covers r) :
    ∀ t ∈ r.references, t ∈ s.regulars :=
  fun t ht => hr ⟨.regulars, t.index⟩ (r.mem_handles ht)

/-! ## Order -/

/-- Every definition has an expression, and refers to earlier definitions. -/
structure RegularsOrdered (regulars : Arena .regulars Regular) (regexes : Arena .regexes Regex) :
    Prop where
  known : regexes.Forall fun _ r => ∀ u ∈ r.references, u ∈ regulars
  entered : regulars.Forall fun _ x => x.regex ∈ regexes
  earlier : regulars.Forall fun t x => ∀ u ∈ (regexes.get x.regex).references, u.index < t.index

namespace RegularsOrdered

variable {regulars : Arena .regulars Regular} {regexes : Arena .regexes Regex}

theorem pushRegex {r : Regex} (h : RegularsOrdered regulars regexes)
    (hr : ∀ u ∈ r.references, u ∈ regulars) : RegularsOrdered regulars (regexes.push r) where
  known := Arena.Forall.push h.known hr
  entered := h.entered.imp fun _ _ _ hx => Arena.mem_push.2 (.inl hx)
  earlier := h.earlier.imp fun t x hx hrefs => by
    rwa [Arena.get_push_of_mem (h.entered t x hx)]

/-- All definitions there are come before a new one. -/
theorem pushRegular {x : Regular} (h : RegularsOrdered regulars regexes) (hx : x.regex ∈ regexes) :
    RegularsOrdered (regulars.push x) regexes where
  known := h.known.imp fun _ _ _ hr u hu => Arena.mem_push.2 (.inl (hr u hu))
  entered := Arena.Forall.push h.entered hx
  earlier := Arena.Forall.push h.earlier (h.known _ _ (Arena.get?_eq_some_get hx))

end RegularsOrdered

namespace Spec

variable {s s' : Spec}

theorem Edit.regularsOrdered (h : s.Edit s') (hs : RegularsOrdered s.regulars s.regexes) :
    RegularsOrdered s'.regulars s'.regexes := by
  cases h with
  | addRegex hr => exact hs.pushRegex hr.references
  | addRegular loc isSealed hh hr hn => exact hs.pushRegular hr
  | _ => exact hs

theorem Steps.regularsOrdered {o : Options} (h : Steps (initial o) s) :
    RegularsOrdered s.regulars s.regexes :=
  (h.preserves (Q := fun s => RegularsOrdered s.regulars s.regexes) (closed_initial o)
    Edit.regularsOrdered id (fun hb hs => by cases hb <;> exact hs) id
    ⟨.empty, .empty, .empty⟩).2

end Spec

/-! ## Entries -/

/-- One of the namespaces has the entry. -/
def HasEntry (namespaces : Arena .namespaces Namespace) (e : RegularEntry) : Prop :=
  ∃ n name, (namespaces.get n).regular? name = some e

namespace HasEntry

variable {namespaces namespaces' : Arena .namespaces Namespace} {e new : RegularEntry}

/-- Namespaces with the same definitions have the same entries. -/
theorem of_regulars (hn : ∀ n, (namespaces'.get n).regulars = (namespaces.get n).regulars)
    (h : HasEntry namespaces' e) : HasEntry namespaces e := by
  obtain ⟨n, name, he⟩ := h
  rw [Namespace.regular?, hn] at he
  exact ⟨n, name, he⟩

theorem of_modify {n : NamespaceId} {f : Namespace → Namespace}
    (h : HasEntry (namespaces.modify n f) e) (hf : ∀ x, (f x).regulars = x.regulars) :
    HasEntry namespaces e :=
  h.of_regulars (Arena.apply_get_modify (g := Namespace.regulars) hf)

theorem of_push {x : Namespace} (h : HasEntry (namespaces.push x) e) (hx : x.regulars = .empty) :
    HasEntry namespaces e :=
  h.of_regulars (Arena.apply_get_push (g := Namespace.regulars) hx)

theorem of_insert {n : NamespaceId} {name : String}
    (h : HasEntry (namespaces.modify n fun x => { x with regulars := x.regulars.insert name new })
      e) : HasEntry namespaces e ∨ e = new := by
  obtain ⟨n', name', he⟩ := h
  rw [Arena.get, Arena.get?_modify] at he
  split at he
  next =>
    cases hx : namespaces.get? n' with
    | none =>
      rw [hx] at he
      exact .inl ⟨n', name', by rwa [Arena.get, hx]⟩
    | some x =>
      rw [hx, Option.map_some, Option.getD_some, Namespace.regular?, Dict.find?_insert] at he
      split at he
      next => exact .inr (Option.some.inj he).symm
      next => exact .inl ⟨n', name', by rwa [Arena.get, hx]⟩
  next => exact .inl ⟨n', name', he⟩

end HasEntry

/-- All entries lead to definitions, and no two to the same. -/
structure EntriesApart (namespaces : Arena .namespaces Namespace)
    (regulars : Arena .regulars Regular) : Prop where
  known : ∀ e, HasEntry namespaces e → e.target ∈ regulars
  apart : ∀ e e', HasEntry namespaces e → HasEntry namespaces e' → e.target = e'.target → e = e'

/-- A namespace changed in other respects. -/
theorem EntriesApart.modify {namespaces : Arena .namespaces Namespace}
    {regulars : Arena .regulars Regular} {n : NamespaceId} {f : Namespace → Namespace}
    (h : EntriesApart namespaces regulars) (hf : ∀ x, (f x).regulars = x.regulars) :
    EntriesApart (namespaces.modify n f) regulars where
  known e he := h.known e (he.of_modify hf)
  apart e e' he he' := h.apart e e' (he.of_modify hf) (he'.of_modify hf)

/-- The definition `t` can be used in expressions: no entry of it is sealed. -/
def Usable (namespaces : Arena .namespaces Namespace) (regulars : Arena .regulars Regular)
    (t : RegularId) : Prop :=
  t ∈ regulars ∧ ∀ e, HasEntry namespaces e → e.target = t → e.isSealed = false

namespace Spec

variable {s s' : Spec} {t : RegularId}

/-- An edit brings no entry, or one of a new definition. -/
theorem Edit.entries (h : s.Edit s') :
    (∀ e, HasEntry s'.namespaces e → HasEntry s.namespaces e) ∨
      ∃ new : RegularEntry, new.target = s.regulars.next ∧ s.regulars.next ∈ s'.regulars ∧
        ∀ e, HasEntry s'.namespaces e → HasEntry s.namespaces e ∨ e = new := by
  cases h with
  | addNamespace => exact .inl fun e he => (he.of_modify fun _ => rfl).of_push rfl
  | addToken | addSentinel | addContext | addAlias =>
    exact .inl fun e he => he.of_modify fun _ => rfl
  | addLiteral =>
    exact .inl fun e he => (he.of_modify fun _ => rfl).of_modify fun _ => rfl
  | @addRegular home name loc regex isSealed hh hr hn =>
    refine .inr ⟨⟨s.regulars.next, isSealed, loc⟩, rfl, Arena.next_mem_push, fun e he => ?_⟩
    exact he.of_insert
  | _ => exact .inl fun _ he => he

theorem Edit.mem_regulars (h : s.Edit s') (ht : t ∈ s.regulars) : t ∈ s'.regulars :=
  h.grows.mem (h := ⟨.regulars, t.index⟩) ht

theorem Edit.entriesApart (h : s.Edit s') (hs : EntriesApart s.namespaces s.regulars) :
    EntriesApart s'.namespaces s'.regulars := by
  rcases h.entries with hsame | ⟨new, hnew, hmem, hentries⟩
  · exact ⟨fun e he => h.mem_regulars (hs.known e (hsame e he)),
      fun e e' he he' => hs.apart e e' (hsame e he) (hsame e' he')⟩
  · -- The entries that were there lead to definitions that were there.
    have hne (e) (he : HasEntry s.namespaces e) : e.target ≠ new.target := by
      intro htarget
      exact Arena.not_next_mem (hnew ▸ htarget ▸ hs.known e he)
    refine ⟨fun e he => ?_, fun e e' he he' htarget => ?_⟩
    · rcases hentries e he with he | rfl
      · exact h.mem_regulars (hs.known e he)
      · exact hnew ▸ hmem
    · rcases hentries e he with he | rfl <;> rcases hentries e' he' with he' | rfl
      · exact hs.apart e e' he he' htarget
      · exact absurd htarget (hne e he)
      · exact absurd htarget.symm (hne e' he')
      · rfl

theorem Edit.usable (h : s.Edit s') (ht : Usable s.namespaces s.regulars t) :
    Usable s'.namespaces s'.regulars t := by
  refine ⟨h.mem_regulars ht.1, fun e he htarget => ?_⟩
  rcases h.entries with hsame | ⟨new, hnew, -, hentries⟩
  · exact ht.2 e (hsame e he) htarget
  · rcases hentries e he with he | rfl
    · exact ht.2 e he htarget
    · -- A definition that was there is not the new one.
      exact absurd (hnew ▸ htarget ▸ ht.1) Arena.not_next_mem

theorem entriesApart_initial (o : Options) :
    EntriesApart (initial o).namespaces (initial o).regulars := by
  have hnone (e) (he : HasEntry (initial o).namespaces e) : False := by
    obtain ⟨n, name, he⟩ := HasEntry.of_push he rfl
    rw [Arena.get, Arena.get?_empty] at he
    cases he
  exact ⟨fun e he => (hnone e he).elim, fun e _ he => (hnone e he).elim⟩

theorem Steps.entriesApart {o : Options} (h : Steps (initial o) s) :
    EntriesApart s.namespaces s.regulars := by
  refine (h.preserves (Q := fun s => EntriesApart s.namespaces s.regulars) (closed_initial o)
    Edit.entriesApart id (fun hb hs => ?_) (fun hs => ?_) (entriesApart_initial o)).2
  · cases hb <;> exact hs
  · exact hs.modify fun _ => rfl

theorem Steps.usable (h : Steps s s') (hc : s.Closed) (ht : Usable s.namespaces s.regulars t) :
    Usable s'.namespaces s'.regulars t := by
  refine (h.preserves (Q := fun s => Usable s.namespaces s.regulars t) hc
    Edit.usable id (fun hb hs => ?_) (fun hs => ?_) ht).2
  · cases hb <;> exact hs
  · exact ⟨hs.1, fun e he => hs.2 e (he.of_modify fun _ => rfl)⟩

end Spec

/-! ## Looking up -/

namespace Draft

variable {o : Options} {d : Draft} {op : Op} {t : RegularId}

/-- The definitions found by the operation, to be referred to. -/
def found (d : Draft) : Op → List RegularId
  | .refer name => ((d.refer name).1.map Factor.references).getD []
  | _ => []

theorem hasEntry_of_regular? {s : Spec} {n m : NamespaceId} {name : String} {e : RegularEntry}
    (h : s.regular? n name = some (m, e)) : HasEntry s.namespaces e := by
  obtain ⟨m', -, hm⟩ := List.exists_of_findSome?_eq_some h
  obtain ⟨e', he, h⟩ := Option.map_eq_some_iff.1 hm
  cases h
  exact ⟨m, name, he⟩

/-- What is found can be used. -/
theorem usable_of_found (ha : EntriesApart d.spec.namespaces d.spec.regulars)
    (ht : t ∈ d.found op) : Usable d.spec.namespaces d.spec.regulars t := by
  cases op with
  | refer name =>
    rw [found, refer] at ht
    split at ht
    next m e he =>
      have hentry := hasEntry_of_regular? he
      split at ht
      next => exact absurd ht List.not_mem_nil
      next hsealed =>
        have ht : t = e.target := List.mem_singleton.1 ht
        refine ⟨ht ▸ ha.known e hentry, fun e' he' htarget => ?_⟩
        rw [ha.apart e' e he' hentry (htarget.trans ht)]
        exact Bool.eq_false_iff.2 hsealed
    next => exact absurd ht List.not_mem_nil
  | _ => exact absurd ht List.not_mem_nil

/-- The drafts of walks whose regular expressions refer only to what was looked
    up before, and all that was looked up. -/
inductive Resolved (o : Options) : Draft → List RegularId → Prop
  | start : Resolved o (.start o) []
  | step {d : Draft} {op : Op} {known : List RegularId} :
      Resolved o d known → d.Admits op → (∀ r ∈ op.regexes, ∀ t ∈ r.references, t ∈ known) →
        Resolved o (op.apply d) (d.found op ++ known)

/-- What has been looked up after a list of operations, `known` before it. -/
def foundAll (d : Draft) (known : List RegularId) : List Op → List RegularId
  | [] => known
  | op :: ops => (op.apply d).foundAll (d.found op ++ known) ops

/-- The operations of the list are admitted, and their expressions refer to what
    was looked up before. -/
def ResolvesAll (d : Draft) (known : List RegularId) : List Op → Prop
  | [] => True
  | op :: ops =>
    d.Admits op ∧ (∀ r ∈ op.regexes, ∀ t ∈ r.references, t ∈ known) ∧
      (op.apply d).ResolvesAll (d.found op ++ known) ops

instance decidableResolvesAll (d : Draft) (known : List RegularId) :
    (ops : List Op) → Decidable (d.ResolvesAll known ops)
  | [] => inferInstanceAs (Decidable True)
  | op :: ops =>
    have := decidableResolvesAll (op.apply d) (d.found op ++ known) ops
    inferInstanceAs (Decidable (_ ∧ _ ∧ _))

namespace Resolved

variable {known : List RegularId}

theorem reachable (h : Resolved o d known) : Reachable o d := by
  induction h with
  | start => exact .start
  | step _ hop _ ih => exact .step ih hop

theorem run {ops : List Op} (h : Resolved o d known) (hops : d.ResolvesAll known ops) :
    Resolved o (d.run ops) (d.foundAll known ops) := by
  induction ops generalizing d known with
  | nil => exact h
  | cons op ops ih => exact ih (.step h hops.1 hops.2.1) hops.2.2

/-- What was looked up can be used ever after. -/
theorem usable (h : Resolved o d known) :
    ∀ t ∈ known, Usable d.spec.namespaces d.spec.regulars t := by
  induction h with
  | start => exact fun _ ht => absurd ht List.not_mem_nil
  | @step d op known h hop _ ih =>
    have hd := h.reachable
    intro t ht
    refine (hd.sound.effect hop).steps.usable hd.sound.closed ?_
    rcases List.mem_append.1 ht with ht | ht
    · exact usable_of_found hd.steps.entriesApart ht
    · exact ih t ht

/-- Every expression entered refers to what was looked up. -/
theorem references_known (h : Resolved o d known) :
    d.spec.regexes.Forall fun _ r => ∀ t ∈ r.references, t ∈ known := by
  induction h with
  | start => exact .empty
  | @step d op known h hop hrefs ih =>
    have hold : d.spec.regexes.Forall fun _ r => ∀ t ∈ r.references, t ∈ d.found op ++ known :=
      ih.imp fun _ _ _ hr t ht => List.mem_append_right _ (hr t ht)
    rcases h.reachable.sound.regexes_apply hop with heq | ⟨r, hr, heq⟩
    · rw [heq]
      exact hold
    · rw [heq]
      exact hold.push fun t ht => List.mem_append_right _ (hrefs r hr t ht)

end Resolved

end Draft

namespace Spec

/-- The definitions that the definition `t` refers to. -/
def referencesOf (s : Spec) (t : RegularId) : List RegularId :=
  (s.regexes.get (s.regulars.get t).regex).references

/-- The definition `t` refers to `u`. -/
def RefersTo (s : Spec) (t u : RegularId) : Prop := t ∈ s.regulars ∧ u ∈ s.referencesOf t

end Spec

namespace Draft

variable {o : Options} {d : Draft}

/-- A definition refers to earlier ones. -/
theorem Reachable.reference_lt (hd : Reachable o d) {t u : RegularId} (h : d.spec.RefersTo t u) :
    u.index < t.index :=
  hd.steps.regularsOrdered.earlier t _ (Arena.get?_eq_some_get h.1) u h.2

theorem Reachable.no_circle (hd : Reachable o d) (t : RegularId) :
    ¬Relation.TransGen d.spec.RefersTo t t := by
  have hlt {t u : RegularId} (h : Relation.TransGen d.spec.RefersTo t u) : u.index < t.index := by
    induction h with
    | single h => exact hd.reference_lt h
    | tail _ h ih => exact Nat.lt_trans (hd.reference_lt h) ih
  exact fun h => Nat.lt_irrefl _ (hlt h)

/-- Where references lead if they were looked up: those of a definition to
    earlier ones, so that no definition comes back to itself, and all of them to
    definitions that are there and sealed in no namespace. -/
theorem references_of_resolved (o : Options) (d : Draft) (known : List RegularId)
    (h : Resolved o d known) :
    (∀ t ∈ d.spec.regulars, ∀ u ∈ d.spec.referencesOf t, u.index < t.index) ∧
      (∀ t, ¬Relation.TransGen d.spec.RefersTo t t) ∧
      ∀ r ∈ d.spec.regexes, ∀ u ∈ (d.spec.regexes.get r).references,
        u ∈ d.spec.regulars ∧
          ∀ n name e, (d.spec.namespaces.get n).regular? name = some e → e.target = u →
            e.isSealed = false := by
  refine ⟨fun t ht u hu => h.reachable.reference_lt ⟨ht, hu⟩, h.reachable.no_circle, ?_⟩
  intro r hr u hu
  have hknown := h.references_known r _ (Arena.get?_eq_some_get hr) u hu
  obtain ⟨hmem, husable⟩ := h.usable u hknown
  exact ⟨hmem, fun n name e he => husable e ⟨n, name, he⟩⟩

/-- Words are made of letters, and the definition of the letters is looked up
    before it is used. -/
theorem references_of_resolved_words :
    let word : Regex := .ofFactor (.reference ⟨0⟩ .origin)
    let ops : List Op :=
      [ .declareRegular { text := "letter" } (.ofLiteral { raw := "'a'" }) false
      , .refer { text := "letter" }
      , .declareToken (.named { text := "word" } (some word)) ]
    let d := (start {}).run ops
    let known := (start {}).foundAll [] ops
    Resolved {} d known ∧
      (∀ t ∈ d.spec.regulars, ∀ u ∈ d.spec.referencesOf t, u.index < t.index) ∧
      (∀ t, ¬Relation.TransGen d.spec.RefersTo t t) ∧
      ∀ r ∈ d.spec.regexes, ∀ u ∈ (d.spec.regexes.get r).references,
        u ∈ d.spec.regulars ∧
          ∀ n name e, (d.spec.namespaces.get n).regular? name = some e → e.target = u →
            e.isSealed = false := by
  intro word ops d known
  have h : Resolved {} d known := Resolved.start.run (by decide +kernel)
  exact ⟨h, references_of_resolved {} d known h⟩

end Draft

end LangSpec
