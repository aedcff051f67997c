import LangSpec.Proofs.OutwardWays
import LangSpec.Proofs.RegularEntries

/-!
# Innermost definitions

A name is looked up in a namespace and, if it is not defined there, in the
namespace around it, up to the root. In a draft that a walk leads to, the way
outward ends at the root, so each lookup ends, too, with the first definition on
the way if there is one. Definitions further out are hidden by it, whether it can
be used in expressions or not: a name whose innermost definition is sealed is
reported, no matter what it stands for outside.

* `FirstDefines`: the first definition of a name on a way;
* `Addressable.exists_ascends`: the way outward ends at the root;
* `Ascends.regular?_eq_some_iff`, `Ascends.regular?_eq_none_iff`: what a lookup
  finds;
* `Draft.innermost_definition_found`: lookups and references.
-/

namespace LangSpec

namespace Spec

variable {s : Spec} {n m : NamespaceId} {ns : List NamespaceId} {name : String} {e : RegularEntry}

/-- On the way `ns`, the first namespace that defines the name is `m`, and the
    definition is `e`. -/
def FirstDefines (s : Spec) (name : String) (ns : List NamespaceId) (m : NamespaceId)
    (e : RegularEntry) : Prop :=
  ∃ inner outer, ns = inner ++ m :: outer ∧
    (∀ n ∈ inner, (s.namespaces.get n).regular? name = none) ∧
    (s.namespaces.get m).regular? name = some e

theorem Addressable.exists_ascends (hs : s.Addressable) :
    ∀ n ∈ s.namespaces, ∃ ns, s.Ascends n ns ∧ ns.getLast? = some root := by
  refine hs.within_induction ⟨[root], .stop ?_, rfl⟩ fun n p hn ⟨ns, hns, hlast⟩ => ?_
  · exact (hs.parent_eq_none_iff hs.tree.root).2 rfl
  · refine ⟨n :: ns, .step hn.2 hns, ?_⟩
    rw [List.getLast?_cons, hlast]
    rfl

namespace Ascends

theorem regular?_eq_some_iff (h : s.Ascends n ns) (hc : s.Closed) (hn : n ∈ s.namespaces) :
    s.regular? n name = some (m, e) ↔ s.FirstDefines name ns m e := by
  have hmap {n m : NamespaceId} {e : RegularEntry} :
      ((s.namespaces.get n).regular? name).map (n, ·) = some (m, e) ↔
        n = m ∧ (s.namespaces.get n).regular? name = some e := by
    rw [Option.map_eq_some_iff]
    exact ⟨fun ⟨_, he, h⟩ => by cases h; exact ⟨rfl, he⟩, fun ⟨h, he⟩ => ⟨e, he, by rw [h]⟩⟩
  rw [regular?, h.outward_eq hc hn, List.findSome?_eq_some_iff]
  constructor
  · rintro ⟨inner, m', outer, rfl, hm, hinner⟩
    obtain ⟨rfl, he⟩ := hmap.1 hm
    exact ⟨inner, outer, rfl, fun k hk => Option.map_eq_none_iff.1 (hinner k hk), he⟩
  · rintro ⟨inner, outer, rfl, hinner, he⟩
    exact ⟨inner, m, outer, rfl, hmap.2 ⟨rfl, he⟩,
      fun k hk => Option.map_eq_none_iff.2 (hinner k hk)⟩

theorem regular?_eq_none_iff (h : s.Ascends n ns) (hc : s.Closed) (hn : n ∈ s.namespaces) :
    s.regular? n name = none ↔ ∀ m ∈ ns, (s.namespaces.get m).regular? name = none := by
  rw [regular?, h.outward_eq hc hn, List.findSome?_eq_none_iff]
  exact forall₂_congr fun _ _ => Option.map_eq_none_iff

theorem looksUp_regular? (h : s.Ascends n ns) (hc : s.Closed) (hn : n ∈ s.namespaces)
    (name : String) : s.LooksUp name n (s.regular? n name) := by
  rw [regular?, h.outward_eq hc hn]
  exact h.looksUp name

end Ascends

end Spec

namespace Draft

variable {o : Options} {d : Draft} {m : NamespaceId} {e : RegularEntry}

/-- What is found is a definition of this name. -/
theorem Reachable.name_of_regular? (hd : Reachable o d) {n : NamespaceId} {name : String}
    (h : d.spec.regular? n name = some (m, e)) :
    e.target ∈ d.spec.regulars ∧ (d.spec.regulars.get e.target).name = name := by
  obtain ⟨m', -, hm⟩ := List.exists_of_findSome?_eq_some h
  obtain ⟨e', he, hpair⟩ := Option.map_eq_some_iff.1 hm
  cases hpair
  exact hd.steps.entriesMatch.named m (name, e) (Dict.mem_entries_of_find? he)

/-- A reference is made to the definition that is found, unless it is sealed. -/
theorem refer_cases (d : Draft) (name : Name) :
    (∃ m e, d.spec.regular? d.home name.text = some (m, e) ∧ e.isSealed = false ∧
      d.refer name = (some (.reference e.target name.loc), d)) ∨
    ((∀ m e, d.spec.regular? d.home name.text = some (m, e) → e.isSealed = true) ∧
      ∃ p, Problem.kind p = .unresolved ∧ d.refer name = (none, d.report p name.loc)) := by
  rw [refer]
  cases h : d.spec.regular? d.home name.text with
  | none =>
    refine .inr ⟨fun m e he => ?_, .unknownRegular name.text, rfl, rfl⟩
    exact absurd he.symm (Option.some_ne_none (m, e))
  | some found =>
    obtain ⟨m, e⟩ := found
    cases hsealed : e.isSealed with
    | false => exact .inl ⟨m, e, rfl, hsealed, by simp [hsealed]⟩
    | true =>
      refine .inr ⟨fun m' e' h => ?_, .sealedReference, rfl, by simp [hsealed]⟩
      cases h
      exact hsealed

/-- A walk leads to drafts where the way outward from a namespace ends at the
    root, and so does the search for a definition of a name, with the first one
    on the way and the namespace that has it, or with nothing exactly if none of
    the namespaces on the way defines the name. A reference to a name is made, at
    its place, exactly to the definition found from the current namespace, if it
    is not sealed; then the definition has this name, and the draft stays as it
    is. Otherwise there is no reference, and the draft changes by one diagnostic
    at the place of the name. -/
theorem innermost_definition_found (hd : Reachable o d) :
    let s := d.spec
    (∀ n ∈ s.namespaces, ∃ ns, s.Ascends n ns ∧ ns.getLast? = some Spec.root ∧ ∀ name,
      s.LooksUp name n (s.regular? n name) ∧
      (∀ m e, s.regular? n name = some (m, e) ↔ s.FirstDefines name ns m e) ∧
      (s.regular? n name = none ↔ ∀ m ∈ ns, (s.namespaces.get m).regular? name = none)) ∧
    d.home ∈ s.namespaces ∧
    ∀ name : Name,
      (∀ g loc, (d.refer name).1 = some (.reference g loc) ↔
        loc = name.loc ∧ ∃ m e, s.regular? d.home name.text = some (m, e) ∧ e.target = g ∧
          e.isSealed = false) ∧
      (∀ g loc, (d.refer name).1 = some (.reference g loc) →
        g ∈ s.regulars ∧ (s.regulars.get g).name = name.text ∧ (d.refer name).2 = d) ∧
      ((∀ g loc, (d.refer name).1 ≠ some (.reference g loc)) →
        (d.refer name).1 = none ∧ ∃ message, (d.refer name).2 =
          { d with diagnostics := d.diagnostics ++ [⟨.unresolved, name.loc, message⟩] }) := by
  intro s
  have hc := hd.sound.closed
  refine ⟨fun n hn => ?_, hd.sound.home, fun name => ?_⟩
  · obtain ⟨ns, hns, hlast⟩ := hd.addressable.exists_ascends n hn
    exact ⟨ns, hns, hlast, fun name => ⟨hns.looksUp_regular? hc hn name,
      fun _ _ => hns.regular?_eq_some_iff hc hn, hns.regular?_eq_none_iff hc hn⟩⟩
  · obtain ⟨m, e, hfound, hsealed, hrefer⟩ | ⟨hsealed, p, hp, hrefer⟩ := d.refer_cases name
    · have hreference {g : RegularId} {loc : Location}
          (h : (d.refer name).1 = some (.reference g loc)) : e.target = g ∧ name.loc = loc := by
        rw [hrefer] at h
        cases h
        exact ⟨rfl, rfl⟩
      refine ⟨fun g loc => ⟨fun h => ?_, ?_⟩, fun g loc h => ?_, fun h => ?_⟩
      · obtain ⟨rfl, rfl⟩ := hreference h
        exact ⟨rfl, m, e, hfound, rfl, hsealed⟩
      · rintro ⟨rfl, m', e', hfound', rfl, -⟩
        cases hfound.symm.trans hfound'
        rw [hrefer]
      · obtain ⟨rfl, -⟩ := hreference h
        obtain ⟨hmem, hname⟩ := hd.name_of_regular? hfound
        exact ⟨hmem, hname, congrArg Prod.snd hrefer⟩
      · exact absurd (congrArg Prod.fst hrefer) (h _ _)
    · have hnone : (d.refer name).1 = none := congrArg Prod.fst hrefer
      refine ⟨fun g loc => ⟨fun h => ?_, ?_⟩, fun g loc h => ?_, fun _ => ⟨hnone, p.message, ?_⟩⟩
      · exact nomatch hnone.symm.trans h
      · rintro ⟨-, m, e, hfound, -, hopen⟩
        exact nomatch (hsealed m e hfound).symm.trans hopen
      · exact nomatch hnone.symm.trans h
      · rw [hrefer, report, Problem.reportedAt, hp]

/-- A definition hidden by a sealed one, looked up from within and from outside. -/
theorem innermost_definition_found_hidden :
    let digit : Name := { text := "digit" }
    let inside : List Op :=
      [ .declareRegular digit (.ofLiteral { raw := "'1'" }) false
      , .openNamespace { text := "more" }
      , .declareRegular digit (.ofLiteral { raw := "'2'" }) true
      , .openNamespace { text := "others" } ]
    let d := (start {}).run inside
    let d' := (start {}).run (inside ++ [.closeNamespace, .closeNamespace])
    Reachable {} d ∧ Reachable {} d' ∧
      (∃ ns, d.spec.Ascends ⟨2⟩ ns ∧ ns.getLast? = some Spec.root ∧
        d.spec.FirstDefines "digit" ns ⟨1⟩ ⟨⟨1⟩, true, .origin⟩) ∧
      (∃ message, (d.refer digit).2 =
        { d with diagnostics := d.diagnostics ++ [⟨.unresolved, .origin, message⟩] }) ∧
      (d'.refer digit).1 = some (.reference ⟨0⟩ .origin) ∧
      (d'.spec.regulars.get ⟨0⟩).name = "digit" := by
  intro digit inside d d'
  have hd : Reachable {} d := Reachable.start.run (by decide +kernel)
  have hd' : Reachable {} d' := Reachable.start.run (by decide +kernel)
  have hhome : d.home = ⟨2⟩ := by decide +kernel
  have hfound : d.spec.regular? ⟨2⟩ "digit" = some (⟨1⟩, ⟨⟨1⟩, true, .origin⟩) := by
    decide +kernel
  have hfound' : d'.spec.regular? d'.home "digit" = some (⟨0⟩, ⟨⟨0⟩, false, .origin⟩) := by
    decide +kernel
  obtain ⟨hway, -, hrefer⟩ := innermost_definition_found hd
  obtain ⟨-, -, hrefer'⟩ := innermost_definition_found hd'
  obtain ⟨hiff, -, hnone⟩ := hrefer digit
  obtain ⟨hiff', hsome', -⟩ := hrefer' digit
  have hreference : (d'.refer digit).1 = some (.reference ⟨0⟩ .origin) :=
    (hiff' _ _).2 ⟨rfl, _, _, hfound', rfl, rfl⟩
  refine ⟨hd, hd', ?_, ?_, hreference, (hsome' _ _ hreference).2.1⟩
  · obtain ⟨ns, hns, hlast, hlookup⟩ := hway ⟨2⟩ (by decide +kernel)
    exact ⟨ns, hns, hlast, ((hlookup "digit").2.1 _ _).1 hfound⟩
  · -- The sealed definition is found first, and cannot be referred to.
    refine (hnone fun g loc h => ?_).2
    obtain ⟨-, m, e, he, -, hopen⟩ := (hiff g loc).1 h
    rw [hhome] at he
    cases hfound.symm.trans he
    exact nomatch hopen

end Draft

end LangSpec
