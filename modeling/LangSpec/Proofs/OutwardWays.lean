import LangSpec.Proofs.NamespacePaths
import LangSpec.Proofs.ValidSpecs
import Mathlib.Data.Fintype.EquivFin
import Mathlib.Data.List.Perm.Subperm

/-!
# Ways outward in valid specifications

The checks of a specification go through the namespaces listed within each
other. So they settle what is listed: siblings have different names, and from
whatever is listed, directly or not, within the root, the way outward leads back
to the root. Of a namespace that no other one lists, nothing is checked but that
it has a parent. A specification that was changed after it was written may be
valid, and still have such a namespace with the name of a sibling, or with a way
outward that goes in circles and never comes to an end. Those are the only
obstacles: without a circle the way ends at the root, and looking up a name or
writing down the path ends, too.

* `Spec.Ascends`: a way outward that ends;
* `Spec.LooksUp`, `Spec.Spells`: what it is to look up a name, and to write down
  a path, going outward step by step;
* `Closed.exists_ascends`: a way without a circle ends;
* `Valid.ascends_of_hasChild`: so does the way from what is listed;
* `listed_namespaces_form_tree`: what is certain of valid specifications;
* `valid_with_circle`: a valid specification without a tree of namespaces.
-/

namespace LangSpec.Spec

variable {s : Spec} {n m p : NamespaceId} {ns : List NamespaceId}

/-- The way outward from `n` is `ns`, and ends there: the last namespace has no
    parent. -/
inductive Ascends (s : Spec) : NamespaceId → List NamespaceId → Prop
  | stop {n : NamespaceId} (h : (s.namespaces.get n).parent = none) : Ascends s n [n]
  | step {n p : NamespaceId} {ns : List NamespaceId} (h : (s.namespaces.get n).parent = some p)
      (hp : Ascends s p ns) : Ascends s n (n :: ns)

/-- Looking for a regular definition of this name from `n` outward ends with the
    result `r`. -/
inductive LooksUp (s : Spec) (name : String) :
    NamespaceId → Option (NamespaceId × RegularEntry) → Prop
  | found {n : NamespaceId} {e : RegularEntry} (h : (s.namespaces.get n).regular? name = some e) :
      LooksUp s name n (some (n, e))
  | missing {n : NamespaceId} (h : (s.namespaces.get n).regular? name = none)
      (hn : (s.namespaces.get n).parent = none) : LooksUp s name n none
  | outward {n p : NamespaceId} {r : Option (NamespaceId × RegularEntry)}
      (h : (s.namespaces.get n).regular? name = none) (hn : (s.namespaces.get n).parent = some p)
      (hp : LooksUp s name p r) : LooksUp s name n r

/-- Going outward from `n` and noting the names on the way, but for the last one,
    ends with these names. -/
inductive Spells (s : Spec) : NamespaceId → List String → Prop
  | stop {n : NamespaceId} (h : (s.namespaces.get n).parent = none) : Spells s n []
  | step {n p : NamespaceId} {names : List String} (h : (s.namespaces.get n).parent = some p)
      (hp : Spells s p names) : Spells s n (names ++ [(s.namespaces.get n).name])

/-- The way outward from `n` comes to a namespace again. -/
def Circles (s : Spec) (n : NamespaceId) : Prop :=
  ∃ m, Relation.ReflTransGen s.Within n m ∧ Relation.TransGen s.Within m m

/-- The namespace `p` lists `c` as lying within it. -/
def HasChild (s : Spec) (p c : NamespaceId) : Prop :=
  p ∈ s.namespaces ∧ c ∈ (s.namespaces.get p).children

instance : Decidable (s.HasChild p n) := inferInstanceAs (Decidable (_ ∧ _))

/-! ## Ways that end -/

theorem Closed.mem_outer (hc : s.Closed) (h : s.Within n p) : p ∈ s.namespaces := by
  have h' := (allHandles_namespace.1 (hc.all.namespaces.get h.1)).2.1
  exact covers_handle.1 (allHandles_option.1 h' p h.2)

theorem Closed.mem_way (hc : s.Closed) (hn : n ∈ s.namespaces)
    (h : Relation.ReflTransGen s.Within n m) : m ∈ s.namespaces := by
  induction h with
  | refl => exact hn
  | tail _ h _ => exact hc.mem_outer h

namespace Ascends

/-- A way that ends does not go in circles. -/
theorem not_circles (h : s.Ascends n ns) : ¬s.Circles n := by
  induction h with
  | @stop n h =>
    have hlast {m : NamespaceId} (hm : s.Within n m) : False :=
      Option.some_ne_none m (hm.2.symm.trans h)
    rintro ⟨m, hm, hcircle⟩
    rcases Relation.ReflTransGen.cases_head hm with rfl | ⟨_, h, _⟩
    · obtain ⟨_, h, _⟩ := Relation.TransGen.head'_iff.1 hcircle
      exact hlast h
    · exact hlast h
  | @step n p ns h _ ih =>
    have hnext {m : NamespaceId} (hm : s.Within n m) : m = p :=
      (Option.some.inj (h.symm.trans hm.2)).symm
    rintro ⟨m, hm, hcircle⟩
    rcases Relation.ReflTransGen.cases_head hm with rfl | ⟨q, hq, hm⟩
    · -- The circle goes on from the parent, and comes back to it.
      obtain ⟨q, hq, hback⟩ := Relation.TransGen.head'_iff.1 hcircle
      obtain rfl := hnext hq
      exact ih ⟨q, .refl, Relation.TransGen.tail' hback hq⟩
    · exact ih ⟨m, hnext hq ▸ hm, hcircle⟩

theorem mem_way (h : s.Ascends n ns) (hc : s.Closed) (hn : n ∈ s.namespaces) :
    ∀ m ∈ ns, Relation.ReflTransGen s.Within n m := by
  induction h with
  | stop => exact fun m hm => List.mem_singleton.1 hm ▸ .refl
  | @step n p ns h _ ih =>
    have hw : s.Within n p := ⟨hn, h⟩
    intro m hm
    rcases List.mem_cons.1 hm with rfl | hm
    · exact .refl
    · exact .head hw (ih (hc.mem_outer hw) m hm)

theorem nodup (h : s.Ascends n ns) (hc : s.Closed) (hn : n ∈ s.namespaces) : ns.Nodup := by
  induction h with
  | stop => exact List.nodup_singleton _
  | @step n p ns h hp ih =>
    have hw : s.Within n p := ⟨hn, h⟩
    have hmem := hc.mem_outer hw
    refine List.nodup_cons.2 ⟨fun hback => ?_, ih hmem⟩
    exact (Ascends.step h hp).not_circles
      ⟨n, .refl, Relation.TransGen.head' hw (hp.mem_way hc hmem n hback)⟩

/-- No way is longer than there are namespaces. -/
theorem length_le (h : s.Ascends n ns) (hc : s.Closed) (hn : n ∈ s.namespaces) :
    ns.length ≤ s.namespaces.size := by
  have hsub : ns ⊆ s.namespaces.ids := fun m hm =>
    Arena.mem_ids.2 (hc.mem_way hn (h.mem_way hc hn m hm))
  have hle := (List.Nodup.subperm (h.nodup hc hn) hsub).length_le
  rwa [Arena.ids, List.length_map, List.length_range] at hle

theorem climb_eq (h : s.Ascends n ns) {fuel : Nat} (hl : ns.length ≤ fuel) :
    s.climb fuel n = ns := by
  induction h generalizing fuel with
  | stop h =>
    obtain ⟨fuel, rfl⟩ := Nat.exists_eq_add_of_le' hl
    rw [List.length_singleton, climb, h]
  | step h _ ih =>
    rw [List.length_cons] at hl
    obtain ⟨fuel, rfl⟩ := Nat.exists_eq_add_one_of_ne_zero (Nat.ne_zero_of_lt hl)
    rw [climb, h]
    exact congrArg _ (ih (Nat.le_of_succ_le_succ hl))

theorem outward_eq (h : s.Ascends n ns) (hc : s.Closed) (hn : n ∈ s.namespaces) :
    s.outward n = ns :=
  h.climb_eq (h.length_le hc hn)

/-- At the end of the way there is a namespace without a parent. -/
theorem getLast? (h : s.Ascends n ns) :
    ∃ m, ns.getLast? = some m ∧ m ∈ ns ∧ (s.namespaces.get m).parent = none := by
  induction h with
  | stop h => exact ⟨_, rfl, List.mem_singleton_self _, h⟩
  | step _ _ ih =>
    obtain ⟨m, hlast, hmem, hm⟩ := ih
    refine ⟨m, ?_, List.mem_cons_of_mem _ hmem, hm⟩
    rw [List.getLast?_cons, hlast]
    rfl

theorem looksUp (h : s.Ascends n ns) (name : String) :
    s.LooksUp name n (ns.findSome? fun m => ((s.namespaces.get m).regular? name).map (m, ·)) := by
  induction h with
  | @stop n h =>
    rw [List.findSome?_singleton]
    cases hn : (s.namespaces.get n).regular? name with
    | none => exact .missing hn h
    | some e => exact .found hn
  | @step n p ns h _ ih =>
    rw [List.findSome?_cons]
    cases hn : (s.namespaces.get n).regular? name with
    | none => exact .outward hn h ih
    | some e => exact .found hn

theorem spells (h : s.Ascends n ns) : s.Spells n
    ((ns.map s.namespaces.get).reverse.filterMap fun x =>
      if x.isRoot then none else some x.name) := by
  induction h with
  | @stop n h =>
    have hroot : (s.namespaces.get n).isRoot = true := by
      rw [Namespace.isRoot, h, Option.isNone_none]
    simpa [hroot] using Spells.stop h
  | @step n p ns h _ ih =>
    have hroot : (s.namespaces.get n).isRoot = false := by
      rw [Namespace.isRoot, h, Option.isNone_some]
    simpa [hroot] using Spells.step h ih

end Ascends

/-- A name is found missing only at the end of the way. -/
theorem LooksUp.exists_ascends {name : String} {r : Option (NamespaceId × RegularEntry)}
    (h : s.LooksUp name n r) (hr : r = none) : ∃ ns, s.Ascends n ns := by
  induction h with
  | found => cases hr
  | missing _ hn => exact ⟨_, .stop hn⟩
  | outward _ hn _ ih =>
    obtain ⟨ns, hns⟩ := ih hr
    exact ⟨_, .step hn hns⟩

theorem Spells.exists_ascends {names : List String} (h : s.Spells n names) :
    ∃ ns, s.Ascends n ns := by
  induction h with
  | stop h => exact ⟨_, .stop h⟩
  | step h _ ih =>
    obtain ⟨ns, hns⟩ := ih
    exact ⟨_, .step h hns⟩

namespace Circles

theorem not_looksUp (h : s.Circles n) (name : String) : ¬s.LooksUp name n none := by
  intro hmissing
  obtain ⟨ns, hns⟩ := hmissing.exists_ascends rfl
  exact hns.not_circles h

theorem not_spells (h : s.Circles n) (names : List String) : ¬s.Spells n names := by
  intro hspells
  obtain ⟨ns, hns⟩ := hspells.exists_ascends
  exact hns.not_circles h

end Circles

/-- A way outward that does not go in circles ends. -/
theorem Closed.exists_ascends (hc : s.Closed) (hn : n ∈ s.namespaces) (h : ¬s.Circles n) :
    ∃ ns, s.Ascends n ns := by
  -- The namespaces on the way are finitely many, and none comes again.
  let Way := {m : NamespaceId // Relation.ReflTransGen s.Within n m}
  let Next : Way → Way → Prop := fun m p => s.Within m p
  have hfinite : Finite Way := by
    refine Finite.of_injective
      (fun m : Way => (⟨m.1.index, hc.mem_way hn m.2⟩ : Fin s.namespaces.size)) fun m p e => ?_
    exact Subtype.ext (Handle.index_injective (congrArg Fin.val e))
  have htrans : IsTrans Way (Function.swap (Relation.TransGen Next)) :=
    ⟨fun _ _ _ hm hp => hp.trans hm⟩
  have hirrefl : Std.Irrefl (Function.swap (Relation.TransGen Next)) :=
    ⟨fun m hm => h ⟨m.1, m.2, Relation.TransGen.lift Subtype.val (fun _ _ hw => hw) _ _ hm⟩⟩
  have hwf := Finite.wellFounded_of_trans_of_irrefl (Function.swap (Relation.TransGen Next))
  suffices ∀ m : Way, ∃ ns, s.Ascends m ns from this ⟨n, .refl⟩
  intro m
  induction m using hwf.induction with
  | _ m ih =>
    cases hp : (s.namespaces.get m).parent with
    | none => exact ⟨_, .stop hp⟩
    | some p =>
      have hw : s.Within m p := ⟨hc.mem_way hn m.2, hp⟩
      obtain ⟨ns, hns⟩ := ih ⟨p, m.2.tail hw⟩ (.single hw)
      exact ⟨_, .step hp hns⟩

/-! ## What is checked -/

namespace Valid

/-- What the check of a namespace has found to hold. -/
theorem namespace_checked (hv : s.Valid) (hn : n ∈ s.namespaces) :
    ((s.namespaces.get n).parent = none ↔ n = root) ∧
      (∀ c ∈ (s.namespaces.get n).children, (s.namespaces.get c).parent = some n) ∧
      ((s.namespaces.get n).children.map fun c => (s.namespaces.get c).name).Nodup := by
  obtain ⟨htagged, hnamespaces, -⟩ := valid_iff_checks.1 hv
  have hx := Arena.get?_eq_some_get hn
  exact (checkNamespace_eq_nil_iff (htagged.namespaces n _ hx)).1 (hnamespaces n _ hx)

/-- What a namespace lists lies in it. -/
theorem parent_of_hasChild (hv : s.Valid) (h : s.HasChild p n) :
    (s.namespaces.get n).parent = some p :=
  (hv.namespace_checked h.1).2.1 n h.2

/-- Siblings that are listed have different names. -/
theorem eq_of_name_eq (hv : s.Valid) (hn : s.HasChild p n) (hm : s.HasChild p m)
    (h : (s.namespaces.get n).name = (s.namespaces.get m).name) : n = m :=
  List.inj_on_of_nodup_map (hv.namespace_checked hn.1).2.2 hn.2 hm.2 h

/-- The way from what is listed, directly or not, within the root ends. -/
theorem ascends_of_hasChild (hv : s.Valid) (hn : n ∈ s.namespaces)
    (h : Relation.ReflTransGen s.HasChild root n) : ∃ ns, s.Ascends n ns := by
  induction h with
  | refl => exact ⟨_, .stop ((hv.namespace_checked hn).1.2 rfl)⟩
  | tail _ h ih =>
    obtain ⟨ns, hns⟩ := ih h.1
    exact ⟨_, .step (hv.parent_of_hasChild h) hns⟩

end Valid

/-- In a valid specification without handles that lead nowhere, the way outward
    from a namespace leads to the root unless it goes in circles; then looking up
    any name ends, and so does writing down the path, with the results of
    `regular?` and `path`. In circles neither a name is found missing nor a path
    written down. From what is listed, directly or not, within the root the way
    does not go in circles, and of namespaces that are listed two with the same
    parent have different names. -/
theorem listed_namespaces_form_tree (hc : s.Closed) (hv : s.Valid) :
    (∀ n ∈ s.namespaces, ¬s.Circles n →
      (∃ ns, s.Ascends n ns ∧ ns.getLast? = some root) ∧
        (∀ name, s.LooksUp name n (s.regular? n name)) ∧ s.Spells n (s.path n)) ∧
    (∀ n, s.Circles n →
      (∀ name, ¬s.LooksUp name n none) ∧ ∀ names, ¬s.Spells n names) ∧
    (∀ n ∈ s.namespaces, Relation.ReflTransGen s.HasChild root n → ¬s.Circles n) ∧
    ∀ p n m, s.Within n p → s.Within m p → (∃ q, s.HasChild q n) → (∃ q, s.HasChild q m) →
      n ≠ m → (s.namespaces.get n).name ≠ (s.namespaces.get m).name := by
  refine ⟨fun n hn h => ?_, fun n h => ⟨h.not_looksUp, h.not_spells⟩, fun n hn h => ?_,
    fun p n m hn hm hqn hqm hne hname => ?_⟩
  · obtain ⟨ns, hns⟩ := hc.exists_ascends hn h
    obtain ⟨m, hlast, hmem, hm⟩ := hns.getLast?
    have hroot : m = root :=
      (hv.namespace_checked (hc.mem_way hn (hns.mem_way hc hn m hmem))).1.1 hm
    have hway := hns.outward_eq hc hn
    refine ⟨⟨ns, hns, hroot ▸ hlast⟩, fun name => ?_, ?_⟩
    · rw [regular?, hway]
      exact hns.looksUp name
    · rw [path, hway]
      exact hns.spells
  · obtain ⟨ns, hns⟩ := hv.ascends_of_hasChild hn h
    exact hns.not_circles
  · -- What lists a namespace is its parent, so both are listed together.
    have hlists {c : NamespaceId} (hp : s.Within c p) (hq : ∃ q, s.HasChild q c) :
        s.HasChild p c := by
      obtain ⟨q, hq⟩ := hq
      exact Option.some.inj ((hv.parent_of_hasChild hq).symm.trans hp.2) ▸ hq
    exact hne (hv.eq_of_name_eq (hlists hn hqn) (hlists hm hqm) hname)

/-- Five namespaces within the root, changed after they were written: the first
    two stay listed there, the third one has the name of the first, and the others
    lie in each other. -/
def tangled : Spec :=
  let written := (Draft.start {}).run <| ["a", "b", "c", "d", "e"].flatMap fun name =>
    [.openNamespace { text := name }, .closeNamespace]
  { written.spec with
    namespaces := written.spec.namespaces
      |>.modify root (fun n => { n with children := [⟨1⟩, ⟨2⟩] })
      |>.modify ⟨3⟩ (fun n => { n with name := "a" })
      |>.modify ⟨4⟩ (fun n => { n with parent := some ⟨5⟩ })
      |>.modify ⟨5⟩ fun n => { n with parent := some ⟨4⟩ } }

theorem listed_namespaces_form_tree_tangled :
    tangled.Closed ∧ tangled.Valid ∧
      (∃ ns, tangled.Ascends ⟨1⟩ ns ∧ ns.getLast? = some root) ∧
      (∀ name, tangled.LooksUp name ⟨1⟩ (tangled.regular? ⟨1⟩ name)) ∧
      tangled.Spells ⟨1⟩ ["a"] ∧
      (tangled.namespaces.get ⟨1⟩).name ≠ (tangled.namespaces.get ⟨2⟩).name := by
  have hc : tangled.Closed := by decide +kernel
  have hv : tangled.Valid := by decide +kernel
  obtain ⟨hway, -, hlisted, hsiblings⟩ := listed_namespaces_form_tree hc hv
  have hmem : (⟨1⟩ : NamespaceId) ∈ tangled.namespaces := by decide +kernel
  have h1 : tangled.HasChild root ⟨1⟩ := by decide +kernel
  have h2 : tangled.HasChild root ⟨2⟩ := by decide +kernel
  have hpath : tangled.path ⟨1⟩ = ["a"] := by decide +kernel
  obtain ⟨hends, hlooks, hspells⟩ := hway ⟨1⟩ hmem (hlisted ⟨1⟩ hmem (.single h1))
  refine ⟨hc, hv, hends, hlooks, hpath ▸ hspells, ?_⟩
  exact hsiblings root ⟨1⟩ ⟨2⟩ (by decide +kernel) (by decide +kernel) ⟨_, h1⟩ ⟨_, h2⟩
    (by decide)

/-- A valid specification in which the way outward from a namespace does not end,
    and two siblings have the same name. -/
theorem valid_with_circle :
    tangled.Closed ∧ tangled.Valid ∧
      ((⟨4⟩ : NamespaceId) ∈ tangled.namespaces ∧ (∀ ns, ¬tangled.Ascends ⟨4⟩ ns) ∧
        (∀ name, ¬tangled.LooksUp name ⟨4⟩ none) ∧ ∀ names, ¬tangled.Spells ⟨4⟩ names) ∧
      tangled.Within ⟨1⟩ root ∧ tangled.Within ⟨3⟩ root ∧
      (tangled.namespaces.get ⟨1⟩).name = (tangled.namespaces.get ⟨3⟩).name := by
  have hfirst : tangled.Within ⟨4⟩ ⟨5⟩ := by decide +kernel
  have hsecond : tangled.Within ⟨5⟩ ⟨4⟩ := by decide +kernel
  have hcircle : tangled.Circles ⟨4⟩ := ⟨⟨4⟩, .refl, .tail (.single hfirst) hsecond⟩
  refine ⟨by decide +kernel, by decide +kernel, ?_, by decide +kernel, by decide +kernel,
    by decide +kernel⟩
  exact ⟨hfirst.1, fun _ h => h.not_circles hcircle, hcircle.not_looksUp, hcircle.not_spells⟩

end LangSpec.Spec
