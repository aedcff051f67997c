import LangSpec.Proofs.Course
import Mathlib.Data.Set.Card

/-!
# What a scope lists and what it finds

A scope keeps its fields twice: in a list, in the order of their declaration,
and in a dictionary, by their names. The two would fall apart if a name were
written over: the dictionary would lead to the new field, and the list would
still have the old one. But a field is put into a scope only under a name that
is free there, so the dictionary is the list, each field with its name before
it, and no name comes twice. It does not matter how often one field is declared,
or where.

* `Scope.Coherent`: the dictionary is the list with the names of the fields;
* `Edit.scopesCoherent`, `Bind.scopesCoherent`: it stays so;
* `scope_lists_what_it_finds`: what follows for lookups.
-/

namespace LangSpec

namespace Scope

variable {c : Scope} {fields fields' : Arena .fields Field} {f : FieldId}

/-- The dictionary of the scope is its list, each field under its name, and no
    two fields have the same name. -/
structure Coherent (fields : Arena .fields Field) (c : Scope) : Prop where
  entries : c.members.entries = c.fields.map fun f => ((fields.get f).name, f)
  known : ∀ f ∈ c.fields, f ∈ fields
  names : (c.fields.map fun f => (fields.get f).name).Nodup

namespace Coherent

theorem of_empty (hf : c.fields = []) (hm : c.members = .empty) : c.Coherent fields where
  entries := by rw [hf, hm]; rfl
  known := by rw [hf]; exact fun _ h => absurd h List.not_mem_nil
  names := by rw [hf]; exact List.nodup_nil

/-- The scope does not notice what happens to fields that keep their names. -/
theorem retain (h : c.Coherent fields) (hr : Arena.Retains Field.name fields fields') :
    c.Coherent fields' := by
  have hname : ∀ f ∈ c.fields, (fields'.get f).name = (fields.get f).name :=
    fun f hf => (hr f (h.known f hf)).2
  refine ⟨h.entries.trans ?_, fun f hf => (hr f (h.known f hf)).1, ?_⟩
  · exact List.map_congr_left fun f hf => by rw [hname f hf]
  · rw [List.map_congr_left hname]
    exact h.names

theorem keys (h : c.Coherent fields) :
    c.members.keys = c.fields.map fun f => (fields.get f).name := by
  rw [Dict.keys, h.entries, List.map_map]
  rfl

/-- A field put into the scope under its name, which is free. -/
theorem insert (h : c.Coherent fields) (hf : f ∈ fields)
    (hn : c.member? (fields.get f).name = none) :
    (c.insert (fields.get f).name f).Coherent fields := by
  have hfields : (c.insert (fields.get f).name f).fields = c.fields ++ [f] := by
    rw [Scope.insert, hn, Option.isNone_none, if_pos rfl]
  refine ⟨?_, ?_, ?_⟩
  · rw [hfields, List.map_append, ← h.entries]
    exact Dict.entries_insert_of_find?_eq_none hn f
  · rw [hfields]
    exact List.forall_mem_append.2 ⟨h.known, List.forall_mem_singleton.2 hf⟩
  · -- The new name is none of those that the dictionary knows.
    rw [hfields, List.map_append, List.map_singleton, ← h.keys, List.nodup_append]
    refine ⟨h.keys ▸ h.names, List.nodup_singleton _, fun k hk k' hk' => ?_⟩
    rw [List.mem_singleton.1 hk']
    exact fun e => Dict.find?_eq_none_iff.1 hn (e ▸ hk)

/-- No field is listed twice. -/
theorem nodup (h : c.Coherent fields) : c.fields.Nodup := h.names.of_map

/-- Exactly the fields listed are found, each under its name. -/
theorem member?_eq_some_iff (h : c.Coherent fields) {k : String} :
    c.member? k = some f ↔ f ∈ c.fields ∧ (fields.get f).name = k := by
  constructor
  · intro hk
    have hmem := Dict.mem_entries_of_find? hk
    rw [h.entries] at hmem
    obtain ⟨f', hf', e⟩ := List.mem_map.1 hmem
    cases e
    exact ⟨hf', rfl⟩
  · rintro ⟨hf, rfl⟩
    refine Dict.find?_of_mem_entries (h.keys ▸ h.names) ?_
    rw [h.entries]
    exact List.mem_map.2 ⟨f, hf, rfl⟩

/-- As many fields are listed as names are known. -/
theorem length_fields (h : c.Coherent fields) :
    c.fields.length = {k | c.member? k ≠ none}.ncard := by
  have hset : {k | c.member? k ≠ none} = {k | k ∈ c.members.keys} := by
    ext k
    exact not_iff_comm.1 Dict.find?_eq_none_iff.symm
  have hlength : c.members.keys.length = c.fields.length := by
    rw [h.keys, List.length_map]
  rw [hset, ← List.coe_toFinset, Set.ncard_coe_finset, List.toFinset_card_of_nodup, hlength]
  exact h.keys ▸ h.names

end Coherent

end Scope

/-- All scopes are coherent. -/
def ScopesCoherent (scopes : Arena .scopes Scope) (fields : Arena .fields Field) : Prop :=
  scopes.Forall fun _ c => c.Coherent fields

namespace ScopesCoherent

variable {scopes : Arena .scopes Scope} {fields fields' : Arena .fields Field} {c : ScopeId}

theorem retain (h : ScopesCoherent scopes fields)
    (hr : Arena.Retains Field.name fields fields') : ScopesCoherent scopes fields' :=
  h.imp fun _ _ _ hc => hc.retain hr

/-- A scope without fields. -/
theorem push {x : Scope} (h : ScopesCoherent scopes fields) (hf : x.fields = [])
    (hm : x.members = .empty) : ScopesCoherent (scopes.push x) fields :=
  Arena.Forall.push h (.of_empty hf hm)

/-- A scope changed in other respects. -/
theorem modify {change : Scope → Scope} (h : ScopesCoherent scopes fields)
    (hf : ∀ x, (change x).fields = x.fields) (hm : ∀ x, (change x).members = x.members) :
    ScopesCoherent (scopes.modify c change) fields := by
  refine Arena.Forall.modify h fun x _ hx => ⟨?_, ?_, ?_⟩
  · rw [hf, hm, hx.entries]
  · rw [hf]
    exact hx.known
  · rw [hf]
    exact hx.names

theorem get (h : ScopesCoherent scopes fields) (c : ScopeId) :
    (scopes.get c).Coherent fields := by
  by_cases hc : c ∈ scopes
  · exact h c _ (Arena.get?_eq_some_get hc)
  · rw [Arena.get_of_not_mem hc]
    exact .of_empty rfl rfl

theorem insert {f : FieldId} (h : ScopesCoherent scopes fields) (hf : f ∈ fields)
    (hn : (scopes.get c).member? (fields.get f).name = none) :
    ScopesCoherent (scopes.modify c fun x => x.insert (fields.get f).name f) fields :=
  Arena.Forall.modify h fun _ hx hc => hc.insert hf (Arena.get_eq hx ▸ hn)

end ScopesCoherent

namespace Spec

variable {s s' : Spec}

theorem Edit.scopesCoherent (h : s.Edit s') (hs : ScopesCoherent s.scopes s.fields) :
    ScopesCoherent s'.scopes s'.fields := by
  cases h with
  | addObject => exact hs.push rfl rfl
  | addScope => exact (hs.push rfl rfl).modify (fun _ => rfl) fun _ => rfl
  | addField => exact hs.retain .push
  | annotate a => exact hs.retain (.modify fun x => by cases a <;> rfl)
  | bindField hc hf hn => exact hs.insert hf hn
  | _ => exact hs

theorem Bind.scopesCoherent {n : NonterminalId} (h : Bind n s s')
    (hs : ScopesCoherent s.scopes s.fields) : ScopesCoherent s'.scopes s'.fields := by
  cases h with
  | own | setCapture => exact hs
  | addSource | typed => exact hs.retain (.modify fun _ => rfl)
  | bindField hf hn => exact hs.insert hf hn

theorem Steps.scopesCoherent {o : Options} (h : Steps (initial o) s) :
    ScopesCoherent s.scopes s.fields := by
  have hinitial : ScopesCoherent (initial o).scopes (initial o).fields :=
    .push (.push .empty rfl rfl) rfl rfl
  exact (h.preserves (Q := fun s => ScopesCoherent s.scopes s.fields) (closed_initial o)
    Edit.scopesCoherent id Bind.scopesCoherent id hinitial).2

end Spec

namespace Draft

variable {o : Options} {d : Draft}

/-- The fields a scope lists are different and have different names. A name
    finds a field exactly if the field is listed and has this name, so there are
    as many fields as names. -/
theorem scope_lists_what_it_finds (hd : Reachable o d) (c : ScopeId) :
    let scope := d.spec.scopes.get c
    let name := fun f => (d.spec.fields.get f).name
    (∀ f ∈ scope.fields, f ∈ d.spec.fields) ∧ scope.fields.Nodup ∧
      (scope.fields.map name).Nodup ∧
      (∀ k f, scope.member? k = some f ↔ f ∈ scope.fields ∧ name f = k) ∧
      scope.fields.length = {k | scope.member? k ≠ none}.ncard := by
  have h : (d.spec.scopes.get c).Coherent d.spec.fields := hd.steps.scopesCoherent.get c
  exact ⟨h.known, h.nodup, h.names, fun _ _ => h.member?_eq_some_iff, h.length_fields⟩

/-- One field is declared as a field of two objects and as a variable, and of
    one of the objects twice. -/
theorem scope_lists_what_it_finds_sums :
    let d := (start {}).run (Op.sums ++
      [ .declareField ⟨3⟩ ⟨0⟩
      , .declareVariable ⟨0⟩ none
      , .declareGlobal ⟨0⟩ none ])
    let scope := d.spec.scopes.get ⟨3⟩
    Reachable {} d ∧ scope.fields = [⟨0⟩] ∧ (d.spec.scopes.get d.scope).fields = [⟨0⟩] ∧
      ∀ k f, scope.member? k = some f ↔ f ∈ scope.fields ∧ (d.spec.fields.get f).name = k := by
  have hd : Reachable {} ((start {}).run (Op.sums ++
      [.declareField ⟨3⟩ ⟨0⟩, .declareVariable ⟨0⟩ none, .declareGlobal ⟨0⟩ none])) :=
    Reachable.start.run (by decide +kernel)
  refine ⟨hd, by decide +kernel, by decide +kernel, ?_⟩
  exact (scope_lists_what_it_finds hd ⟨3⟩).2.2.2.1

end Draft

end LangSpec
