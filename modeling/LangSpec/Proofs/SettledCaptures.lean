import LangSpec.Proofs.Captures
import LangSpec.Proofs.Finish

/-!
# Captures and their bindings agree

A production that is an alternative of one nonterminal only, and only once, has
all its captured elements settled when the nonterminal is declared, and so they
stay: nothing else touches elements or sources, and names keep their fields.
A production that is no alternative has no owner and is no source. In a finished
specification there are no other productions.

* `Keeps`: what edits leave alone;
* `CapturesSettled`: the law of captures, in any specification that a walk
  leads to;
* `captures_agree`: the law in finished specifications.
-/

namespace LangSpec

namespace Spec

variable {s s' : Spec}

/-! ## What edits leave alone -/

/-- The elements that are captured and the fields that stand for them stay the
    same, and so do the root scopes of objects and what is found in scopes. -/
structure Keeps (s s' : Spec) : Prop where
  nonterminals : s'.nonterminals = s.nonterminals
  elements : ∀ p, (s'.productions.get p).elements = (s.productions.get p).elements
  sources : ∀ f, (s'.fields.get f).sources = (s.fields.get f).sources
  isCaptured : ∀ f, (s'.fields.get f).isCaptured = (s.fields.get f).isCaptured
  name : ∀ f ∈ s.fields, (s'.fields.get f).name = (s.fields.get f).name
  member : ∀ c k f, (s.scopes.get c).member? k = some f → (s'.scopes.get c).member? k = some f
  rootScope : ∀ o ∈ s.objects, (s'.objects.get o).rootScope = (s.objects.get o).rootScope

theorem Keeps.of_eq (hn : s'.nonterminals = s.nonterminals) (hp : s'.productions = s.productions)
    (hf : s'.fields = s.fields) (hc : s'.scopes = s.scopes) (ho : s'.objects = s.objects) :
    Keeps s s' := by
  refine ⟨hn, ?_, ?_, ?_, ?_, ?_, ?_⟩
  · exact fun p => hp ▸ rfl
  · exact fun f => hf ▸ rfl
  · exact fun f => hf ▸ rfl
  · exact fun f _ => hf ▸ rfl
  · exact fun c k f h => hc ▸ h
  · exact fun o _ => ho ▸ rfl

/-- Only a scope that exists knows names. -/
theorem mem_scopes_of_member? {scopes : Arena .scopes Scope} {c : ScopeId} {k : String}
    {f : FieldId} (h : (scopes.get c).member? k = some f) : c ∈ scopes := by
  by_contra hc
  rw [Arena.get_of_not_mem hc] at h
  exact nomatch h

theorem member?_push {scopes : Arena .scopes Scope} {x : Scope} {c : ScopeId} {k : String}
    {f : FieldId} (h : (scopes.get c).member? k = some f) :
    ((scopes.push x).get c).member? k = some f :=
  Arena.get_push_of_mem (mem_scopes_of_member? h) ▸ h

namespace Keeps

theorem addObject {kind : ObjectKind} {name : String} : Keeps s (s.addObject kind name) where
  nonterminals := rfl
  elements := fun _ => rfl
  sources := fun _ => rfl
  isCaptured := fun _ => rfl
  name := fun _ _ => rfl
  member := fun _ _ _ => member?_push
  rootScope := fun _ ho => congrArg Object.rootScope (Arena.get_push_of_mem ho)

theorem addScope {parent : ScopeId} : Keeps s (s.addScope parent) where
  nonterminals := rfl
  elements := fun _ => rfl
  sources := fun _ => rfl
  isCaptured := fun _ => rfl
  name := fun _ _ => rfl
  member := fun _ k f hf => by
    refine Arena.get_modify_of_imp (p := fun x : Scope => x.member? k = some f) ?_
      (member?_push hf)
    exact fun _ h => h
  rootScope := fun o _ => Arena.apply_get_modify (g := Object.rootScope) (by intro; rfl) o

theorem addField {name : String} {loc : Location} {kind : FieldKind} {type : Option TypeRef} :
    Keeps s (s.addField name loc kind type) where
  nonterminals := rfl
  elements := fun _ => rfl
  sources := Arena.apply_get_push (g := Field.sources) rfl
  isCaptured := Arena.apply_get_push (g := Field.isCaptured) rfl
  name := fun _ hf => congrArg Field.name (Arena.get_push_of_mem hf)
  member := fun _ _ _ hf => hf
  rootScope := fun _ _ => rfl

theorem modifyField {f : FieldId} {change : Field → Field}
    (hs : ∀ x, (change x).sources = x.sources) (hc : ∀ x, (change x).isCaptured = x.isCaptured)
    (hn : ∀ x, (change x).name = x.name) : Keeps s (s.modifyField f change) where
  nonterminals := rfl
  elements := fun _ => rfl
  sources := Arena.apply_get_modify hs
  isCaptured := Arena.apply_get_modify hc
  name := fun f _ => Arena.apply_get_modify hn f
  member := fun _ _ _ hf => hf
  rootScope := fun _ _ => rfl

theorem bindField {scope : ScopeId} {f : FieldId} (hc : scope ∈ s.scopes)
    (hn : (s.scopes.get scope).member? (s.fields.get f).name = none) :
    Keeps s (s.bindField scope f) where
  nonterminals := rfl
  elements := fun _ => rfl
  sources := fun _ => rfl
  isCaptured := fun _ => rfl
  name := fun _ _ => rfl
  member := fun c k g hg => by
    rw [member?_bindField hc, if_neg]
    · exact hg
    · rintro ⟨rfl, rfl⟩
      exact nomatch hn.symm.trans hg
  rootScope := fun _ _ => rfl

theorem modifyProduction {p : ProductionId} {change : Production → Production}
    (he : ∀ x, (change x).elements = x.elements) : Keeps s (s.modifyProduction p change) where
  nonterminals := rfl
  elements := Arena.apply_get_modify he
  sources := fun _ => rfl
  isCaptured := fun _ => rfl
  name := fun _ _ => rfl
  member := fun _ _ _ hf => hf
  rootScope := fun _ _ => rfl

end Keeps

theorem Edit.keeps (h : s.Edit s') : Keeps s s' := by
  cases h with
  | addObject => exact .addObject
  | addScope => exact .addScope
  | addField => exact .addField
  | annotate a =>
    refine .modifyField ?_ ?_ ?_ <;>
      · intro x
        cases a <;> rfl
  | bindField hc hf hn => exact .bindField hc hn
  | renumber => exact .modifyProduction fun _ => rfl
  | _ => exact .of_eq rfl rfl rfl rfl rfl

/-! ## The law of captures -/

/-- The alternatives of all nonterminals. -/
def alternatives (s : Spec) : List ProductionId :=
  s.nonterminals.toList.flatMap (·.alternatives)

theorem mem_alternatives {p : ProductionId} :
    p ∈ s.alternatives ↔ ∃ n x, s.nonterminals.get? n = some x ∧ p ∈ x.alternatives := by
  rw [alternatives, List.mem_flatMap]
  constructor
  · rintro ⟨x, hx, hp⟩
    obtain ⟨n, hn⟩ := Arena.mem_toList.1 hx
    exact ⟨n, x, hn, hp⟩
  · rintro ⟨n, x, hn, hp⟩
    exact ⟨x, Arena.mem_toList.2 ⟨n, hn⟩, hp⟩

/-- The law of captures. A production that is no alternative has no owner and is
    no source. The elements of one that is an alternative once are settled. -/
structure CapturesSettled (s : Spec) : Prop where
  named : ScopesNamed s.scopes s.fields
  owner : ∀ p ∉ s.alternatives, (s.productions.get p).owner = none
  unbound : ∀ p ∉ s.alternatives, ∀ i, s.Unbound ⟨p, i⟩
  settled : ∀ n x, s.nonterminals.get? n = some x → ∀ p ∈ x.alternatives,
    s.alternatives.count p = 1 → (s.productions.get p).InOrder →
      ∀ i, s.Settled (s.objects.get x.object).rootScope ⟨p, i⟩

theorem Edit.scopesNamed (h : s.Edit s') (hs : ScopesNamed s.scopes s.fields) :
    ScopesNamed s'.scopes s'.fields := by
  cases h with
  | addObject => exact hs.pushScope rfl
  | addScope => exact (hs.pushScope rfl).modifyScope fun _ => rfl
  | addField => exact hs.pushField
  | annotate a => exact hs.modifyField fun x => by cases a <;> rfl
  | bindField hc hf => exact hs.bind hc hf
  | _ => exact hs

theorem Edit.owner (h : s.Edit s') (p : ProductionId) :
    (s'.productions.get p).owner = (s.productions.get p).owner := by
  cases h with
  | renumber => exact Arena.apply_get_modify (g := Production.owner) (by intro; rfl) p
  | _ => rfl

namespace Keeps

theorem captureAt (h : Keeps s s') (r : ElementRef) : s'.captureAt r = s.captureAt r := by
  rw [Spec.captureAt, h.elements, Spec.captureAt]

theorem unbound (h : Keeps s s') {r : ElementRef} (hr : s.Unbound r) : s'.Unbound r :=
  fun f => h.sources f ▸ hr f

theorem settled (h : Keeps s s') {scope : ScopeId} {r : ElementRef} (hr : s.Settled scope r) :
    s'.Settled scope r := by
  cases hr with
  | unbound hn hu => exact .unbound ((h.captureAt r).trans hn) (h.unbound hu)
  | @bound f hf hb =>
    -- A field with a source is in its table, so it keeps its name.
    have hmem : f ∈ s.fields := by
      by_contra hmem
      have hcount := hb.sources f
      rw [Arena.get_of_not_mem hmem, if_pos rfl] at hcount
      exact nomatch hcount
    refine .bound ((h.captureAt r).trans hf) ⟨fun g => ?_, ?_, ?_⟩
    · rw [h.sources, hb.sources]
    · rw [h.isCaptured, hb.isCaptured]
    · rw [h.name f hmem]
      exact h.member _ _ _ hb.member

end Keeps

theorem Keeps.alternatives (h : Keeps s s') : s'.alternatives = s.alternatives := by
  rw [Spec.alternatives, h.nonterminals, Spec.alternatives]

theorem Keeps.inOrder (h : Keeps s s') {p : ProductionId} :
    (s'.productions.get p).InOrder ↔ (s.productions.get p).InOrder := by
  rw [Production.InOrder, h.elements, Production.InOrder]

theorem Closed.object_mem (hc : s.Closed) {n : NonterminalId} {x : Nonterminal}
    (hx : s.nonterminals.get? n = some x) : x.object ∈ s.objects :=
  covers_handle.1 (allHandles_nonterminal.1 (allHandles_arena.1 hc.all.nonterminals n x hx)).2.2.2.1

theorem Closed.alternatives_mem (hc : s.Closed) {p : ProductionId} (hp : p ∈ s.alternatives) :
    p ∈ s.productions := by
  obtain ⟨n, x, hx, hp⟩ := mem_alternatives.1 hp
  have h := (allHandles_nonterminal.1 (allHandles_arena.1 hc.all.nonterminals n x hx)).2.2.2.2
  exact covers_handle.1 (allHandles_list.1 h p hp)

namespace CapturesSettled

theorem edit (hs : s.CapturesSettled) (hc : s.Closed) (h : s.Edit s') : s'.CapturesSettled := by
  have hk := h.keeps
  refine ⟨h.scopesNamed hs.named, ?_, ?_, ?_⟩
  · intro p hp
    rw [h.owner, hs.owner p (hk.alternatives ▸ hp)]
  · exact fun p hp i => hk.unbound (hs.unbound p (hk.alternatives ▸ hp) i)
  · intro n x hx p hp hcount horder i
    rw [hk.nonterminals] at hx
    rw [hk.alternatives] at hcount
    rw [hk.rootScope _ (hc.object_mem hx)]
    exact hk.settled (hs.settled n x hx p hp hcount (hk.inOrder.1 horder) i)

theorem addProduction {q : Production} (hs : s.CapturesSettled) (hc : s.Closed) :
    (s.addProduction q).CapturesSettled := by
  have hget {p : ProductionId} (hp : p ∈ s.alternatives) :
      (s.addProduction q).productions.get p = s.productions.get p :=
    Arena.get_push_of_mem (hc.alternatives_mem hp)
  refine ⟨hs.named, ?_, hs.unbound, ?_⟩
  · -- A new production has no owner, like a blank one.
    intro p hp
    have howner : ((s.addProduction q).productions.get p).owner = (s.productions.get p).owner := by
      refine Arena.apply_get_push (g := Production.owner) ?_ p
      rfl
    exact howner.trans (hs.owner p hp)
  · -- Alternatives are old productions, which stay as they are.
    intro n x hx p hp hcount horder i
    have hmem : p ∈ s.alternatives := mem_alternatives.2 ⟨n, x, hx, hp⟩
    rw [hget hmem] at horder
    have hcapture : (s.addProduction q).captureAt ⟨p, i⟩ = s.captureAt ⟨p, i⟩ := by
      rw [captureAt, hget hmem, captureAt]
    cases hs.settled n x hx p hp hcount horder i with
    | bound hf hb => exact .bound (hcapture.trans hf) ⟨hb.sources, hb.isCaptured, hb.member⟩
    | unbound hn hu => exact .unbound (hcapture.trans hn) hu

end CapturesSettled

/-! ## New nonterminals -/

/-- Linking productions changes the owners of these. -/
theorem linkAlternatives_eq (ps : List ProductionId) (n : NonterminalId) :
    ∃ a, s.linkAlternatives ps n = { s with productions := a } ∧
      (∀ p, (a.get p).elements = (s.productions.get p).elements) ∧
      ∀ p ∉ ps, (a.get p).owner = (s.productions.get p).owner := by
  induction ps generalizing s with
  | nil => exact ⟨s.productions, rfl, fun _ => rfl, fun _ _ => rfl⟩
  | cons q ps ih =>
    obtain ⟨a, ha, helements, howner⟩ :=
      ih (s := s.modifyProduction q fun x => { x with owner := some n })
    refine ⟨a, ha, fun p => ?_, fun p hp => ?_⟩
    · exact (helements p).trans
        (Arena.apply_get_modify (g := Production.elements) (by intro; rfl) p)
    · rw [howner p (List.not_mem_of_not_mem_cons hp)]
      exact congrArg Production.owner (Arena.get_modify_of_ne fun e => hp (e ▸ List.mem_cons_self))

theorem keeps_linkAlternatives (ps : List ProductionId) (n : NonterminalId) :
    Keeps s (s.linkAlternatives ps n) := by
  obtain ⟨a, ha, helements, -⟩ := linkAlternatives_eq (s := s) ps n
  rw [ha]
  exact
    { nonterminals := rfl
      elements := helements
      sources := fun _ => rfl
      isCaptured := fun _ => rfl
      name := fun _ _ => rfl
      member := fun _ _ _ hf => hf
      rootScope := fun _ _ => rfl }

theorem owner_linkAlternatives {ps : List ProductionId} {n : NonterminalId} {p : ProductionId}
    (hp : p ∉ ps) :
    ((s.linkAlternatives ps n).productions.get p).owner = (s.productions.get p).owner := by
  obtain ⟨a, ha, -, howner⟩ := linkAlternatives_eq (s := s) ps n
  rw [ha]
  exact howner p hp

/-- What the alternatives of a new nonterminal capture can be bound. -/
theorem bindable_linkAlternatives (hc : s.Closed) (hn : ScopesNamed s.scopes s.fields)
    {n : Nonterminal} (hfit : n.FitsIn s) :
    (s.linkAlternatives n.alternatives s.nonterminals.next).Bindable
      (s.objects.get n.object).rootScope (n.alternatives.flatMap s.capturesOf) := by
  have hb := binds_linkAlternatives (s := s) s.nonterminals.next n.alternatives
  constructor
  · obtain ⟨a, ha, -⟩ := linkAlternatives_eq (s := s) n.alternatives s.nonterminals.next
    rw [ha]
    exact hn
  · exact (Binds.mem_scopes hb).2 (hc.rootScope_mem hfit.object)
  · intro c hcap
    obtain ⟨-, hr, hf⟩ := hc.captures hfit hcap
    exact ⟨hr.binds hb, (Binds.mem_fields hb).2 hf⟩

theorem Settled.enlist {scope : ScopeId} {r : ElementRef} {n : Nonterminal}
    (h : s.Settled scope r) : (s.enlist n).Settled scope r := by
  cases h with
  | bound hf hb => exact .bound hf ⟨hb.sources, hb.isCaptured, hb.member⟩
  | unbound hn hu => exact .unbound hn hu

theorem alternatives_enlist (n : Nonterminal) :
    (s.enlist n).alternatives = s.alternatives ++ n.alternatives := by
  rw [alternatives, enlist, Arena.toList_push, List.flatMap_append, List.flatMap_singleton,
    alternatives]

section BindAlternatives

variable {n : Nonterminal} {r : ElementRef}

/-- What the binding of each element of the alternatives keeps holds in the end,
    if it holds once the alternatives are linked. -/
theorem preserves_bindAlternatives {Q : Spec → Prop} (hc : s.Closed)
    (hn : ScopesNamed s.scopes s.fields) (hfit : n.FitsIn s)
    (step : ∀ {s s' scope r g}, r.production ∈ n.alternatives → Attaches s s' scope r g →
      Q s → Q s')
    (hQ : Q (s.linkAlternatives n.alternatives s.nonterminals.next)) :
    Q (s.bindAlternatives n) := by
  rw [bindAlternatives_eq]
  refine (bindable_linkAlternatives hc hn hfit).preserves (fun c hcap => ?_) hQ
  exact step (hc.captures hfit hcap).1

theorem owner_bindAlternatives (hc : s.Closed) (hn : ScopesNamed s.scopes s.fields)
    (hfit : n.FitsIn s) {p : ProductionId} (hp : p ∉ n.alternatives) :
    ((s.bindAlternatives n).productions.get p).owner = (s.productions.get p).owner := by
  refine preserves_bindAlternatives
    (Q := fun s' => (s'.productions.get p).owner = (s.productions.get p).owner) hc hn hfit ?_ ?_
  · exact fun _ hb hQ => (hb.owner p).trans hQ
  · exact owner_linkAlternatives hp

theorem unbound_bindAlternatives (hc : s.Closed) (hn : ScopesNamed s.scopes s.fields)
    (hfit : n.FitsIn s) (hr : r.production ∉ n.alternatives) (hu : s.Unbound r) :
    (s.bindAlternatives n).Unbound r := by
  refine preserves_bindAlternatives (Q := (·.Unbound r)) hc hn hfit ?_ ?_
  · exact fun hr' hb => hb.unbound fun e => hr (congrArg ElementRef.production e ▸ hr')
  · exact (keeps_linkAlternatives _ _).unbound hu

theorem settled_bindAlternatives (hc : s.Closed) (hn : ScopesNamed s.scopes s.fields)
    (hfit : n.FitsIn s) {scope : ScopeId} (hr : r.production ∉ n.alternatives)
    (hs : s.Settled scope r) : (s.bindAlternatives n).Settled scope r := by
  refine preserves_bindAlternatives (Q := (·.Settled scope r)) hc hn hfit ?_ ?_
  · exact fun hr' hb => hb.settled fun e => hr (congrArg ElementRef.production e ▸ hr')
  · exact (keeps_linkAlternatives _ _).settled hs

/-- The elements of an alternative that comes once are settled, if they were not
    bound before. -/
theorem settles_bindAlternatives (hc : s.Closed) (hn : ScopesNamed s.scopes s.fields)
    (hfit : n.FitsIn s) {p : ProductionId} (hcount : n.alternatives.count p = 1)
    (horder : (s.productions.get p).InOrder) {i : Nat} (hu : s.Unbound ⟨p, i⟩) :
    (s.bindAlternatives n).Settled (s.objects.get n.object).rootScope ⟨p, i⟩ := by
  have hb := bindable_linkAlternatives hc hn hfit
  have hk : Keeps s (s.linkAlternatives n.alternatives s.nonterminals.next) :=
    keeps_linkAlternatives _ _
  have hcaptures := count_captures (s := s) n.alternatives ⟨p, i⟩
  rw [hcount, Nat.one_mul] at hcaptures
  rw [bindAlternatives_eq]
  by_cases hcap : s.captureAt ⟨p, i⟩ = none
  · -- It is not captured, so it is not bound at all.
    have hmem : ⟨p, i⟩ ∉ (n.alternatives.flatMap s.capturesOf).map Prod.fst := by
      rw [← List.count_eq_zero, hcaptures, List.count_eq_zero, mem_captures_iff horder]
      exact not_not_intro hcap
    refine hb.preserves (Q := (·.Settled _ ⟨p, i⟩)) (fun c hc' _ _ _ hb => ?_) ?_
    · exact hb.settled fun e => hmem (List.mem_map.2 ⟨c, hc', e.symm⟩)
    · exact hk.settled (.unbound hcap hu)
  · -- It comes once among the captures, so it is bound once.
    refine hb.settles (hcaptures.trans ?_) (hk.unbound hu)
    exact List.count_eq_one_of_mem (nodup_captures horder) ((mem_captures_iff horder).2 hcap)

theorem scopesNamed_bindAlternatives (hc : s.Closed) (hn : ScopesNamed s.scopes s.fields)
    (hfit : n.FitsIn s) :
    ScopesNamed (s.bindAlternatives n).scopes (s.bindAlternatives n).fields := by
  rw [bindAlternatives_eq]
  exact (bindable_linkAlternatives hc hn hfit).scopesNamed

end BindAlternatives

namespace CapturesSettled

theorem addNonterminal (hs : s.CapturesSettled) (hc : s.Closed) {n : Nonterminal}
    (hn : n.FitsIn s) : (s.addNonterminal n).CapturesSettled := by
  have hb := binds_bindAlternatives hc hn
  have hobjects : (s.bindAlternatives n).objects = s.objects := Binds.eq hb Bind.objects
  have hnonterminals : (s.bindAlternatives n).nonterminals = s.nonterminals :=
    Binds.eq hb Bind.nonterminals
  have halternatives : ((s.bindAlternatives n).enlist n).alternatives =
      s.alternatives ++ n.alternatives := by
    rw [alternatives_enlist, alternatives, hnonterminals, alternatives]
  -- Positions do not change, so elements in order were so before.
  have horder {p : ProductionId} (h : ((s.bindAlternatives n).productions.get p).InOrder) :
      (s.productions.get p).InOrder := by
    rw [Production.InOrder, Binds.eq hb fun hb => hb.positions p, Binds.length_elements hb] at h
    exact h
  rw [addNonterminal_eq hc hn]
  refine ⟨scopesNamed_bindAlternatives hc hs.named hn, ?_, ?_, ?_⟩
  · intro p hp
    rw [halternatives, List.mem_append, not_or] at hp
    exact (owner_bindAlternatives hc hs.named hn hp.2).trans (hs.owner p hp.1)
  · intro p hp i
    rw [halternatives, List.mem_append, not_or] at hp
    exact unbound_bindAlternatives hc hs.named hn hp.2 (hs.unbound p hp.1 i)
  · intro m x hx p hp hcount hin i
    rw [halternatives, List.count_append] at hcount
    have hx : (s.nonterminals.push { n with id := s.nonterminals.next }).get? m = some x :=
      hnonterminals ▸ hx
    have hscope : ((s.bindAlternatives n).enlist n).objects.get x.object =
      s.objects.get x.object := by rw [enlist, hobjects]
    rw [hscope]
    refine Settled.enlist ?_
    rw [Arena.get?_push] at hx
    split at hx
    next =>
      -- An alternative of the new nonterminal, and of no other one.
      cases hx
      have hpos : 0 < n.alternatives.count p := List.count_pos_iff.2 hp
      have hnew : n.alternatives.count p = 1 := by omega
      have hold : p ∉ s.alternatives := List.count_eq_zero.1 (by omega)
      exact settles_bindAlternatives hc hs.named hn hnew (horder hin) (hs.unbound p hold i)
    next =>
      -- An alternative of an earlier nonterminal, and not of the new one.
      have hmem : p ∈ s.alternatives := mem_alternatives.2 ⟨m, x, hx, hp⟩
      have hpos : 0 < s.alternatives.count p := List.count_pos_iff.2 hmem
      have hold : s.alternatives.count p = 1 := by omega
      have hnew : p ∉ n.alternatives := List.count_eq_zero.1 (by omega)
      exact settled_bindAlternatives hc hs.named hn hnew
        (hs.settled m x hx p hp hold (horder hin) i)

theorem initial (o : Options) : (Spec.initial o).CapturesSettled where
  named := by
    have hempty : ScopesNamed .empty .empty := fun _ _ _ h => nomatch h
    exact (hempty.pushScope rfl).pushScope rfl
  owner := fun _ _ => rfl
  unbound := fun _ _ _ _ hr => nomatch hr
  settled := fun _ _ hx => nomatch hx

end CapturesSettled

theorem Step.capturesSettled (h : s.Step s') (hc : s.Closed) (hs : s.CapturesSettled) :
    s'.CapturesSettled := by
  cases h with
  | edit h => exact hs.edit hc h
  | production _ => exact hs.addProduction hc
  | nonterminal hn => exact hs.addNonterminal hc hn

/-- The law of captures holds wherever walks lead. -/
theorem Steps.capturesSettled {o : Options} (h : Steps (initial o) s) : s.CapturesSettled := by
  suffices s.Closed ∧ s.CapturesSettled from this.2
  induction h with
  | refl => exact ⟨closed_initial o, .initial o⟩
  | tail _ h ih => exact ⟨h.closed ih.1, h.capturesSettled ih.1 ih.2⟩

/-! ## Finished specifications -/

namespace Numbered

/-- The alternatives of a nonterminal know their owner. -/
theorem owner_eq (h : s.Numbered) {n : NonterminalId} {x : Nonterminal}
    (hx : s.nonterminals.get? n = some x) {p : ProductionId} (hp : p ∈ x.alternatives) :
    (s.productions.get p).owner = some n := by
  obtain ⟨i, hi⟩ := List.mem_iff_getElem?.1 hp
  exact (h.alternative n (Arena.mem_of_get? hx) i p (Arena.get_eq hx ▸ hi)).2

/-- No production is an alternative twice. -/
theorem nodup_alternatives (h : s.Numbered) : s.alternatives.Nodup := by
  refine Arena.nodup_flatMap (fun n x hx => ?_) fun hx hx' hp hp' => ?_
  · -- Each is numbered by its place.
    have hnumber {i : Nat} {p : ProductionId} (hi : x.alternatives[i]? = some p) :
        (s.productions.get p).number = i :=
      (h.alternative n (Arena.mem_of_get? hx) i p (Arena.get_eq hx ▸ hi)).1
    rw [List.nodup_iff_getElem?_ne_getElem?]
    intro i j hlt hj heq
    have hj := List.getElem?_eq_getElem hj
    exact Nat.ne_of_lt hlt ((hnumber (heq.trans hj)).symm.trans (hnumber hj))
  · exact Option.some.inj ((h.owner_eq hx hp).symm.trans (h.owner_eq hx' hp'))

theorem inOrder (h : s.Numbered) {p : ProductionId} (hp : p ∈ s.productions) :
    (s.productions.get p).InOrder :=
  Production.inOrder_of_getElem? (h.element p hp)

end Numbered

namespace CapturesSettled

variable {f : FieldId} {p : ProductionId} {i : Nat}

/-- In the end, the elements of all productions with an owner are settled. -/
theorem settled_of_owner (h : s.CapturesSettled) (hc : s.Closed) (hnum : s.Numbered)
    {n : NonterminalId} (hn : (s.productions.get p).owner = some n) (i : Nat) :
    s.Settled (s.objects.get (s.nonterminals.get n).object).rootScope ⟨p, i⟩ := by
  have hp : p ∈ s.alternatives := by
    by_contra hp
    exact nomatch (h.owner p hp).symm.trans hn
  obtain ⟨m, x, hx, hmem⟩ := mem_alternatives.1 hp
  obtain rfl : m = n := Option.some.inj ((hnum.owner_eq hx hmem).symm.trans hn)
  rw [Arena.get_eq hx]
  have hcount := List.count_eq_one_of_mem hnum.nodup_alternatives hp
  exact h.settled m x hx p hmem hcount (hnum.inOrder (hc.alternatives_mem hp)) i

/-- In the end, the production of a source has an owner. -/
theorem exists_owner (h : s.CapturesSettled) (hnum : s.Numbered)
    (hr : ⟨p, i⟩ ∈ (s.fields.get f).sources) :
    ∃ n ∈ s.nonterminals, (s.productions.get p).owner = some n := by
  have hp : p ∈ s.alternatives := by
    by_contra hp
    exact h.unbound p hp i f hr
  obtain ⟨n, x, hx, hmem⟩ := mem_alternatives.1 hp
  exact ⟨n, Arena.mem_of_get? hx, hnum.owner_eq hx hmem⟩

/-- A source is captured in the field that lists it, and bound to it. -/
theorem bound (h : s.CapturesSettled) (hc : s.Closed) (hnum : s.Numbered)
    (hr : ⟨p, i⟩ ∈ (s.fields.get f).sources) {n : NonterminalId}
    (hn : (s.productions.get p).owner = some n) :
    s.captureAt ⟨p, i⟩ = some f ∧
      s.Bound (s.objects.get (s.nonterminals.get n).object).rootScope ⟨p, i⟩ f := by
  cases h.settled_of_owner hc hnum hn i with
  | unbound _ hu => exact absurd hr (hu f)
  | @bound g hg hb =>
    have hpos := List.count_pos_iff.2 hr
    rw [hb.sources] at hpos
    split at hpos
    next e => exact e ▸ ⟨hg, hb⟩
    next => exact absurd hpos (Nat.lt_irrefl 0)

/-- An element with an owner that is captured in a field is a source of it. -/
theorem mem_sources (h : s.CapturesSettled) (hc : s.Closed) (hnum : s.Numbered)
    {n : NonterminalId} (hn : (s.productions.get p).owner = some n)
    (hf : s.captureAt ⟨p, i⟩ = some f) : ⟨p, i⟩ ∈ (s.fields.get f).sources := by
  cases h.settled_of_owner hc hnum hn i with
  | unbound hnone _ => exact nomatch hnone.symm.trans hf
  | @bound g hg hb =>
    obtain rfl : g = f := Option.some.inj (hg.symm.trans hf)
    refine List.count_pos_iff.1 ?_
    rw [hb.sources, if_pos rfl]
    exact Nat.one_pos

/-- No element is a source twice. -/
theorem nodup_sources (h : s.CapturesSettled) (hc : s.Closed) (hnum : s.Numbered) :
    (s.fields.toList.flatMap (·.sources)).Nodup := by
  -- The field of a source is the one that the element names.
  have key {g : FieldId} {x : Field} {r : ElementRef} (hx : s.fields.get? g = some x)
      (hr : r ∈ x.sources) :
      s.captureAt r = some g ∧ ∀ g', (s.fields.get g').sources.count r ≤ 1 := by
    rw [← Arena.get_eq hx] at hr
    obtain ⟨n, -, hn⟩ := h.exists_owner hnum hr
    obtain ⟨hcap, hb⟩ := h.bound hc hnum hr hn
    refine ⟨hcap, fun g' => ?_⟩
    rw [hb.sources]
    split <;> omega
  refine Arena.nodup_flatMap (fun g x hx => ?_) fun hx hx' hr hr' => ?_
  · rw [List.nodup_iff_count_le_one]
    intro r
    by_cases hr : r ∈ x.sources
    · exact Arena.get_eq hx ▸ (key hx hr).2 g
    · rw [List.count_eq_zero_of_not_mem hr]
      exact Nat.zero_le 1
  · exact Option.some.inj ((key hx hr).1.symm.trans (key hx' hr').1)

end CapturesSettled

end Spec

namespace Draft

variable {o : Options} {d : Draft}

/-- In a finished specification, captured elements and fields agree: a field
    lists an element exactly if the element is captured in it and is part of an
    alternative of a nonterminal. No element is listed twice, and a field that
    lists one is found under its name in the object of the nonterminal. -/
theorem captures_agree (hd : Reachable o d) {s : Spec} (hs : d.finish = .ok s) :
    (∀ f p i, ⟨p, i⟩ ∈ (s.fields.get f).sources ↔
      (∃ n ∈ s.nonterminals, (s.productions.get p).owner = some n) ∧
        ∃ e, (s.productions.get p).elements[i]? = some e ∧ e.capture = some f) ∧
    (s.fields.toList.flatMap (·.sources)).Nodup ∧
    ∀ f p i, ⟨p, i⟩ ∈ (s.fields.get f).sources →
      (s.fields.get f).isCaptured = true ∧
        ∀ n, (s.productions.get p).owner = some n →
          (s.scopes.get (s.objects.get (s.nonterminals.get n).object).rootScope).member?
            (s.fields.get f).name = some f := by
  obtain ⟨rfl, -, hvalid⟩ := finish_eq_ok hs
  have hc : d.spec.Closed := hd.sound.closed
  have hnum : d.spec.Numbered := hd.wellMade.valid_iff.1 hvalid
  have h : d.spec.CapturesSettled := hd.steps.capturesSettled
  refine ⟨fun f p i => ⟨fun hr => ?_, ?_⟩, h.nodup_sources hc hnum, fun f p i hr => ?_⟩
  · obtain ⟨n, hn, howner⟩ := h.exists_owner hnum hr
    exact ⟨⟨n, hn, howner⟩, Spec.captureAt_eq_some_iff.1 (h.bound hc hnum hr howner).1⟩
  · rintro ⟨⟨n, -, howner⟩, he⟩
    exact h.mem_sources hc hnum howner (Spec.captureAt_eq_some_iff.2 he)
  · obtain ⟨n, -, howner⟩ := h.exists_owner hnum hr
    refine ⟨(h.bound hc hnum hr howner).2.isCaptured, fun n hn => ?_⟩
    exact (h.bound hc hnum hr hn).2.member

theorem captures_agree_sums :
    let d := (start {}).run Op.sums
    Reachable {} d ∧ d.finish = .ok d.spec ∧
      (d.spec.fields.get ⟨0⟩).sources = [⟨⟨0⟩, 0⟩, ⟨⟨1⟩, 0⟩] ∧
      (d.spec.fields.toList.flatMap (·.sources)).Nodup ∧
      (d.spec.fields.get ⟨0⟩).isCaptured = true := by
  have hs : ((start {}).run Op.sums).finish = .ok ((start {}).run Op.sums).spec := by
    apply finish_of_valid <;> decide +kernel
  have hsources : (((start {}).run Op.sums).spec.fields.get ⟨0⟩).sources =
      [⟨⟨0⟩, 0⟩, ⟨⟨1⟩, 0⟩] := by decide +kernel
  have hagree := captures_agree reachable_sums hs
  refine ⟨reachable_sums, hs, hsources, hagree.2.1, (hagree.2.2 ⟨0⟩ ⟨0⟩ 0 ?_).1⟩
  rw [hsources]
  exact List.mem_cons_self

end Draft

end LangSpec
