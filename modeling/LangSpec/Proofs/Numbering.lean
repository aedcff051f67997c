import LangSpec.Proofs.Footprint
import LangSpec.Proofs.SettledCaptures

/-!
# Writing rules in order

A writer who only ever appends cannot get the numbering wrong. The elements of a
production are appended one after another, and so are the alternatives of a
nonterminal; no production goes to two lists of alternatives, or twice to one,
and no list to two nonterminals. How the writing of the lists is interleaved,
with each other and with all the rest, does not matter. So a draft of such a
writer can be finished, once all is closed, unless a problem was reported.

* `Element.Appended`: the lists of elements that are appended one after another;
* `Ledger`: the lists of alternatives written so far;
* `Draft.Disciplined`: the drafts of such a writer;
* `Tracks`: what the ledger tells about productions and nonterminals;
* `finish_fails_iff_reported`: when such a draft cannot be finished.
-/

namespace LangSpec

/-! ## Lists of elements -/

namespace Element

/-- The elements are those of a list, appended one after another. -/
def Appended (es : List Element) : Prop := ∃ list : List Element, es = list.foldl append []

theorem pos_append {es : List Element} (h : es.map (·.pos) = List.range es.length) (e : Element) :
    (append es e).map (·.pos) = List.range (append es e).length := by
  rw [append, List.map_append, List.length_append, List.length_singleton, List.range_succ, h]
  rfl

theorem pos_foldl_append (list : List Element) {es : List Element}
    (h : es.map (·.pos) = List.range es.length) :
    (list.foldl append es).map (·.pos) = List.range (list.foldl append es).length := by
  induction list generalizing es with
  | nil => exact h
  | cons e list ih => exact ih (pos_append h e)

/-- Elements appended one after another are numbered by their place. -/
theorem Appended.pos {es : List Element} (h : Appended es) :
    es.map (·.pos) = List.range es.length := by
  obtain ⟨list, rfl⟩ := h
  exact pos_foldl_append list rfl

end Element

/-! ## Lists of alternatives -/

/-- The operation has to do with lists of alternatives. -/
def Op.isAlternative : Op → Bool
  | appendAlternative _ _ | declareNonterminal _ _ _ _ => true
  | _ => false

theorem Op.not_mem_alternatives {op : Op} (h : op.isAlternative = false) {p : ProductionId} :
    p ∉ op.alternatives := by
  cases op with
  | declareNonterminal => exact nomatch h
  | _ => exact List.not_mem_nil

/-- A list of alternatives. -/
structure AlternativeList where
  /-- The productions appended so far. -/
  items : List ProductionId
  /-- A nonterminal was declared with the list. -/
  taken : Bool
deriving DecidableEq

/-- The lists of alternatives that were begun. -/
abbrev Ledger := List AlternativeList

namespace Ledger

variable {ls : Ledger} {l l' : AlternativeList} {ps ps' : List ProductionId} {p : ProductionId}

/-- The lists other than `ps`. -/
def others (ls : Ledger) (ps : List ProductionId) : Ledger := ls.filter fun l => l.items ≠ ps

/-- The ledger with the list `ps` grown to `ps'`. The empty list begins a new
    one. -/
def grow (ls : Ledger) (ps ps' : List ProductionId) : Ledger :=
  { items := ps', taken := decide ({ items := ps, taken := true } ∈ ls) } :: ls.others ps

/-- The ledger with a nonterminal declared with the list `ps`. The empty list is
    not kept, as it can always be begun again. -/
def take (ls : Ledger) (ps : List ProductionId) : Ledger :=
  if ps = [] then ls else { items := ps, taken := true } :: ls.others ps

/-- The list is empty or on the ledger. -/
def Lists (ls : Ledger) (ps : List ProductionId) : Prop := ps = [] ∨ ∃ l ∈ ls, l.items = ps

/-- No production is in two lists. -/
def Apart (ls : Ledger) : Prop := ∀ l ∈ ls, ∀ l' ∈ ls, ∀ p ∈ l.items, p ∈ l'.items → l = l'

theorem mem_others : l ∈ ls.others ps ↔ l ∈ ls ∧ l.items ≠ ps := by
  rw [others, List.mem_filter, decide_eq_true_iff]

theorem mem_grow (h : l ∈ ls.grow ps ps') : l.items = ps' ∨ l ∈ ls ∧ l.items ≠ ps := by
  rcases List.mem_cons.1 h with rfl | h
  · exact .inl rfl
  · exact .inr (mem_others.1 h)

theorem mem_take (h : l ∈ ls.take ps) :
    ps ≠ [] ∧ l.items = ps ∨ l ∈ ls := by
  rw [take] at h
  split at h
  next => exact .inr h
  next hps =>
    rcases List.mem_cons.1 h with rfl | h
    · exact .inl ⟨hps, rfl⟩
    · exact .inr (mem_others.1 h).1

/-- A list that was taken stays so. It may get longer. -/
theorem exists_taken_grow (hl : l ∈ ls) (ht : l.taken = true) (hps : ps <+: ps') :
    ∃ l' ∈ ls.grow ps ps', l'.taken = true ∧ l.items <+: l'.items := by
  by_cases hitems : l.items = ps
  · have hmem : (⟨ps, true⟩ : AlternativeList) ∈ ls := by
      rwa [← hitems, ← ht]
    exact ⟨_, List.mem_cons_self, decide_eq_true hmem, hitems ▸ hps⟩
  · exact ⟨l, List.mem_cons_of_mem _ (mem_others.2 ⟨hl, hitems⟩), ht, List.prefix_rfl⟩

theorem exists_taken_take (hl : l ∈ ls) (ht : l.taken = true) (ps : List ProductionId) :
    ∃ l' ∈ ls.take ps, l'.taken = true ∧ l.items <+: l'.items := by
  rw [take]
  split
  next => exact ⟨l, hl, ht, List.prefix_rfl⟩
  next =>
    by_cases hitems : l.items = ps
    · exact ⟨_, List.mem_cons_self, rfl, hitems ▸ List.prefix_rfl⟩
    · exact ⟨l, List.mem_cons_of_mem _ (mem_others.2 ⟨hl, hitems⟩), ht, List.prefix_rfl⟩

namespace Apart

/-- No other list shares a production with a list that is on the ledger. -/
theorem not_mem_of_others (h : ls.Apart) (hps : ls.Lists ps) (hl : l ∈ ls) (hne : l.items ≠ ps)
    {q : ProductionId} (hq : q ∈ l.items) : q ∉ ps := by
  intro hq'
  rcases hps with rfl | ⟨m, hm, rfl⟩
  · exact List.not_mem_nil hq'
  · exact hne (congrArg AlternativeList.items (h l hl m hm q hq hq'))

/-- One list comes that shares productions with no other one. -/
theorem cons_others (h : ls.Apart) (hnew : ∀ l' ∈ ls.others ps, ∀ q ∈ l'.items, q ∉ l.items) :
    Apart (l :: ls.others ps) := by
  intro m hm m' hm' q hq hq'
  rcases List.mem_cons.1 hm with rfl | hold <;> rcases List.mem_cons.1 hm' with rfl | hold'
  · rfl
  · exact absurd hq (hnew m' hold' q hq')
  · exact absurd hq' (hnew m hold q hq)
  · exact h m (mem_others.1 hold).1 m' (mem_others.1 hold').1 q hq hq'

theorem append (h : ls.Apart) (hps : ls.Lists ps) (hp : ∀ l ∈ ls, p ∉ l.items) :
    (ls.grow ps (ps ++ [p])).Apart := by
  refine h.cons_others fun l hl q hq hmem => ?_
  obtain ⟨hl, hne⟩ := mem_others.1 hl
  rcases List.mem_append.1 hmem with hmem | hmem
  · exact h.not_mem_of_others hps hl hne hq hmem
  · exact hp l hl (List.mem_singleton.1 hmem ▸ hq)

theorem take (h : ls.Apart) (hps : ls.Lists ps) : (ls.take ps).Apart := by
  rw [Ledger.take]
  split
  next => exact h
  next =>
    refine h.cons_others fun l hl q hq => ?_
    obtain ⟨hl, hne⟩ := mem_others.1 hl
    exact h.not_mem_of_others hps hl hne hq

end Apart

end Ledger

namespace Draft

/-- The drafts of a writer who appends elements one after another, and
    alternatives as the ledger allows: to a list that was begun, or beginning
    one, no production twice. A list is used for one nonterminal only. -/
inductive Disciplined (o : Options) : Draft → Ledger → Prop
  | start : Disciplined o (.start o) []
  | append {d : Draft} {ls : Ledger} (ps : List ProductionId) (p : ProductionId) :
      Disciplined o d ls → d.spec.Covers (Op.appendAlternative ps p) → ls.Lists ps →
        (∀ l ∈ ls, p ∉ l.items) →
          Disciplined o (Op.apply d (.appendAlternative ps p))
            (ls.grow ps (d.appendAlternative ps p).1)
  | declare {d : Draft} {ls : Ledger} (name : Name) (object : ObjectId) (ps : List ProductionId)
      (reduceFirst : Bool) :
      Disciplined o d ls → d.spec.Covers (Op.declareNonterminal name object ps reduceFirst) →
        (ps = [] ∨ ⟨ps, false⟩ ∈ ls) →
          Disciplined o (Op.apply d (.declareNonterminal name object ps reduceFirst)) (ls.take ps)
  | other {d : Draft} {ls : Ledger} (op : Op) :
      Disciplined o d ls → d.spec.Covers op → op.isAlternative = false →
        Element.Appended op.elements → Disciplined o (op.apply d) ls

end Draft

/-! ## What the ledger tells -/

namespace Ledger

/-- The lists are made of productions, numbered by their place. -/
structure Numbers (ls : Ledger) (productions : Arena .productions Production) : Prop where
  known : ∀ l ∈ ls, ∀ p ∈ l.items, p ∈ productions
  number : ∀ l ∈ ls, ∀ (i : Nat) (p : ProductionId),
    l.items[i]? = some p → (productions.get p).number = i

namespace Numbers

variable {ls : Ledger} {productions productions' : Arena .productions Production}
  {ps : List ProductionId} {p : ProductionId}

/-- A list that can be appended to or declared with is made of productions,
    numbered by their place. -/
theorem listed (h : ls.Numbers productions) (hps : ls.Lists ps) :
    (∀ p ∈ ps, p ∈ productions) ∧
      ∀ (i : Nat) (p : ProductionId), ps[i]? = some p → (productions.get p).number = i := by
  rcases hps with rfl | ⟨l, hl, rfl⟩
  · exact ⟨fun _ hp => absurd hp List.not_mem_nil, fun i p hp => nomatch hp⟩
  · exact ⟨h.known l hl, h.number l hl⟩

theorem retain (h : ls.Numbers productions)
    (hr : Arena.Retains Production.number productions productions') : ls.Numbers productions' where
  known l hl p hp := (hr p (h.known l hl p hp)).1
  number l hl i p hp :=
    (hr p (h.known l hl p (List.mem_of_getElem? hp))).2.trans (h.number l hl i p hp)

theorem take (h : ls.Numbers productions) (hps : ls.Lists ps) :
    (ls.take ps).Numbers productions := by
  obtain ⟨hknown, hnumber⟩ := h.listed hps
  constructor
  · intro l hl
    rcases mem_take hl with ⟨-, hitems⟩ | hl
    · exact hitems ▸ hknown
    · exact h.known l hl
  · intro l hl
    rcases mem_take hl with ⟨-, hitems⟩ | hl
    · exact hitems ▸ hnumber
    · exact h.number l hl

/-- The production appended is numbered by the length of the list before it. It
    is in no other list, so their numbers stay. -/
theorem append (h : ls.Numbers productions) (hmem : p ∈ productions) (hps : ls.Lists ps)
    (hp : ∀ l ∈ ls, p ∉ l.items) :
    (ls.grow ps (ps ++ [p])).Numbers
      (productions.modify p fun x => { x with number := ps.length }) := by
  obtain ⟨hknown, hnumber⟩ := h.listed hps
  have hnot : p ∉ ps := by
    rcases hps with rfl | ⟨l, hl, rfl⟩
    · exact List.not_mem_nil
    · exact hp l hl
  have hkept {qs : List ProductionId} (hqs : p ∉ qs) {i : Nat} {q : ProductionId}
      (hq : qs[i]? = some q) :
      (productions.modify p fun x => { x with number := ps.length }).get q =
        productions.get q :=
    Arena.get_modify_of_ne fun e => hqs (e ▸ List.mem_of_getElem? hq)
  constructor
  · intro l hl q hq
    rw [Arena.mem_modify]
    rcases mem_grow hl with hitems | ⟨hl, -⟩
    · rw [hitems, List.mem_append, List.mem_singleton] at hq
      rcases hq with hq | rfl
      · exact hknown q hq
      · exact hmem
    · exact h.known l hl q hq
  · intro l hl i q hq
    rcases mem_grow hl with hitems | ⟨hl, -⟩
    · rw [hitems, List.getElem?_append] at hq
      split at hq
      next => rw [hkept hnot hq, hnumber i q hq]
      next hi =>
        rw [List.getElem?_singleton] at hq
        split at hq
        next hlast =>
          cases hq
          have hlast : i = ps.length := by omega
          rw [Arena.get_modify_self hmem, hlast]
        next => exact nomatch hq
    · rw [hkept (hp l hl) hq, h.number l hl i q hq]

end Numbers

end Ledger

theorem Production.InOrder.inRange {p : Production} (h : p.InOrder) : p.InRange := by
  intro e he
  have hpos : e.pos ∈ p.elements.map (·.pos) := List.mem_map_of_mem he
  rw [h] at hpos
  exact List.mem_range.1 hpos

/-- The ledger tells which alternatives nonterminals have, and productions and
    alternatives are numbered right. -/
structure Tracks (ls : Ledger) (s : Spec) : Prop where
  apart : ls.Apart
  numbers : ls.Numbers s.productions
  taken : s.nonterminals.Forall fun _ x =>
    x.alternatives = [] ∨ ∃ l ∈ ls, l.taken = true ∧ x.alternatives <+: l.items
  owner : s.nonterminals.Forall fun n x =>
    ∀ p ∈ x.alternatives, (s.productions.get p).owner = some n
  inOrder : ∀ p, (s.productions.get p).InOrder

namespace Spec

variable {s s' : Spec}

theorem Bind.number {n : NonterminalId} (h : Bind n s s') (p : ProductionId) :
    (s'.productions.get p).number = (s.productions.get p).number := by
  cases h with
  | own | setCapture => exact Arena.apply_get_modify (g := Production.number) (by intro; rfl) p
  | addSource | typed | bindField => rfl

theorem owner_linkAlternatives_of_mem {ps : List ProductionId} {n : NonterminalId}
    {p : ProductionId} (hp : p ∈ ps) (hmem : p ∈ s.productions) :
    ((s.linkAlternatives ps n).productions.get p).owner = some n := by
  induction ps generalizing s with
  | nil => exact absurd hp List.not_mem_nil
  | cons q ps ih =>
    by_cases hrest : p ∈ ps
    · exact ih hrest (Arena.mem_modify.2 hmem)
    · -- The production is linked now, and not again.
      obtain rfl : p = q := (List.mem_cons.1 hp).resolve_right hrest
      refine (owner_linkAlternatives hrest).trans ?_
      exact congrArg Production.owner (Arena.get_modify_self hmem)

theorem owner_bindAlternatives_of_mem (hc : s.Closed) (hn : ScopesNamed s.scopes s.fields)
    {n : Nonterminal} (hfit : n.FitsIn s) {p : ProductionId} (hp : p ∈ n.alternatives) :
    ((s.bindAlternatives n).productions.get p).owner = some s.nonterminals.next := by
  refine preserves_bindAlternatives
    (Q := fun s' => (s'.productions.get p).owner = some s.nonterminals.next) hc hn hfit ?_ ?_
  · exact fun _ hb hQ => (hb.owner p).trans hQ
  · exact owner_linkAlternatives_of_mem hp (hfit.alternatives p hp)

/-- Elements keep their order. -/
theorem Binds.inOrder {n : NonterminalId} (h : Binds n s s') {p : ProductionId} :
    (s'.productions.get p).InOrder ↔ (s.productions.get p).InOrder := by
  rw [Production.InOrder, Binds.eq h fun hb => hb.positions p, Binds.length_elements h,
    Production.InOrder]

end Spec

namespace Tracks

variable {ls : Ledger} {s s' : Spec} {ps : List ProductionId} {p : ProductionId}

theorem initial (o : Options) : Tracks [] (.initial o) where
  apart _ hl := absurd hl List.not_mem_nil
  numbers := ⟨fun _ hl => absurd hl List.not_mem_nil, fun _ hl => absurd hl List.not_mem_nil⟩
  taken := .empty
  owner := .empty
  inOrder _ := rfl

/-- Alternatives are productions, numbered by their place. -/
theorem alternatives (h : Tracks ls s) {n : NonterminalId} {x : Nonterminal}
    (hx : s.nonterminals.get? n = some x) :
    (∀ p ∈ x.alternatives, p ∈ s.productions) ∧
      ∀ (i : Nat) (p : ProductionId),
        x.alternatives[i]? = some p → (s.productions.get p).number = i := by
  rcases h.taken n x hx with hnil | ⟨l, hl, -, hbegins⟩
  · exact h.numbers.listed (.inl hnil)
  · have hitems := h.numbers.listed (.inr ⟨l, hl, rfl⟩)
    refine ⟨fun p hp => hitems.1 p (hbegins.subset hp), fun i p hp => hitems.2 i p ?_⟩
    obtain ⟨rest, happend⟩ := hbegins
    obtain ⟨hi, -⟩ := List.getElem?_eq_some_iff.1 hp
    rw [← happend, List.getElem?_append_left hi, hp]

theorem append (h : Tracks ls s) (hmem : p ∈ s.productions) (hps : ls.Lists ps)
    (hp : ∀ l ∈ ls, p ∉ l.items) :
    Tracks (ls.grow ps (ps ++ [p]))
      (s.modifyProduction p fun x => { x with number := ps.length }) where
  apart := h.apart.append hps hp
  numbers := h.numbers.append hmem hps hp
  taken n x hx := (h.taken n x hx).imp_right fun ⟨l, hl, ht, hbegins⟩ => by
    obtain ⟨l', hl', ht', hbegins'⟩ := Ledger.exists_taken_grow hl ht (List.prefix_append ps [p])
    exact ⟨l', hl', ht', hbegins.trans hbegins'⟩
  owner n x hx q hq :=
    (Arena.apply_get_modify (g := Production.owner) (by intro; rfl) q).trans (h.owner n x hx q hq)
  inOrder q := by
    refine Arena.get_modify_of_imp (p := Production.InOrder) ?_ (h.inOrder q)
    exact fun _ hx => hx

/-- Productions that keep their numbers and owners, while others may come. -/
theorem retain (h : Tracks ls s) (hn : s'.nonterminals = s.nonterminals)
    (hnumber : Arena.Retains Production.number s.productions s'.productions)
    (howner : Arena.Retains Production.owner s.productions s'.productions)
    (hin : ∀ p, (s'.productions.get p).InOrder) : Tracks ls s' where
  apart := h.apart
  numbers := h.numbers.retain hnumber
  taken := hn ▸ h.taken
  owner := by
    rw [hn]
    intro n x hx p hp
    exact (howner p ((h.alternatives hx).1 p hp)).2.trans (h.owner n x hx p hp)
  inOrder := hin

theorem addProduction (h : Tracks ls s) {x : Production} (hx : Element.Appended x.elements) :
    Tracks ls (s.addProduction x) := by
  refine h.retain rfl .push .push fun p => ?_
  rw [Spec.addProduction, Arena.get, Arena.get?_push]
  split
  next =>
    rw [Option.getD_some, Production.InOrder, List.length_map, List.map_map]
    exact hx.pos
  next => exact h.inOrder p

/-- A list that was not taken has no alternatives of a nonterminal. -/
theorem not_alternative (h : Tracks ls s) (hfree : ps = [] ∨ ⟨ps, false⟩ ∈ ls) {n : NonterminalId}
    {x : Nonterminal} (hx : s.nonterminals.get? n = some x) (hp : p ∈ x.alternatives) : p ∉ ps := by
  intro hmem
  have hfree := hfree.resolve_left (List.ne_nil_of_mem hmem)
  obtain ⟨l, hl, ht, hbegins⟩ := (h.taken n x hx).resolve_left (List.ne_nil_of_mem hp)
  rw [h.apart l hl _ hfree p (hbegins.subset hp) hmem] at ht
  exact nomatch ht

theorem addNonterminal (h : Tracks ls s) (hc : s.Closed)
    (hnamed : Spec.ScopesNamed s.scopes s.fields) {n : Nonterminal} (hn : n.FitsIn s)
    (hfree : n.alternatives = [] ∨ ⟨n.alternatives, false⟩ ∈ ls) :
    Tracks (ls.take n.alternatives) (s.addNonterminal n) := by
  have hlists : ls.Lists n.alternatives := hfree.imp_right fun hl => ⟨_, hl, rfl⟩
  have hb := Spec.binds_bindAlternatives hc hn
  have hnt : (s.bindAlternatives n).nonterminals = s.nonterminals :=
    Spec.Binds.eq hb Spec.Bind.nonterminals
  rw [Spec.addNonterminal_eq hc hn]
  constructor
  · exact h.apart.take hlists
  · refine (h.numbers.retain fun p hp => ?_).take hlists
    exact ⟨(Spec.Binds.mem_productions hb).2 hp, Spec.Binds.eq hb fun hb => hb.number p⟩
  · rw [Spec.enlist, hnt]
    refine Arena.Forall.push (h.taken.imp fun m x _ hx => hx.imp_right ?_) ?_
    · rintro ⟨l, hl, ht, hbegins⟩
      obtain ⟨l', hl', ht', hbegins'⟩ := Ledger.exists_taken_take hl ht n.alternatives
      exact ⟨l', hl', ht', hbegins.trans hbegins'⟩
    · refine or_iff_not_imp_left.2 fun hne => ?_
      rw [Ledger.take, if_neg hne]
      exact ⟨_, List.mem_cons_self, rfl, List.prefix_rfl⟩
  · rw [Spec.enlist, hnt]
    refine Arena.Forall.push (fun m x hx p hp => ?_) fun p hp => ?_
    · -- The alternatives of other nonterminals are not linked to this one.
      have hnot : p ∉ n.alternatives := h.not_alternative hfree hx hp
      exact (Spec.owner_bindAlternatives hc hnamed hn hnot).trans (h.owner m x hx p hp)
    · exact Spec.owner_bindAlternatives_of_mem hc hnamed hn hp
  · exact fun p => (Spec.Binds.inOrder hb).2 (h.inOrder p)

end Tracks

namespace Draft

variable {o : Options} {d : Draft} {ls : Ledger}

theorem Disciplined.tracks (h : Disciplined o d ls) : Reachable o d ∧ Tracks ls d.spec := by
  induction h with
  | start => exact ⟨.start, .initial o⟩
  | @append d ls ps p _ hh hps hp ih =>
    obtain ⟨hd, ht⟩ := ih
    have hmem : p ∈ d.spec.productions :=
      Spec.covers_handle.1 (List.forall_mem_append.1 hh).2
    exact ⟨.step hd ⟨hh, fun _ h => absurd h List.not_mem_nil⟩, ht.append hmem hps hp⟩
  | @declare d ls name object ps reduceFirst _ hh hfree ih =>
    obtain ⟨hd, ht⟩ := ih
    have hop : d.Admits (.declareNonterminal name object ps reduceFirst) :=
      ⟨hh, fun p _ => (ht.inOrder p).inRange⟩
    refine ⟨.step hd hop, ?_⟩
    exact ht.addNonterminal hd.sound.closed hd.steps.capturesSettled.named
      (hd.sound.fits_nonterminalOf hop) hfree
  | @other d ls op _ hh ha he ih =>
    obtain ⟨hd, ht⟩ := ih
    refine ⟨.step hd ⟨hh, fun p hp => absurd hp (Op.not_mem_alternatives ha)⟩, ?_⟩
    cases hg : op.isGrammar with
    | false =>
      have h := d.enters_apply hg
      exact ht.retain h.nonterminals (h.productions ▸ .refl) (h.productions ▸ .refl)
        (h.productions ▸ ht.inOrder)
    | true =>
      -- Of the operations on productions, only the one that makes them is left.
      cases op with
      | newProduction => exact ht.addProduction he
      | appendAlternative | declareNonterminal => exact nomatch ha
      | _ => exact nomatch hg

/-- Whatever the order in which a disciplined writer makes the lists: productions
    carry their own handles, elements are numbered by their place and linked to
    their production, alternatives are numbered by theirs and belong to their
    nonterminal. So a draft where all that was opened has been closed cannot be
    finished exactly if a problem was reported. -/
theorem finish_fails_iff_reported (h : Disciplined o d ls) :
    (∀ p x, d.spec.productions.get? p = some x →
      x.id = p ∧ ∀ (i : Nat) (e : Element), x.elements[i]? = some e →
        e.pos = i ∧ e.production = some p) ∧
    (∀ n x, d.spec.nonterminals.get? n = some x →
      ∀ (i : Nat) (p : ProductionId), x.alternatives[i]? = some p →
        ∃ y, d.spec.productions.get? p = some y ∧ y.number = i ∧ y.owner = some n) ∧
    (d.openScanners = [] → d.openContexts = [] → d.openNamespaces = [] →
      ((∃ fs, d.finish = .error fs) ↔ d.diagnostics ≠ [])) := by
  obtain ⟨hd, ht⟩ := h.tracks
  have hw := hd.wellMade
  have helement {p : ProductionId} {x : Production} (hx : d.spec.productions.get? p = some x)
      {i : Nat} {e : Element} (he : x.elements[i]? = some e) : e.pos = i :=
    (Arena.get_eq hx ▸ ht.inOrder p).pos_eq he
  have halternative {n : NonterminalId} {x : Nonterminal}
      (hx : d.spec.nonterminals.get? n = some x) {i : Nat} {p : ProductionId}
      (hp : x.alternatives[i]? = some p) :
      (d.spec.productions.get p).number = i ∧ (d.spec.productions.get p).owner = some n :=
    ⟨(ht.alternatives hx).2 i p hp, ht.owner n x hx p (List.mem_of_getElem? hp)⟩
  have hvalid : d.spec.Valid := by
    refine hw.valid_iff.2 ⟨fun p hp i e he => ?_, fun n hn i p hp => ?_⟩
    · exact helement (Arena.get?_eq_some_get hp) he
    · exact halternative (Arena.get?_eq_some_get hn) hp
  refine ⟨fun p x hx => ⟨hw.tagged.productions p x hx, fun i e he => ?_⟩,
    fun n x hx i p hp => ?_, fun hs hc hn => ⟨?_, fun hdiag => ?_⟩⟩
  · exact ⟨helement hx he, hw.elementsLinked p x hx e (List.mem_of_getElem? he)⟩
  · have hmem := (ht.alternatives hx).1 p (List.mem_of_getElem? hp)
    exact ⟨_, Arena.get?_eq_some_get hmem, halternative hx hp⟩
  · rintro ⟨fs, hf⟩ hdiag
    exact nomatch hf.symm.trans (finish_of_valid hs hc hn hdiag hvalid)
  · cases hf : d.finish with
    | error fs => exact ⟨fs, rfl⟩
    | ok s => exact absurd (finish_eq_ok hf).2.1 hdiag

/-- The alternatives of two nonterminals are written in turns. -/
theorem finish_fails_iff_reported_turns :
    let a : Element := .ofLiteral { raw := "'a'" } none none .bare false
    let d := (start {}).run
      [ .newObject { text := "as" }
      , .newObject { text := "none" }
      , .newProduction (Element.append [] a) none none none false ⟨1, 0⟩
      , .newProduction [] none none none false ⟨2, 0⟩
      , .newProduction (Element.append (Element.append [] a) a) none none none false ⟨3, 0⟩
      , .appendAlternative [] ⟨0⟩
      , .appendAlternative [] ⟨1⟩
      , .appendAlternative [⟨0⟩] ⟨2⟩
      , .declareNonterminal { text := "none" } ⟨3⟩ [⟨1⟩] false
      , .declareNonterminal { text := "as" } ⟨2⟩ [⟨0⟩, ⟨2⟩] false ]
    Disciplined {} d [⟨[⟨0⟩, ⟨2⟩], true⟩, ⟨[⟨1⟩], true⟩] ∧
      (∀ p x, d.spec.productions.get? p = some x →
        x.id = p ∧ ∀ (i : Nat) (e : Element), x.elements[i]? = some e →
          e.pos = i ∧ e.production = some p) ∧
      (∀ n x, d.spec.nonterminals.get? n = some x →
        ∀ (i : Nat) (p : ProductionId), x.alternatives[i]? = some p →
          ∃ y, d.spec.productions.get? p = some y ∧ y.number = i ∧ y.owner = some n) ∧
      ((∃ fs, d.finish = .error fs) ↔ d.diagnostics ≠ []) := by
  intro a d
  have h := Disciplined.start (o := {})
  have h := h.other (.newObject { text := "as" }) (by decide +kernel) rfl ⟨[], rfl⟩
  have h := h.other (.newObject { text := "none" }) (by decide +kernel) rfl ⟨[], rfl⟩
  have h := h.other (.newProduction (Element.append [] a) none none none false ⟨1, 0⟩)
    (by decide +kernel) rfl ⟨[a], rfl⟩
  have h := h.other (.newProduction [] none none none false ⟨2, 0⟩)
    (by decide +kernel) rfl ⟨[], rfl⟩
  have h := h.other (.newProduction (Element.append (Element.append [] a) a)
    none none none false ⟨3, 0⟩) (by decide +kernel) rfl ⟨[a, a], rfl⟩
  have h := h.append [] ⟨0⟩ (by decide +kernel) (.inl rfl) (by decide)
  have h := h.append [] ⟨1⟩ (by decide +kernel) (.inl rfl) (by decide)
  have h := h.append [⟨0⟩] ⟨2⟩ (by decide +kernel) (.inr ⟨⟨[⟨0⟩], false⟩, by decide, rfl⟩)
    (by decide)
  have h := h.declare { text := "none" } ⟨3⟩ [⟨1⟩] false (by decide +kernel) (by decide)
  have h := h.declare { text := "as" } ⟨2⟩ [⟨0⟩, ⟨2⟩] false (by decide +kernel) (by decide)
  have h : Disciplined {} d [⟨[⟨0⟩, ⟨2⟩], true⟩, ⟨[⟨1⟩], true⟩] := h
  obtain ⟨hproductions, hnonterminals, hfinish⟩ := finish_fails_iff_reported h
  exact ⟨h, hproductions, hnonterminals, hfinish rfl rfl rfl⟩

end Draft

end LangSpec
