import LangSpec.Proofs.Endurance
import LangSpec.Proofs.Footprint
import LangSpec.Proofs.Pieces
import Mathlib.Data.Multiset.Bind

/-!
# Match marks do not collide

Match marks are numbered through the whole specification, while many regular
expressions are written at once: a mark goes to a piece that is at hand, the
piece becomes part of others, and in the end some are entered into the table and
some are not. A writer who uses every piece once, and leaves marks to the
operations that make them, cannot get a mark into two places. For every mark is
new when it is made, goes to one place, and moves with the piece that has it.

* `Crafted`: the drafts of such a writer, with the pieces at hand;
* `Piece.Wired`: marks and captures of one piece belong together;
* `Fair`: no mark is in two places, and all pieces are wired;
* `marks_never_collide`: the law.
-/

namespace LangSpec

open Regex (MarkSide)

namespace Piece

/-- The marks of the piece itself: those of its captures, or the one where a match
    ends. -/
def own : Piece → List MarkId
  | part p => p.captures.flatMap fun c => [c.enter, c.leave]
  | regex r => r.mark?.toList
  | _ => []

/-- All marks of a piece, at any depth. -/
def marks (q : Piece) : List MarkId := q.pieces.flatMap own

/-- The piece has been put together from its components, and nothing was added. -/
def Bare : Piece → Prop
  | part p => p.actions = [] ∧ p.captures = []
  | regex r => r.mark? = none ∧ r.context? = none
  | _ => True

/-- The marks of a part are those of its captures, each entered at a mark and left
    at the next one, and a regular expression has a mark exactly if it has a
    trailing context. -/
def Wired : Piece → Prop
  | part p =>
    (p.actions.map fun a => (a.side, a.mark)) =
        (p.captures.flatMap fun c => [(MarkSide.start, c.enter), (MarkSide.leave, c.leave)]) ∧
      ∀ c ∈ p.captures, c.leave = c.enter.succ
  | regex r => r.mark?.isSome ↔ r.context?.isSome
  | _ => True

variable {q : Piece}

theorem marks_eq (q : Piece) : q.marks = q.own ++ q.components.flatMap marks := by
  rw [marks, pieces_eq, List.flatMap_cons, List.flatMap_assoc]
  rfl

/-- What holds of all pieces of a piece holds of it and of all pieces of its
    components. -/
theorem forall_pieces {P : Piece → Prop} :
    (∀ q' ∈ q.pieces, P q') ↔ P q ∧ ∀ c ∈ q.components, ∀ q' ∈ c.pieces, P q' := by
  rw [pieces_eq, List.forall_mem_cons, List.forall_mem_flatMap]

theorem Bare.own (h : q.Bare) : q.own = [] := by
  cases q with
  | part p => rw [Piece.own, h.2, List.flatMap_nil]
  | regex r => rw [Piece.own, h.1]; rfl
  | _ => rfl

theorem Bare.wired (h : q.Bare) : q.Wired := by
  cases q with
  | part p =>
    rw [Wired, h.1, h.2]
    exact ⟨rfl, fun _ hc => absurd hc List.not_mem_nil⟩
  | regex r =>
    rw [Wired, h.1, h.2]
    exact Iff.rfl
  | _ => trivial

end Piece

/-! ## Putting pieces together -/

/-- What is said of the pieces at hand stays true when a piece is put together from
    its components. -/
def Builds (P : Multiset Piece → Prop) : Prop :=
  ∀ (q : Piece) (qs : Multiset Piece), P ((q.components : Multiset Piece) + qs) → q.Bare →
    P (q ::ₘ qs)

namespace Builds

variable {P : Multiset Piece → Prop} {qs : Multiset Piece} {q q' : Piece}

theorem leaf (hP : Builds P) (h : P qs) (hq : q.components = []) (hb : q.Bare) : P (q ::ₘ qs) := by
  refine hP q qs ?_ hb
  rwa [hq, Multiset.coe_nil, zero_add]

theorem wrap (hP : Builds P) (h : P (q' ::ₘ qs)) (hq : q.components = [q']) (hb : q.Bare) :
    P (q ::ₘ qs) := by
  refine hP q qs ?_ hb
  rwa [hq, Multiset.coe_singleton, Multiset.singleton_add]

/-- A factor as a part on its own. -/
theorem part (hP : Builds P) {f : Factor} (h : P (.factor f ::ₘ qs)) :
    P (.part (.ofFactor f) ::ₘ qs) := by
  have hnegated : P (.negated (.plain f) ::ₘ qs) := hP.wrap h rfl trivial
  have hrepeated : P (.repeated (.plain (.plain f)) ::ₘ qs) := hP.wrap hnegated rfl trivial
  exact hP.wrap hrepeated rfl ⟨rfl, rfl⟩

/-- A part as a regular expression on its own. -/
theorem regex (hP : Builds P) {p : Part} (h : P (.part p ::ₘ qs)) :
    P (.regex (.plain (.single (.single p))) ::ₘ qs) := by
  have hterm : P (.term (.single p) ::ₘ qs) := hP.wrap h rfl trivial
  have hexpr : P (.expr (.single (.single p)) ::ₘ qs) := hP.wrap hterm rfl trivial
  exact hP.wrap hexpr rfl ⟨rfl, rfl⟩

theorem literal (hP : Builds P) (h : P qs) (l : Literal) : P (.regex (.ofLiteral l) ::ₘ qs) :=
  hP.regex (hP.part (hP.leaf h rfl trivial))

end Builds

/-! ## Marks in one place -/

/-- All marks of a number of pieces. -/
def marksOf (qs : Multiset Piece) : Multiset MarkId := qs.bind fun q => (q.marks : Multiset MarkId)

theorem marksOf_cons (q : Piece) (qs : Multiset Piece) :
    marksOf (q ::ₘ qs) = (q.marks : Multiset MarkId) + marksOf qs := Multiset.cons_bind _ _ _

theorem marksOf_add (qs qs' : Multiset Piece) : marksOf (qs + qs') = marksOf qs + marksOf qs' :=
  Multiset.add_bind _ _ _

theorem marksOf_coe (qs : List Piece) :
    marksOf (qs : Multiset Piece) = (qs.flatMap Piece.marks : List MarkId) :=
  Multiset.coe_bind _ _

/-- The marks that the pieces have are some of those listed, no more often than
    they are listed, and all pieces of the pieces are wired. -/
structure Fair (ids : List MarkId) (qs : Multiset Piece) : Prop where
  marks : marksOf qs ≤ (ids : Multiset MarkId)
  wired : ∀ q ∈ qs, ∀ q' ∈ q.pieces, q'.Wired

namespace Fair

variable {ids ids' : List MarkId} {qs qs' : Multiset Piece} {q : Piece}

theorem empty : Fair ids 0 := ⟨Multiset.zero_le _, fun _ hq => absurd hq (Multiset.notMem_zero _)⟩

/-- Fewer pieces. -/
theorem mono (h : Fair ids qs) (hle : qs' ≤ qs) : Fair ids qs' := by
  obtain ⟨rest, rfl⟩ := Multiset.le_iff_exists_add.1 hle
  refine ⟨?_, fun q hq => h.wired q (Multiset.mem_add.2 (.inl hq))⟩
  have hmarks := h.marks
  rw [marksOf_add] at hmarks
  exact (Multiset.le_add_right _ _).trans hmarks

/-- More marks in the list. -/
theorem grow (h : Fair ids qs) (hids : ids.Sublist ids') : Fair ids' qs :=
  ⟨h.marks.trans (Multiset.coe_le.2 hids.subperm), h.wired⟩

/-- One piece comes in place of others, with their marks and new ones. -/
theorem replace (parts : Multiset Piece) {new : List MarkId} (h : Fair ids (parts + qs))
    (hmarks : (q.marks : Multiset MarkId) ≤ marksOf parts + (new : Multiset MarkId))
    (hwired : ∀ q' ∈ q.pieces, q'.Wired) : Fair (ids ++ new) (q ::ₘ qs) := by
  constructor
  · have hold := h.marks
    rw [marksOf_add] at hold
    calc marksOf (q ::ₘ qs) = (q.marks : Multiset MarkId) + marksOf qs := marksOf_cons q qs
      _ ≤ marksOf parts + (new : Multiset MarkId) + marksOf qs := add_le_add_left hmarks _
      _ = marksOf parts + marksOf qs + (new : Multiset MarkId) := add_right_comm _ _ _
      _ ≤ (ids : Multiset MarkId) + (new : Multiset MarkId) := add_le_add_left hold _
      _ = (ids ++ new : List MarkId) := Multiset.coe_add ids new
  · intro q' hq'
    rcases Multiset.mem_cons.1 hq' with rfl | hq'
    · exact hwired
    · exact h.wired q' (Multiset.mem_add.2 (.inr hq'))

/-- A piece put together from its components has their marks. -/
theorem builds : Builds (Fair ids) := by
  intro q qs h hq
  have hmarks : (q.marks : Multiset MarkId) ≤
      marksOf (q.components : Multiset Piece) + (([] : List MarkId) : Multiset MarkId) := by
    rw [q.marks_eq, hq.own, marksOf_coe, Multiset.coe_add, List.nil_append, List.append_nil]
  have hwired : ∀ q' ∈ q.pieces, q'.Wired := by
    refine Piece.forall_pieces.2 ⟨hq.wired, fun c hc => h.wired c ?_⟩
    exact Multiset.mem_add.2 (.inl (Multiset.mem_coe.2 hc))
  exact List.append_nil ids ▸ replace _ h hmarks hwired

/-- A piece taken apart. Its own marks are lost. -/
theorem split (h : Fair ids (q ::ₘ qs)) : Fair ids ((q.components : Multiset Piece) + qs) := by
  constructor
  · refine le_trans ?_ h.marks
    rw [marksOf_cons, marksOf_add, marksOf_coe, q.marks_eq, ← Multiset.coe_add, add_assoc]
    exact Multiset.le_add_left _ _
  · intro q' hq'
    rcases Multiset.mem_add.1 hq' with hq' | hq'
    · exact (Piece.forall_pieces.1 (h.wired q (Multiset.mem_cons_self q qs))).2 q' hq'
    · exact h.wired q' (Multiset.mem_cons_of_mem hq')

variable {p : Part} {r context : Regex} {enter mark : MarkId} {f : FieldId} {loc : Location}

/-- A part gets another label, with two new marks. -/
theorem label (h : Fair ids (.part p ::ₘ qs)) :
    Fair (ids ++ [enter, enter.succ])
      (.part (p.capture ⟨enter, enter.succ, f⟩ loc) ::ₘ qs) := by
  have hp := Piece.forall_pieces.1 (h.wired _ (Multiset.mem_cons_self _ _))
  have hown : (Piece.part (p.capture ⟨enter, enter.succ, f⟩ loc)).own =
      (Piece.part p).own ++ [enter, enter.succ] := List.flatMap_append
  refine replace {.part p} h (le_of_eq ?_) (Piece.forall_pieces.2 ⟨⟨?_, ?_⟩, hp.2⟩)
  · have hbody : (Piece.part (p.capture ⟨enter, enter.succ, f⟩ loc)).components =
        (Piece.part p).components := rfl
    rw [Piece.marks_eq, hown, hbody, marksOf, Multiset.singleton_bind, Piece.marks_eq]
    simp only [← Multiset.coe_add]
    exact add_right_comm _ _ _
  · rw [Part.capture, Part.actions, Part.captures, List.map_append, List.flatMap_append, hp.1.1]
    rfl
  · exact List.forall_mem_append.2 ⟨hp.1.2, List.forall_mem_singleton.2 rfl⟩

/-- A regular expression gets a trailing context, with a new mark. The context it
    had before is lost. -/
theorem trail (h : Fair ids (.regex r ::ₘ .regex context ::ₘ qs)) :
    Fair (ids ++ [mark]) (.regex (.trailing r.body context (some mark)) ::ₘ qs) := by
  have hmem : .expr r.body ∈ (Piece.regex r).components := by cases r <;> exact List.mem_cons_self
  have hparts : Fair ids (({.expr r.body} : Multiset Piece) + (.regex context ::ₘ qs)) :=
    h.split.mono (add_le_add_left (Multiset.singleton_le.2 (Multiset.mem_coe.2 hmem)) _)
  have hbody := hparts.wired _ (Multiset.mem_add.2 (.inl (Multiset.mem_singleton_self _)))
  have hcontext := h.wired _ (Multiset.mem_cons_of_mem (Multiset.mem_cons_self _ _))
  refine replace ([.expr r.body, .regex context] : List Piece) ?_ (le_of_eq ?_) ?_
  · rwa [← Multiset.cons_coe, Multiset.cons_add, Multiset.coe_singleton, Multiset.singleton_add,
      ← Multiset.singleton_add]
  · rw [Piece.marks_eq, marksOf_coe, Multiset.coe_add]
    exact Multiset.coe_eq_coe.2 List.perm_append_comm
  · refine Piece.forall_pieces.2 ⟨Iff.rfl, ?_⟩
    exact List.forall_mem_cons.2 ⟨hbody, List.forall_mem_singleton.2 hcontext⟩

end Fair

theorem Arena.ids_push_push {t : Table} {α : Type} {a : Arena t α} {x y : α} :
    ((a.push x).push y).ids = a.ids ++ [a.next, a.next.succ] := by
  rw [ids_push, ids_push, next_push, List.append_assoc]
  rfl

namespace Spec

variable {o : Options} {s s' : Spec}

/-- The counter of marks has counted those of the table, every mark carries its
    handle, and its number is the count of those before it. -/
structure MarksNumbered (s : Spec) : Prop where
  next : s.nextMark = UInt32.ofNat s.marks.size
  marks : s.marks.Forall fun m x => x.id = m ∧ x.number = m.index % UInt32.size

theorem marksNumbered_initial (o : Options) : (initial o).MarksNumbered := ⟨rfl, .empty⟩

theorem MarksNumbered.addMark (h : s.MarksNumbered) : s.addMark.MarksNumbered where
  next := by
    rw [Spec.addMark, Arena.size_push, h.next]
    exact (UInt32.ofNat_add s.marks.size 1).symm
  marks := by
    refine h.marks.push ⟨rfl, ?_⟩
    dsimp only
    rw [h.next, UInt32.toNat_ofNat']
    rfl

/-- As long as the counter has not come round, numbers are places. -/
theorem MarksNumbered.number_eq (h : s.MarksNumbered) (hsize : s.marks.size ≤ UInt32.size)
    (m : MarkId) (x : Mark) (hx : s.marks.get? m = some x) : x.number = m.index := by
  have hm : m.index < s.marks.size := Arena.mem_of_get? hx
  rw [(h.marks m x hx).2, Nat.mod_eq_of_lt (hm.trans_le hsize)]

theorem Edit.marksNumbered (he : s.Edit s') (h : s.MarksNumbered) : s'.MarksNumbered := by
  cases he with
  | addMark => exact h.addMark
  | _ => exact { h with }

theorem Bind.marksNumbered {n : NonterminalId} (hb : Bind n s s') (h : s.MarksNumbered) :
    s'.MarksNumbered := by
  cases hb <;> exact { h with }

theorem Steps.marksNumbered (h : Steps (initial o) s) : s.MarksNumbered :=
  (h.preserves (Q := MarksNumbered) (closed_initial o) Edit.marksNumbered
    (fun h => { h with }) Bind.marksNumbered (fun h => { h with }) (marksNumbered_initial o)).2

end Spec

/-! ## Writers -/

namespace Op

/-- The regular expressions handed over to the operation. -/
def takes : Op → List Regex
  | declareToken token => token.regex.toList
  | declareRegular _ regex _ => [regex]
  | _ => []

/-- The operation makes marks. -/
def isMarking : Op → Bool
  | label _ _ => true
  | withTrailing _ context => context.isSome
  | _ => false

variable {op : Op}

/-- What an operation enters has been handed over to it, or it is a literal. -/
theorem regexes_cases {r : Regex} (hr : r ∈ op.regexes) :
    r ∈ op.takes ∨ ∃ l, r = .ofLiteral l := by
  cases op with
  | declareToken | declareRegular => exact .inl hr
  | declareLiteral | declareSentinel => exact .inr ⟨_, List.mem_singleton.1 hr⟩
  | _ => exact absurd hr List.not_mem_nil

end Op

namespace Draft

variable {o : Options} {d : Draft} {hand : Multiset Piece} {op : Op}

/-- The drafts of a writer who uses each piece of a regular expression once, with
    the pieces at hand. Pieces are put together and taken apart as they are, or
    dropped. Marks come with labels and trailing contexts only. What is handed
    over to a declaration is gone, whether the declaration is accepted or not. -/
inductive Crafted (o : Options) : Draft → Multiset Piece → Prop
  | start : Crafted o (.start o) 0
  | build {d : Draft} {hand : Multiset Piece} (q : Piece) :
      Crafted o d ((q.components : Multiset Piece) + hand) → q.Bare → Crafted o d (q ::ₘ hand)
  | split {d : Draft} {hand : Multiset Piece} (q : Piece) :
      Crafted o d (q ::ₘ hand) → Crafted o d ((q.components : Multiset Piece) + hand)
  | drop {d : Draft} {hand : Multiset Piece} (q : Piece) :
      Crafted o d (q ::ₘ hand) → Crafted o d hand
  | label {d : Draft} {hand : Multiset Piece} (name : Name) (p : Part) :
      Crafted o d (.part p ::ₘ hand) → d.spec.Covers (Op.label name p) →
        Crafted o (Op.apply d (.label name p)) (.part (d.label name p).1 ::ₘ hand)
  | trail {d : Draft} {hand : Multiset Piece} (r context : Regex) :
      Crafted o d (.regex r ::ₘ .regex context ::ₘ hand) →
        d.spec.Covers (Op.withTrailing r (some context)) →
          Crafted o (Op.apply d (.withTrailing r (some context)))
            (.regex (d.withTrailing r (some context)).1 ::ₘ hand)
  | other {d : Draft} {hand : Multiset Piece} (op : Op) :
      Crafted o d ((op.takes.map Piece.regex : List Piece) + hand) → d.Admits op →
        op.isMarking = false → Crafted o (op.apply d) hand

namespace Crafted

theorem builds : Builds (Crafted o d) := fun q _ h hq => h.build q hq

/-- An operation that takes no piece. -/
theorem leave (h : Crafted o d hand) (op : Op) (hop : d.Admits op) (ht : op.takes = [])
    (hm : op.isMarking = false) : Crafted o (op.apply d) hand := by
  refine .other op ?_ hop hm
  rwa [ht, List.map_nil, Multiset.coe_nil, zero_add]

/-- An operation that takes a regular expression. -/
theorem give {r : Regex} (h : Crafted o d (.regex r ::ₘ hand)) (op : Op) (hop : d.Admits op)
    (ht : op.takes = [r]) (hm : op.isMarking = false) : Crafted o (op.apply d) hand := by
  refine .other op ?_ hop hm
  rwa [ht, List.map_singleton, Multiset.coe_singleton, Multiset.singleton_add]

end Crafted

/-- The pieces that have marks in the end: the regular expressions of the table,
    and what is at hand. -/
def pieces (d : Draft) (hand : Multiset Piece) : Multiset Piece :=
  (d.spec.regexes.toList.map Piece.regex : List Piece) + hand

theorem pieces_cons (q : Piece) : d.pieces (q ::ₘ hand) = q ::ₘ d.pieces hand :=
  Multiset.add_cons _ _ _

theorem pieces_add (qs : Multiset Piece) : d.pieces (qs + hand) = qs + d.pieces hand :=
  add_left_comm _ _ _

theorem label_eq (d : Draft) (name : Name) (p : Part) :
    (d.label name p).1 = p.capture ⟨d.spec.marks.next, d.spec.marks.next.succ, d.spec.fields.next⟩
      name.loc :=
  congrArg (fun leave => p.capture ⟨_, leave, _⟩ name.loc) Arena.next_push

theorem ids_label (d : Draft) (name : Name) (p : Part) :
    (d.label name p).2.spec.marks.ids =
      d.spec.marks.ids ++ [d.spec.marks.next, d.spec.marks.next.succ] :=
  Arena.ids_push_push

theorem ids_sublist (hd : d.Sound) (hop : d.Admits op) :
    d.spec.marks.ids.Sublist (op.apply d).spec.marks.ids := by
  have hgrow := (hd.effect hop).steps.grows hd.closed .marks
  exact (List.range_sublist.2 hgrow).map _

/-- What the others do leaves marks where they are. -/
theorem Sound.fair_apply (hd : d.Sound) (hop : d.Admits op)
    (h : Fair d.spec.marks.ids (d.pieces ((op.takes.map Piece.regex : List Piece) + hand))) :
    Fair (op.apply d).spec.marks.ids ((op.apply d).pieces hand) := by
  have hkept := h.grow (ids_sublist hd hop)
  rw [pieces_add] at hkept
  rcases hd.regexes_apply hop with he | ⟨r, hr, he⟩
  · rw [pieces, he]
    exact hkept.mono (Multiset.le_add_left _ _)
  · have hpieces : (op.apply d).pieces hand = .regex r ::ₘ d.pieces hand := by
      rw [pieces, pieces, he, Arena.toList_push, List.map_append, ← Multiset.coe_add, add_assoc,
        List.map_singleton, Multiset.coe_singleton, Multiset.singleton_add, Multiset.add_cons]
    rw [hpieces]
    rcases Op.regexes_cases hr with hr | ⟨l, rfl⟩
    · rw [← Multiset.singleton_add]
      refine hkept.mono (add_le_add_left (Multiset.singleton_le.2 ?_) _)
      exact List.mem_map_of_mem hr
    · exact Fair.builds.literal (hkept.mono (Multiset.le_add_left _ _)) l

theorem Crafted.fair (h : Crafted o d hand) :
    Reachable o d ∧ Fair d.spec.marks.ids (d.pieces hand) := by
  induction h with
  | start => exact ⟨.start, Fair.empty⟩
  | build q _ hq ih =>
    obtain ⟨hd, ih⟩ := ih
    rw [pieces_add] at ih
    exact ⟨hd, pieces_cons q ▸ Fair.builds _ _ ih hq⟩
  | split q _ ih =>
    obtain ⟨hd, ih⟩ := ih
    rw [pieces_cons] at ih
    exact ⟨hd, pieces_add (q.components : Multiset Piece) ▸ ih.split⟩
  | drop q _ ih =>
    obtain ⟨hd, ih⟩ := ih
    rw [pieces_cons] at ih
    exact ⟨hd, ih.mono (Multiset.le_cons_self _ _)⟩
  | label name p _ hh ih =>
    obtain ⟨hd, ih⟩ := ih
    refine ⟨.step hd ⟨hh, fun _ hp => absurd hp List.not_mem_nil⟩, ?_⟩
    rw [pieces_cons] at ih ⊢
    rw [label_eq, Op.apply, ids_label]
    exact ih.label
  | @trail d hand r context _ hh ih =>
    obtain ⟨hd, ih⟩ := ih
    refine ⟨.step hd ⟨hh, fun _ hp => absurd hp List.not_mem_nil⟩, ?_⟩
    rw [pieces_cons, pieces_cons] at ih
    rw [pieces_cons]
    have hids : (Op.apply d (.withTrailing r (some context))).spec.marks.ids =
        d.spec.marks.ids ++ [d.spec.marks.next] := Arena.ids_push
    rw [hids]
    exact ih.trail
  | other op _ hop hm ih => exact ⟨.step ih.1 hop, ih.1.sound.fair_apply hop ih.2⟩

/-! ## The law -/

/-- Whatever a writer does who uses each piece of a regular expression once and
    leaves marks to labels and trailing contexts: every mark carries its handle and
    its place as its number, as long as places fit into a word. Among all captures
    and trailing contexts of the regular expressions of the table, at any depth, no
    mark comes twice. A regular expression at any depth, entered or at hand, has a
    mark exactly if it has a trailing context, and a part has the marks of its
    captures, in the order of its labels, each entered at one mark and left at the
    next. -/
theorem marks_never_collide (h : Crafted o d hand) :
    (∀ m x, d.spec.marks.get? m = some x → x.id = m ∧ x.number = m.index % UInt32.size) ∧
      (d.spec.marks.size ≤ UInt32.size →
        ∀ m x, d.spec.marks.get? m = some x → x.number = m.index) ∧
      ((d.spec.regexes.toList.flatMap Regex.pieces).flatMap Piece.own).Nodup ∧
      (∀ r ∈ d.spec.regexes.toList, ∀ q ∈ r.pieces, q.Wired) ∧
      ∀ p ∈ hand, ∀ q ∈ p.pieces, q.Wired := by
  obtain ⟨hd, hfair⟩ := h.fair
  have hnumbered := hd.steps.marksNumbered
  refine ⟨hnumbered.marks, hnumbered.number_eq, ?_, fun r hr => ?_, fun p hp => ?_⟩
  · have hids : d.spec.marks.ids.Nodup := by
      rw [Arena.ids]
      exact List.nodup_range.map fun _ _ e => congrArg Handle.index e
    have htable := (hfair.mono (Multiset.le_add_right _ hand)).marks
    have hnodup := Multiset.nodup_of_le htable (Multiset.coe_nodup.2 hids)
    rw [marksOf_coe, Multiset.coe_nodup, List.flatMap_map] at hnodup
    rw [List.flatMap_assoc]
    exact hnodup
  · exact hfair.wired (.regex r)
      (Multiset.mem_add.2 (.inl (Multiset.mem_coe.2 (List.mem_map_of_mem hr))))
  · exact hfair.wired p (Multiset.mem_add.2 (.inr hp))

/-- A labelled part in parentheses with a trailing context, which is entered with a
    token, and another labelled part, which is refused as a definition of the same
    name. -/
theorem marks_never_collide_nested :
    let a : Regex := .ofLiteral { raw := "'a'" }
    let b : Regex := .ofLiteral { raw := "'b'" }
    let d₁ := Op.apply (start {}) (.openScanner ⟨1, 0⟩)
    let inner : Part := .ofFactor (.paren (d₁.withTrailing a (some b)).1)
    let d₂ := Op.apply d₁ (.withTrailing a (some b))
    let body := (d₂.label { text := "body" } inner).1
    let d₃ := Op.apply d₂ (.label { text := "body" } inner)
    let c : Part := .ofFactor (.oneOf .empty)
    let other := (d₃.label { text := "other" } c).1
    let d₄ := Op.apply d₃ (.label { text := "other" } c)
    let word (p : Part) : Regex := .plain (.single (.single p))
    let token : Op := .declareToken (.named { text := "word" } (some (word body)))
    let definition : Op := .declareRegular { text := "word" } (word other) false
    let d := Op.apply (Op.apply d₄ token) definition
    Crafted {} d 0 ∧ d.diagnostics.length = 1 ∧ d.spec.marks.size = 5 ∧
      (d.spec.regexes.toList.flatMap Regex.pieces).flatMap Piece.own = [⟨1⟩, ⟨2⟩, ⟨0⟩] ∧
      (∀ m x, d.spec.marks.get? m = some x → x.number = m.index) ∧
      ((d.spec.regexes.toList.flatMap Regex.pieces).flatMap Piece.own).Nodup ∧
      ∀ r ∈ d.spec.regexes.toList, ∀ q ∈ r.pieces, q.Wired := by
  intro a b d₁ inner d₂ body d₃ c other d₄ word token definition d
  have h₁ : Crafted {} d₁ 0 := Crafted.start.leave _ (by decide +kernel) rfl rfl
  have h := Crafted.builds.literal (Crafted.builds.literal h₁ { raw := "'b'" }) { raw := "'a'" }
  have h := h.trail a b (by decide +kernel)
  have h₂ : Crafted {} d₂ (.part inner ::ₘ 0) :=
    Crafted.builds.part (Crafted.builds.wrap h rfl trivial)
  have h := Crafted.builds.regex (h₂.label { text := "body" } inner (by decide +kernel))
  have h₃ : Crafted {} d₃ (.part c ::ₘ .regex (.plain (.single (.single body))) ::ₘ 0) :=
    Crafted.builds.part (Crafted.builds.leaf h rfl trivial)
  have h := Crafted.builds.regex (h₃.label { text := "other" } c (by decide +kernel))
  rw [Multiset.cons_swap] at h
  have h := h.give token (by decide +kernel) rfl rfl
  have h : Crafted {} d 0 := h.give definition (by decide +kernel) rfl rfl
  have hsize : d.spec.marks.size = 5 := by decide +kernel
  obtain ⟨-, hnumbers, hnodup, hwired, -⟩ := marks_never_collide h
  refine ⟨h, by decide +kernel, hsize, by decide +kernel, hnumbers ?_, hnodup, hwired⟩
  rw [hsize]
  decide

end Draft

end LangSpec
