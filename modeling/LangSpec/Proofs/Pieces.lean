import LangSpec.Regex.References
import Mathlib.Data.List.Basic

/-!
# Pieces and their places

A regular expression is a tree of pieces: each is made of the pieces one layer
down, its *components*, in the order they are written. A *path* leads down this
tree. It tells which component to go to, layer after layer, the first one being
number 0. Two pieces of a tree may well be the same; what tells them apart is the
path that leads there. Of two paths the one to the left is the lower one in
lexicographic order, in which a piece comes before all it is made of. Match marks
and captures are no pieces, and matter neither for paths nor for references.

* `Piece`: what the layers of a regular expression are made of;
* `Piece.at?`: the piece a path leads to;
* `Piece.places`: the pieces of a piece with the paths that lead to them, from left
  to right;
* `Regex.references_left_to_right`: the references of a regular expression are those
  its paths lead to, each once and from left to right.
-/

namespace LangSpec

/-- A piece of a regular expression, of any layer. -/
inductive Piece
  | factor (f : Factor)
  | negated (n : Negated)
  | repeated (r : Repeated)
  | part (p : Part)
  | term (t : Term)
  | expr (e : RegexExpr)
  | regex (r : Regex)

mutual

/-- The pieces of a factor, itself included. -/
def Factor.pieces : Factor → List Piece
  | .paren inner => .factor (.paren inner) :: inner.pieces
  | .literal atom => [.factor (.literal atom)]
  | .range low high => [.factor (.range low high)]
  | .oneOf chars => [.factor (.oneOf chars)]
  | .noneOf chars => [.factor (.noneOf chars)]
  | .reference target loc => [.factor (.reference target loc)]

/-- The pieces of a negated factor. -/
def Negated.pieces : Negated → List Piece
  | .plain factor => .negated (.plain factor) :: factor.pieces
  | .negate op inner => .negated (.negate op inner) :: inner.pieces

/-- The pieces of a repeated factor. -/
def Repeated.pieces : Repeated → List Piece
  | .plain inner => .repeated (.plain inner) :: inner.pieces
  | .repeated op inner => .repeated (.repeated op inner) :: inner.pieces

/-- The pieces of a part. -/
def Part.pieces : Part → List Piece
  | .mk body actions captures => .part (.mk body actions captures) :: body.pieces

/-- The pieces of a term. -/
def Term.pieces : Term → List Piece
  | .single part => .term (.single part) :: part.pieces
  | .join op left right => .term (.join op left right) :: (left.pieces ++ right.pieces)

/-- The pieces of an expression. -/
def RegexExpr.pieces : RegexExpr → List Piece
  | .single term => .expr (.single term) :: term.pieces
  | .join op left right => .expr (.join op left right) :: (left.pieces ++ right.pieces)

/-- The pieces of a regular expression, those of its trailing context last. -/
def Regex.pieces : Regex → List Piece
  | .plain body mark => .regex (.plain body mark) :: body.pieces
  | .trailing body context mark =>
    .regex (.trailing body context mark) :: (body.pieces ++ context.pieces)

end

namespace Piece

/-- The pieces of a piece at any depth, through parentheses and trailing contexts,
    itself included. -/
def pieces : Piece → List Piece
  | factor f => f.pieces
  | negated n => n.pieces
  | repeated r => r.pieces
  | part p => p.pieces
  | term t => t.pieces
  | expr e => e.pieces
  | regex r => r.pieces

/-- What a piece is made of, one layer down. -/
def components : Piece → List Piece
  | factor (.paren inner) => [regex inner]
  | factor _ => []
  | negated (.plain f) => [factor f]
  | negated (.negate _ inner) => [negated inner]
  | repeated (.plain inner) => [negated inner]
  | repeated (.repeated _ inner) => [repeated inner]
  | part p => [repeated p.body]
  | term (.single p) => [part p]
  | term (.join _ left right) => [term left, part right]
  | expr (.single t) => [term t]
  | expr (.join _ left right) => [expr left, term right]
  | regex (.plain body _) => [expr body]
  | regex (.trailing body context _) => [expr body, regex context]

variable {q c : Piece}

theorem pieces_eq (q : Piece) : q.pieces = q :: q.components.flatMap pieces := by
  cases q with
  | factor f => cases f <;> simp [pieces, components, Factor.pieces]
  | negated n => cases n <;> simp [pieces, components, Negated.pieces]
  | repeated r => cases r <;> simp [pieces, components, Repeated.pieces]
  | part p => cases p; simp [pieces, components, Part.pieces, Part.body]
  | term t => cases t <;> simp [pieces, components, Term.pieces]
  | expr e => cases e <;> simp [pieces, components, RegexExpr.pieces]
  | regex r => cases r <;> simp [pieces, components, Regex.pieces]

theorem length_pieces_lt (hc : c ∈ q.components) : c.pieces.length < q.pieces.length := by
  rw [pieces_eq q, List.length_cons, Nat.lt_succ_iff, List.flatMap_def]
  exact (List.sublist_flatten_of_mem (List.mem_map_of_mem hc)).length_le

/-- Induction from the components of a piece to the piece. -/
@[elab_as_elim]
theorem induction_components {motive : Piece → Prop}
    (step : ∀ q, (∀ c ∈ q.components, motive c) → motive q) (q : Piece) : motive q :=
  step q fun c _ => induction_components step c
termination_by q.pieces.length
decreasing_by exact length_pieces_lt ‹_›

/-! ## Places -/

/-- The piece that the path leads to, unless it leads nowhere. -/
def at? (q : Piece) : List Nat → Option Piece
  | [] => some q
  | i :: path => q.components[i]?.bind fun c => c.at? path

theorem at?_cons_eq_some_iff {q' : Piece} {i : Nat} {path : List Nat} :
    q.at? (i :: path) = some q' ↔ ∃ c, q.components[i]? = some c ∧ c.at? path = some q' :=
  Option.bind_eq_some_iff

/-- The pieces of a piece with the paths that lead to them, from left to right. -/
def places (q : Piece) : List (List Nat × Piece) :=
  ([], q) :: q.components.zipIdx.attach.flatMap fun x =>
    x.1.1.places.map fun y => (x.1.2 :: y.1, y.2)
termination_by q.pieces.length
decreasing_by exact length_pieces_lt (List.fst_mem_of_mem_zipIdx x.2)

theorem places_eq (q : Piece) :
    q.places = ([], q) ::
      q.components.zipIdx.flatMap fun x => x.1.places.map fun y => (x.2 :: y.1, y.2) := by
  rw [places]
  conv_rhs => rw [← List.attach_map_subtype_val q.components.zipIdx, List.flatMap_map]

theorem map_snd_places (q : Piece) : q.places.map Prod.snd = q.pieces := by
  induction q using induction_components with
  | step q ih =>
    have hcomponents : q.components.flatMap pieces =
        q.components.zipIdx.flatMap fun x => pieces x.1 := by
      rw [← List.flatMap_map Prod.fst pieces, List.zipIdx_map_fst]
    rw [places_eq, pieces_eq q, List.map_cons, List.map_flatMap, hcomponents]
    refine congrArg (q :: ·) (List.flatMap_congr fun x hx => ?_)
    rw [List.map_map, ← ih x.1 (List.fst_mem_of_mem_zipIdx hx)]
    rfl

theorem mem_places {path : List Nat} {q' : Piece} :
    (path, q') ∈ q.places ↔ q.at? path = some q' := by
  induction path generalizing q with
  | nil => simp [places_eq q, at?, eq_comm]
  | cons i path ih =>
    rw [at?_cons_eq_some_iff, places_eq]
    simp [List.mem_zipIdx_iff_getElem?, ih]

/-- A piece comes before its components, and all of a component before all of the
    next one. -/
theorem pairwise_places (q : Piece) : q.places.Pairwise fun x y => x.1 < y.1 := by
  induction q using induction_components with
  | step q ih =>
    have hnumbers : q.components.zipIdx.Pairwise fun x y => x.2 < y.2 := by
      rw [← List.pairwise_map (R := (· < ·)), List.zipIdx_map_snd]
      exact List.pairwise_lt_range' 1
    -- The piece itself against the rest, two places in one component, and two in
    -- different components.
    rw [places_eq]
    refine List.pairwise_cons.2 ⟨fun x hx => ?_, List.pairwise_flatMap.2 ⟨fun x hx => ?_, ?_⟩⟩
    · obtain ⟨_, -, hx⟩ := List.mem_flatMap.1 hx
      obtain ⟨_, -, rfl⟩ := List.mem_map.1 hx
      exact List.nil_lt_cons _ _
    · rw [List.pairwise_map]
      exact (ih x.1 (List.fst_mem_of_mem_zipIdx hx)).imp List.cons_lt_cons_self.2
    · refine hnumbers.imp fun hlt y hy z hz => ?_
      obtain ⟨_, -, rfl⟩ := List.mem_map.1 hy
      obtain ⟨_, -, rfl⟩ := List.mem_map.1 hz
      exact List.cons_lt_cons_iff.2 (.inl hlt)

/-! ## References -/

/-- The definition that the piece itself refers to. -/
def target? : Piece → Option RegularId
  | factor (.reference target _) => some target
  | _ => none

theorem target?_eq_some_iff {target : RegularId} :
    q.target? = some target ↔ ∃ loc, q = factor (.reference target loc) := by
  constructor
  · intro h
    unfold target? at h
    split at h
    next found loc => exact ⟨loc, Option.some.inj h ▸ rfl⟩
    next => cases h
  · rintro ⟨loc, rfl⟩
    rfl

/-- The definitions that a piece refers to at any depth. -/
def references : Piece → List RegularId
  | factor f => f.references
  | negated n => n.references
  | repeated r => r.references
  | part p => p.references
  | term t => t.references
  | expr e => e.references
  | regex r => r.references

theorem references_eq (q : Piece) :
    q.references = q.target?.toList ++ q.components.flatMap references := by
  cases q with
  | factor f => cases f <;> simp [references, target?, components, Factor.references]
  | negated n => cases n <;> simp [references, target?, components, Negated.references]
  | repeated r => cases r <;> simp [references, target?, components, Repeated.references]
  | part p => cases p; simp [references, target?, components, Part.references, Part.body]
  | term t => cases t <;> simp [references, target?, components, Term.references]
  | expr e => cases e <;> simp [references, target?, components, RegexExpr.references]
  | regex r => cases r <;> simp [references, target?, components, Regex.references]

theorem filterMap_pieces (q : Piece) : q.pieces.filterMap target? = q.references := by
  induction q using induction_components with
  | step q ih =>
    rw [pieces_eq, references_eq, List.filterMap_cons, List.filterMap_flatMap,
      List.flatMap_congr ih]
    cases q.target? <;> rfl

/-- The paths to the references of a piece, from left to right, each with the
    definition referred to. -/
def targets (q : Piece) : List (List Nat × RegularId) :=
  q.places.filterMap fun x => x.2.target?.map (x.1, ·)

theorem map_snd_targets (q : Piece) : q.targets.map Prod.snd = q.references := by
  rw [targets, List.map_filterMap, ← filterMap_pieces, ← map_snd_places, List.filterMap_map]
  refine List.filterMap_congr fun x _ => ?_
  rw [Option.map_map]
  exact Option.map_id'

theorem mem_targets {path : List Nat} {target : RegularId} :
    (path, target) ∈ q.targets ↔ ∃ loc, q.at? path = some (factor (.reference target loc)) := by
  constructor
  · intro h
    obtain ⟨x, hx, h⟩ := List.mem_filterMap.1 h
    obtain ⟨found, hfound, h⟩ := Option.map_eq_some_iff.1 h
    cases h
    obtain ⟨loc, hloc⟩ := target?_eq_some_iff.1 hfound
    exact ⟨loc, hloc ▸ mem_places.1 hx⟩
  · rintro ⟨loc, h⟩
    exact List.mem_filterMap.2 ⟨_, mem_places.2 h, rfl⟩

theorem pairwise_targets (q : Piece) : q.targets.Pairwise fun x y => x.1 < y.1 := by
  refine q.pairwise_places.filterMap _ fun x y hlt x' hx y' hy => ?_
  obtain ⟨_, -, rfl⟩ := Option.map_eq_some_iff.1 hx
  obtain ⟨_, -, rfl⟩ := Option.map_eq_some_iff.1 hy
  exact hlt

end Piece

namespace Regex

/-- The path leads to a reference to the definition `target`. -/
def RefersAt (r : Regex) (path : List Nat) (target : RegularId) : Prop :=
  ∃ loc, (Piece.regex r).at? path = some (.factor (.reference target loc))

/-- The references of a regular expression are those that paths lead to, wherever
    in the tree, each one once and from left to right. -/
theorem references_left_to_right (r : Regex) :
    ∃ places : List (List Nat × RegularId),
      r.references = places.map Prod.snd ∧ (places.Pairwise fun x y => x.1 < y.1) ∧
        ∀ path target, (path, target) ∈ places ↔ r.RefersAt path target := by
  have hreferences : r.references = (Piece.regex r).targets.map Prod.snd :=
    (Piece.regex r).map_snd_targets.symm
  exact ⟨_, hreferences, Piece.pairwise_targets _, fun _ _ => Piece.mem_targets⟩

/-- The way into parentheses, and there to the trailing context. -/
example (body : RegexExpr) (mark : Option MarkId) (target : RegularId) (loc : Location) :
    (ofFactor (.paren (.trailing body (ofFactor (.reference target loc)) mark))).RefersAt
      [0, 0, 0, 0, 0, 0, 0, 1, 0, 0, 0, 0, 0, 0] target :=
  ⟨loc, rfl⟩

end Regex

end LangSpec
