import LangSpec.Proofs.Scopes

/-!
# Nested walks

What is opened and closed in a walk nests if every opening has its closing, like
brackets (`Nest`). Namespaces, scanners, contexts and scopes may be nested in any
way; a frame may only be opened in the code outside functions, in no scope within
it, for closing a frame leads there.

Whatever is declared between the brackets, the writing ends where it began, and
no closing is a fault: each returns the handle that its opening returned.

* `Nest.Balanced`: the operations of a nest are admitted, and frames are opened
  where they may be;
* `Bracket.ClosesAs`: what the closing of a bracket returns;
* `Returns`: the draft is another one, but the writing stands where it stood;
* `nested_walk_returns`: a balanced nest closes what it opens, and returns.
-/

namespace LangSpec

/-! ## Nests -/

/-- What can be opened and closed. -/
inductive Bracket
  | inNamespace (name : Name)
  | inScanner (loc : Location)
  | inContext (name : Name)
  | inScope
  | inFrame

namespace Bracket

/-- The operation that opens it. -/
def opening : Bracket → Op
  | inNamespace name => .openNamespace name
  | inScanner loc => .openScanner loc
  | inContext name => .openContext name
  | inScope => .openScope
  | inFrame => .openFrame

/-- The operation that closes it. -/
def closing : Bracket → Op
  | inNamespace _ => .closeNamespace
  | inScanner _ => .closeScanner
  | inContext _ => .closeContext
  | inScope => .closeScope
  | inFrame => .closeFrame

theorem isBracket_opening (b : Bracket) : b.opening.isBracket = true := by
  cases b <;> rfl

theorem isBracket_closing (b : Bracket) : b.closing.isBracket = true := by
  cases b <;> rfl

/-- The bracket was opened in the draft `before`. Closing it in the draft
    `inside` returns the handle that the opening returned; closing a context
    also closes the namespace that was opened with it. Closing a frame returns
    nothing. -/
def ClosesAs (before inside : Draft) : Bracket → Prop
  | inNamespace name => inside.closeNamespace.1 = .ok (before.openNamespace name).1
  | inScanner loc => inside.closeScanner.1 = .ok (before.openScanner loc).1
  | inContext name =>
    inside.closeContext.1 = .ok (before.openContext name).1 ∧
      inside.openNamespaces =
        (before.openContext name).2.home :: inside.closeContext.2.openNamespaces
  | inScope => inside.closeScope.1 = .ok before.openScope.1
  | inFrame => True

end Bracket

/-- Operations nested in brackets. -/
inductive Nest
  | done
  | step (op : Op) (rest : Nest)
  | inside (b : Bracket) (inner rest : Nest)

namespace Draft

/-- The bracket may be opened. -/
def MayOpen (d : Draft) : Bracket → Prop
  | .inFrame => d.scope = (d.spec.objects.get d.spec.rootFrame).rootScope
  | _ => True

instance (d : Draft) : (b : Bracket) → Decidable (d.MayOpen b)
  | .inFrame => inferInstanceAs (Decidable (d.scope = _))
  | .inNamespace _ | .inScanner _ | .inContext _ | .inScope => inferInstanceAs (Decidable True)

end Draft

namespace Nest

/-- The operations, in the order they are called in. -/
def ops : Nest → List Op
  | done => []
  | step op rest => op :: rest.ops
  | inside b inner rest => b.opening :: inner.ops ++ b.closing :: rest.ops

/-- Outside the brackets nothing is opened or closed, all operations are
    admitted, and all brackets may be opened. -/
def Balanced (d : Draft) : Nest → Prop
  | done => True
  | step op rest => op.isBracket = false ∧ d.Admits op ∧ rest.Balanced (op.apply d)
  | inside b inner rest =>
    d.MayOpen b ∧ inner.Balanced (b.opening.apply d) ∧
      rest.Balanced (b.closing.apply ((b.opening.apply d).run inner.ops))

instance decidableBalanced (d : Draft) : (w : Nest) → Decidable (w.Balanced d)
  | done => inferInstanceAs (Decidable True)
  | step op rest =>
    have := decidableBalanced (op.apply d) rest
    inferInstanceAs (Decidable (_ ∧ _ ∧ _))
  | inside b inner rest =>
    have := decidableBalanced (b.opening.apply d) inner
    have := decidableBalanced (b.closing.apply ((b.opening.apply d).run inner.ops)) rest
    inferInstanceAs (Decidable (_ ∧ _ ∧ _))

/-- All brackets close as they were opened. -/
def Closes (d : Draft) : Nest → Prop
  | done => True
  | step op rest => rest.Closes (op.apply d)
  | inside b inner rest =>
    b.ClosesAs d ((b.opening.apply d).run inner.ops) ∧ inner.Closes (b.opening.apply d) ∧
      rest.Closes (b.closing.apply ((b.opening.apply d).run inner.ops))

end Nest

namespace Draft

variable {o : Options} {d d' d'' : Draft} {op : Op}

/-! ## Returning -/

/-- The draft `d'` can be reached, and stands where `d` stands: scopes and objects
    are in their places, and so is the writing. -/
structure Returns (o : Options) (d d' : Draft) : Prop where
  reachable : Reachable o d'
  stands : d.spec.Stands d'.spec
  position : d'.position = d.position

theorem Returns.trans (h : Returns o d d') (h' : Returns o d' d'') : Returns o d d'' :=
  ⟨h'.reachable, h.stands.trans h'.stands, h'.position.trans h.position⟩

theorem Reachable.returns_apply (hd : Reachable o d) (hop : d.Admits op)
    (hb : op.isBracket = false) : Returns o d (op.apply d) :=
  ⟨.step hd hop, hd.stands_apply hop, hd.sound.position_apply hop hb⟩

/-! ## Closing -/

theorem closeNamespace_of_cons {n : NamespaceId} {ns : List NamespaceId}
    (h : d.openNamespaces = n :: ns) :
    d.closeNamespace = (.ok n, { d with openNamespaces := ns }) := by
  rw [closeNamespace, h]

theorem closeScanner_of_cons {c : ScannerId} {cs : List ScannerId} (h : d.openScanners = c :: cs) :
    d.closeScanner = (.ok c, { d with openScanners := cs }) := by
  rw [closeScanner, h]

theorem closeContext_of_cons {c : ContextId} {cs : List ContextId} {n : NamespaceId}
    {ns : List NamespaceId} (hc : d.openContexts = c :: cs) (hn : d.openNamespaces = n :: ns) :
    d.closeContext = (.ok c, { d with openContexts := cs, openNamespaces := ns }) := by
  have h : closeNamespace { d with openContexts := cs } =
      (.ok n, { d with openContexts := cs, openNamespaces := ns }) := closeNamespace_of_cons hn
  simp only [closeContext, hc, h]
  rfl

theorem closeScope_of_parent {c : ScopeId} (h : (d.spec.scopes.get d.scope).parent = some c) :
    d.closeScope = (.ok d.scope, { d with scope := c }) := by
  rw [closeScope, h]

/-- Opening a context leads into the namespace opened with it. -/
theorem home_openContext (d : Draft) (name : Name) :
    (d.openContext name).2.home = (d.openNamespace name).1 := by
  have hopened : (d.openContext name).2.openNamespaces =
      (d.openNamespace name).1 :: d.openNamespaces :=
    congrArg Position.openNamespaces (position_openContext d name)
  rw [home, hopened]
  rfl

/-- Opening and closing take no handles. -/
theorem admits_of_isBracket (d : Draft) (hb : op.isBracket = true) : d.Admits op := by
  have harguments : handles op = [] ∧ op.alternatives = [] := by
    cases op with
    | openNamespace | closeNamespace | openScanner | closeScanner | openContext | closeContext
    | openFrame | closeFrame | openScope | closeScope => exact ⟨rfl, rfl⟩
    | _ => exact nomatch hb
  refine ⟨fun h hh => ?_, fun p hp => ?_⟩
  · rw [harguments.1] at hh
    exact absurd hh List.not_mem_nil
  · rw [harguments.2] at hp
    exact absurd hp List.not_mem_nil

theorem Reachable.step_bracket (hd : Reachable o d) (hb : op.isBracket = true) :
    Reachable o (op.apply d) ∧ d.spec.Stands (op.apply d).spec :=
  ⟨hd.step (admits_of_isBracket d hb), hd.stands_apply (admits_of_isBracket d hb)⟩

/-- The code outside functions, in no scope within it, is where a frame may be
    opened. -/
theorem Reachable.frame_of_mayOpen (hd : Reachable o d) (hm : d.MayOpen .inFrame) :
    d.frame = d.spec.rootFrame := by
  have hm : d.scope = (d.spec.objects.get d.spec.rootFrame).rootScope := hm
  rw [← hd.owner_scope, hm, hd.owner_rootScope hd.rootFrame_mem]

/-- A bracket closes as it was opened once the writing stands where the opening
    led. -/
theorem Reachable.closes (hd : Reachable o d) {b : Bracket} (hm : d.MayOpen b)
    (h : Returns o (b.opening.apply d) d') :
    b.ClosesAs d d' ∧ (b.closing.apply d').position = d.position := by
  have hq := h.position
  cases b with
  | inNamespace name =>
    replace hq := hq.trans (position_openNamespace d name)
    have hn : d'.openNamespaces = (d.openNamespace name).1 :: d.openNamespaces :=
      congrArg Position.openNamespaces hq
    refine ⟨congrArg Prod.fst (closeNamespace_of_cons hn), ?_⟩
    refine (position_closeNamespace d').trans ?_
    rw [hq, hn]
    rfl
  | inScanner loc =>
    have hc : d'.openScanners = (d.openScanner loc).1 :: d.openScanners :=
      congrArg Position.openScanners hq
    refine ⟨congrArg Prod.fst (closeScanner_of_cons hc), ?_⟩
    refine (position_closeScanner d').trans ?_
    rw [hq, hc]
    rfl
  | inContext name =>
    have hq' := hq.trans (position_openContext d name)
    have hn : d'.openNamespaces = (d.openNamespace name).1 :: d.openNamespaces :=
      congrArg Position.openNamespaces hq'
    have hc : d'.openContexts = (d.openContext name).1 :: d.openContexts :=
      congrArg Position.openContexts hq'
    have hclose := closeContext_of_cons hc hn
    refine ⟨⟨congrArg Prod.fst hclose, ?_⟩, ?_⟩
    · rw [hn, home_openContext, hclose]
    · refine (position_closeContext d').trans ?_
      rw [if_neg (hc ▸ List.cons_ne_nil _ _), hq', hn, hc]
      rfl
  | inScope =>
    -- The scope around the new one is the one it was opened in.
    have hc : d'.scope = d.openScope.1 := congrArg Position.scope hq
    have hparent : (d'.spec.scopes.get d'.scope).parent = some d.scope := by
      rw [hc]
      exact (h.stands.parent (hd.step_bracket rfl).1.sound.scope).trans (parent_openScope d)
    refine ⟨(congrArg Prod.fst (closeScope_of_parent hparent)).trans (congrArg Except.ok hc), ?_⟩
    refine (position_closeScope d').trans ?_
    rw [hparent, hq]
    rfl
  | inFrame =>
    have hframe := hd.frame_of_mayOpen hm
    refine ⟨trivial, (position_closeFrame d').trans ?_⟩
    have hq : d'.position =
      { d.position with frame := d.openFrame.1, scope := d.openFrame.2.scope } := hq
    have hm : d.scope = (d.spec.objects.get d.spec.rootFrame).rootScope := hm
    -- The root frame is the same as before, and so is its root scope.
    have hstands : d.spec.Stands d'.spec := (hd.step_bracket rfl).2.trans h.stands
    rw [hq, hstands.rootFrame, (hstands.objects _ hd.rootFrame_mem).2, ← hm, ← hframe]
    rfl

theorem Reachable.returns_bracket (hd : Reachable o d) {b : Bracket} (hm : d.MayOpen b)
    (h : Returns o (b.opening.apply d) d') :
    b.ClosesAs d d' ∧ Returns o d (b.closing.apply d') := by
  obtain ⟨-, hopened⟩ := hd.step_bracket b.isBracket_opening
  obtain ⟨hreachable, hclosed⟩ := h.reachable.step_bracket b.isBracket_closing
  obtain ⟨hcloses, hposition⟩ := hd.closes hm h
  exact ⟨hcloses, hreachable, (hopened.trans h.stands).trans hclosed, hposition⟩

theorem run_inside (d : Draft) (b : Bracket) (inner rest : Nest) :
    d.run (Nest.inside b inner rest).ops =
      (b.closing.apply ((b.opening.apply d).run inner.ops)).run rest.ops := by
  rw [run, Nest.ops, List.foldl_append]
  rfl

/-- A balanced nest returns, and closes every bracket as it was opened. -/
theorem Reachable.nest_returns {w : Nest} (hd : Reachable o d) (hw : w.Balanced d) :
    w.Closes d ∧ Returns o d (d.run w.ops) := by
  induction w generalizing d with
  | done => exact ⟨trivial, hd, .refl, rfl⟩
  | step op rest ih =>
    obtain ⟨hb, hop, hrest⟩ := hw
    have hstep := hd.returns_apply hop hb
    obtain ⟨hcloses, hreturns⟩ := ih hstep.reachable hrest
    exact ⟨hcloses, hstep.trans hreturns⟩
  | inside b inner rest ihInner ihRest =>
    obtain ⟨hm, hinner, hrest⟩ := hw
    obtain ⟨hopened, -⟩ := hd.step_bracket b.isBracket_opening
    obtain ⟨hcloses, hreturns⟩ := ihInner hopened hinner
    obtain ⟨hclose, hclosed⟩ := hd.returns_bracket hm hreturns
    obtain ⟨hcloses', hreturns'⟩ := ihRest hclosed.reachable hrest
    rw [run_inside]
    exact ⟨⟨hclose, hcloses, hcloses'⟩, hclosed.trans hreturns'⟩

/-- Whatever is written between brackets that are balanced, every closing
    returns the handle its opening returned, and in the end the open namespaces,
    scanners and contexts, the frame and the scope are what they were. -/
theorem nested_walk_returns (o : Options) (d : Draft) (w : Nest) (hd : Reachable o d)
    (hw : w.Balanced d) : w.Closes d ∧ (d.run w.ops).position = d.position := by
  obtain ⟨hcloses, hreturns⟩ := hd.nest_returns hw
  exact ⟨hcloses, hreturns.position⟩

/-- A context with a field in a namespace, and a scanner in a scope of a frame
    after it. -/
theorem nested_walk_returns_sums :
    let d := (start {}).run Op.sums
    let inContext : Nest :=
      .step (.newField { text := "count" } .localVar none)
        (.step (.declareContextField ⟨2⟩ ⟨9, 0⟩) (.inside .inScope .done .done))
    let inScope : Nest :=
      .inside (.inScanner ⟨12, 0⟩) (.step (.declareSentinel { text := "stop" }) .done) .done
    let w : Nest :=
      .inside (.inNamespace { text := "more" })
        (.inside (.inContext { text := "state" }) inContext .done)
        (.inside .inFrame (.inside .inScope inScope .done) .done)
    Reachable {} d ∧ w.Balanced d ∧ w.Closes d ∧ (d.run w.ops).position = d.position := by
  intro d inContext inScope w
  have hw : w.Balanced d := by decide +kernel
  exact ⟨reachable_sums, hw, nested_walk_returns {} d w reachable_sums hw⟩

end Draft

end LangSpec
