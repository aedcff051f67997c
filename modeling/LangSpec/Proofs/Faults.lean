import LangSpec.Proofs.Nesting

/-!
# Faults

Some operations make no sense everywhere: closing what is not open, and
declaring a field of the open context where none is open. They return a fault
there (`Op.Faults`) and leave the draft as it is, diagnostics included.

There is one exception. Closing a context closes a namespace, too, but only after
the context; if only the root namespace is open, the context is gone by the time
the fault is found (`closeContext_of_root`).

* `fault_keeps_iff`: what a fault changes, and when it changes nothing;
* `closeContext_drops_context`: a walk that comes to the exception.
-/

namespace LangSpec

/-- The operation is the fault `f` in this draft. -/
def Op.Faults (d : Draft) (f : Fault) : Op → Prop
  | closeNamespace => d.closeNamespace.1 = .error f
  | closeScanner => d.closeScanner.1 = .error f
  | closeContext => d.closeContext.1 = .error f
  | closeScope => d.closeScope.1 = .error f
  | declareContextField field loc => (d.declareContextField field loc).1 = .error f
  | _ => False

namespace Draft

variable {d : Draft} {f : Fault} {op : Op}

theorem closeNamespace_of_fault (h : d.closeNamespace.1 = .error f) : d.closeNamespace.2 = d := by
  rw [closeNamespace] at h ⊢
  split at h
  next => rfl
  next => cases h

theorem closeScanner_of_fault (h : d.closeScanner.1 = .error f) : d.closeScanner.2 = d := by
  rw [closeScanner] at h ⊢
  split at h
  next => rfl
  next => cases h

theorem closeScope_of_fault (h : d.closeScope.1 = .error f) : d.closeScope.2 = d := by
  rw [closeScope] at h ⊢
  split at h
  next => rfl
  next => cases h

theorem declareContextField_of_fault {field : FieldId} {loc : Location}
    (h : (d.declareContextField field loc).1 = .error f) :
    (d.declareContextField field loc).2 = d := by
  rw [declareContextField] at h ⊢
  split at h
  next => rfl
  next => cases h

theorem closeContext_of_nil (hc : d.openContexts = []) :
    d.closeContext = (.error .noOpenContext, d) := by
  rw [closeContext, hc]

/-- The context is closed before it is found that no namespace can be. -/
theorem closeContext_of_root {c : ContextId} {cs : List ContextId}
    (hc : d.openContexts = c :: cs) (hn : d.openNamespaces = []) :
    d.closeContext = (.error .closesRootNamespace, { d with openContexts := cs }) := by
  have h : closeNamespace { d with openContexts := cs } =
      (.error .closesRootNamespace, { d with openContexts := cs }) := by
    rw [closeNamespace, hn]
  simp only [closeContext, hc, h]
  rfl

/-- The fault is that no context is open, or that the context went first. -/
theorem closeContext_of_fault (h : d.closeContext.1 = .error f) :
    d.closeContext.2 = { d with openContexts := d.openContexts.tail } := by
  cases hc : d.openContexts with
  | nil =>
    rw [closeContext_of_nil hc, List.tail_nil, ← hc]
  | cons c cs =>
    cases hn : d.openNamespaces with
    | nil => rw [closeContext_of_root hc hn, List.tail_cons, ← hn]
    | cons n ns =>
      rw [closeContext_of_cons hc hn] at h
      exact nomatch h

/-- A fault changes nothing but the open contexts, and those only where a
    context was to be closed and one was open. -/
theorem fault_keeps_iff (d : Draft) (op : Op) (f : Fault) (h : op.Faults d f) :
    op.apply d = { d with openContexts := (op.apply d).openContexts } ∧
      (op.apply d = d ↔ op = .closeContext → d.openContexts = []) := by
  -- All faults but one keep the draft.
  have keep (hop : op ≠ .closeContext) (hk : op.apply d = d) :
      op.apply d = { d with openContexts := (op.apply d).openContexts } ∧
        (op.apply d = d ↔ op = .closeContext → d.openContexts = []) :=
    ⟨by rw [hk], fun _ e => absurd e hop, fun _ => hk⟩
  cases op with
  | closeNamespace => exact keep (nomatch ·) (closeNamespace_of_fault h)
  | closeScanner => exact keep (nomatch ·) (closeScanner_of_fault h)
  | closeScope => exact keep (nomatch ·) (closeScope_of_fault h)
  | declareContextField => exact keep (nomatch ·) (declareContextField_of_fault h)
  | closeContext =>
    have hclose : Op.apply d .closeContext = { d with openContexts := d.openContexts.tail } :=
      closeContext_of_fault h
    rw [hclose]
    refine ⟨rfl, fun hk _ => ?_, fun hk => ?_⟩
    · cases hc : d.openContexts with
      | nil => rfl
      | cons c cs =>
        have hk : d.openContexts.tail = d.openContexts := congrArg Draft.openContexts hk
        rw [hc, List.tail_cons] at hk
        exact absurd hk List.ne_cons_self
    · rw [hk rfl, List.tail_nil, ← hk rfl]
  | _ => exact nomatch h

theorem fault_keeps_iff_sums :
    let d := (start {}).run Op.sums
    let op : Op := .closeScanner
    op.Faults d .noOpenScanner ∧
      op.apply d = { d with openContexts := (op.apply d).openContexts } ∧
      (op.apply d = d ↔ op = .closeContext → d.openContexts = []) := by
  have h : Op.closeScanner.Faults ((start {}).run Op.sums) .noOpenScanner := rfl
  exact ⟨h, fault_keeps_iff _ _ _ h⟩

/-- The namespace of a context is closed before the context. Closing the context
    is a fault then, but the context is not open any more. -/
theorem closeContext_drops_context :
    let d := (start {}).run [.openContext { text := "c" }, .closeNamespace]
    Reachable {} d ∧ Op.closeContext.Faults d .closesRootNamespace ∧ d.openContexts = [⟨0⟩] ∧
      (Op.apply d .closeContext).openContexts = [] ∧ Op.apply d .closeContext ≠ d := by
  refine ⟨Reachable.start.run (by decide +kernel), rfl, rfl, rfl, fun h => ?_⟩
  exact nomatch congrArg Draft.openContexts h

end Draft

end LangSpec
