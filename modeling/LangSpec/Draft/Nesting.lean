import LangSpec.Draft.Basic

/-!
# Opening and closing

Namespaces, scanners, contexts, frames and scopes are opened and closed like
brackets. An opening returns the handle of what it opens, and the closing that
goes with it returns the same handle (`closeNamespace_enter`,
`closeScanner_openScanner`, `closeScope_openScope`).

* A namespace can be opened again: the name leads to the same namespace.
* A context comes with a namespace of its name; closing it closes both.
* A frame is not nested: closing one leads back to the code outside functions.
-/

namespace LangSpec.Draft

variable (d : Draft)

/-! ## Namespaces -/

/-- The namespace `n` opened. -/
def enter (n : NamespaceId) : Draft := { d with openNamespaces := n :: d.openNamespaces }

/-- Opens the namespace `name` within the current one, a new one if there is
    none of this name. -/
def openNamespace (name : Name) : NamespaceId × Draft :=
  match d.spec.child? d.home name.text with
  | some n => (n, d.enter n)
  | none =>
    let n := d.spec.namespaces.next
    (n, (d.update (·.addNamespace name.loc name.text d.home)).enter n)

/-- Closes the innermost namespace. The root cannot be closed. -/
def closeNamespace : Except Fault NamespaceId × Draft :=
  match d.openNamespaces with
  | [] => (.error .closesRootNamespace, d)
  | n :: ns => (.ok n, { d with openNamespaces := ns })

@[simp] theorem closeNamespace_enter (n : NamespaceId) :
    (d.enter n).closeNamespace = (.ok n, d) := rfl

/-- The root namespace. It is there from the start. -/
def rootNamespace : NamespaceId := (d.spec.namespaces.get Spec.root).id

/-- A path as it is written in the current namespace. -/
def qualifier (path : List Name) (loc : Location) : Qualifier :=
  { path := path.map (·.text), writtenIn := d.home, loc }

/-! ## Scanners -/

/-- Opens a new scanner. -/
def openScanner (loc : Location) : ScannerId × Draft :=
  let c := d.spec.scanners.next
  let d := d.update (·.addScanner loc)
  (c, { d with openScanners := c :: d.openScanners })

/-- Closes the innermost scanner. -/
def closeScanner : Except Fault ScannerId × Draft :=
  match d.openScanners with
  | [] => (.error .noOpenScanner, d)
  | c :: cs => (.ok c, { d with openScanners := cs })

theorem closeScanner_openScanner (loc : Location) :
    (d.openScanner loc).2.closeScanner =
      (.ok (d.openScanner loc).1, d.update (·.addScanner loc)) := rfl

/-! ## Contexts -/

/-- Opens a new context, with the namespace of its name and an object for its
    fields. -/
def openContext (name : Name) : ContextId × Draft :=
  let (home, d) := d.openNamespace name
  let object := d.spec.objects.next
  let c := d.spec.contexts.next
  let d := d.update fun s =>
    (s.addObject .type name.text).addContext name.text name.loc home object
  (c, { d with openContexts := c :: d.openContexts })

/-- Closes the innermost context and, with it, the innermost namespace. -/
def closeContext : Except Fault ContextId × Draft :=
  match d.openContexts with
  | [] => (.error .noOpenContext, d)
  | c :: cs =>
    let (closed, d) := closeNamespace { d with openContexts := cs }
    (closed.map fun _ => c, d)

/-! ## Frames and scopes -/

/-- Opens a new frame for a piece of code, and its root scope. -/
def openFrame : ObjectId × Draft :=
  let frame := d.spec.objects.next
  let scope := d.spec.scopes.next
  (frame, { d.update (·.addObject .frame "local") with frame, scope })

/-- Goes back to the code outside functions, and its root scope. -/
def closeFrame : Draft :=
  let frame := d.spec.rootFrame
  { d with frame, scope := (d.spec.objects.get frame).rootScope }

/-- Opens a new scope within the current one. -/
def openScope : ScopeId × Draft :=
  let scope := d.spec.scopes.next
  (scope, { d.update (·.addScope d.scope) with scope })

/-- Closes the current scope. The root scope of a frame cannot be closed. -/
def closeScope : Except Fault ScopeId × Draft :=
  match (d.spec.scopes.get d.scope).parent with
  | none => (.error .closesRootScope, d)
  | some parent => (.ok d.scope, { d with scope := parent })

theorem closeScope_openScope :
    d.openScope.2.closeScope = (.ok d.openScope.1, { d.openScope.2 with scope := d.scope }) := by
  have h : (d.openScope.2.spec.scopes.get d.openScope.2.scope).parent = some d.scope := by
    simp only [openScope, update, Spec.addScope, Arena.get, Arena.get?_modify, Arena.get?_push_next]
    split <;> rfl
  rw [closeScope, h]
  rfl

end LangSpec.Draft
