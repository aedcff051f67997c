import LangSpec.Name
import LangSpec.Problem
import LangSpec.Spec.Initial
import LangSpec.Spec.Lookup

/-!
# Drafts

A draft is a specification being written, one declaration after another, in the
order of the source text. It knows where the writing stands: in which
namespace, scanner and context, and in which frame and scope of the code.

A declaration with a *problem* is reported and dropped, or replaced by something
harmless, and the writing goes on; so operations return a new draft in any case.
An operation that makes no sense where it is called returns a *fault* along with
the draft.
-/

namespace LangSpec

/-- A specification being written. -/
structure Draft where
  /-- What has been written. -/
  spec : Spec
  /-- The problems so far, in the order of their reports. -/
  diagnostics : List Diagnostic := []
  /-- The open namespaces within the root, innermost first. -/
  openNamespaces : List NamespaceId := []
  /-- The open scanners, innermost first. -/
  openScanners : List ScannerId := []
  /-- The open contexts, innermost first. -/
  openContexts : List ContextId := []
  /-- The frame of the code being written. -/
  frame : ObjectId
  /-- The scope of the code being written. -/
  scope : ScopeId
  /-- The rank of the tokens in the next precedence statement. -/
  rank : UInt32 := 0

namespace Draft

/-- The draft nothing has been declared in. The code being written is that
    outside functions. -/
def start (o : Options) : Draft :=
  let spec := Spec.initial o
  { spec, frame := spec.rootFrame, scope := (spec.objects.get spec.rootFrame).rootScope }

variable (d : Draft)

/-- The innermost open namespace, where declarations go. -/
def home : NamespaceId := d.openNamespaces.head?.getD Spec.root

/-- The innermost open scanner. -/
def scanner? : Option ScannerId := d.openScanners.head?

/-- The innermost open context. -/
def context? : Option ContextId := d.openContexts.head?

/-- A scanner is open. -/
def insideScanner : Bool := !d.openScanners.isEmpty

/-- The draft with a problem reported at `loc`. -/
def report (p : Problem) (loc : Location) : Draft :=
  { d with diagnostics := d.diagnostics ++ [p.reportedAt loc] }

/-- The draft with its specification changed. -/
def update (change : Spec → Spec) : Draft := { d with spec := change d.spec }

end Draft

end LangSpec
