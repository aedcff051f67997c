import LangSpec.Draft.Basic
import LangSpec.Spec.Validity

/-!
# Finishing a draft

A draft becomes a specification if all that was opened has been closed, no
problem was reported, and the specification is valid. Otherwise the failures
tell why: something left open on its own, or else all problems and then all
violations.
-/

namespace LangSpec

namespace Draft

variable (d : Draft)

/-- What was opened and not closed: scanners before contexts before
    namespaces. -/
def leftOpen : Option Fault :=
  if d.openScanners.length ≠ 0 then some (.scannersLeftOpen d.openScanners.length)
  else if d.openContexts.length ≠ 0 then some (.contextsLeftOpen d.openContexts.length)
  else if d.openNamespaces.length ≠ 0 then some (.namespacesLeftOpen d.openNamespaces.length)
  else none

/-- The problems reported, then the violations found. -/
def failures : List Failure :=
  Diagnostic.failures d.diagnostics ++ d.spec.violations.map (·.toFailure)

/-- The finished specification, or why there is none. -/
def finish : Except (List Failure) Spec :=
  match d.leftOpen with
  | some fault => .error [fault.toFailure]
  | none => if d.failures.isEmpty then .ok d.spec else .error d.failures

end Draft

namespace Spec

/-- The specification that `write` makes of an empty draft. If `write` fails,
    that is the failure of the whole. -/
def build (o : Options) (write : Draft → Except (List Failure) Draft) :
    Except (List Failure) Spec :=
  (write (.start o)).bind Draft.finish

end Spec

end LangSpec
