import LangSpec.Spec.Extend

/-!
# The initial specification

Before anything is declared, a specification has the root namespace, the object
of the global variables and the frame of the code outside functions.
-/

namespace LangSpec.Spec

/-- The specification without declarations. -/
def initial (o : Options) : Spec :=
  let origin : TypeAttrs := { loc := .origin }
  let root : Namespace :=
    { id := root, loc := .origin, name := Namespace.rootName, parent := none,
      baseTypes := o.baseTypes }
  let s : Spec :=
    { namespaces := Arena.empty.push root
      globalObject := ⟨0⟩
      rootFrame := ⟨1⟩
      argvType := .list origin (.named origin o.stringType)
      stringType := o.stringType }
  (s.addObject .type "global").addObject .frame "local"

end LangSpec.Spec
