import LangSpec.Draft.Variable

/-!
# Declaring routines, loops and aliases

A routine takes over the code written for it. A function belongs to the context
it is declared in; an iterator never does, and has no result of its own.
-/

namespace LangSpec.Draft

variable (d : Draft)

/-- A loop over the values of an iterator. Its variable is declared in the
    current scope, and has no type until the iterator is known. -/
def declareLoop (name : Name) (type : TypeRef) (iter : IterCall) (body : List Stmt)
    (scope : ScopeId) : Stmt × Draft :=
  let (f, d) := d.newField name .localVar none
  (.loop f type iter body d.context? scope name.loc, d.declareHere f)

/-- Declares a function. -/
def declareFunction (name : Name) (params : List FieldId) (stmts : List Stmt)
    (result : Option TypeRef) (frame : ObjectId) (isExported : Bool) : RoutineId × Draft :=
  let id := d.spec.routines.next
  let r : Routine :=
    { id, name := name.text, result, params, isExported
      code := { stmts, frame, context := d.context? }
      isIterator := false
      context := d.context? }
  (id, d.update (·.addRoutine r))

/-- Declares an iterator. -/
def declareIterator (name : Name) (params : List FieldId) (stmts : List Stmt)
    (frame : ObjectId) : RoutineId × Draft :=
  let id := d.spec.routines.next
  let r : Routine :=
    { id, name := name.text, params
      result := none
      code := { stmts, frame, context := none }
      isIterator := true
      isExported := false
      context := none }
  (id, d.update (·.addRoutine r))

/-- Declares another name of a type. -/
def declareAlias (name : Name) (type : TypeRef) : AliasId × Draft :=
  (d.spec.aliases.next, d.update (·.addAlias name.text name.loc d.home type))

end LangSpec.Draft
