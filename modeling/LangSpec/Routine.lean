import LangSpec.Code.Basic

/-!
# Routines, contexts and aliases

A *routine* is a function or an iterator. A *context* holds the variables a
parser carries along; it comes with a namespace of its name and an object whose
fields they are. An *alias* is another name of a type.
-/

namespace LangSpec

/-- A function or an iterator. -/
structure Routine where
  /-- The handle of the routine. -/
  id : RoutineId
  /-- The name. -/
  name : String
  /-- The type of the result, if there is one. -/
  result : Option TypeRef
  /-- The parameters. -/
  params : List FieldId
  /-- The code. -/
  code : Code
  /-- It is an iterator. -/
  isIterator : Bool
  /-- It can be called from outside. -/
  isExported : Bool
  /-- The context it belongs to. -/
  context : Option ContextId
deriving Inhabited

/-- A context. -/
structure Context where
  /-- The handle of the context. -/
  id : ContextId
  /-- The place of its declaration. -/
  loc : Location
  /-- The namespace of its declarations. -/
  home : NamespaceId
  /-- The object whose fields its variables are. -/
  object : ObjectId
deriving Inhabited

/-- Another name of a type. -/
structure Alias where
  /-- The handle of the alias. -/
  id : AliasId
  /-- The place of its declaration. -/
  loc : Location
  /-- The namespace of its declaration. -/
  home : NamespaceId
  /-- The name. -/
  name : String
  /-- The type it names. -/
  type : TypeRef
deriving Inhabited

end LangSpec
