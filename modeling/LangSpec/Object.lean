import LangSpec.Code.TypeRef
import LangSpec.Dict

/-!
# Objects, scopes and fields

An object is what has fields: a type that trees or contexts have, or the frame
of the local variables of a piece of code. Its fields live in its scopes, which
form a tree under the root scope of the object. A name is looked up in one scope
only; a scope may reuse the names of the scopes around it.
-/

namespace LangSpec

/-- The two kinds of objects. -/
inductive ObjectKind
  /-- A type: of a nonterminal, a literal or a context, or the type of the
      global variables. -/
  | type
  /-- The frame of the local variables of a piece of code. -/
  | frame
deriving DecidableEq, Inhabited

/-- An object. -/
structure Object where
  /-- The handle of the object. -/
  id : ObjectId
  /-- A type or a frame. -/
  kind : ObjectKind
  /-- The name. -/
  name : String
  /-- The scope the others are within. -/
  rootScope : ScopeId
  /-- All scopes of the object, in the order of their opening. -/
  scopes : List ScopeId
deriving Inhabited

/-- A scope. -/
structure Scope where
  /-- The handle of the scope. -/
  id : ScopeId
  /-- The object the scope belongs to. -/
  owner : ObjectId
  /-- The enclosing scope; a root scope has none. -/
  parent : Option ScopeId
  /-- The scopes within, in the order of their opening. -/
  children : List ScopeId := []
  /-- The fields declared here, in the order of their declaration. -/
  fields : List FieldId := []
  /-- The fields declared here, by their names. -/
  members : Dict FieldId := .empty
deriving Inhabited

namespace Scope

/-- The field declared as `name` in this very scope. -/
def member? (c : Scope) (name : String) : Option FieldId := c.members.find? name

/-- The scope with the field `f` under `name`. If the name is taken, it leads to
    `f` from now on, but only the field it led to before is listed. -/
def insert (c : Scope) (name : String) (f : FieldId) : Scope :=
  { c with
    fields := if (c.member? name).isNone then c.fields ++ [f] else c.fields
    members := c.members.insert name f }

end Scope

/-- What a field is for. -/
inductive FieldKind
  /-- A local variable. -/
  | localVar
  /-- A global variable, or a field of a context. -/
  | userField
  /-- A field of a structure. -/
  | structField
  /-- A parameter passed by value. -/
  | paramVal
  /-- A parameter passed by reference. -/
  | paramRef
  /-- The text matched by a labelled part of a token. -/
  | matchedText
  /-- The value of an element of a production. -/
  | captured
  /-- A field that needs no declaration. -/
  | builtin
deriving DecidableEq, Inhabited

/-- An element of a production, by its position. -/
structure ElementRef where
  /-- The production. -/
  production : ProductionId
  /-- The position of the element, counted from zero. -/
  pos : Nat
deriving DecidableEq

/-- A field of an object. -/
structure Field where
  /-- The handle of the field. -/
  id : FieldId
  /-- The place of its declaration. -/
  loc : Location
  /-- The name. -/
  name : String
  /-- What it is for. -/
  kind : FieldKind
  /-- The type, if it is known yet. -/
  type : Option TypeRef
  /-- The context whose field it is. -/
  context : Option ContextId := none
  /-- It is a parameter of a function or an iterator. -/
  isParam : Bool := false
  /-- It is exported. -/
  isExported : Bool := false
  /-- Its value is that of a captured element. -/
  isCaptured : Bool := false
  /-- The elements it captures, at most one of them in any tree. -/
  sources : List ElementRef := []
deriving Inhabited

end LangSpec
