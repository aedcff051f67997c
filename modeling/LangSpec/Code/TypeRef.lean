import LangSpec.Handle
import LangSpec.Location

/-!
# References to variables and types

Code refers to variables and types by name. The names are not resolved while
the specification is written: a reference records what was written and where,
with the namespace, context and scope it was written in, from which a later
pass can look it up.
-/

namespace LangSpec

/-- A variable, named in a context and a scope. -/
structure VarRef where
  /-- The name. -/
  name : String
  /-- The innermost context open at the place of the reference. -/
  context : Option ContextId
  /-- The scope current there. -/
  scope : ScopeId
  /-- The place. -/
  loc : Location
deriving DecidableEq

/-- The path in front of a name, as in `outer::inner::name`. -/
structure Qualifier where
  /-- The namespaces of the path, outermost first. -/
  path : List String
  /-- The namespace the path was written in. -/
  writtenIn : NamespaceId
  /-- The place. -/
  loc : Location
deriving DecidableEq

/-- How often an element may be repeated. -/
inductive Multiplicity
  /-- Once. -/
  | bare
  /-- Any number of times, `*`. -/
  | star
  /-- At least once, `+`. -/
  | plus
  /-- Once or not at all, `?`. -/
  | optional
  /-- Any number of times, collected to the left, `<*`. -/
  | leftStar
  /-- At least once, collected to the left, `<+`. -/
  | leftPlus
deriving DecidableEq

/-- What every reference to a type carries beside the type itself. -/
structure TypeAttrs where
  /-- The place of the reference. -/
  loc : Location
  /-- The path in front of the type. -/
  qualifier : Option Qualifier := none
  /-- How often the type may be repeated. -/
  multiplicity : Multiplicity := .bare
  /-- The variable the matched text goes to, written `variable: type`. -/
  binder : Option VarRef := none
deriving DecidableEq

/-- A reference to a type. -/
inductive TypeRef
  /-- A type by its name. -/
  | named (attrs : TypeAttrs) (name : String)
  /-- A literal as a type: the token it stands for. -/
  | literal (attrs : TypeAttrs) (raw : String)
  /-- Lists of a type. -/
  | list (attrs : TypeAttrs) (elem : TypeRef)
  /-- Parsers of a type. -/
  | parser (attrs : TypeAttrs) (parsed : TypeRef)
  /-- A literal written where a value of the type `owner` is constructed. -/
  | within (attrs : TypeAttrs) (owner : TypeRef) (raw : String)
deriving DecidableEq

namespace TypeRef

instance : Inhabited TypeRef := ⟨named ⟨.origin, none, .bare, none⟩ ""⟩

/-- What the reference carries beside the type. -/
def attrs : TypeRef → TypeAttrs
  | named attrs _ => attrs
  | literal attrs _ => attrs
  | list attrs _ => attrs
  | parser attrs _ => attrs
  | within attrs _ _ => attrs

/-- The reference with other attributes. -/
def withAttrs (new : TypeAttrs) : TypeRef → TypeRef
  | named _ name => named new name
  | literal _ raw => literal new raw
  | list _ elem => list new elem
  | parser _ parsed => parser new parsed
  | within _ owner raw => within new owner raw

/-- The place of the reference. -/
def loc (t : TypeRef) : Location := t.attrs.loc

/-- The reference with a path in front, or with none. -/
def qualified (t : TypeRef) (q : Option Qualifier) : TypeRef :=
  t.withAttrs { t.attrs with qualifier := q }

/-- The reference with a multiplicity. -/
def repeated (t : TypeRef) (m : Multiplicity) : TypeRef :=
  t.withAttrs { t.attrs with multiplicity := m }

/-- The name or the literal the reference is about, under lists and parsers. -/
def text : TypeRef → String
  | named _ name => name
  | literal _ raw => raw
  | list _ elem => elem.text
  | parser _ parsed => parsed.text
  | within _ _ raw => raw

end TypeRef

end LangSpec
