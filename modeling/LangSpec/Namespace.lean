import LangSpec.Dict
import LangSpec.Handle
import LangSpec.Location

/-!
# Namespaces

Declarations are made in namespaces, which form a tree under the root.
A namespace lists what is declared in it, in the order of declaration, and has
two dictionaries: of the literals, by the text they stand for, and of the named
regular definitions.
-/

namespace LangSpec

/-- A named regular definition, as a namespace knows it. -/
structure RegularEntry where
  /-- The definition. -/
  target : RegularId
  /-- A *sealed* definition can be looked up, but not used in an expression. -/
  isSealed : Bool
  /-- The place it was declared at. -/
  loc : Location
deriving DecidableEq

/-- A context, as a namespace knows it. -/
structure ContextEntry where
  /-- The name of the context. -/
  name : String
  /-- The context. -/
  context : ContextId
deriving DecidableEq

/-- A namespace. -/
structure Namespace where
  /-- The handle of the namespace. -/
  id : NamespaceId
  /-- The place it was first opened at. -/
  loc : Location
  /-- The name within the parent. -/
  name : String
  /-- The enclosing namespace; the root has none. -/
  parent : Option NamespaceId
  /-- The namespaces within, in the order of their first opening. -/
  children : List NamespaceId := []
  /-- The tokens declared here. -/
  tokens : List TokenId := []
  /-- The nonterminals declared here. -/
  nonterminals : List NonterminalId := []
  /-- The type aliases declared here. -/
  aliases : List AliasId := []
  /-- The contexts whose namespace this is. -/
  contexts : List ContextEntry := []
  /-- The types that need no declaration. -/
  baseTypes : List String := []
  /-- The literals declared here: the text each stands for, and the primary
      occurrence of its token. -/
  literals : Dict OccurrenceId := .empty
  /-- The regular definitions declared here. -/
  regulars : Dict RegularEntry := .empty
deriving Inhabited

namespace Namespace

/-- The name of the root. No specification can write it. -/
def rootName : String := "___ROOT_NAMESPACE"

/-- The namespace has no parent. -/
def isRoot (n : Namespace) : Bool := n.parent.isNone

/-- The literal standing for `text`. -/
def literal? (n : Namespace) (text : String) : Option OccurrenceId := n.literals.find? text

/-- The regular definition named `name`. -/
def regular? (n : Namespace) (name : String) : Option RegularEntry := n.regulars.find? name

end Namespace

end LangSpec
