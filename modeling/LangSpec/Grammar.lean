import LangSpec.Code.Basic

/-!
# Grammars

A nonterminal has *alternatives*, each of them a production: a sequence of
elements, which name tokens and nonterminals or are literals. An element may be
captured; its value is then found under a field of the nonterminal's object.

Precedence statements rank tokens: the tokens of a later statement bind tighter.
-/

namespace LangSpec

/-- The two ways an element is written. -/
inductive ElementKind
  | reference
  | literal
deriving DecidableEq, Inhabited

/-- An element of a production, a pattern or a constructor. -/
structure Element where
  /-- The place. -/
  loc : Location
  /-- A name or a literal. -/
  kind : ElementKind
  /-- The type the element names. -/
  type : TypeRef
  /-- The field its value is captured in. -/
  capture : Option FieldId := none
  /-- Once the element is parsed, no other alternative is tried. -/
  commit : Bool := false
  /-- The position among the elements of the production. -/
  pos : Nat := 0
  /-- The production it is part of. -/
  production : Option ProductionId := none
deriving Inhabited

/-- What a production without a nonterminal of its own is a predicate of. -/
inductive PredicateOf
  | token (token : TokenId)
  | nonterminal (nonterminal : NonterminalId)
deriving DecidableEq

/-- A production. -/
structure Production where
  /-- The handle of the production. -/
  id : ProductionId
  /-- The place. -/
  loc : Location
  /-- The name, if it has one. -/
  name : Option String
  /-- The elements, from left to right. -/
  elements : List Element
  /-- Once the production is parsed, no other alternative is tried. -/
  commit : Bool
  /-- The code run when the production is reduced. -/
  action : Option Code
  /-- The position among the alternatives of the nonterminal. -/
  number : Nat
  /-- What it is a predicate of. -/
  predicateOf : Option PredicateOf
  /-- The nonterminal it is an alternative of. -/
  owner : Option NonterminalId := none
deriving Inhabited

/-- A nonterminal. -/
structure Nonterminal where
  /-- The handle of the nonterminal. -/
  id : NonterminalId
  /-- The place of its declaration. -/
  loc : Location
  /-- The name. -/
  name : String
  /-- The namespace of the declaration. -/
  home : NamespaceId
  /-- The innermost context open at the declaration. -/
  context : Option ContextId
  /-- In doubt the parser reduces before it shifts. -/
  reduceFirst : Bool
  /-- The object whose fields the captured elements are. -/
  object : ObjectId
  /-- The alternatives, in the order they are tried. -/
  alternatives : List ProductionId
deriving Inhabited

/-- How tokens of equal rank group. -/
inductive Associativity
  | left
  | right
  | none
deriving DecidableEq

/-- A token and its rank: tokens of higher rank bind tighter. -/
structure Ranked where
  /-- The token. -/
  type : TypeRef
  /-- The rank. -/
  rank : Nat

/-- A ranked token with its grouping. -/
structure Precedence where
  /-- The token and its rank. -/
  ranked : Ranked
  /-- How it groups. -/
  associativity : Associativity

end LangSpec
