/-!
# Handles

The parts of a specification live in tables and refer to each other by
position. A `Handle` is such a position, tagged with the table it points into:
a handle of a field cannot be mistaken for a handle of a scope.
-/

namespace LangSpec

/-- The tables of a specification. -/
inductive Table
  | namespaces
  | objects
  | scopes
  | fields
  | pools
  | regions
  | scanners
  | tokens
  | occurrences
  | regulars
  | regexes
  | marks
  | productions
  | nonterminals
  | patterns
  | constructors
  | feeds
  | routines
  | contexts
  | aliases
deriving DecidableEq

/-- A position in the table `t`. -/
structure Handle (t : Table) where
  /-- The position, counted from zero. -/
  index : Nat
deriving DecidableEq, Inhabited

namespace Handle

variable {t : Table}

theorem index_injective {h₁ h₂ : Handle t} (h : h₁.index = h₂.index) : h₁ = h₂ := by
  cases h₁
  cases h₂
  exact congrArg Handle.mk h

/-- A handle is written as its position. -/
def render (h : Handle t) : String := toString h.index

end Handle

abbrev NamespaceId := Handle .namespaces
abbrev ObjectId := Handle .objects
abbrev ScopeId := Handle .scopes
abbrev FieldId := Handle .fields
abbrev PoolId := Handle .pools
abbrev RegionId := Handle .regions
abbrev ScannerId := Handle .scanners
abbrev TokenId := Handle .tokens
/-- An occurrence is what a scanner reports: the position doubles as the number
    of the token on the wire. -/
abbrev OccurrenceId := Handle .occurrences
abbrev RegularId := Handle .regulars
abbrev RegexId := Handle .regexes
abbrev MarkId := Handle .marks
abbrev ProductionId := Handle .productions
abbrev NonterminalId := Handle .nonterminals
abbrev PatternId := Handle .patterns
abbrev ConstructorId := Handle .constructors
abbrev FeedId := Handle .feeds
abbrev RoutineId := Handle .routines
abbrev ContextId := Handle .contexts
abbrev AliasId := Handle .aliases

end LangSpec
