import LangSpec.Spec.Basic

/-!
# Lookups

Names are looked up in one namespace or one scope, except for those of regular
definitions, which are looked up from a namespace outward to the root.

* `Spec.outward`: a namespace and those around it, innermost first;
* `Spec.regular?`: the innermost regular definition of a name;
* `Spec.path`: the names of the namespaces around a thing, outermost first.
-/

namespace LangSpec.Spec

variable (s : Spec)

/-- The first `fuel` namespaces on the way from `n` outward. -/
def climb : (fuel : Nat) → (n : NamespaceId) → List NamespaceId
  | 0, _ => []
  | fuel + 1, n =>
    n :: match (s.namespaces.get n).parent with
      | some p => climb fuel p
      | none => []

/-- The namespace `n` and those around it, innermost first. A way longer than
    the number of namespaces goes in circles and is cut there. -/
def outward (n : NamespaceId) : List NamespaceId := s.climb s.namespaces.size n

/-- The innermost namespace from `n` outward that has a regular definition of
    this name, and the definition. -/
def regular? (n : NamespaceId) (name : String) : Option (NamespaceId × RegularEntry) :=
  (s.outward n).findSome? fun m => ((s.namespaces.get m).regular? name).map (m, ·)

/-- The names of the namespaces from below the root down to `n`. -/
def path (n : NamespaceId) : List String :=
  ((s.outward n).map s.namespaces.get).reverse.filterMap fun m =>
    if m.isRoot then none else some m.name

/-- The path of a namespace as it is written; that of the root is empty. -/
def renderPath (n : NamespaceId) : String := "::".intercalate (s.path n)

/-- The namespace named `name` within `n`. -/
def child? (n : NamespaceId) (name : String) : Option NamespaceId :=
  (s.namespaces.get n).children.find? fun c => (s.namespaces.get c).name == name

/-- The first token named `name` declared in the namespace `n`. -/
def token? (n : NamespaceId) (name : String) : Option Token :=
  ((s.namespaces.get n).tokens.map s.tokens.get).find? fun t => t.name == name

/-- The first nonterminal named `name` declared in the namespace `n`. -/
def nonterminal? (n : NamespaceId) (name : String) : Option Nonterminal :=
  ((s.namespaces.get n).nonterminals.map s.nonterminals.get).find? fun t => t.name == name

/-- The field declared as `name` in a scope, and in no other. -/
def scopeField? (scope : ScopeId) (name : String) : Option Field :=
  ((s.scopes.get scope).member? name).map s.fields.get

/-- The field declared as `name` in the root scope of an object. -/
def objectField? (object : ObjectId) (name : String) : Option Field :=
  s.scopeField? (s.objects.get object).rootScope name

/-- The token occurrences a region looks for. -/
def regionTokens (r : RegionId) : List OccurrenceId :=
  (s.pools.get (s.regions.get r).pool).occurrences

/-- The first `fuel` occurrences on the way from `o` back to what it was copied
    from. -/
def retrace : (fuel : Nat) → (o : OccurrenceId) → List OccurrenceId
  | 0, _ => []
  | fuel + 1, o =>
    o :: match (s.occurrences.get o).copyOf with
      | some p => retrace fuel p
      | none => []

/-- The occurrence that `o` was copied from in the end, `o` itself if it is a
    primary one. -/
def primary (o : OccurrenceId) : OccurrenceId :=
  (s.retrace s.occurrences.size o).getLast?.getD o

end LangSpec.Spec
