import LangSpec.Diagnostic
import LangSpec.Spec.Lookup

/-!
# Valid specifications

A finished specification is checked as a whole before it is used. The checks go
through the tables one after another and report every *violation* they find:

* every entry carries its own handle;
* the namespaces form a tree, siblings having different names;
* the regions of a scanner use the pools of their roles;
* a duplicate is copied from the primary occurrence of its own token, of which
  every token but a sentinel has one;
* a literal leads to the token declared by it;
* the elements of a production and the alternatives of a nonterminal are
  numbered in order and linked to it.
-/

namespace LangSpec

/-- What may be wrong in a specification. -/
inductive Flaw
  /-- An entry carries a handle that is not its own. -/
  | misplacedId (what : String) (slot id : Nat)
  /-- The root has a parent, or another namespace has none. -/
  | misplacedRoot (name : String)
  /-- A namespace is listed within one that is not its parent. -/
  | unlinkedChild (name : String)
  /-- Two namespaces within the same one have the same name. -/
  | repeatedChild (name : String)
  /-- The collecting region does not go with that of the ignored tokens. -/
  | untiedCollector (scanner : ScannerId)
  /-- A region uses the pool of another role. -/
  | wrongPool (region : RegionId)
  /-- A duplicate is copied from a duplicate. -/
  | copyOfCopy (occurrence : OccurrenceId)
  /-- A duplicate is copied from an occurrence of another token. -/
  | copyOfOther (occurrence : OccurrenceId)
  /-- The number of primary occurrences is not one, or not zero for a sentinel. -/
  | primaryCount (token : String) (count : Nat)
  /-- A literal leads to a token not declared by a literal in this namespace, or
      to a duplicate. -/
  | strayLiteral (text : String)
  /-- The element in place `slot` has another position. -/
  | misnumberedElement (slot pos : Nat)
  /-- An element is not linked to its production. -/
  | unlinkedElement
  /-- An alternative is not linked to its nonterminal. -/
  | unlinkedAlternative (nonterminal : String)
  /-- The alternative in place `slot` has another number. -/
  | misnumberedAlternative (slot : Nat) (nonterminal : String) (number : Nat)
deriving DecidableEq

namespace Flaw

/-- The flaw in words. -/
def message : Flaw → String
  | misplacedId what slot id => what ++ " at slot " ++ toString slot ++ " carries id " ++ toString id
  | misplacedRoot name => "namespace " ++ name ++ " has a misplaced root"
  | unlinkedChild name => "namespace " ++ name ++ " is not linked to its parent"
  | repeatedChild name => "namespace " ++ name ++ " declared twice under the same parent"
  | untiedCollector c => "collect-ignore region of region set " ++ c.render ++
      " is not tied to its ignore-only region"
  | wrongPool r => "region " ++ r.render ++ " uses the wrong implementation"
  | copyOfCopy o => "token instance " ++ o.render ++ " duplicates another duplicate"
  | copyOfOther o => "token instance " ++ o.render ++ " duplicates an instance of another token"
  | primaryCount token n => "token " ++ token ++ " has " ++ toString n ++ " canonical instances"
  | strayLiteral text => "literal " ++ Text.quote .message text ++ " maps to the wrong token"
  | misnumberedElement slot pos =>
      "element " ++ toString slot ++ " of a production has position " ++ toString pos
  | unlinkedElement => "production element is not linked to its production"
  | unlinkedAlternative name => "alternative of " ++ name ++ " is not linked to it"
  | misnumberedAlternative slot name number =>
      "alternative " ++ toString slot ++ " of " ++ name ++ " is numbered " ++ toString number

end Flaw

/-- A flaw and the place it shows at. -/
structure Violation where
  /-- The place. -/
  loc : Location
  /-- The flaw. -/
  flaw : Flaw
deriving DecidableEq

namespace Violation

/-- The violation as a failure. -/
def toFailure (v : Violation) : Failure := ⟨v.loc, v.flaw.message⟩

/-- The violation of a check that is not passed. -/
def ensure (ok : Bool) (loc : Location) (flaw : Flaw) : List Violation :=
  if ok then [] else [⟨loc, flaw⟩]

end Violation

namespace Spec

open Violation

variable (s : Spec)

/-- Every entry of an arena carries the handle it is found under. -/
def checkIds {t : Table} {α : Type} (what : String) (a : Arena t α) (id : α → Handle t) :
    List Violation :=
  a.toList.zipIdx.flatMap fun (x, i) =>
    ensure ((id x).index == i) .origin (.misplacedId what i (id x).index)

/-- Every entry carries its own handle. -/
def checkAllIds : List Violation :=
  checkIds "namespace" s.namespaces (·.id) ++
  checkIds "object" s.objects (·.id) ++
  checkIds "scope" s.scopes (·.id) ++
  checkIds "field" s.fields (·.id) ++
  checkIds "region" s.regions (·.id) ++
  checkIds "region set" s.scanners (·.id) ++
  checkIds "token" s.tokens (·.id) ++
  checkIds "token instance" s.occurrences (·.id) ++
  checkIds "production" s.productions (·.id) ++
  checkIds "nonterminal" s.nonterminals (·.id) ++
  checkIds "pattern" s.patterns (·.id) ++
  checkIds "constructor" s.constructors (·.id) ++
  checkIds "function" s.routines (·.id) ++
  checkIds "context" s.contexts (·.id)

/-- The namespaces within `n` are linked to it and have different names. The
    names in `seen` are taken by those already checked. -/
def checkChildren (n : NamespaceId) : (seen : List String) → List Namespace → List Violation
  | _, [] => []
  | seen, c :: cs =>
    ensure (c.parent == some n) c.loc (.unlinkedChild c.name) ++
    ensure (!seen.contains c.name) c.loc (.repeatedChild c.name) ++
    checkChildren n (c.name :: seen) cs

/-- The first namespace, and no other, is the root, and the namespaces within
    `n` are as they should be. -/
def checkNamespace (n : Namespace) : List Violation :=
  ensure (n.isRoot == (n.id == root)) n.loc (.misplacedRoot n.name) ++
  checkChildren n.id [] (n.children.map s.namespaces.get)

/-- The region playing a part in a scanner uses the pool for that part. -/
def checkRegion (c : Scanner) (role : Role) : List Violation :=
  let r := s.regions.get (c.region role)
  ensure (r.pool == c.poolFor role) r.loc (.wrongPool r.id)

/-- The collecting region goes with that of the ignored tokens, and the other
    regions use the pools for their parts. -/
def checkScanner (c : Scanner) : List Violation :=
  let collect := s.regions.get c.collect
  let ignoreOnly := s.regions.get c.ignoreOnly
  ensure (collect.pool == ignoreOnly.pool && collect.collectsFor == some c.ignoreOnly)
    collect.loc (.untiedCollector c.id) ++
  [.mixed, .tokenOnly, .ignoreOnly].flatMap (s.checkRegion c)

/-- A duplicate is copied from a primary occurrence of its own token. -/
def checkOccurrence (o : Occurrence) : List Violation :=
  match o.copyOf with
  | none => []
  | some p =>
    let source := s.occurrences.get p
    ensure (!source.isDuplicate) o.loc (.copyOfCopy o.id) ++
    ensure (source.token == o.token) o.loc (.copyOfOther o.id)

/-- A token has one primary occurrence, a sentinel none. -/
def checkToken (t : Token) : List Violation :=
  let primaries := t.occurrences.countP fun o => !(s.occurrences.get o).isDuplicate
  ensure (primaries == if t.sentinel then 0 else 1) t.loc (.primaryCount t.name primaries)

/-- The literals of a namespace lead to primary occurrences of tokens declared
    in it by literals. -/
def checkLiterals (n : Namespace) : List Violation :=
  n.literals.entries.flatMap fun (text, i) =>
    let o := s.occurrences.get i
    let t := s.tokens.get o.token
    ensure (!o.isDuplicate && t.isLiteral && t.home == n.id) o.loc (.strayLiteral text)

/-- The elements of a production are numbered in order and linked to it. -/
def checkProduction (p : Production) : List Violation :=
  p.elements.zipIdx.flatMap fun (e, i) =>
    ensure (e.pos == i) e.loc (.misnumberedElement i e.pos) ++
    ensure (e.production == some p.id) e.loc .unlinkedElement

/-- The alternatives of a nonterminal are linked to it and numbered in order. -/
def checkNonterminal (n : Nonterminal) : List Violation :=
  n.alternatives.zipIdx.flatMap fun (i, slot) =>
    let p := s.productions.get i
    ensure (p.owner == some n.id) p.loc (.unlinkedAlternative n.name) ++
    ensure (p.number == slot) p.loc (.misnumberedAlternative slot n.name p.number)

/-- All violations of a specification. -/
def violations : List Violation :=
  s.checkAllIds ++
  s.namespaces.toList.flatMap s.checkNamespace ++
  s.scanners.toList.flatMap s.checkScanner ++
  s.occurrences.toList.flatMap s.checkOccurrence ++
  s.tokens.toList.flatMap s.checkToken ++
  s.namespaces.toList.flatMap s.checkLiterals ++
  s.productions.toList.flatMap checkProduction ++
  s.nonterminals.toList.flatMap s.checkNonterminal

/-- No check finds a violation. -/
def Valid : Prop := s.violations = []

instance : Decidable s.Valid := inferInstanceAs (Decidable (s.violations = []))

end Spec

end LangSpec
