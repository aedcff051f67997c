import LangSpec.Draft.Basic
import LangSpec.Literal

/-!
# Declaring the grammar

Productions are made from lists of elements, nonterminals from lists of
productions. Appending to such a list numbers what is appended by its place.
-/

namespace LangSpec

namespace Element

/-- An element naming a token or a nonterminal. -/
def ofName (name : Name) (qualifier : Option Qualifier) (capture : Option FieldId)
    (multiplicity : Multiplicity) (commit : Bool) : Element :=
  { loc := name.loc, kind := .reference, capture, commit
    type := .named { loc := name.loc, qualifier, multiplicity } name.text }

/-- An element that is a literal. -/
def ofLiteral (l : Literal) (qualifier : Option Qualifier) (capture : Option FieldId)
    (multiplicity : Multiplicity) (commit : Bool) : Element :=
  { loc := l.loc, kind := .literal, capture, commit
    type := .literal { loc := l.loc, qualifier, multiplicity } l.raw }

/-- The elements with `e` after them, in its position. -/
def append (es : List Element) (e : Element) : List Element := es ++ [{ e with pos := es.length }]

end Element

namespace Draft

variable (d : Draft)

/-- A new production, not yet an alternative of any nonterminal. -/
def newProduction (elements : List Element) (action : Option Code)
    (predicateOf : Option PredicateOf) (name : Option Name) (commit : Bool) (loc : Location) :
    ProductionId × Draft :=
  let id := d.spec.productions.next
  let p : Production :=
    { id, loc, elements, commit, action, predicateOf
      name := name.map (·.text)
      number := id.index }
  (id, d.update (·.addProduction p))

/-- The alternatives with the production `p` after them, numbered by its
    place. -/
def appendAlternative (ps : List ProductionId) (p : ProductionId) : List ProductionId × Draft :=
  (ps ++ [p], d.update (·.modifyProduction p fun x => { x with number := ps.length }))

/-- Declares a nonterminal. What its alternatives capture becomes fields of the
    object, one for each name. -/
def declareNonterminal (name : Name) (object : ObjectId) (alternatives : List ProductionId)
    (reduceFirst : Bool) : NonterminalId × Draft :=
  let id := d.spec.nonterminals.next
  let n : Nonterminal :=
    { id, loc := name.loc, name := name.text, reduceFirst, object, alternatives
      home := d.home
      context := d.context? }
  (id, d.update (·.addNonterminal n))

/-- A token named in a precedence statement. -/
def rankName (name : Name) (qualifier : Option Qualifier) : Ranked :=
  { type := .named { loc := name.loc, qualifier } name.text, rank := d.rank.toNat }

/-- A literal in a precedence statement. -/
def rankLiteral (l : Literal) (qualifier : Option Qualifier) : Ranked :=
  { type := .literal { loc := l.loc, qualifier } l.raw, rank := d.rank.toNat }

/-- A precedence statement. The tokens of the next one bind tighter, until the
    ranks run out and start again from zero. -/
def declarePrecedence (tokens : List Ranked) (associativity : Associativity) : Draft :=
  let new := tokens.map fun ranked => { ranked, associativity : Precedence }
  { d.update fun s => { s with precedences := s.precedences ++ new } with rank := d.rank + 1 }

end Draft

end LangSpec
