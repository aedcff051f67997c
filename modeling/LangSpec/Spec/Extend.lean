import LangSpec.Spec.Basic

/-!
# Extending a specification

Each operation here adds one thing to a specification, at the end of its table,
and lists it with the things it belongs to. The new thing is found under the
handle that was next in its table before.

* `addToken`: a token is listed with its scanner and its namespace;
* `addOccurrences`: a token occurs twice, first in the mixed region of its
  scanner, then in the one for its sort;
* `addNonterminal`: a nonterminal takes over its alternatives and turns what
  they capture into fields of its object.
-/

namespace LangSpec.Spec

variable (s : Spec)

/-! ## Namespaces, objects, scopes and fields -/

/-- A new namespace named `name` within `parent`. -/
def addNamespace (loc : Location) (name : String) (parent : NamespaceId) : Spec :=
  let id := s.namespaces.next
  { s with
    namespaces := (s.namespaces.push { id, loc, name, parent := some parent }).modify parent
      fun n => { n with children := n.children ++ [id] } }

/-- A new object with its root scope. -/
def addObject (kind : ObjectKind) (name : String) : Spec :=
  let id := s.objects.next
  let rootScope := s.scopes.next
  { s with
    objects := s.objects.push { id, kind, name, rootScope, scopes := [rootScope] }
    scopes := s.scopes.push { id := rootScope, owner := id, parent := none } }

/-- A new scope within `parent`, belonging to the same object. -/
def addScope (parent : ScopeId) : Spec :=
  let id := s.scopes.next
  let owner := (s.scopes.get parent).owner
  { s with
    scopes := (s.scopes.push { id, owner, parent := some parent }).modify parent
      fun c => { c with children := c.children ++ [id] }
    objects := s.objects.modify owner fun o => { o with scopes := o.scopes ++ [id] } }

/-- A new field, in no scope yet. -/
def addField (name : String) (loc : Location) (kind : FieldKind) (type : Option TypeRef) : Spec :=
  { s with fields := s.fields.push { id := s.fields.next, loc, name, kind, type } }

/-- The field `f` changed. -/
def modifyField (f : FieldId) (change : Field → Field) : Spec :=
  { s with fields := s.fields.modify f change }

/-- The field `f` put into a scope, under its name. -/
def bindField (scope : ScopeId) (f : FieldId) : Spec :=
  let name := (s.fields.get f).name
  { s with scopes := s.scopes.modify scope fun c => c.insert name f }

/-! ## Scanners and tokens -/

/-- A new scanner without tokens: its three pools and its four regions, the
    collecting region sharing the pool of the ignored tokens. -/
def addScanner (loc : Location) : Spec :=
  let pool (i : Nat) : PoolId := ⟨s.pools.size + i⟩
  let region (i : Nat) : RegionId := ⟨s.regions.size + i⟩
  let pools := ((s.pools.push {}).push {}).push {}
  let regions := s.regions.push { id := region 0, loc, pool := pool 0 }
  let regions := regions.push { id := region 1, loc, pool := pool 1 }
  let regions := regions.push { id := region 2, loc, pool := pool 2 }
  let regions := regions.push
    { id := region 3, loc, pool := pool 2, collectsFor := some (region 2) }
  let scanner : Scanner :=
    { id := s.scanners.next
      mixedPool := pool 0, tokenPool := pool 1, ignorePool := pool 2
      mixed := region 0, tokenOnly := region 1, ignoreOnly := region 2, collect := region 3 }
  { s with pools, regions, scanners := s.scanners.push scanner }

/-- A new token, listed with its scanner and its namespace. Its handle is
    filled in, and it does not occur yet. -/
def addToken (t : Token) : Spec :=
  let id := s.tokens.next
  { s with
    tokens := s.tokens.push { t with id, occurrences := [] }
    scanners := s.scanners.modify t.scanner fun c => { c with tokens := c.tokens ++ [id] }
    namespaces := s.namespaces.modify t.home fun n => { n with tokens := n.tokens ++ [id] } }

/-- A new occurrence of a token, put into the pool of a region. -/
def addOccurrence (token : TokenId) (region : RegionId) (copyOf : Option OccurrenceId) : Spec :=
  let id := s.occurrences.next
  let t := s.tokens.get token
  let pool := (s.regions.get region).pool
  { s with
    occurrences := s.occurrences.push
      { id, loc := t.loc, token, regex := t.regex, home := t.home, region, copyOf }
    pools := s.pools.modify pool fun p => { p with occurrences := p.occurrences ++ [id] }
    tokens := s.tokens.modify token fun t => { t with occurrences := t.occurrences ++ [id] } }

/-- The two occurrences of a token: the primary one in the mixed region of its
    scanner, and its duplicate among the ignored tokens or the others. -/
def addOccurrences (token : TokenId) : Spec :=
  let t := s.tokens.get token
  let c := s.scanners.get t.scanner
  let primary := s.occurrences.next
  (s.addOccurrence token c.mixed none).addOccurrence token
    (if t.ignored then c.ignoreOnly else c.tokenOnly) (some primary)

/-- A literal of the namespace `home`: the text it stands for, and the primary
    occurrence of its token. -/
def addLiteral (home : NamespaceId) (text : String) (primary : OccurrenceId) : Spec :=
  { s with
    namespaces := s.namespaces.modify home
      fun n => { n with literals := n.literals.insert text primary } }

/-- A new regular expression. -/
def addRegex (r : Regex) : Spec := { s with regexes := s.regexes.push r }

/-- A new match mark, with the next number of a mark. -/
def addMark : Spec :=
  { s with
    marks := s.marks.push { id := s.marks.next, number := s.nextMark.toNat }
    nextMark := s.nextMark + 1 }

/-- A new regular definition of the namespace `home`. -/
def addRegular (home : NamespaceId) (name : String) (loc : Location) (regex : RegexId)
    (isSealed : Bool) : Spec :=
  let target := s.regulars.next
  { s with
    regulars := s.regulars.push { id := target, name, regex }
    namespaces := s.namespaces.modify home
      fun n => { n with regulars := n.regulars.insert name { target, isSealed, loc } } }

/-- The code run at the end of the input in a region. -/
def setAtEnd (region : RegionId) (code : Code) : Spec :=
  { s with regions := s.regions.modify region fun r => { r with atEnd := some code } }

/-! ## Productions and nonterminals -/

/-- A new production. Its handle is filled in and its elements are linked to
    it. Until it is an alternative of a nonterminal, its number is its position
    among all productions. -/
def addProduction (p : Production) : Spec :=
  let id := s.productions.next
  let elements := p.elements.map fun e => { e with production := some id }
  { s with
    productions := s.productions.push { p with id, elements, number := id.index, owner := none } }

/-- The production `p` changed. -/
def modifyProduction (p : ProductionId) (change : Production → Production) : Spec :=
  { s with productions := s.productions.modify p change }

/-- The captured elements of a production, from left to right, each with the
    field that stands for it so far. -/
def capturesOf (p : ProductionId) : List (ElementRef × FieldId) :=
  (s.productions.get p).elements.filterMap fun e => e.capture.map fun f => (⟨p, e.pos⟩, f)

/-- The element at `r`. -/
def elementAt (r : ElementRef) : Element :=
  (s.productions.get r.production).elements[r.pos]?.getD default

/-- The element at `r` captured in the field `f`. -/
def setCapture (r : ElementRef) (f : FieldId) : Spec :=
  s.modifyProduction r.production fun p =>
    { p with elements := p.elements.modify r.pos fun e => { e with capture := some f } }

/-- The field `f` takes the value of the element at `r`. -/
def addSource (r : ElementRef) (f : FieldId) : Spec :=
  s.modifyField f fun x => { x with isCaptured := true, sources := x.sources ++ [r] }

/-- An element captured in the field that `scope` has under the name of `f`. If
    it has none yet, `f` becomes that field, with the type of the element. -/
def bindCapture (scope : ScopeId) (r : ElementRef) (f : FieldId) : Spec :=
  match (s.scopes.get scope).member? (s.fields.get f).name with
  | some g => (s.setCapture r g).addSource r g
  | none =>
    let typed := s.modifyField f fun x => { x with type := some (s.elementAt r).type }
    ((typed.bindField scope f).setCapture r f).addSource r f

/-- The productions `ps` made alternatives of the nonterminal `n`. -/
def linkAlternatives (ps : List ProductionId) (n : NonterminalId) : Spec :=
  ps.foldl (fun s p => s.modifyProduction p fun x => { x with owner := some n }) s

/-- The captured elements of the productions `ps`, in order, bound to fields in
    `scope`. -/
def bindCaptures (scope : ScopeId) (ps : List ProductionId) : Spec :=
  (ps.flatMap s.capturesOf).foldl (fun s c => s.bindCapture scope c.1 c.2) s

/-- A new nonterminal, listed with its namespace. Its handle is filled in, its
    alternatives are linked to it, and what they capture becomes fields of its
    object. -/
def addNonterminal (n : Nonterminal) : Spec :=
  let id := s.nonterminals.next
  let s := s.linkAlternatives n.alternatives id
  let s := s.bindCaptures (s.objects.get n.object).rootScope n.alternatives
  { s with
    nonterminals := s.nonterminals.push { n with id }
    namespaces := s.namespaces.modify n.home
      fun m => { m with nonterminals := m.nonterminals ++ [id] } }

/-! ## Templates, routines, contexts and aliases -/

/-- A new pattern, with the next number of a template. -/
def addPattern (loc : Location) (home : NamespaceId) (items : List PatternItem) : Spec :=
  { s with
    patterns := s.patterns.push
      { id := s.patterns.next, loc, home, items, number := s.nextTemplate.toNat }
    nextTemplate := s.nextTemplate + 1 }

/-- A new constructor, with the next number of a template. -/
def addConstructor (loc : Location) (home : NamespaceId) (items : List SupplyItem) : Spec :=
  { s with
    constructors := s.constructors.push
      { id := s.constructors.next, loc, home, items, number := s.nextTemplate.toNat }
    nextTemplate := s.nextTemplate + 1 }

/-- A new feed. -/
def addFeed (loc : Location) (home : NamespaceId) (items : List SupplyItem) : Spec :=
  { s with feeds := s.feeds.push { id := s.feeds.next, loc, home, items } }

/-- A new routine. Its handle is filled in. -/
def addRoutine (r : Routine) : Spec :=
  { s with routines := s.routines.push { r with id := s.routines.next } }

/-- A new context named `name`, listed with its namespace. -/
def addContext (name : String) (loc : Location) (home : NamespaceId) (object : ObjectId) : Spec :=
  let id := s.contexts.next
  { s with
    contexts := s.contexts.push { id, loc, home, object }
    namespaces := s.namespaces.modify home
      fun n => { n with contexts := n.contexts ++ [{ name, context := id }] } }

/-- A new alias, listed with its namespace. -/
def addAlias (name : String) (loc : Location) (home : NamespaceId) (type : TypeRef) : Spec :=
  let id := s.aliases.next
  { s with
    aliases := s.aliases.push { id, loc, home, name, type }
    namespaces := s.namespaces.modify home fun n => { n with aliases := n.aliases ++ [id] } }

end LangSpec.Spec
