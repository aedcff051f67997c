import LangSpec.Draft.Regex
import LangSpec.Text.Hex

/-!
# Declaring tokens

A token is declared with a regular expression, by a literal or as a sentinel,
and belongs to the innermost open scanner. A token or literal declared outside
scanners gets a scanner of its own, which nothing else is ever put into.

* A token with a regular expression is a named regular definition, too.
* Within a namespace a literal is declared once, however it is written: what
  counts is the text it stands for.
* Within a namespace a regular definition is declared once; the first one stays.
-/

namespace LangSpec

/-- The declaration of a token. -/
structure TokenDecl where
  /-- The place. -/
  loc : Location
  /-- The name. An ignored token needs none. -/
  name : Option Name
  /-- What the token looks like. A token declared in advance has none. -/
  regex : Option Regex
  /-- The type of the token's fields. -/
  object : Option ObjectId := none
  /-- The code run when the token is found. -/
  action : Option Code := none
  /-- The token is skipped between the others. -/
  ignored : Bool := false
  /-- No ignored token may stand before it. -/
  joinsBefore : Bool := false
  /-- No ignored token may stand after it. -/
  joinsAfter : Bool := false

namespace TokenDecl

/-- A token, declared where its name stands. -/
def named (name : Name) (regex : Option Regex) : TokenDecl := { loc := name.loc, name, regex }

/-- An ignored token. -/
def skipped (loc : Location) (name : Option Name) (regex : Regex) : TokenDecl :=
  { loc, name, regex, ignored := true }

end TokenDecl

namespace Draft

variable (d : Draft)

/-- A name for what was given none. The number of occurrences so far tells it
    from the others: whatever gets such a name occurs. -/
def madeUpName (sort : String) : String :=
  "_" ++ sort ++ "_" ++ Text.hexPadded 4 d.spec.occurrences.size

/-- The innermost open scanner, or a new one, made for a single declaration. The
    new one would be open during the declaration only, in which nothing asks for
    the open scanners again, so it is not opened in the first place
    (`closeScanner_placeToken`, `closeScanner_placeLiteral`). -/
def scannerFor (loc : Location) : ScannerId × Draft :=
  match d.scanner? with
  | some c => (c, d)
  | none => (d.spec.scanners.next, d.update (·.addScanner loc))

/-- A named regular definition of the current namespace, unless it has one of
    this name. -/
def addRegular (name : String) (loc : Location) (regex : RegexId) (isSealed : Bool) :
    Option RegularId × Draft :=
  match (d.spec.namespaces.get d.home).regular? name with
  | some _ => (none, d.report (.regularTaken name) loc)
  | none =>
    (some d.spec.regulars.next, d.update (·.addRegular d.home name loc regex isSealed))

/-- Declares a named regular definition, for use in expressions or sealed. -/
def declareRegular (name : Name) (r : Regex) (isSealed : Bool) : Option RegularId × Draft :=
  match (d.spec.namespaces.get d.home).regular? name.text with
  | some _ => (none, d.report (.regularTaken name.text) name.loc)
  | none =>
    let regex := d.spec.regexes.next
    (d.update (·.addRegex r)).addRegular name.text name.loc regex isSealed

/-- The name of a token, if it can have one. -/
def nameOf (t : TokenDecl) : Option String :=
  match t.name with
  | some name => some name.text
  | none => if t.ignored then some (d.madeUpName "ignore") else none

/-- Puts a token named `name` into a scanner. It occurs twice, and if it has a
    regular expression, that is a named regular definition. -/
def placeToken (t : TokenDecl) (name : String) : TokenId × Draft :=
  let (scanner, d) := d.scannerFor t.loc
  let regex := t.regex.map fun _ => d.spec.regexes.next
  let d := match t.regex with
    | some r => d.update (·.addRegex r)
    | none => d
  let id := d.spec.tokens.next
  let token : Token :=
    { id, loc := t.loc, name, regex, scanner
      ignored := t.ignored
      action := t.action
      home := d.home
      object := t.object
      context := d.context?
      joinsBefore := t.joinsBefore
      joinsAfter := t.joinsAfter }
  let d := d.update fun s => (s.addToken token).addOccurrences id
  match regex with
  | some regex => (id, (d.addRegular name t.loc regex false).2)
  | none => (id, d)

/-- Declares a token. Ignored tokens have to be in a scanner block, other tokens
    have to have a name. -/
def declareToken (t : TokenDecl) : Option TokenId × Draft :=
  if t.ignored && !d.insideScanner then (none, d.report .ignoreOutsideScanner t.loc)
  else match d.nameOf t with
    | none => (none, d.report .namelessToken t.loc)
    | some name =>
      let (id, d) := d.placeToken t name
      (some id, d)

/-- Puts the token of a literal into a scanner. It has a made-up name and an
    object of that name, and occurs twice. -/
def placeLiteral (l : Literal) (joinsBefore joinsAfter : Bool) : TokenId × Draft :=
  let name := d.madeUpName "literal"
  let (scanner, d) := d.scannerFor l.loc
  let regex := d.spec.regexes.next
  let object := d.spec.objects.next
  let id := d.spec.tokens.next
  let primary := d.spec.occurrences.next
  let token : Token :=
    { id, loc := l.loc, name, scanner, joinsBefore, joinsAfter
      literal := some l.raw
      regex := some regex
      home := d.home
      object := some object }
  let d := d.update fun s =>
    let s := (s.addRegex (.ofLiteral l)).addObject .type name
    ((s.addToken token).addOccurrences id).addLiteral d.home l.meaning.text primary
  (id, d)

/-- Declares a literal as a token, unless the namespace has a literal that
    stands for the same text. -/
def declareLiteral (l : Literal) (joinsBefore joinsAfter : Bool) : Option TokenId × Draft :=
  match (d.spec.namespaces.get d.home).literal? l.meaning.text with
  | some _ => (none, d.report (.literalTaken l.raw) l.loc)
  | none =>
    let (id, d) := d.placeLiteral l joinsBefore joinsAfter
    (some id, d)

/-- Declares a sentinel, a token that is never found. It looks like a single
    backquote. -/
def declareSentinel (name : Name) : Option TokenId × Draft :=
  match d.scanner? with
  | none => (none, d.report .sentinelOutsideScanner name.loc)
  | some scanner =>
    let regex := d.spec.regexes.next
    let id := d.spec.tokens.next
    let token : Token :=
      { id, loc := name.loc, name := name.text, scanner
        sentinel := true
        regex := some regex
        home := d.home
        context := d.context? }
    let d := d.update fun s =>
      (s.addRegex (.ofLiteral { raw := "\x60", loc := name.loc })).addToken token
    (some id, d)

/-- The code of a declaration, in the innermost open context. -/
def code (stmts : List Stmt) (frame : ObjectId) : Code := { stmts, frame, context := d.context? }

/-- Declares the code run when the innermost open scanner comes to the end of
    the input. -/
def declareAtEnd (stmts : List Stmt) (frame : ObjectId) (loc : Location) : Draft :=
  match d.scanner? with
  | none => d.report .endOfInputOutsideScanner loc
  | some c => d.update fun s => s.setAtEnd (s.scanners.get c).mixed (d.code stmts frame)

end Draft

end LangSpec
