import LangSpec.Draft.Grammar
import LangSpec.Draft.Variable

/-!
# Writing templates

Patterns, constructors and feeds are written inside the expressions that use
them. Their items are collected in lists; a pattern may bind a variable to its
first item. The expression then adds its template to the specification, and may
declare a variable for its result.
-/

namespace LangSpec

namespace PatternItem

/-- The item matching a tree of a type. -/
def ofType (type : TypeRef) : PatternItem :=
  { form := .element { loc := type.loc, kind := .reference, type }, loc := type.loc }

/-- The item matching a tree of the type `name`. -/
def ofName (name : Name) (binder : Option VarRef) (qualifier : Option Qualifier)
    (multiplicity : Multiplicity) : PatternItem :=
  ofType (.named { loc := name.loc, qualifier, multiplicity, binder } name.text)

/-- The item matching the token of a literal. -/
def ofLiteral (l : Literal) (binder : Option VarRef) (qualifier : Option Qualifier)
    (multiplicity : Multiplicity) : PatternItem :=
  ofType (.literal { loc := l.loc, qualifier, multiplicity, binder } l.raw)

/-- The item matching the trees of a piece of text. -/
def ofText (text : String) (loc : Location) : PatternItem := { form := .text text, loc }

end PatternItem

namespace SupplyItem

/-- The item supplying the token of a literal, where a tree of the type `owner`
    is constructed. -/
def ofLiteral (owner : TypeRef) (l : Literal) (qualifier : Option Qualifier) : SupplyItem :=
  let type : TypeRef := .within { loc := l.loc, qualifier } owner l.raw
  { form := .literal { loc := l.loc, kind := .literal, type }, loc := l.loc }

/-- The item supplying the trees of a piece of text. -/
def ofText (text : String) (loc : Location) : SupplyItem := { form := .text text, loc }

/-- The item supplying the value of an expression. -/
def ofExpr (expr : Expr) (loc : Location) : SupplyItem := { form := .expr expr, loc }

end SupplyItem

namespace Draft

variable (d : Draft)

/-- Binds the first item to a variable, or to none, and declares the variable in
    the current scope with the type of the item. Without items nothing is
    declared. -/
def bindFirst (binder : Option VarRef) (items : List PatternItem) : List PatternItem × Draft :=
  match items with
  | [] => ([], d)
  | first :: rest =>
    let d := match binder with
      | some v => d.declareNew v first.type?
      | none => d
    ({ first with binder } :: rest, d)

/-- Matches a tree against a pattern. -/
def fits (tree : VarRef) (items : List PatternItem) (loc : Location) : Expr × Draft :=
  (.fits tree d.spec.patterns.next loc, d.update (·.addPattern loc d.home items))

/-- Matches a tree against a pattern it has to fit. -/
def require (tree : VarRef) (items : List PatternItem) (loc : Location) : Expr × Draft :=
  (.require tree d.spec.patterns.next loc, d.update (·.addPattern loc d.home items))

/-- The variable for the result of an expression, referred to at the current
    place of the code. -/
def bindingOf (f : FieldId) : Binding := ⟨f, d.refTo f d.context?⟩

/-- The variable for the result of an expression declared with its type, if
    there is one. -/
def declareResult (field : Option FieldId) (type : TypeRef) : Draft :=
  match field with
  | some f => d.declareTyped f type
  | none => d

/-- Constructs a tree of a type, and declares the variable `field` for it. -/
def construct (field : Option FieldId) (type : TypeRef) (items : List SupplyItem)
    (inits : List (FieldInit Expr)) (loc : Location) : Expr × Draft :=
  let e := .construct (field.map d.bindingOf) type inits d.spec.constructors.next loc
  (e, (d.update (·.addConstructor loc d.home items)).declareResult field type)

/-- Feeds a parser. -/
def send (parser : VarRef) (items : List SupplyItem) (eof : Bool) (loc : Location) :
    Expr × Draft :=
  (.send parser d.spec.feeds.next eof loc, d.update (·.addFeed loc d.home items))

/-- Feeds a parser with trees as they are. -/
def sendTree (parser : VarRef) (items : List SupplyItem) (eof : Bool) (loc : Location) :
    Expr × Draft :=
  (.sendTree parser d.spec.feeds.next eof loc, d.update (·.addFeed loc d.home items))

/-- Constructs a parser for a type, feeds it and runs it, and declares the
    variable `field` for the result. -/
def parse (mode : ParseMode) (field : Option FieldId) (type : TypeRef) (items : List SupplyItem)
    (inits : List (FieldInit Expr)) (loc : Location) : Expr × Draft :=
  let e := .parse mode (field.map d.bindingOf) (.parser { loc } type) inits
    d.spec.constructors.next d.spec.feeds.next loc
  let d := d.update fun s => (s.addConstructor loc d.home []).addFeed loc d.home items
  (e, d.declareResult field type)

end Draft

end LangSpec
