import LangSpec.Draft.Basic

/-!
# Variables and fields

A variable is a field put into a scope. A scope takes a name only once: the
first field keeps it, and a later one is reported and left out.

* `declareIn`: a field put into a scope, the one rule behind all declarations;
* `declareVariable`, `declareGlobal`, `declareExported`, `declareContextField`,
  `declareField`: the declarations, which differ in the scope they put their
  field into.
-/

namespace LangSpec.Draft

variable (d : Draft)

/-- A new field, in no scope yet. -/
def newField (name : Name) (kind : FieldKind) (type : Option TypeRef) : FieldId × Draft :=
  (d.spec.fields.next, d.update (·.addField name.text name.loc kind type))

/-- A new field for a parameter, in no scope yet. -/
def newParam (name : Name) (kind : FieldKind) (type : Option TypeRef) : FieldId × Draft :=
  let (f, d) := d.newField name kind type
  (f, d.update (·.modifyField f fun x => { x with isParam := true }))

/-- A new object for the captures of a nonterminal. -/
def newObject (name : Name) : ObjectId × Draft :=
  (d.spec.objects.next, d.update (·.addObject .type name.text))

/-- A reference to `name`, written at the current place of the code. -/
def varRef (name : Name) : VarRef :=
  { name := name.text, context := d.context?, scope := d.scope, loc := name.loc }

/-- A reference to the variable `f` itself. -/
def refTo (f : FieldId) (context : Option ContextId) : VarRef :=
  let x := d.spec.fields.get f
  { name := x.name, context, scope := d.scope, loc := x.loc }

/-- No field of this name is in the scope. -/
def isFree (scope : ScopeId) (name : String) : Bool :=
  ((d.spec.scopes.get scope).member? name).isNone

/-- The field `f` put into `scope`, if its name is free there. Otherwise the
    problem `taken` is reported where the field was written. -/
def declareIn (scope : ScopeId) (f : FieldId) (taken : String → Problem) : Draft :=
  let x := d.spec.fields.get f
  if d.isFree scope x.name then d.update (·.bindField scope f)
  else d.report (taken x.name) x.loc

/-- The field `f` as a variable of the current scope. -/
def declareHere (f : FieldId) : Draft := d.declareIn d.scope f .variableTaken

/-- The field `f` as a field of an object. -/
def declareField (object : ObjectId) (f : FieldId) : Draft :=
  d.declareIn (d.spec.objects.get object).rootScope f .fieldTaken

/-- The field `f` as a variable of the current scope, with a type. -/
def declareTyped (f : FieldId) (type : TypeRef) : Draft :=
  (d.update (·.modifyField f fun x => { x with type := some type })).declareHere f

/-- A new local variable of the current scope, unless the name is taken; then
    this is reported and no field is made. -/
def declareNew (ref : VarRef) (type : Option TypeRef) : Draft :=
  if d.isFree d.scope ref.name then
    let f := d.spec.fields.next
    d.update fun s => (s.addField ref.name ref.loc .localVar type).bindField d.scope f
  else d.report (.variableTaken ref.name) ref.loc

/-- The assignment of the initial value to the variable `f`, if there is one. -/
def initialise (f : FieldId) (context : Option ContextId) (init : Option Expr) : Option Stmt :=
  init.map fun e => .assign (d.refTo f context) e (d.spec.fields.get f).loc

/-- Declares a local variable. The result is the assignment of its initial
    value. -/
def declareVariable (f : FieldId) (init : Option Expr) : Option Stmt × Draft :=
  let d := d.declareHere f
  (d.initialise f d.context? init, d)

/-- The field `f` marked as one of the context `c`. -/
def placeIn (c : ContextId) (f : FieldId) : Draft :=
  d.update (·.modifyField f fun x => { x with context := some c })

/-- Declares a global variable: within a context one of its fields, and
    otherwise a field of the global object. -/
def declareGlobal (f : FieldId) (init : Option Expr) : Option Stmt × Draft :=
  let context := d.context?
  let d := match context with
    | some c => (d.placeIn c f).declareField (d.spec.contexts.get c).object f
    | none => d.declareField d.spec.globalObject f
  (d.initialise f context init, d)

/-- Declares a global variable that can be seen from outside. A field of a
    context cannot be exported. -/
def declareExported (f : FieldId) (init : Option Expr) : Option Stmt × Draft :=
  let x := d.spec.fields.get f
  if d.context?.isSome then (none, d.report .exportInContext x.loc)
  else
    let accepted := d.isFree (d.spec.objects.get d.spec.globalObject).rootScope x.name
    let d := d.declareField d.spec.globalObject f
    let d := if accepted then d.update (·.modifyField f fun x => { x with isExported := true })
      else d
    (d.initialise f none init, d)

/-- Declares a field of the open context. -/
def declareContextField (f : FieldId) (loc : Location) : Except Fault Unit × Draft :=
  match d.context? with
  | none => (.error (.fieldOutsideContext loc), d)
  | some c => (.ok (), (d.placeIn c f).declareField (d.spec.contexts.get c).object f)

end LangSpec.Draft
