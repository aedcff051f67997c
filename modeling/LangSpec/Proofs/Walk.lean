import LangSpec.Draft.Finish
import LangSpec.Draft.Grammar
import LangSpec.Draft.Nesting
import LangSpec.Draft.Routine
import LangSpec.Draft.Template
import LangSpec.Draft.Token
import LangSpec.Proofs.Handles

/-!
# Walks

A draft is written by calling its operations one after another, in any order and
with any arguments (`Op`). The operations that only read the draft are left out:
`rootNamespace`, `qualifier`, `varRef`, `rankName` and `rankLiteral`. What an
operation returns beside the draft does not matter here, and a walk goes on
after a fault, too.

An operation is *admitted* if the handles among its arguments lie inside their
tables and, for a nonterminal, every element of an alternative has a position
within its production.

* `Draft.Reachable`: the drafts that walks of admitted operations lead to;
* `Draft.Performs`: the operations of a walk, with the drafts they are called on;
* `Element.Built`: the lists of elements a writer makes, either numbering an
  element by its place or leaving it at position zero;
* `Draft.Composed`: the drafts written with such lists only;
* `Op.sums`: an example.
-/

namespace LangSpec

/-- An operation that changes a draft, with its arguments. -/
inductive Op
  | openNamespace (name : Name)
  | closeNamespace
  | openScanner (loc : Location)
  | closeScanner
  | openContext (name : Name)
  | closeContext
  | openFrame
  | closeFrame
  | openScope
  | closeScope
  | newField (name : Name) (kind : FieldKind) (type : Option TypeRef)
  | newParam (name : Name) (kind : FieldKind) (type : Option TypeRef)
  | newObject (name : Name)
  | declareVariable (field : FieldId) (init : Option Expr)
  | declareGlobal (field : FieldId) (init : Option Expr)
  | declareExported (field : FieldId) (init : Option Expr)
  | declareContextField (field : FieldId) (loc : Location)
  | declareField (object : ObjectId) (field : FieldId)
  | refer (name : Name)
  | repetitionCount (text : String) (loc : Location)
  | label (name : Name) (part : Part)
  | withTrailing (regex : Regex) (context : Option Regex)
  | declareToken (token : TokenDecl)
  | declareLiteral (literal : Literal) (joinsBefore joinsAfter : Bool)
  | declareSentinel (name : Name)
  | declareRegular (name : Name) (regex : Regex) (isSealed : Bool)
  | declareAtEnd (stmts : List Stmt) (frame : ObjectId) (loc : Location)
  | newProduction (elements : List Element) (action : Option Code)
      (predicateOf : Option PredicateOf) (name : Option Name) (commit : Bool) (loc : Location)
  | appendAlternative (alternatives : List ProductionId) (production : ProductionId)
  | declareNonterminal (name : Name) (object : ObjectId) (alternatives : List ProductionId)
      (reduceFirst : Bool)
  | declarePrecedence (tokens : List Ranked) (associativity : Associativity)
  | bindFirst (binder : Option VarRef) (items : List PatternItem)
  | fits (tree : VarRef) (items : List PatternItem) (loc : Location)
  | require (tree : VarRef) (items : List PatternItem) (loc : Location)
  | construct (field : Option FieldId) (type : TypeRef) (items : List SupplyItem)
      (inits : List (FieldInit Expr)) (loc : Location)
  | send (parser : VarRef) (items : List SupplyItem) (eof : Bool) (loc : Location)
  | sendTree (parser : VarRef) (items : List SupplyItem) (eof : Bool) (loc : Location)
  | parse (mode : ParseMode) (field : Option FieldId) (type : TypeRef) (items : List SupplyItem)
      (inits : List (FieldInit Expr)) (loc : Location)
  | declareLoop (name : Name) (type : TypeRef) (iter : IterCall) (body : List Stmt)
      (scope : ScopeId)
  | declareFunction (name : Name) (params : List FieldId) (stmts : List Stmt)
      (result : Option TypeRef) (frame : ObjectId) (isExported : Bool)
  | declareIterator (name : Name) (params : List FieldId) (stmts : List Stmt) (frame : ObjectId)
  | declareAlias (name : Name) (type : TypeRef)

namespace Op

/-- The draft after the operation. -/
def apply (d : Draft) : Op → Draft
  | openNamespace name => (d.openNamespace name).2
  | closeNamespace => d.closeNamespace.2
  | openScanner loc => (d.openScanner loc).2
  | closeScanner => d.closeScanner.2
  | openContext name => (d.openContext name).2
  | closeContext => d.closeContext.2
  | openFrame => d.openFrame.2
  | closeFrame => d.closeFrame
  | openScope => d.openScope.2
  | closeScope => d.closeScope.2
  | newField name kind type => (d.newField name kind type).2
  | newParam name kind type => (d.newParam name kind type).2
  | newObject name => (d.newObject name).2
  | declareVariable field init => (d.declareVariable field init).2
  | declareGlobal field init => (d.declareGlobal field init).2
  | declareExported field init => (d.declareExported field init).2
  | declareContextField field loc => (d.declareContextField field loc).2
  | declareField object field => d.declareField object field
  | refer name => (d.refer name).2
  | repetitionCount text loc => (d.repetitionCount text loc).2
  | label name part => (d.label name part).2
  | withTrailing regex context => (d.withTrailing regex context).2
  | declareToken token => (d.declareToken token).2
  | declareLiteral literal joinsBefore joinsAfter =>
    (d.declareLiteral literal joinsBefore joinsAfter).2
  | declareSentinel name => (d.declareSentinel name).2
  | declareRegular name regex isSealed => (d.declareRegular name regex isSealed).2
  | declareAtEnd stmts frame loc => d.declareAtEnd stmts frame loc
  | newProduction elements action predicateOf name commit loc =>
    (d.newProduction elements action predicateOf name commit loc).2
  | appendAlternative alternatives production => (d.appendAlternative alternatives production).2
  | declareNonterminal name object alternatives reduceFirst =>
    (d.declareNonterminal name object alternatives reduceFirst).2
  | declarePrecedence tokens associativity => d.declarePrecedence tokens associativity
  | bindFirst binder items => (d.bindFirst binder items).2
  | fits tree items loc => (d.fits tree items loc).2
  | require tree items loc => (d.require tree items loc).2
  | construct field type items inits loc => (d.construct field type items inits loc).2
  | send parser items eof loc => (d.send parser items eof loc).2
  | sendTree parser items eof loc => (d.sendTree parser items eof loc).2
  | parse mode field type items inits loc => (d.parse mode field type items inits loc).2
  | declareLoop name type iter body scope => (d.declareLoop name type iter body scope).2
  | declareFunction name params stmts result frame isExported =>
    (d.declareFunction name params stmts result frame isExported).2
  | declareIterator name params stmts frame => (d.declareIterator name params stmts frame).2
  | declareAlias name type => (d.declareAlias name type).2

/-- The handles among the arguments, those held by regular expressions, code,
    types and lists included. -/
def arguments : Op → List AnyHandle
  | openNamespace _ | closeNamespace | openScanner _ | closeScanner | openContext _ | closeContext
  | openFrame | closeFrame | openScope | closeScope | newObject _ | refer _ | repetitionCount _ _
  | declareLiteral _ _ _ | declareSentinel _ => []
  | newField _ _ type => handles type
  | newParam _ _ type => handles type
  | declareVariable field init => handles field ++ handles init
  | declareGlobal field init => handles field ++ handles init
  | declareExported field init => handles field ++ handles init
  | declareContextField field _ => handles field
  | declareField object field => handles object ++ handles field
  | label _ part => handles part
  | withTrailing regex context => handles regex ++ handles context
  | declareToken token => handles token
  | declareRegular _ regex _ => handles regex
  | declareAtEnd stmts frame _ => handles stmts ++ handles frame
  | newProduction elements action predicateOf _ _ _ =>
    handles elements ++ handles action ++ handles predicateOf
  | appendAlternative alternatives production => handles alternatives ++ handles production
  | declareNonterminal _ object alternatives _ => handles object ++ handles alternatives
  | declarePrecedence tokens _ => handles tokens
  | bindFirst binder items => handles binder ++ handles items
  | fits tree items _ => handles tree ++ handles items
  | require tree items _ => handles tree ++ handles items
  | construct field type items inits _ =>
    handles field ++ handles type ++ handles items ++ handles inits
  | send parser items _ _ => handles parser ++ handles items
  | sendTree parser items _ _ => handles parser ++ handles items
  | parse _ field type items inits _ =>
    handles field ++ handles type ++ handles items ++ handles inits
  | declareLoop _ type iter body scope =>
    handles type ++ handles iter ++ handles body ++ handles scope
  | declareFunction _ params stmts result frame _ =>
    handles params ++ handles stmts ++ handles result ++ handles frame
  | declareIterator _ params stmts frame => handles params ++ handles stmts ++ handles frame
  | declareAlias _ type => handles type

instance : Holds Op := ⟨arguments⟩

/-- The elements of the production the operation makes, if it makes one. -/
def elements : Op → List Element
  | newProduction elements _ _ _ _ _ => elements
  | _ => []

/-- The productions the operation makes alternatives of a nonterminal. -/
def alternatives : Op → List ProductionId
  | declareNonterminal _ _ alternatives _ => alternatives
  | _ => []

/-- The operation opens or closes something. -/
def isBracket : Op → Bool
  | openNamespace _ | closeNamespace | openScanner _ | closeScanner | openContext _ | closeContext
  | openFrame | closeFrame | openScope | closeScope => true
  | _ => false

/-- The operation adds a production or a nonterminal. -/
def isRule : Op → Bool
  | newProduction _ _ _ _ _ _ | declareNonterminal _ _ _ _ => true
  | _ => false

end Op

/-- Every element has a position within the production. -/
def Production.InRange (p : Production) : Prop := ∀ e ∈ p.elements, e.pos < p.elements.length

instance (p : Production) : Decidable p.InRange :=
  inferInstanceAs (Decidable (∀ e ∈ p.elements, e.pos < p.elements.length))

namespace Draft

variable (o : Options) (d : Draft)

/-- The draft takes the operation: its handles lie inside their tables, and the
    elements of a new nonterminal's alternatives have positions in range. -/
def Admits (op : Op) : Prop :=
  d.spec.Covers op ∧ ∀ p ∈ op.alternatives, (d.spec.productions.get p).InRange

instance (op : Op) : Decidable (d.Admits op) := inferInstanceAs (Decidable (_ ∧ _))

/-- The drafts that walks of admitted operations lead to. -/
inductive Reachable : Draft → Prop
  | start : Reachable (.start o)
  | step {d : Draft} {op : Op} : Reachable d → d.Admits op → Reachable (op.apply d)

/-- The draft after a list of operations. -/
def run (ops : List Op) : Draft := ops.foldl Op.apply d

/-- The operations of the list are admitted, each by the draft it is called
    on. -/
def AdmitsAll (d : Draft) : List Op → Prop
  | [] => True
  | op :: ops => d.Admits op ∧ (op.apply d).AdmitsAll ops

instance decidableAdmitsAll (d : Draft) : (ops : List Op) → Decidable (d.AdmitsAll ops)
  | [] => inferInstanceAs (Decidable True)
  | op :: ops =>
    have := decidableAdmitsAll (op.apply d) ops
    inferInstanceAs (Decidable (d.Admits op ∧ (op.apply d).AdmitsAll ops))

/-- In the walk `ops` from `d`, the operation `op` is called on the draft `e`. -/
inductive Performs : Draft → List Op → Draft → Op → Prop
  | now {d : Draft} {op : Op} {ops : List Op} : Performs d (op :: ops) d op
  | later {d e : Draft} {op op' : Op} {ops : List Op} :
      Performs (op.apply d) ops e op' → Performs d (op :: ops) e op'

variable {o d}

theorem Reachable.run {ops : List Op} (hd : Reachable o d) (h : d.AdmitsAll ops) :
    Reachable o (d.run ops) := by
  induction ops generalizing d with
  | nil => exact hd
  | cons op ops ih => exact ih (.step hd h.1) h.2

theorem run_append (d : Draft) (ops ops' : List Op) : d.run (ops ++ ops') = (d.run ops).run ops' :=
  List.foldl_append

theorem admitsAll_append {ops ops' : List Op} :
    d.AdmitsAll (ops ++ ops') ↔ d.AdmitsAll ops ∧ (d.run ops).AdmitsAll ops' := by
  induction ops generalizing d with
  | nil => exact (iff_of_eq (true_and _)).symm
  | cons op ops ih => exact (and_congr_right fun _ => ih).trans and_assoc.symm

/-- A walk goes on after each of its operations. -/
theorem Performs.exists_rest {e : Draft} {op : Op} {ops : List Op} (h : d.Performs ops e op)
    (hd : Reachable o d) (hops : d.AdmitsAll ops) : Reachable o e ∧ e.Admits op ∧
      ∃ rest, (op.apply e).AdmitsAll rest ∧ d.run ops = (op.apply e).run rest := by
  induction h with
  | now => exact ⟨hd, hops.1, _, hops.2, rfl⟩
  | later _ ih => exact ih (.step hd hops.1) hops.2

end Draft

/-! ## Lists of elements -/

namespace Element

/-- The elements a writer makes: a name or a literal, at position zero and not
    part of a production. -/
inductive Written : Element → Prop
  | name (name : Name) (qualifier : Option Qualifier) (capture : Option FieldId)
      (multiplicity : Multiplicity) (commit : Bool) :
      Written (ofName name qualifier capture multiplicity commit)
  | literal (l : Literal) (qualifier : Option Qualifier) (capture : Option FieldId)
      (multiplicity : Multiplicity) (commit : Bool) :
      Written (ofLiteral l qualifier capture multiplicity commit)

/-- The lists of elements a writer makes: an element is appended, numbered by
    its place, or put at the end as it is. -/
inductive Built : List Element → Prop
  | nil : Built []
  | append {es : List Element} {e : Element} : Built es → Written e → Built (append es e)
  | raw {es : List Element} {e : Element} : Built es → Written e → Built (es ++ [e])

theorem Written.pos {e : Element} (he : Written e) : e.pos = 0 := by
  cases he <;> rfl

/-- The positions of a built list are in range. -/
theorem Built.pos_lt {es : List Element} (h : Built es) : ∀ e ∈ es, e.pos < es.length := by
  induction h with
  | nil => exact fun _ he => absurd he List.not_mem_nil
  | append _ _ ih =>
    intro e he
    rw [Element.append, List.length_append, List.length_singleton]
    rcases List.mem_append.1 he with he | he
    · exact Nat.lt_succ_of_lt (ih e he)
    · rw [List.mem_singleton.1 he]
      exact Nat.lt_succ_self _
  | raw _ hw ih =>
    intro e he
    rw [List.length_append, List.length_singleton]
    rcases List.mem_append.1 he with he | he
    · exact Nat.lt_succ_of_lt (ih e he)
    · rw [List.mem_singleton.1 he, hw.pos]
      exact Nat.succ_pos _

end Element

/-- The drafts written by operations whose handles lie inside their tables, with
    built lists of elements only. -/
inductive Draft.Composed (o : Options) : Draft → Prop
  | start : Composed o (.start o)
  | step {d : Draft} {op : Op} :
      Composed o d → d.spec.Covers op → Element.Built op.elements → Composed o (op.apply d)

/-! ## An example -/

/-- A scanner of letters, blanks and a sentinel, and a grammar of sums with one
    or two summands. The first summand of both is captured under one name. -/
def Op.sums : List Op :=
  let letter (capture : Option FieldId) : Element :=
    .ofName { text := "letter" } none capture .bare false
  let plus : Element := .ofLiteral { raw := "'+'" } none none .bare false
  [ .openScanner ⟨1, 0⟩
  , .declareToken (.named { text := "letter" } (some (.ofLiteral { raw := "'a'" })))
  , .declareToken (.skipped ⟨3, 0⟩ none (.ofLiteral { raw := "' '" }))
  , .declareSentinel { text := "end" }
  , .closeScanner
  , .declareLiteral { raw := "'+'" } false false
  , .newObject { text := "sum" }
  , .newField { text := "left" } .captured none
  , .newProduction (Element.append (Element.append (Element.append [] (letter (some ⟨0⟩))) plus)
      (letter none)) none none none false ⟨6, 0⟩
  , .appendAlternative [] ⟨0⟩
  , .newField { text := "left" } .captured none
  , .newProduction (Element.append [] (letter (some ⟨1⟩))) none none none false ⟨7, 0⟩
  , .appendAlternative [⟨0⟩] ⟨1⟩
  , .declareNonterminal { text := "sum" } ⟨3⟩ [⟨0⟩, ⟨1⟩] false ]

/-- Every operation of the example is admitted where it is called. -/
theorem Draft.reachable_sums : Reachable {} ((start {}).run Op.sums) :=
  Reachable.start.run (by decide +kernel)

end LangSpec
