import LangSpec.Code.TypeRef

/-!
# Code

Tokens, productions, functions and iterators carry code. Only the expressions
and statements that the specification itself has to know are told apart: those
that match a tree against a pattern, construct a tree, or feed a parser refer
to the templates they use, and those that declare a variable to its field.
-/

namespace LangSpec

/-- The three commands that run a parser. -/
inductive ParseMode
  /-- The result is whether the text is accepted. -/
  | accept
  /-- The result is the tree. -/
  | tree
  /-- The parser stops once it has a complete tree. -/
  | stop
deriving DecidableEq

/-- The variable an expression declares for its result. -/
structure Binding where
  /-- The field of the variable. -/
  field : FieldId
  /-- The reference to it. -/
  ref : VarRef
deriving DecidableEq

/-- The initial value of a field of a tree under construction. -/
structure FieldInit (ε : Type) where
  /-- The field. -/
  name : String
  /-- The value. -/
  value : ε
  /-- The place. -/
  loc : Location

/-- An expression. -/
inductive Expr
  | var (ref : VarRef)
  | number (digits : String) (loc : Location)
  | text (text : String) (loc : Location)
  | binary (op : String) (left right : Expr) (loc : Location)
  | unary (op : String) (arg : Expr) (loc : Location)
  /-- Matches a tree against a pattern; the result tells whether it fits. -/
  | fits (tree : VarRef) (pattern : PatternId) (loc : Location)
  /-- Matches a tree against a pattern, and does not go on if it does not fit. -/
  | require (tree : VarRef) (pattern : PatternId) (loc : Location)
  /-- Constructs a tree of a type. -/
  | construct (binding : Option Binding) (type : TypeRef) (inits : List (FieldInit Expr))
      (constructor : ConstructorId) (loc : Location)
  /-- Feeds a parser, and ends its input if `eof`. -/
  | send (parser : VarRef) (feed : FeedId) (eof : Bool) (loc : Location)
  /-- Feeds a parser with trees as they are, and ends its input if `eof`. -/
  | sendTree (parser : VarRef) (feed : FeedId) (eof : Bool) (loc : Location)
  /-- Constructs a parser, feeds it and runs it to the end. -/
  | parse (mode : ParseMode) (binding : Option Binding) (parser : TypeRef)
      (inits : List (FieldInit Expr)) (constructor : ConstructorId) (feed : FeedId)
      (loc : Location)

/-- The iterator that drives a loop. -/
structure IterCall where
  /-- The iterator. -/
  iter : VarRef
  /-- Its arguments. -/
  args : List Expr
  /-- The place of the call. -/
  loc : Location

/-- A statement. -/
inductive Stmt
  | assign (target : VarRef) (value : Expr) (loc : Location)
  | eval (expr : Expr)
  | print (args : List Expr) (loc : Location)
  /-- Runs `body` for every value of an iterator. -/
  | loop (field : FieldId) (type : TypeRef) (iter : IterCall) (body : List Stmt)
      (context : Option ContextId) (scope : ScopeId) (loc : Location)
  | yield (value : Option Expr) (loc : Location)

/-- The code of a declaration. -/
structure Code where
  /-- The statements. -/
  stmts : List Stmt
  /-- The frame of the local variables. -/
  frame : ObjectId
  /-- The innermost context open at the declaration. -/
  context : Option ContextId
deriving Inhabited

end LangSpec
