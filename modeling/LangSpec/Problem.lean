import LangSpec.Diagnostic
import LangSpec.Handle
import LangSpec.Text.Count

/-!
# Problems and faults

A `Problem` is the cause of a diagnostic: one declaration is dropped or
replaced by something harmless, and the writing of the specification goes on.
A `Fault` is an operation that makes no sense where it is called, such as
closing what was never opened; nothing sensible can be done instead.
-/

namespace LangSpec

/-- What may be wrong with a declaration. -/
inductive Problem
  /-- The scope already has a variable of this name. -/
  | variableTaken (name : String)
  /-- The object already has a field of this name. -/
  | fieldTaken (name : String)
  /-- The namespace already has a literal standing for the same text. -/
  | literalTaken (raw : String)
  /-- The namespace already has a regular definition of this name. -/
  | regularTaken (name : String)
  /-- An ignored token outside any scanner. -/
  | ignoreOutsideScanner
  /-- A token that is not ignored has no name. -/
  | namelessToken
  /-- A sentinel outside any scanner. -/
  | sentinelOutsideScanner
  /-- Code to be run at the end of input, outside any scanner. -/
  | endOfInputOutsideScanner
  /-- A field of a context is to be exported. -/
  | exportInContext
  /-- A sealed regular definition is used in an expression. -/
  | sealedReference
  /-- No regular definition of this name is in sight. -/
  | unknownRegular (name : String)
  /-- The text of a repetition count is no count. -/
  | badCount (fault : Text.CountFault) (text : String)
deriving DecidableEq

namespace Problem

/-- The class of the diagnostic. -/
def kind : Problem → DiagnosticKind
  | variableTaken _ | fieldTaken _ | literalTaken _ | regularTaken _ => .duplicate
  | ignoreOutsideScanner | namelessToken | sentinelOutsideScanner
  | endOfInputOutsideScanner | exportInContext => .misplaced
  | sealedReference | unknownRegular _ => .unresolved
  | badCount _ _ => .malformed

/-- The message of the diagnostic. -/
def message : Problem → String
  | variableTaken name => "variable " ++ name ++ " redeclared"
  | fieldTaken name => "object field " ++ name ++ " renamed"
  | literalTaken raw => "literal " ++ raw ++ " already defined in this namespace"
  | regularTaken name => "regular definition \"" ++ name ++ "\" already exists"
  | ignoreOutsideScanner => "ignore tokens can only appear inside scanners"
  | namelessToken => "tokens must have a name"
  | sentinelOutsideScanner => "zero token should be inside a region"
  | endOfInputOutsideScanner => "preeof must be used inside an existing region"
  | exportInContext => "cannot export parser context variables"
  | sealedReference => "references to graph instantiations not allowed in expressions"
  | unknownRegular name => "graph lookup of \"" ++ name ++ "\" failed"
  | badCount .tooLarge text => "repetition number " ++ text ++ " overflows"
  | badCount .notDecimal text => "repetition number " ++ text ++ " is not a decimal count"

/-- The diagnostic reporting the problem at `loc`. -/
def reportedAt (p : Problem) (loc : Location) : Diagnostic := ⟨p.kind, loc, p.message⟩

end Problem

/-- What may be wrong with the order of operations. -/
inductive Fault
  /-- Only the root namespace is open, and it stays open. -/
  | closesRootNamespace
  /-- No scanner is open. -/
  | noOpenScanner
  /-- No context is open. -/
  | noOpenContext
  /-- The current scope is the outermost one of its frame. -/
  | closesRootScope
  /-- A field of the open context is declared at `loc`, but no context is open. -/
  | fieldOutsideContext (loc : Location)
  /-- At the end, scanners are still open. -/
  | scannersLeftOpen (count : Nat)
  /-- At the end, contexts are still open. -/
  | contextsLeftOpen (count : Nat)
  /-- At the end, namespaces other than the root are still open. -/
  | namespacesLeftOpen (count : Nat)
deriving DecidableEq

namespace Fault

/-- The cause in words. -/
def cause : Fault → String
  | closesRootNamespace => "attempt to close the root namespace"
  | noOpenScanner => "region stack is empty"
  | noOpenContext => "context stack is empty"
  | closesRootScope => "attempt to pop the root scope of a frame"
  | fieldOutsideContext _ => "no context stack items found"
  | scannersLeftOpen n => toString n ++ " region set(s) left open"
  | contextsLeftOpen n => toString n ++ " context(s) left open"
  | namespacesLeftOpen n => toString n ++ " namespace(s) left open"

/-- The place of the fault, where it has one. -/
def loc : Fault → Location
  | fieldOutsideContext loc => loc
  | _ => .origin

/-- The failure the fault leads to. -/
def toFailure (f : Fault) : Failure := ⟨f.loc, "internal error: " ++ f.cause⟩

end Fault

end LangSpec
