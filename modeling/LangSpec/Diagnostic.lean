import LangSpec.Location
import LangSpec.Text.Quoted

/-!
# Diagnostics

What is wrong with a specification is told in two ways. A *diagnostic* is
reported while the specification is being written and classified by its kind;
the writing goes on. A *failure* is what an operation that cannot go on, or a
finished check, returns. Every diagnostic becomes a failure in the end.

* `Diagnostic.failures`: all diagnostics, in the order of their reports;
* `Diagnostic.compileErrors`: the diagnostics for a host that reports through
  its compiler.
-/

namespace LangSpec

/-- A message about a place. -/
structure Failure where
  /-- The place. -/
  loc : Location
  /-- The message. -/
  message : String
deriving DecidableEq

/-- The classes of diagnostics. -/
inductive DiagnosticKind
  /-- A name is taken: of a regular definition, a literal, a variable or a
      field of an object. -/
  | duplicate
  /-- A declaration stands where it cannot. -/
  | misplaced
  /-- A name cannot be found, or may not be used. -/
  | unresolved
  /-- A number cannot be read. -/
  | malformed
deriving DecidableEq

/-- The class in words. -/
def DiagnosticKind.title : DiagnosticKind → String
  | .duplicate => "duplicate declaration"
  | .misplaced => "misplaced declaration"
  | .unresolved => "unresolved reference"
  | .malformed => "malformed literal"

/-- A classified message about a place. -/
structure Diagnostic where
  /-- The class. -/
  kind : DiagnosticKind
  /-- The place. -/
  loc : Location
  /-- The message. -/
  message : String
deriving DecidableEq

namespace Diagnostic

/-- The diagnostic with its place in front. -/
def render (d : Diagnostic) : String := d.loc.render ++ ": " ++ d.message

/-- The diagnostic, its class forgotten. -/
def toFailure (d : Diagnostic) : Failure := ⟨d.loc, d.message⟩

/-- The number of diagnostics of one class. -/
def count (kind : DiagnosticKind) (ds : List Diagnostic) : Nat :=
  ds.countP fun d => d.kind == kind

/-- All diagnostics, in the order of their reports. -/
def failures (ds : List Diagnostic) : List Failure := ds.map toFailure

/-- The invocation that makes a compiler report the diagnostic. -/
def compileError (d : Diagnostic) : String :=
  ":: core :: compile_error ! \x7b " ++ Text.quote .code d.message ++ " \x7d"

/-- The invocations that make a compiler report the diagnostics. -/
def compileErrors (ds : List Diagnostic) : String :=
  " ".intercalate (ds.map compileError)

end Diagnostic

end LangSpec
