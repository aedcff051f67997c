import LangSpec.Arena
import LangSpec.Namespace
import LangSpec.Object
import LangSpec.Routine
import LangSpec.Scanner
import LangSpec.Template

/-!
# Specifications

A specification of a language holds its scanners and its grammar, and the code
attached to both. Everything lives in one table for each kind of thing and
refers to other things by their handles.

Match marks have numbers of their own, and so have patterns and constructors.
They are taken from counters, which are words of 32 bits.
-/

namespace LangSpec

/-- What a specification starts from. -/
structure Options where
  /-- The types that need no declaration. -/
  baseTypes : List String := ["ptr", "bool", "int", "str", "stream", "input", "any"]
  /-- The type of matched text, and of the arguments of the program. -/
  stringType : String := "str"

/-- A specification. -/
structure Spec where
  namespaces : Arena .namespaces Namespace := .empty
  objects : Arena .objects Object := .empty
  scopes : Arena .scopes Scope := .empty
  fields : Arena .fields Field := .empty
  pools : Arena .pools Pool := .empty
  regions : Arena .regions Region := .empty
  scanners : Arena .scanners Scanner := .empty
  tokens : Arena .tokens Token := .empty
  occurrences : Arena .occurrences Occurrence := .empty
  regulars : Arena .regulars Regular := .empty
  regexes : Arena .regexes Regex := .empty
  marks : Arena .marks Mark := .empty
  productions : Arena .productions Production := .empty
  nonterminals : Arena .nonterminals Nonterminal := .empty
  patterns : Arena .patterns Pattern := .empty
  constructors : Arena .constructors Constructor := .empty
  feeds : Arena .feeds Feed := .empty
  routines : Arena .routines Routine := .empty
  contexts : Arena .contexts Context := .empty
  aliases : Arena .aliases Alias := .empty
  /-- The ranked tokens, in the order of the precedence statements. -/
  precedences : List Precedence := []
  /-- The number of the next match mark. -/
  nextMark : UInt32 := 0
  /-- The number of the next template, be it a pattern or a constructor. -/
  nextTemplate : UInt32 := 0
  /-- The object whose fields the global variables are. -/
  globalObject : ObjectId
  /-- The frame of the code outside functions. -/
  rootFrame : ObjectId
  /-- The type of the arguments of the program. -/
  argvType : TypeRef
  /-- The type of matched text. -/
  stringType : String

namespace Spec

/-- The root namespace comes first. -/
def root : NamespaceId := ⟨0⟩

end Spec

end LangSpec
