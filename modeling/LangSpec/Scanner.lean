import LangSpec.Code.Basic
import LangSpec.Regex.Basic

/-!
# Scanners and tokens

A scanner block declares tokens, some of which are *ignored*: they are skipped
between the others. While a text is parsed, the scanner works in one of four
*regions*, according to what may come next:

* `mixed`: all tokens, the ignored ones being skipped;
* `tokenOnly`: the tokens that are not ignored;
* `ignoreOnly`: the ignored tokens;
* `collect`: the ignored tokens, kept instead of skipped.

What a region looks for is its *pool* of token occurrences. The last two
regions share a pool, so a scanner has three. Every token occurs twice: its
*primary* occurrence is in the mixed pool, its *duplicate* in the pool of the
tokens or of the ignored tokens. A sentinel does not occur at all: it is never
found in a text.
-/

namespace LangSpec

/-- The occurrences a region looks for. -/
structure Pool where
  /-- The occurrences, in the order of declaration. -/
  occurrences : List OccurrenceId := []
deriving Inhabited

/-- A region of a scanner. -/
structure Region where
  /-- The handle of the region. -/
  id : RegionId
  /-- The place of the scanner. -/
  loc : Location
  /-- What the region looks for. -/
  pool : PoolId
  /-- For a collecting region, the region it collects for. -/
  collectsFor : Option RegionId := none
  /-- The code run at the end of the input. -/
  atEnd : Option Code := none
deriving Inhabited

/-- The parts a region may play in its scanner. -/
inductive Role
  | mixed
  | tokenOnly
  | ignoreOnly
  | collect
deriving DecidableEq

/-- A scanner block: three pools and the four regions over them. -/
structure Scanner where
  /-- The handle of the scanner. -/
  id : ScannerId
  /-- The pool of all tokens. -/
  mixedPool : PoolId
  /-- The pool of the tokens that are not ignored. -/
  tokenPool : PoolId
  /-- The pool of the ignored tokens. -/
  ignorePool : PoolId
  /-- The region of all tokens. -/
  mixed : RegionId
  /-- The region of the tokens that are not ignored. -/
  tokenOnly : RegionId
  /-- The region of the ignored tokens. -/
  ignoreOnly : RegionId
  /-- The region that keeps the ignored tokens. -/
  collect : RegionId
  /-- The tokens declared in the block. -/
  tokens : List TokenId := []
deriving Inhabited

namespace Scanner

/-- The region playing a part. -/
def region (s : Scanner) : Role → RegionId
  | .mixed => s.mixed
  | .tokenOnly => s.tokenOnly
  | .ignoreOnly => s.ignoreOnly
  | .collect => s.collect

/-- The pool the region playing a part has to use. -/
def poolFor (s : Scanner) : Role → PoolId
  | .mixed => s.mixedPool
  | .tokenOnly => s.tokenPool
  | .ignoreOnly => s.ignorePool
  | .collect => s.ignorePool

/-- The four regions. -/
def regions (s : Scanner) : List RegionId := [s.mixed, s.tokenOnly, s.ignoreOnly, s.collect]

end Scanner

/-- A token. -/
structure Token where
  /-- The handle of the token. -/
  id : TokenId
  /-- The place of its declaration. -/
  loc : Location
  /-- The name, made up if none was written. -/
  name : String
  /-- The literal as written, for a token declared by a literal. -/
  literal : Option String := none
  /-- The token is skipped between the others. -/
  ignored : Bool := false
  /-- The token is a sentinel. -/
  sentinel : Bool := false
  /-- What the token looks like. -/
  regex : Option RegexId
  /-- The code run when the token is found. -/
  action : Option Code := none
  /-- The namespace of the declaration. -/
  home : NamespaceId
  /-- The scanner of the declaration. -/
  scanner : ScannerId
  /-- The type of the token's fields. -/
  object : Option ObjectId := none
  /-- The innermost context open at the declaration. -/
  context : Option ContextId := none
  /-- No ignored token may stand before it. -/
  joinsBefore : Bool := false
  /-- No ignored token may stand after it. -/
  joinsAfter : Bool := false
  /-- The occurrences, the primary one first. -/
  occurrences : List OccurrenceId := []
deriving Inhabited

namespace Token

/-- The token was declared by a literal. -/
def isLiteral (t : Token) : Bool := t.literal.isSome

end Token

/-- A token occurring in a region. -/
structure Occurrence where
  /-- The handle of the occurrence. -/
  id : OccurrenceId
  /-- The place of the token's declaration. -/
  loc : Location
  /-- The token. -/
  token : TokenId
  /-- What the token looks like. -/
  regex : Option RegexId
  /-- The namespace of the declaration. -/
  home : NamespaceId
  /-- The region. -/
  region : RegionId
  /-- The occurrence this is a duplicate of; a primary one has none. -/
  copyOf : Option OccurrenceId
deriving Inhabited

namespace Occurrence

/-- The occurrence was copied from another one. -/
def isDuplicate (o : Occurrence) : Bool := o.copyOf.isSome

end Occurrence

/-- A named regular definition. -/
structure Regular where
  /-- The handle of the definition. -/
  id : RegularId
  /-- The name. -/
  name : String
  /-- What it stands for. -/
  regex : RegexId
deriving Inhabited

/-- A match mark: the scanner notes the position where it passes the mark. -/
structure Mark where
  /-- The handle of the mark. -/
  id : MarkId
  /-- The number the position is noted under. -/
  number : Nat
deriving Inhabited

end LangSpec
