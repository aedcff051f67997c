import LangSpec.Handle
import LangSpec.Location
import LangSpec.Regex.CharClass

/-!
# Regular expressions

The regular expression of a token is a tree in layers, each binding tighter
than the one before:

* an *expression* joins terms by alternation, intersection and the two
  subtractions;
* a *term* joins parts by concatenation, plain or with one of three ways of
  settling where the left part ends and the right one starts;
* a *part* is a repeated factor with the match marks set before and after it,
  and the fields the text between two marks goes to;
* a *repeated* factor carries repetitions, a *negated* one negations;
* a *factor* is a literal, a range, a character class, a reference to a named
  regular definition or a whole regular expression in parentheses.

A regular expression is an expression, perhaps with a *trailing context*, which
must follow the match but is not part of it, and perhaps with a match mark, which
is where the match proper ends. That these two come together is up to the writer.
-/

namespace LangSpec.Regex

/-- The kinds of literals a factor may be. -/
inductive AtomKind
  | text
  | number
deriving DecidableEq

/-- A literal of a regular expression, as it was written. -/
structure Atom where
  /-- The literal as written, quotation marks included. -/
  data : String
  /-- A text or the number of a character. -/
  kind : AtomKind
  /-- The place it was written at. -/
  loc : Location
deriving DecidableEq

/-- How often a factor is repeated. -/
inductive Repetition
  /-- Any number of times. -/
  | star
  /-- Any number of times, going on as long as it can. -/
  | starStar
  /-- Once or not at all. -/
  | optional
  /-- At least once. -/
  | plus
  /-- `n` times. -/
  | exact (n : Nat)
  /-- At most `n` times. -/
  | max (n : Nat)
  /-- At least `n` times. -/
  | min (n : Nat)
  /-- From `low` to `high` times. -/
  | range (low high : Nat)
deriving DecidableEq

/-- The two negations of a factor. -/
inductive Negation
  /-- Any text the factor does not match. -/
  | text
  /-- Any character the factor does not match. -/
  | char
deriving DecidableEq

/-- The ways a term goes on with another part. -/
inductive TermOp
  /-- Plain concatenation. -/
  | concat
  /-- Concatenation that leaves the left once the right can start. -/
  | rightStart
  /-- Concatenation that leaves the left once the right has finished. -/
  | rightFinish
  /-- Concatenation that stays with the left as long as it can. -/
  | leftPrec
deriving DecidableEq

/-- The ways an expression goes on with another term. -/
inductive ExprOp
  /-- What either side matches. -/
  | or
  /-- What both sides match. -/
  | intersect
  /-- What the left matches and the right does not. -/
  | subtract
  /-- What the left matches without containing a match of the right. -/
  | strongSubtract
deriving DecidableEq

/-- The side of a part a match mark is set on. -/
inductive MarkSide
  | start
  | leave
deriving DecidableEq

/-- A match mark set by a part. -/
structure MarkAction where
  /-- Before or after the part. -/
  side : MarkSide
  /-- The mark. -/
  mark : MarkId
  /-- The place of the label that asks for it. -/
  loc : Location
deriving DecidableEq

/-- The text between two match marks goes to a field. -/
structure Capture where
  /-- The mark before the text. -/
  enter : MarkId
  /-- The mark after the text. -/
  leave : MarkId
  /-- The field. -/
  field : FieldId
deriving DecidableEq

end LangSpec.Regex

namespace LangSpec

open Regex

mutual

/-- The smallest piece of a regular expression. -/
inductive Factor
  | literal (atom : Atom)
  | range (low high : Atom)
  | oneOf (chars : CharClass)
  | noneOf (chars : CharClass)
  /-- The named regular definition `target`. -/
  | reference (target : RegularId) (loc : Location)
  | paren (inner : Regex)

/-- A factor with its negations, the innermost first. -/
inductive Negated
  | plain (factor : Factor)
  | negate (op : Negation) (inner : Negated)

/-- A negated factor with its repetitions, the innermost first. -/
inductive Repeated
  | plain (inner : Negated)
  | repeated (op : Repetition) (inner : Repeated)

/-- A repeated factor with its match marks and captures. -/
inductive Part
  | mk (body : Repeated) (actions : List MarkAction) (captures : List Capture)

/-- A concatenation of parts, built from left to right. -/
inductive Term
  | single (part : Part)
  | join (op : TermOp) (left : Term) (right : Part)

/-- A combination of terms, built from left to right. -/
inductive RegexExpr
  | single (term : Term)
  | join (op : ExprOp) (left : RegexExpr) (right : Term)

/-- A regular expression, with or without a trailing context, and with or without
    a mark where the match proper ends. -/
inductive Regex
  | plain (body : RegexExpr) (mark : Option MarkId := none)
  | trailing (body : RegexExpr) (context : Regex) (mark : Option MarkId)

end

instance : Inhabited Factor := ⟨.oneOf .empty⟩

namespace Part

/-- The repeated factor. -/
def body : Part → Repeated
  | mk body _ _ => body

/-- The match marks, in the order of their labels. -/
def actions : Part → List MarkAction
  | mk _ actions _ => actions

/-- The captures, in the order of their labels. -/
def captures : Part → List Capture
  | mk _ _ captures => captures

/-- A repeated factor without marks. -/
def ofRepeated (r : Repeated) : Part := mk r [] []

/-- A factor on its own. -/
def ofFactor (f : Factor) : Part := ofRepeated (.plain (.plain f))

/-- The part with the text it matches captured in `c.field`, between the marks
    of `c`. -/
def capture (p : Part) (c : Capture) (loc : Location) : Part :=
  mk p.body (p.actions ++ [⟨.start, c.enter, loc⟩, ⟨.leave, c.leave, loc⟩]) (p.captures ++ [c])

end Part

namespace Regex

/-- A factor on its own. -/
def ofFactor (f : Factor) : Regex := plain (.single (.single (.ofFactor f)))

instance : Inhabited Regex := ⟨ofFactor default⟩

/-- The expression, its trailing context left out. -/
def body : Regex → RegexExpr
  | plain body _ => body
  | trailing body _ _ => body

/-- The mark where the match proper ends. -/
def mark? : Regex → Option MarkId
  | plain _ mark => mark
  | trailing _ _ mark => mark

/-- The trailing context. -/
def context? : Regex → Option Regex
  | plain _ _ => none
  | trailing _ context _ => some context

end Regex

end LangSpec
