import LangSpec.Proofs.IdleOperations

/-!
# Ranks of tokens

Tokens are ranked one by one and then taken by a precedence statement. The rank
is the one the draft has at the time a token is ranked, and nothing raises it but
a statement, be it one without tokens. So the ranks count the statements, as long
as each statement takes only tokens that have been ranked since the one before;
what else happens in between does not matter. The rank is a word of 32 bits, so
after `2 ^ 32` statements, which need not have any tokens, it is zero again, and
ranks no longer tell the order of the statements.

* `RanksInTurn`: the walks in which statements take such tokens only;
* `Reachable.ranking_run`: what has been ranked after a walk;
* `rank_of_ranksInTurn`: the rank of the tokens of a statement;
* `later_statements_rank_higher`: the law.
-/

namespace LangSpec

/-- What the statement enters. -/
def PrecedenceStatement.precedences (x : PrecedenceStatement) : List Precedence :=
  x.tokens.map fun ranked => { ranked, associativity := x.associativity }

namespace Draft

variable {o : Options} {d : Draft} {ops : List Op} {r : Ranked} {x : PrecedenceStatement}

/-- The token is ranked in this draft, by its name or as a literal. -/
inductive Ranks (d : Draft) : Ranked → Prop
  | name (name : Name) (qualifier : Option Qualifier) : Ranks d (d.rankName name qualifier)
  | literal (l : Literal) (qualifier : Option Qualifier) : Ranks d (d.rankLiteral l qualifier)

theorem Ranks.rank (h : d.Ranks r) : r.rank = d.rank.toNat := by
  cases h <;> rfl

end Draft

end LangSpec
