import LangSpec.Regex.Basic

/-!
# References

The references of a regular expression are the named definitions it is made
of, one for every place where it names one, from left to right and with the
trailing context last. Looking through them tells which definitions have to be
known before this one.
-/

namespace LangSpec

mutual

/-- The definitions a factor refers to. -/
def Factor.references : Factor → List RegularId
  | .reference target _ => [target]
  | .paren inner => inner.references
  | .literal _ => []
  | .range _ _ => []
  | .oneOf _ => []
  | .noneOf _ => []

/-- The definitions a negated factor refers to. -/
def Negated.references : Negated → List RegularId
  | .plain factor => factor.references
  | .negate _ inner => inner.references

/-- The definitions a repeated factor refers to. -/
def Repeated.references : Repeated → List RegularId
  | .plain inner => inner.references
  | .repeated _ inner => inner.references

/-- The definitions a part refers to. -/
def Part.references : Part → List RegularId
  | .mk body _ _ => body.references

/-- The definitions a term refers to. -/
def Term.references : Term → List RegularId
  | .single part => part.references
  | .join _ left right => left.references ++ right.references

/-- The definitions an expression refers to. -/
def RegexExpr.references : RegexExpr → List RegularId
  | .single term => term.references
  | .join _ left right => left.references ++ right.references

/-- The definitions a regular expression refers to. -/
def Regex.references : Regex → List RegularId
  | .plain body _ => body.references
  | .trailing body context _ => body.references ++ context.references

end

end LangSpec
