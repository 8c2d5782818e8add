import ShapeMatch.Regex.Grouping
import ShapeMatch.Regex.Search

/-!
# Regular Expressions

Regular expressions over strings, and whether they match.

## Main definitions

* `Regex`: A regular expression and the text it was read from.
* `Regex.ofText`: Read a regular expression.
* `Regex.isMatch`: Whether it matches somewhere in a string.
-/

namespace ShapeMatch

/-- A regular expression, with the text it was read from. -/
structure Regex where
  source : String
  expr : Regex.Expr

namespace Regex

/-- Read a regular expression. -/
def ofText (source : String) : Except Fault Regex := do
  let tokens ← Token.ofText source
  return ⟨source, ← Expr.ofTokens tokens⟩

/-- Whether a regular expression matches somewhere in a string. -/
def isMatch (regex : Regex) (s : String) : Bool := regex.expr.occursIn s.toList

end Regex

end ShapeMatch
