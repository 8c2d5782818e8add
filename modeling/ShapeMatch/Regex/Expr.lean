import ShapeMatch.Regex.Assertion
import ShapeMatch.Text.CodeSet

/-!
# Trees of Regular Expressions

Regular expressions as trees, and how larger ones are put together from smaller
ones.

What is put together is kept simple. A sequence has no empty items. A choice
between single characters is a set of characters, and so is a choice between
such sets. A repetition of what matches nothing but the empty text repeats it
at most once, however often it was asked for.

## Main definitions

* `Regex.Expr`: The trees.
* `Regex.Expr.takesNothing`: Whether an expression matches the empty text only.
* `Regex.Expr.leastLength?`: How many characters it takes at least.
* `Regex.Expr.sequence`, `Regex.Expr.choice`, `Regex.Expr.repeated`: Larger
  expressions.
-/

namespace ShapeMatch

namespace Regex

/-- A regular expression. -/
inductive Expr where
  /-- The empty text. -/
  | empty
  /-- One character of a set. -/
  | chars (s : CodeSet)
  /-- The empty text at a position. -/
  | assertion (a : Assertion)
  /-- An expression whose match is kept. -/
  | capture (e : Expr)
  /-- One expression and then another. -/
  | concat (first second : Expr)
  /-- Either of two expressions. -/
  | alternate (first second : Expr)
  /-- An expression a number of times. -/
  | repetition (e : Expr) (least : Nat) (most : Option Nat)

namespace Expr

/-- Whether an expression matches nothing but the empty text. -/
def takesNothing : Expr → Bool
  | empty => true
  | chars _ => false
  | assertion _ => true
  | capture e => e.takesNothing
  | concat e f => e.takesNothing && f.takesNothing
  | alternate e f => e.takesNothing && f.takesNothing
  | repetition e _ _ => e.takesNothing

/-- How many characters an expression takes at least. There is no such number
    if a set without members is part of it. -/
def leastLength? : Expr → Option Nat
  | empty => some 0
  | chars s => if s.ranges.isEmpty then none else some 1
  | assertion _ => some 0
  | capture e => e.leastLength?
  | concat e f => do return (← e.leastLength?) + (← f.leastLength?)
  | alternate e f => do return min (← e.leastLength?) (← f.leastLength?)
  | repetition e least _ => do return least * (← e.leastLength?)

/-- The only character that an expression matches, if it is such. -/
def character? : Expr → Option Char
  | chars s => s.only?.map Char.ofNat
  | _ => none

/-- The set of characters that an expression asks for, if it is such. -/
def set? : Expr → Option CodeSet
  | chars s => some s
  | _ => none

/-- The alternatives of an expression. -/
def branches : Expr → List Expr
  | alternate e f => e.branches ++ f.branches
  | e => [e]

/-- Expressions one after another, none of them empty. -/
def inOrder : List Expr → Expr
  | [] => empty
  | [e] => e
  | e :: rest => concat e (inOrder rest)

/-- A list of expressions, one after another. -/
def sequence (items : List Expr) : Expr :=
  inOrder (items.filter fun e => !e matches empty)

/-- One of several expressions, the first of which is given. -/
def oneOf (first : Expr) : List Expr → Expr
  | [] => first
  | e :: rest => alternate first (oneOf e rest)

/-- A choice between expressions, the first of which is given. -/
def choice (first : Expr) (others : List Expr) : Expr :=
  let all := (first :: others).flatMap branches
  let singles := all.map fun e => e.character?.isSome
  match all.mapM set? with
  | some sets =>
    if singles.all id || !singles.any id then chars (CodeSet.unions sets).canonical
    else oneOf first others
  | none => oneOf first others

/-- An expression a number of times. -/
def repeated (e : Expr) (least : Nat) (most : Option Nat) : Expr :=
  let least := if e.takesNothing then min least 1 else least
  let most := if e.takesNothing then some (min (most.getD 1) 1) else most
  if least = 0 ∧ most = some 0 then empty
  else if least = 1 ∧ most = some 1 then e
  else repetition e least most

end Expr

end Regex

end ShapeMatch
