import ShapeMatch.Regex.Size
import ShapeMatch.Regex.Token

/-!
# Grouping the Parts of Regular Expressions

How the parts of a regular expression are put together.

The parts come one after another. A repetition applies to the item before it,
alternatives collect the items between two bars, and a group becomes one item
where it closes. An expression is a fault when a repetition has nothing before
it, when parentheses do not pair up, when it is nested too deep, or when one of
its automata is too large.

The depth counts groups, repetitions, bracketed classes, sequences of several
items and choices between several alternatives. It is that of the expression as
it is written, which may be deeper than its tree.

## Main definitions

* `Regex.Item`: An item of a sequence.
* `Regex.Branches`: The items of an open group.
* `Regex.Expr.ofTokens`: The tree of a list of parts.
-/

namespace ShapeMatch

namespace Regex

/-- An item of a sequence. A change of flags is one too, but nothing that could
    be repeated. -/
structure Item where
  expr : Expr
  depth : Nat
  repeatable : Bool

/-- The items of an open group: the finished alternatives and the items of the
    last one, both with the last in front. -/
structure Branches where
  /-- Whether what the group matches is kept. -/
  captures : Bool
  finished : List Item
  current : List Item

namespace Branches

/-- A group just opened. -/
def empty (captures : Bool) : Branches := ⟨captures, [], []⟩

/-- Add an item. -/
def push (b : Branches) (item : Item) : Branches := { b with current := item :: b.current }

/-- The greatest depth of some items, and one more if there are several. -/
def depthOf (items : List Item) : Nat :=
  let depth := items.foldl (fun depth item => max depth item.depth) 0
  if 1 < items.length then depth + 1 else depth

/-- The items of the last alternative as one item. -/
def last (b : Branches) : Item :=
  ⟨.sequence (b.current.reverse.map (·.expr)), depthOf b.current, true⟩

/-- Begin the next alternative. -/
def bar (b : Branches) : Branches := ⟨b.captures, b.last :: b.finished, []⟩

/-- The alternatives of a group as one item. -/
def whole (b : Branches) : Item :=
  let all := b.last :: b.finished
  match all.reverse.map (·.expr) with
  | [] => ⟨.empty, 0, true⟩
  | first :: rest => ⟨.choice first rest, depthOf all, true⟩

/-- The group as one item. -/
def close (b : Branches) : Item :=
  let item := b.whole
  ⟨if b.captures then .capture item.expr else item.expr, item.depth + 1, true⟩

/-- Repeat the last item. -/
def repeatLast (b : Branches) (least : Nat) (most : Option Nat) : Except Fault Branches :=
  match b.current with
  | [] => .error .nothingToRepeat
  | item :: rest =>
    if item.repeatable then
      .ok { b with current := ⟨item.expr.repeated least most, item.depth + 1, true⟩ :: rest }
    else .error .nothingToRepeat

end Branches

namespace Expr

/-- How deep an expression may be nested. -/
def depthLimit : Nat := 250

/-- How large an automaton of an expression may be. -/
def sizeLimit : Nat := 10 * 1024 * 1024

/-- Whether both automata of an expression are within the limit. -/
def fits (e : Expr) : Bool :=
  e.automatonSize .forwards ≤ sizeLimit && e.automatonSize .backwards ≤ sizeLimit

/-- Put the parts together. `outer` are the open groups around the one that
    `inner` has the items of, the innermost in front. -/
def build (outer : List Branches) (inner : Branches) : List Token → Except Fault Item
  | [] =>
    match outer with
    | [] => .ok inner.whole
    | _ :: _ => .error .unclosedGroup
  | token :: rest =>
    match token with
    | .chars depth s => build outer (inner.push ⟨.chars s, depth, true⟩) rest
    | .assertion a => build outer (inner.push ⟨.assertion a, 0, true⟩) rest
    | .flags => build outer (inner.push ⟨.empty, 0, false⟩) rest
    | .bar => build outer inner.bar rest
    | .openGroup captures => build (inner :: outer) (.empty captures) rest
    | .closeGroup =>
      match outer with
      | [] => .error .unopenedGroup
      | around :: outer => build outer (around.push inner.close) rest
    | .repetition least most =>
      match inner.repeatLast least most with
      | .ok inner => build outer inner rest
      | .error fault => .error fault

/-- The tree of a list of parts. -/
def ofTokens (tokens : List Token) : Except Fault Expr := do
  let item ← build [] (.empty false) tokens
  if depthLimit < item.depth then .error (.tooDeep depthLimit)
  else if item.expr.fits then return item.expr
  else .error (.tooLarge sizeLimit)

end Expr

end Regex

end ShapeMatch
