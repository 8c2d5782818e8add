import ShapeMatch.Regex.Expr

/-!
# Searching a Text

Whether a regular expression matches somewhere in a text.

The positions in a text are counted from zero before the first character to
its length behind the last. A set of positions is a natural number, whose bits
tell the members. An expression takes the set of positions where it may start
to the set of those where it may end, and it matches somewhere if it reaches
anything from the set of all positions.

Because sets of positions are all that is passed on, an expression never takes
one way through the text twice. What a repetition without bound reaches from a
position is worked out once for each position, from the last to the first: no
expression leads back, so a round leads to the position itself or to one that
has been worked out before. This keeps repetitions of repetitions cheap.

## Main definitions

* `Regex.Reach`: A way from sets of positions to sets of positions.
* `Regex.Reach.run`: What is reached from a set.
* `Regex.Reach.onceOrMore`: What a repetition without bound reaches from each
  position.
* `Regex.Expr.reach`: The ways that an expression takes through a text.
* `Regex.Expr.occursIn`: Whether an expression matches somewhere.
-/

namespace ShapeMatch

namespace Regex

/-- A way through a text, from sets of positions to sets of positions. -/
inductive Reach where
  /-- Stay at each position. -/
  | stay
  /-- Stay at the positions of a set. -/
  | stayAt (allowed : Nat)
  /-- Go on to the next position from those of a set. -/
  | advance (allowed : Nat)
  /-- One way and then another. -/
  | andThen (first second : Reach)
  /-- Either of two ways. -/
  | either (first second : Reach)
  /-- One way a number of times, and then at most `more` times. -/
  | times (step : Reach) (least more : Nat)
  /-- From each position to the set that is listed for it, from the last position
      on. -/
  | listed (rows : Array Nat)

namespace Reach

/-- The set of the indices at which a list is true. -/
def bits : List Bool → Nat
  | [] => 0
  | b :: rest => 2 * bits rest + b.toNat

/-- Take one step, a number of times, unless nothing changes any more. -/
def exactly (step : Nat → Nat) : Nat → Nat → Nat
  | 0, start => start
  | count + 1, start =>
    let reached := step start
    if reached = start then start else exactly step count reached

/-- Take one step, at most a number of times, and keep what was reached on the
    way. -/
def upTo (step : Nat → Nat) : Nat → Nat → Nat
  | 0, start => start
  | count + 1, start =>
    let reached := start ||| step start
    if reached = start then start else upTo step count reached

/-- What is reached from the members of a set, where `row` gives what any number
    of steps reaches from a position. A member that is reached from a lower one
    leads nowhere else and is passed over. -/
def follow (row : Nat → Nat) (set : Nat) : Nat :=
  if set = 0 then 0
  else
    let lowest := (set ^^^ (set - 1)).log2
    let reached := row lowest
    let others := set - Nat.pow 2 lowest
    reached ||| follow row (others - (others &&& reached))
termination_by set
decreasing_by
  have : 0 < Nat.pow 2 (set ^^^ (set - 1)).log2 := Nat.pow_pos (by decide)
  omega

/-- The set that is listed for a position, where the sets for the positions of a
    text are listed from the last position on. -/
def rowOf (length : Nat) (rows : Array Nat) (position : Nat) : Nat :=
  rows.getD (length - position) 0

/-- What one step or more reach from each of the last `count` positions of a text
    of length `length`, from the last position on. -/
def onceOrMore (step : Nat → Nat) (length : Nat) : Nat → Array Nat
  | 0 => #[]
  | count + 1 =>
    let rows := onceOrMore step length count
    let position := length - count
    let reached := step (1 <<< position)
    -- No position that comes before is reached.
    let later := (reached >>> (position + 1)) <<< (position + 1)
    rows.push (reached ||| follow (rowOf length rows) later)

/-- What is reached from a set of positions in a text of length `length`. -/
def run (length : Nat) : Reach → Nat → Nat
  | stay, start => start
  | stayAt allowed, start => start &&& allowed
  | advance allowed, start => (start &&& allowed) <<< 1
  | andThen first second, start => second.run length (first.run length start)
  | either first second, start => first.run length start ||| second.run length start
  | times step least more, start =>
    upTo (step.run length) more (exactly (step.run length) least start)
  | listed rows, start => follow (rowOf length rows) start

end Reach

/-- The pairs of neighbours in a text, from before the first character to behind
    the last. -/
def neighbours (before : Option Char) : List Char → List (Option Char × Option Char)
  | [] => [(before, none)]
  | c :: rest => (before, some c) :: neighbours (some c) rest

namespace Expr

/-- The ways that an expression takes through a text. -/
def reach (text : List Char) : Expr → Reach
  | empty => .stay
  | chars s => .advance (Reach.bits (text.map s.contains))
  | assertion a =>
    let places := neighbours none text
    .stayAt (Reach.bits (places.map fun (before, after) => a.holds before after))
  | capture e => reach text e
  | concat e f => .andThen (reach text e) (reach text f)
  | alternate e f => .either (reach text e) (reach text f)
  | repetition e least most =>
    let step := reach text e
    match most with
    | some most => .times step least (most - least)
    | none =>
      let length := text.length
      let more := Reach.listed (Reach.onceOrMore (step.run length) length (length + 1))
      if least = 0 then .either .stay more else .andThen (.times step (least - 1) 0) more

/-- Whether an expression matches somewhere in a text. -/
def occursIn (e : Expr) (text : List Char) : Bool :=
  let everywhere := Reach.bits (List.replicate (text.length + 1) true)
  (e.reach text).run text.length everywhere ≠ 0

end Expr

end Regex

end ShapeMatch
