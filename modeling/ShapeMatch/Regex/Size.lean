import ShapeMatch.Regex.Expr
import ShapeMatch.Text.Utf8

/-!
# Sizes of Regular Expressions

How much room the automata of a regular expression take.

An expression is made into two automata that read a text byte by byte, one
forwards and one backwards. The one that reads forwards also marks what the
groups match. Both write repetitions with counts out, and neither may take more
room than the limit.

An automaton has states of a fixed size. More room is taken by each transition
of a state with several of them, and by each state that a branching leads to.
A single character is a chain of states, one for each byte. A set of characters
of ASCII is one state with a transition for each run of them.

Any other set is written as sequences of ranges of bytes. Forwards, what two
sequences have in common at their beginning is shared, and so are equal ends.
Backwards, the sequences are chains that a branching enters at the last byte.
They share what they have in common from the first byte on.

A choice between several texts is a tree of their bytes in the order of
reading. Texts are tried in their order, so that where one of them ends, what
comes after it in the list is kept apart from what comes before it.

## Main definitions

* `Regex.Direction`: The direction in which an automaton reads.
* `Regex.setSize`: The size of a set of characters.
* `Regex.treeSize`: The size of a choice between texts.
* `Regex.repeatedSize`: The size of a repetition.
* `Regex.Expr.size`: The size of an expression.
* `Regex.Expr.automatonSize`: The size of its automaton.
-/

namespace ShapeMatch

namespace Regex

/-- The direction in which an automaton reads. -/
inductive Direction where
  | forwards
  | backwards
  deriving DecidableEq

/-- The size of a state. -/
def stateSize : Nat := 32

/-- The size of a transition of a state that has several. -/
def transitionSize : Nat := 8

/-- The size of a reference to one of the states that a branching leads to. -/
def branchSize : Nat := 4

/-- The size of a state with a number of transitions. -/
def sparseSize (transitions : Nat) : Nat := stateSize + transitions * transitionSize

/-- The size of a branching into a number of states. -/
def unionSize (branches : Nat) : Nat := stateSize + branches * branchSize

/-- The sum of some sizes. -/
def total : List Nat → Nat
  | [] => 0
  | size :: rest => size + total rest

/-- Put a list into the group of its first item. -/
def addToGroup {α : Type} [DecidableEq α] (a : α) (tail : List α) :
    List (α × List (List α)) → List (α × List (List α))
  | [] => [(a, [tail])]
  | (b, tails) :: groups =>
    if a = b then (b, tail :: tails) :: groups else (b, tails) :: addToGroup a tail groups

/-- The first items of some lists, each with what follows it. Empty lists are
    left out. -/
def byHead {α : Type} [DecidableEq α] : List (List α) → List (α × List (List α))
  | [] => []
  | [] :: rest => byHead rest
  | (a :: tail) :: rest => addToGroup a tail (byHead rest)

/-- The states that share beginnings, each as the list of the sequences that
    lead on from it. `depth` bounds the lengths of the sequences. -/
def sharedStates : Nat → List (List CodeRange) → List (List (List CodeRange))
  | 0, _ => []
  | depth + 1, sequences =>
    let groups := byHead sequences
    if groups.isEmpty then []
    else sequences :: groups.flatMap fun group => sharedStates depth group.2

/-- The size of a set that is read forwards: a state for each list of sequences
    that may lead on, and the end. -/
def forwardSetSize (sequences : List (List CodeRange)) : Nat :=
  let states := (sharedStates 4 sequences).eraseDupsBy fun s t => s = t
  stateSize + total (states.map fun state => sparseSize (byHead state).length)

/-- How many ranges two sequences have in common at their beginning. -/
def commonLength : List CodeRange → List CodeRange → Nat
  | r :: rest, t :: tail => if r = t then commonLength rest tail + 1 else 0
  | _, _ => 0

/-- How many states are left when beginnings are shared with the sequence
    before. -/
def chainStates (before : List CodeRange) : List (List CodeRange) → Nat
  | [] => 0
  | sequence :: rest => sequence.length - commonLength before sequence + chainStates sequence rest

/-- The size of a set that is read backwards: a branching into the chains, their
    states and the end. -/
def backwardSetSize (sequences : List (List CodeRange)) : Nat :=
  unionSize sequences.length + chainStates [] sequences * stateSize + stateSize

/-- The size of a set of characters. -/
def setSize (direction : Direction) (s : CodeSet) : Nat :=
  match s.only? with
  | some code => (Utf8.encode (Char.ofNat code)).length * stateSize
  | none =>
    let ranges := s.canonical.ranges
    if ranges.all (·.last < 0x80) then sparseSize ranges.length + stateSize
    else
      match direction with
      | .forwards => forwardSetSize (Utf8.sequences s)
      | .backwards => backwardSetSize (Utf8.sequences s)

/-- Drop all ends but one in front of the first byte of a list of texts. -/
def dropEnds : List (List Nat) → List (List Nat)
  | [] :: [] :: rest => dropEnds ([] :: rest)
  | texts => texts

/-- The size of the part of a tree that some texts lead on to. `depth` bounds
    their lengths. The ends of texts part the list, each part has a state with a
    transition for each byte that comes next, and a branching leads to the parts
    and the ends in their order. -/
def treeSize : Nat → List (List Nat) → Nat
  | 0, _ => 0
  | depth + 1, texts =>
    let texts := dropEnds texts
    let parts := ((texts.splitOnP List.isEmpty).map byHead).filter fun groups => !groups.isEmpty
    let partSize (groups : List (Nat × List (List Nat))) : Nat :=
      let tails := groups.map (·.2)
      let longer := tails.filter fun texts => !texts.all List.isEmpty
      (if groups.length = 1 then stateSize else sparseSize groups.length) +
        total (longer.map fun texts => treeSize depth texts)
    total (parts.map partSize) + unionSize (parts.length + texts.countP List.isEmpty)

/-- The size of a choice between texts. -/
def textsSize (direction : Direction) (texts : List (List Char)) : Nat :=
  let bytes := texts.map fun text =>
    let bytes := text.flatMap Utf8.encode
    match direction with
    | .forwards => bytes
    | .backwards => bytes.reverse
  let depth := bytes.foldl (fun depth text => max depth text.length) 0
  treeSize (depth + 1) bytes + stateSize

/-- The size of a repetition of an expression of size `size`. A repetition
    without bound needs more room if its expression can match the empty text. -/
def repeatedSize (size : Nat) (mayBeEmpty : Bool) (least : Nat) (most : Option Nat) : Nat :=
  match most with
  | none =>
    if 0 < least then least * size + unionSize 2
    else if mayBeEmpty then size + 2 * unionSize 2 + stateSize
    else size + unionSize 2
  | some most =>
    if least = 0 ∧ most = 1 then unionSize 2 + size + stateSize
    else if most = least then least * size
    else
      (if least = 0 then stateSize else least * size) + stateSize +
        (most - least) * (unionSize 2 + size)

namespace Expr

/-- What the size of a choice depends on: the number of its alternatives, the
    sum of their sizes, and the texts that they match, if each is a text. -/
structure Alternatives where
  count : Nat
  total : Nat
  texts : Option (List (List Char))

/-- The size of a choice between alternatives, or of the only one. -/
def Alternatives.size (direction : Direction) (a : Alternatives) : Nat :=
  if a.count ≤ 1 then a.total
  else
    match a.texts with
    | some texts => textsSize direction texts
    | none => unionSize a.count + a.total + stateSize

/-- The text of two texts, one after the other, where each is the only
    alternative. -/
def joined? : Option (List (List Char)) → Option (List (List Char)) → Option (List (List Char))
  | some [s], some [t] => some [s ++ t]
  | _, _ => none

/-- The alternatives of an expression. -/
def alternatives (direction : Direction) : Expr → Alternatives
  | empty => ⟨1, stateSize, none⟩
  | chars s => ⟨1, setSize direction s, s.only?.map fun code => [[Char.ofNat code]]⟩
  | assertion _ => ⟨1, stateSize, none⟩
  | capture e =>
    let inner := (e.alternatives direction).size direction
    ⟨1, if direction = .forwards then inner + 2 * stateSize else inner, none⟩
  | concat e f =>
    let first := e.alternatives direction
    let second := f.alternatives direction
    ⟨1, first.size direction + second.size direction, joined? first.texts second.texts⟩
  | alternate e f =>
    let first := e.alternatives direction
    let second := f.alternatives direction
    ⟨first.count + second.count, first.total + second.total,
      do return (← first.texts) ++ (← second.texts)⟩
  | repetition e least most =>
    let mayBeEmpty := !(e.leastLength?.any (0 < ·))
    ⟨1, repeatedSize ((e.alternatives direction).size direction) mayBeEmpty least most, none⟩

/-- The size of an expression. -/
def size (direction : Direction) (e : Expr) : Nat := (e.alternatives direction).size direction

/-- Whether an expression starts by an assertion, whatever it matches. -/
def opensWith (a : Assertion) : Expr → Bool
  | assertion b => b = a
  | capture e => e.opensWith a
  | concat e f => e.opensWith a || (e.takesNothing && f.opensWith a)
  | alternate e f => e.opensWith a && f.opensWith a
  | repetition e least _ => 0 < least && e.opensWith a
  | _ => false

/-- Whether an expression ends by an assertion, whatever it matches. -/
def closesWith (a : Assertion) : Expr → Bool
  | assertion b => b = a
  | capture e => e.closesWith a
  | concat e f => f.closesWith a || (f.takesNothing && e.closesWith a)
  | alternate e f => e.closesWith a && f.closesWith a
  | repetition e least _ => 0 < least && e.closesWith a
  | _ => false

/-- The size of what leads up to an expression: any bytes, unless it matches at
    the place where the automaton starts only. -/
def approachSize (direction : Direction) (e : Expr) : Nat :=
  let atStart :=
    match direction with
    | .forwards => e.opensWith .textStart
    | .backwards => e.closesWith .textEnd
  if atStart then stateSize else unionSize 2 + sparseSize 1 + stateSize

/-- The size of the automaton of an expression. It counts as a group, and one
    state accepts. -/
def automatonSize (direction : Direction) (e : Expr) : Nat :=
  e.approachSize direction + e.capture.size direction + stateSize

end Expr

end Regex

end ShapeMatch
