import ShapeMatch.Regex.Escape

/-!
# Bracketed Classes

Character classes written in brackets.

A bracketed class lists characters, ranges, named classes and further
bracketed classes, perhaps after a circumflex that asks for the complement.
Two ampersands, hyphens or tildes stand between two such lists and take what
is in both, in the first only, or in exactly one; several of them are taken
from left to right. Hyphens at the start of a class mean themselves, as does a
closing bracket that comes first, and a hyphen that is followed by a closing
bracket or another hyphen is not that of a range.

Where case is ignored, every list is folded before it is combined and the
whole before its complement is taken.

A class counts how deep it is nested. A list of several items adds one to
that, and so does combining two lists.

## Main definitions

* `Regex.Members`: The class listed so far.
* `Regex.readRange`: A character, a range or the class of an escape.
* `Regex.readAscii?`: A named class of ASCII.
* `Regex.readBracket`: A bracketed class.
-/

namespace ShapeMatch

namespace Regex

/-- A list of the items of a class: how many there are, how deep the deepest of
    them is nested, and their union. -/
structure Members where
  items : Nat
  depth : Nat
  accepts : CodeSet

namespace Members

/-- No item. -/
def empty : Members := ⟨0, 0, .empty⟩

/-- Add an item. -/
def push (m : Members) (s : CodeSet) (depth : Nat) : Members :=
  ⟨m.items + 1, max m.depth depth, m.accepts.union s⟩

/-- How deep the list is nested. -/
def listDepth (m : Members) : Nat := if 1 < m.items then m.depth + 1 else m.depth

end Members

/-- How two lists are combined. -/
inductive Combination where
  | intersection
  | difference
  | symmetricDifference

/-- Combine two sets. -/
def Combination.apply : Combination → CodeSet → CodeSet → CodeSet
  | intersection => .intersection
  | difference => .difference
  | symmetricDifference => .symmetricDifference

/-- Read a character or an escape. -/
def readItem (mode : Mode) : List Char → Except Fault (Escape × List Char)
  | [] => .error .unclosedClass
  | '\\' :: rest => Escape.read mode rest
  | c :: rest => .ok (.literal c, rest)

/-- Whether a hyphen is that of a range, from what a look ahead sees behind
    it. -/
def isRangeHyphen (mode : Mode) (behind : List Char) : Bool :=
  match mode.lookAhead behind with
  | ']' :: _ => false
  | '-' :: _ => false
  | _ => true

/-- A character may be listed unless it lies outside of ASCII and Unicode is
    switched off. -/
def listed (mode : Mode) (c : Char) : Except Fault Char :=
  if mode.unicode || c.toNat < 128 then .ok c else .error .unicodeNotAllowed

/-- Read a character, a range of characters or the class of an escape. -/
def readRange (mode : Mode) (input : List Char) : Except Fault (CodeSet × List Char) := do
  let (first, rest) ← readItem mode input
  let alone : Except Fault CodeSet :=
    match first with
    | .literal c => do return .single (← listed mode c)
    | .charClass s => .ok s
    | .assertion _ => .error .classItem
  match mode.skipBlank rest with
  | '-' :: behind =>
    if isRangeHyphen mode behind then
      let (last, rest) ← readItem mode (mode.skipBlank behind)
      match first, last with
      | .literal a, .literal b =>
        if b < a then .error .classRangeReversed
        else return (.range (← listed mode a) (← listed mode b), rest)
      | _, _ => .error .classRangeEnd
    else return (← alone, '-' :: behind)
  | rest => return (← alone, rest)

/-- Read a named class of ASCII, from behind its opening bracket, and whether
    its complement is meant. Anything that is not one may still be a bracketed
    class. -/
def readAscii? : List Char → Option (Bool × CodeSet × List Char)
  | ':' :: input =>
    let (negated, input) :=
      match input with
      | '^' :: input => (true, input)
      | input => (false, input)
    let name := input.takeWhile (· ≠ ':')
    match input.drop name.length, CharClass.ascii? (String.ofList name) with
    | ':' :: ']' :: rest, some s => some (negated, s, rest)
    | _, _ => none
  | _ => none

/-- Take the hyphens at the start of a class. -/
def leadingHyphens (mode : Mode) (members : Members) : Nat → List Char → Members × List Char
  | 0, input => (members, input)
  | count + 1, input =>
    match mode.skipBlank input with
    | '-' :: rest => leadingHyphens mode (members.push (.single '-') 0) count rest
    | input => (members, input)

/-- The list before the first combination, or the combination so far. -/
def combine (mode : Mode) (before : Option (Combination × Nat × CodeSet)) (members : Members) :
    Nat × CodeSet :=
  match before with
  | none => (members.listDepth, members.accepts)
  | some (c, depth, s) =>
    (max depth members.listDepth + 1, c.apply (mode.fold s) (mode.fold members.accepts))

mutual

/-- Read a bracketed class, from behind its opening bracket. Every step takes a
    character, so as many steps as there are characters suffice. -/
def readClass (mode : Mode) : Nat → List Char → Except Fault (Nat × CodeSet × List Char)
  | 0, _ => .error .unclosedClass
  | steps + 1, input =>
    let (negated, input) :=
      match mode.skipBlank input with
      | '^' :: rest => (true, rest)
      | input => (false, input)
    let (members, input) := leadingHyphens mode .empty input.length input
    match members.items, mode.skipBlank input with
    | 0, ']' :: rest => readMembers mode steps negated none (members.push (.single ']') 0) rest
    | _, input => readMembers mode steps negated none members input

/-- Read the items of a class up to its closing bracket. -/
def readMembers (mode : Mode) : Nat → Bool → Option (Combination × Nat × CodeSet) → Members →
    List Char → Except Fault (Nat × CodeSet × List Char)
  | 0, _, _, _, _ => .error .unclosedClass
  | steps + 1, negated, before, members, input =>
    let combined (c : Combination) (rest : List Char) :=
      let (depth, s) := combine mode before members
      readMembers mode steps negated (some (c, depth, s)) .empty rest
    match mode.skipBlank input with
    | [] => .error .unclosedClass
    | '[' :: rest =>
      match readAscii? rest with
      | some (complemented, s, rest) => do
        let s ← mode.shape complemented s
        readMembers mode steps negated before (members.push s 0) rest
      | none => do
        let (depth, s, rest) ← readClass mode steps rest
        readMembers mode steps negated before (members.push s depth) rest
    | ']' :: rest => do
      let (depth, s) := combine mode before members
      let s ← mode.shape negated s
      return (depth + 1, s.canonical, rest)
    | '&' :: '&' :: rest => combined .intersection rest
    | '-' :: '-' :: rest => combined .difference rest
    | '~' :: '~' :: rest => combined .symmetricDifference rest
    | input => do
      let (s, rest) ← readRange mode input
      readMembers mode steps negated before (members.push s 0) rest

end

/-- Read a bracketed class, from behind its opening bracket. The result has the
    depth of its nesting, the class and the rest of the input. -/
def readBracket (mode : Mode) (input : List Char) : Except Fault (Nat × CodeSet × List Char) :=
  readClass mode (2 * input.length + 2) input

end Regex

end ShapeMatch
