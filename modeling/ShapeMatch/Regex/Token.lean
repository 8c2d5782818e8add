import ShapeMatch.Regex.Bracket

/-!
# Parts of Regular Expressions

The parts that the text of a regular expression falls into.

Flags, blanks and the spelling of characters are settled here, so what is left
are characters to be matched, assertions, repetitions, alternatives and
groups. Groups have no numbers, since nothing refers to them; but their names
have to be in order and different from each other.

## Main definitions

* `Regex.Token`: The parts.
* `Regex.Reader`: What there is still to read, and the mode to read it in.
* `Regex.Token.ofText`: The parts of a text.
-/

namespace ShapeMatch

namespace Regex

/-- A part of a regular expression. -/
inductive Token where
  /-- One character of a set, with the depth to which its class is nested. -/
  | chars (depth : Nat) (s : CodeSet)
  | assertion (a : Assertion)
  /-- The part before it, at least `least` times and at most `most` times. -/
  | repetition (least : Nat) (most : Option Nat)
  | bar
  /-- The start of a group, and whether what it matches is kept. -/
  | openGroup (captures : Bool)
  | closeGroup
  /-- A change of flags. -/
  | flags

/-- What there is still to read, and how. -/
structure Reader where
  input : List Char
  /-- The mode in force. -/
  mode : Mode
  /-- The modes to return to at the ends of the open groups. -/
  outer : List Mode
  /-- The names of groups met so far. -/
  names : List String

namespace Reader

/-- Start reading a text. -/
def ofText (text : String) : Reader := ⟨text.toList, .initial, [], []⟩

/-- Go on with the rest of the input. -/
def advance (r : Reader) (rest : List Char) : Reader := { r with input := rest }

/-- Whether a character may stand in the name of a group. -/
def isNameCharacter (first : Bool) (c : Char) : Bool :=
  c = '_' || Property.isAlphabetic c ||
    (!first && (c = '.' || c = '[' || c = ']' || Property.isNumeric c))

/-- Read the name of a group and the angle bracket behind it. -/
def readName (r : Reader) (input : List Char) : Except Fault (Token × Reader) :=
  let name := input.takeWhile (· ≠ '>')
  let text := String.ofList name
  match input.drop name.length with
  | [] => .error .nameUnclosed
  | _ :: rest =>
    match name with
    | [] => .error .nameEmpty
    | c :: others =>
      if !(isNameCharacter true c && others.all (isNameCharacter false)) then .error .nameInvalid
      else if text ∈ r.names then .error (.nameRepeated text)
      else .ok (.openGroup true, ⟨rest, r.mode, r.mode :: r.outer, text :: r.names⟩)

/-- Read what opens a group or changes the flags of one, from behind the
    parenthesis. -/
def readOpening (r : Reader) (input : List Char) : Except Fault (Token × Reader) :=
  match r.mode.skipBlank input with
  | '?' :: '=' :: _ => .error .lookAround
  | '?' :: '!' :: _ => .error .lookAround
  | '?' :: '<' :: '=' :: _ => .error .lookAround
  | '?' :: '<' :: '!' :: _ => .error .lookAround
  | '?' :: 'P' :: '<' :: rest => r.readName rest
  | '?' :: '<' :: rest => r.readName rest
  | '?' :: rest => do
    let (mode, stop, rest) ← r.mode.ofFlags rest
    if stop = ')' then return (.flags, { r with input := rest, mode })
    else return (.openGroup false, { r with input := rest, mode, outer := r.mode :: r.outer })
  | rest => .ok (.openGroup true, { r with input := rest, outer := r.mode :: r.outer })

/-- Read what closes a group. -/
def readClosing (r : Reader) (rest : List Char) : Except Fault (Token × Reader) :=
  match r.outer with
  | [] => .error .unopenedGroup
  | mode :: outer => .ok (.closeGroup, { r with input := rest, mode, outer })

/-- Drop the mark of a lazy repetition. It does not change what matches. -/
def dropLazy : List Char → List Char
  | '?' :: rest => rest
  | rest => rest

/-- Read the digits of a count. Blanks between them are skipped where blanks
    are ignored. -/
def countDigits (mode : Mode) (digits : List Char) : Nat → List Char → List Char × List Char
  | 0, input => (digits, input)
  | steps + 1, input =>
    match input with
    | c :: rest =>
      if c.isDigit then countDigits mode (digits ++ [c]) steps (mode.skipBlank rest)
      else (digits, input)
    | [] => (digits, input)

/-- Read a count, with white space around it. -/
def readCount (mode : Mode) (input : List Char) : Except Fault (Nat × List Char) :=
  let input := input.dropWhile Property.isWhitespace
  let (digits, rest) := countDigits mode [] input.length input
  let count := digits.foldl (fun n c => 10 * n + (c.toNat - 48)) 0
  if digits.isEmpty then .error .countMissing
  else if UInt32.size ≤ count then .error .countTooLarge
  else .ok (count, rest.dropWhile Property.isWhitespace)

/-- Read the end of a repetition with counts. -/
def closeCount (r : Reader) (least : Nat) (most : Option Nat) (input : List Char) :
    Except Fault (Token × Reader) :=
  match input with
  | '\x7d' :: rest =>
    if most.any (· < least) then .error .countReversed
    else .ok (.repetition least most, r.advance (dropLazy (r.mode.skipBlank rest)))
  | _ => .error .countUnclosed

/-- Read a repetition with counts, from behind its opening brace. -/
def readCounts (r : Reader) (input : List Char) : Except Fault (Token × Reader) := do
  let (least, rest) ← readCount r.mode (r.mode.skipBlank input)
  match rest with
  | ',' :: rest =>
    match r.mode.skipBlank rest with
    | '\x7d' :: rest => r.closeCount least none ('\x7d' :: rest)
    | rest => do
      let (most, rest) ← readCount r.mode rest
      r.closeCount least (some most) rest
  | rest => r.closeCount least (some least) rest

/-- Read an escape outside of brackets. -/
def readEscape (r : Reader) (input : List Char) : Except Fault (Token × Reader) := do
  let (escape, rest) ← Escape.read r.mode input
  match escape with
  | .literal c => return (.chars 0 (r.mode.literal c), r.advance rest)
  | .charClass s => return (.chars 0 s, r.advance rest)
  | .assertion a => return (.assertion a, r.advance rest)

/-- Read the next part, if there is one. -/
def next? (r : Reader) : Except Fault (Option (Token × Reader)) :=
  match r.mode.skipBlank r.input with
  | [] => .ok none
  | c :: rest => some <$>
    match c with
    | '(' => r.readOpening rest
    | ')' => r.readClosing rest
    | '|' => .ok (.bar, r.advance rest)
    | '?' => .ok (.repetition 0 (some 1), r.advance (dropLazy rest))
    | '*' => .ok (.repetition 0 none, r.advance (dropLazy rest))
    | '+' => .ok (.repetition 1 none, r.advance (dropLazy rest))
    | '\x7b' => r.readCounts rest
    | '[' => do
      let (depth, s, rest) ← readBracket r.mode rest
      return (.chars depth s, r.advance rest)
    | '\\' => r.readEscape rest
    | '.' => do return (.chars 0 (← r.mode.dot), r.advance rest)
    | '^' => .ok (.assertion r.mode.lineStart, r.advance rest)
    | '$' => .ok (.assertion r.mode.lineEnd, r.advance rest)
    | c => .ok (.chars 0 (r.mode.literal c), r.advance rest)

/-- Read all parts. Every part takes a character, so as many steps as there are
    characters suffice. -/
def readAll : Nat → Reader → Except Fault (List Token)
  | 0, _ => .ok []
  | steps + 1, r => do
    match ← r.next? with
    | none => return []
    | some (token, r) => return token :: (← readAll steps r)

end Reader

/-- The parts of a text. -/
def Token.ofText (text : String) : Except Fault (List Token) :=
  Reader.readAll (text.length + 1) (.ofText text)

end Regex

end ShapeMatch
