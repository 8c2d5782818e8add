import ShapeMatch.Regex.Assertion
import ShapeMatch.Regex.CharClass
import ShapeMatch.Regex.Fault

/-!
# Modes of Regular Expressions

What the flags of a regular expression decide.

A flag holds from where it is set to the end of the enclosing group. Setting
flags alone, as in `(?im-s)`, changes the mode for the rest of that group;
setting them before a colon makes a group of their own. Each flag may be named
once, and the flags behind a hyphen are switched off.

With blanks ignored, white space and comments from `#` to the end of the line
may stand between any two parts of an expression. A look ahead passes over
white space and over the sign of one comment, but not over what the comment
says.

## Main definitions

* `Regex.Mode`: The flags in force.
* `Regex.Mode.skipBlank`: Drop blanks and comments where they are ignored.
* `Regex.Mode.lookAhead`: What a look ahead sees.
* `Regex.Mode.ofFlags`: Read a list of flags.
* `Regex.Mode.digit`, `Regex.Mode.space`, `Regex.Mode.word`: Classes that
  depend on the mode.
* `Regex.Mode.lineStart`, `Regex.Mode.lineEnd`, `Regex.Mode.edge`: Assertions
  that depend on the mode.
-/

namespace ShapeMatch

namespace Regex

/-- The flags in force. -/
structure Mode where
  /-- Letters match in either case. -/
  ignoreCase : Bool
  /-- The anchors also match at the ends of lines. -/
  multiLine : Bool
  /-- The dot also matches a line feed. -/
  dotAll : Bool
  /-- Greedy and lazy repetitions change places. -/
  swapGreed : Bool
  /-- Classes reach beyond ASCII. -/
  unicode : Bool
  /-- A carriage return also ends a line. -/
  carriageReturn : Bool
  /-- Blanks and comments are ignored. -/
  ignoreBlank : Bool
  deriving DecidableEq

namespace Mode

/-- The mode at the start of an expression. -/
def initial : Mode := ⟨false, false, false, false, true, false, false⟩

/-- Switch one flag. -/
def set? (mode : Mode) (flag : Char) (on : Bool) : Option Mode :=
  match flag with
  | 'i' => some { mode with ignoreCase := on }
  | 'm' => some { mode with multiLine := on }
  | 's' => some { mode with dotAll := on }
  | 'U' => some { mode with swapGreed := on }
  | 'u' => some { mode with unicode := on }
  | 'R' => some { mode with carriageReturn := on }
  | 'x' => some { mode with ignoreBlank := on }
  | _ => none

/-- Drop white space and comments. -/
def dropBlank (inComment : Bool) : List Char → List Char
  | [] => []
  | c :: rest =>
    if inComment then dropBlank (c ≠ '\n') rest
    else if Property.isWhitespace c then dropBlank false rest
    else if c = '#' then dropBlank true rest
    else c :: rest

/-- Drop white space and comments if they are ignored. -/
def skipBlank (mode : Mode) (input : List Char) : List Char :=
  if mode.ignoreBlank then dropBlank false input else input

/-- What a look ahead sees where blanks are ignored. -/
def lookAhead (mode : Mode) (input : List Char) : List Char :=
  if mode.ignoreBlank then
    match input.dropWhile Property.isWhitespace with
    | '#' :: comment => comment.dropWhile Property.isWhitespace
    | rest => rest
  else input

/-- Read up to a closing brace, without ignored blanks and comments. -/
def untilBrace? (mode : Mode) (inComment : Bool) : List Char → Option (List Char × List Char)
  | [] => none
  | c :: rest =>
    if inComment then mode.untilBrace? (c ≠ '\n') rest
    else if c = '\x7d' then some ([], rest)
    else if mode.ignoreBlank && Property.isWhitespace c then mode.untilBrace? false rest
    else if mode.ignoreBlank && c = '#' then mode.untilBrace? true rest
    else (mode.untilBrace? false rest).map fun (text, after) => (c :: text, after)

/-- Read flags up to a colon or a closing parenthesis. `seen` lists the flags
    read so far, `off` tells that a hyphen is among them and `dangling` that it
    came last. -/
def readFlags (mode : Mode) (seen : List Char) (off dangling : Bool) :
    List Char → Except Fault (Mode × Char × List Char)
  | [] => .error .flagsUnclosed
  | c :: rest =>
    if c = ':' ∨ c = ')' then
      if dangling then .error .flagsDangling
      else if c = ')' ∧ seen.isEmpty then .error .nothingToRepeat
      else .ok (mode, c, rest)
    else if c = '-' then
      if off then .error (.flagRepeated c) else readFlags mode seen true true rest
    else if c ∈ seen then .error (.flagRepeated c)
    else
      match mode.set? c !off with
      | some mode => readFlags mode (c :: seen) off false rest
      | none => .error (.flagUnknown c)

/-- Read the flags of a group or of the rest of one. The result has the
    character that ended them. -/
def ofFlags (mode : Mode) (input : List Char) : Except Fault (Mode × Char × List Char) :=
  mode.readFlags [] false false input

/-- Decimal digits. -/
def digit (mode : Mode) : CodeSet :=
  if mode.unicode then Category.decimalNumber.members else .range '0' '9'

/-- White space. -/
def space (mode : Mode) : CodeSet :=
  if mode.unicode then Property.whitespace else CharClass.asciiSpace

/-- What a word may consist of. -/
def word (mode : Mode) : CodeSet := if mode.unicode then Property.word else CharClass.asciiWord

/-- Fold a set where case is ignored. -/
def fold (mode : Mode) (s : CodeSet) : CodeSet :=
  if mode.ignoreCase then (if mode.unicode then s.folded else s.foldedAscii) else s

/-- Take the complement of a set. Without Unicode it would have members that
    are parts of characters. -/
def negate (mode : Mode) (s : CodeSet) : Except Fault CodeSet :=
  if mode.unicode then .ok s.complement else .error .invalidText

/-- Fold a set where case is ignored, and then take its complement if asked
    to. -/
def shape (mode : Mode) (negated : Bool) (s : CodeSet) : Except Fault CodeSet :=
  if negated then mode.negate (mode.fold s) else .ok (mode.fold s)

/-- One character, in the cases in which it matches. -/
def literal (mode : Mode) (c : Char) : CodeSet := mode.fold (.single c)

/-- Any character, but where lines count no end of a line. -/
def dot (mode : Mode) : Except Fault CodeSet :=
  mode.negate
    (if mode.dotAll then .empty
    else if mode.carriageReturn then .ofList ['\n', '\r']
    else .single '\n')

/-- The start of the text, or of a line where lines count. -/
def lineStart (mode : Mode) : Assertion :=
  if mode.multiLine then .lineStart mode.carriageReturn else .textStart

/-- The end of the text, or of a line where lines count. -/
def lineEnd (mode : Mode) : Assertion :=
  if mode.multiLine then .lineEnd mode.carriageReturn else .textEnd

/-- A condition on words. -/
def edge (mode : Mode) (edge : WordEdge) : Assertion := .word edge mode.unicode

/-- The condition on words with a name in braces. -/
def namedEdge? : String → Option WordEdge
  | "start" => some .start
  | "end" => some .stop
  | "start-half" => some .noneBefore
  | "end-half" => some .noneAfter
  | _ => none

end Mode

end Regex

end ShapeMatch
