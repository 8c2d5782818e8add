import ShapeMatch.Regex.Mode

/-!
# Escapes

What a backslash and the characters after it stand for.

Most escapes are one character that would otherwise have a meaning, or that
has no form of its own. Codes of characters are hexadecimal, of a fixed number
of digits or in braces. The rest are classes, which also make sense inside a
bracketed class, and assertions, which do not. A digit would refer back to a
group, and nothing can do that here.

## Main definitions

* `Regex.Escape`: What an escape stands for.
* `Regex.Escape.read`: Read an escape.
-/

namespace ShapeMatch

namespace Regex

/-- What an escape stands for. -/
inductive Escape where
  | literal (c : Char)
  | charClass (s : CodeSet)
  | assertion (a : Assertion)

namespace Escape

/-- Whether a character is a hexadecimal digit. -/
def isHex (c : Char) : Bool := c.isDigit || ('a' ≤ c && c ≤ 'f') || ('A' ≤ c && c ≤ 'F')

/-- The character with a code in hexadecimal digits. -/
def ofCode (digits : List Char) : Except Fault Char :=
  let code := CodeSet.hexValue digits
  if digits.isEmpty then .error .codeEmpty
  else if !digits.all isHex then .error .codeInvalid
  else if code.isValidChar then .ok (.ofNat code)
  else .error .codeInvalid

/-- Read a number of digits. -/
def readDigits (mode : Mode) : Nat → List Char → Except Fault (List Char × List Char)
  | 0, input => .ok ([], input)
  | count + 1, input =>
    match mode.skipBlank input with
    | [] => .error .escapeUnclosed
    | c :: rest => do
      let (digits, rest) ← readDigits mode count rest
      return (c :: digits, rest)

/-- Read the code of a character: digits in braces, or `count` of them. Two
    digits without Unicode are the code of a part of a character, unless that
    part is a whole one. -/
def readCode (mode : Mode) (count : Nat) (input : List Char) : Except Fault (Escape × List Char) :=
  match mode.skipBlank input with
  | '\x7b' :: rest =>
    match mode.untilBrace? false rest with
    | none => .error .escapeUnclosed
    | some (digits, rest) => do return (literal (← ofCode digits), rest)
  | input => do
    let (digits, rest) ← readDigits mode count input
    let c ← ofCode digits
    if mode.unicode || count ≠ 2 || c.toNat < 128 then return (literal c, rest)
    else throw .invalidText

/-- The text before and behind the first place where some signs stand. -/
def splitAt? (signs : List Char) : List Char → Option (List Char × List Char)
  | [] => none
  | c :: rest =>
    if signs.isPrefixOf (c :: rest) then some ([], (c :: rest).drop signs.length)
    else (splitAt? signs rest).map fun (before, behind) => (c :: before, behind)

/-- The set of a property. The value of a property of several values stands
    behind its name, with signs of inequality, a colon or an equals sign between
    them. -/
def propertySet (mode : Mode) (negated : Bool) (text : List Char) : Except Fault CodeSet :=
  let (unequal, found) :=
    match splitAt? ['!', '='] text with
    | some (property, value) => (true, CharClass.propertyOf? property value)
    | none =>
      match splitAt? [':'] text <|> splitAt? ['='] text with
      | some (property, value) => (false, CharClass.propertyOf? property value)
      | none => (false, CharClass.property? text)
  if !mode.unicode then .error .unicodeNotAllowed
  else
    match found with
    | none => .error (.propertyUnknown (String.ofList text))
    | some s => mode.shape (negated != unequal) s

/-- Read the name of a property: one letter, or a name in braces. -/
def readProperty (mode : Mode) (negated : Bool) (input : List Char) :
    Except Fault (Escape × List Char) :=
  match mode.skipBlank input with
  | [] => .error .escapeUnclosed
  | '\x7b' :: rest =>
    match mode.untilBrace? false rest with
    | none => .error .escapeUnclosed
    | some (name, rest) => do return (charClass (← propertySet mode negated name), rest)
  | c :: rest => do return (charClass (← propertySet mode negated [c]), rest)

/-- Whether a character may stand in the name of a boundary. -/
def isBoundaryName (c : Char) : Bool := c.isAlpha || c = '-'

/-- Read what follows the escape of a word boundary: a name in braces makes it
    another one, and anything else belongs to what comes next. -/
def readBoundary (mode : Mode) (input : List Char) : Except Fault (Escape × List Char) :=
  match input with
  | '\x7b' :: inner =>
    match mode.untilBrace? false inner with
    | none => .error .boundaryUnclosed
    | some (name, rest) =>
      if !(name.head?.any isBoundaryName) then .ok (assertion (mode.edge .boundary), input)
      else if !name.all isBoundaryName then .error .boundaryUnclosed
      else
        match Mode.namedEdge? (String.ofList name) with
        | some edge => .ok (assertion (mode.edge edge), rest)
        | none => .error (.boundaryUnknown (String.ofList name))
  | _ => .ok (assertion (mode.edge .boundary), input)

/-- Whether a character stands for itself behind a backslash. -/
def isPlain (c : Char) : Bool := c.toNat < 128 && !c.isAlphanum && c ≠ '<' && c ≠ '>'

/-- Read an escape, from behind its backslash. -/
def read (mode : Mode) : List Char → Except Fault (Escape × List Char)
  | [] => .error .escapeUnclosed
  | c :: rest =>
    match c with
    | 'd' => .ok (charClass mode.digit, rest)
    | 's' => .ok (charClass mode.space, rest)
    | 'w' => .ok (charClass mode.word, rest)
    | 'D' => do return (charClass (← mode.negate mode.digit), rest)
    | 'S' => do return (charClass (← mode.negate mode.space), rest)
    | 'W' => do return (charClass (← mode.negate mode.word), rest)
    | 'p' => readProperty mode false rest
    | 'P' => readProperty mode true rest
    | 'x' => readCode mode 2 rest
    | 'u' => readCode mode 4 rest
    | 'U' => readCode mode 8 rest
    | 'a' => .ok (literal '\x07', rest)
    | 'f' => .ok (literal '\x0c', rest)
    | 't' => .ok (literal '\t', rest)
    | 'n' => .ok (literal '\n', rest)
    | 'r' => .ok (literal '\r', rest)
    | 'v' => .ok (literal '\x0b', rest)
    | 'A' => .ok (assertion .textStart, rest)
    | 'z' => .ok (assertion .textEnd, rest)
    | 'b' => readBoundary mode rest
    | 'B' => .ok (assertion (mode.edge .noBoundary), rest)
    | '<' => .ok (assertion (mode.edge .start), rest)
    | '>' => .ok (assertion (mode.edge .stop), rest)
    | c =>
      if c.isDigit then .error .backreference
      else if isPlain c then .ok (literal c, rest)
      else .error (.escapeUnknown c)

end Escape

end Regex

end ShapeMatch
