import ShapeMatch.Json.Numeral
import ShapeMatch.Text.CodeSet

/-!
# Reading JSON

The document that a text denotes.

The grammar is the strict one. Blanks are the space, the tab, the line feed
and the carriage return, numbers have no superfluous zeros, control characters
in strings are escaped, and nothing but blanks follows the document. Codes of
surrogates have to come in pairs. Of several members of one name the last
counts. Arrays and objects are nested at most 127 deep.

A number that is out of range is a fault as well.

## Main definitions

* `Json.Fault`: What can be wrong with a text.
* `Json.readText`: Read a string.
* `Json.readNumber`: Read a number.
* `Json.Document.ofText`: Read a document.
* `Value.ofJson`: Read a value.
-/

namespace ShapeMatch

namespace Json

/-- What can be wrong with a text. -/
inductive Fault where
  | endOfText
  | unexpected (c : Char)
  | controlCharacter
  | escapeUnknown
  | loneSurrogate
  | numberInvalid
  | numberOutOfRange
  | tooDeep
  | trailingText
  deriving DecidableEq

/-- Drop blanks. -/
def skipBlank : List Char → List Char :=
  List.dropWhile fun c => c = ' ' || c = '\t' || c = '\n' || c = '\r'

/-- Put a character in front of what is read after it. -/
def after (c : Char) (result : Except Fault (List Char × List Char)) :
    Except Fault (List Char × List Char) :=
  result.map fun (text, rest) => (c :: text, rest)

/-- The code unit written in four hexadecimal digits. -/
def unit? (digits : List Char) : Option Nat :=
  if digits.all fun c => c.isDigit || ('a' ≤ c && c ≤ 'f') || ('A' ≤ c && c ≤ 'F') then
    some (CodeSet.hexValue digits)
  else none

/-- Whether a code unit is the first one of a pair of surrogates. -/
def isHigh (unit : Nat) : Bool := 0xd800 ≤ unit && unit < 0xdc00

/-- Whether a code unit is the second one of a pair of surrogates. -/
def isLow (unit : Nat) : Bool := 0xdc00 ≤ unit && unit < 0xe000

/-- The character of a pair of surrogates. -/
def ofPair (high low : Nat) : Char :=
  Char.ofNat (0x10000 + (high - 0xd800) * 0x400 + (low - 0xdc00))

/-- The character that an escape of one letter stands for. -/
def escaped? : Char → Option Char
  | '"' => some '"'
  | '\\' => some '\\'
  | '/' => some '/'
  | 'b' => some '\x08'
  | 'f' => some '\x0c'
  | 'n' => some '\n'
  | 'r' => some '\r'
  | 't' => some '\t'
  | _ => none

/-- Read the rest of a string, from behind its opening quote. `high` is the
    first surrogate of a pair that waits for its second. -/
def readText (high : Option Nat) : List Char → Except Fault (List Char × List Char)
  | [] => .error .endOfText
  | '\\' :: 'u' :: a :: b :: c :: d :: rest =>
    match high, unit? [a, b, c, d] with
    | _, none => .error .escapeUnknown
    | some high, some unit =>
      if isLow unit then after (ofPair high unit) (readText none rest)
      else .error .loneSurrogate
    | none, some unit =>
      if isHigh unit then readText (some unit) rest
      else if isLow unit then .error .loneSurrogate
      else after (Char.ofNat unit) (readText none rest)
  | '\\' :: c :: rest =>
    match high, escaped? c with
    | some _, _ => .error .loneSurrogate
    | none, some e => after e (readText none rest)
    | none, none => .error .escapeUnknown
  | c :: rest =>
    if high.isSome then .error .loneSurrogate
    else if c = '"' then .ok ([], rest)
    else if c = '\\' then .error .endOfText
    else if c < ' ' then .error .controlCharacter
    else after c (readText none rest)

/-- Take the decimal digits at the start. -/
def takeDigits (input : List Char) : List Char × List Char :=
  (input.takeWhile Char.isDigit, input.dropWhile Char.isDigit)

/-- Read the digits before the point: a zero alone, or digits that do not begin
    with one. -/
def readWhole (input : List Char) : Except Fault (List Char × List Char) :=
  match takeDigits input with
  | ([], _) => .error .numberInvalid
  | ('0' :: _ :: _, _) => .error .numberInvalid
  | digits => .ok digits

/-- Read a point and the digits behind it, if there is a point. -/
def readFraction : List Char → Except Fault (Option (List Char) × List Char)
  | '.' :: rest =>
    match takeDigits rest with
    | ([], _) => .error .numberInvalid
    | (digits, rest) => .ok (some digits, rest)
  | rest => .ok (none, rest)

/-- Read an exponent, if there is one. -/
def readExponent (input : List Char) : Except Fault (Option Int × List Char) :=
  match input with
  | c :: rest =>
    if c = 'e' ∨ c = 'E' then
      let (negative, rest) :=
        match rest with
        | '-' :: rest => (true, rest)
        | '+' :: rest => (false, rest)
        | rest => (false, rest)
      match takeDigits rest with
      | ([], _) => .error .numberInvalid
      | (digits, rest) =>
        let value : Int := digits.foldl (fun n c => 10 * n + digitValue c) 0
        .ok (some (if negative then -value else value), rest)
    else .ok (none, input)
  | [] => .ok (none, input)

/-- Read a number, from behind its sign. -/
def readNumber (negative : Bool) (input : List Char) : Except Fault (Number × List Char) := do
  let (whole, rest) ← readWhole input
  let (fraction, rest) ← readFraction rest
  let (exponent, rest) ← readExponent rest
  match (Numeral.mk negative whole fraction exponent).value? with
  | some number => return (number, rest)
  | none => throw .numberOutOfRange

/-- Read a word that stands for a document. -/
def readWord (word : List Char) (d : Document) (input : List Char) :
    Except Fault (Document × List Char) :=
  if word.isPrefixOf input then .ok (d, input.drop word.length)
  else
    match input with
    | [] => .error .endOfText
    | c :: _ => .error (.unexpected c)

/-- The fault of an input that goes on in no allowed way. -/
def unexpected {α : Type} : List Char → Except Fault α
  | [] => .error .endOfText
  | c :: _ => .error (.unexpected c)

/-- How deep arrays and objects may be nested. -/
def depthLimit : Nat := 127

mutual

/-- Read a document. `steps` bounds the recursion and `depth` the nesting that
    is still allowed. -/
def readDocument : Nat → Nat → List Char → Except Fault (Document × List Char)
  | 0, _, _ => .error .endOfText
  | steps + 1, depth, input =>
    match skipBlank input with
    | [] => .error .endOfText
    | c :: rest =>
      match c with
      | 'n' => readWord "null".toList .null (c :: rest)
      | 't' => readWord "true".toList (.bool true) (c :: rest)
      | 'f' => readWord "false".toList (.bool false) (c :: rest)
      | '"' => do
        let (text, rest) ← readText none rest
        return (.str (String.ofList text), rest)
      | '-' => do
        let (n, rest) ← readNumber true rest
        return (.number n, rest)
      | '[' =>
        match depth with
        | 0 => .error .tooDeep
        | depth + 1 =>
          match skipBlank rest with
          | ']' :: rest => .ok (.array [], rest)
          | rest => do
            let (items, rest) ← readItems steps depth rest
            return (.array items, rest)
      | '\x7b' =>
        match depth with
        | 0 => .error .tooDeep
        | depth + 1 =>
          match skipBlank rest with
          | '\x7d' :: rest => .ok (.object .empty, rest)
          | rest => do
            let (members, rest) ← readMembers steps depth rest
            return (.object (.ofList members), rest)
      | c => do
        if c.isDigit then
          let (n, rest) ← readNumber false (c :: rest)
          return (.number n, rest)
        else .error (.unexpected c)

/-- Read the items of an array, and its closing bracket. -/
def readItems : Nat → Nat → List Char → Except Fault (List Document × List Char)
  | 0, _, _ => .error .endOfText
  | steps + 1, depth, input => do
    let (item, rest) ← readDocument steps depth input
    match skipBlank rest with
    | ',' :: rest => do
      let (items, rest) ← readItems steps depth rest
      return (item :: items, rest)
    | ']' :: rest => return ([item], rest)
    | rest => unexpected rest

/-- Read the members of an object, and its closing brace. -/
def readMembers : Nat → Nat → List Char → Except Fault (List (String × Document) × List Char)
  | 0, _, _ => .error .endOfText
  | steps + 1, depth, input =>
    match skipBlank input with
    | '"' :: rest => do
      let (name, rest) ← readText none rest
      match skipBlank rest with
      | ':' :: rest => do
        let (d, rest) ← readDocument steps depth rest
        let member := (String.ofList name, d)
        match skipBlank rest with
        | ',' :: rest => do
          let (members, rest) ← readMembers steps depth rest
          return (member :: members, rest)
        | '\x7d' :: rest => return ([member], rest)
        | rest => unexpected rest
      | rest => unexpected rest
    | rest => unexpected rest

end

/-- The document that a text denotes. Every two steps of the recursion take a
    character. -/
def Document.ofText (text : String) : Except Fault Document := do
  let (d, rest) ← readDocument (2 * text.length + 2) depthLimit text.toList
  if (skipBlank rest).isEmpty then return d else .error .trailingText

end Json

/-- The value that a JSON text stands for. -/
def Value.ofJson (text : String) : Except Json.Fault Value :=
  (Json.Document.ofText text).map Value.ofDocument

end ShapeMatch
