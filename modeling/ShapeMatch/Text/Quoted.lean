import ShapeMatch.Text.Property

/-!
# Quoted Text

Strings between double quotes, as they stand in the text of a value.

The quote and the backslash are escaped by a backslash, and so are the line
feed, the carriage return, the tab and the zero character, which have a letter
or a digit of their own. A character that does not show by itself, or that
would join the one before it, is written as its code point: a backslash, a `u`
and the hexadecimal digits in braces. All others are written as they are.

## Main definitions

* `Quoted.needsCode`: Characters that are written as their code point.
* `Quoted.encodeChar`: One character between quotes.
* `Quoted.encode`: A text between quotes, with the quotes.
* `quote`: The same for strings.
-/

namespace ShapeMatch

namespace Quoted

/-- Characters that are written as their code point. The visible characters of
    ASCII never are. -/
def needsCode (c : Char) : Bool :=
  if ' ' ≤ c ∧ c ≤ '~' then false
  else Property.extendsGrapheme c || Property.isUnprintable c

/-- A character written as its code point. -/
def codeEscape (c : Char) : List Char :=
  ['\\', 'u', '\x7b'] ++ Nat.toDigits 16 c.toNat ++ ['\x7d']

/-- A character as it stands between quotes. -/
def encodeChar (c : Char) : List Char :=
  match c with
  | '"' => ['\\', '"']
  | '\\' => ['\\', '\\']
  | '\n' => ['\\', 'n']
  | '\r' => ['\\', 'r']
  | '\t' => ['\\', 't']
  | '\x00' => ['\\', '0']
  | c => if needsCode c then codeEscape c else [c]

/-- A text between quotes. -/
def encode (text : List Char) : List Char := '"' :: (text.flatMap encodeChar ++ ['"'])

end Quoted

/-- A string between quotes. -/
def quote (s : String) : String := String.ofList (Quoted.encode s.toList)

end ShapeMatch
