/-!
# Faults of Regular Expressions

What can be wrong with the text of a regular expression.

## Main definitions

* `Regex.Fault`: The faults.
* `Regex.Fault.message`: What is said about one.
-/

namespace ShapeMatch

namespace Regex

/-- What can be wrong with the text of a regular expression. -/
inductive Fault where
  | unclosedGroup
  | unopenedGroup
  | lookAround
  | nameEmpty
  | nameInvalid
  | nameUnclosed
  | nameRepeated (name : String)
  | flagUnknown (flag : Char)
  | flagRepeated (flag : Char)
  | flagsDangling
  | flagsUnclosed
  | nothingToRepeat
  | countMissing
  | countUnclosed
  | countTooLarge
  | countReversed
  | unclosedClass
  | classRangeReversed
  | classRangeEnd
  | classItem
  | escapeUnclosed
  | escapeUnknown (c : Char)
  | backreference
  | codeInvalid
  | codeEmpty
  | boundaryUnclosed
  | boundaryUnknown (name : String)
  | propertyUnknown (name : String)
  | unicodeNotAllowed
  | invalidText
  | tooDeep (limit : Nat)
  | tooLarge (limit : Nat)
  deriving DecidableEq

/-- What is said about a fault. -/
def Fault.message : Fault → String
  | unclosedGroup => "unclosed group"
  | unopenedGroup => "unopened group"
  | lookAround => "look-around is not supported"
  | nameEmpty => "empty group name"
  | nameInvalid => "invalid character in a group name"
  | nameUnclosed => "unclosed group name"
  | nameRepeated name => "repeated group name " ++ name
  | flagUnknown flag => "unknown flag " ++ flag.toString
  | flagRepeated flag => "repeated flag " ++ flag.toString
  | flagsDangling => "a negation without a flag"
  | flagsUnclosed => "unclosed flags"
  | nothingToRepeat => "nothing to repeat"
  | countMissing => "missing count in a repetition"
  | countUnclosed => "unclosed repetition"
  | countTooLarge => "count too large in a repetition"
  | countReversed => "the counts of a repetition are in the wrong order"
  | unclosedClass => "unclosed character class"
  | classRangeReversed => "the ends of a range are in the wrong order"
  | classRangeEnd => "the end of a range is not a character"
  | classItem => "not allowed in a character class"
  | escapeUnclosed => "unfinished escape"
  | escapeUnknown c => "unknown escape " ++ c.toString
  | backreference => "backreferences are not supported"
  | codeInvalid => "not the code of a character"
  | codeEmpty => "no digits in the code of a character"
  | boundaryUnclosed => "unclosed word boundary"
  | boundaryUnknown name => "unknown word boundary " ++ name
  | propertyUnknown name => "unknown property " ++ name
  | unicodeNotAllowed => "Unicode is switched off here"
  | invalidText => "could match in the middle of a character"
  | tooDeep limit => "nested more than " ++ toString limit ++ " deep"
  | tooLarge limit => "an automaton of more than " ++ toString limit ++ " bytes"

end Regex

end ShapeMatch
