import ShapeMatch.Text.CaseFolding
import ShapeMatch.Text.NamedProperty
import ShapeMatch.Text.Script

/-!
# Named Character Classes

The sets of characters that a regular expression can ask for by name.

The classes of ASCII have names of their own. All other names are those of
properties: of general categories and groups of them, of scripts, and of the
properties that a character has or has not. They are compared without regard to
case, blanks, hyphens and underscores, and `is` may stand in front of them. A
name that alone would mean several things means a property before a category,
and a category before a script. Categories and scripts may also be asked for as
such.

## Main definitions

* `CharClass.ascii?`: A class of ASCII by its name.
* `CharClass.looseName`: The form in which names of properties are compared.
* `CharClass.property?`: A property, a category or a script by its name.
* `CharClass.propertyOf?`: A category or a script, asked for as such.
-/

namespace ShapeMatch

namespace Regex

namespace CharClass

/-- The letters of ASCII. -/
def asciiLetters : CodeSet := (CodeSet.range 'A' 'Z').union (.range 'a' 'z')

/-- The letters and digits of ASCII. -/
def asciiAlphanumeric : CodeSet := asciiLetters.union (.range '0' '9')

/-- The blanks of ASCII. -/
def asciiSpace : CodeSet := (CodeSet.range '\t' '\r').union (.single ' ')

/-- What a word of ASCII may consist of. -/
def asciiWord : CodeSet := asciiAlphanumeric.union (.single '_')

/-- The classes of ASCII, by their names. -/
def ascii? : String → Option CodeSet
  | "alnum" => some asciiAlphanumeric
  | "alpha" => some asciiLetters
  | "ascii" => some (.range '\x00' '\x7f')
  | "blank" => some (.ofList ['\t', ' '])
  | "cntrl" => some ((CodeSet.range '\x00' '\x1f').union (.single '\x7f'))
  | "digit" => some (.range '0' '9')
  | "graph" => some (.range '!' '~')
  | "lower" => some (.range 'a' 'z')
  | "print" => some (.range ' ' '~')
  | "punct" => some ((CodeSet.range '!' '~').difference asciiAlphanumeric)
  | "space" => some asciiSpace
  | "upper" => some (.range 'A' 'Z')
  | "word" => some asciiWord
  | "xdigit" => some (CodeSet.unions [.range '0' '9', .range 'A' 'F', .range 'a' 'f'])
  | _ => none

/-- The form in which names of properties are compared. The name `isc` keeps its
    beginning, since it is not another spelling of `c`. -/
def looseName (name : List Char) : String :=
  let simple (cs : List Char) :=
    (cs.filter fun c => c.toNat < 128 && c ≠ ' ' && c ≠ '_' && c ≠ '-').map Char.toLower
  match name with
  | i :: s :: rest =>
    if i.toLower = 'i' ∧ s.toLower = 's' then
      if simple rest = ['c'] then "isc" else String.ofList (simple rest)
    else String.ofList (simple name)
  | _ => String.ofList (simple name)

/-- The names of the categories, and of their groups. -/
def categoryNames : List (List String × List Category) :=
  [(["lu", "uppercaseletter"], [.uppercaseLetter]),
   (["ll", "lowercaseletter"], [.lowercaseLetter]),
   (["lt", "titlecaseletter"], [.titlecaseLetter]),
   (["lc", "casedletter"], [.uppercaseLetter, .lowercaseLetter, .titlecaseLetter]),
   (["lm", "modifierletter"], [.modifierLetter]),
   (["lo", "otherletter"], [.otherLetter]),
   (["l", "letter"],
    [.uppercaseLetter, .lowercaseLetter, .titlecaseLetter, .modifierLetter, .otherLetter]),
   (["mn", "nonspacingmark"], [.nonspacingMark]),
   (["mc", "spacingmark"], [.spacingMark]),
   (["me", "enclosingmark"], [.enclosingMark]),
   (["m", "mark", "combiningmark"], [.nonspacingMark, .spacingMark, .enclosingMark]),
   (["nd", "decimalnumber", "digit"], [.decimalNumber]),
   (["nl", "letternumber"], [.letterNumber]),
   (["no", "othernumber"], [.otherNumber]),
   (["n", "number"], [.decimalNumber, .letterNumber, .otherNumber]),
   (["pc", "connectorpunctuation"], [.connectorPunctuation]),
   (["pd", "dashpunctuation"], [.dashPunctuation]),
   (["ps", "openpunctuation"], [.openPunctuation]),
   (["pe", "closepunctuation"], [.closePunctuation]),
   (["pi", "initialpunctuation"], [.initialPunctuation]),
   (["pf", "finalpunctuation"], [.finalPunctuation]),
   (["po", "otherpunctuation"], [.otherPunctuation]),
   (["p", "punctuation", "punct"],
    [.connectorPunctuation, .dashPunctuation, .openPunctuation, .closePunctuation,
     .initialPunctuation, .finalPunctuation, .otherPunctuation]),
   (["sm", "mathsymbol"], [.mathSymbol]),
   (["sc", "currencysymbol"], [.currencySymbol]),
   (["sk", "modifiersymbol"], [.modifierSymbol]),
   (["so", "othersymbol"], [.otherSymbol]),
   (["s", "symbol"], [.mathSymbol, .currencySymbol, .modifierSymbol, .otherSymbol]),
   (["zs", "spaceseparator"], [.spaceSeparator]),
   (["zl", "lineseparator"], [.lineSeparator]),
   (["zp", "paragraphseparator"], [.paragraphSeparator]),
   (["z", "separator"], [.spaceSeparator, .lineSeparator, .paragraphSeparator]),
   (["cc", "control", "cntrl"], [.control]),
   (["cf", "format"], [.format]),
   (["co", "privateuse"], [.privateUse]),
   (["cn", "unassigned"], [.unassigned]),
   (["c", "other"], [.control, .format, .privateUse, .unassigned])]

/-- The characters of the category with a name, or of a group of categories. -/
def category? (name : String) : Option CodeSet :=
  match name with
  | "any" => some .all
  | "assigned" => some Category.unassignedCodes.complement
  | "ascii" => ascii? "ascii"
  | _ =>
    (categoryNames.find? fun entry => name ∈ entry.1).map fun entry => Category.membersOf entry.2

/-- The characters of the script with a name. -/
def script? (name : String) : Option CodeSet := (Script.ofName? name).map (·.members)

/-- The characters of the property with a name. -/
def property? (text : List Char) : Option CodeSet :=
  let name := looseName text
  (NamedProperty.ofName? name).map (·.members) <|> category? name <|> script? name

/-- The characters for which a property of several values has the value with a
    name. -/
def propertyOf? (property value : List Char) : Option CodeSet :=
  match looseName property with
  | "gc" | "generalcategory" => category? (looseName value)
  | "sc" | "script" => script? (looseName value)
  | _ => none

end CharClass

end Regex

end ShapeMatch
