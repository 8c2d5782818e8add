import ShapeMatch.Binary64.Decimal
import ShapeMatch.Text.Quoted
import ShapeMatch.Value

/-!
# Texts of Values

The two texts that a value has.

The display text is for readers. It writes scalars as they are, lists in
brackets, tuples in parentheses with a comma after a single item, maps as
pairs of key and value in braces, records as the name of their type with the
fields in parentheses, and types in angle brackets. The debug text names the
kind of every value and wraps its payload in parentheses.

Both write strings between quotes, numbers with a point by the shortest
decimal that reads back, and the parts of a value in their order.

## Main definitions

* `Value.render`, `Value.display`: The display text, as characters and as a
  string.
* `Value.debug`: The debug text.
* `TypeTag.display`, `TypeTag.debug`: The texts of types.

## Theorems

* `render_seq_list`, `render_seq_tuple`, `render_map`: The brackets and
  separators of the display text.
-/

namespace ShapeMatch

/-- Texts one after another with a separator between them. -/
def separated (separator : List Char) : List (List Char) → List Char
  | [] => []
  | [text] => text
  | text :: rest => text ++ separator ++ separated separator rest

/-- Strings one after another with a comma and a blank between them. -/
def commaSeparated (texts : List String) : String := ", ".intercalate texts

/-- The decimal text of an integer. -/
def renderInt : Int → List Char
  | .ofNat n => Nat.toDigits 10 n
  | .negSucc n => '-' :: Nat.toDigits 10 (n + 1)

/-- The lowercase name of a truth value. -/
def renderBool : Bool → List Char
  | true => ['t', 'r', 'u', 'e']
  | false => ['f', 'a', 'l', 's', 'e']

namespace RecordType

/-- The debug text of a record type shows its name alone. -/
def debug (t : RecordType) : String := "RecordType(" ++ quote t.name ++ ")"

end RecordType

namespace TypeTag

/-- The text of a type, as characters. -/
def render (t : TypeTag) : List Char := "<type ".toList ++ t.name.toList ++ ['>']

/-- The text of a type. -/
def display (t : TypeTag) : String := String.ofList t.render

/-- The debug text of a type. -/
def debug : TypeTag → String
  | object => "Object"
  | none => "None"
  | bool => "Bool"
  | int => "Int"
  | float => "Float"
  | str => "Str"
  | list => "List"
  | tuple => "Tuple"
  | map => "Map"
  | type => "Type"
  | record t => "Record(" ++ t.debug ++ ")"

end TypeTag

/-- The debug text of a kind of sequence. -/
def SeqKind.debug : SeqKind → String
  | list => "List"
  | tuple => "Tuple"

namespace Value

/-- The separator between the parts of a value. -/
def comma : List Char := [',', ' ']

/-- The items of a list in brackets, those of a tuple in parentheses. A tuple
    of one item has a comma after it. -/
def renderSeq : SeqKind → List (List Char) → List Char
  | .list, items => '[' :: (separated comma items ++ [']'])
  | .tuple, [item] => '(' :: (item ++ [',', ')'])
  | .tuple, items => '(' :: (separated comma items ++ [')'])

/-- A key and its value with a colon between them. -/
def renderEntry (entry : List Char × List Char) : List Char := entry.1 ++ [':', ' '] ++ entry.2

/-- The name of a field and its value with an equals sign between them. -/
def renderField (field : String × List Char) : List Char := field.1.toList ++ '=' :: field.2

/-- The display text, kind by kind. -/
def displayAlgebra : Algebra (List Char) where
  none := ['n', 'o', 'n', 'e']
  bool := renderBool
  int i := renderInt i.toInt
  float x := x.render
  str s := Quoted.encode s.toList
  seq := renderSeq
  map entries := '\x7b' :: (separated comma (entries.map renderEntry) ++ ['\x7d'])
  record t fields := t.name.toList ++ '(' :: (separated comma (fields.map renderField) ++ [')'])
  type t := t.render

/-- The display text of a value, as characters. -/
def render (v : Value) : List Char := v.fold displayAlgebra

/-- The display text of a value. -/
def display (v : Value) : String := String.ofList v.render

/-- The debug text, kind by kind. -/
def debugAlgebra : Algebra String where
  none := "None"
  bool b := "Bool(" ++ String.ofList (renderBool b) ++ ")"
  int i := "Int(" ++ String.ofList (renderInt i.toInt) ++ ")"
  float x := "Float(" ++ String.ofList x.render ++ ")"
  str s := "Str(" ++ quote s ++ ")"
  seq kind items := kind.debug ++ "([" ++ commaSeparated items ++ "])"
  map entries :=
    "Map(Map \x7b entries: [" ++
      commaSeparated (entries.map fun entry => "(" ++ entry.1 ++ ", " ++ entry.2 ++ ")") ++
      "] \x7d)"
  record t fields :=
    "Record(Record \x7b ty: " ++ t.debug ++ ", fields: \x7b" ++
      commaSeparated (fields.map fun field => quote field.1 ++ ": " ++ field.2) ++ "\x7d \x7d)"
  type t := "Type(" ++ t.debug ++ ")"

/-- The debug text of a value. -/
def debug (v : Value) : String := v.fold debugAlgebra

theorem render_seq_list (items : List Value) :
    (seq .list items).render = '[' :: (separated comma (items.map render) ++ [']']) := by
  rw [render, fold_seq]
  rfl

theorem render_seq_tuple (items : List Value) :
    (seq .tuple items).render = renderSeq .tuple (items.map render) := by
  rw [render, fold_seq]
  rfl

theorem render_map (d : Dictionary Value Value) :
    (map d).render =
      '\x7b' :: (separated comma (d.entries.map fun entry =>
        renderEntry (entry.1.render, entry.2.render)) ++ ['\x7d']) := by
  rw [render, fold_map]
  simp only [displayAlgebra, List.map_map]
  rfl

end Value

end ShapeMatch
