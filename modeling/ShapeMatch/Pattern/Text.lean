import ShapeMatch.Pattern
import ShapeMatch.Value.Text

/-!
# Texts of Patterns

The debug text of a pattern: the kind of every pattern and its payload in
parentheses. A predicate shows its label, and a capture its slot.

## Main definitions

* `Pattern.debug`: The debug text of a pattern.
-/

namespace ShapeMatch

namespace Pattern

variable {σ : Type}

/-- The debug text, kind by kind. -/
def debugAlgebra : Algebra σ String where
  literal v := "Literal(" ++ v.debug ++ ")"
  typeMatch tag := "TypeMatch(" ++ tag.debug ++ ")"
  exactType tag := "ExactType(" ++ tag.debug ++ ")"
  seq kind items :=
    "Sequence \x7b kind: " ++ kind.debug ++ ", items: [" ++ commaSeparated items ++ "] \x7d"
  cons head tail := "Cons \x7b head: " ++ head ++ ", tail: " ++ tail ++ " \x7d"
  mapping entries :=
    "Mapping([" ++
      commaSeparated (entries.map fun entry => "(" ++ entry.1.debug ++ ", " ++ entry.2 ++ ")") ++
      "])"
  object expected fields :=
    let expectation :=
      match expected with
      | none => "None"
      | some tag => "Some(" ++ tag.debug ++ ")"
    "Object \x7b expected: " ++ expectation ++ ", fields: [" ++
      commaSeparated (fields.map fun field => "(" ++ quote field.1 ++ ", " ++ field.2 ++ ")") ++
      "] \x7d"
  all members := "All([" ++ commaSeparated members ++ "])"
  any alternatives := "Any([" ++ commaSeparated alternatives ++ "])"
  predicate p := "Predicate(Predicate(" ++ quote p.label ++ "))"
  capture slot := "Capture(Capture(" ++ slot.display ++ "))"

/-- The debug text of a pattern. -/
def debug (p : Pattern σ) : String := p.fold debugAlgebra

end Pattern

end ShapeMatch
