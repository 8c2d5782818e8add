import ShapeMatch.Pattern

/-!
# Leaves of Patterns

The captures and the tests that occur in a pattern, from left to right.

## Main definitions

* `Pattern.collect`: What is found at the captures and tests of a pattern.
* `Pattern.slots`: The slots of all captures.
* `Pattern.predicates`: All tests.

## Theorems

* `collect_seq`, `collect_cons` and so on: The parts are collected in their order.
-/

namespace ShapeMatch

namespace Pattern

variable {σ α : Type}

/-- How to collect from a pattern, kind by kind. -/
def collectAlgebra (test : Predicate σ → List α) (capture : Slot → List α) :
    Algebra σ (List α) where
  literal _ := []
  typeMatch _ := []
  exactType _ := []
  seq _ items := items.flatten
  cons head tail := head ++ tail
  mapping entries := (entries.map Prod.snd).flatten
  object _ fields := (fields.map Prod.snd).flatten
  all members := members.flatten
  any alternatives := alternatives.flatten
  predicate := test
  capture := capture

/-- What is found at the tests and captures of a pattern, from left to right. -/
def collect (test : Predicate σ → List α) (capture : Slot → List α) (p : Pattern σ) : List α :=
  p.fold (collectAlgebra test capture)

/-- The slots of all captures in a pattern. -/
def slots (p : Pattern σ) : List Slot := p.collect (fun _ => []) fun slot => [slot]

/-- All tests in a pattern. -/
def predicates (p : Pattern σ) : List (Predicate σ) := p.collect (fun p => [p]) fun _ => []

variable (test : Predicate σ → List α) (capture : Slot → List α)

theorem collect_seq (kind : SeqKind) (items : List (Pattern σ)) :
    (seq kind items).collect test capture = (items.map (collect test capture)).flatten := by
  rw [collect, fold_seq]
  rfl

theorem collect_cons (head tail : Pattern σ) :
    (cons head tail).collect test capture =
      head.collect test capture ++ tail.collect test capture := by
  rw [collect, fold]
  rfl

theorem collect_mapping (entries : List (Value × Pattern σ)) :
    (mapping entries).collect test capture =
      (entries.map fun entry => entry.2.collect test capture).flatten := by
  rw [collect, fold_mapping]
  exact congrArg List.flatten List.map_map

theorem collect_object (expected : Option TypeTag) (fields : List (String × Pattern σ)) :
    (object expected fields).collect test capture =
      (fields.map fun field => field.2.collect test capture).flatten := by
  rw [collect, fold_object]
  exact congrArg List.flatten List.map_map

theorem collect_all (members : List (Pattern σ)) :
    (all members).collect test capture = (members.map (collect test capture)).flatten := by
  rw [collect, fold_all]
  rfl

theorem collect_any (alternatives : List (Pattern σ)) :
    (any alternatives).collect test capture =
      (alternatives.map (collect test capture)).flatten := by
  rw [collect, fold_any]
  rfl

end Pattern

end ShapeMatch
