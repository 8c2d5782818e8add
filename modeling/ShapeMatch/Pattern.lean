import ShapeMatch.Regex
import ShapeMatch.Slot
import ShapeMatch.Value

/-!
# Patterns

Descriptions of the shape that a value must have.

A pattern asks for a value, a type, a sequence, the entries of a map or the
fields of a record, or it combines other patterns. A capture accepts anything
and records it under a slot. A predicate is a test supplied by the user of the
library; it may fail with an error, and it may read and change a state. The
type of that state is the parameter of patterns. A pattern whose tests look at
nothing but the value is a pattern over any state.

A function that is given by what it does at each kind of pattern is run by
`Pattern.fold`, and the equations below it say that the parts of a pattern are
folded one by one, in their order.

## Main definitions

* `MatchError`: What can go wrong in a match.
* `Predicate`: A test with a label.
* `Pattern`: The patterns over a state.
* `Pattern.ofValue`: The pattern that a bare value stands for.
* `Pattern.both`, `Pattern.either`: Conjunction and disjunction, flattened.
* `Pattern.wildcard`, `Pattern.test`, `Pattern.tryTest`, `Pattern.regex?`:
  Further ways to make a pattern.
* `Pattern.Algebra`, `Pattern.fold`: A function given kind by kind.

## Theorems

* `both_all`, `either_any`: A conjunction or disjunction is extended in place.
* `fold_seq`, `fold_mapping` and so on: The parts are folded in their order.
-/

namespace ShapeMatch

/-- What can go wrong in a match, or in making a pattern. -/
inductive MatchError where
  /-- The text is no regular expression. -/
  | regexBuild (fault : Regex.Fault)
  /-- The test of a predicate failed. -/
  | predicate (cause : String)
  deriving DecidableEq

/-- The text of an error. -/
def MatchError.message : MatchError → String
  | regexBuild fault => "failed to build regex: " ++ fault.message
  | predicate cause => "predicate failed: " ++ cause

/-- A test of values with a label. The test may read and change a state. -/
structure Predicate (σ : Type) where
  label : String
  test : Value → σ → Except MatchError Bool × σ

/-- A description of the shape that a value must have. -/
inductive Pattern (σ : Type) where
  /-- Deeply equal to the value. -/
  | literal (value : Value)
  /-- Of the type, or of one that derives from it. -/
  | typeMatch (tag : TypeTag)
  /-- Of exactly the type. -/
  | exactType (tag : TypeTag)
  /-- A sequence of that kind and length, matched item by item. -/
  | seq (kind : SeqKind) (items : List (Pattern σ))
  /-- A sequence with a first item, and the sequence of the others. -/
  | cons (head tail : Pattern σ)
  /-- A map with all these keys, whatever else it has. -/
  | mapping (entries : List (Value × Pattern σ))
  /-- A record with all these fields, perhaps of an expected type. -/
  | object (expected : Option TypeTag) (fields : List (String × Pattern σ))
  /-- Every member matches the value. -/
  | all (members : List (Pattern σ))
  /-- The first alternative that matches the value. -/
  | any (alternatives : List (Pattern σ))
  /-- The test of a predicate. -/
  | predicate (p : Predicate σ)
  /-- Anything, recorded under a slot. -/
  | capture (slot : Slot)
  deriving Inhabited

namespace Pattern

variable {σ : Type}

mutual

/-- The pattern that a bare value stands for. A type stands for its values, a
    sequence for the sequences that match it item by item, and any other value
    for itself. -/
def ofValue : Value → Pattern σ
  | .type tag => typeMatch tag
  | .seq kind items => seq kind (ofValues items)
  | v => literal v
termination_by structural v => v

/-- The patterns that bare values stand for. -/
def ofValues : List Value → List (Pattern σ)
  | [] => []
  | v :: rest => ofValue v :: ofValues rest
termination_by structural vs => vs

end

/-- The conjunction with one more pattern. A conjunction is extended. -/
def both : Pattern σ → Pattern σ → Pattern σ
  | all members, q => all (members ++ [q])
  | p, q => all [p, q]

/-- The disjunction with one more pattern. A disjunction is extended. -/
def either : Pattern σ → Pattern σ → Pattern σ
  | any alternatives, q => any (alternatives ++ [q])
  | p, q => any [p, q]

/-- Matches any value and records nothing. -/
def wildcard : Pattern σ := all []

/-- A test that has no errors. -/
def test (f : Value → σ → Bool × σ) : Pattern σ :=
  predicate ⟨"predicate", fun v s => let (b, s) := f v s; (.ok b, s)⟩

/-- A test with errors, which become errors of the predicate. -/
def tryTest (f : Value → σ → Except String Bool × σ) : Pattern σ :=
  predicate ⟨"try_predicate", fun v s => let (r, s) := f v s; (r.mapError .predicate, s)⟩

/-- Matches the strings in which a regular expression matches somewhere. -/
def ofRegex (regex : Regex) : Pattern σ :=
  predicate ⟨regex.source, fun v s => (.ok (v.asStr?.any regex.isMatch), s)⟩

/-- Read a regular expression as a pattern. -/
def regex? (source : String) : Except MatchError (Pattern σ) :=
  (Regex.ofText source).mapError .regexBuild |>.map ofRegex

@[simp] theorem both_all (members : List (Pattern σ)) (q : Pattern σ) :
    (all members).both q = all (members ++ [q]) := rfl

@[simp] theorem either_any (alternatives : List (Pattern σ)) (q : Pattern σ) :
    (any alternatives).either q = any (alternatives ++ [q]) := rfl

theorem ofValues_eq_map (vs : List Value) : (ofValues vs : List (Pattern σ)) = vs.map ofValue := by
  induction vs with
  | nil => rfl
  | cons v rest ih => rw [ofValues, ih, List.map_cons]

theorem ofValue_seq (kind : SeqKind) (items : List Value) :
    (ofValue (.seq kind items) : Pattern σ) = seq kind (items.map ofValue) := by
  rw [ofValue, ofValues_eq_map]

/-- What a function does at each kind of pattern, given its results on the
    parts. -/
structure Algebra (σ β : Type) where
  literal : Value → β
  typeMatch : TypeTag → β
  exactType : TypeTag → β
  seq : SeqKind → List β → β
  cons : β → β → β
  mapping : List (Value × β) → β
  object : Option TypeTag → List (String × β) → β
  all : List β → β
  any : List β → β
  predicate : Predicate σ → β
  capture : Slot → β

section Fold

variable {β : Type}

mutual

/-- Run a function that is given kind by kind. -/
def fold (alg : Algebra σ β) : Pattern σ → β
  | literal v => alg.literal v
  | typeMatch tag => alg.typeMatch tag
  | exactType tag => alg.exactType tag
  | seq kind items => alg.seq kind (foldList alg items)
  | cons head tail => alg.cons (fold alg head) (fold alg tail)
  | mapping entries => alg.mapping (foldEntries alg entries)
  | object expected fields => alg.object expected (foldFields alg fields)
  | all members => alg.all (foldList alg members)
  | any alternatives => alg.any (foldList alg alternatives)
  | predicate p => alg.predicate p
  | capture slot => alg.capture slot
termination_by structural p => p

/-- Fold a list of patterns. -/
def foldList (alg : Algebra σ β) : List (Pattern σ) → List β
  | [] => []
  | p :: rest => fold alg p :: foldList alg rest
termination_by structural ps => ps

/-- Fold the patterns of the entries of a map. -/
def foldEntries (alg : Algebra σ β) : List (Value × Pattern σ) → List (Value × β)
  | [] => []
  | entry :: rest => foldEntry alg entry :: foldEntries alg rest
termination_by structural entries => entries

/-- Fold the pattern of an entry. -/
def foldEntry (alg : Algebra σ β) : Value × Pattern σ → Value × β
  | (key, p) => (key, fold alg p)
termination_by structural entry => entry

/-- Fold the patterns of the fields of a record. -/
def foldFields (alg : Algebra σ β) : List (String × Pattern σ) → List (String × β)
  | [] => []
  | field :: rest => foldField alg field :: foldFields alg rest
termination_by structural fields => fields

/-- Fold the pattern of a field. -/
def foldField (alg : Algebra σ β) : String × Pattern σ → String × β
  | (name, p) => (name, fold alg p)
termination_by structural field => field

end

theorem foldList_eq_map (alg : Algebra σ β) (ps : List (Pattern σ)) :
    foldList alg ps = ps.map (fold alg) := by
  induction ps with
  | nil => rfl
  | cons p rest ih => rw [foldList, ih, List.map_cons]

theorem foldEntries_eq_map (alg : Algebra σ β) (entries : List (Value × Pattern σ)) :
    foldEntries alg entries = entries.map fun entry => (entry.1, fold alg entry.2) := by
  induction entries with
  | nil => rfl
  | cons entry rest ih => rw [foldEntries, ih, List.map_cons, foldEntry]

theorem foldFields_eq_map (alg : Algebra σ β) (fields : List (String × Pattern σ)) :
    foldFields alg fields = fields.map fun field => (field.1, fold alg field.2) := by
  induction fields with
  | nil => rfl
  | cons field rest ih => rw [foldFields, ih, List.map_cons, foldField]

theorem fold_seq (alg : Algebra σ β) (kind : SeqKind) (items : List (Pattern σ)) :
    fold alg (seq kind items) = alg.seq kind (items.map (fold alg)) := by
  rw [fold, foldList_eq_map]

theorem fold_mapping (alg : Algebra σ β) (entries : List (Value × Pattern σ)) :
    fold alg (mapping entries) =
      alg.mapping (entries.map fun entry => (entry.1, fold alg entry.2)) := by
  rw [fold, foldEntries_eq_map]

theorem fold_object (alg : Algebra σ β) (expected : Option TypeTag)
    (fields : List (String × Pattern σ)) :
    fold alg (object expected fields) =
      alg.object expected (fields.map fun field => (field.1, fold alg field.2)) := by
  rw [fold, foldFields_eq_map]

theorem fold_all (alg : Algebra σ β) (members : List (Pattern σ)) :
    fold alg (all members) = alg.all (members.map (fold alg)) := by
  rw [fold, foldList_eq_map]

theorem fold_any (alg : Algebra σ β) (alternatives : List (Pattern σ)) :
    fold alg (any alternatives) = alg.any (alternatives.map (fold alg)) := by
  rw [fold, foldList_eq_map]

end Fold

end Pattern

end ShapeMatch
