import ShapeMatch.Binary64.Rounding
import ShapeMatch.Dictionary
import ShapeMatch.Fields
import ShapeMatch.TypeTag

/-!
# Dynamic Values

The values that patterns are matched against.

There are five kinds of scalar, two kinds of sequence that are never
interchangeable, maps keyed by any values, records of a declared type, and
types used as values. A value knows its type, and beyond that it is read
through partial views: as a sequence, by the key of a map, by the field of a
record. A view of a value of another kind finds nothing.

A function that treats all values alike, bottom up, is given by what it does
at each kind. `Value.fold` runs it, and the equations below it say that the
parts of a value are folded one by one, in their order.

## Main definitions

* `Value`: The values.
* `Value.typeOf`: The type of a value.
* `Value.asSequence?`, `Value.ofSequence`: The view as a sequence, and back.
* `Value.field?`: The view by the field of a record.
* `Value.Algebra`, `Value.fold`: A function given kind by kind.

## Theorems

* `asSequence?_ofSequence`: A sequence is viewed as it was made.
* `eq_ofSequence`: What is viewed as a sequence is that sequence.
* `fold_seq`, `fold_map`, `fold_record`: The parts are folded in their order.
-/

namespace ShapeMatch

/-- The two kinds of sequence. -/
inductive SeqKind where
  | list
  | tuple
  deriving DecidableEq

/-- The type of the sequences of a kind. -/
def SeqKind.tag : SeqKind → TypeTag
  | list => .list
  | tuple => .tuple

/-- A dynamic value. -/
inductive Value where
  | none
  | bool (b : Bool)
  | int (i : Int64)
  | float (x : Binary64)
  | str (s : String)
  | seq (kind : SeqKind) (items : List Value)
  | map (entries : Dictionary Value Value)
  | record (declared : RecordType) (fields : Fields Value)
  | type (tag : TypeTag)
  deriving Inhabited

namespace Value

/-- The type of a value. -/
def typeOf : Value → TypeTag
  | none => .none
  | bool _ => .bool
  | int _ => .int
  | float _ => .float
  | str _ => .str
  | seq kind _ => kind.tag
  | map _ => .map
  | record declared _ => .record declared
  | type _ => .type

/-- The name of the type of a value. -/
def typeName (v : Value) : String := v.typeOf.name

/-- The type that a value is. -/
def asType? : Value → Option TypeTag
  | type tag => some tag
  | _ => Option.none

/-- The truth value that a value is. -/
def asBool? : Value → Option Bool
  | bool b => some b
  | _ => Option.none

/-- The number nearest to a numeric value. -/
def asFloat? : Value → Option Binary64
  | int i => some (.ofInt64 i)
  | float x => some x
  | _ => Option.none

/-- The string that a value is. -/
def asStr? : Value → Option String
  | str s => some s
  | _ => Option.none

/-- The number of code points, items or entries. Records have no length. -/
def length? : Value → Option Nat
  | str s => some s.length
  | seq _ items => some items.length
  | map entries => some entries.size
  | _ => Option.none

/-- The kind and the items of a sequence. -/
def asSequence? : Value → Option (SeqKind × List Value)
  | seq kind items => some (kind, items)
  | _ => Option.none

/-- The sequence of that kind with those items. -/
def ofSequence (kind : SeqKind) (items : List Value) : Value := seq kind items

/-- Whether the value is a map. -/
def isMapping : Value → Bool
  | map _ => true
  | _ => false

/-- Whether the value is a record. -/
def isRecord : Value → Bool
  | record _ _ => true
  | _ => false

/-- The field of a record. -/
def field? : Value → String → Option Value
  | record _ fields, name => fields.get? name
  | _, _ => Option.none

@[simp] theorem asSequence?_ofSequence (kind : SeqKind) (items : List Value) :
    (ofSequence kind items).asSequence? = some (kind, items) := rfl

theorem eq_ofSequence {v : Value} {kind : SeqKind} {items : List Value}
    (h : v.asSequence? = some (kind, items)) : v = ofSequence kind items := by
  cases v with
  | seq k vs =>
      rw [asSequence?, Option.some.injEq, Prod.mk.injEq] at h
      rw [h.1, h.2, ofSequence]
  | _ => exact nomatch h

/-- What a function does at each kind of value, given its results on the
    parts. -/
structure Algebra (β : Type) where
  none : β
  bool : Bool → β
  int : Int64 → β
  float : Binary64 → β
  str : String → β
  seq : SeqKind → List β → β
  map : List (β × β) → β
  record : RecordType → List (String × β) → β
  type : TypeTag → β

section Fold

variable {β : Type}

mutual

/-- Run a function that is given kind by kind. -/
def fold (alg : Algebra β) : Value → β
  | none => alg.none
  | bool b => alg.bool b
  | int i => alg.int i
  | float x => alg.float x
  | str s => alg.str s
  | seq kind items => alg.seq kind (foldItems alg items)
  | map entries => alg.map (foldDictionary alg entries)
  | record declared fields => alg.record declared (foldFields alg fields)
  | type tag => alg.type tag
termination_by structural v => v

/-- Fold the items of a sequence. -/
def foldItems (alg : Algebra β) : List Value → List β
  | [] => []
  | v :: rest => fold alg v :: foldItems alg rest
termination_by structural items => items

/-- Fold the keys and values of a map. -/
def foldDictionary (alg : Algebra β) : Dictionary Value Value → List (β × β)
  | ⟨entries⟩ => foldEntries alg entries
termination_by structural d => d

/-- Fold the keys and values of a list of entries. -/
def foldEntries (alg : Algebra β) : List (Value × Value) → List (β × β)
  | [] => []
  | entry :: rest => foldEntry alg entry :: foldEntries alg rest
termination_by structural entries => entries

/-- Fold a key and its value. -/
def foldEntry (alg : Algebra β) : Value × Value → β × β
  | (k, v) => (fold alg k, fold alg v)
termination_by structural entry => entry

/-- Fold the fields of a record. -/
def foldFields (alg : Algebra β) : Fields Value → List (String × β)
  | ⟨fields⟩ => foldFieldList alg fields
termination_by structural fields => fields

/-- Fold the values of a list of fields. -/
def foldFieldList (alg : Algebra β) : List (String × Value) → List (String × β)
  | [] => []
  | field :: rest => foldField alg field :: foldFieldList alg rest
termination_by structural fields => fields

/-- Fold the value of a field. -/
def foldField (alg : Algebra β) : String × Value → String × β
  | (name, v) => (name, fold alg v)
termination_by structural field => field

end

theorem foldItems_eq_map (alg : Algebra β) (items : List Value) :
    foldItems alg items = items.map (fold alg) := by
  induction items with
  | nil => rfl
  | cons v rest ih => rw [foldItems, ih, List.map_cons]

theorem foldEntries_eq_map (alg : Algebra β) (entries : List (Value × Value)) :
    foldEntries alg entries = entries.map fun entry => (fold alg entry.1, fold alg entry.2) := by
  induction entries with
  | nil => rfl
  | cons entry rest ih => rw [foldEntries, ih, List.map_cons, foldEntry]

theorem foldFieldList_eq_map (alg : Algebra β) (fields : List (String × Value)) :
    foldFieldList alg fields = fields.map fun field => (field.1, fold alg field.2) := by
  induction fields with
  | nil => rfl
  | cons field rest ih => rw [foldFieldList, ih, List.map_cons, foldField]

theorem fold_seq (alg : Algebra β) (kind : SeqKind) (items : List Value) :
    fold alg (seq kind items) = alg.seq kind (items.map (fold alg)) := by
  rw [fold, foldItems_eq_map]

theorem fold_map (alg : Algebra β) (d : Dictionary Value Value) :
    fold alg (map d) =
      alg.map (d.entries.map fun entry => (fold alg entry.1, fold alg entry.2)) := by
  rw [fold, foldDictionary, foldEntries_eq_map]

theorem fold_record (alg : Algebra β) (declared : RecordType) (f : Fields Value) :
    fold alg (record declared f) =
      alg.record declared (f.entries.map fun field => (field.1, fold alg field.2)) := by
  rw [fold, foldFields, foldFieldList_eq_map]

end Fold

end Value

end ShapeMatch
