/-!
# Types of Dynamic Values

The types that values have, and the order in which one derives from another.

Ten types are built in. Below `object` they are all siblings, except that
`bool` derives from `int`. Record types are declared one after another, each
with a name and perhaps a parent declared before it. What makes a record type
itself is its declaration: two declarations of one name are two types. A
`Registry` deals out the serial numbers that tell declarations apart, so
equality of record types can be plain equality of data.

A record type carries its parent, so the way up from a type is a finite list,
its `lineage`, and one type is a subtype of another when the other stands in
that list. Nothing here can run in a circle.

## Main definitions

* `RecordType`: A declared record type, with its parent inside.
* `TypeTag`: A built-in type or a record type.
* `TypeTag.parent?`: One step up.
* `TypeTag.lineage`: All steps up, from the type itself to `object`.
* `TypeTag.isSubtypeOf`: The other type stands in the lineage.
* `Registry`: The record types declared so far.

## Theorems

* `RecordType.lineage_eq`: A lineage is the type and the lineage of its parent.
* `TypeTag.lineage_eq`: The same for all types.
* `TypeTag.isSubtypeOf_iff`: Subtyping is membership in the lineage.
* `TypeTag.induction_parent`: Induction on the way up.
* `TypeTag.lineage_suffix_of_mem`: The way up from a supertype is an end of the
  way up.
* `TypeTag.isSubtypeOf_refl`: Every type is a subtype of itself.
* `TypeTag.isSubtypeOf_trans`: A subtype of a subtype is a subtype.
* `TypeTag.isSubtypeOf_object`: Every type is a subtype of `object`.
-/

namespace ShapeMatch

/-- A declared record type. The serial number is that of its declaration. -/
inductive RecordType where
  /-- A type that derives from `object` alone. -/
  | root (serial : Nat) (name : String)
  /-- A type that derives from another record type. -/
  | derived (serial : Nat) (name : String) (parent : RecordType)
  deriving DecidableEq

namespace RecordType

/-- The number of the declaration. -/
def serial : RecordType → Nat
  | root n _ => n
  | derived n _ _ => n

/-- The declared name. -/
def name : RecordType → String
  | root _ s => s
  | derived _ s _ => s

/-- The record type it derives from, if any. -/
def parent? : RecordType → Option RecordType
  | root _ _ => none
  | derived _ _ p => some p

/-- The type itself and all record types it derives from, nearest first. -/
def lineage : RecordType → List RecordType
  | t@(root _ _) => [t]
  | t@(derived _ _ p) => t :: lineage p

theorem lineage_eq (t : RecordType) : t.lineage = t :: (t.parent?.elim [] lineage) := by
  cases t <;> rfl

end RecordType

/-- The type of a value, or a type used as a value. -/
inductive TypeTag where
  | object
  | none
  | bool
  | int
  | float
  | str
  | list
  | tuple
  | map
  | type
  | record (declared : RecordType)
  deriving DecidableEq

namespace TypeTag

/-- The built-in type of that name. -/
def builtin? : String → Option TypeTag
  | "object" => some object
  | "none_type" => some none
  | "bool" => some bool
  | "int" => some int
  | "float" => some float
  | "str" => some str
  | "list" => some list
  | "tuple" => some tuple
  | "map" => some map
  | "type" => some type
  | _ => Option.none

/-- The name of a type. Record types may share a name, also with a built-in
    type. -/
def name : TypeTag → String
  | object => "object"
  | none => "none_type"
  | bool => "bool"
  | int => "int"
  | float => "float"
  | str => "str"
  | list => "list"
  | tuple => "tuple"
  | map => "map"
  | type => "type"
  | record t => t.name

/-- The direct supertype. Only `object` has none. -/
def parent? : TypeTag → Option TypeTag
  | object => Option.none
  | bool => some int
  | record t => some (t.parent?.elim object record)
  | _ => some object

/-- The type itself and all its supertypes, nearest first. -/
def lineage : TypeTag → List TypeTag
  | object => [object]
  | bool => [bool, int, object]
  | record t => t.lineage.map record ++ [object]
  | t => [t, object]

/-- Whether `t` is `s` or derives from it. -/
def isSubtypeOf (t s : TypeTag) : Bool := s ∈ t.lineage

theorem lineage_eq (t : TypeTag) : t.lineage = t :: (t.parent?.elim [] lineage) := by
  cases t with
  | record r => cases r <;> rfl
  | _ => rfl

@[simp] theorem isSubtypeOf_iff {t s : TypeTag} : t.isSubtypeOf s = true ↔ s ∈ t.lineage := by
  simp [isSubtypeOf]

theorem isSubtypeOf_refl (t : TypeTag) : t.isSubtypeOf t = true := by
  rw [isSubtypeOf_iff, lineage_eq]
  exact List.mem_cons_self

theorem isSubtypeOf_object (t : TypeTag) : t.isSubtypeOf object = true := by
  rw [isSubtypeOf_iff]
  cases t <;> simp [lineage]

/-- Induction on the way up. What holds of the direct supertype of a type, if it
    has one, is there for the type. -/
theorem induction_parent {motive : TypeTag → Prop}
    (step : ∀ t : TypeTag, (∀ p, t.parent? = some p → motive p) → motive t) (t : TypeTag) :
    motive t := by
  have hobject : motive object := step object fun _ hp => nomatch hp
  have hint : motive int := step int fun _ hp => Option.some.inj hp ▸ hobject
  cases t with
  | object => exact hobject
  | bool => exact step bool fun _ hp => Option.some.inj hp ▸ hint
  | record r =>
      induction r with
      | root n name => exact step _ fun _ hp => Option.some.inj hp ▸ hobject
      | derived n name parent ih => exact step _ fun _ hp => Option.some.inj hp ▸ ih
  | _ => exact step _ fun _ hp => Option.some.inj hp ▸ hobject

/-- The way up from a supertype is the end of the way up from the type. -/
theorem lineage_suffix_of_mem {s t : TypeTag} (h : s ∈ t.lineage) : s.lineage <:+ t.lineage := by
  induction t using induction_parent with
  | step t ih =>
      rw [lineage_eq, List.mem_cons] at h
      rcases h with rfl | h
      · exact List.suffix_refl _
      · rw [lineage_eq t]
        cases hp : t.parent? with
        | none =>
            rw [hp] at h
            exact absurd h List.not_mem_nil
        | some p =>
            rw [hp] at h
            exact (ih p hp h).trans (List.suffix_cons t p.lineage)

theorem isSubtypeOf_trans {t s u : TypeTag} (hts : t.isSubtypeOf s = true)
    (hsu : s.isSubtypeOf u = true) : t.isSubtypeOf u = true := by
  rw [isSubtypeOf_iff] at hts hsu ⊢
  exact (lineage_suffix_of_mem hts).subset hsu

end TypeTag

/-- The record types declared so far, first to last. -/
structure Registry where
  /-- The declared types, each at the place given by its serial number. -/
  types : List RecordType
  deriving DecidableEq

namespace Registry

/-- No declaration yet. -/
def empty : Registry := ⟨[]⟩

instance : EmptyCollection Registry := ⟨empty⟩
instance : Inhabited Registry := ⟨empty⟩

/-- The type of the declaration with the number `serial`. -/
def get? (registry : Registry) (serial : Nat) : Option RecordType := registry.types[serial]?

/-- The type that a declaration made now brings into being. -/
def next (registry : Registry) (name : String) : Option RecordType → RecordType
  | none => .root registry.types.length name
  | some parent => .derived registry.types.length name parent

/-- Declare a record type, perhaps deriving from another one. -/
def declare (registry : Registry) (name : String) (parent : Option RecordType) : Registry :=
  ⟨registry.types ++ [registry.next name parent]⟩

end Registry

end ShapeMatch
