/-!
# Named Fields

The fields of a record: values under names, listed in the order of the names.

Names are compared by code point, which is the order of `<` on strings. A
write keeps the list sorted and free of repeated names, so a set of fields
has one list, and two sets of fields can be compared entry by entry.

## Main definitions

* `Fields`: Values under names, in ascending order of the names.
* `Fields.set`: Write one field.
* `Fields.get?`: Read one field.

## Theorems

* `get?_set_self`: A field reads back as it was written last.
* `get?_set_of_ne`: A write leaves the other fields alone.
* `mem_of_get?`: What is read is in the list.
-/

namespace ShapeMatch

/-- Values under names, in ascending order of the names. -/
structure Fields (ν : Type) where
  /-- The fields, lowest name first. -/
  entries : List (String × ν)
  deriving DecidableEq

namespace Fields

variable {ν : Type}

/-- No field at all. -/
def empty : Fields ν := ⟨[]⟩

instance : EmptyCollection (Fields ν) := ⟨empty⟩
instance : Inhabited (Fields ν) := ⟨empty⟩

/-- The names, in ascending order. -/
def names (f : Fields ν) : List String := f.entries.map Prod.fst

/-- The value of the field `name`. -/
def get? (f : Fields ν) (name : String) : Option ν := f.entries.lookup name

/-- Write a field into a sorted list of fields: over the field of that name,
    or else before the first field with a higher name. -/
def write (name : String) (value : ν) : List (String × ν) → List (String × ν)
  | [] => [(name, value)]
  | (n, v) :: rest =>
    if name = n then (name, value) :: rest
    else if name < n then (name, value) :: (n, v) :: rest
    else (n, v) :: write name value rest

/-- Give the field `name` the value `value`. -/
def set (f : Fields ν) (name : String) (value : ν) : Fields ν := ⟨write name value f.entries⟩

/-- Write a list of fields, first to last. -/
def ofList (entries : List (String × ν)) : Fields ν :=
  entries.foldl (fun f entry => f.set entry.1 entry.2) empty

@[simp] theorem get?_empty (name : String) : (empty : Fields ν).get? name = none := rfl

theorem lookup_write_self (name : String) (value : ν) (entries : List (String × ν)) :
    (write name value entries).lookup name = some value := by
  induction entries with
  | nil => simp [write]
  | cons entry rest ih =>
      obtain ⟨n, v⟩ := entry
      by_cases hn : name = n
      · simp [write, hn]
      · by_cases hlt : name < n
        · simp [write, hn, hlt]
        · simp [write, hn, hlt, ih, List.lookup_cons, beq_eq_false_iff_ne.mpr hn]

@[simp] theorem get?_set_self (f : Fields ν) (name : String) (value : ν) :
    (f.set name value).get? name = some value :=
  lookup_write_self name value f.entries

theorem lookup_write_of_ne {name other : String} (h : name ≠ other) (value : ν)
    (entries : List (String × ν)) : (write other value entries).lookup name = entries.lookup name := by
  have hne : (name == other) = false := beq_eq_false_iff_ne.mpr h
  induction entries with
  | nil => simp [write, h]
  | cons entry rest ih =>
      obtain ⟨n, v⟩ := entry
      by_cases hn : other = n
      · simp [write, ← hn, List.lookup_cons, hne]
      · by_cases hlt : other < n
        · simp [write, hn, hlt, List.lookup_cons, hne]
        · simp [write, hn, hlt, List.lookup_cons, ih]

theorem get?_set_of_ne (f : Fields ν) {name other : String} (h : name ≠ other) (value : ν) :
    (f.set other value).get? name = f.get? name :=
  lookup_write_of_ne h value f.entries

theorem mem_of_get? {f : Fields ν} {name : String} {value : ν} (h : f.get? name = some value) :
    (name, value) ∈ f.entries := by
  rcases List.lookup_eq_some_iff.mp h with ⟨before, after, heq, -⟩
  exact heq ▸ List.mem_append_right before List.mem_cons_self

end Fields

end ShapeMatch
