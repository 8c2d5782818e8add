/-!
# Dictionaries in Insertion Order

A finite map from keys to values that remembers the order in which its keys
arrived.

A dictionary is a list of entries, and the comparison of keys is whatever
`BEq` the key type brings. For slots of a context that is plain equality. For
dynamic values it is deep equality, which identifies different
representations of one number, and there the order of the arguments and the
choice of the kept representative become visible: a look-up compares the
stored keys with the sought one from the first entry on, and an insertion
under a key that is already there keeps the stored key and its position and
replaces only the value.

Because a new key always goes to the end, a dictionary built by insertions
lists its keys in the order of their first insertion, and two dictionaries
built by different routes can be compared as lists.

## Main definitions

* `Dictionary`: A list of entries, read through the operations below.
* `Dictionary.get?`: The value under the first key equal to the sought one.
* `Dictionary.insert`: Replace the value of a key, or append a new entry.
* `Dictionary.getThenInsert?`: Insert, and tell what was there before.

## Theorems

* `get?_empty`: An empty dictionary holds nothing.
* `contains_eq_isSome_get?`: Membership is a successful look-up.
* `getThenInsert?_eq`: One pass does what a look-up and a writing do.
* `keys_insert_of_contains`: Writing to a known key leaves the keys alone.
* `insert_of_get?_eq_none`: A new key is appended.
-/

namespace ShapeMatch

/-- Entries in the order in which their keys were first inserted. -/
structure Dictionary (κ ν : Type) where
  /-- The entries, oldest key first. -/
  entries : List (κ × ν)
  deriving DecidableEq

namespace Dictionary

variable {κ ν : Type}

/-- The dictionary without entries. -/
def empty : Dictionary κ ν := ⟨[]⟩

instance : EmptyCollection (Dictionary κ ν) := ⟨empty⟩
instance : Inhabited (Dictionary κ ν) := ⟨empty⟩

/-- The keys, oldest first. -/
def keys (d : Dictionary κ ν) : List κ := d.entries.map Prod.fst

/-- The values, in the order of their keys. -/
def values (d : Dictionary κ ν) : List ν := d.entries.map Prod.snd

/-- The number of entries. -/
def size (d : Dictionary κ ν) : Nat := d.entries.length

/-- Whether there is no entry. -/
def isEmpty (d : Dictionary κ ν) : Bool := d.entries.isEmpty

variable [BEq κ]

/-- The value of the first entry whose key equals `key`. -/
def get? (d : Dictionary κ ν) (key : κ) : Option ν :=
  (d.entries.find? fun entry => entry.1 == key).map Prod.snd

/-- Whether some entry has a key equal to `key`. -/
def contains (d : Dictionary κ ν) (key : κ) : Bool := (d.get? key).isSome

/-- Write `value` into the first of the entries whose key equals `key`, or
    behind all of them. -/
def write (key : κ) (value : ν) : List (κ × ν) → List (κ × ν)
  | [] => [(key, value)]
  | (k, v) :: rest =>
    if k == key then (k, value) :: rest else (k, v) :: write key value rest

/-- Put `value` under `key`. A key already present keeps its first form and
    its place. -/
def insert (d : Dictionary κ ν) (key : κ) (value : ν) : Dictionary κ ν :=
  ⟨write key value d.entries⟩

/-- Write as `write` does, and take out the value that is replaced. -/
def exchange (key : κ) (value : ν) : List (κ × ν) → Option ν × List (κ × ν)
  | [] => (none, [(key, value)])
  | (k, v) :: rest =>
    if k == key then (some v, (k, value) :: rest)
    else
      let (old?, written) := exchange key value rest
      (old?, (k, v) :: written)

/-- Put `value` under `key` in one pass, together with the value that was
    there. -/
def getThenInsert? (d : Dictionary κ ν) (key : κ) (value : ν) : Option ν × Dictionary κ ν :=
  let (old?, written) := exchange key value d.entries
  (old?, ⟨written⟩)

/-- Insert a list of entries, first to last. -/
def ofList (entries : List (κ × ν)) : Dictionary κ ν :=
  entries.foldl (fun d entry => d.insert entry.1 entry.2) empty

@[simp] theorem get?_empty (key : κ) : (empty : Dictionary κ ν).get? key = none := rfl

theorem contains_eq_isSome_get? (d : Dictionary κ ν) (key : κ) :
    d.contains key = (d.get? key).isSome := rfl

/-- One pass does what a look-up and a writing do. -/
theorem getThenInsert?_eq (d : Dictionary κ ν) (key : κ) (value : ν) :
    d.getThenInsert? key value = (d.get? key, d.insert key value) := by
  rcases d with ⟨stored⟩
  unfold getThenInsert? get? insert
  induction stored with
  | nil => rfl
  | cons entry rest ih =>
      simp only [Prod.mk.injEq, mk.injEq] at ih
      by_cases hk : entry.1 == key
      · simp [exchange, write, hk]
      · simp [exchange, write, hk, ih.1, ih.2]

/-- Writing to a list of entries that has the key leaves the keys alone. -/
theorem map_fst_write (key : κ) (value : ν) (entries : List (κ × ν))
    (h : entries.any (·.1 == key)) :
    (write key value entries).map Prod.fst = entries.map Prod.fst := by
  induction entries with
  | nil => exact absurd h (by simp)
  | cons entry rest ih =>
      by_cases hk : entry.1 == key
      · simp [write, hk]
      · have hrest : rest.any (·.1 == key) := by simpa [hk] using h
        simp [write, hk, ih hrest]

theorem keys_insert_of_contains (d : Dictionary κ ν) (key : κ) (value : ν)
    (h : d.contains key) : (d.insert key value).keys = d.keys :=
  map_fst_write key value d.entries (by simpa [contains, get?] using h)

/-- Writing to a list of entries that lacks the key appends. -/
theorem write_eq_append (key : κ) (value : ν) (entries : List (κ × ν))
    (h : ∀ entry ∈ entries, (entry.1 == key) = false) :
    write key value entries = entries ++ [(key, value)] := by
  induction entries with
  | nil => rfl
  | cons entry rest ih =>
      have hk := h entry List.mem_cons_self
      simp [write, hk, ih fun e he => h e (List.mem_cons_of_mem _ he)]

theorem insert_of_get?_eq_none (d : Dictionary κ ν) (key : κ) (value : ν)
    (h : d.get? key = none) : d.insert key value = ⟨d.entries ++ [(key, value)]⟩ := by
  rw [insert, write_eq_append key value d.entries]
  simpa [get?] using h

end Dictionary

end ShapeMatch
