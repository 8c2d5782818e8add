import ShapeMatch.Value

/-!
# Deep Equality

When two values count as equal.

Numbers are equal when they denote the same number, whether they are integers
or not, and every NaN equals every NaN. A truth value equals no number.
Sequences are equal when they are of one kind and agree item by item, records
when they are of one declared type and agree field by field.

Maps are equal when they have the same number of entries and each entry of the
first has its value under its key in the second. The order of the entries
does not count. Since the keys of a map are pairwise unequal, the comparison
in one direction and the count give the other direction.

A look-up compares the stored keys with the sought one. So when two maps are
compared, their values are compared from left to right, and their keys from
right to left. This is why deep equality is defined together with `equalTo`,
which has its arguments the other way round; `equalTo_eq` says that it is
nothing new.

Deep equality is also the comparison of keys, so a map holds at most one of
`1` and `1.0`.

## Main definitions

* `Value.deepEqual`: Deep equality.
* `Value.equalTo`: The same with the arguments the other way round.
* `Value.lookup?`: The view of a value by the key of a map.

## Theorems

* `sizeOf_item`, `sizeOf_entry`, `sizeOf_field`: Parts of values are smaller.
* `equalTo_eq`: The two definitions agree.
* `deepEqual_seq`: Sequences agree in kind and item by item.
* `deepEqual_map`: Maps agree in size and entry by entry.
* `deepEqual_record`: Records agree in type and field by field.
-/

namespace ShapeMatch

namespace Value

mutual

/-- Whether two values are equal, up to the representation of numbers and the
    order of the entries of maps. -/
def deepEqual : Value → Value → Bool
  | none, none => true
  | bool a, bool b => a == b
  | int i, int j => i == j
  | float x, float y => x.same y
  | int i, float x => x.equalsInt i
  | float x, int i => x.equalsInt i
  | str s, str t => s == t
  | seq kind xs, seq kind' ys => kind == kind' && itemsEqual xs ys
  | map d, map e => dictionaryWithin d e
  | record t f, record u g => t == u && fieldsEqual f g
  | type t, type u => t == u
  | _, _ => false
termination_by structural v => v

/-- Whether two lists of values have the same length and equal items. -/
def itemsEqual : List Value → List Value → Bool
  | [], [] => true
  | x :: xs, y :: ys => deepEqual x y && itemsEqual xs ys
  | _, _ => false
termination_by structural xs => xs

/-- Whether two maps have the same size and the second has all entries of the
    first. -/
def dictionaryWithin : Dictionary Value Value → Dictionary Value Value → Bool
  | ⟨xs⟩, e => xs.length == e.size && entriesWithin xs e.entries
termination_by structural d => d

/-- Whether the second list has all entries of the first. -/
def entriesWithin : List (Value × Value) → List (Value × Value) → Bool
  | [], _ => true
  | entry :: rest, ys => entryWithin entry ys && entriesWithin rest ys
termination_by structural xs => xs

/-- Whether an entry equals the value that a list of entries has under its
    key. -/
def entryWithin : Value × Value → List (Value × Value) → Bool
  | (k, v), ys => (ys.find? fun stored => equalTo k stored.1).any fun stored => deepEqual v stored.2
termination_by structural entry => entry

/-- Whether two sets of fields agree name by name. -/
def fieldsEqual : Fields Value → Fields Value → Bool
  | ⟨xs⟩, g => fieldListEqual xs g.entries
termination_by structural f => f

/-- Whether two lists of fields have the same names and equal values. -/
def fieldListEqual : List (String × Value) → List (String × Value) → Bool
  | [], [] => true
  | x :: xs, y :: ys => fieldEqual x y && fieldListEqual xs ys
  | _, _ => false
termination_by structural xs => xs

/-- Whether two fields have the same name and equal values. -/
def fieldEqual : String × Value → String × Value → Bool
  | (name, v), (name', w) => name == name' && deepEqual v w
termination_by structural field => field

/-- Whether the second value is equal to the first. -/
def equalTo : Value → Value → Bool
  | none, none => true
  | bool a, bool b => b == a
  | int i, int j => j == i
  | float x, float y => y.same x
  | int i, float x => x.equalsInt i
  | float x, int i => x.equalsInt i
  | str s, str t => t == s
  | seq kind xs, seq kind' ys => kind' == kind && itemsEqualTo xs ys
  | map d, map e => dictionaryCovers d e
  | record t f, record u g => u == t && fieldsEqualTo f g
  | type t, type u => u == t
  | _, _ => false
termination_by structural v => v

/-- Whether the items of the second list are equal to those of the first. -/
def itemsEqualTo : List Value → List Value → Bool
  | [], [] => true
  | x :: xs, y :: ys => equalTo x y && itemsEqualTo xs ys
  | _, _ => false
termination_by structural xs => xs

/-- Whether two maps have the same size and the first has all entries of the
    second. -/
def dictionaryCovers : Dictionary Value Value → Dictionary Value Value → Bool
  | ⟨xs⟩, e => e.size == xs.length && e.entries.all fun entry => entriesCover xs entry
termination_by structural d => d

/-- Whether an entry equals the value that a list of entries has under its
    key, by recursion on the list. -/
def entriesCover : List (Value × Value) → Value × Value → Bool
  | [], _ => false
  | stored :: rest, entry => (entryCovers stored entry).getD (entriesCover rest entry)
termination_by structural xs => xs

/-- Whether an entry equals the value of a stored one, if the keys are equal. -/
def entryCovers : Value × Value → Value × Value → Option Bool
  | (k, v), entry => if deepEqual k entry.1 then some (equalTo v entry.2) else Option.none
termination_by structural stored => stored

/-- Whether the second set of fields agrees with the first. -/
def fieldsEqualTo : Fields Value → Fields Value → Bool
  | ⟨xs⟩, g => fieldListEqualTo xs g.entries
termination_by structural f => f

/-- Whether the fields of the second list agree with those of the first. -/
def fieldListEqualTo : List (String × Value) → List (String × Value) → Bool
  | [], [] => true
  | x :: xs, y :: ys => fieldEqualTo x y && fieldListEqualTo xs ys
  | _, _ => false
termination_by structural xs => xs

/-- Whether the second field agrees with the first. -/
def fieldEqualTo : String × Value → String × Value → Bool
  | (name, v), (name', w) => name' == name && equalTo v w
termination_by structural field => field

end

/-- Values compare by deep equality, also as the keys of maps. -/
instance : BEq Value := ⟨deepEqual⟩

@[simp] theorem beq_eq_deepEqual (v w : Value) : (v == w) = v.deepEqual w := rfl

/-- The value under a key of a map. -/
def lookup? : Value → Value → Option Value
  | map entries, key => entries.get? key
  | _, _ => Option.none

section Sizes

theorem sizeOf_item (kind : SeqKind) {items : List Value} {v : Value} (h : v ∈ items) :
    sizeOf v < sizeOf (seq kind items) := by
  have hlt := List.sizeOf_lt_of_mem h
  rw [seq.sizeOf_spec]
  omega

theorem sizeOf_entry {d : Dictionary Value Value} {entry : Value × Value} (h : entry ∈ d.entries) :
    sizeOf entry.1 < sizeOf (map d) ∧ sizeOf entry.2 < sizeOf (map d) := by
  rcases d with ⟨entries⟩
  rcases entry with ⟨key, value⟩
  have hlt : sizeOf (key, value) < sizeOf entries := List.sizeOf_lt_of_mem h
  simp only [map.sizeOf_spec, Dictionary.mk.sizeOf_spec]
  rw [Prod.mk.sizeOf_spec] at hlt
  omega

theorem sizeOf_field (declared : RecordType) {f : Fields Value} {field : String × Value}
    (h : field ∈ f.entries) : sizeOf field.2 < sizeOf (record declared f) := by
  rcases f with ⟨entries⟩
  rcases field with ⟨name, value⟩
  have hlt : sizeOf (name, value) < sizeOf entries := List.sizeOf_lt_of_mem h
  simp only [record.sizeOf_spec, Fields.mk.sizeOf_spec]
  rw [Prod.mk.sizeOf_spec] at hlt
  omega

end Sizes

theorem entriesWithin_eq_all (xs ys : List (Value × Value)) :
    entriesWithin xs ys = xs.all (entryWithin · ys) := by
  induction xs with
  | nil => rfl
  | cons entry rest ih => rw [entriesWithin, ih, List.all_cons]

section Mirror

-- The two definitions agree on the parts of lists if they do on their items.
theorem itemsEqualTo_eq (xs : List Value) :
    ∀ ys : List Value, (∀ x ∈ xs, ∀ y ∈ ys, x.equalTo y = y.deepEqual x) →
      itemsEqualTo xs ys = itemsEqual ys xs := by
  induction xs with
  | nil =>
      intro ys _
      cases ys <;> rfl
  | cons x rest ih =>
      intro ys h
      cases ys with
      | nil => rfl
      | cons y rest' =>
          have hrest : ∀ x ∈ rest, ∀ y ∈ rest', x.equalTo y = y.deepEqual x := fun x hx y hy =>
            h x (List.mem_cons_of_mem _ hx) y (List.mem_cons_of_mem _ hy)
          rw [itemsEqualTo, itemsEqual, ih rest' hrest, h x List.mem_cons_self y List.mem_cons_self]

theorem fieldListEqualTo_eq (xs : List (String × Value)) :
    ∀ ys : List (String × Value),
      (∀ x ∈ xs, ∀ y ∈ ys, x.2.equalTo y.2 = y.2.deepEqual x.2) →
        fieldListEqualTo xs ys = fieldListEqual ys xs := by
  induction xs with
  | nil =>
      intro ys _
      cases ys <;> rfl
  | cons x rest ih =>
      intro ys h
      cases ys with
      | nil => rfl
      | cons y rest' =>
          have hrest : ∀ x ∈ rest, ∀ y ∈ rest', x.2.equalTo y.2 = y.2.deepEqual x.2 :=
            fun x hx y hy => h x (List.mem_cons_of_mem _ hx) y (List.mem_cons_of_mem _ hy)
          rw [fieldListEqualTo, fieldListEqual, ih rest' hrest, fieldEqualTo, fieldEqual,
            h x List.mem_cons_self y List.mem_cons_self]

theorem entriesCover_eq (xs : List (Value × Value)) (entry : Value × Value)
    (hkey : ∀ x ∈ xs, entry.1.equalTo x.1 = x.1.deepEqual entry.1)
    (hvalue : ∀ x ∈ xs, x.2.equalTo entry.2 = entry.2.deepEqual x.2) :
    entriesCover xs entry = entryWithin entry xs := by
  rw [entryWithin]
  induction xs with
  | nil => rfl
  | cons x rest ih =>
      rw [List.forall_mem_cons] at hkey hvalue
      rw [entriesCover, entryCovers, List.find?_cons, ih hkey.2 hvalue.2, hkey.1]
      cases x.1.deepEqual entry.1 with
      | true => exact hvalue.1
      | false => rfl

/-- The two definitions of deep equality agree, by induction on the size of both
    values together. -/
theorem equalTo_eq (v w : Value) : v.equalTo w = w.deepEqual v := by
  have hbelow : ∀ n (v w : Value), sizeOf v + sizeOf w < n → v.equalTo w = w.deepEqual v := by
    intro n
    induction n with
    | zero => exact fun v w h => absurd h (Nat.not_lt_zero _)
    | succ n ih =>
        intro v w h
        fun_cases equalTo v w
        case case8 kind xs kind' ys =>
          rw [deepEqual, itemsEqualTo_eq]
          intro x hx y hy
          have hxlt := sizeOf_item kind hx
          have hylt := sizeOf_item kind' hy
          exact ih x y (by omega)
        case case9 d e =>
          rcases d with ⟨xs⟩
          rcases e with ⟨ys⟩
          rw [deepEqual, dictionaryCovers, dictionaryWithin, entriesWithin_eq_all]
          congr 1
          rw [Bool.eq_iff_iff, List.all_eq_true, List.all_eq_true]
          refine forall_congr' fun entry => forall_congr' fun hentry => ?_
          have helt := sizeOf_entry (d := ⟨ys⟩) hentry
          rw [entriesCover_eq]
          · intro x hx
            have hxlt := sizeOf_entry (d := ⟨xs⟩) hx
            exact ih entry.1 x.1 (by omega)
          · intro x hx
            have hxlt := sizeOf_entry (d := ⟨xs⟩) hx
            exact ih x.2 entry.2 (by omega)
        case case10 t f u g =>
          rcases f with ⟨xs⟩
          rcases g with ⟨ys⟩
          rw [deepEqual, fieldsEqualTo, fieldsEqual, fieldListEqualTo_eq]
          intro x hx y hy
          have hxlt := sizeOf_field t (f := ⟨xs⟩) hx
          have hylt := sizeOf_field u (f := ⟨ys⟩) hy
          exact ih x.2 y.2 (by omega)
        case case12 =>
          -- No rule fits in either order.
          rw [deepEqual] <;> grind
        all_goals rw [deepEqual]
  exact hbelow (sizeOf v + sizeOf w + 1) v w (Nat.lt_succ_self _)

end Mirror

theorem deepEqual_seq (kind kind' : SeqKind) (xs ys : List Value) :
    (seq kind xs).deepEqual (seq kind' ys) = (kind == kind' && itemsEqual xs ys) := by
  rw [deepEqual]

theorem entryWithin_eq_any_get? (entry : Value × Value) (d : Dictionary Value Value) :
    entryWithin entry d.entries = (d.get? entry.1).any (entry.2.deepEqual ·) := by
  rw [entryWithin, Dictionary.get?]
  simp only [equalTo_eq, beq_eq_deepEqual]
  cases d.entries.find? fun stored => stored.1.deepEqual entry.1 <;> simp

theorem deepEqual_map (d e : Dictionary Value Value) :
    (map d).deepEqual (map e) =
      (d.size == e.size &&
        d.entries.all fun entry => (e.get? entry.1).any (entry.2.deepEqual ·)) := by
  rw [deepEqual, dictionaryWithin, entriesWithin_eq_all]
  simp only [entryWithin_eq_any_get?, Dictionary.size]

theorem deepEqual_record (t u : RecordType) (f g : Fields Value) :
    (record t f).deepEqual (record u g) = (t == u && fieldListEqual f.entries g.entries) := by
  rw [deepEqual, fieldsEqual]

end Value

end ShapeMatch
