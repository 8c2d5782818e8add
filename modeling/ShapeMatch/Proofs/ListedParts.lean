import ShapeMatch.Proofs.Insertions
import ShapeMatch.Proofs.Policies

/-!
# Listed Parts

Patterns of maps and records look at nothing but the parts that they list.

A map is searched for the listed keys, one after another, and what is found
there is all that the match ever gets hold of. So two maps cannot be told apart
by a pattern under whose keys both hold the same. This is about the very values
that are found and not about equal ones, because a capture records what it is
given.

Insertions under other keys leave that as it is. Keys are compared by deep
equality, so a listed key may be found under another representation of it, and
an insertion under a key that equals none of the listed ones must not come in
between. It does not, since equality of built keys is an equivalence. For the
fields of a record, whose names are compared as they are, there is nothing to
assume.

## Main definitions

* `Pattern.SameOn`: A pattern cannot tell two values apart.
* `Fields.setAll`: Several writes.

## Theorems

* `get?_insertAll_of_unequal`: Insertions under other keys.
* `get?_setAll_of_ne`: Writes to other fields.
* `sameOn_mapping`, `sameOn_object`: What is listed decides.
* `extract_unlisted`: What is not listed does not matter.
-/

namespace ShapeMatch

namespace Dictionary

variable {κ ν : Type} [BEq κ] {P : κ → Prop}

/-- Insertions under keys that equal none of two equal keys cannot be found there. -/
theorem get?_insertAll_of_unequal (h : EquivalenceOn (fun a b : κ => (a == b) = true) P)
    {d : Dictionary κ ν} (hd : ∀ k ∈ d.keys, P k) {entries : List (κ × ν)}
    (hentries : ∀ entry ∈ entries, P entry.1) {key : κ} (hkey : P key)
    (hne : ∀ entry ∈ entries, ¬(entry.1 == key) = true) :
    (d.insertAll entries).get? key = d.get? key := by
  have hnone : lastUnder? entries key = none := by
    rw [← Option.not_isSome_iff_eq_none, isSome_lastUnder?]
    intro hsome
    rcases hsome with ⟨entry, hentry, heq⟩
    exact hne entry hentry heq
  rw [get?_insertAll h hentries hkey d hd, hnone, Option.none_or]

end Dictionary

namespace Fields

variable {ν : Type}

/-- Write a list of fields, first to last. -/
def setAll (f : Fields ν) (writes : List (String × ν)) : Fields ν :=
  writes.foldl (fun f write => f.set write.1 write.2) f

theorem get?_setAll_of_ne {name : String} {writes : List (String × ν)}
    (h : ∀ write ∈ writes, write.1 ≠ name) :
    ∀ f : Fields ν, (f.setAll writes).get? name = f.get? name := by
  induction writes with
  | nil => exact fun _ => rfl
  | cons write rest ih =>
      rw [List.forall_mem_cons] at h
      intro f
      exact (ih h.2 (f.set write.1 write.2)).trans (f.get?_set_of_ne h.1.symm write.2)

end Fields

variable {σ : Type}

namespace Matcher

-- The steps of a match of a map are those of the values under the listed keys.
theorem mapping_congr {entries : List (Value × Matcher σ)} {v w : Value}
    (hkind : v.isMapping = w.isMapping)
    (hfound : ∀ entry ∈ entries, v.lookup? entry.1 = w.lookup? entry.1) :
    mapping entries v = mapping entries w := by
  have hsteps : (entries.map fun entry => onPart entry.2 (v.lookup? entry.1)) =
      entries.map fun entry => onPart entry.2 (w.lookup? entry.1) :=
    List.map_congr_left fun entry hentry => congrArg (onPart entry.2) (hfound entry hentry)
  unfold mapping
  rw [hkind, hsteps]

theorem object_congr {expected : Option TypeTag} {fields : List (String × Matcher σ)} {v w : Value}
    (hkind : v.isRecord = w.isRecord) (htype : v.typeOf = w.typeOf)
    (hfound : ∀ field ∈ fields, v.field? field.1 = w.field? field.1) :
    object expected fields v = object expected fields w := by
  have hsteps : (fields.map fun field => onPart field.2 (v.field? field.1)) =
      fields.map fun field => onPart field.2 (w.field? field.1) :=
    List.map_congr_left fun field hfield => congrArg (onPart field.2) (hfound field hfield)
  unfold object
  rw [hkind, htype, hsteps]

end Matcher

namespace Pattern

/-- A match comes to the same on both values, in the same state and with the same
    calls of tests. -/
def SameOn (policy : ErrorPolicy) (p : Pattern σ) (v w : Value) : Prop :=
  ∀ s, p.extract policy v s = p.extract policy w s ∧ p.calls policy v s = p.calls policy w s

variable {policy : ErrorPolicy} {v w : Value}

theorem sameOn_of_matcher {p : Pattern σ} (h : p.matcher policy v = p.matcher policy w)
    (hrecorded : p.recorded.matcher policy v = p.recorded.matcher policy w) :
    p.SameOn policy v w := by
  intro s
  unfold calls extract
  rw [h, hrecorded]
  exact ⟨rfl, rfl⟩

theorem recorded_mapping (entries : List (Value × Pattern σ)) :
    (mapping entries).recorded = mapping (entries.map fun entry => (entry.1, entry.2.recorded)) :=
  fold_mapping (testAlgebra Predicate.recorded) entries

theorem recorded_object (expected : Option TypeTag) (fields : List (String × Pattern σ)) :
    (object expected fields).recorded =
      object expected (fields.map fun field => (field.1, field.2.recorded)) :=
  fold_object (testAlgebra Predicate.recorded) expected fields

/-- A pattern of maps cannot tell two maps apart that hold the same under all the
    listed keys. -/
theorem sameOn_mapping {entries : List (Value × Pattern σ)} (hkind : v.isMapping = w.isMapping)
    (hfound : ∀ entry ∈ entries, v.lookup? entry.1 = w.lookup? entry.1) :
    (mapping entries).SameOn policy v w := by
  apply sameOn_of_matcher
  · rw [matcher_mapping]
    exact Matcher.mapping_congr hkind (List.forall_mem_map.mpr hfound)
  · rw [recorded_mapping, matcher_mapping, List.map_map]
    exact Matcher.mapping_congr hkind (List.forall_mem_map.mpr hfound)

/-- A pattern of records cannot tell two records of one type apart that have the
    same listed fields. -/
theorem sameOn_object {expected : Option TypeTag} {fields : List (String × Pattern σ)}
    (hkind : v.isRecord = w.isRecord) (htype : v.typeOf = w.typeOf)
    (hfound : ∀ field ∈ fields, v.field? field.1 = w.field? field.1) :
    (object expected fields).SameOn policy v w := by
  apply sameOn_of_matcher
  · rw [matcher_object]
    exact Matcher.object_congr hkind htype (List.forall_mem_map.mpr hfound)
  · rw [recorded_object, matcher_object, List.map_map]
    exact Matcher.object_congr hkind htype (List.forall_mem_map.mpr hfound)

/-- What a pattern of maps or records does not list does not matter. Further
    insertions under keys that equal no listed one leave a match of a map with the
    same result, bindings, error, state and calls, and so does another order of
    the insertions, if the same values are found under the listed keys. A match of
    a record stays the same when fields are written that are not listed. -/
theorem extract_unlisted (policy : ErrorPolicy) :
    (∀ (entries : List (Value × Pattern σ)) (inserts : List (Value × Value)),
      (∀ entry ∈ entries, entry.1.Built) → (∀ insert ∈ inserts, insert.1.Built) →
      (∀ more : List (Value × Value), (∀ insert ∈ more, insert.1.Built) →
        (∀ insert ∈ more, ∀ entry ∈ entries, insert.1.deepEqual entry.1 = false) →
        (mapping entries).SameOn policy (.map ((Dictionary.ofList inserts).insertAll more))
          (.map (.ofList inserts))) ∧
      (∀ reordered : List (Value × Value), reordered.Perm inserts →
        (∀ entry ∈ entries, (Value.map (.ofList reordered)).lookup? entry.1 =
          (Value.map (.ofList inserts)).lookup? entry.1) →
        (mapping entries).SameOn policy (.map (.ofList reordered)) (.map (.ofList inserts)))) ∧
    (∀ (expected : Option TypeTag) (fields : List (String × Pattern σ)) (declared : RecordType)
      (f : Fields Value) (writes : List (String × Value)),
      (∀ write ∈ writes, ∀ field ∈ fields, write.1 ≠ field.1) →
      (object expected fields).SameOn policy (.record declared (f.setAll writes))
        (.record declared f)) := by
  refine ⟨fun entries inserts hentries hinserts => ⟨fun more hmore hne => ?more,
    fun reordered _ hfound => sameOn_mapping rfl hfound⟩,
    fun expected fields declared f writes hne => ?fields⟩
  case more =>
    refine sameOn_mapping rfl fun entry hentry => ?_
    exact Dictionary.get?_insertAll_of_unequal Value.equivalenceOn_alike
      (Dictionary.forall_keys_ofList hinserts) hmore (hentries entry hentry)
      fun insert hinsert => Bool.eq_false_iff.mp (hne insert hinsert entry hentry)
  case fields =>
    exact sameOn_object rfl rfl fun field hfield =>
      Fields.get?_setAll_of_ne (fun write hwrite => hne write hwrite field hfield) f

-- A key that is listed twice, and not as it was inserted.
theorem extract_unlisted_of_numbers :
    (mapping [(.float ⟨0x3ff0000000000000⟩, capture ⟨⟨1⟩, "x"⟩),
          (.int 1, predicate ⟨"count", fun _ n => (.ok true, n + 1)⟩)]).SameOn .propagate
      (.map ((Dictionary.ofList [(.int 1, .str "a"), (.int 2, .str "b")]).insertAll
        [(.int 2, .none), (.float ⟨0x7ff8000000000000⟩, .none)]))
      (.map (.ofList [(.int 1, .str "a"), (.int 2, .str "b")])) ∧
    (mapping [(.float ⟨0x3ff0000000000000⟩, capture ⟨⟨1⟩, "x"⟩),
          (.int 1, predicate ⟨"count", fun _ n => (.ok true, n + 1)⟩)]).SameOn .propagate
      (.map (.ofList [(.int 2, .str "b"), (.int 1, .str "a")]))
      (.map (.ofList [(.int 1, .str "a"), (.int 2, .str "b")])) ∧
    (object none [("year", capture ⟨⟨1⟩, "x"⟩),
          ("year", predicate ⟨"count", fun _ n => (.ok true, n + 1)⟩)]).SameOn .propagate
      (.record (.root 0 "book") ((Fields.ofList [("year", .int 1970)]).setAll
        [("title", .str "a"), ("author", .none), ("title", .str "b")]))
      (.record (.root 0 "book") (.ofList [("year", .int 1970)])) := by
  have hmaps := (extract_unlisted .propagate).1
    [(.float ⟨0x3ff0000000000000⟩, capture ⟨⟨1⟩, "x"⟩),
      (.int 1, predicate ⟨"count", fun _ (n : Nat) => (.ok true, n + 1)⟩)]
    [(.int 1, .str "a"), (.int 2, .str "b")]
    (by simp [Value.Built.int, Value.Built.float]) (by simp [Value.Built.int])
  refine ⟨hmaps.1 _ (by simp [Value.Built.int, Value.Built.float]) ?unequal,
    hmaps.2 _ (List.Perm.swap _ _ _) ?found,
    (extract_unlisted .propagate).2 none _ _ _ _ (by simp)⟩
  case unequal =>
    simp only [List.forall_mem_cons, List.not_mem_nil, false_imp_iff, implies_true, and_true]
    exact ⟨⟨rfl, rfl⟩, rfl, rfl⟩
  case found =>
    simp only [List.forall_mem_cons, List.not_mem_nil, false_imp_iff, implies_true, and_true]
    exact ⟨rfl, rfl⟩

end Pattern

end ShapeMatch
