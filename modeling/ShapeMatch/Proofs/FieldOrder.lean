import ShapeMatch.Proofs.Insertions
import ShapeMatch.Proofs.TypeOrder

/-!
# Records are Extensional

Two records are equal exactly if they have one type and every name reads equal
values in both.

The fields of a record are a list, sorted by name, and equality of records
compares two lists position by position. What makes it an equality of sets of
fields is that a set has one such list. A write finds the place of its name: the
field that has the name already, or else the gap between lower and higher names.
So the names stay strictly ascending, and in particular none is there twice.

Strictly ascending lists that read the same have the same names at the same
positions. The first names are equal: the lower one of two would be found in its
own list only, since the other list begins behind it. The values below the first
names agree because these are read, and the rest reads the same again.

A field reads as it was written last. The list of writes says that of every
dictionary, and fields are no exception, so the words for dictionaries serve here
as well.

## Main definitions

* `Fields.Sorted`: The names are strictly ascending.

## Theorems

* `sorted_ofList`: Fields that were written are sorted.
* `get?_ofList`: A field reads as it was written last.
* `Sorted.get?_iff_mem`: The listed fields are those that can be read.
* `forall₂_iff_lookup`: Sorted lists agree by position iff they agree by name.
* `Value.deepEqual_record_iff`: Equality of records by what can be read.
* `Value.deepEqual_record_extensional`: All of it, for records.
-/

namespace ShapeMatch

namespace Fields

variable {ν : Type}

/-- The names are strictly ascending. -/
def Sorted (f : Fields ν) : Prop := f.names.Pairwise (· < ·)

section Writes

theorem mem_names_write {name n : String} {value : ν} {entries : List (String × ν)} :
    n ∈ (write name value entries).map Prod.fst ↔ n = name ∨ n ∈ entries.map Prod.fst := by
  induction entries with
  | nil => exact List.mem_cons
  | cons entry rest ih =>
      rw [write]
      by_cases hn : name = entry.1
      · rw [if_pos hn, List.map_cons, List.map_cons, List.mem_cons, List.mem_cons, ← hn,
          or_self_left]
      · rw [if_neg hn]
        by_cases hlt : name < entry.1
        · rw [if_pos hlt, List.map_cons, List.mem_cons]
        · rw [if_neg hlt, List.map_cons, List.map_cons, List.mem_cons, List.mem_cons, ih,
            or_left_comm]

theorem pairwise_write (name : String) (value : ν) {entries : List (String × ν)}
    (h : (entries.map Prod.fst).Pairwise (· < ·)) :
    ((write name value entries).map Prod.fst).Pairwise (· < ·) := by
  induction entries with
  | nil => exact List.pairwise_singleton _ _
  | cons entry rest ih =>
      rw [List.map_cons, List.pairwise_cons] at h
      rcases h with ⟨hfirst, hrest⟩
      rw [write]
      by_cases hn : name = entry.1
      · rw [if_pos hn, List.map_cons, hn]
        exact .cons hfirst hrest
      · rw [if_neg hn]
        by_cases hlt : name < entry.1
        · -- The name is below the first one, and so below all.
          rw [if_pos hlt, List.map_cons]
          exact .cons (List.forall_mem_cons.mpr ⟨hlt, fun n hmem => String.lt_trans hlt (hfirst n hmem)⟩)
            (.cons hfirst hrest)
        · rw [if_neg hlt, List.map_cons]
          refine .cons (fun n hmem => ?_) (ih hrest)
          rcases mem_names_write.mp hmem with rfl | hmem
          · exact ((Std.lt_trichotomy n entry.1).resolve_left hlt).resolve_left hn
          · exact hfirst n hmem

theorem ofList_concat (writes : List (String × ν)) (w : String × ν) :
    ofList (writes ++ [w]) = (ofList writes).set w.1 w.2 :=
  List.foldl_append

/-- Fields that were written one by one are sorted. -/
theorem sorted_ofList (writes : List (String × ν)) : (ofList writes).Sorted := by
  induction writes using List.reverseRecOn with
  | nil => exact .nil
  | append_singleton rest w ih =>
      rw [ofList_concat]
      exact pairwise_write w.1 w.2 ih

/-- A field reads as it was written last. -/
theorem get?_ofList (writes : List (String × ν)) (name : String) :
    (ofList writes).get? name = Dictionary.lastUnder? writes name := by
  induction writes using List.reverseRecOn with
  | nil => rfl
  | append_singleton rest w ih =>
      rw [ofList_concat, Dictionary.lastUnder?_concat, ← ih]
      by_cases hname : w.1 = name
      · rw [if_pos (beq_iff_eq.mpr hname), ← hname, get?_set_self]
      · rw [if_neg (mt beq_iff_eq.mp hname), get?_set_of_ne _ (Ne.symm hname)]

theorem mem_names_ofList {writes : List (String × ν)} {name : String} :
    name ∈ (ofList writes).names ↔ name ∈ writes.map Prod.fst := by
  induction writes using List.reverseRecOn with
  | nil => rfl
  | append_singleton rest w ih =>
      rw [ofList_concat, List.map_append, List.map_singleton, List.mem_append, List.mem_singleton,
        ← ih, or_comm]
      exact mem_names_write

end Writes

section Sorted

theorem Sorted.nodup {f : Fields ν} (h : f.Sorted) : f.names.Nodup :=
  List.Pairwise.imp Std.ne_of_lt h

theorem lookup_cons_of_ne {name : String} {entry : String × ν} (h : name ≠ entry.1)
    (rest : List (String × ν)) : (entry :: rest).lookup name = rest.lookup name := by
  rw [List.lookup_cons, beq_eq_false_iff_ne.mpr h]

/-- The listed fields are those that can be read. -/
theorem Sorted.get?_iff_mem {f : Fields ν} (h : f.Sorted) {name : String} {value : ν} :
    f.get? name = some value ↔ (name, value) ∈ f.entries := by
  refine ⟨mem_of_get?, fun hmem => ?_⟩
  have hnodup := h.nodup
  unfold get?
  unfold names at hnodup
  generalize f.entries = entries at hmem hnodup
  induction entries with
  | nil => exact absurd hmem List.not_mem_nil
  | cons entry rest ih =>
      rw [List.map_cons, List.nodup_cons] at hnodup
      rcases List.mem_cons.mp hmem with rfl | hmem
      · exact List.lookup_cons_self
      · have hne : name ≠ entry.1 := fun heq => hnodup.1 (heq ▸ List.mem_map_of_mem hmem)
        rw [lookup_cons_of_ne hne]
        exact ih hmem hnodup.2

/-- A name below all names of a list is not found there. -/
theorem lookup_eq_none_of_lt {name : String} {entries : List (String × ν)}
    (h : ∀ n ∈ entries.map Prod.fst, name < n) : entries.lookup name = none := by
  rw [List.lookup_eq_none_iff]
  intro entry hentry
  have hlt := h entry.1 (List.mem_map_of_mem hentry)
  exact bne_iff_ne.mpr (Std.ne_of_lt hlt)

-- The names of a sorted list are not below its first one.
theorem lookup_cons_of_lt {name : String} {entry : String × ν} {rest : List (String × ν)}
    (hrest : ∀ n ∈ rest.map Prod.fst, entry.1 < n) (h : name < entry.1) :
    (entry :: rest).lookup name = none := by
  refine lookup_eq_none_of_lt ?_
  rw [List.map_cons, List.forall_mem_cons]
  exact ⟨h, fun n hn => String.lt_trans h (hrest n hn)⟩

variable {R : ν → ν → Prop}

/-- Sorted lists agree position by position iff they agree name by name. -/
theorem forall₂_iff_lookup {xs ys : List (String × ν)}
    (hxs : (xs.map Prod.fst).Pairwise (· < ·)) (hys : (ys.map Prod.fst).Pairwise (· < ·)) :
    List.Forall₂ (NamedAgree String R) xs ys ↔
      ∀ name, Option.Rel R (xs.lookup name) (ys.lookup name) := by
  refine ⟨optionRel_lookup, fun h => ?_⟩
  induction xs generalizing ys with
  | nil =>
      cases ys with
      | nil => exact .nil
      | cons y rest' =>
          have hy := h y.1
          rw [List.lookup_nil, List.lookup_cons_self] at hy
          exact nomatch hy
  | cons x rest ih =>
      cases ys with
      | nil =>
          have hx := h x.1
          rw [List.lookup_nil, List.lookup_cons_self] at hx
          exact nomatch hx
      | cons y rest' =>
          rw [List.map_cons, List.pairwise_cons] at hxs hys
          -- The lower one of two first names is found on one side only.
          have hname : x.1 = y.1 := by
            rcases Std.lt_trichotomy x.1 y.1 with hlt | heq | hlt
            · have hx := h x.1
              rw [List.lookup_cons_self, lookup_cons_of_lt hys.1 hlt] at hx
              exact nomatch hx
            · exact heq
            · have hy := h y.1
              rw [List.lookup_cons_self, lookup_cons_of_lt hxs.1 hlt] at hy
              exact nomatch hy
          have hvalue := h x.1
          rw [List.lookup_cons_self, hname, List.lookup_cons_self, Option.rel_some_some] at hvalue
          refine .cons ⟨hname, hvalue⟩ (ih hxs.2 hys.2 fun name => ?_)
          by_cases heq : name = x.1
          · rw [heq, lookup_eq_none_of_lt hxs.1, hname, lookup_eq_none_of_lt hys.1]
            exact .none
          · have hrest := h name
            rw [lookup_cons_of_ne heq, lookup_cons_of_ne (hname ▸ heq)] at hrest
            exact hrest

end Sorted

end Fields

namespace Value

/-- Equality of records in terms of what can be read. -/
theorem deepEqual_record_iff (t u : RecordType) {f g : Fields Value} (hf : f.Sorted)
    (hg : g.Sorted) :
    (record t f).deepEqual (record u g) = true ↔
      t = u ∧ ∀ name, Option.Rel Alike (f.get? name) (g.get? name) := by
  rw [deepEqual_record, Bool.and_eq_true, beq_iff_eq, fieldListEqual_iff,
    Fields.forall₂_iff_lookup hf hg]
  rfl

/-- Records are extensional. Whatever fields are written, each name that was
    written is listed once, in strictly ascending order, with the value that it
    reads, and that is the value written last. Two records are equal iff they are
    of one declaration and every name reads equal values in both or nothing in
    either, however their fields were written. -/
theorem deepEqual_record_extensional {registry : Registry} (h : registry.Declared) :
    (∀ writes : List (String × Value),
      (Fields.ofList writes).names.Pairwise (· < ·) ∧
      (∀ name, (Fields.ofList writes).names.count name =
        if name ∈ writes.map Prod.fst then 1 else 0) ∧
      (∀ name value, (name, value) ∈ (Fields.ofList writes).entries ↔
        (Fields.ofList writes).get? name = some value) ∧
      ∀ (t : RecordType) (name : String),
        (record t (.ofList writes)).field? name = Dictionary.lastUnder? writes name) ∧
    (∀ i j t u, registry.get? i = some t → registry.get? j = some u →
      ∀ writes writes' : List (String × Value),
        ((record t (.ofList writes)).deepEqual (record u (.ofList writes')) = true ↔
          i = j ∧ ∀ name, Option.Rel Alike ((record t (.ofList writes)).field? name)
            ((record u (.ofList writes')).field? name))) := by
  constructor
  · intro writes
    have hsorted := Fields.sorted_ofList writes
    refine ⟨hsorted, fun name => ?_, fun name value => hsorted.get?_iff_mem.symm,
      fun t name => Fields.get?_ofList writes name⟩
    rw [hsorted.nodup.count]
    exact if_congr Fields.mem_names_ofList rfl rfl
  · intro i j t u hi hj writes writes'
    have hplace : t = u ↔ i = j := h.eq_iff_place hi hj
    rw [deepEqual_record_iff t u (Fields.sorted_ofList writes) (Fields.sorted_ofList writes'),
      hplace]
    rfl

/-- Two declarations of one name. The fields are written in different orders, one
    of them twice, and once with `1.0` for `1`. -/
theorem deepEqual_record_extensional_of_namesakes :
    (record (.root 0 "point") (.ofList [("y", int 2), ("x", str "a"), ("x", int 1)])).deepEqual
      (record (.root 0 "point") (.ofList [("x", float ⟨0x3ff0000000000000⟩), ("y", int 2)])) =
        true ∧
    (∀ name, Option.Rel Alike
      ((record (.root 0 "point") (.ofList [("y", int 2), ("x", str "a"), ("x", int 1)])).field? name)
      ((record (.root 0 "point")
        (.ofList [("x", float ⟨0x3ff0000000000000⟩), ("y", int 2)])).field? name)) ∧
    (record (.root 0 "point") (.ofList [("x", int 1)])).deepEqual
      (record (.root 1 "point") (.ofList [("x", int 1)])) ≠ true := by
  have hpoint := Registry.Declared.empty.declare "point" .none nofun
  have hrecords := (deepEqual_record_extensional (hpoint.declare "point" .none nofun)).2
  exact ⟨rfl, ((hrecords 0 0 _ _ rfl rfl _ _).mp rfl).2,
    fun hequal => absurd ((hrecords 0 1 _ _ rfl rfl _ _).mp hequal).1 (by decide)⟩

end Value

end ShapeMatch
