import ShapeMatch.Proofs.DistinctKeys
import ShapeMatch.Value.Equality

/-!
# Built Values

The values that the operations of the library can make.

The type `Value` has members that no operation makes: maps in which two keys
are equal, and records whose fields are out of order. `Built` leaves them out.
A map is built by insertions from the empty map, a record by writing its
fields, and the same holds for every value inside. Whatever a program gets
hold of is built, so theorems about maps assume it and nothing else.

The inversion lemmas below are all that is used of the definition. A part of a
built value is built, and the keys of a built map are distinct.

## Main definitions

* `Value.Built`: The value is made by the operations.

## Theorems

* `Built.item`, `Built.key`, `Built.value`, `Built.field`: Parts of built values
  are built.
* `Built.distinct`: No two keys of a built map are equal.
* `Built.viewed`, `Built.found`, `Built.read`: What a view of a built value
  finds is built.
* `Built.ofSequence`: A sequence of built values is built.
-/

namespace ShapeMatch

namespace Fields

variable {ν : Type}

-- Values of fields were there before a write or written.
theorem write_sound (name : String) (value : ν) (entries : List (String × ν)) {field : String × ν}
    (h : field ∈ write name value entries) : field.2 ∈ entries.map Prod.snd ∨ field.2 = value := by
  induction entries with
  | nil =>
      simp only [write, List.mem_singleton] at h
      rw [h]
      exact Or.inr rfl
  | cons first rest ih =>
      rw [write] at h
      by_cases hn : name = first.1
      · rw [if_pos hn, List.mem_cons] at h
        rcases h with rfl | h
        · exact Or.inr rfl
        · exact Or.inl (List.mem_cons_of_mem _ (List.mem_map_of_mem h))
      · rw [if_neg hn] at h
        by_cases hlt : name < first.1
        · rw [if_pos hlt, List.mem_cons] at h
          rcases h with rfl | h
          · exact Or.inr rfl
          · exact Or.inl (List.mem_map_of_mem h)
        · rw [if_neg hlt, List.mem_cons] at h
          rcases h with rfl | h
          · exact Or.inl List.mem_cons_self
          · exact (ih h).imp_left (List.mem_cons_of_mem _)

-- Values of fields set in turn were written.
theorem ofList_sound (writes : List (String × ν)) {field : String × ν}
    (h : field ∈ (ofList writes).entries) : field.2 ∈ writes.map Prod.snd := by
  -- By induction on the writes, so for any fields to start from.
  have hgeneral : ∀ f : Fields ν,
      field ∈ (writes.foldl (fun f w => f.set w.1 w.2) f).entries →
        field.2 ∈ f.entries.map Prod.snd ∨ field.2 ∈ writes.map Prod.snd := by
    clear h
    induction writes with
    | nil => exact fun f h => Or.inl (List.mem_map_of_mem h)
    | cons first rest ih =>
        intro f h
        rcases ih (f.set first.1 first.2) h with hold | hnew
        · rcases List.mem_map.mp hold with ⟨old, hmem, heq⟩
          rw [← heq, List.map_cons, List.mem_cons]
          exact (write_sound first.1 first.2 f.entries hmem).imp_right Or.inl
        · exact Or.inr (List.mem_cons_of_mem _ hnew)
  exact (hgeneral empty h).resolve_left List.not_mem_nil

end Fields

namespace Value

/-- A value made by the operations, all the way down. -/
inductive Built : Value → Prop
  | none : Built none
  | bool (b : Bool) : Built (bool b)
  | int (i : Int64) : Built (int i)
  | float (x : Binary64) : Built (float x)
  | str (s : String) : Built (str s)
  | seq (kind : SeqKind) (items : List Value) (hitems : ∀ v ∈ items, Built v) :
      Built (seq kind items)
  | map (inserts : List (Value × Value)) (hkeys : ∀ entry ∈ inserts, Built entry.1)
      (hvalues : ∀ entry ∈ inserts, Built entry.2) : Built (map (Dictionary.ofList inserts))
  | record (declared : RecordType) (writes : List (String × Value))
      (hvalues : ∀ field ∈ writes, Built field.2) : Built (record declared (Fields.ofList writes))
  | type (tag : TypeTag) : Built (type tag)

namespace Built

theorem item {kind : SeqKind} {items : List Value} (h : Built (Value.seq kind items)) :
    ∀ v ∈ items, Built v := by
  cases h with
  | seq _ _ hitems => exact hitems

theorem ofSequence (kind : SeqKind) {items : List Value} (h : ∀ v ∈ items, Built v) :
    Built (Value.ofSequence kind items) := seq kind items h

theorem key {d : Dictionary Value Value} (h : Built (Value.map d)) :
    ∀ entry ∈ d.entries, Built entry.1 := by
  cases h with
  | map inserts hkeys _ =>
      intro entry hentry
      rcases List.mem_map.mp (Dictionary.ofList_sound inserts hentry).1 with ⟨old, hold, heq⟩
      exact heq ▸ hkeys old hold

theorem value {d : Dictionary Value Value} (h : Built (Value.map d)) :
    ∀ entry ∈ d.entries, Built entry.2 := by
  cases h with
  | map inserts _ hvalues =>
      intro entry hentry
      rcases List.mem_map.mp (Dictionary.ofList_sound inserts hentry).2 with ⟨old, hold, heq⟩
      exact heq ▸ hvalues old hold

theorem distinct {d : Dictionary Value Value} (h : Built (Value.map d)) : d.Distinct := by
  cases h with
  | map inserts _ _ => exact Dictionary.distinct_ofList inserts

theorem field {declared : RecordType} {f : Fields Value} (h : Built (Value.record declared f)) :
    ∀ entry ∈ f.entries, Built entry.2 := by
  cases h with
  | record _ writes hvalues =>
      intro entry hentry
      rcases List.mem_map.mp (Fields.ofList_sound writes hentry) with ⟨old, hold, heq⟩
      exact heq ▸ hvalues old hold

theorem viewed {v : Value} {kind : SeqKind} {items : List Value} (h : Built v)
    (hview : v.asSequence? = some (kind, items)) : ∀ w ∈ items, Built w := by
  cases v with
  | seq k vs =>
      simp only [asSequence?, Option.some.injEq, Prod.mk.injEq] at hview
      exact hview.2 ▸ h.item
  | _ => simp [asSequence?] at hview

theorem found {v key w : Value} (h : Built v) (hw : v.lookup? key = some w) : Built w := by
  cases v with
  | map d =>
      rcases Dictionary.exists_mem_of_get? hw with ⟨k, hmem, -⟩
      exact h.value _ hmem
  | _ => simp [lookup?] at hw

theorem read {v w : Value} {name : String} (h : Built v) (hw : v.field? name = some w) :
    Built w := by
  cases v with
  | record declared f => exact h.field (name, w) (Fields.mem_of_get? hw)
  | _ => simp [field?] at hw

end Built

end Value

end ShapeMatch
