import ShapeMatch.Proofs.Insertions
import ShapeMatch.Proofs.Likeness

/-!
# Equality of Maps is Extensional

Two maps are equal exactly if every look-up finds equal values in both.

Equality of maps asks for less than that. It compares the sizes and then looks
up the keys of the first map in the second, so it sees neither what the second
map holds under other keys nor what either holds under another representation
of a key. The sizes make up for it: if the keys of the first map are all found,
and no two of them are equal, then a second map of the same size has no room for
more.

Conversely, maps that agree under all keys need not have the same keys, so
their sizes cannot be compared by their entries. They hold something under the
same classes of keys, and the size of a map is the number of these.

## Theorems

* `contains_of_agree`: Maps that agree hold something under the same keys.
* `size_of_agree`: So they have the same size.
* `deepEqual_map_of_agree`: So they are equal.
* `deepEqual_map_iff`: And equal maps agree.
* `deepEqual_map_extensional`: Equality of maps is extensional, and insertions
  that leave equal values under equal keys make equal maps.
-/

namespace ShapeMatch

namespace Value

section Agree

variable {d e : Dictionary Value Value}
  (h : ∀ k : Value, k.Built → Option.Rel Alike (d.get? k) (e.get? k))
include h

theorem contains_of_agree {k : Value} (hk : k.Built) : d.contains k = e.contains k := by
  have hagree := h k hk
  rw [Dictionary.contains, Dictionary.contains]
  generalize d.get? k = found, e.get? k = found' at hagree
  cases hagree with
  | none => rfl
  | some _ => rfl

/-- Maps that agree under all keys have one size, that of the classes of keys
    they hold something under. -/
theorem size_of_agree (hd : (map d).Built) (he : (map e).Built) : d.size = e.size := by
  have hkeys : ∀ {c : Dictionary Value Value}, (map c).Built → ∀ k ∈ c.keys, k.Built := by
    intro c hc k hk
    rcases List.mem_map.mp hk with ⟨entry, hentry, rfl⟩
    exact hc.key entry hentry
  rw [Dictionary.size_eq_ncard_classes equivalenceOn_alike (hkeys hd) hd.distinct,
    Dictionary.size_eq_ncard_classes equivalenceOn_alike (hkeys he) he.distinct]
  -- The same classes, since something is held under the same keys.
  congr 2
  ext k
  exact and_congr_right fun hk => by rw [contains_of_agree h hk]

theorem deepEqual_map_of_agree (hd : (map d).Built) (he : (map e).Built) :
    (map d).deepEqual (map e) = true := by
  rw [deepEqual_map, Bool.and_eq_true, beq_iff_eq, List.all_eq_true]
  refine ⟨size_of_agree h hd he, fun entry hentry => ?_⟩
  -- In the first map the entry is found under its own key.
  have hkey := hd.key entry hentry
  have hfound : d.get? entry.1 = some entry.2 :=
    get?_of_alike equivalenceOn_alike hd.key hd.distinctUnder hentry hkey
      (equivalenceOn_alike.refl hkey)
  have hagree := h entry.1 hkey
  rw [hfound] at hagree
  generalize e.get? entry.1 = other at hagree
  cases hagree with
  | some halike => exact halike

end Agree

/-- Maps are equal iff they agree under all keys. -/
theorem deepEqual_map_iff {d e : Dictionary Value Value} (hd : (map d).Built)
    (he : (map e).Built) :
    (map d).deepEqual (map e) = true ↔
      ∀ k : Value, k.Built → Option.Rel Alike (d.get? k) (e.get? k) := by
  refine ⟨fun hequal k hk => ?_, fun hagree => deepEqual_map_of_agree hagree hd he⟩
  have hmaps : Interchangeable (map d) (map e) := ⟨hd, he, hequal⟩
  have hrel : Option.Rel Interchangeable (d.get? k) (e.get? k) :=
    hmaps.lookup? (interchangeable_self hk)
  generalize d.get? k = found, e.get? k = found' at hrel
  cases hrel with
  | none => exact .none
  | some hvalues => exact .some hvalues.alike

/-- Maps are equal iff every look-up finds equal values in both or nothing in
    either. So insertions that leave equal values under each class of keys make
    equal maps, whatever their order and the keys they use. -/
theorem deepEqual_map_extensional :
    (∀ d e : Dictionary Value Value, (map d).Built → (map e).Built →
      ((map d).deepEqual (map e) = true ↔
        ∀ k : Value, k.Built → Option.Rel Alike (d.get? k) (e.get? k))) ∧
    (∀ inserts inserts' : List (Value × Value),
      (∀ entry ∈ inserts, entry.1.Built ∧ entry.2.Built) →
      (∀ entry ∈ inserts', entry.1.Built ∧ entry.2.Built) →
      (∀ k : Value, k.Built → Option.Rel Alike (Dictionary.lastUnder? inserts k)
        (Dictionary.lastUnder? inserts' k)) →
      (map (.ofList inserts)).deepEqual (map (.ofList inserts')) = true) := by
  constructor
  · exact fun d e => deepEqual_map_iff
  · intro inserts inserts' hbuilt hbuilt' hlast
    refine deepEqual_map_of_agree (fun k hk => ?_)
      (.map inserts (fun x hx => (hbuilt x hx).1) fun x hx => (hbuilt x hx).2)
      (.map inserts' (fun x hx => (hbuilt' x hx).1) fun x hx => (hbuilt' x hx).2)
    rw [Dictionary.get?_ofList equivalenceOn_alike (fun x hx => (hbuilt x hx).1) hk,
      Dictionary.get?_ofList equivalenceOn_alike (fun x hx => (hbuilt' x hx).1) hk]
    exact hlast k hk

/-- Another order, `1.0` for `1`, and an entry that is replaced later. -/
theorem deepEqual_map_extensional_of_numbers :
    (∀ k : Value, k.Built → Option.Rel Alike
      ((Dictionary.ofList [(int 1, str "a"), (str "k", int 2),
        (float ⟨0x3ff0000000000000⟩, bool true)]).get? k)
      ((Dictionary.ofList [(str "k", float ⟨0x4000000000000000⟩), (int 1, bool true)]).get? k)) ∧
    (map (.ofList [(int 1, str "a"), (str "k", int 2),
      (float ⟨0x3ff0000000000000⟩, bool true)])).deepEqual
      (map (.ofList [(str "k", float ⟨0x4000000000000000⟩), (int 1, bool true)])) = true := by
  have hleft : ∀ entry ∈ [(int 1, str "a"), (str "k", int 2),
      (float ⟨0x3ff0000000000000⟩, bool true)], entry.1.Built ∧ entry.2.Built := by
    simp [Built.int, Built.str, Built.float, Built.bool]
  have hright : ∀ entry ∈ [(str "k", float ⟨0x4000000000000000⟩), (int 1, bool true)],
      entry.1.Built ∧ entry.2.Built := by
    simp [Built.int, Built.str, Built.float, Built.bool]
  have hagree := (deepEqual_map_extensional.1 _ _
    (.map _ (fun x hx => (hleft x hx).1) fun x hx => (hleft x hx).2)
    (.map _ (fun x hx => (hright x hx).1) fun x hx => (hright x hx).2)).mp rfl
  refine ⟨hagree, deepEqual_map_extensional.2 _ _ hleft hright fun k hk => ?_⟩
  rw [← Dictionary.get?_ofList equivalenceOn_alike (fun x hx => (hleft x hx).1) hk,
    ← Dictionary.get?_ofList equivalenceOn_alike (fun x hx => (hright x hx).1) hk]
  exact hagree k hk

end Value

end ShapeMatch
