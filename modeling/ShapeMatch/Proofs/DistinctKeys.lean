import ShapeMatch.Dictionary
import ShapeMatch.Proofs.Lifting

/-!
# Distinct Keys

Dictionaries in which no key equals another, and what a look-up finds there.

A dictionary is a list of entries, and nothing in the list itself keeps two
entries from having equal keys. Insertion does: a key goes to the end only
after it has been compared with all keys that are there. `Distinct` records
the outcome of just those comparisons, the older key on the left, so every
dictionary built by insertions is distinct whatever the comparison is like.

What a look-up finds can be told without the order of the entries only if at
most one key equals the sought one. For a lawful comparison that is
distinctness itself; for a coarser one it takes more, and `get?_of_unique`
leaves it to the caller.

## Main definitions

* `Dictionary.Distinct`: No key is equal to a newer one.
* `Dictionary.insertAll`: Several insertions.

## Theorems

* `distinct_insert`, `distinct_ofList`: Insertion keeps the keys distinct.
* `insert_sound`: An insertion brings in nothing but its own key and value.
* `exists_mem_of_get?`: What a look-up finds is in an entry.
* `get?_of_unique`: An entry is found if no other key equals the sought one.
* `get?_insert_of_equivalenceOn`: Reading after writing, for a comparison that
  behaves on the keys.
* `get?_insert`: The same for a lawful comparison.
* `get?_iff_mem`: Look-ups and entries agree, for a lawful comparison.
-/

namespace ShapeMatch

namespace Dictionary

variable {κ ν : Type}

section Comparison

variable [BEq κ]

/-- No key is equal to a newer one. -/
def Distinct (d : Dictionary κ ν) : Prop :=
  d.keys.Pairwise fun older newer => (older == newer) = false

/-- Insert a list of entries, first to last. -/
def insertAll (d : Dictionary κ ν) (entries : List (κ × ν)) : Dictionary κ ν :=
  entries.foldl (fun d entry => d.insert entry.1 entry.2) d

theorem distinct_empty : (empty : Dictionary κ ν).Distinct := List.Pairwise.nil

theorem distinct_insert (d : Dictionary κ ν) (key : κ) (value : ν) (h : d.Distinct) :
    (d.insert key value).Distinct := by
  by_cases hc : d.contains key = true
  · unfold Distinct
    rw [keys_insert_of_contains d key value hc]
    exact h
  · have hnone : d.get? key = none := by
      rw [contains_eq_isSome_get?, Option.not_isSome_iff_eq_none] at hc
      exact hc
    rw [insert_of_get?_eq_none d key value hnone]
    unfold Distinct keys
    rw [List.map_append, List.pairwise_append]
    refine ⟨h, List.pairwise_singleton _ _, ?_⟩
    intro older hold newer hnew
    rw [List.mem_map] at hold
    rcases hold with ⟨entry, hentry, rfl⟩
    simp only [List.map_cons, List.map_nil, List.mem_singleton] at hnew
    -- The new key was compared with every stored one.
    simp only [get?, Option.map_eq_none_iff, List.find?_eq_none] at hnone
    rw [hnew]
    exact Bool.eq_false_iff.mpr (hnone entry hentry)

theorem distinct_insertAll (entries : List (κ × ν)) :
    ∀ d : Dictionary κ ν, d.Distinct → (d.insertAll entries).Distinct := by
  induction entries with
  | nil => exact fun d h => h
  | cons entry rest ih => exact fun d h => ih _ (distinct_insert d entry.1 entry.2 h)

theorem distinct_ofList (entries : List (κ × ν)) : (ofList entries).Distinct :=
  distinct_insertAll entries empty distinct_empty

/-- An entry after an insertion has an old key or the inserted one, and an old
    value or the inserted one. -/
theorem insert_sound (d : Dictionary κ ν) (key : κ) (value : ν) {entry : κ × ν}
    (h : entry ∈ (d.insert key value).entries) :
    (entry.1 ∈ d.keys ∨ entry.1 = key) ∧ (entry.2 ∈ d.values ∨ entry.2 = value) := by
  unfold insert keys values at *
  generalize d.entries = stored at h ⊢
  -- The value is replaced where the key is found, or the entry goes to the end.
  induction stored with
  | nil =>
      simp only [write, List.mem_singleton] at h
      rw [h]
      exact ⟨Or.inr rfl, Or.inr rfl⟩
  | cons first rest ih =>
      unfold write at h
      by_cases hk : (first.1 == key) = true
      · rw [if_pos hk, List.mem_cons] at h
        rcases h with rfl | h
        · exact ⟨Or.inl List.mem_cons_self, Or.inr rfl⟩
        · exact ⟨Or.inl (List.mem_cons_of_mem _ (List.mem_map_of_mem h)),
            Or.inl (List.mem_cons_of_mem _ (List.mem_map_of_mem h))⟩
      · rw [if_neg hk, List.mem_cons] at h
        rcases h with rfl | h
        · exact ⟨Or.inl List.mem_cons_self, Or.inl List.mem_cons_self⟩
        · rcases ih h with ⟨hkey | hkey, hvalue | hvalue⟩
          · exact ⟨Or.inl (List.mem_cons_of_mem _ hkey), Or.inl (List.mem_cons_of_mem _ hvalue)⟩
          · exact ⟨Or.inl (List.mem_cons_of_mem _ hkey), Or.inr hvalue⟩
          · exact ⟨Or.inr hkey, Or.inl (List.mem_cons_of_mem _ hvalue)⟩
          · exact ⟨Or.inr hkey, Or.inr hvalue⟩

-- Keys and values after insertions were there before or inserted.
theorem insertAll_sound (entries : List (κ × ν)) :
    ∀ (d : Dictionary κ ν) {entry : κ × ν}, entry ∈ (d.insertAll entries).entries →
      (entry.1 ∈ d.keys ∨ entry.1 ∈ entries.map Prod.fst) ∧
        (entry.2 ∈ d.values ∨ entry.2 ∈ entries.map Prod.snd) := by
  induction entries with
  | nil =>
      intro d entry h
      exact ⟨Or.inl (List.mem_map_of_mem h), Or.inl (List.mem_map_of_mem h)⟩
  | cons first rest ih =>
      intro d entry h
      rcases ih (d.insert first.1 first.2) h with ⟨hkey, hvalue⟩
      constructor
      · rcases hkey with hkey | hkey
        · rcases List.mem_map.mp hkey with ⟨old, hold, heq⟩
          rw [← heq, List.map_cons, List.mem_cons]
          exact (insert_sound d first.1 first.2 hold).1.imp_right Or.inl
        · exact Or.inr (List.mem_cons_of_mem _ hkey)
      · rcases hvalue with hvalue | hvalue
        · rcases List.mem_map.mp hvalue with ⟨old, hold, heq⟩
          rw [← heq, List.map_cons, List.mem_cons]
          exact (insert_sound d first.1 first.2 hold).2.imp_right Or.inl
        · exact Or.inr (List.mem_cons_of_mem _ hvalue)

-- Keys and values of a dictionary built by insertions were inserted.
theorem ofList_sound (entries : List (κ × ν)) {entry : κ × ν} (h : entry ∈ (ofList entries).entries) :
    entry.1 ∈ entries.map Prod.fst ∧ entry.2 ∈ entries.map Prod.snd := by
  rcases insertAll_sound entries empty h with ⟨hkey, hvalue⟩
  exact ⟨hkey.resolve_left List.not_mem_nil, hvalue.resolve_left List.not_mem_nil⟩

theorem forall_keys_ofList {P : κ → Prop} {entries : List (κ × ν)}
    (h : ∀ entry ∈ entries, P entry.1) : ∀ k ∈ (ofList entries).keys, P k := by
  intro k hk
  rcases List.mem_map.mp hk with ⟨stored, hstored, rfl⟩
  rcases List.mem_map.mp (ofList_sound entries hstored).1 with ⟨entry, hentry, heq⟩
  exact heq ▸ h entry hentry

theorem get?_cons (entry : κ × ν) (rest : List (κ × ν)) (key : κ) :
    (⟨entry :: rest⟩ : Dictionary κ ν).get? key =
      if (entry.1 == key) = true then some entry.2 else (⟨rest⟩ : Dictionary κ ν).get? key := by
  unfold get?
  by_cases hk : (entry.1 == key) = true
  · rw [if_pos hk, List.find?_cons, hk, Option.map_some]
  · rw [if_neg hk, List.find?_cons, Bool.eq_false_iff.mpr hk]

theorem exists_mem_of_get? {d : Dictionary κ ν} {key : κ} {value : ν}
    (h : d.get? key = some value) : ∃ k, (k, value) ∈ d.entries ∧ (k == key) = true := by
  unfold get? at h
  rw [Option.map_eq_some_iff] at h
  rcases h with ⟨entry, hfind, rfl⟩
  exact ⟨entry.1, List.mem_of_find?_eq_some hfind,
    List.find?_some (p := fun e : κ × ν => e.1 == key) hfind⟩

/-- An entry is found under a key that equals its own and that of no other. -/
theorem get?_of_unique {d : Dictionary κ ν} {key : κ} {entry : κ × ν} (hmem : entry ∈ d.entries)
    (hkey : (entry.1 == key) = true)
    (hunique : ∀ other ∈ d.entries, (other.1 == key) = true → other = entry) :
    d.get? key = some entry.2 := by
  -- Whatever is found first has a key that equals the sought one.
  cases hfind : d.entries.find? fun e => e.1 == key with
  | none => exact absurd hkey (List.find?_eq_none.mp hfind entry hmem)
  | some other =>
      have hother := hunique other (List.mem_of_find?_eq_some hfind)
        (List.find?_some (p := fun e : κ × ν => e.1 == key) hfind)
      rw [get?, hfind, hother, Option.map_some]

theorem get?_eq_none_iff {d : Dictionary κ ν} {key : κ} :
    d.get? key = none ↔ ∀ entry ∈ d.entries, (entry.1 == key) = false := by
  simp only [get?, Option.map_eq_none_iff, List.find?_eq_none, Bool.not_eq_true]

end Comparison

section Behaved

variable [BEq κ] {P : κ → Prop}

/-- A look-up after an insertion finds the inserted value under the keys that
    equal the inserted one, and what was there before under all others. -/
theorem get?_insert_of_equivalenceOn (h : EquivalenceOn (fun a b : κ => (a == b) = true) P)
    {d : Dictionary κ ν} (hd : ∀ k ∈ d.keys, P k) {key : κ} (hkey : P key) (value : ν)
    {sought : κ} (hsought : P sought) :
    (d.insert key value).get? sought =
      if (key == sought) = true then some value else d.get? sought := by
  rcases d with ⟨stored⟩
  unfold insert
  unfold keys at hd
  induction stored with
  | nil => rw [write, get?_cons]
  | cons first rest ih =>
      rw [List.map_cons, List.forall_mem_cons] at hd
      rcases hd with ⟨hfirst, hrest⟩
      rw [write]
      by_cases hwritten : (first.1 == key) = true
      · -- The stored key stays, and it equals what the inserted one equals.
        rw [if_pos hwritten, get?_cons, get?_cons]
        by_cases hk : (key == sought) = true
        · rw [if_pos (h.trans hfirst hkey hsought hwritten hk), if_pos hk]
        · have hne : ¬(first.1 == sought) = true := fun hf =>
            hk (h.trans hkey hfirst hsought (h.symm hfirst hkey hwritten) hf)
          rw [if_neg hne, if_neg hk, if_neg hne]
      · rw [if_neg hwritten, get?_cons, get?_cons, ih hrest]
        by_cases hk : (first.1 == sought) = true
        · -- What equals the sought key here does not equal the inserted one.
          have hne : ¬(key == sought) = true := fun hf =>
            hwritten (h.trans hfirst hsought hkey hk (h.symm hkey hsought hf))
          rw [if_pos hk, if_neg hne, if_pos hk]
        · rw [if_neg hk, if_neg hk]

end Behaved

section Lawful

variable [BEq κ] [LawfulBEq κ]

theorem equivalenceOn_beq : EquivalenceOn (fun a b : κ => (a == b) = true) fun _ => True where
  refl := fun _ => BEq.rfl
  symm := fun _ _ h => BEq.symm h
  trans := fun _ _ _ h h' => BEq.trans h h'

theorem get?_insert (d : Dictionary κ ν) (key : κ) (value : ν) (sought : κ) :
    (d.insert key value).get? sought =
      if (key == sought) = true then some value else d.get? sought :=
  get?_insert_of_equivalenceOn (P := fun _ => True) equivalenceOn_beq (fun _ _ => trivial)
    trivial value trivial

/-- With distinct keys, the entries say what the look-ups find. -/
theorem get?_iff_mem {d : Dictionary κ ν} (hd : d.Distinct) {key : κ} {value : ν} :
    d.get? key = some value ↔ (key, value) ∈ d.entries := by
  rcases d with ⟨stored⟩
  unfold Distinct keys at hd
  induction stored with
  | nil =>
      constructor
      · exact fun h => nomatch h
      · exact fun h => absurd h List.not_mem_nil
  | cons first rest ih =>
      rw [List.map_cons, List.pairwise_cons] at hd
      rcases hd with ⟨hfirst, hrest⟩
      rw [get?_cons, List.mem_cons]
      by_cases hk : (first.1 == key) = true
      · rw [if_pos hk]
        rw [beq_iff_eq] at hk
        constructor
        · intro h
          rw [Option.some.injEq] at h
          exact Or.inl (Prod.ext hk.symm h.symm)
        · intro h
          rcases h with h | h
          · rw [← h]
          · -- A later entry with this key would repeat the first one.
            have hne := hfirst key (List.mem_map_of_mem h)
            rw [hk, beq_self_eq_true] at hne
            exact absurd hne Bool.noConfusion
      · rw [if_neg hk, ih hrest]
        constructor
        · exact Or.inr
        · intro h
          rcases h with h | h
          · rw [← h, beq_self_eq_true] at hk
            exact absurd rfl hk
          · exact h

end Lawful

end Dictionary

end ShapeMatch
