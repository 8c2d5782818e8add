import Mathlib.Data.Set.Card
import ShapeMatch.Proofs.DeepEquality

/-!
# Insertions

What a dictionary is after a sequence of insertions.

The comparison of keys may identify different representations of one key, and
the stored keys are then representatives of classes. What an insertion does is
simple for classes: the class of the key gets the new value, and if it had none
before, the key becomes its representative and goes to the end. `Dictionary`
does not know of classes. It searches the entries for the first key equal to
the sought one, and writes there. That both are the same needs the comparison
to be an equivalence between the keys in question: by symmetry and
transitivity a search for any member of a class ends at its representative,
and never at that of another class.

So everything that can be observed is told by the list of insertions alone. A
look-up finds the value of the last insertion into the class, the keys are the
first insertions into each class, and the size is the number of classes.

## Main definitions

* `Dictionary.lastUnder?`: The value last inserted under an equal key.
* `Dictionary.classOf`: The keys that equal a given one.
* `Dictionary.insertEach`: Insertions in turn, with all their answers.

## Theorems

* `lastUnder?_eq_some_iff`: Insertions of which no two disagree about a key.
* `ofList_of_distinct`: Distinct keys are all stored, in their order.
* `get?_insertAll`: A look-up finds the last insertion into its class.
* `keys_ofList`: The keys are the first ones inserted into each class.
* `size_eq_ncard_classes`: There are as many entries as classes that hold
  something.
* `insertEach_split`: An insertion answers what a look-up found just before.
* `Value.insertEach_by_class`: All of it, for maps of dynamic values.
-/

namespace ShapeMatch

namespace Dictionary

variable {κ ν : Type}

section Definitions

variable [BEq κ]

/-- The value of the last of the insertions under a key equal to `key`. -/
def lastUnder? (inserts : List (κ × ν)) (key : κ) : Option ν :=
  (inserts.reverse.find? fun entry => entry.1 == key).map Prod.snd

/-- The keys in `P` that `key` is equal to. -/
def classOf (P : κ → Prop) (key : κ) : Set κ := {other | P other ∧ (key == other) = true}

/-- Insert entries, first to last, and collect what each insertion answers. -/
def insertEach (d : Dictionary κ ν) : List (κ × ν) → List (Option ν) × Dictionary κ ν
  | [] => ([], d)
  | entry :: rest =>
    let (old?, d) := d.getThenInsert? entry.1 entry.2
    let (olds, d) := d.insertEach rest
    (old? :: olds, d)

theorem insertEach_snd (entries : List (κ × ν)) :
    ∀ d : Dictionary κ ν, (d.insertEach entries).2 = d.insertAll entries := by
  induction entries with
  | nil => exact fun _ => rfl
  | cons entry rest ih =>
      intro d
      rw [insertEach, getThenInsert?_eq]
      exact ih (d.insert entry.1 entry.2)

/-- Each insertion answers what a look-up of its key found just before. -/
theorem insertEach_split (before : List (κ × ν)) (key : κ) (value : ν) (after : List (κ × ν)) :
    ∀ d : Dictionary κ ν,
      (d.insertEach (before ++ (key, value) :: after)).1[before.length]? =
        some ((d.insertEach before).2.get? key) := by
  induction before with
  | nil =>
      intro d
      rw [List.nil_append, insertEach.eq_2, getThenInsert?_eq]
      rfl
  | cons entry rest ih =>
      intro d
      rw [List.cons_append, insertEach, insertEach, getThenInsert?_eq, List.length_cons,
        List.getElem?_cons_succ]
      exact ih (d.insert entry.1 entry.2)

theorem lastUnder?_cons (entry : κ × ν) (rest : List (κ × ν)) (key : κ) :
    lastUnder? (entry :: rest) key =
      (lastUnder? rest key).or (if (entry.1 == key) = true then some entry.2 else none) := by
  unfold lastUnder?
  rw [List.reverse_cons, List.find?_append, Option.map_or, List.find?_singleton]
  split <;> rfl

theorem lastUnder?_concat (inserts : List (κ × ν)) (entry : κ × ν) (key : κ) :
    lastUnder? (inserts ++ [entry]) key =
      if (entry.1 == key) = true then some entry.2 else lastUnder? inserts key := by
  unfold lastUnder?
  rw [List.reverse_concat, List.find?_cons]
  cases entry.1 == key <;> rfl

theorem isSome_lastUnder? (inserts : List (κ × ν)) (key : κ) :
    (lastUnder? inserts key).isSome = true ↔ ∃ entry ∈ inserts, (entry.1 == key) = true := by
  rw [lastUnder?, Option.isSome_map, List.find?_isSome]
  simp only [List.mem_reverse]

/-- Where all insertions under a key have one value, the last one is any of them. -/
theorem lastUnder?_eq_some_iff [LawfulBEq κ] {inserts : List (κ × ν)} {key : κ} {value : ν}
    (hsame : ∀ w w', (key, w) ∈ inserts → (key, w') ∈ inserts → w = w') :
    lastUnder? inserts key = some value ↔ (key, value) ∈ inserts := by
  have hfound : ∀ w, lastUnder? inserts key = some w → (key, w) ∈ inserts := by
    intro w hw
    rcases exists_mem_of_get? (d := ⟨inserts.reverse⟩) hw with ⟨k, hmem, hkey⟩
    exact beq_iff_eq.mp hkey ▸ List.mem_reverse.mp hmem
  constructor
  · exact hfound value
  · intro hmem
    have hsome := (isSome_lastUnder? inserts key).mpr ⟨_, hmem, BEq.rfl⟩
    rcases Option.isSome_iff_exists.mp hsome with ⟨w, hw⟩
    rw [hw, hsame w value (hfound w hw) hmem]

theorem ofList_concat (entries : List (κ × ν)) (entry : κ × ν) :
    ofList (entries ++ [entry]) = (ofList entries).insert entry.1 entry.2 :=
  List.foldl_append

/-- Entries with distinct keys are all stored, in their order. -/
theorem ofList_of_distinct {entries : List (κ × ν)}
    (h : (⟨entries⟩ : Dictionary κ ν).Distinct) : ofList entries = ⟨entries⟩ := by
  induction entries using List.reverseRecOn with
  | nil => rfl
  | append_singleton rest entry ih =>
      unfold Distinct keys at h ih
      rw [List.map_append, List.pairwise_append] at h
      have hnew : (⟨rest⟩ : Dictionary κ ν).get? entry.1 = none :=
        get?_eq_none_iff.mpr fun older hmem =>
          h.2.2 older.1 (List.mem_map_of_mem hmem) entry.1 (List.mem_singleton_self _)
      rw [ofList_concat, ih h.1, insert_of_get?_eq_none _ _ _ hnew]

theorem contains_iff_exists_key {d : Dictionary κ ν} {key : κ} :
    d.contains key = true ↔ ∃ k ∈ d.keys, (k == key) = true := by
  rw [contains, get?, Option.isSome_map, List.find?_isSome]
  constructor
  · intro hentry
    rcases hentry with ⟨entry, hmem, heq⟩
    exact ⟨entry.1, List.mem_map_of_mem hmem, heq⟩
  · intro hkey
    rcases hkey with ⟨k, hmem, heq⟩
    rcases List.mem_map.mp hmem with ⟨entry, hentry, rfl⟩
    exact ⟨entry, hentry, heq⟩

/-- A key is added behind the others if none of them equals it. -/
theorem keys_insert (d : Dictionary κ ν) (key : κ) (value : ν) :
    (d.insert key value).keys = if d.contains key = true then d.keys else d.keys ++ [key] := by
  by_cases hc : d.contains key = true
  · rw [if_pos hc, keys_insert_of_contains d key value hc]
  · rw [contains_eq_isSome_get?, Option.not_isSome_iff_eq_none] at hc
    rw [insert_of_get?_eq_none d key value hc, contains_eq_isSome_get?, hc]
    exact List.map_append

end Definitions

section Classes

variable [BEq κ] {P : κ → Prop} (h : EquivalenceOn (fun a b : κ => (a == b) = true) P)
include h

/-- A look-up finds the last value inserted under an equal key, or else what
    was there before. -/
theorem get?_insertAll {entries : List (κ × ν)} (hentries : ∀ entry ∈ entries, P entry.1)
    {key : κ} (hkey : P key) :
    ∀ d : Dictionary κ ν, (∀ k ∈ d.keys, P k) →
      (d.insertAll entries).get? key = (lastUnder? entries key).or (d.get? key) := by
  induction entries with
  | nil => exact fun _ _ => rfl
  | cons entry rest ih =>
      intro d hd
      rw [List.forall_mem_cons] at hentries
      rcases hentries with ⟨hfirst, hrest⟩
      have hd' : ∀ k ∈ (d.insert entry.1 entry.2).keys, P k := by
        intro k hk
        rcases List.mem_map.mp hk with ⟨stored, hstored, rfl⟩
        rcases (insert_sound d entry.1 entry.2 hstored).1 with hold | hnew
        · exact hd _ hold
        · exact hnew ▸ hfirst
      refine (ih hrest (d.insert entry.1 entry.2) hd').trans ?_
      rw [get?_insert_of_equivalenceOn h hd hfirst entry.2 hkey, lastUnder?_cons,
        Option.or_assoc]
      split <;> rfl

/-- What a dictionary finds that was built by insertions. -/
theorem get?_ofList {entries : List (κ × ν)} (hentries : ∀ entry ∈ entries, P entry.1) {key : κ}
    (hkey : P key) : (ofList entries).get? key = lastUnder? entries key :=
  (get?_insertAll h hentries hkey empty fun _ hk => absurd hk List.not_mem_nil).trans
    (Option.or_none)

theorem contains_ofList {entries : List (κ × ν)} (hentries : ∀ entry ∈ entries, P entry.1)
    {key : κ} (hkey : P key) :
    (ofList entries).contains key = true ↔ ∃ entry ∈ entries, (entry.1 == key) = true := by
  rw [contains, get?_ofList h hentries hkey, isSome_lastUnder?]

-- The first members of each class, with one more key at the end.
theorem eraseDups_append_singleton {key : κ} (hkey : P key) :
    ∀ ks : List κ, (∀ k ∈ ks, P k) →
      (ks ++ [key]).eraseDups =
        if ks.any (· == key) = true then ks.eraseDups else ks.eraseDups ++ [key]
  | [], _ => rfl
  | first :: rest, hks => by
      rw [List.forall_mem_cons] at hks
      rcases hks with ⟨hfirst, hrest⟩
      rw [List.cons_append, List.eraseDups_cons, List.eraseDups_cons, List.filter_append]
      by_cases hk : (first == key) = true
      · -- The new key goes with the others that equal the first one.
        have hback : (key == first) = true := h.symm hfirst hkey hk
        simp [hk, hback]
      · have hback : (key == first) = false :=
          Bool.eq_false_iff.mpr fun hf => hk (h.symm hkey hfirst hf)
        -- The keys taken away equal the first one, so the new key equals none of them.
        have hany : (rest.filter fun b => !b == first).any (· == key) = rest.any (· == key) := by
          rw [Bool.eq_iff_iff, List.any_eq_true, List.any_eq_true]
          constructor
          · intro hsome
            rcases hsome with ⟨k, hmem, heq⟩
            exact ⟨k, (List.mem_filter.mp hmem).1, heq⟩
          · intro hsome
            rcases hsome with ⟨k, hmem, heq⟩
            refine ⟨k, List.mem_filter.mpr ⟨hmem, ?_⟩, heq⟩
            rw [Bool.not_eq_true', Bool.eq_false_iff]
            intro hf
            have hkf := h.symm (hrest k hmem) hfirst hf
            exact hk (h.trans hfirst (hrest k hmem) hkey hkf heq)
        have ih := eraseDups_append_singleton hkey (rest.filter fun b => !b == first)
          fun k hmem => hrest k (List.mem_filter.mp hmem).1
        rw [hany] at ih
        simp [hk, hback, ih]
        split <;> rfl
termination_by ks => ks.length
decreasing_by
  have := List.length_filter_le (fun b => !b == first) rest
  simp only [List.length_cons]
  omega

/-- The keys of a dictionary are the first ones inserted into each class, in
    the order of their insertion. -/
theorem keys_ofList {entries : List (κ × ν)} (hentries : ∀ entry ∈ entries, P entry.1) :
    (ofList entries).keys = (entries.map Prod.fst).eraseDups := by
  induction entries using List.reverseRecOn with
  | nil => rfl
  | append_singleton rest entry ih =>
      rw [List.forall_mem_append, List.forall_mem_singleton] at hentries
      rcases hentries with ⟨hrest, hlast⟩
      have hfst : ∀ k ∈ rest.map Prod.fst, P k := by
        intro k hk
        rcases List.mem_map.mp hk with ⟨e, he, rfl⟩
        exact hrest e he
      have hany : (ofList rest).contains entry.1 = (rest.map Prod.fst).any (· == entry.1) := by
        rw [Bool.eq_iff_iff, contains_ofList h hrest hlast, List.any_map, List.any_eq_true]
        rfl
      rw [ofList_concat, keys_insert, hany, ih hrest, List.map_append, List.map_singleton,
        eraseDups_append_singleton h hlast _ hfst]

theorem classOf_eq_iff {key other : κ} (hkey : P key) (hother : P other) :
    classOf P key = classOf P other ↔ (key == other) = true := by
  constructor
  · intro heq
    have hmem : other ∈ classOf P other := ⟨hother, h.refl hother⟩
    rw [← heq] at hmem
    exact hmem.2
  · intro heq
    ext k
    constructor
    · intro hk
      exact ⟨hk.1, h.trans hother hkey hk.1 (h.symm hkey hother heq) hk.2⟩
    · intro hk
      exact ⟨hk.1, h.trans hkey hother hk.1 heq hk.2⟩

/-- A dictionary with distinct keys has an entry for each class of keys that it
    holds something under. -/
theorem size_eq_ncard_classes {d : Dictionary κ ν} (hd : ∀ k ∈ d.keys, P k)
    (hdistinct : d.Distinct) :
    d.size = (classOf P '' {key | P key ∧ d.contains key = true}).ncard := by
  classical
  -- The classes are those of the stored keys, and these are pairwise different.
  have hnodup : (d.keys.map (classOf P)).Nodup := by
    unfold List.Nodup
    rw [List.pairwise_map]
    refine List.Pairwise.imp_of_mem ?_ hdistinct
    intro older newer holder hnewer hne heq
    rw [classOf_eq_iff h (hd older holder) (hd newer hnewer), hne] at heq
    exact Bool.false_ne_true heq
  have himage : classOf P '' {key | P key ∧ d.contains key = true} =
      ((d.keys.map (classOf P)).toFinset : Set (Set κ)) := by
    ext c
    rw [List.coe_toFinset]
    refine Iff.trans ?_ List.mem_map.symm
    constructor
    · intro hc
      rcases hc with ⟨key, ⟨hkey, hcontains⟩, rfl⟩
      rcases contains_iff_exists_key.mp hcontains with ⟨k, hk, heq⟩
      exact ⟨k, hk, (classOf_eq_iff h (hd k hk) hkey).mpr heq⟩
    · intro hc
      rcases hc with ⟨k, hk, rfl⟩
      exact ⟨k, ⟨hd k hk, contains_iff_exists_key.mpr ⟨k, hk, h.refl (hd k hk)⟩⟩, rfl⟩
  rw [himage, Set.ncard_coe_finset, List.toFinset_card_of_nodup hnodup, List.length_map, size,
    keys, List.length_map]

/-- After insertions there are as many entries as classes inserted into. -/
theorem size_ofList {entries : List (κ × ν)} (hentries : ∀ entry ∈ entries, P entry.1) :
    (ofList entries).size =
      ((fun entry => classOf P entry.1) '' {entry | entry ∈ entries}).ncard := by
  rw [size_eq_ncard_classes h (forall_keys_ofList hentries) (distinct_ofList entries)]
  congr 1
  ext c
  constructor
  · intro hc
    rcases hc with ⟨key, ⟨hkey, hcontains⟩, rfl⟩
    rcases (contains_ofList h hentries hkey).mp hcontains with ⟨entry, hentry, heq⟩
    exact ⟨entry, hentry, (classOf_eq_iff h (hentries entry hentry) hkey).mpr heq⟩
  · intro hc
    rcases hc with ⟨entry, hentry, rfl⟩
    have hrefl := h.refl (hentries entry hentry)
    exact ⟨entry.1, ⟨hentries entry hentry,
      (contains_ofList h hentries (hentries entry hentry)).mpr ⟨entry, hentry, hrefl⟩⟩, rfl⟩

end Classes

end Dictionary

namespace Value

/-- A map of dynamic values is a dictionary over classes of equal keys. Its keys
    are pairwise unequal and are the first ones inserted into each class, in the
    order of their insertion; a look-up finds the value of the last insertion
    under an equal key; each insertion answers what a look-up of its key found
    just before; a key is contained iff an equal one was inserted; and the size
    is the number of classes inserted into. -/
theorem insertEach_by_class (inserts : List (Value × Value))
    (hkeys : ∀ entry ∈ inserts, entry.1.Built) :
    ((Dictionary.empty.insertEach inserts).2.keys.Pairwise fun older newer =>
        ¬older.Alike newer ∧ ¬newer.Alike older) ∧
      (Dictionary.empty.insertEach inserts).2.keys = (inserts.map Prod.fst).eraseDups ∧
      (∀ q : Value, q.Built →
        (Dictionary.empty.insertEach inserts).2.get? q = Dictionary.lastUnder? inserts q) ∧
      (∀ before key value after, inserts = before ++ (key, value) :: after →
        (Dictionary.empty.insertEach inserts).1[before.length]? =
          some ((Dictionary.empty.insertEach before).2.get? key)) ∧
      (∀ q : Value, q.Built →
        ((Dictionary.empty.insertEach inserts).2.contains q = true ↔
          ∃ entry ∈ inserts, entry.1.Alike q)) ∧
      (Dictionary.empty.insertEach inserts).2.size =
        ((fun entry => Dictionary.classOf Built entry.1) '' {entry | entry ∈ inserts}).ncard := by
  have hrun : (Dictionary.empty.insertEach inserts).2 = Dictionary.ofList inserts :=
    Dictionary.insertEach_snd inserts Dictionary.empty
  rw [hrun]
  refine ⟨?distinct, Dictionary.keys_ofList equivalenceOn_alike hkeys,
    fun q hq => Dictionary.get?_ofList equivalenceOn_alike hkeys hq, ?answers,
    fun q hq => Dictionary.contains_ofList equivalenceOn_alike hkeys hq,
    Dictionary.size_ofList equivalenceOn_alike hkeys⟩
  case distinct =>
    have hbuilt : ∀ k ∈ (Dictionary.ofList inserts).keys, k.Built := by
      intro k hk
      rcases List.mem_map.mp hk with ⟨stored, hstored, rfl⟩
      rcases List.mem_map.mp (Dictionary.ofList_sound inserts hstored).1 with ⟨entry, hentry, heq⟩
      exact heq ▸ hkeys entry hentry
    -- The comparison was made with the older key on the left.
    refine List.Pairwise.imp_of_mem ?_ (Dictionary.distinct_ofList inserts)
    intro older newer holder hnewer hne
    have hforth : ¬older.Alike newer := Bool.eq_false_iff.mp hne
    exact ⟨hforth, fun hback =>
      hforth (equivalenceOn_alike.symm (hbuilt newer hnewer) (hbuilt older holder) hback)⟩
  case answers =>
    intro before key value after hsplit
    rw [hsplit]
    exact Dictionary.insertEach_split before key value after Dictionary.empty

/-- `1` and `1.0` are one key, and so are two different words for NaN. -/
theorem insertEach_by_class_of_numbers :
    ((Dictionary.empty.insertEach [(int 1, str "a"), (float ⟨0x7ff8000000000000⟩, str "b"),
        (float ⟨0x3ff0000000000000⟩, str "c"), (float ⟨0xfff8000000000001⟩, str "d")]).2.keys =
      [int 1, float ⟨0x7ff8000000000000⟩]) ∧
    ((Dictionary.empty.insertEach [(int 1, str "a"), (float ⟨0x7ff8000000000000⟩, str "b"),
        (float ⟨0x3ff0000000000000⟩, str "c"), (float ⟨0xfff8000000000001⟩, str "d")]).2.get?
      (int 1) = some (str "c")) := by
  have h := insertEach_by_class [(int 1, str "a"), (float ⟨0x7ff8000000000000⟩, str "b"),
    (float ⟨0x3ff0000000000000⟩, str "c"), (float ⟨0xfff8000000000001⟩, str "d")]
    (by simp [Built.int, Built.float])
  exact ⟨h.2.1.trans rfl, (h.2.2.1 (int 1) (.int 1)).trans rfl⟩

end Value

end ShapeMatch
