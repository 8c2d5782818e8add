import ShapeMatch.Proofs.BuiltValues
import ShapeMatch.Proofs.ExactNumbers
import ShapeMatch.Proofs.Lifting

/-!
# Deep Equality is an Equivalence

Deep equality of built values is reflexive, symmetric and transitive.

None of the three is plain from the definition. Numbers are compared across
two representations, so transitivity passes through numbers of the other kind;
what settles it is that every comparison of numbers is an equality of what
they denote. Maps are compared in one direction only, by look-ups that use
deep equality itself to compare keys; there symmetry is a matter of counting,
and transitivity has to trade one key for an equal one.

The proof separates the layers of a value. `Layer` says what equality means
for the outermost layer of two values, given what it means for their parts. It
is a relation, with one rule for each way to be equal, and it lifts an
equivalence between the parts to one between the wholes. That deep equality is
such a layer over itself, `alike_iff_layer`, depends on the parts for maps
alone, where a look-up finds the right entry only if equality of keys behaves.
So both steps go together, by induction on the size of values.

## Main definitions

* `Value.Alike`: Deep equality as a proposition.
* `Value.number?`: What a numeric value denotes.
* `Value.Layer`: Equality of the outermost layer.
* `Value.Below`: Built values up to a size.

## Theorems

* `get?_of_alike`: An entry is found under every key that equals its own.
* `deepEqual_map_iff_matched`: Maps are equal iff their entries match.
* `Layer.equivalenceOn`: A layer over an equivalence is an equivalence.
* `alike_iff_layer`: Deep equality is a layer over itself.
* `equivalenceOn_alike`: Deep equality is an equivalence between built values.
-/

namespace ShapeMatch

namespace Value

/-- Deep equality as a proposition. -/
abbrev Alike (v w : Value) : Prop := v.deepEqual w = true

/-- What a numeric value denotes. -/
def number? : Value → Option Binary64.Denotation
  | int i => some (.finite (i.toInt * Binary64.unitsPerOne))
  | float x => some x.denotation
  | _ => Option.none

/-- Equality of the outermost layer, given that of the parts. -/
inductive Layer : Value → Value → Prop
  | none : Layer none none
  | bool (b : Bool) : Layer (bool b) (bool b)
  | number {v w : Value} (n : Binary64.Denotation) (hv : v.number? = some n)
      (hw : w.number? = some n) : Layer v w
  | str (s : String) : Layer (str s) (str s)
  | seq (kind : SeqKind) {xs ys : List Value} (h : List.Forall₂ Alike xs ys) :
      Layer (seq kind xs) (seq kind ys)
  | map {d e : Dictionary Value Value} (h : Matched Alike d.entries e.entries) :
      Layer (map d) (map e)
  | record (declared : RecordType) {f g : Fields Value}
      (h : List.Forall₂ (NamedAgree String Alike) f.entries g.entries) :
      Layer (record declared f) (record declared g)
  | type (tag : TypeTag) : Layer (type tag) (type tag)

/-- Built values below a size. -/
def Below (n : Nat) (v : Value) : Prop := Built v ∧ sizeOf v < n

section Parts

variable {n : Nat}

theorem Below.item {kind : SeqKind} {items : List Value} (h : Below (n + 1) (seq kind items)) :
    ∀ v ∈ items, Below n v := by
  intro v hv
  have hlt := sizeOf_item kind hv
  exact ⟨h.1.item v hv, by have := h.2; omega⟩

theorem Below.entry {d : Dictionary Value Value} (h : Below (n + 1) (map d)) :
    ∀ entry ∈ d.entries, Below n entry.1 ∧ Below n entry.2 := by
  intro entry hentry
  have hlt := sizeOf_entry hentry
  have hsize := h.2
  exact ⟨⟨h.1.key entry hentry, by omega⟩, ⟨h.1.value entry hentry, by omega⟩⟩

theorem Below.field {declared : RecordType} {f : Fields Value}
    (h : Below (n + 1) (record declared f)) : ∀ field ∈ f.entries, Below n field.2 := by
  intro field hfield
  have hlt := sizeOf_field declared hfield
  exact ⟨h.1.field field hfield, by have := h.2; omega⟩

theorem Built.distinctUnder {d : Dictionary Value Value} (h : Built (Value.map d)) :
    DistinctUnder Alike d.entries := by
  have hd := h.distinct
  unfold Dictionary.Distinct Dictionary.keys at hd
  rw [List.pairwise_map] at hd
  exact hd.imp fun hne => Bool.eq_false_iff.mp hne

end Parts

section Layers

variable {n : Nat}

theorem Layer.refl (h : EquivalenceOn Alike (Below n)) {v : Value} (hv : Below (n + 1) v) :
    Layer v v := by
  cases v with
  | none => exact .none
  | bool b => exact .bool b
  | int i => exact .number _ rfl rfl
  | float x => exact .number _ rfl rfl
  | str s => exact .str s
  | seq kind items => exact .seq kind (h.forall₂.refl hv.item)
  | map d => exact .map (h.matched.refl ⟨hv.entry, hv.1.distinctUnder⟩)
  | record declared f => exact .record declared (h.namedAgree.forall₂.refl hv.field)
  | type tag => exact .type tag

theorem Layer.symm (h : EquivalenceOn Alike (Below n)) {v w : Value} (hv : Below (n + 1) v)
    (hw : Below (n + 1) w) (hvw : Layer v w) : Layer w v := by
  cases hvw with
  | none => exact .none
  | bool b => exact .bool b
  | number m hm hm' => exact .number m hm' hm
  | str s => exact .str s
  | seq kind hitems => exact .seq kind (h.forall₂.symm hv.item hw.item hitems)
  | map hentries =>
      exact .map (h.matched.symm ⟨hv.entry, hv.1.distinctUnder⟩ ⟨hw.entry, hw.1.distinctUnder⟩
        hentries)
  | record declared hfields =>
      exact .record declared (h.namedAgree.forall₂.symm hv.field hw.field hfields)
  | type tag => exact .type tag

-- What equals a number is a number that denotes the same.
theorem Layer.number_right {v w : Value} {m : Binary64.Denotation} (hvw : Layer v w)
    (hv : v.number? = some m) : w.number? = some m := by
  cases hvw with
  | number k hk hk' => rw [hk', ← hk, hv]
  | _ => exact absurd hv (by simp only [number?, reduceCtorEq, not_false_iff])

theorem Layer.trans (h : EquivalenceOn Alike (Below n)) {u v w : Value} (hu : Below (n + 1) u)
    (hv : Below (n + 1) v) (hw : Below (n + 1) w) (huv : Layer u v) (hvw : Layer v w) :
    Layer u w := by
  -- A value that is no number equals only values of its own kind.
  cases huv with
  | number m hm hm' => exact .number m hm (hvw.number_right hm')
  | none => exact hvw
  | bool b => exact hvw
  | str s => exact hvw
  | type tag => exact hvw
  | seq kind hitems =>
      cases hvw with
      | number m hm _ => exact absurd hm (by simp only [number?, reduceCtorEq, not_false_iff])
      | seq _ hitems' =>
          exact .seq kind (h.forall₂.trans hu.item hv.item hw.item hitems hitems')
  | map hentries =>
      cases hvw with
      | number m hm _ => exact absurd hm (by simp only [number?, reduceCtorEq, not_false_iff])
      | map hentries' =>
          exact .map (h.matched.trans ⟨hu.entry, hu.1.distinctUnder⟩
            ⟨hv.entry, hv.1.distinctUnder⟩ ⟨hw.entry, hw.1.distinctUnder⟩ hentries hentries')
  | record declared hfields =>
      cases hvw with
      | number m hm _ => exact absurd hm (by simp only [number?, reduceCtorEq, not_false_iff])
      | record _ hfields' =>
          exact .record declared
            (h.namedAgree.forall₂.trans hu.field hv.field hw.field hfields hfields')

/-- A layer over an equivalence is an equivalence. -/
theorem Layer.equivalenceOn (h : EquivalenceOn Alike (Below n)) :
    EquivalenceOn Layer (Below (n + 1)) :=
  ⟨Layer.refl h, Layer.symm h, Layer.trans h⟩

end Layers

section Recursion

theorem itemsEqual_iff (xs : List Value) :
    ∀ ys : List Value, itemsEqual xs ys = true ↔ List.Forall₂ Alike xs ys := by
  induction xs with
  | nil =>
      intro ys
      cases ys with
      | nil => exact iff_of_true rfl .nil
      | cons y rest => exact iff_of_false Bool.false_ne_true (fun h => nomatch h)
  | cons x rest ih =>
      intro ys
      cases ys with
      | nil => exact iff_of_false Bool.false_ne_true (fun h => nomatch h)
      | cons y rest' => rw [itemsEqual, Bool.and_eq_true, List.forall₂_cons, ih rest']

theorem fieldListEqual_iff (xs : List (String × Value)) :
    ∀ ys : List (String × Value),
      fieldListEqual xs ys = true ↔ List.Forall₂ (NamedAgree String Alike) xs ys := by
  induction xs with
  | nil =>
      intro ys
      cases ys with
      | nil => exact iff_of_true rfl .nil
      | cons y rest => exact iff_of_false Bool.false_ne_true (fun h => nomatch h)
  | cons x rest ih =>
      intro ys
      cases ys with
      | nil => exact iff_of_false Bool.false_ne_true (fun h => nomatch h)
      | cons y rest' =>
          rw [fieldListEqual, Bool.and_eq_true, List.forall₂_cons, ih rest', fieldEqual,
            Bool.and_eq_true, beq_iff_eq]
          rfl

/-- An entry is found under every key that equals its own, if equality behaves on
    the keys and the keys are distinct. -/
theorem get?_of_alike {P : Value → Prop} (h : EquivalenceOn Alike P)
    {d : Dictionary Value Value} (hd : ∀ x ∈ d.entries, P x.1)
    (hdistinct : DistinctUnder Alike d.entries) {entry : Value × Value}
    (hmem : entry ∈ d.entries) {key : Value} (hkey : P key) (hentry : entry.1.Alike key) :
    d.get? key = some entry.2 := by
  refine Dictionary.get?_of_unique hmem hentry fun other hother hother' => ?_
  -- Both keys equal the sought one, so they equal each other.
  have hback := h.symm (hd entry hmem) hkey hentry
  have hback' := h.symm (hd other hother) hkey hother'
  exact eq_of_distinctUnder hdistinct hother hmem
    (h.trans (hd other hother) hkey (hd entry hmem) hother' hback)
    (h.trans (hd entry hmem) hkey (hd other hother) hentry hback')

/-- Maps are equal iff their entries match, if equality behaves on the entries
    and the keys are distinct. -/
theorem deepEqual_map_iff_matched {P : Value → Prop} (h : EquivalenceOn Alike P)
    {d e : Dictionary Value Value} (hd : ∀ x ∈ d.entries, P x.1 ∧ P x.2)
    (he : ∀ y ∈ e.entries, P y.1 ∧ P y.2) (hdistinct : DistinctUnder Alike e.entries) :
    (map d).deepEqual (map e) = true ↔ Matched Alike d.entries e.entries := by
  rw [deepEqual_map, Bool.and_eq_true, beq_iff_eq, List.all_eq_true]
  -- The lengths are compared as they are. What is left is one entry and its partner.
  refine and_congr_right fun _ => forall_congr' fun x => forall_congr' fun hx => ?_
  constructor
  · intro hany
    rw [Option.any_eq_true] at hany
    rcases hany with ⟨w, hget, hw⟩
    rcases Dictionary.exists_mem_of_get? hget with ⟨k, hmem, hk⟩
    -- The look-up compared the stored key with the sought one.
    exact ⟨(k, w), hmem, h.symm (he _ hmem).1 (hd x hx).1 hk, hw⟩
  · intro hpartner
    rcases hpartner with ⟨y, hy, hkey, hvalue⟩
    have hback : y.1.Alike x.1 := h.symm (hd x hx).1 (he y hy).1 hkey
    rw [get?_of_alike h (fun z hz => (he z hz).1) hdistinct hy (hd x hx).1 hback]
    exact hvalue

/-- Numbers are equal iff they denote the same, whatever represents them. -/
theorem alike_iff_number {v w : Value} {m k : Binary64.Denotation} (hv : v.number? = some m)
    (hw : w.number? = some k) : v.Alike w ↔ m = k := by
  have hunit : (Binary64.unitsPerOne : Int) ≠ 0 :=
    Int.natCast_ne_zero.mpr (Nat.ne_of_gt Binary64.unitsPerOne_pos)
  cases v <;> simp only [number?, Option.some.injEq, reduceCtorEq] at hv <;>
    cases w <;> simp only [number?, Option.some.injEq, reduceCtorEq] at hw <;>
    rw [← hv, ← hw, Alike, deepEqual]
  · rw [beq_iff_eq, Binary64.Denotation.finite.injEq, Int.mul_eq_mul_right_iff hunit,
      Int64.toInt_inj]
  · rw [Binary64.equalsInt_iff_denotation_eq, eq_comm]
  · exact Binary64.equalsInt_iff_denotation_eq
  · exact Binary64.same_iff_denotation_eq

/-- Deep equality is a layer over itself, if equality behaves on the parts. -/
theorem alike_iff_layer {n : Nat} (h : EquivalenceOn Alike (Below n)) {v w : Value}
    (hv : Below (n + 1) v) (hw : Below (n + 1) w) : v.Alike w ↔ Layer v w := by
  constructor
  · intro hvw
    unfold Alike at hvw
    fun_cases deepEqual v w
    case case1 => exact .none
    case case2 a b =>
      rw [deepEqual, beq_iff_eq] at hvw
      exact hvw ▸ .bool a
    case case3 i j => exact .number _ rfl ((alike_iff_number rfl rfl).mp hvw ▸ rfl)
    case case4 x y => exact .number _ rfl ((alike_iff_number rfl rfl).mp hvw ▸ rfl)
    case case5 i x => exact .number _ rfl ((alike_iff_number rfl rfl).mp hvw ▸ rfl)
    case case6 x i => exact .number _ rfl ((alike_iff_number rfl rfl).mp hvw ▸ rfl)
    case case7 s t =>
      rw [deepEqual, beq_iff_eq] at hvw
      exact hvw ▸ .str s
    case case8 kind xs kind' ys =>
      rw [deepEqual_seq, Bool.and_eq_true, beq_iff_eq, itemsEqual_iff] at hvw
      rcases hvw with ⟨rfl, hitems⟩
      exact .seq kind hitems
    case case9 d e =>
      exact .map ((deepEqual_map_iff_matched h hv.entry hw.entry hw.1.distinctUnder).mp hvw)
    case case10 t f u g =>
      rw [deepEqual_record, Bool.and_eq_true, beq_iff_eq, fieldListEqual_iff] at hvw
      rcases hvw with ⟨rfl, hfields⟩
      exact .record t hfields
    case case11 t u =>
      rw [deepEqual, beq_iff_eq] at hvw
      exact hvw ▸ .type t
    case case12 =>
      -- No rule of deep equality fits, so it does not hold.
      rw [deepEqual] at hvw <;> first | assumption | exact absurd hvw Bool.false_ne_true
  · intro hvw
    cases hvw with
    | none => rfl
    | bool b => rw [Alike, deepEqual, beq_self_eq_true]
    | number m hm hm' => exact (alike_iff_number hm hm').mpr rfl
    | str s => rw [Alike, deepEqual, beq_self_eq_true]
    | seq kind hitems =>
        rw [Alike, deepEqual_seq, Bool.and_eq_true, beq_self_eq_true, itemsEqual_iff]
        exact ⟨rfl, hitems⟩
    | map hentries =>
        exact (deepEqual_map_iff_matched h hv.entry hw.entry hw.1.distinctUnder).mpr hentries
    | record declared hfields =>
        rw [Alike, deepEqual_record, Bool.and_eq_true, beq_self_eq_true, fieldListEqual_iff]
        exact ⟨rfl, hfields⟩
    | type tag => rw [Alike, deepEqual, beq_self_eq_true]

/-- Deep equality is an equivalence between built values, by induction on their
    size. -/
theorem equivalenceOn_alike : EquivalenceOn Alike Built := by
  -- One induction for all three, since maps use symmetry of their keys for
  -- transitivity, and both for the look-ups.
  have hbelow : ∀ n, EquivalenceOn Alike (Below n) := by
    intro n
    induction n with
    | zero =>
        exact ⟨fun hv => absurd hv.2 (Nat.not_lt_zero _),
          fun hv _ _ => absurd hv.2 (Nat.not_lt_zero _),
          fun hv _ _ _ _ => absurd hv.2 (Nat.not_lt_zero _)⟩
    | succ n ih =>
        have hlayer := Layer.equivalenceOn ih
        constructor
        · intro v hv
          rw [alike_iff_layer ih hv hv]
          exact hlayer.refl hv
        · intro v w hv hw hvw
          rw [alike_iff_layer ih hv hw] at hvw
          rw [alike_iff_layer ih hw hv]
          exact hlayer.symm hv hw hvw
        · intro u v w hu hv hw huv hvw
          rw [alike_iff_layer ih hu hv] at huv
          rw [alike_iff_layer ih hv hw] at hvw
          rw [alike_iff_layer ih hu hw]
          exact hlayer.trans hu hv hw huv hvw
  -- A few values have a common bound of their sizes.
  constructor
  · intro v hv
    exact (hbelow (sizeOf v + 1)).refl ⟨hv, Nat.lt_succ_self _⟩
  · intro v w hv hw hvw
    refine (hbelow (sizeOf v + sizeOf w + 1)).symm ⟨hv, ?_⟩ ⟨hw, ?_⟩ hvw <;> omega
  · intro u v w hu hv hw huv hvw
    refine (hbelow (sizeOf u + sizeOf v + sizeOf w + 1)).trans ⟨hu, ?_⟩ ⟨hv, ?_⟩ ⟨hw, ?_⟩
      huv hvw <;> omega

/-- Deep equality of built values is reflexive, symmetric and transitive. -/
theorem deepEqual_equivalence :
    Equivalence fun v w : {v : Value // v.Built} => v.1.deepEqual w.1 = true where
  refl := fun v => equivalenceOn_alike.refl v.2
  symm := fun {v w} hvw => equivalenceOn_alike.symm v.2 w.2 hvw
  trans := fun {u v w} huv hvw => equivalenceOn_alike.trans u.2 v.2 w.2 huv hvw

end Recursion

end Value

end ShapeMatch
