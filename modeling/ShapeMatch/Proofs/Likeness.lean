import ShapeMatch.Proofs.DeepEquality

/-!
# Likeness

Relations between values that no view can tell apart.

A match looks at a value through its views: as a sequence, by the key of a
map, by the field of a record. If two related values always lead to related
parts, a match of one can be followed step by step by a match of the other.
`Views` collects what is asked of the views. A look-up by a key is left
out, since the key belongs to the pattern and may be exchanged as well.

There are two relations of interest. Each built value is like itself. And
equal built values are alike, although one may hold `1` where the other holds
`1.0`, and the entries of a map may have come in another order; that a look-up
finds equal values under equal keys rests on the keys of a built map being
distinct.

## Main definitions

* `Value.Views`: A relation that the views carry to the parts.
* `Value.Likeness`: Such a relation between equal values.
* `Value.Same`: A built value and itself.
* `Value.Interchangeable`: Equal built values.
* `Value.Partless`: No view finds anything.

## Theorems

* `Built.alike_iff_layer`: Equality of built values, layer by layer.
* `views_eq`: The same values have the same views.
* `likeness_same`, `likeness_interchangeable`: Both relations are likenesses.
* `Interchangeable.lookup?`: Equal keys lead to equal values in equal maps.
* `Interchangeable.typeOf`: Equal values have one type, unless they are numbers.
-/

namespace ShapeMatch

namespace Value

/-- A relation between values that every view carries to what it finds. -/
structure Views (Q : Value → Value → Prop) : Prop where
  sequence : ∀ {v w}, Q v w →
    Option.Rel (NamedAgree SeqKind (List.Forall₂ Q)) v.asSequence? w.asSequence?
  ofSequence : ∀ kind {xs ys}, List.Forall₂ Q xs ys → Q (ofSequence kind xs) (ofSequence kind ys)
  mapping : ∀ {v w}, Q v w → v.isMapping = w.isMapping
  record : ∀ {v w}, Q v w → v.isRecord = w.isRecord
  recordType : ∀ {v w}, Q v w → v.isRecord = true → v.typeOf = w.typeOf
  field : ∀ {v w}, Q v w → ∀ name, Option.Rel Q (v.field? name) (w.field? name)

/-- A relation between equal built values that every view carries to what it
    finds. -/
structure Likeness (Q : Value → Value → Prop) : Prop extends Views Q where
  built : ∀ {v w}, Q v w → v.Built ∧ w.Built
  alike : ∀ {v w}, Q v w → v.Alike w

/-- A built value and itself. -/
def Same (v w : Value) : Prop := v = w ∧ v.Built

/-- Equal built values. -/
structure Interchangeable (v w : Value) : Prop where
  left : v.Built
  right : w.Built
  alike : v.Alike w

/-- No view finds anything in the value. -/
structure Partless (v : Value) : Prop where
  sequence : v.asSequence? = Option.none
  lookup : ∀ key, v.lookup? key = Option.none
  field : ∀ name, v.field? name = Option.none
  mapping : v.isMapping = false
  record : v.isRecord = false

theorem interchangeable_self {v : Value} (hv : v.Built) : Interchangeable v v :=
  ⟨hv, hv, equivalenceOn_alike.refl hv⟩

theorem Interchangeable.symm {v w : Value} (h : Interchangeable v w) : Interchangeable w v :=
  ⟨h.right, h.left, equivalenceOn_alike.symm h.left h.right h.alike⟩

theorem Interchangeable.trans {u v w : Value} (huv : Interchangeable u v)
    (hvw : Interchangeable v w) : Interchangeable u w :=
  ⟨huv.left, hvw.right,
    equivalenceOn_alike.trans huv.left huv.right hvw.right huv.alike hvw.alike⟩

section Same

theorem views_eq : Views Eq where
  sequence := by
    intro v w h
    subst h
    cases v.asSequence? with
    | none => exact .none
    | some view => exact .some ⟨rfl, List.forall₂_same.mpr fun _ _ => rfl⟩
  ofSequence := by
    intro kind xs ys h
    rw [List.forall₂_eq_eq_eq] at h
    rw [h]
  mapping := fun h => h ▸ rfl
  record := fun h => h ▸ rfl
  recordType := fun h _ => h ▸ rfl
  field := fun h _ => h ▸ optionRel_self fun _ _ => rfl

-- A value that is found is like itself.
theorem optionRel_same {x : Option Value} (h : ∀ v ∈ x, v.Built) : Option.Rel Same x x :=
  optionRel_self fun v hv => ⟨rfl, h v hv⟩

theorem forall₂_same_iff {xs ys : List Value} :
    List.Forall₂ Same xs ys ↔ xs = ys ∧ ∀ x ∈ xs, x.Built := by
  constructor
  · intro h
    induction h with
    | nil => exact ⟨rfl, fun _ hx => absurd hx List.not_mem_nil⟩
    | cons hfirst _ ih =>
        rcases hfirst with ⟨rfl, hbuilt⟩
        rcases ih with ⟨rfl, hrest⟩
        exact ⟨rfl, List.forall_mem_cons.mpr ⟨hbuilt, hrest⟩⟩
  · intro h
    rcases h with ⟨rfl, hbuilt⟩
    exact List.forall₂_same.mpr fun x hx => ⟨rfl, hbuilt x hx⟩

theorem likeness_same : Likeness Same where
  built := fun h => ⟨h.2, h.1 ▸ h.2⟩
  alike := fun h => h.1 ▸ equivalenceOn_alike.refl h.2
  sequence := by
    intro v w h
    rcases h with ⟨rfl, hv⟩
    cases hview : v.asSequence? with
    | none => exact .none
    | some view => exact .some ⟨rfl, forall₂_same_iff.mpr ⟨rfl, hv.viewed hview⟩⟩
  ofSequence := by
    intro kind xs ys h
    rcases forall₂_same_iff.mp h with ⟨rfl, hbuilt⟩
    exact ⟨rfl, Built.ofSequence kind hbuilt⟩
  mapping := fun h => h.1 ▸ rfl
  record := fun h => h.1 ▸ rfl
  recordType := fun h _ => h.1 ▸ rfl
  field := by
    intro v w h name
    rcases h with ⟨rfl, hv⟩
    exact optionRel_same fun u hu => hv.read hu

end Same

section Interchange

/-- Built values are equal iff their outermost layers are. -/
theorem Built.alike_iff_layer {v w : Value} (hv : v.Built) (hw : w.Built) :
    v.Alike w ↔ Layer v w := by
  refine Value.alike_iff_layer (n := sizeOf v + sizeOf w + 1)
    (equivalenceOn_alike.mono fun _ h => h.1) ⟨hv, ?_⟩ ⟨hw, ?_⟩ <;> omega

theorem Interchangeable.layer {v w : Value} (h : Interchangeable v w) : Layer v w :=
  (h.left.alike_iff_layer h.right).mp h.alike

-- Lists of built values are equal item by item iff the items can be exchanged.
theorem forall₂_interchangeable_iff {xs ys : List Value} :
    List.Forall₂ Interchangeable xs ys ↔
      (∀ x ∈ xs, x.Built) ∧ (∀ y ∈ ys, y.Built) ∧ List.Forall₂ Alike xs ys := by
  constructor
  · intro h
    induction h with
    | nil => exact ⟨fun _ hx => absurd hx List.not_mem_nil,
        fun _ hy => absurd hy List.not_mem_nil, .nil⟩
    | cons hfirst _ ih =>
        exact ⟨List.forall_mem_cons.mpr ⟨hfirst.left, ih.1⟩,
          List.forall_mem_cons.mpr ⟨hfirst.right, ih.2.1⟩, .cons hfirst.alike ih.2.2⟩
  · intro h
    rcases h with ⟨hxs, hys, h⟩
    induction h with
    | nil => exact .nil
    | cons hfirst _ ih =>
        rw [List.forall_mem_cons] at hxs hys
        exact .cons ⟨hxs.1, hys.1, hfirst⟩ (ih hxs.2 hys.2)

-- Fields that agree name by name are found or missing together.
theorem lookup_interchangeable {f g : List (String × Value)} (name : String)
    (hf : ∀ x ∈ f, x.2.Built) (hg : ∀ y ∈ g, y.2.Built)
    (h : List.Forall₂ (NamedAgree String Alike) f g) :
    Option.Rel Interchangeable (f.lookup name) (g.lookup name) := by
  refine (optionRel_congr fun v hv w hw => ?_).mp (optionRel_lookup h name)
  have hbuilt := hf _ (Fields.mem_of_get? (f := ⟨f⟩) hv)
  have hbuilt' := hg _ (Fields.mem_of_get? (f := ⟨g⟩) hw)
  exact ⟨fun halike => ⟨hbuilt, hbuilt', halike⟩, Interchangeable.alike⟩

-- What is found in one map is found in an equal one, under an equal key.
theorem exists_get?_of_matched {d e : Dictionary Value Value} (hd : (map d).Built)
    (he : (map e).Built) (h : Matched Alike d.entries e.entries) {k k' : Value}
    (hk : Interchangeable k k') {x : Value} (hget : d.get? k = some x) :
    ∃ y, e.get? k' = some y ∧ Interchangeable x y := by
  rcases Dictionary.exists_mem_of_get? hget with ⟨stored, hmem, hstored⟩
  rcases h.2 _ hmem with ⟨y, hy, hagree⟩
  have hstored' : Interchangeable stored k := ⟨hd.key _ hmem, hk.left, hstored⟩
  have hpartner : Interchangeable stored y.1 := ⟨hd.key _ hmem, he.key _ hy, hagree.1⟩
  have hback := (hpartner.symm.trans hstored').trans hk
  exact ⟨y.2, get?_of_alike equivalenceOn_alike he.key he.distinctUnder hy hk.right hback.alike,
    hd.value _ hmem, he.value _ hy, hagree.2⟩

theorem partless_of_number {v : Value} {n : Binary64.Denotation} (h : v.number? = some n) :
    v.Partless := by
  cases v with
  | int i => exact ⟨rfl, fun _ => rfl, fun _ => rfl, rfl, rfl⟩
  | float x => exact ⟨rfl, fun _ => rfl, fun _ => rfl, rfl, rfl⟩
  | _ => exact nomatch h

theorem typeOf_of_number {v : Value} {n : Binary64.Denotation} (h : v.number? = some n) :
    v.typeOf = .int ∨ v.typeOf = .float := by
  cases v with
  | int i => exact Or.inl rfl
  | float x => exact Or.inr rfl
  | _ => exact nomatch h

/-- Equal keys lead to equal values in equal maps. -/
theorem Interchangeable.lookup? {v w k k' : Value} (h : Interchangeable v w)
    (hk : Interchangeable k k') : Option.Rel Interchangeable (v.lookup? k) (w.lookup? k') := by
  have hlayer := h.layer
  rcases h with ⟨hv, hw, -⟩
  cases hlayer with
  | map hentries =>
      rename_i d e
      have hback := equivalenceOn_alike.matched.symm
        ⟨fun x hx => ⟨hv.key x hx, hv.value x hx⟩, hv.distinctUnder⟩
        ⟨fun y hy => ⟨hw.key y hy, hw.value y hy⟩, hw.distinctUnder⟩ hentries
      change Option.Rel Interchangeable (d.get? k) (e.get? k')
      cases hget : d.get? k with
      | some x =>
          rcases exists_get?_of_matched hv hw hentries hk hget with ⟨y, hy, hxy⟩
          rw [hy]
          exact .some hxy
      | none =>
          -- Whatever the second map had would be in the first one, too.
          cases hget' : e.get? k' with
          | none => exact .none
          | some y =>
              rcases exists_get?_of_matched hw hv hback hk.symm hget' with ⟨x, hx, -⟩
              rw [hget] at hx
              exact nomatch hx
  | number n hn hn' =>
      rw [(partless_of_number hn).lookup, (partless_of_number hn').lookup]
      exact .none
  | _ => exact .none

/-- Equal values have one type, unless they are numbers. -/
theorem Interchangeable.typeOf {v w : Value} (h : Interchangeable v w) :
    v.typeOf = w.typeOf ∨
      (v.typeOf = .int ∨ v.typeOf = .float) ∧ (w.typeOf = .int ∨ w.typeOf = .float) := by
  cases h.layer with
  | number n hn hn' => exact Or.inr ⟨typeOf_of_number hn, typeOf_of_number hn'⟩
  | _ => exact Or.inl rfl

theorem likeness_interchangeable : Likeness Interchangeable where
  built := fun h => ⟨h.left, h.right⟩
  alike := fun h => h.alike
  sequence := by
    intro v w h
    have hlayer := h.layer
    rcases h with ⟨hv, hw, -⟩
    cases hlayer with
    | seq kind hitems =>
        exact .some ⟨rfl, forall₂_interchangeable_iff.mpr ⟨hv.item, hw.item, hitems⟩⟩
    | number n hn hn' =>
        rw [(partless_of_number hn).sequence, (partless_of_number hn').sequence]
        exact .none
    | _ => exact .none
  ofSequence := by
    intro kind xs ys h
    rcases forall₂_interchangeable_iff.mp h with ⟨hxs, hys, hitems⟩
    have hleft := Built.ofSequence kind hxs
    have hright := Built.ofSequence kind hys
    exact ⟨hleft, hright, (hleft.alike_iff_layer hright).mpr (.seq kind hitems)⟩
  mapping := by
    intro v w h
    cases h.layer with
    | number n hn hn' =>
        rw [(partless_of_number hn).mapping, (partless_of_number hn').mapping]
    | _ => rfl
  record := by
    intro v w h
    cases h.layer with
    | number n hn hn' => rw [(partless_of_number hn).record, (partless_of_number hn').record]
    | _ => rfl
  recordType := by
    intro v w h hrecord
    cases h.layer with
    | number n hn _ =>
        rw [(partless_of_number hn).record] at hrecord
        exact absurd hrecord Bool.false_ne_true
    | _ => rfl
  field := by
    intro v w h name
    have hlayer := h.layer
    rcases h with ⟨hv, hw, -⟩
    cases hlayer with
    | record declared hfields => exact lookup_interchangeable name hv.field hw.field hfields
    | number n hn hn' =>
        rw [(partless_of_number hn).field, (partless_of_number hn').field]
        exact .none
    | _ => exact .none

end Interchange

end Value

end ShapeMatch
