import Mathlib.Data.List.Forall2

/-!
# Lifting Equivalences

How a comparison that behaves well on some things behaves on lists of them.

A comparison of nested data is defined by recursion, and it can be an
equivalence only between data that are in good order. So the usual notion of an
equivalence is of no use inside the induction: what is known there is that the
comparison behaves on some of the values, the smaller ones. `EquivalenceOn`
says just that.

Lists are compared in two ways. `List.Forall₂` compares them item by item.
`Matched` compares lists of pairs as maps are compared: the lengths are the
same, and each pair of the first has a partner somewhere in the second. That
looks in one direction only. If the keys of the first list are distinct, no
two of its pairs can share a partner, so the partners fill the second list,
and each pair of the second has a partner too. `exists_partner` is this
counting argument.

## Main definitions

* `EquivalenceOn`: An equivalence between the members of a class.
* `Matched`: Lists of pairs that agree as maps.
* `PairAgree`, `NamedAgree`: Pairs that agree in both parts, or in the second
  under one name.
* `DistinctUnder`: No key is related to a newer one.

## Theorems

* `EquivalenceOn.mono`: An equivalence stays one on a smaller class.
* `EquivalenceOn.forall₂`: Item by item, an equivalence stays one.
* `EquivalenceOn.optionRel`: Between optional things, too.
* `optionRel_congr`, `forall₂_congr`: Relations that agree on what is there.
* `optionRel_lookup`: Things that agree name by name are found together.
* `forall₂_zipWith`: Related functions with related arguments.
* `exists_partner`: Distinct things with partners use up all partners.
* `eq_of_distinctUnder`: Distinct keys tell pairs apart.
* `EquivalenceOn.matched`: As maps, too, if keys are distinct.
-/

namespace ShapeMatch

/-- `R` is an equivalence between the members of `P`. -/
structure EquivalenceOn {α : Type} (R : α → α → Prop) (P : α → Prop) : Prop where
  refl : ∀ {a}, P a → R a a
  symm : ∀ {a b}, P a → P b → R a b → R b a
  trans : ∀ {a b c}, P a → P b → P c → R a b → R b c → R a c

section Lists

variable {α β : Type} {R : α → α → Prop} {P : α → Prop}

theorem EquivalenceOn.mono {P' : α → Prop} (h : EquivalenceOn R P) (hP : ∀ a, P' a → P a) :
    EquivalenceOn R P' :=
  ⟨fun ha => h.refl (hP _ ha), fun ha hb => h.symm (hP _ ha) (hP _ hb),
    fun ha hb hc => h.trans (hP _ ha) (hP _ hb) (hP _ hc)⟩

theorem optionRel_self {x : Option α} (h : ∀ a ∈ x, R a a) : Option.Rel R x x := by
  cases x with
  | none => exact .none
  | some a => exact .some (h a rfl)

theorem EquivalenceOn.optionRel (h : EquivalenceOn R P) :
    EquivalenceOn (Option.Rel R) fun x => ∀ a ∈ x, P a where
  refl := fun hx => optionRel_self fun a ha => h.refl (hx a ha)
  symm := by
    intro x y hx hy hxy
    cases hxy with
    | none => exact .none
    | some hab => exact .some (h.symm (hx _ rfl) (hy _ rfl) hab)
  trans := by
    intro x y z hx hy hz hxy hyz
    cases hxy with
    | none => exact hyz
    | some hab =>
        cases hyz with
        | some hbc => exact .some (h.trans (hx _ rfl) (hy _ rfl) (hz _ rfl) hab hbc)

-- The first of two optional things is there or it is not, on both sides.
theorem optionRel_or {S : α → β → Prop} {a c : Option α} {b d : Option β}
    (hab : Option.Rel S a b) (hcd : Option.Rel S c d) : Option.Rel S (a.or c) (b.or d) := by
  cases hab with
  | none => exact hcd
  | some h => exact .some h

theorem optionRel_map_iff {γ δ : Type} {S : γ → δ → Prop} {f : α → γ} {g : β → δ} {x : Option α}
    {y : Option β} :
    Option.Rel S (x.map f) (y.map g) ↔ Option.Rel (fun a b => S (f a) (g b)) x y := by
  cases x with
  | none =>
      cases y with
      | none => exact iff_of_true .none .none
      | some b => exact iff_of_false Option.not_rel_none_some Option.not_rel_none_some
  | some a =>
      cases y with
      | none => exact iff_of_false Option.not_rel_some_none Option.not_rel_some_none
      | some b => rw [Option.map_some, Option.map_some, Option.rel_some_some, Option.rel_some_some]

-- Relations that agree on what is there relate the same things.
theorem optionRel_congr {Q S : α → β → Prop} {x : Option α} {y : Option β}
    (h : ∀ a ∈ x, ∀ b ∈ y, (Q a b ↔ S a b)) : Option.Rel Q x y ↔ Option.Rel S x y := by
  cases x with
  | none =>
      cases y with
      | none => exact iff_of_true .none .none
      | some b => exact iff_of_false Option.not_rel_none_some Option.not_rel_none_some
  | some a =>
      cases y with
      | none => exact iff_of_false Option.not_rel_some_none Option.not_rel_some_none
      | some b => rw [Option.rel_some_some, Option.rel_some_some, h a rfl b rfl]

-- The same for lists, item by item.
theorem forall₂_congr {Q S : α → β → Prop} {xs : List α} {ys : List β}
    (h : ∀ a ∈ xs, ∀ b ∈ ys, (Q a b ↔ S a b)) : List.Forall₂ Q xs ys ↔ List.Forall₂ S xs ys := by
  rw [List.forall₂_iff_zip, List.forall₂_iff_zip]
  refine and_congr_right fun _ => forall_congr' fun a => forall_congr' fun b =>
    forall_congr' fun hmem => ?_
  exact h a (List.of_mem_zip hmem).1 b (List.of_mem_zip hmem).2

-- Pairs are related in both parts if their parts are.
theorem forall₂_of_parts {α α' β β' : Type} {R : α → α' → Prop} {S : β → β' → Prop} :
    ∀ {xs : List (α × β)} {ys : List (α' × β')},
      List.Forall₂ R (xs.map Prod.fst) (ys.map Prod.fst) →
      List.Forall₂ S (xs.map Prod.snd) (ys.map Prod.snd) →
      List.Forall₂ (fun x y => R x.1 y.1 ∧ S x.2 y.2) xs ys
  | [], [], _, _ => .nil
  | _ :: _, _ :: _, .cons hfst hrest, .cons hsnd hrest' =>
      .cons ⟨hfst, hsnd⟩ (forall₂_of_parts hrest hrest')

-- Related functions lead related arguments to related results, in step.
theorem forall₂_zipWith {α α' β β' γ γ' : Type} {Q : β → β' → Prop} {S : γ → γ' → Prop}
    {f : α → β → γ} {f' : α' → β' → γ'} {xs : List α} {xs' : List α'}
    (h : List.Forall₂ (fun x x' => ∀ ⦃v w⦄, Q v w → S (f x v) (f' x' w)) xs xs') :
    ∀ {vs : List β} {ws : List β'}, List.Forall₂ Q vs ws →
      List.Forall₂ S (List.zipWith f xs vs) (List.zipWith f' xs' ws) := by
  induction h with
  | nil => exact fun _ => .nil
  | cons hfirst _ ih =>
      intro vs ws hvs
      cases hvs with
      | nil => exact .nil
      | cons hv hrest => exact .cons (hfirst hv) (ih hrest)

theorem EquivalenceOn.forall₂ (h : EquivalenceOn R P) :
    EquivalenceOn (List.Forall₂ R) fun xs => ∀ x ∈ xs, P x where
  refl := by
    intro xs hxs
    induction xs with
    | nil => exact .nil
    | cons x rest ih =>
        rw [List.forall_mem_cons] at hxs
        exact .cons (h.refl hxs.1) (ih hxs.2)
  symm := by
    intro xs ys hxs hys hxy
    induction hxy with
    | nil => exact .nil
    | cons hfirst _ ih =>
        rw [List.forall_mem_cons] at hxs hys
        exact .cons (h.symm hxs.1 hys.1 hfirst) (ih hxs.2 hys.2)
  trans := by
    intro xs ys zs hxs hys hzs hxy hyz
    induction hxy generalizing zs with
    | nil => exact hyz
    | cons hfirst _ ih =>
        cases hyz with
        | cons hfirst' hrest' =>
            rw [List.forall_mem_cons] at hxs hys hzs
            exact .cons (h.trans hxs.1 hys.1 hzs.1 hfirst hfirst') (ih hxs.2 hys.2 hzs.2 hrest')

/-- Things that share no partners use up all partners if there are no more
    partners than things. -/
theorem exists_partner {S : α → β → Prop} (xs : List α) :
    ∀ ys : List β, ys.length ≤ xs.length → (∀ x ∈ xs, ∃ y ∈ ys, S x y) →
      (xs.Pairwise fun x x' => ∀ y ∈ ys, S x y → ¬S x' y) → ∀ y ∈ ys, ∃ x ∈ xs, S x y := by
  induction xs with
  | nil =>
      intro ys hlen _ _ y hy
      rw [List.length_nil, Nat.le_zero, List.length_eq_zero_iff] at hlen
      rw [hlen] at hy
      exact absurd hy List.not_mem_nil
  | cons x rest ih =>
      intro ys hlen htotal hshare y hy
      rw [List.forall_mem_cons] at htotal
      rw [List.pairwise_cons] at hshare
      rcases htotal with ⟨⟨partner, hpartner, hx⟩, htotal⟩
      -- Take the partner of the first thing away. The other things do not need it.
      rcases List.append_of_mem hpartner with ⟨before, after, hsplit⟩
      have hmem : ∀ z, z ∈ ys ↔ z = partner ∨ z ∈ before ++ after := by
        intro z
        rw [hsplit]
        simp only [List.mem_append, List.mem_cons]
        exact or_left_comm
      have hlen' : (before ++ after).length ≤ rest.length := by
        rw [hsplit] at hlen
        simp only [List.length_append, List.length_cons] at hlen ⊢
        omega
      have htotal' : ∀ x' ∈ rest, ∃ z ∈ before ++ after, S x' z := by
        intro x' hx'
        rcases htotal x' hx' with ⟨z, hz, hxz⟩
        rcases (hmem z).mp hz with rfl | hz'
        · exact absurd hxz (hshare.1 x' hx' z hz hx)
        · exact ⟨z, hz', hxz⟩
      have hshare' : rest.Pairwise fun x x' => ∀ z ∈ before ++ after, S x z → ¬S x' z :=
        hshare.2.imp fun hxx' z hz => hxx' z ((hmem z).mpr (Or.inr hz))
      rcases (hmem y).mp hy with rfl | hy'
      · exact ⟨x, List.mem_cons_self, hx⟩
      · rcases ih (before ++ after) hlen' htotal' hshare' y hy' with ⟨x', hx', hxy⟩
        exact ⟨x', List.mem_cons_of_mem _ hx', hxy⟩

end Lists

section Pairs

variable {α : Type} {R : α → α → Prop} {P : α → Prop}

/-- Two pairs agree in key and value. -/
def PairAgree (R : α → α → Prop) (x y : α × α) : Prop := R x.1 y.1 ∧ R x.2 y.2

/-- Two named things have one name and agree. -/
def NamedAgree (ι : Type) (R : α → α → Prop) (x y : ι × α) : Prop := x.1 = y.1 ∧ R x.2 y.2

/-- Lists of pairs of one length in which each pair of the first agrees with
    one of the second. -/
def Matched (R : α → α → Prop) (xs ys : List (α × α)) : Prop :=
  xs.length = ys.length ∧ ∀ x ∈ xs, ∃ y ∈ ys, PairAgree R x y

/-- No key is related to a newer one. -/
def DistinctUnder (R : α → α → Prop) (xs : List (α × α)) : Prop :=
  xs.Pairwise fun older newer => ¬R older.1 newer.1

-- Things that agree name by name are found or missing together.
theorem optionRel_lookup {ι : Type} [BEq ι] {xs ys : List (ι × α)}
    (h : List.Forall₂ (NamedAgree ι R) xs ys) (name : ι) :
    Option.Rel R (xs.lookup name) (ys.lookup name) := by
  induction h with
  | nil => exact .none
  | cons hfirst _ ih =>
      rw [List.lookup_cons, List.lookup_cons, hfirst.1]
      split
      · exact .some hfirst.2
      · exact ih

-- Pairs with distinct keys are told apart by their keys.
theorem eq_of_distinctUnder {xs : List (α × α)} (hd : DistinctUnder R xs) {x x' : α × α}
    (hx : x ∈ xs) (hx' : x' ∈ xs) (h : R x.1 x'.1) (h' : R x'.1 x.1) : x = x' := by
  have hall : ∀ ⦃a⦄, a ∈ xs → ∀ ⦃b⦄, b ∈ xs → R a.1 b.1 → R b.1 a.1 → a = b := by
    refine List.Pairwise.forall_of_forall_of_flip (fun _ _ _ _ => rfl) ?_ ?_
    · exact hd.imp fun hne hforth _ => absurd hforth hne
    · exact hd.imp fun hne _ hback => absurd hback hne
  exact hall hx hx' h h'

theorem EquivalenceOn.pairAgree (h : EquivalenceOn R P) :
    EquivalenceOn (PairAgree R) fun x => P x.1 ∧ P x.2 where
  refl := fun hx => ⟨h.refl hx.1, h.refl hx.2⟩
  symm := fun hx hy hxy => ⟨h.symm hx.1 hy.1 hxy.1, h.symm hx.2 hy.2 hxy.2⟩
  trans := fun hx hy hz hxy hyz =>
    ⟨h.trans hx.1 hy.1 hz.1 hxy.1 hyz.1, h.trans hx.2 hy.2 hz.2 hxy.2 hyz.2⟩

theorem EquivalenceOn.namedAgree {ι : Type} (h : EquivalenceOn R P) :
    EquivalenceOn (NamedAgree ι R) fun x => P x.2 where
  refl := fun hx => ⟨rfl, h.refl hx⟩
  symm := fun hx hy hxy => ⟨hxy.1.symm, h.symm hx hy hxy.2⟩
  trans := fun hx hy hz hxy hyz => ⟨hxy.1.trans hyz.1, h.trans hx hy hz hxy.2 hyz.2⟩

/-- The partners of distinct pairs are all the pairs there are. -/
theorem Matched.exists_partner (h : EquivalenceOn R P) {xs ys : List (α × α)}
    (hxs : ∀ x ∈ xs, P x.1 ∧ P x.2) (hys : ∀ y ∈ ys, P y.1 ∧ P y.2) (hd : DistinctUnder R xs)
    (hxy : Matched R xs ys) : ∀ y ∈ ys, ∃ x ∈ xs, PairAgree R x y := by
  refine ShapeMatch.exists_partner xs ys (Nat.le_of_eq hxy.1.symm) hxy.2 ?_
  refine List.Pairwise.imp_of_mem ?_ hd
  intro older newer holder hnewer hne y hy ho hn
  -- Two pairs with one partner would have related keys.
  have hback := h.symm (hxs newer hnewer).1 (hys y hy).1 hn.1
  exact hne (h.trans (hxs older holder).1 (hys y hy).1 (hxs newer hnewer).1 ho.1 hback)

theorem EquivalenceOn.matched (h : EquivalenceOn R P) :
    EquivalenceOn (Matched R) fun xs => (∀ x ∈ xs, P x.1 ∧ P x.2) ∧ DistinctUnder R xs where
  refl := by
    intro xs h'
    rcases h' with ⟨hxs, -⟩
    exact ⟨rfl, fun x hx => ⟨x, hx, h.pairAgree.refl (hxs x hx)⟩⟩
  symm := by
    intro xs ys hx hy hxy
    rcases hx with ⟨hxs, hdx⟩
    rcases hy with ⟨hys, -⟩
    -- The partners of `xs` are all of `ys`, so each pair of `ys` is one.
    refine ⟨hxy.1.symm, fun y hy => ?_⟩
    rcases hxy.exists_partner h hxs hys hdx y hy with ⟨x, hx, hagree⟩
    exact ⟨x, hx, h.pairAgree.symm (hxs x hx) (hys y hy) hagree⟩
  trans := by
    intro xs ys zs hx hy hz hxy hyz
    rcases hx with ⟨hxs, -⟩
    rcases hy with ⟨hys, -⟩
    rcases hz with ⟨hzs, -⟩
    refine ⟨hxy.1.trans hyz.1, fun x hx => ?_⟩
    rcases hxy.2 x hx with ⟨y, hy, hagree⟩
    rcases hyz.2 y hy with ⟨z, hz, hagree'⟩
    exact ⟨z, hz, h.pairAgree.trans (hxs x hx) (hys y hy) (hzs z hz) hagree hagree'⟩

end Pairs

end ShapeMatch
