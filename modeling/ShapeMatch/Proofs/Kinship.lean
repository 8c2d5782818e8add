import ShapeMatch.Proofs.Captures
import ShapeMatch.Proofs.Likeness

/-!
# Kinship of Bindings

Bindings that differ only in which of several equal values they hold.

A slot keeps the first value that was captured for it, so what bindings hold
depends on the order in which captures came, and merged bindings hold what the
earlier branch had. Two sets of bindings are akin if they bind the same slots
to equal values. Whatever a match does next with one of them, it can do with
the other, and the results are akin again. That a value is compared with the
kept one and not with those that were dropped makes no difference, because
equality of built values is transitive.

For the same reason the order of merging does not matter. Bindings merge iff
they are compatible, which is a condition on pairs, and three sets of bindings
can be merged iff any two of them can.

## Main definitions

* `Bindings.Akin`: The same slots bound to equal values.
* `Bindings.Compatible`: No slot bound to unequal values by the two.

## Theorems

* `exists_absorb?_iff`, `get?_absorb?`: When bindings merge, and what is bound then.
* `Akin.bind?`, `Akin.absorb?`: Akin bindings stay akin.
* `absorb?_comm`: Bindings can be merged in either order.
-/

namespace ShapeMatch

theorem Dictionary.get?_eq_lookup {κ ν : Type} [BEq κ] [LawfulBEq κ] (d : Dictionary κ ν)
    (key : κ) : d.get? key = d.entries.lookup key := by
  rcases d with ⟨stored⟩
  induction stored with
  | nil => rfl
  | cons entry rest ih =>
      rw [get?_cons, ih, List.lookup_cons, BEq.comm]
      cases key == entry.1 with
      | true => rfl
      | false => rfl

namespace Bindings

/-- The same slots bound to equal values, where bindings are as a match makes
    them. -/
structure Akin (b c : Bindings) : Prop where
  left : b.Sound
  right : c.Sound
  alike : ∀ slot, Option.Rel Value.Alike (b.get? slot) (c.get? slot)

/-- No slot is bound to unequal values by the two. -/
def Compatible (b c : Bindings) : Prop :=
  ∀ slot w u, b.get? slot = some w → c.get? slot = some u → w.Alike u

section Kinship

variable {b c d : Bindings}

theorem Sound.found (h : b.Sound) (slot : Slot) : ∀ w ∈ b.get? slot, w.Built :=
  fun _ hw => h.built_of_get? hw

theorem akin_self (h : b.Sound) : b.Akin b :=
  ⟨h, h, fun slot => Value.equivalenceOn_alike.optionRel.refl (h.found slot)⟩

theorem Akin.symm (h : b.Akin c) : c.Akin b :=
  ⟨h.right, h.left, fun slot =>
    Value.equivalenceOn_alike.optionRel.symm (h.left.found slot) (h.right.found slot) (h.alike slot)⟩

theorem Akin.trans (hbc : b.Akin c) (hcd : c.Akin d) : b.Akin d :=
  ⟨hbc.left, hcd.right, fun slot => Value.equivalenceOn_alike.optionRel.trans
    (hbc.left.found slot) (hbc.right.found slot) (hcd.right.found slot) (hbc.alike slot)
    (hcd.alike slot)⟩

theorem Akin.get?_eq_none (h : b.Akin c) {slot : Slot} (hb : b.get? slot = none) :
    c.get? slot = none := by
  have hrel := h.alike slot
  rw [hb] at hrel
  generalize c.get? slot = found at hrel
  cases hrel
  rfl

theorem Akin.exists_get? (h : b.Akin c) {slot : Slot} {w : Value} (hw : b.get? slot = some w) :
    ∃ u, c.get? slot = some u ∧ Value.Interchangeable w u := by
  have hrel := h.alike slot
  rw [hw] at hrel
  generalize hu : c.get? slot = found at hrel
  cases hrel with
  | some hwu => exact ⟨_, rfl, h.left.found slot w hw, h.right.found slot _ hu, hwu⟩

theorem Compatible.symm (hb : b.Sound) (hc : c.Sound) (h : b.Compatible c) : c.Compatible b :=
  fun slot u w hu hw => Value.equivalenceOn_alike.symm (hb.found slot w hw) (hc.found slot u hu)
    (h slot w u hw hu)

theorem Compatible.congr {b' c' : Bindings} (hb : b.Akin b') (hc : c.Akin c')
    (h : b.Compatible c) : b'.Compatible c' := by
  intro slot w' u' hw' hu'
  rcases hb.symm.exists_get? hw' with ⟨w, hw, hww⟩
  rcases hc.symm.exists_get? hu' with ⟨u, hu, huu⟩
  have hwu : Value.Interchangeable w u := ⟨hww.right, huu.right, h slot w u hw hu⟩
  exact ((hww.trans hwu).trans huu.symm).alike

end Kinship

section Merging

variable {merged merged' other other' m : Bindings}

theorem get?_absorb? (hother : other.Sound) (h : merged.absorb? other = some m) (slot : Slot) :
    m.get? slot = (merged.get? slot).or (other.get? slot) := by
  rw [((absorb?_eq_some_iff hother).mp h).1, get?_extend]
  exact congrArg _ (other.slots.get?_eq_lookup slot).symm

theorem Sound.absorb? (hmerged : merged.Sound) (hother : other.Sound)
    (h : merged.absorb? other = some m) : m.Sound := by
  rw [((absorb?_eq_some_iff hother).mp h).1]
  exact hmerged.extend _ hother.built

/-- Bindings merge iff they are compatible. -/
theorem exists_absorb?_iff (hother : other.Sound) :
    (∃ m, merged.absorb? other = some m) ↔ merged.Compatible other := by
  constructor
  · intro h slot w u hw hu
    rcases h with ⟨m, hm⟩
    rw [absorb?_eq_some_iff hother] at hm
    rcases hm with ⟨rfl, hcovers⟩
    rcases hcovers (slot, u) (hother.get?_iff_mem.mp hu) with ⟨w', hw', hwu⟩
    rw [get?_extend_of_eq_some _ hw, Option.some.injEq] at hw'
    exact hw' ▸ hwu
  · intro h
    refine ⟨merged.extend other.entries, (absorb?_eq_some_iff hother).mpr ⟨rfl, fun c hc => ?_⟩⟩
    have hget := hother.get?_iff_mem.mpr hc
    cases hw : merged.get? c.1 with
    | some w => exact ⟨w, get?_extend_of_eq_some _ hw, h c.1 w c.2 hw hget⟩
    | none =>
        -- The slot is new, and the merged bindings have it from the others.
        refine ⟨c.2, ?_, Value.equivalenceOn_alike.refl (hother.found c.1 c.2 hget)⟩
        rw [get?_extend, hw, Option.none_or]
        exact (other.slots.get?_eq_lookup c.1).symm.trans hget

theorem optionRel_of_exists_iff {α : Type} {R : α → α → Prop} {x y : Option α}
    (h : (∃ a, x = some a) ↔ ∃ b, y = some b) (hR : ∀ a b, x = some a → y = some b → R a b) :
    Option.Rel R x y := by
  cases x with
  | none =>
      cases y with
      | none => exact .none
      | some b => exact absurd (h.mpr ⟨b, rfl⟩) (by simp)
  | some a =>
      rcases h.mp ⟨a, rfl⟩ with ⟨b, rfl⟩
      exact .some (hR a b rfl rfl)

theorem bind?_of_unbound {b : Bindings} {slot : Slot} (h : b.get? slot = none) (v : Value) :
    b.bind? slot v = some (b.keep (slot, v)) := by
  unfold Bindings.bind? Bindings.keep
  rw [h]

theorem bind?_of_bound {b : Bindings} {slot : Slot} {u : Value} (h : b.get? slot = some u)
    (v : Value) : b.bind? slot v = if u.deepEqual v then some b else none := by
  unfold Bindings.bind?
  rw [h]

theorem Akin.bind? (h : merged.Akin merged') {v w : Value} (hvw : Value.Interchangeable v w)
    (slot : Slot) : Option.Rel Akin (merged.bind? slot v) (merged'.bind? slot w) := by
  cases hget : merged.get? slot with
  | none =>
      rw [bind?_of_unbound hget, bind?_of_unbound (h.get?_eq_none hget)]
      refine .some ⟨h.left.keep hvw.left, h.right.keep hvw.right, fun sought => ?_⟩
      rw [get?_keep, get?_keep]
      refine optionRel_or (h.alike sought) ?_
      split
      · exact .some hvw.alike
      · exact .none
  | some u =>
      rcases h.exists_get? hget with ⟨u', hget', huu⟩
      rw [bind?_of_bound hget, bind?_of_bound hget']
      -- Equal values are compared with equal values.
      have hiff : u.Alike v ↔ u'.Alike w :=
        ⟨fun huv => ((huu.symm.trans ⟨huu.left, hvw.left, huv⟩).trans hvw).alike,
          fun huw => ((huu.trans ⟨huu.right, hvw.right, huw⟩).trans hvw.symm).alike⟩
      by_cases huv : u.Alike v
      · rw [if_pos huv, if_pos (hiff.mp huv)]
        exact .some h
      · rw [if_neg huv, if_neg fun huw => huv (hiff.mpr huw)]
        exact .none

theorem Akin.absorb? (h : merged.Akin merged') (hother : other.Akin other') :
    Option.Rel Akin (merged.absorb? other) (merged'.absorb? other') := by
  refine optionRel_of_exists_iff ?_ fun m m' hm hm' => ⟨?_, ?_, fun slot => ?_⟩
  · rw [exists_absorb?_iff hother.left, exists_absorb?_iff hother.right]
    exact ⟨fun hc => hc.congr h hother, fun hc => hc.congr h.symm hother.symm⟩
  · exact h.left.absorb? hother.left hm
  · exact h.right.absorb? hother.right hm'
  · rw [get?_absorb? hother.left hm, get?_absorb? hother.right hm']
    exact optionRel_or (h.alike slot) (hother.alike slot)

section Twice

variable {x y : Bindings}

-- Two merges succeed iff no two of the three disagree.
theorem exists_absorb?_twice_iff (hmerged : merged.Sound) (hx : x.Sound) (hy : y.Sound) :
    (∃ m, (merged.absorb? x).bind (·.absorb? y) = some m) ↔
      merged.Compatible x ∧ merged.Compatible y ∧ x.Compatible y := by
  have hsplit : ∀ m, merged.absorb? x = some m →
      (m.Compatible y ↔ merged.Compatible y ∧ x.Compatible y) := by
    intro m hm
    have hget := get?_absorb? hx hm
    have hcompatible := (exists_absorb?_iff hx).mp ⟨m, hm⟩
    constructor
    · intro hmy
      have hmerged_y : merged.Compatible y := fun slot w u hw hu =>
        hmy slot w u (by rw [hget, hw, Option.some_or]) hu
      refine ⟨hmerged_y, fun slot w u hw hu => ?_⟩
      cases hw' : merged.get? slot with
      | none => exact hmy slot w u (by rw [hget, hw', Option.none_or, hw]) hu
      | some w' =>
          -- Both equal the value that was bound before.
          have hww := hcompatible slot w' w hw' hw
          have hwu := hmerged_y slot w' u hw' hu
          have hw'built := hmerged.found slot w' hw'
          have hwbuilt := hx.found slot w hw
          exact Value.equivalenceOn_alike.trans hwbuilt hw'built (hy.found slot u hu)
            (Value.equivalenceOn_alike.symm hw'built hwbuilt hww) hwu
    · intro hboth slot w u hw hu
      rw [hget, Option.or_eq_some_iff] at hw
      rcases hw with hw | ⟨-, hw⟩
      · exact hboth.1 slot w u hw hu
      · exact hboth.2 slot w u hw hu
  constructor
  · intro h
    rcases h with ⟨m', hm'⟩
    rcases Option.bind_eq_some_iff.mp hm' with ⟨m, hm, hmy⟩
    exact ⟨(exists_absorb?_iff hx).mp ⟨m, hm⟩,
      (hsplit m hm).mp ((exists_absorb?_iff hy).mp ⟨m', hmy⟩)⟩
  · intro h
    rcases (exists_absorb?_iff hx).mpr h.1 with ⟨m, hm⟩
    rcases (exists_absorb?_iff hy).mpr ((hsplit m hm).mpr h.2) with ⟨m', hm'⟩
    exact ⟨m', Option.bind_eq_some_iff.mpr ⟨m, hm, hm'⟩⟩

theorem get?_absorb?_twice (hx : x.Sound) (hy : y.Sound)
    (h : (merged.absorb? x).bind (·.absorb? y) = some m) (slot : Slot) :
    m.get? slot = (merged.get? slot).or ((x.get? slot).or (y.get? slot)) := by
  rcases Option.bind_eq_some_iff.mp h with ⟨m', hm', hm⟩
  rw [get?_absorb? hy hm, get?_absorb? hx hm', Option.or_assoc]

theorem Sound.absorb?_twice (hmerged : merged.Sound) (hx : x.Sound) (hy : y.Sound)
    (h : (merged.absorb? x).bind (·.absorb? y) = some m) : m.Sound := by
  rcases Option.bind_eq_some_iff.mp h with ⟨m', hm', hm⟩
  exact (hmerged.absorb? hx hm').absorb? hy hm

/-- Two sets of bindings can be merged in either order. The order decides only
    which of equal values is kept. -/
theorem absorb?_comm {x' y' : Bindings} (hmerged : merged.Sound) (hx : x.Akin x')
    (hy : y.Akin y') :
    Option.Rel Akin ((merged.absorb? x).bind (·.absorb? y))
      ((merged.absorb? y').bind (·.absorb? x')) := by
  have hself := akin_self hmerged
  refine optionRel_of_exists_iff ?_ fun m m' hm hm' => ⟨hmerged.absorb?_twice hx.left hy.left hm,
    hmerged.absorb?_twice hy.right hx.right hm', fun slot => ?_⟩
  · rw [exists_absorb?_twice_iff hmerged hx.left hy.left,
      exists_absorb?_twice_iff hmerged hy.right hx.right]
    constructor
    · intro h
      exact ⟨h.2.1.congr hself hy, h.1.congr hself hx,
        (h.2.2.congr hx hy).symm hx.right hy.right⟩
    · intro h
      exact ⟨h.2.1.congr hself hx.symm, h.1.congr hself hy.symm,
        (h.2.2.congr hy.symm hx.symm).symm hy.left hx.left⟩
  · have hcompatible := ((exists_absorb?_twice_iff hmerged hx.left hy.left).mp ⟨m, hm⟩).2.2
    rw [get?_absorb?_twice hx.left hy.left hm, get?_absorb?_twice hy.right hx.right hm']
    refine optionRel_or (hself.alike slot) ?_
    cases hw : x.get? slot with
    | none =>
        rw [hx.get?_eq_none hw, Option.none_or, Option.or_none]
        exact hy.alike slot
    | some w =>
        rcases hx.exists_get? hw with ⟨w', hw', hww⟩
        rw [hw', Option.some_or]
        cases hu : y.get? slot with
        | none =>
            rw [hy.get?_eq_none hu]
            exact .some hww.alike
        | some u =>
            rcases hy.exists_get? hu with ⟨u', hu', huu⟩
            rw [hu', Option.some_or]
            have hwu := hcompatible slot w u hw hu
            exact .some (Value.Interchangeable.trans ⟨hww.left, huu.left, hwu⟩ huu).alike

end Twice

end Merging

end Bindings

end ShapeMatch
