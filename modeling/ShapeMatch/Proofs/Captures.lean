import Mathlib.Data.List.Induction
import ShapeMatch.Bindings
import ShapeMatch.Proofs.DeepEquality

/-!
# Captures and Bindings

What bindings become when captures are added to them.

A match adds captures one at a time, checks each against the value that its
slot already has, and at a conjunction merges whole sets of bindings. Here the
two concerns are apart. `Bindings.extend` says where a list of captures leads
if nothing is checked: the first value of a slot stays. `Bindings.Covers` is
the check, all of it at once and at the end.

That the order of checks does not matter rests on deep equality being an
equivalence. A branch of a conjunction compares captures with its own copy of
the bindings, and a merge compares what two branches ended with;
`absorb?_branch_iff` says that both together amount to comparing the captures
of the branch with the merged bindings.

## Main definitions

* `Capture`: A value captured for a slot.
* `Consistent`: All captures of a slot are equal.
* `Bindings.keep`, `Bindings.extend`: Captures added, the first of a slot kept.
* `Bindings.Covers`: Every capture equals the value of its slot.
* `Bindings.Sound`: One value for a slot, and a built one.

## Theorems

* `get?_extend`: A slot keeps its value, or has the first one captured.
* `covers_extend_append`: Captures are covered part by part.
* `bind?_eq_some_iff`, `absorb?_eq_some_iff`: What a check leads to.
* `extend_entries_extend`: A merge adds what the branch has captured.
* `absorb?_branch_iff`: A branch and its merge, checked at once.
* `covers_extend_empty_iff`: Captures cover themselves iff they are consistent.
-/

namespace ShapeMatch

/-- A value captured for a slot. -/
abbrev Capture := Slot × Value

/-- All captures of a slot are equal. -/
def Consistent (captures : List Capture) : Prop :=
  ∀ c ∈ captures, ∀ d ∈ captures, c.1 = d.1 → c.2.deepEqual d.2 = true

namespace Bindings

/-- Bind the slot of a capture, unless it is bound. -/
def keep (b : Bindings) (c : Capture) : Bindings :=
  match b.get? c.1 with
  | some _ => b
  | none => ⟨b.slots.insert c.1 c.2⟩

/-- Bind the slots of captures in turn, unless they are bound. -/
def extend (b : Bindings) (captures : List Capture) : Bindings := captures.foldl keep b

/-- Every capture equals the value that its slot is bound to. -/
def Covers (b : Bindings) (captures : List Capture) : Prop :=
  ∀ c ∈ captures, ∃ w, b.get? c.1 = some w ∧ w.Alike c.2

/-- Bindings that a match can come to: no slot is bound twice, and the values
    are built. -/
structure Sound (b : Bindings) : Prop where
  distinct : b.slots.Distinct
  built : ∀ c ∈ b.entries, c.2.Built

section Extension

theorem extend_cons (b : Bindings) (c : Capture) (rest : List Capture) :
    b.extend (c :: rest) = (b.keep c).extend rest := rfl

theorem extend_append (b : Bindings) (first rest : List Capture) :
    b.extend (first ++ rest) = (b.extend first).extend rest :=
  List.foldl_append

theorem keep_of_bound {b : Bindings} {c : Capture} (h : (b.get? c.1).isSome) : b.keep c = b := by
  rcases Option.isSome_iff_exists.mp h with ⟨w, hw⟩
  rw [keep, hw]

theorem keep_of_unbound {b : Bindings} {c : Capture} (h : b.get? c.1 = none) :
    b.keep c = ⟨⟨b.entries ++ [c]⟩⟩ := by
  rw [keep, h]
  exact congrArg Bindings.mk (Dictionary.insert_of_get?_eq_none b.slots c.1 c.2 h)

theorem get?_keep (b : Bindings) (c : Capture) (slot : Slot) :
    (b.keep c).get? slot = (b.get? slot).or (if (c.1 == slot) = true then some c.2 else none) := by
  cases hc : b.get? c.1 with
  | none =>
      rw [keep, hc]
      refine (Dictionary.get?_insert b.slots c.1 c.2 slot).trans ?_
      by_cases hslot : (c.1 == slot) = true
      · rw [if_pos hslot, if_pos hslot, ← beq_iff_eq.mp hslot, hc, Option.none_or]
      · rw [if_neg hslot, if_neg hslot, Option.or_none]
        rfl
  | some w =>
      rw [keep, hc]
      by_cases hslot : (c.1 == slot) = true
      · rw [← beq_iff_eq.mp hslot, hc, Option.some_or]
      · rw [if_neg hslot, Option.or_none]

/-- A slot keeps its value, and otherwise has the first one captured for it. -/
theorem get?_extend (captures : List Capture) :
    ∀ (b : Bindings) (slot : Slot),
      (b.extend captures).get? slot = (b.get? slot).or (captures.lookup slot) := by
  induction captures with
  | nil => exact fun b slot => Option.or_none.symm
  | cons c rest ih =>
      intro b slot
      rw [extend_cons, ih, get?_keep, Option.or_assoc, List.lookup_cons, BEq.comm]
      cases slot == c.1 with
      | true => rfl
      | false => rfl

theorem get?_extend_of_eq_some {b : Bindings} {slot : Slot} {w : Value} (captures : List Capture)
    (h : b.get? slot = some w) : (b.extend captures).get? slot = some w := by
  rw [get?_extend, h, Option.some_or]

theorem get?_extend_empty (captures : List Capture) (slot : Slot) :
    (empty.extend captures).get? slot = captures.lookup slot := by
  rw [get?_extend]
  exact Option.none_or

theorem mem_of_lookup {captures : List Capture} {slot : Slot} {w : Value}
    (h : captures.lookup slot = some w) : (slot, w) ∈ captures := by
  rcases List.lookup_eq_some_iff.mp h with ⟨before, after, rfl, -⟩
  exact List.mem_append_right before List.mem_cons_self

theorem isSome_lookup {captures : List Capture} {c : Capture} (h : c ∈ captures) :
    (captures.lookup c.1).isSome := by
  rw [List.lookup_isSome_iff]
  exact ⟨c, h, beq_self_eq_true c.1⟩

-- Nothing changes if all the slots are bound.
theorem extend_of_bound (captures : List Capture) (b : Bindings)
    (h : ∀ c ∈ captures, (b.get? c.1).isSome) : b.extend captures = b := by
  induction captures with
  | nil => rfl
  | cons c rest ih =>
      rw [extend_cons, keep_of_bound (h c List.mem_cons_self)]
      exact ih fun d hd => h d (List.mem_cons_of_mem _ hd)

theorem isSome_get?_of_mem {b : Bindings} {c : Capture} (h : c ∈ b.entries) :
    (b.get? c.1).isSome := by
  rw [Option.isSome_iff_ne_none]
  intro hnone
  have hne := Dictionary.get?_eq_none_iff.mp hnone c h
  rw [beq_self_eq_true] at hne
  exact Bool.noConfusion hne

/-- Adding the entries of extended bindings adds the captures they were
    extended by, where the slots of the old bindings are bound already. -/
theorem extend_entries_extend (merged b : Bindings)
    (h : ∀ c ∈ b.entries, (merged.get? c.1).isSome) (captures : List Capture) :
    merged.extend (b.extend captures).entries = merged.extend captures := by
  -- From the right, since the last capture is the last entry, if it is one.
  induction captures using List.reverseRecOn with
  | nil => exact extend_of_bound b.entries merged h
  | append_singleton captures c ih =>
      rw [extend_append, extend_append, extend_cons, extend_cons]
      change merged.extend ((b.extend captures).keep c).entries = (merged.extend captures).keep c
      cases hc : (b.extend captures).get? c.1 with
      | none =>
          rw [keep_of_unbound hc]
          change merged.extend ((b.extend captures).entries ++ [c]) = _
          rw [extend_append, ih]
          rfl
      | some w =>
          -- The slot is bound on both sides, by an old entry or by a capture.
          rw [keep_of_bound (Option.isSome_of_eq_some hc), ih, keep_of_bound]
          rw [get?_extend] at hc ⊢
          cases hb : b.get? c.1 with
          | none =>
              rw [hb, Option.none_or] at hc
              rw [hc, Option.isSome_or, Option.isSome_some, Bool.or_true]
          | some w' =>
              rcases Dictionary.exists_mem_of_get? hb with ⟨slot, hmem, hslot⟩
              have hbound := h _ hmem
              rw [beq_iff_eq.mp hslot] at hbound
              rw [Option.isSome_or, hbound, Bool.true_or]

end Extension

section Soundness

theorem sound_empty : empty.Sound :=
  ⟨Dictionary.distinct_empty, fun _ h => absurd h List.not_mem_nil⟩

theorem Sound.keep {b : Bindings} (h : b.Sound) {c : Capture} (hc : c.2.Built) :
    (b.keep c).Sound := by
  cases hget : b.get? c.1 with
  | none =>
      constructor
      · rw [Bindings.keep, hget]
        exact Dictionary.distinct_insert b.slots c.1 c.2 h.distinct
      · rw [keep_of_unbound hget]
        intro d hd
        rcases List.mem_append.mp hd with hd | hd
        · exact h.built d hd
        · rw [List.mem_singleton.mp hd]
          exact hc
  | some w =>
      rw [keep_of_bound (Option.isSome_of_eq_some hget)]
      exact h

theorem Sound.extend (captures : List Capture) :
    ∀ {b : Bindings}, b.Sound → (∀ c ∈ captures, c.2.Built) → (b.extend captures).Sound := by
  induction captures with
  | nil => exact fun h _ => h
  | cons c rest ih =>
      intro b h hbuilt
      exact ih (h.keep (hbuilt c List.mem_cons_self)) fun d hd => hbuilt d (List.mem_cons_of_mem _ hd)

theorem Sound.get?_iff_mem {b : Bindings} (h : b.Sound) {slot : Slot} {w : Value} :
    b.get? slot = some w ↔ (slot, w) ∈ b.entries :=
  Dictionary.get?_iff_mem h.distinct

theorem Sound.built_of_get? {b : Bindings} (h : b.Sound) {slot : Slot} {w : Value}
    (hget : b.get? slot = some w) : w.Built :=
  h.built (slot, w) (h.get?_iff_mem.mp hget)

end Soundness

section Coverage

theorem covers_nil (b : Bindings) : b.Covers [] := fun _ h => absurd h List.not_mem_nil

theorem covers_append {b : Bindings} {first rest : List Capture} :
    b.Covers (first ++ rest) ↔ b.Covers first ∧ b.Covers rest :=
  List.forall_mem_append

theorem Covers.extend {b : Bindings} {captures : List Capture} (h : b.Covers captures)
    (more : List Capture) : (b.extend more).Covers captures := by
  intro c hc
  rcases h c hc with ⟨w, hw, hwc⟩
  exact ⟨w, get?_extend_of_eq_some more hw, hwc⟩

-- What later captures are bound to does not show in the earlier ones.
theorem Covers.of_extend {b : Bindings} {captures more : List Capture}
    (h : ((b.extend captures).extend more).Covers captures) : (b.extend captures).Covers captures := by
  intro c hc
  rcases h c hc with ⟨w, hw, hwc⟩
  -- The capture itself has bound the slot, if nothing before did.
  have hbound : ((b.extend captures).get? c.1).isSome := by
    rw [get?_extend, Option.isSome_or, isSome_lookup hc, Bool.or_true]
  rcases Option.isSome_iff_exists.mp hbound with ⟨w', hw'⟩
  rw [get?_extend_of_eq_some more hw', Option.some.injEq] at hw
  exact ⟨w', hw', hw ▸ hwc⟩

/-- To cover captures in two parts, the first part is checked with what it leads
    to, and the second with what both lead to. -/
theorem covers_extend_append (b : Bindings) (first rest : List Capture) :
    (b.extend (first ++ rest)).Covers (first ++ rest) ↔
      (b.extend first).Covers first ∧ ((b.extend first).extend rest).Covers rest := by
  rw [extend_append, covers_append]
  refine and_congr_left fun _ => ?_
  constructor
  · exact Covers.of_extend
  · exact fun h => h.extend rest

theorem bind?_eq_some_iff {b b' : Bindings} {c : Capture} (hc : c.2.Built) :
    b.bind? c.1 c.2 = some b' ↔ b' = b.keep c ∧ b'.Covers [c] := by
  unfold bind? keep Covers
  simp only [List.forall_mem_singleton]
  cases hget : b.get? c.1 with
  | none =>
      simp only [Option.some.injEq]
      constructor
      · intro h
        refine ⟨h.symm, c.2, ?_, Value.equivalenceOn_alike.refl hc⟩
        rw [← h]
        refine (Dictionary.get?_insert b.slots c.1 c.2 c.1).trans ?_
        rw [if_pos (beq_self_eq_true c.1)]
      · exact fun h => h.1.symm
  | some w =>
      by_cases hw : w.deepEqual c.2 = true
      · simp only [if_pos hw, Option.some.injEq]
        exact ⟨fun h => ⟨h.symm, w, h ▸ hget, hw⟩, fun h => h.1.symm⟩
      · -- The slot keeps its value, which does not cover the capture.
        simp only [if_neg hw, reduceCtorEq, false_iff]
        intro hkept
        rcases hkept with ⟨rfl, w', hw', hwc⟩
        rw [hget, Option.some.injEq] at hw'
        exact hw (hw' ▸ hwc)

theorem foldlM_bind?_eq_some_iff (captures : List Capture) :
    ∀ {b b' : Bindings}, (∀ c ∈ captures, c.2.Built) →
      (captures.foldlM (fun merged c => merged.bind? c.1 c.2) b = some b' ↔
        b' = b.extend captures ∧ b'.Covers captures) := by
  induction captures with
  | nil =>
      intro b b' _
      rw [List.foldlM_nil]
      exact ⟨fun h => ⟨(Option.some.inj h).symm, covers_nil b'⟩, fun h => congrArg some h.1.symm⟩
  | cons c rest ih =>
      intro b b' hbuilt
      have hrest : ∀ d ∈ rest, d.2.Built := fun d hd => hbuilt d (List.mem_cons_of_mem _ hd)
      have hsplit : (b.extend (c :: rest)).Covers (c :: rest) ↔
          (b.keep c).Covers [c] ∧ ((b.keep c).extend rest).Covers rest :=
        covers_extend_append b [c] rest
      rw [List.foldlM_cons, Option.bind_eq_bind, Option.bind_eq_some_iff]
      constructor
      · intro hboth
        rcases hboth with ⟨m, hm, hfold⟩
        rw [bind?_eq_some_iff (hbuilt c List.mem_cons_self)] at hm
        rcases hm with ⟨rfl, hcovers⟩
        rw [ih hrest] at hfold
        rcases hfold with ⟨rfl, hcovers'⟩
        exact ⟨rfl, hsplit.mpr ⟨hcovers, hcovers'⟩⟩
      · intro hboth
        rcases hboth with ⟨rfl, hcovers⟩
        rw [hsplit] at hcovers
        exact ⟨b.keep c,
          (bind?_eq_some_iff (hbuilt c List.mem_cons_self)).mpr ⟨rfl, hcovers.1⟩,
          (ih hrest).mpr ⟨rfl, hcovers.2⟩⟩

-- A merge succeeds iff the merged bindings cover what was merged.
theorem absorb?_eq_some_iff {b b' other : Bindings} (h : other.Sound) :
    b.absorb? other = some b' ↔ b' = b.extend other.entries ∧ b'.Covers other.entries :=
  foldlM_bind?_eq_some_iff other.entries h.built

/-- A branch that starts from the bindings `parent` and the merge of its result
    both succeed iff the merged bindings cover the captures of the branch. -/
theorem absorb?_branch_iff {parent merged merged' : Bindings} {captures : List Capture}
    (hparent : parent.Sound) (hmerged : merged.Sound) (hbuilt : ∀ c ∈ captures, c.2.Built)
    (hsub : ∀ slot w, parent.get? slot = some w → merged.get? slot = some w) :
    (parent.extend captures).Covers captures ∧
        merged.absorb? (parent.extend captures) = some merged' ↔
      merged' = merged.extend captures ∧ merged'.Covers captures := by
  have hbranch : (parent.extend captures).Sound := Sound.extend captures hparent hbuilt
  have hresult : (merged.extend captures).Sound := Sound.extend captures hmerged hbuilt
  have halike := Value.equivalenceOn_alike
  have hentries := extend_entries_extend merged parent (fun c hc => by
    rcases Option.isSome_iff_exists.mp (isSome_get?_of_mem hc) with ⟨w, hw⟩
    exact Option.isSome_of_eq_some (hsub c.1 w hw)) captures
  rw [absorb?_eq_some_iff hbranch, hentries]
  constructor
  · intro hboth
    rcases hboth with ⟨hcovers, rfl, hmerge⟩
    refine ⟨rfl, fun c hc => ?_⟩
    -- The branch compared the capture with `w`, and the merge compared `w`.
    rcases hcovers c hc with ⟨w, hw, hwc⟩
    rcases hmerge (c.1, w) (hbranch.get?_iff_mem.mp hw) with ⟨w', hw', hww⟩
    exact ⟨w', hw', halike.trans (hresult.built_of_get? hw') (hbranch.built_of_get? hw)
      (hbuilt c hc) hww hwc⟩
  · intro hboth
    rcases hboth with ⟨rfl, hcovers⟩
    -- First the checks within the branch, then those of the merge.
    refine ⟨fun c hc => ?_, rfl, fun entry hentry => ?_⟩
    · rcases hcovers c hc with ⟨w, hw, hwc⟩
      cases hget : parent.get? c.1 with
      | some w' =>
          rw [get?_extend_of_eq_some captures (hsub c.1 w' hget), Option.some.injEq] at hw
          exact ⟨w', get?_extend_of_eq_some captures hget, hw ▸ hwc⟩
      | none =>
          -- The branch has bound the slot itself, perhaps by another capture.
          rcases Option.isSome_iff_exists.mp (isSome_lookup hc) with ⟨w', hw'⟩
          rcases hcovers (c.1, w') (mem_of_lookup hw') with ⟨w'', hw'', hww⟩
          rw [hw, Option.some.injEq] at hw''
          refine ⟨w', by rw [get?_extend, hget, Option.none_or, hw'], ?_⟩
          have hbw := hresult.built_of_get? hw
          have hbw' := hbuilt (c.1, w') (mem_of_lookup hw')
          exact halike.trans hbw' hbw (hbuilt c hc) (halike.symm hbw hbw' (hw'' ▸ hww)) hwc
    · have hget := hbranch.get?_iff_mem.mpr hentry
      rw [get?_extend] at hget
      cases hp : parent.get? entry.1 with
      | some w =>
          rw [hp, Option.some_or, Option.some.injEq] at hget
          exact ⟨entry.2, get?_extend_of_eq_some captures (hsub _ _ (hget ▸ hp)),
            halike.refl (hbranch.built entry hentry)⟩
      | none =>
          rw [hp, Option.none_or] at hget
          exact hcovers entry (mem_of_lookup hget)

/-- Captures cover themselves iff they are consistent. -/
theorem covers_extend_empty_iff {captures : List Capture} (hbuilt : ∀ c ∈ captures, c.2.Built) :
    (empty.extend captures).Covers captures ↔ Consistent captures := by
  have hsound : (empty.extend captures).Sound := Sound.extend captures sound_empty hbuilt
  have halike := Value.equivalenceOn_alike
  constructor
  · intro hcovers c hc d hd hslot
    rcases hcovers c hc with ⟨w, hw, hwc⟩
    rcases hcovers d hd with ⟨w', hw', hwd⟩
    rw [← hslot, hw, Option.some.injEq] at hw'
    have hbw := hsound.built_of_get? hw
    exact halike.trans (hbuilt c hc) hbw (hbuilt d hd) (halike.symm hbw (hbuilt c hc) hwc)
      (hw' ▸ hwd)
  · intro hconsistent c hc
    rcases Option.isSome_iff_exists.mp (isSome_lookup hc) with ⟨w, hw⟩
    exact ⟨w, (get?_extend_empty captures c.1).trans hw,
      hconsistent (c.1, w) (mem_of_lookup hw) c hc rfl⟩

end Coverage

end Bindings

end ShapeMatch
