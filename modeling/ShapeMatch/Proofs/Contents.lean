import Mathlib.Data.List.Nodup
import ShapeMatch.Proofs.Commits
import ShapeMatch.Proofs.Kinship

/-!
# Contents of Bindings

Bindings up to the order of their entries.

The entries of bindings have an order, because they are a list. Nothing that is
done with bindings depends on it. A look-up goes by the slot, and no slot is
bound twice. A merge takes the entries of one side in their order and stops at
the first that disagrees; whether there is one, and what is bound in the end if
there is none, is the same for all orders. A commit writes each slot once. And
the text sorts the entries by the texts of their slots, of which no two are
equal.

## Main definitions

* `Bindings.SameContents`: The same values under the same slots.
* `Bindings.inOrder`: The entries put in another order.
* `Store.SameContents`: The same values under the same slots, and as many contexts.
* `Store.commitInOrder`: A commit that takes entries and groups in any order.

## Theorems

* `mergeSort_eq_of_perm`: Sorting by distinct names forgets the order.
* `sameContents_inOrder`: Another order has the same contents.
* `SameContents.bind?`, `SameContents.absorb?`: Binding and merging.
* `SameContents.perm`: The same contents are the same entries in some order.
* `SameContents.debug_eq`: The same contents have the same text.
* `get?_commitInOrder`: A commit in any order writes the same.
* `SameContents.commitInOrder`: Commits of the same contents.
-/

namespace ShapeMatch

namespace Dictionary

variable {κ ν : Type} [BEq κ] [LawfulBEq κ]

theorem distinct_iff_nodup {d : Dictionary κ ν} : d.Distinct ↔ d.keys.Nodup := by
  unfold Distinct List.Nodup
  constructor
  · exact fun h => h.imp fun hne => beq_eq_false_iff_ne.mp hne
  · exact fun h => h.imp fun hne => beq_eq_false_iff_ne.mpr hne

/-- Entries in another order are distinct again. -/
theorem Distinct.perm {d e : Dictionary κ ν} (h : d.Distinct) (hperm : e.entries.Perm d.entries) :
    e.Distinct := by
  rw [distinct_iff_nodup] at h ⊢
  exact (hperm.map Prod.fst).nodup_iff.mpr h

/-- With distinct keys, look-ups find the same whatever the order of the entries. -/
theorem get?_of_perm {d e : Dictionary κ ν} (h : d.Distinct) (hperm : e.entries.Perm d.entries)
    (key : κ) : e.get? key = d.get? key := by
  refine Option.ext fun value => ?_
  rw [get?_iff_mem h, get?_iff_mem (h.perm hperm), hperm.mem_iff]

end Dictionary

/-- Sorting by name comes to the same for all orders, if no two have one name. -/
theorem mergeSort_eq_of_perm {α : Type} {xs ys : List (String × α)} (h : xs.Perm ys)
    (hunique : ∀ x ∈ xs, ∀ y ∈ xs, x.1 = y.1 → x = y) :
    (xs.mergeSort fun x y => x.1 ≤ y.1) = ys.mergeSort fun x y => x.1 ≤ y.1 := by
  have hsorted : ∀ zs : List (String × α), (zs.mergeSort fun x y => x.1 ≤ y.1).Pairwise
      fun x y => decide (x.1 ≤ y.1) = true := by
    intro zs
    refine List.pairwise_mergeSort (fun x y z hxy hyz => ?_) (fun x y => ?_) zs
    · rw [decide_eq_true_iff] at *
      exact String.le_trans hxy hyz
    · rw [Bool.or_eq_true, decide_eq_true_iff, decide_eq_true_iff]
      exact String.le_total x.1 y.1
  -- Both are sorted and have the same members, of which only equal ones can
  -- stand in either order.
  refine List.Perm.eq_of_pairwise ?_ (hsorted xs) (hsorted ys)
    (((List.mergeSort_perm _ _).trans h).trans (List.mergeSort_perm _ _).symm)
  intro x y hx hy hxy hyx
  rw [List.mem_mergeSort] at hx hy
  rw [decide_eq_true_iff] at hxy hyx
  exact hunique x hx y (h.mem_iff.mpr hy) (String.le_antisymm hxy hyx)

namespace Bindings

/-- The same values under the same slots, in whatever order. -/
structure SameContents (b c : Bindings) : Prop where
  left : b.Sound
  right : c.Sound
  same : ∀ slot, b.get? slot = c.get? slot

/-- The bindings with their entries in another order. -/
def inOrder (b : Bindings) (order : List Capture → List Capture) : Bindings :=
  ⟨⟨order b.entries⟩⟩

section Order

variable {b c : Bindings} {order : List Capture → List Capture}

theorem Sound.inOrder (h : b.Sound) (hperm : (order b.entries).Perm b.entries) :
    (b.inOrder order).Sound :=
  ⟨h.distinct.perm hperm, fun entry hentry => h.built entry (hperm.mem_iff.mp hentry)⟩

theorem sameContents_inOrder (h : b.Sound) (hperm : (order b.entries).Perm b.entries) :
    b.SameContents (b.inOrder order) :=
  ⟨h, h.inOrder hperm, fun slot => (Dictionary.get?_of_perm h.distinct hperm slot).symm⟩

theorem SameContents.trans {d : Bindings} (hbc : b.SameContents c) (hcd : c.SameContents d) :
    b.SameContents d :=
  ⟨hbc.left, hcd.right, fun slot => (hbc.same slot).trans (hcd.same slot)⟩

theorem SameContents.mem_iff (h : b.SameContents c) (entry : Capture) :
    entry ∈ b.entries ↔ entry ∈ c.entries := by
  rw [← h.left.get?_iff_mem, ← h.right.get?_iff_mem, h.same]

theorem SameContents.perm (h : b.SameContents c) : b.entries.Perm c.entries := by
  have hnodup : ∀ {d : Bindings}, d.Sound → d.entries.Nodup := fun hd =>
    List.Nodup.of_map Prod.fst (Dictionary.distinct_iff_nodup.mp hd.distinct)
  rw [List.perm_ext_iff_of_nodup (hnodup h.left) (hnodup h.right)]
  exact h.mem_iff

end Order

section Operations

variable {b c m m' : Bindings}

theorem SameContents.bind? (h : b.SameContents c) (slot : Slot) {v : Value} (hv : v.Built) :
    Option.Rel SameContents (b.bind? slot v) (c.bind? slot v) := by
  have hkeep : (b.keep (slot, v)).SameContents (c.keep (slot, v)) :=
    ⟨h.left.keep hv, h.right.keep hv, fun other => by rw [get?_keep, get?_keep, h.same]⟩
  have hget := h.same slot
  unfold Bindings.bind?
  unfold keep at hkeep
  simp only [hget] at hkeep ⊢
  cases hbound : c.get? slot with
  | none =>
      simp only [hbound] at hkeep
      exact .some hkeep
  | some bound =>
      by_cases hequal : bound.deepEqual v = true
      · simp only [if_pos hequal]
        exact .some h
      · simp only [if_neg hequal]
        exact .none

theorem SameContents.compatible_iff (hm : m.SameContents m') (h : b.SameContents c) :
    m.Compatible b ↔ m'.Compatible c := by
  unfold Compatible
  simp only [hm.same, h.same]

/-- Whether bindings merge, and what is bound then, does not depend on any
    order. -/
theorem SameContents.absorb? (hm : m.SameContents m') (h : b.SameContents c) :
    Option.Rel SameContents (m.absorb? b) (m'.absorb? c) := by
  refine optionRel_of_exists_iff ?_ fun d d' hd hd' => ⟨hm.left.absorb? h.left hd,
    hm.right.absorb? h.right hd', fun slot => ?_⟩
  · rw [exists_absorb?_iff h.left, exists_absorb?_iff h.right]
    exact hm.compatible_iff h
  · rw [get?_absorb? h.left hd, get?_absorb? h.right hd', hm.same, h.same]

/-- The text of bindings does not depend on the order of their entries. -/
theorem SameContents.debug_eq (h : b.SameContents c) : b.debug = c.debug := by
  have hsorted := mergeSort_eq_of_perm
    (h.perm.map fun entry => (entry.1.display, entry.2.debug)) ?unique
  · simp only [debug, hsorted]
  -- No two slots have the same text, and no slot is bound twice.
  case unique =>
    intro x hx y hy hname
    rcases List.mem_map.mp hx with ⟨⟨slot, v⟩, hv, rfl⟩
    rcases List.mem_map.mp hy with ⟨⟨slot', w⟩, hw, rfl⟩
    have hslot : slot = slot' := Slot.display_injective hname
    rw [← h.left.get?_iff_mem] at hv hw
    rw [← hslot, hv, Option.some.injEq] at hw
    rw [hslot, hw]

end Operations

end Bindings

namespace Store

/-- The same values under the same slots, and as many contexts. -/
structure SameContents (store store' : Store) : Prop where
  created : store.created = store'.created
  same : ∀ slot, store.get? slot = store'.get? slot

/-- A commit that takes the bindings in one order and their groups in another. -/
def commitInOrder (store : Store) (slotOrder : List Capture → List Capture)
    (groupOrder : List (ContextId × List (String × Value)) →
      List (ContextId × List (String × Value))) (b : Bindings) : Store :=
  (groupOrder (b.inOrder slotOrder).groups.entries).foldl
    (fun store group => store.write group.1 group.2) store

/-- A commit in any order writes the bound slots over what was there. -/
theorem get?_commitInOrder (store : Store) {slotOrder : List Capture → List Capture}
    {groupOrder : List (ContextId × List (String × Value)) →
      List (ContextId × List (String × Value))}
    (hslots : ∀ xs, (slotOrder xs).Perm xs) (hgroups : ∀ xs, (groupOrder xs).Perm xs)
    {b : Bindings} (h : b.slots.Distinct) (slot : Slot) :
    (store.commitInOrder slotOrder groupOrder b).get? slot =
      (b.get? slot).or (store.get? slot) := by
  change (store.commitInOrder slotOrder groupOrder b).slots.get? slot = _
  unfold commitInOrder
  rw [slots_foldl_write]
  refine get?_insertAll_of_mem_iff h (fun c => ?_) store.slots slot
  -- The groups have the same members in whatever order they are written.
  rw [((hgroups _).flatMap_right _).mem_iff]
  exact ((b.inOrder slotOrder).mem_inOrderOfGroups c).trans (hslots b.entries).mem_iff

/-- The same contents are committed to the same effect, in any order. -/
theorem SameContents.commitInOrder {store store' : Store} (h : store.SameContents store')
    {b c : Bindings} (hbc : b.SameContents c) {slotOrder : List Capture → List Capture}
    {groupOrder : List (ContextId × List (String × Value)) →
      List (ContextId × List (String × Value))}
    (hslots : ∀ xs, (slotOrder xs).Perm xs) (hgroups : ∀ xs, (groupOrder xs).Perm xs) :
    (store.commit b).SameContents (store'.commitInOrder slotOrder groupOrder c) where
  created := (created_foldl_write _ _).trans (h.created.trans (created_foldl_write _ _).symm)
  same slot := by
    rw [get?_commit store hbc.left.distinct,
      get?_commitInOrder store' hslots hgroups hbc.right.distinct, hbc.same, h.same]

end Store

end ShapeMatch
