import ShapeMatch.Proofs.Insertions
import ShapeMatch.Store

/-!
# Commits

What a slot reads after bindings have been committed.

A commit takes bindings apart, sorts them by context, and writes the groups one
after another. If no slot is bound twice, none of this shows. Every binding
ends up in exactly one group, so the writes of a commit are the bindings in
some order, and since no two of them go to the same slot, the order does not
matter.

So a store that starts empty is described by the list of all bindings that
were committed to it: a slot reads what it had in the latest of them that
binds it.

## Main definitions

* `Bindings.inOrderOfGroups`: The bindings in the order in which they are
  written.
* `latest`: The value of a slot in the latest bindings that have it.

## Theorems

* `mem_inOrderOfGroups`: Grouping neither loses bindings nor makes any up.
* `get?_insertAll_of_mem_iff`: It does not matter in which order bindings are
  written.
* `get?_commit`: A commit writes over what was there, and nothing else.
* `latest_append`: Later bindings come before earlier ones.
-/

namespace ShapeMatch

namespace Bindings

/-- The bindings of groups, one group after another. -/
def ungrouped (groups : Dictionary ContextId (List (String × Value))) : List (Slot × Value) :=
  groups.entries.flatMap fun group => group.2.map fun slot => (⟨group.1, slot.1⟩, slot.2)

/-- The bindings in the order in which a commit writes them. -/
def inOrderOfGroups (b : Bindings) : List (Slot × Value) := ungrouped b.groups

theorem mem_ungrouped_addToGroup (groups : Dictionary ContextId (List (String × Value)))
    (entry c : Slot × Value) :
    c ∈ ungrouped (addToGroup groups entry) ↔ c ∈ ungrouped groups ∨ c = entry := by
  rcases groups with ⟨stored⟩
  unfold addToGroup Dictionary.insert ungrouped
  -- The group is found where it is written, or it is new and goes to the end.
  induction stored with
  | nil => simp [Dictionary.write, Dictionary.get?]
  | cons group rest ih =>
      by_cases hgroup : (group.1 == entry.1.context) = true
      · have hcontext := beq_iff_eq.mp hgroup
        simp only [Dictionary.get?_cons, Dictionary.write, if_pos hgroup, Option.getD_some,
          List.flatMap_cons, List.map_append, List.map_cons, List.map_nil, List.mem_append,
          List.mem_singleton]
        rw [hcontext]
        exact or_right_comm
      · simp only [Dictionary.get?_cons, Dictionary.write, if_neg hgroup, List.flatMap_cons,
          List.mem_append] at ih ⊢
        rw [ih, or_assoc]

theorem mem_inOrderOfGroups (b : Bindings) (c : Slot × Value) :
    c ∈ b.inOrderOfGroups ↔ c ∈ b.entries := by
  -- By induction on the bindings, so for any groups to start from.
  have hfold : ∀ (entries : List (Slot × Value)) groups,
      c ∈ ungrouped (entries.foldl addToGroup groups) ↔ c ∈ ungrouped groups ∨ c ∈ entries := by
    intro entries
    induction entries with
    | nil => simp
    | cons entry rest ih =>
        intro groups
        rw [List.foldl_cons, ih, mem_ungrouped_addToGroup, List.mem_cons, or_assoc]
  refine (hfold b.entries .empty).trans (or_iff_right ?_)
  exact List.not_mem_nil

end Bindings

/-- The value of a slot in the latest bindings that have it. -/
def latest (journal : List Bindings) (slot : Slot) : Option Value :=
  journal.reverse.findSome? fun b => b.get? slot

theorem latest_singleton (b : Bindings) (slot : Slot) : latest [b] slot = b.get? slot := by
  simp [latest]

theorem latest_append (first rest : List Bindings) (slot : Slot) :
    latest (first ++ rest) slot = (latest rest slot).or (latest first slot) := by
  unfold latest
  rw [List.reverse_append, List.findSome?_append]

namespace Store

theorem slots_write (store : Store) (context : ContextId) (slots : List (String × Value)) :
    (store.write context slots).slots =
      store.slots.insertAll (slots.map fun slot => (⟨context, slot.1⟩, slot.2)) := by
  unfold write Dictionary.insertAll
  rw [List.foldl_map]

-- Writing group after group is writing one list.
theorem slots_foldl_write (groups : List (ContextId × List (String × Value))) :
    ∀ store : Store, (groups.foldl (fun store group => store.write group.1 group.2) store).slots =
      store.slots.insertAll
        (groups.flatMap fun group => group.2.map fun slot => (⟨group.1, slot.1⟩, slot.2)) := by
  induction groups with
  | nil => exact fun _ => rfl
  | cons group rest ih =>
      intro store
      rw [List.foldl_cons, ih, slots_write, List.flatMap_cons]
      exact List.foldl_append.symm

theorem created_foldl_write (groups : List (ContextId × List (String × Value))) :
    ∀ store : Store, (groups.foldl (fun store group => store.write group.1 group.2) store).created =
      store.created := by
  induction groups with
  | nil => exact fun _ => rfl
  | cons group rest ih =>
      intro store
      rw [List.foldl_cons, ih]
      rfl

theorem slots_commit (store : Store) (b : Bindings) :
    (store.commit b).slots = store.slots.insertAll b.inOrderOfGroups :=
  slots_foldl_write b.groups.entries store

/-- Bindings that are written in some order are written over what was there, if
    no slot is bound twice. -/
theorem get?_insertAll_of_mem_iff {b : Bindings} (h : b.slots.Distinct)
    {writes : List (Slot × Value)} (hwrites : ∀ c, c ∈ writes ↔ c ∈ b.entries)
    (slots : Dictionary Slot Value) (slot : Slot) :
    (slots.insertAll writes).get? slot = (b.get? slot).or (slots.get? slot) := by
  -- At most one write goes to the slot, so it is the last one.
  have hmem : ∀ w, (slot, w) ∈ writes ↔ b.get? slot = some w := fun w =>
    (hwrites (slot, w)).trans (Dictionary.get?_iff_mem h).symm
  have hlast : Dictionary.lastUnder? writes slot = b.get? slot := by
    refine Option.ext fun value => ?_
    rw [← hmem]
    refine Dictionary.lastUnder?_eq_some_iff fun w w' hw hw' => ?_
    rw [hmem] at hw hw'
    exact Option.some.inj (hw.symm.trans hw')
  rw [Dictionary.get?_insertAll Dictionary.equivalenceOn_beq (fun _ _ => trivial) trivial slots
    fun _ _ => trivial, hlast]

/-- A commit writes the bound slots over what was there, and no others. -/
theorem get?_commit (store : Store) {b : Bindings} (h : b.slots.Distinct) (slot : Slot) :
    (store.commit b).get? slot = (b.get? slot).or (store.get? slot) := by
  change (store.commit b).slots.get? slot = _
  rw [slots_commit]
  exact get?_insertAll_of_mem_iff h b.mem_inOrderOfGroups store.slots slot

end Store

end ShapeMatch
