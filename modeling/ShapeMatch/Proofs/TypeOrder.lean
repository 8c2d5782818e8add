import Mathlib.Logic.Relation
import ShapeMatch.TypeTag

/-!
# The Order of Types

Subtyping is the order of a tree with `object` at its root.

`isSubtypeOf` looks for a type in the lineage of another one. A comparison of
types goes there step by step: it compares, goes up to the direct supertype, and
ends at the type it looks for or above `object`. `Climbs` is that search, with
one rule for each way that a round can end, so a derivation is a search that
comes to an end. Record types are compared by their declarations there, and not
by what they are made of. In a registry that has grown by declarations a
serial number belongs to one type, and the two comparisons agree.

The lineage of a supertype is an end of the lineage of the type. So a subtype is
above another iff one list is an end of another one, and what there is to know
about the order is known about ends of lists: two ends of one list have one end
in common, which is the shorter of the two, and lists that are ends of each other
are equal.

## Main definitions

* `TypeTag.sameDeclaration`: The comparison of types.
* `TypeTag.Climbs`: The search on the way up.
* `Registry.Declared`: The registry has grown by declarations.
* `Registry.Knows`: The type is built in or declared.

## Theorems

* `RecordType.mem_lineage_iff`: Lineages are what links to parents reach.
* `TypeTag.isSubtypeOf_iff_suffix`: Subtyping is being an end of a lineage.
* `isSubtypeOf_antisymm`, `isSubtypeOf_or_of_common`: A tree order.
* `isSubtypeOf_record_iff`, `not_isSubtypeOf_record`: Where record types stand.
* `Registry.Declared.sameDeclaration_iff`: The comparison is equality of types.
* `Registry.Declared.climbs_iff`: The search ends, with the right answer.
* `Registry.isSubtypeOf_tree`: All of it.
-/

namespace ShapeMatch

namespace RecordType

/-- The lineage of a record type is what its links to parents reach. -/
theorem mem_lineage_iff {t u : RecordType} :
    u ∈ t.lineage ↔ Relation.ReflTransGen (fun a b => a.parent? = some b) t u := by
  constructor
  · intro h
    induction t with
    | root n name => rw [List.mem_singleton.mp h]
    | derived n name parent ih =>
        rcases List.mem_cons.mp h with rfl | h
        · exact .refl
        · exact .head rfl (ih h)
  · intro h
    induction h using Relation.ReflTransGen.head_induction_on with
    | refl =>
        rw [lineage_eq]
        exact List.mem_cons_self
    | head hlink _ ih =>
        rw [lineage_eq, hlink]
        exact List.mem_cons_of_mem _ ih

end RecordType

namespace TypeTag

theorem isSubtypeOf_iff_suffix {t s : TypeTag} :
    t.isSubtypeOf s = true ↔ s.lineage <:+ t.lineage := by
  rw [isSubtypeOf_iff]
  constructor
  · exact lineage_suffix_of_mem
  · intro h
    refine h.subset ?_
    rw [lineage_eq]
    exact List.mem_cons_self

theorem isSubtypeOf_antisymm {t s : TypeTag} (hts : t.isSubtypeOf s = true)
    (hst : s.isSubtypeOf t = true) : t = s := by
  rw [isSubtypeOf_iff_suffix] at hts hst
  have hlineage := hst.eq_of_length_le hts.length_le
  -- A lineage begins with its type.
  rw [lineage_eq t, lineage_eq s, List.cons.injEq] at hlineage
  exact hlineage.1

/-- Two supertypes of one type are comparable. -/
theorem isSubtypeOf_or_of_common {t a b : TypeTag} (ha : t.isSubtypeOf a = true)
    (hb : t.isSubtypeOf b = true) : a.isSubtypeOf b = true ∨ b.isSubtypeOf a = true := by
  simp only [isSubtypeOf_iff_suffix] at ha hb ⊢
  exact List.suffix_or_suffix_of_suffix hb ha

/-- The supertypes of a record type are `object` and what its links to parents
    reach. -/
theorem isSubtypeOf_record_iff {t : RecordType} {s : TypeTag} :
    (record t).isSubtypeOf s = true ↔ s = object ∨
      ∃ u, s = record u ∧ Relation.ReflTransGen (fun a b => a.parent? = some b) t u := by
  simp only [isSubtypeOf_iff, lineage, List.mem_append, List.mem_map, List.mem_singleton,
    RecordType.mem_lineage_iff]
  rw [or_comm]
  refine or_congr_right (exists_congr fun u => ?_)
  rw [and_comm, eq_comm]

/-- No built-in type is a subtype of a record type. -/
theorem not_isSubtypeOf_record {t : TypeTag} (ht : ∀ r, t ≠ record r) (u : RecordType) :
    t.isSubtypeOf (record u) = false := by
  cases t with
  | record r => exact absurd rfl (ht r)
  | _ => simp [isSubtypeOf, lineage]

/-- Whether a type is a subtype of another one is decided further up. -/
theorem isSubtypeOf_of_ne {t s : TypeTag} (h : t ≠ s) :
    t.isSubtypeOf s = t.parent?.elim false (·.isSubtypeOf s) := by
  have hne : s ≠ t := fun hst => h hst.symm
  rw [Bool.eq_iff_iff, isSubtypeOf_iff, lineage_eq, List.mem_cons, or_iff_right hne]
  cases t.parent? with
  | none => simp
  | some p => exact isSubtypeOf_iff.symm

/-- Whether two types are one. Record types are known by their declarations. -/
def sameDeclaration : TypeTag → TypeTag → Bool
  | record t, record s => t.serial == s.serial
  | t, s => t = s

/-- The search for a type on the way up. It starts at a type, or above `object`
    where no type is left, and comes to an answer. -/
inductive Climbs (sought : TypeTag) : Option TypeTag → Bool → Prop
  | ended : Climbs sought Option.none false
  | found {t : TypeTag} (h : t.sameDeclaration sought = true) : Climbs sought (some t) true
  | up {t : TypeTag} {answer : Bool} (h : t.sameDeclaration sought = false)
      (hrest : Climbs sought t.parent? answer) : Climbs sought (some t) answer

/-- A search has one answer. -/
theorem Climbs.unique {sought : TypeTag} {start : Option TypeTag} {answer answer' : Bool}
    (h : Climbs sought start answer) (h' : Climbs sought start answer') : answer = answer' := by
  induction h with
  | ended =>
      cases h'
      rfl
  | found h =>
      cases h' with
      | found _ => rfl
      | up hne _ => exact absurd (h.symm.trans hne) Bool.noConfusion
  | up hne _ ih =>
      cases h' with
      | found h => exact absurd (h.symm.trans hne) Bool.noConfusion
      | up _ hrest => exact ih hrest

end TypeTag

namespace Registry

/-- The registry has grown by declarations. A parent has to be there before. -/
inductive Declared : Registry → Prop
  | empty : Declared empty
  | declare {registry : Registry} (h : Declared registry) (name : String)
      (parent : Option RecordType) (hparent : ∀ p ∈ parent, p ∈ registry.types) :
      Declared (registry.declare name parent)

/-- The type is built in, or declared in the registry. -/
def Knows (registry : Registry) : TypeTag → Prop
  | .record t => t ∈ registry.types
  | _ => True

@[simp] theorem serial_next (registry : Registry) (name : String) (parent : Option RecordType) :
    (registry.next name parent).serial = registry.types.length := by
  cases parent <;> rfl

@[simp] theorem parent?_next (registry : Registry) (name : String) (parent : Option RecordType) :
    (registry.next name parent).parent? = parent := by
  cases parent <;> rfl

namespace Declared

variable {registry : Registry} (h : registry.Declared)

include h

/-- A declared type has the number of its place. -/
theorem serial_of_get? {i : Nat} {t : RecordType} (hi : registry.get? i = some t) :
    t.serial = i := by
  induction h with
  | empty => exact nomatch hi
  | @declare registry _ name parent _ ih =>
      unfold get? Registry.declare at hi
      rw [List.getElem?_append] at hi
      split at hi
      · exact ih hi
      · -- The only type behind the others is the one declared last.
        rw [List.getElem?_singleton] at hi
        split at hi
        · rw [← Option.some.inj hi, serial_next]
          omega
        · exact nomatch hi

theorem parent_mem {t p : RecordType} (ht : t ∈ registry.types) (hp : t.parent? = some p) :
    p ∈ registry.types := by
  induction h with
  | empty => exact absurd ht List.not_mem_nil
  | declare _ name parent hparent ih =>
      rcases List.mem_append.mp ht with ht | ht
      · exact List.mem_append_left _ (ih ht)
      · rw [List.mem_singleton.mp ht, parent?_next] at hp
        exact List.mem_append_left _ (hparent p hp)

/-- Links to parents do not lead out of a registry. -/
theorem mem_of_links {t u : RecordType} (ht : t ∈ registry.types)
    (hlinks : Relation.ReflTransGen (fun a b => a.parent? = some b) t u) : u ∈ registry.types := by
  induction hlinks with
  | refl => exact ht
  | tail _ hlink ih => exact h.parent_mem ih hlink

/-- Declared types are told apart by their numbers. -/
theorem eq_of_serial_eq {t u : RecordType} (ht : t ∈ registry.types) (hu : u ∈ registry.types)
    (hserial : t.serial = u.serial) : t = u := by
  rcases List.mem_iff_getElem?.mp ht with ⟨i, hi⟩
  rcases List.mem_iff_getElem?.mp hu with ⟨j, hj⟩
  rw [h.serial_of_get? hi, h.serial_of_get? hj] at hserial
  rw [hserial, hj] at hi
  exact (Option.some.inj hi).symm

/-- Types are one iff they were declared at one place. -/
theorem eq_iff_place {i j : Nat} {t u : RecordType} (hi : registry.get? i = some t)
    (hj : registry.get? j = some u) : t = u ↔ i = j := by
  constructor
  · intro heq
    rw [← h.serial_of_get? hi, heq, h.serial_of_get? hj]
  · intro heq
    rw [heq, hj] at hi
    exact (Option.some.inj hi).symm

theorem knows_parent {t p : TypeTag} (ht : registry.Knows t) (hp : t.parent? = some p) :
    registry.Knows p := by
  cases t with
  | object => exact nomatch hp
  | record r =>
      rw [← Option.some.inj hp]
      cases hr : r.parent? with
      | none => exact trivial
      | some q => exact h.parent_mem ht hr
  | _ =>
      rw [← Option.some.inj hp]
      exact trivial

theorem sameDeclaration_iff {t s : TypeTag} (ht : registry.Knows t) (hs : registry.Knows s) :
    t.sameDeclaration s = true ↔ t = s := by
  unfold TypeTag.sameDeclaration
  split
  · rw [beq_iff_eq, TypeTag.record.injEq]
    exact ⟨h.eq_of_serial_eq ht hs, fun heq => congrArg RecordType.serial heq⟩
  · exact decide_eq_true_iff

/-- The search for a type on the way up ends with the answer of `isSubtypeOf`. -/
theorem climbs_isSubtypeOf {t s : TypeTag} (ht : registry.Knows t) (hs : registry.Knows s) :
    TypeTag.Climbs s (some t) (t.isSubtypeOf s) := by
  induction t using TypeTag.induction_parent with
  | step t ih =>
      by_cases heq : t = s
      · rw [heq, s.isSubtypeOf_refl]
        exact .found ((h.sameDeclaration_iff hs hs).mpr rfl)
      · have hdiffer : t.sameDeclaration s = false :=
          Bool.eq_false_iff.mpr fun hsame => heq ((h.sameDeclaration_iff ht hs).mp hsame)
        refine .up hdiffer ?_
        rw [TypeTag.isSubtypeOf_of_ne heq]
        cases hp : t.parent? with
        | none => exact .ended
        | some p => exact ih p hp (h.knows_parent ht hp)

/-- The search for a type on the way up ends, with one answer, which is whether
    the one is a subtype of the other. -/
theorem climbs_iff {t s : TypeTag} (ht : registry.Knows t) (hs : registry.Knows s)
    {answer : Bool} : TypeTag.Climbs s (some t) answer ↔ answer = t.isSubtypeOf s := by
  constructor
  · exact fun hclimbs => hclimbs.unique (h.climbs_isSubtypeOf ht hs)
  · intro hanswer
    rw [hanswer]
    exact h.climbs_isSubtypeOf ht hs

end Declared

/-- Subtyping is the order of a tree, whatever is declared. The search for a type
    ends with an answer, which is `isSubtypeOf`. That is reflexive, transitive and
    antisymmetric, with `object` above all, and two types above one are comparable.
    Above a record type there are `object` and the record types that its links to
    parents reach, and no built-in type is below a record type. Types are one iff
    they were declared at one place, whatever their names. -/
theorem isSubtypeOf_tree {registry : Registry} (h : registry.Declared) :
    (∀ t s, registry.Knows t → registry.Knows s →
      ∀ answer, TypeTag.Climbs s (some t) answer ↔ answer = t.isSubtypeOf s) ∧
    (∀ t : TypeTag, t.isSubtypeOf t = true) ∧
    (∀ t s u : TypeTag, t.isSubtypeOf s = true → s.isSubtypeOf u = true →
      t.isSubtypeOf u = true) ∧
    (∀ t s : TypeTag, t.isSubtypeOf s = true → s.isSubtypeOf t = true → t = s) ∧
    (∀ t : TypeTag, t.isSubtypeOf .object = true) ∧
    (∀ t a b : TypeTag, t.isSubtypeOf a = true → t.isSubtypeOf b = true →
      a.isSubtypeOf b = true ∨ b.isSubtypeOf a = true) ∧
    (∀ t ∈ registry.types, ∀ s : TypeTag, (TypeTag.record t).isSubtypeOf s = true ↔
      s = .object ∨ ∃ u ∈ registry.types, s = .record u ∧
        Relation.ReflTransGen (fun a b => a.parent? = some b) t u) ∧
    (∀ t : TypeTag, (∀ r, t ≠ .record r) → ∀ u, t.isSubtypeOf (.record u) = false) ∧
    (∀ i j t u, registry.get? i = some t → registry.get? j = some u → (t = u ↔ i = j)) := by
  refine ⟨fun t s ht hs answer => h.climbs_iff ht hs, TypeTag.isSubtypeOf_refl,
    fun _ _ _ => TypeTag.isSubtypeOf_trans, fun _ _ => TypeTag.isSubtypeOf_antisymm,
    TypeTag.isSubtypeOf_object, fun _ _ _ => TypeTag.isSubtypeOf_or_of_common, ?links,
    fun _ => TypeTag.not_isSubtypeOf_record, fun _ _ _ _ => h.eq_iff_place⟩
  case links =>
    intro t ht s
    rw [TypeTag.isSubtypeOf_record_iff]
    refine or_congr_right (exists_congr fun u => ?_)
    exact ⟨fun hu => ⟨h.mem_of_links ht hu.2, hu⟩, And.right⟩

-- Two declarations of one name, with one parent.
theorem isSubtypeOf_tree_of_namesakes :
    TypeTag.Climbs (.record (.root 0 "media")) (some (.record (.derived 1 "book" (.root 0 "media"))))
      true ∧
    TypeTag.Climbs (.record (.derived 2 "book" (.root 0 "media")))
      (some (.record (.derived 1 "book" (.root 0 "media")))) false ∧
    RecordType.derived 1 "book" (.root 0 "media") ≠ .derived 2 "book" (.root 0 "media") := by
  have hmedia := Declared.empty.declare "media" none nofun
  have hbook := hmedia.declare "book" (some (.root 0 "media")) (by simp [declare, next, empty])
  have htree := isSubtypeOf_tree
    (hbook.declare "book" (some (.root 0 "media")) (by simp [declare, next, empty]))
  refine ⟨(htree.1 _ _ ?_ ?_ true).mpr rfl, (htree.1 _ _ ?_ ?_ false).mpr rfl,
    mt (htree.2.2.2.2.2.2.2.2 1 2 _ _ rfl rfl).mp (by decide)⟩ <;>
    simp [Knows, declare, next, empty]

end Registry

end ShapeMatch
