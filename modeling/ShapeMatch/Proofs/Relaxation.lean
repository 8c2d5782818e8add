import ShapeMatch.Proofs.Isolation
import ShapeMatch.Proofs.Trails

/-!
# Relaxed Patterns

A pattern that asks for less matches wherever the original does.

A pattern is relaxed by asking for a supertype, by asking for no type of a
record, and by leaving out a conjunct, an entry or a field. Without
alternatives none of this can lead a match astray: the trail of the relaxed
pattern is the old one, in which the events of what was left out are missing.
So its captures agree as they did before. Where the first capture of a slot is
missing, a later one is kept instead, which is equal to it.

The tests that are left run in states that the missing ones have not touched.
They must answer as they did before, so nothing that a missing test does to the
state may be noticed by them. A test that commits to a context is noticed by
one that reads from it, and then the relaxed pattern may refuse.

## Main definitions

* `Pattern.Relaxing`, `Pattern.Relaxed`: A pattern asks for less, by one step or
  by any number of them.
* `Thinned`: A list without some of its members.
* `Predicate.Respects`, `Predicate.Unnoticed`: A test goes on as before, and a
  test may be left out.

## Theorems

* `Relaxed.leads`: The trail of a relaxed pattern is thinned.
* `Passes.thinned`: A thinned trail passes.
* `extract_relaxed`: A relaxed pattern matches, and binds nothing new.
* `extract_relaxed_bound`: It may refuse if a test reads what a missing one
  commits.
-/

namespace ShapeMatch

section Thinning

variable {α β : Type} {gone : α → Prop}

/-- `Thinned gone xs ys` says that `ys` is `xs` without some members, all of them
    in the class `gone`. -/
inductive Thinned (gone : α → Prop) : List α → List α → Prop
  | nil : Thinned gone [] []
  | keep (x : α) {xs ys : List α} (h : Thinned gone xs ys) : Thinned gone (x :: xs) (x :: ys)
  | drop {x : α} {xs ys : List α} (hx : gone x) (h : Thinned gone xs ys) : Thinned gone (x :: xs) ys

namespace Thinned

theorem refl (xs : List α) : Thinned gone xs xs := by
  induction xs with
  | nil => exact .nil
  | cons x rest ih => exact .keep x ih

theorem append {xs ys xs' ys' : List α} (h : Thinned gone xs ys) (h' : Thinned gone xs' ys') :
    Thinned gone (xs ++ xs') (ys ++ ys') := by
  induction h with
  | nil => exact h'
  | keep x _ ih => exact .keep x ih
  | drop hx _ ih => exact .drop hx ih

theorem of_gone {xs : List α} (h : ∀ x ∈ xs, gone x) : Thinned gone xs [] := by
  induction xs with
  | nil => exact .nil
  | cons x rest ih =>
      rw [List.forall_mem_cons] at h
      exact .drop h.1 (ih h.2)

theorem trans {xs ys zs : List α} (h : Thinned gone xs ys) (h' : Thinned gone ys zs) :
    Thinned gone xs zs := by
  induction h generalizing zs with
  | nil => exact h'
  | keep x _ ih =>
      cases h' with
      | keep _ h' => exact .keep x (ih h')
      | drop hx h' => exact .drop hx (ih h')
  | drop hx _ ih => exact .drop hx (ih h')

theorem sublist {xs ys : List α} (h : Thinned gone xs ys) : ys.Sublist xs := by
  induction h with
  | nil => exact .slnil
  | keep x _ ih => exact ih.cons_cons x
  | drop _ _ ih => exact ih.cons _

/-- What none of the missing members has is not missing. -/
theorem filterMap_eq {f : α → Option β} (hgone : ∀ x, gone x → f x = none) {xs ys : List α}
    (h : Thinned gone xs ys) : ys.filterMap f = xs.filterMap f := by
  induction h with
  | nil => rfl
  | keep x _ ih => rw [List.filterMap_cons, List.filterMap_cons, ih]
  | drop hx _ ih => rw [ih, List.filterMap_cons_none (hgone _ hx)]

end Thinned

end Thinning

variable {σ : Type}

namespace Predicate

variable {R : σ → σ → Prop}

/-- The test answers alike in related states, and leads to related states. -/
def Respects (R : σ → σ → Prop) (t : Predicate σ) : Prop :=
  ∀ v {s u}, R s u → (t.test v s).1 = (t.test v u).1 ∧ R (t.test v s).2 (t.test v u).2

/-- If only one side runs the test, the states stay related. -/
def Unnoticed (R : σ → σ → Prop) (t : Predicate σ) : Prop := ∀ v {s u}, R s u → R (t.test v s).2 u

/-- Tests whose answers do not change with the state may run or not. -/
theorem SteadyOn.respects {I : σ → Prop} {t : Predicate σ} (h : t.SteadyOn I) :
    t.Respects fun s u => I s ∧ I u :=
  fun v _ _ hs => ⟨h.answers v hs.1 hs.2, h.stays v hs.1, h.stays v hs.2⟩

theorem SteadyOn.unnoticed {I : σ → Prop} {t : Predicate σ} (h : t.SteadyOn I) :
    t.Unnoticed fun s u => I s ∧ I u :=
  fun v _ _ hs => ⟨h.stays v hs.1, hs.2⟩

end Predicate

/-- The event is one of a pattern in a class. -/
def Event.Within (drop : Pattern σ → Prop) : Event σ → Prop
  | .capture slot _ => ∃ q, drop q ∧ slot ∈ q.slots
  | .test t _ => ∃ q, drop q ∧ t ∈ q.predicates

/-- The tests that are left pass in related states, step by step, if the missing
    ones are not noticed. -/
theorem Trail.Passes.thinned {R : σ → σ → Prop} {drop : Pattern σ → Prop} {T T' : Trail σ}
    (h : Thinned (Event.Within drop) T T')
    (hdropped : ∀ q, drop q → ∀ t ∈ q.predicates, t.Unnoticed R) :
    ∀ {s s' u : σ}, T.Passes s s' → (∀ t v, Event.test t v ∈ T' → t.Respects R) → R s u →
      ∃ u', T'.Passes u u' ∧ R s' u' := by
  induction h with
  | nil =>
      intro s s' u hpasses _ hs
      exact ⟨u, .nil, passes_nil_iff.mp hpasses ▸ hs⟩
  | keep event _ ih =>
      intro s s' u hpasses hkept hs
      have hrest := fun t v ht => hkept t v (List.mem_cons_of_mem event ht)
      cases event with
      | capture slot v =>
          rcases ih (passes_capture_iff.mp hpasses) hrest hs with ⟨u', hu', hrelated⟩
          exact ⟨u', .capture hu', hrelated⟩
      | test t v =>
          rcases passes_test_iff.mp hpasses with ⟨s₁, hfirst, hpasses⟩
          have htest := hkept t v List.mem_cons_self v hs
          rw [hfirst] at htest
          have hanswer : t.test v u = (.ok true, (t.test v u).2) := Prod.ext htest.1.symm rfl
          rcases ih hpasses hrest htest.2 with ⟨u', hu', hrelated⟩
          exact ⟨u', .test hanswer hu', hrelated⟩
  | @drop event _ _ hgone _ ih =>
      intro s s' u hpasses hkept hs
      cases event with
      | capture slot v => exact ih (passes_capture_iff.mp hpasses) hkept hs
      | test t v =>
          rcases passes_test_iff.mp hpasses with ⟨s₁, hfirst, hpasses⟩
          rcases hgone with ⟨q, hq, ht⟩
          have hs₁ := hdropped q hq t ht v hs
          rw [hfirst] at hs₁
          exact ih hpasses hkept hs₁

namespace Pattern

/-- A pattern asks for less by one step. What is left out is in the class `drop`. -/
inductive Relaxing (drop : Pattern σ → Prop) : Pattern σ → Pattern σ → Prop
  | refl (p : Pattern σ) : Relaxing drop p p
  | typeMatch {t s : TypeTag} (h : t.isSubtypeOf s = true) :
      Relaxing drop (typeMatch t) (typeMatch s)
  | exactType {t s : TypeTag} (h : t.isSubtypeOf s = true) :
      Relaxing drop (exactType t) (typeMatch s)
  | expected {t s : TypeTag} (h : t.isSubtypeOf s = true) (fields : List (String × Pattern σ)) :
      Relaxing drop (object (some t) fields) (object (some s) fields)
  | unexpected (t : TypeTag) (fields : List (String × Pattern σ)) :
      Relaxing drop (object (some t) fields) (object none fields)
  | member (before after : List (Pattern σ)) {q : Pattern σ} (hq : drop q) :
      Relaxing drop (all (before ++ q :: after)) (all (before ++ after))
  | entry (before after : List (Value × Pattern σ)) (key : Value) {q : Pattern σ} (hq : drop q) :
      Relaxing drop (mapping (before ++ (key, q) :: after)) (mapping (before ++ after))
  | field (expected : Option TypeTag) (before after : List (String × Pattern σ)) (name : String)
      {q : Pattern σ} (hq : drop q) :
      Relaxing drop (object expected (before ++ (name, q) :: after))
        (object expected (before ++ after))

/-- A pattern asks for less, in any number of places and at any depth. -/
abbrev Relaxed (drop : Pattern σ → Prop) : Pattern σ → Pattern σ → Prop :=
  Relation.ReflTransGen (Variant (Relaxing drop) Eq Eq)

section Trails

variable {drop : Pattern σ → Prop}

/-- All events of a trail are those of its pattern. -/
theorem within_of_trail {q : Pattern σ} (hq : drop q) {v : Value} {T : Trail σ}
    (hT : q.trail v = some T) : ∀ event ∈ T, event.Within drop := by
  intro event hevent
  cases event with
  | capture slot value =>
      refine ⟨q, hq, ?_⟩
      rw [slots, ← flatMap_collect_trail _ _ q hT]
      exact List.mem_flatMap.mpr ⟨_, hevent, List.mem_singleton_self slot⟩
  | test t value =>
      refine ⟨q, hq, ?_⟩
      rw [predicates, ← flatMap_collect_trail _ _ q hT]
      exact List.mem_flatMap.mpr ⟨_, hevent, List.mem_singleton_self t⟩

theorem joining_thinned : Trail.Joining (Thinned (Event.Within drop)) where
  nil := .nil
  append := .append

theorem leads_refl (m : Tracer σ) : Tracer.Leads (Thinned (Event.Within drop)) m m :=
  fun _ T hT => ⟨T, hT, .refl T⟩

-- A part is left out, and the others are where they were.
theorem leads_erased {before after : List (Pattern σ × Option Value)} {q : Pattern σ}
    (hq : drop q) (found : Option Value) :
    Trail.Leads (Thinned (Event.Within drop)) (trailInTurn (before ++ (q, found) :: after))
      (trailInTurn (before ++ after)) := by
  intro T hT
  rw [trailInTurn, List.map_append, List.map_cons, Trail.inTurn_append_iff] at hT
  rcases hT with ⟨first, _, hfirst, hrest, rfl⟩
  rcases Trail.inTurn_cons_iff.mp hrest with ⟨lost, others, hlost, hothers, rfl⟩
  rcases Option.bind_eq_some_iff.mp hlost with ⟨w, -, hlost⟩
  refine ⟨first ++ others, ?_, (Thinned.refl first).append ?_⟩
  · rw [trailInTurn, List.map_append, Trail.inTurn_append_iff]
    exact ⟨first, others, hfirst, hothers, rfl⟩
  · exact (Thinned.of_gone (within_of_trail hq hlost)).append (.refl others)

theorem Relaxing.leads {p q : Pattern σ} (h : Relaxing drop p q) :
    Tracer.Leads (Thinned (Event.Within drop)) p.trail q.trail := by
  cases h with
  | refl => exact leads_refl _
  | typeMatch h =>
      exact Tracer.leads_accept joining_thinned fun v htype => TypeTag.isSubtypeOf_trans htype h
  | exactType h =>
      exact Tracer.leads_accept joining_thinned fun v htype => of_decide_eq_true htype ▸ h
  | expected h fields =>
      intro v T hT
      rcases trail_object_iff.mp hT with ⟨⟨hview, htype⟩, hT⟩
      simp only [Option.mem_some_iff, forall_eq'] at htype
      refine ⟨T, trail_object_iff.mpr ⟨⟨hview, ?_⟩, hT⟩, .refl T⟩
      simp only [Option.mem_some_iff, forall_eq']
      exact TypeTag.isSubtypeOf_trans htype h
  | unexpected t fields =>
      intro v T hT
      rcases trail_object_iff.mp hT with ⟨⟨hview, htype⟩, hT⟩
      exact ⟨T, trail_object_iff.mpr ⟨⟨hview, nofun⟩, hT⟩, .refl T⟩
  | member before after hq =>
      intro v
      rw [trail_all, trail_all, List.map_append, List.map_append, List.map_cons]
      exact leads_erased hq (some v)
  | entry before after key hq =>
      intro v T hT
      rcases trail_mapping_iff.mp hT with ⟨hview, hT⟩
      rw [List.map_append, List.map_cons] at hT
      rcases leads_erased hq _ T hT with ⟨T', hT', hthinned⟩
      exact ⟨T', trail_mapping_iff.mpr ⟨hview, List.map_append ▸ hT'⟩, hthinned⟩
  | field expected before after name hq =>
      intro v T hT
      rcases trail_object_iff.mp hT with ⟨hview, hT⟩
      rw [List.map_append, List.map_cons] at hT
      rcases leads_erased hq _ T hT with ⟨T', hT', hthinned⟩
      exact ⟨T', trail_object_iff.mpr ⟨hview, List.map_append ▸ hT'⟩, hthinned⟩

/-- The trail of a relaxed pattern is the old one, in which the events of what is
    left out are missing. -/
theorem Relaxed.leads {p p' : Pattern σ} (h : Relaxed drop p p') :
    Tracer.Leads (Thinned (Event.Within drop)) p.trail p'.trail := by
  induction h with
  | refl => exact leads_refl p.trail
  | tail _ hstep ih =>
      intro v T hT
      rcases ih v T hT with ⟨U, hU, hthinned⟩
      have hleads := Variant.related (A := fun _ => True)
        (Tracer.related_algebra joining_thinned fun _ => leads_refl _)
        (fun hleaf _ => hleaf.leads) hstep fun _ _ => trivial
      rcases hleads v U hU with ⟨T', hT', hthinned'⟩
      exact ⟨T', hT', hthinned.trans hthinned'⟩

end Trails

variable {policy : ErrorPolicy} {drop : Pattern σ → Prop} {R : σ → σ → Prop}

/-- Relaxing preserves matches: if a pattern without alternatives matches, so does
    a relaxed one, where no test that is left notices that others are missing. It
    binds nothing that was not bound, to equal values, and the same if no captures
    were left out. -/
theorem extract_relaxed {p p' : Pattern σ} (h : Relaxed drop p p') (hp : p.anyFree = true)
    (hkept : ∀ t ∈ p'.predicates, t.Respects R)
    (hdropped : ∀ q, drop q → ∀ t ∈ q.predicates, t.Unnoticed R) {v : Value} (hv : v.Built)
    {s u : σ} (hs : R s u) {B : Bindings} (hB : (p.extract policy v s).1 = .ok (.matched B)) :
    ∃ B', (p'.extract policy v u).1 = .ok (.matched B') ∧
      (∀ slot w', B'.get? slot = some w' →
        ∃ w, B.get? slot = some w ∧ w'.deepEqual w = true) ∧
      ((∀ q, drop q → q.slots = []) → B' = B) := by
  rcases (extract_iff_trail hp hv).mp (Prod.ext hB rfl) with ⟨T, hT, hpasses, hconsistent, rfl⟩
  rcases h.leads v T hT with ⟨T', hT', hthinned⟩
  have hp' := anyFree_of_trail p' hT'
  have hsublist : T'.captures.Sublist T.captures := hthinned.sublist.filterMap _
  have htests : ∀ t w, Event.test t w ∈ T' → t ∈ p'.predicates := by
    intro t w ht
    rw [predicates, ← flatMap_collect_trail _ _ p' hT']
    exact List.mem_flatMap.mpr ⟨_, ht, List.mem_singleton_self t⟩
  rcases hpasses.thinned hthinned hdropped (fun t w ht => hkept t (htests t w ht)) hs with
    ⟨u', hpasses', -⟩
  refine ⟨Bindings.empty.extend T'.captures,
    congrArg Prod.fst ((extract_iff_trail hp' hv).mpr ⟨T', hT', hpasses', ?_, rfl⟩), ?_, ?_⟩
  · exact fun c hc d hd => hconsistent c (hsublist.subset hc) d (hsublist.subset hd)
  · intro slot w' hw'
    rw [Bindings.get?_extend_empty] at hw'
    -- The kept capture was there before, behind an equal one or as the first.
    have hmem := hsublist.subset (Bindings.mem_of_lookup hw')
    rcases Option.isSome_iff_exists.mp (Bindings.isSome_lookup hmem) with ⟨w, hw⟩
    exact ⟨w, (Bindings.get?_extend_empty _ _).trans hw,
      hconsistent _ hmem _ (Bindings.mem_of_lookup hw) rfl⟩
  · intro hslots
    have hsame : T'.captures = T.captures := by
      refine hthinned.filterMap_eq fun event hevent => ?_
      cases event with
      | capture slot w =>
          rcases hevent with ⟨q, hq, hslot⟩
          rw [hslots q hq] at hslot
          exact absurd hslot List.not_mem_nil
      | test t w => rfl
    rw [hsame]

-- A supertype, and one field less, whose capture was the first of two.
theorem extract_relaxed_of_fields :
    ((object (some (.record (.derived 1 "Dog" (.root 0 "Animal"))))
          [("age", all [predicate ⟨"count", fun _ n => (.ok true, n + 1)⟩, capture ⟨⟨1⟩, "x"⟩]),
            ("legs", all [predicate ⟨"count", fun _ n => (.ok true, n + 1)⟩,
              capture ⟨⟨1⟩, "x"⟩])]).extract .propagate
        (.record (.derived 1 "Dog" (.root 0 "Animal"))
          (.ofList [("age", .int 4), ("legs", .float ⟨0x4010000000000000⟩)])) 0).1 =
      .ok (.matched ⟨⟨[(⟨⟨1⟩, "x"⟩, .int 4)]⟩⟩) ∧
    ∃ B', ((object (some (.record (.root 0 "Animal")))
          [("legs", all [predicate ⟨"count", fun _ n => (.ok true, n + 1)⟩,
            capture ⟨⟨1⟩, "x"⟩])]).extract .propagate
        (.record (.derived 1 "Dog" (.root 0 "Animal"))
          (.ofList [("age", .int 4), ("legs", .float ⟨0x4010000000000000⟩)])) 0).1 =
      .ok (.matched B') ∧
      ∀ slot w', B'.get? slot = some w' →
        ∃ w, (⟨⟨[(⟨⟨1⟩, "x"⟩, .int 4)]⟩⟩ : Bindings).get? slot = some w ∧
          w'.deepEqual w = true := by
  have hsteady : Predicate.SteadyOn (fun _ : Nat => True) ⟨"count", fun _ n => (.ok true, n + 1)⟩ :=
    ⟨fun _ _ _ => trivial, fun _ _ _ _ _ => rfl⟩
  have hrelaxed : @Relaxed Nat
      (fun q => q = all [predicate ⟨"count", fun _ n => (.ok true, n + 1)⟩, capture ⟨⟨1⟩, "x"⟩])
      (object (some (.record (.derived 1 "Dog" (.root 0 "Animal"))))
        [("age", all [predicate ⟨"count", fun _ n => (.ok true, n + 1)⟩, capture ⟨⟨1⟩, "x"⟩]),
          ("legs", all [predicate ⟨"count", fun _ n => (.ok true, n + 1)⟩, capture ⟨⟨1⟩, "x"⟩])])
      (object (some (.record (.root 0 "Animal")))
        [("legs", all [predicate ⟨"count", fun _ n => (.ok true, n + 1)⟩,
          capture ⟨⟨1⟩, "x"⟩])]) := by
    refine .head (.leaf (.expected (s := .record (.root 0 "Animal")) rfl _)) (.single ?_)
    exact .leaf (.field _ [] _ _ rfl)
  have hv : (Value.record (.derived 1 "Dog" (.root 0 "Animal"))
      (.ofList [("age", .int 4), ("legs", .float ⟨0x4010000000000000⟩)])).Built :=
    .record _ _ (by simp [Value.Built.int, Value.Built.float])
  rcases extract_relaxed (s := 0) hrelaxed rfl (List.forall_mem_singleton.mpr hsteady.respects)
    (fun _ hq => hq ▸ List.forall_mem_singleton.mpr hsteady.unnoticed) hv ⟨trivial, trivial⟩ rfl
    with ⟨B', hB', hbound, -⟩
  exact ⟨rfl, B', hB', hbound⟩

/-- A relaxed pattern may refuse if a test that is left reads what a missing one
    has committed. -/
theorem extract_relaxed_bound :
    @Relaxed (Session Unit) (fun _ => True)
        (all [(capture ⟨⟨1⟩, "x"⟩).nested .propagate, isBound ⟨⟨1⟩, "x"⟩])
        (all [isBound ⟨⟨1⟩, "x"⟩]) ∧
      (all [(capture ⟨⟨1⟩, "x"⟩).nested .propagate,
        (isBound ⟨⟨1⟩, "x"⟩ : Pattern (Session Unit))]).anyFree = true ∧
      ((all [(capture ⟨⟨1⟩, "x"⟩).nested .propagate, isBound ⟨⟨1⟩, "x"⟩]).extract .fail (.int 1)
          ((Run.start ()).exec [.create]).session).1 = .ok (.matched .empty) ∧
      ((all [isBound ⟨⟨1⟩, "x"⟩]).extract .fail (.int 1)
          ((Run.start ()).exec [.create]).session).1 = .ok .noMatch :=
  ⟨.single (.leaf (.member [] _ trivial)), rfl, rfl, rfl⟩

end Pattern

end ShapeMatch
