import ShapeMatch.Proofs.Threading

/-!
# Trails

What a pattern without alternatives does to a value that it accepts, as a list.

Where no alternative has to be chosen, nothing that happens during a match can
change where it goes. The pattern and the shape of the value alone decide which
captures are recorded and which tests are called on what, and in which order.
This list is the trail of the pattern on the value; there is none where the
shape does not fit. What is left to the match is whether the tests on the trail
accept, one after another in the states that they lead to, and whether its
captures agree.

So a question about two matches becomes a question about two lists. What holds
for the leaves of two patterns and is kept when trails are put one after another
holds for the trails, and this is shown here once, for all ways in which the
leaves may be related.

## Main definitions

* `Event`: A capture, or a call of a test.
* `Trail`: The events of a match.
* `Trail.Passes`: All tests of a trail accept.
* `Pattern.trail`: The trail of a pattern on a value.
* `Trail.Leads`: What has a trail here has a related one there.

## Theorems

* `passes_append`: A trail passes if its parts do, one after the other.
* `trail_seq_iff`, `trail_all` and so on: The trails of the parts, in their
  order.
* `accepts_iff_trail`: A pattern accepts by the rules if the tests of its trail
  do.
* `extract_iff_trail`: An extraction succeeds if, moreover, the captures of the
  trail agree.
* `flatMap_collect_trail`: The events of a trail are those of the leaves.
* `anyFree_of_trail`: What has a trail has no alternatives.
* `related_algebra`: Trails are related if those of the leaves are.
* `fold_eq_map_trail`: The trail if each leaf does something else.
-/

namespace ShapeMatch

/-- What happens at a leaf: a value is captured, or a test is called. -/
inductive Event (σ : Type) where
  | capture (slot : Slot) (value : Value)
  | test (t : Predicate σ) (value : Value)

/-- The events of a match, in their order. -/
abbrev Trail (σ : Type) := List (Event σ)

variable {σ : Type}

namespace Event

/-- The capture that is recorded, if any. -/
def capture? : Event σ → Option Capture
  | capture slot value => some (slot, value)
  | test _ _ => none

/-- What is found at the leaf. -/
def collect {α : Type} (test : Predicate σ → List α) (capture : Slot → List α) :
    Event σ → List α
  | .capture slot _ => capture slot
  | .test t _ => test t

end Event

namespace Trail

/-- The captures of a trail. -/
def captures (T : Trail σ) : List Capture := T.filterMap Event.capture?

/-- All tests of a trail accept, each in the state that the last one has left. -/
inductive Passes : Trail σ → σ → σ → Prop
  | nil {s : σ} : Passes [] s s
  | capture {slot : Slot} {value : Value} {rest : Trail σ} {s s' : σ}
      (hrest : Passes rest s s') : Passes (.capture slot value :: rest) s s'
  | test {t : Predicate σ} {value : Value} {rest : Trail σ} {s s₁ s' : σ}
      (hfirst : t.test value s = (.ok true, s₁)) (hrest : Passes rest s₁ s') :
      Passes (.test t value :: rest) s s'

/-- Trails one after another, if all are there. -/
def inTurn : List (Option (Trail σ)) → Option (Trail σ)
  | [] => some []
  | trail :: rest => trail.bind fun first => (inTurn rest).map fun others => first ++ others

theorem captures_append (first rest : Trail σ) :
    (first ++ rest).captures = first.captures ++ rest.captures :=
  List.filterMap_append

section Inversion

variable {rest : Trail σ} {s s' : σ}

theorem passes_nil_iff : Passes [] s s' ↔ s = s' := by
  constructor
  · intro h
    cases h with
    | nil => rfl
  · exact fun h => h ▸ .nil

theorem passes_capture_iff {slot : Slot} {value : Value} :
    Passes (.capture slot value :: rest) s s' ↔ Passes rest s s' := by
  constructor
  · intro h
    cases h with
    | capture h => exact h
  · exact .capture

theorem passes_test_iff {t : Predicate σ} {value : Value} :
    Passes (.test t value :: rest) s s' ↔
      ∃ s₁, t.test value s = (.ok true, s₁) ∧ Passes rest s₁ s' := by
  constructor
  · intro h
    cases h with
    | test hfirst hrest => exact ⟨_, hfirst, hrest⟩
  · intro h
    rcases h with ⟨s₁, hfirst, hrest⟩
    exact .test hfirst hrest

end Inversion

theorem passes_append {first rest : Trail σ} {s s' : σ} :
    (first ++ rest).Passes s s' ↔ ∃ s₁, first.Passes s s₁ ∧ rest.Passes s₁ s' := by
  induction first generalizing s with
  | nil => simp only [List.nil_append, passes_nil_iff, exists_eq_left']
  | cons event first ih =>
      cases event with
      | capture slot value => simp only [List.cons_append, passes_capture_iff, ih]
      | test t value =>
          simp only [List.cons_append, passes_test_iff, ih]
          constructor
          · intro h
            rcases h with ⟨s₂, htest, s₁, hfirst, hrest⟩
            exact ⟨s₁, ⟨s₂, htest, hfirst⟩, hrest⟩
          · intro h
            rcases h with ⟨s₁, ⟨s₂, htest, hfirst⟩, hrest⟩
            exact ⟨s₂, htest, s₁, hfirst, hrest⟩

theorem inTurn_cons_iff {trail : Option (Trail σ)} {rest : List (Option (Trail σ))} {T : Trail σ} :
    inTurn (trail :: rest) = some T ↔
      ∃ first others, trail = some first ∧ inTurn rest = some others ∧ first ++ others = T := by
  rw [inTurn, Option.bind_eq_some_iff]
  simp only [Option.map_eq_some_iff]
  constructor
  · intro h
    rcases h with ⟨first, hfirst, others, hothers, happend⟩
    exact ⟨first, others, hfirst, hothers, happend⟩
  · intro h
    rcases h with ⟨first, others, hfirst, hothers, happend⟩
    exact ⟨first, hfirst, others, hothers, happend⟩

theorem inTurn_append_iff {trails rest : List (Option (Trail σ))} {T : Trail σ} :
    inTurn (trails ++ rest) = some T ↔
      ∃ first others, inTurn trails = some first ∧ inTurn rest = some others ∧
        first ++ others = T := by
  induction trails generalizing T with
  | nil => simp [inTurn]
  | cons trail trails ih =>
      rw [List.cons_append, inTurn_cons_iff]
      simp only [ih, inTurn_cons_iff]
      constructor
      · intro h
        rcases h with ⟨first, _, hfirst, ⟨second, others, hsecond, hothers, rfl⟩, rfl⟩
        exact ⟨first ++ second, others, ⟨first, second, hfirst, hsecond, rfl⟩, hothers,
          List.append_assoc first second others⟩
      · intro h
        rcases h with ⟨_, others, ⟨first, second, hfirst, hsecond, rfl⟩, hothers, rfl⟩
        exact ⟨first, second ++ others, hfirst, ⟨second, others, hsecond, hothers, rfl⟩,
          (List.append_assoc first second others).symm⟩

end Trail

/-- The trail on each value, if there is one. -/
abbrev Tracer (σ : Type) := Value → Option (Trail σ)

namespace Tracer

/-- The empty trail on some values, and none on the others. -/
def accept (accepted : Value → Bool) : Tracer σ := fun v => if accepted v then some [] else none

/-- The trails of the items of a sequence of that kind and length. -/
def seq (kind : SeqKind) (items : List (Tracer σ)) : Tracer σ := fun v =>
  v.asSequence?.bind fun view =>
    if view.1 = kind ∧ view.2.length = items.length then
      Trail.inTurn (List.zipWith (fun m v => m v) items view.2)
    else none

/-- The trails of the first item of a sequence and of the other ones. -/
def cons (head tail : Tracer σ) : Tracer σ := fun v =>
  match v.asSequence? with
  | some (kind, first :: rest) => Trail.inTurn [head first, tail (.ofSequence kind rest)]
  | _ => none

/-- The trails of the values under the listed keys of a map. -/
def mapping (entries : List (Value × Tracer σ)) : Tracer σ := fun v =>
  if v.isMapping then Trail.inTurn (entries.map fun entry => (v.lookup? entry.1).bind entry.2)
  else none

/-- The trails of the listed fields of a record of the expected type. -/
def object (expected : Option TypeTag) (fields : List (String × Tracer σ)) : Tracer σ := fun v =>
  if v.isRecord && expected.all (v.typeOf.isSubtypeOf ·) then
    Trail.inTurn (fields.map fun field => (v.field? field.1).bind field.2)
  else none

/-- The trails of all members. -/
def all (members : List (Tracer σ)) : Tracer σ := fun v => Trail.inTurn (members.map fun m => m v)

/-- The call of a test. -/
def test (t : Predicate σ) : Tracer σ := fun v => some [.test t v]

/-- A capture. -/
def capture (slot : Slot) : Tracer σ := fun v => some [.capture slot v]

/-- How trails are found, kind by kind, whatever they are at the tests and the
    captures. A choice among alternatives has none. -/
def algebra {ρ : Type} (test : Predicate ρ → Tracer σ) (capture : Slot → Tracer σ) :
    Pattern.Algebra ρ (Tracer σ) where
  literal expected := accept fun v => v.deepEqual expected
  typeMatch tag := accept fun v => v.typeOf.isSubtypeOf tag
  exactType tag := accept fun v => v.typeOf = tag
  seq := seq
  cons := cons
  mapping := mapping
  object := object
  all := all
  any _ := fun _ => none
  predicate := test
  capture := capture

section Equations

variable {v : Value} {T : Trail σ}

theorem accept_iff {accepted : Value → Bool} :
    accept accepted v = some T ↔ accepted v = true ∧ T = [] := by
  unfold accept
  by_cases h : accepted v = true
  · simp [h, eq_comm]
  · simp [h]

theorem seq_iff {kind : SeqKind} {items : List (Tracer σ)} : seq kind items v = some T ↔
    ∃ parts, (v.asSequence? = some (kind, parts) ∧ parts.length = items.length) ∧
      Trail.inTurn (List.zipWith (fun m v => m v) items parts) = some T := by
  unfold seq
  rw [Option.bind_eq_some_iff]
  constructor
  · intro h
    rcases h with ⟨⟨k, parts⟩, hview, h⟩
    rw [Option.ite_none_right_eq_some] at h
    rcases h with ⟨⟨rfl, hlength⟩, h⟩
    exact ⟨parts, ⟨hview, hlength⟩, h⟩
  · intro h
    rcases h with ⟨parts, ⟨hview, hlength⟩, h⟩
    exact ⟨(kind, parts), hview, (if_pos ⟨rfl, hlength⟩).trans h⟩

theorem cons_iff {head tail : Tracer σ} : cons head tail v = some T ↔
    ∃ kind first rest, v.asSequence? = some (kind, first :: rest) ∧
      Trail.inTurn [head first, tail (.ofSequence kind rest)] = some T := by
  unfold cons
  rcases v.asSequence? with _ | ⟨kind, _ | ⟨first, rest⟩⟩
  · simp
  · simp
  · simp

theorem mapping_iff {entries : List (Value × Tracer σ)} : mapping entries v = some T ↔
    v.isMapping = true ∧
      Trail.inTurn (entries.map fun entry => (v.lookup? entry.1).bind entry.2) = some T :=
  Option.ite_none_right_eq_some

theorem object_iff {expected : Option TypeTag} {fields : List (String × Tracer σ)} :
    object expected fields v = some T ↔
      (v.isRecord = true ∧ ∀ tag ∈ expected, v.typeOf.isSubtypeOf tag = true) ∧
      Trail.inTurn (fields.map fun field => (v.field? field.1).bind field.2) = some T := by
  unfold object
  rw [Option.ite_none_right_eq_some, Bool.and_eq_true, Option.all_eq_true]
  rfl

end Equations

end Tracer

namespace Pattern

/-- The captures and calls of a pattern on a value that it accepts. -/
def trail (p : Pattern σ) : Tracer σ := p.fold (Tracer.algebra .test .capture)

/-- The trails of parts, one after another. -/
def trailInTurn (parts : List (Pattern σ × Option Value)) : Option (Trail σ) :=
  Trail.inTurn (parts.map fun part => part.2.bind part.1.trail)

section Equations

variable {v : Value} {T : Trail σ}

theorem trail_literal_iff {expected : Value} :
    (literal expected : Pattern σ).trail v = some T ↔ v.deepEqual expected = true ∧ T = [] :=
  @Tracer.accept_iff _ v T fun v => v.deepEqual expected

theorem trail_typeMatch_iff {tag : TypeTag} :
    (typeMatch tag : Pattern σ).trail v = some T ↔ v.typeOf.isSubtypeOf tag = true ∧ T = [] :=
  @Tracer.accept_iff _ v T fun v => v.typeOf.isSubtypeOf tag

theorem trail_exactType_iff {tag : TypeTag} :
    (exactType tag : Pattern σ).trail v = some T ↔ v.typeOf = tag ∧ T = [] := by
  refine (@Tracer.accept_iff _ v T fun v => v.typeOf = tag).trans ?_
  rw [decide_eq_true_iff]

theorem trail_seq_iff {kind : SeqKind} {items : List (Pattern σ)} :
    (seq kind items).trail v = some T ↔
      ∃ parts, (v.asSequence? = some (kind, parts) ∧ parts.length = items.length) ∧
        trailInTurn (items.zip (parts.map some)) = some T := by
  have hparts : ∀ vs : List Value, trailInTurn (items.zip (vs.map some)) =
      Trail.inTurn (List.zipWith (fun m v => m v) (items.map trail) vs) := by
    intro vs
    rw [trailInTurn, List.zip_map_right, List.map_map, List.zipWith_map_left, List.zip,
      List.map_zipWith]
    rfl
  rw [trail, fold_seq]
  refine Tracer.seq_iff.trans ?_
  simp only [hparts, List.length_map]
  rfl

theorem trail_cons_iff {head tail : Pattern σ} : (cons head tail).trail v = some T ↔
    ∃ kind first rest, v.asSequence? = some (kind, first :: rest) ∧
      trailInTurn [(head, some first), (tail, some (.ofSequence kind rest))] = some T :=
  Tracer.cons_iff

theorem trail_mapping_iff {entries : List (Value × Pattern σ)} :
    (mapping entries).trail v = some T ↔ v.isMapping = true ∧
      trailInTurn (entries.map fun entry => (entry.2, v.lookup? entry.1)) = some T := by
  rw [trail, fold_mapping]
  refine Tracer.mapping_iff.trans ?_
  rw [trailInTurn, List.map_map, List.map_map]
  rfl

theorem trail_object_iff {expected : Option TypeTag} {fields : List (String × Pattern σ)} :
    (object expected fields).trail v = some T ↔
      (v.isRecord = true ∧ ∀ tag ∈ expected, v.typeOf.isSubtypeOf tag = true) ∧
      trailInTurn (fields.map fun field => (field.2, v.field? field.1)) = some T := by
  rw [trail, fold_object]
  refine Tracer.object_iff.trans ?_
  rw [trailInTurn, List.map_map, List.map_map]
  rfl

theorem trail_all (members : List (Pattern σ)) (v : Value) :
    (all members).trail v = trailInTurn (members.map fun p => (p, some v)) := by
  rw [trail, fold_all, trailInTurn, List.map_map]
  change Trail.inTurn ((members.map trail).map fun m => m v) = _
  rw [List.map_map]
  rfl

theorem trail_any (alternatives : List (Pattern σ)) (v : Value) :
    (any alternatives).trail v = none := by
  rw [trail, fold_any]
  rfl

end Equations

section Alternatives

theorem exists_trail_of_mem (parts : List (Pattern σ × Option Value)) :
    ∀ {T : Trail σ}, trailInTurn parts = some T →
      ∀ part ∈ parts, ∃ w U, part.1.trail w = some U := by
  induction parts with
  | nil => exact fun _ _ h => absurd h List.not_mem_nil
  | cons part rest ih =>
      intro T hT
      rw [trailInTurn, List.map_cons, Trail.inTurn_cons_iff] at hT
      rcases hT with ⟨first, others, hfirst, hothers, -⟩
      rcases Option.bind_eq_some_iff.mp hfirst with ⟨w, -, hfirst⟩
      exact List.forall_mem_cons.mpr ⟨⟨w, first, hfirst⟩, ih hothers⟩

/-- A pattern that has a trail has no alternatives, at any depth. -/
theorem anyFree_of_trail (p : Pattern σ) : ∀ {v : Value} {T : Trail σ}, p.trail v = some T →
    p.anyFree = true := by
  induction p using Pattern.induction with
  | literal expected => exact fun _ => rfl
  | typeMatch tag => exact fun _ => rfl
  | exactType tag => exact fun _ => rfl
  | seq kind items ih =>
      intro v T hT
      rcases trail_seq_iff.mp hT with ⟨parts, ⟨-, hlength⟩, hT⟩
      refine (anyFree_seq kind items).mpr fun p hp => ?_
      -- Every item has met a value, since there are as many.
      have hitems : (items.zip (parts.map some)).map Prod.fst = items :=
        List.map_fst_zip (by simp [hlength])
      rcases List.mem_map.mp (hitems.symm ▸ hp) with ⟨part, hpart, rfl⟩
      rcases exists_trail_of_mem _ hT part hpart with ⟨w, U, hU⟩
      exact ih part.1 hp hU
  | cons head tail ihhead ihtail =>
      intro v T hT
      rcases trail_cons_iff.mp hT with ⟨kind, first, rest, -, hT⟩
      have hparts := exists_trail_of_mem _ hT
      simp only [List.forall_mem_cons] at hparts
      rcases hparts with ⟨⟨_, _, hhead⟩, ⟨_, _, htail⟩, -⟩
      exact (anyFree_cons head tail).mpr ⟨ihhead hhead, ihtail htail⟩
  | mapping entries ih =>
      intro v T hT
      refine (anyFree_mapping entries).mpr fun entry hentry => ?_
      rcases exists_trail_of_mem _ (trail_mapping_iff.mp hT).2 _ (List.mem_map_of_mem hentry) with
        ⟨w, U, hU⟩
      exact ih entry hentry hU
  | object expected fields ih =>
      intro v T hT
      refine (anyFree_object expected fields).mpr fun field hfield => ?_
      rcases exists_trail_of_mem _ (trail_object_iff.mp hT).2 _ (List.mem_map_of_mem hfield) with
        ⟨w, U, hU⟩
      exact ih field hfield hU
  | all members ih =>
      intro v T hT
      rw [trail_all] at hT
      refine (anyFree_all members).mpr fun p hp => ?_
      rcases exists_trail_of_mem _ hT _ (List.mem_map_of_mem hp) with ⟨w, U, hU⟩
      exact ih p hp hU
  | any alternatives _ =>
      intro v T hT
      rw [trail_any] at hT
      exact nomatch hT
  | predicate t => exact fun _ => rfl
  | capture slot => exact fun _ => rfl

end Alternatives

section Acceptance

variable {policy : ErrorPolicy}

/-- A pattern accepts by the rules where the tests of its trail accept. -/
def Trailed (policy : ErrorPolicy) (p : Pattern σ) : Prop :=
  ∀ (v : Value) (b : Bindings) (s s' : σ) (E : List Capture), Accepts policy p v b s E s' ↔
    ∃ T, p.trail v = some T ∧ T.captures = E ∧ T.Passes s s'

-- Each part starts from more bindings than the last one, and no trail depends on
-- any.
theorem acceptsInTurn_iff_trail (parts : List (Pattern σ × Option Value)) :
    ∀ {b : Bindings} {s s' : σ} {E : List Capture}, (∀ part ∈ parts, Trailed policy part.1) →
      (AcceptsInTurn policy parts b s E s' ↔
        ∃ T, trailInTurn parts = some T ∧ T.captures = E ∧ T.Passes s s') := by
  induction parts with
  | nil =>
      intro b s s' E _
      constructor
      · intro h
        cases h with
        | nil => exact ⟨[], rfl, rfl, .nil⟩
      · intro h
        rcases h with ⟨T, hT, rfl, hpasses⟩
        cases Option.some.inj hT
        cases hpasses with
        | nil => exact .nil
  | cons part rest ih =>
      intro b s s' E hparts
      rw [List.forall_mem_cons] at hparts
      rcases part with ⟨p, found⟩
      rw [trailInTurn, List.map_cons]
      simp only [Trail.inTurn_cons_iff]
      constructor
      · intro h
        cases h with
        | cons hfirst hrest =>
            rcases (hparts.1 _ _ _ _ _).mp hfirst with ⟨first, htrail, rfl, hpasses⟩
            rcases (ih hparts.2).mp hrest with ⟨others, hothers, rfl, hpasses'⟩
            exact ⟨first ++ others, ⟨first, others, htrail, hothers, rfl⟩,
              Trail.captures_append first others, Trail.passes_append.mpr ⟨_, hpasses, hpasses'⟩⟩
      · intro h
        rcases h with ⟨_, ⟨first, others, hfirst, hothers, rfl⟩, rfl, hpasses⟩
        rcases Trail.passes_append.mp hpasses with ⟨s₁, hpasses, hpasses'⟩
        rcases Option.bind_eq_some_iff.mp hfirst with ⟨w, rfl, hfirst⟩
        rw [Trail.captures_append]
        exact .cons ((hparts.1 _ _ _ _ _).mpr ⟨first, hfirst, rfl, hpasses⟩)
          ((ih hparts.2).mpr ⟨others, hothers, rfl, hpasses'⟩)

-- The patterns that look at the whole value only have an empty trail.
theorem trailed_of_iff {p : Pattern σ} {accepted : Value → Prop}
    (htrail : ∀ {v T}, p.trail v = some T ↔ accepted v ∧ T = [])
    (h : ∀ {v b s E s'}, Accepts policy p v b s E s' ↔ accepted v ∧ E = [] ∧ s' = s) :
    Trailed policy p := by
  intro v b s s' E
  rw [h]
  simp only [htrail]
  constructor
  · intro hfits
    rcases hfits with ⟨haccepted, rfl, rfl⟩
    exact ⟨[], ⟨haccepted, rfl⟩, rfl, .nil⟩
  · intro hpasses
    rcases hpasses with ⟨_, ⟨haccepted, rfl⟩, rfl, hpasses⟩
    cases hpasses with
    | nil => exact ⟨haccepted, rfl, rfl⟩

/-- Without alternatives, a pattern accepts by the rules iff it has a trail whose
    tests accept, and it emits the captures of the trail. -/
theorem accepts_iff_trail (p : Pattern σ) : p.anyFree = true → Trailed policy p := by
  induction p using Pattern.induction with
  | literal expected => exact fun _ => trailed_of_iff trail_literal_iff accepts_literal_iff
  | typeMatch tag => exact fun _ => trailed_of_iff trail_typeMatch_iff accepts_typeMatch_iff
  | exactType tag => exact fun _ => trailed_of_iff trail_exactType_iff accepts_exactType_iff
  | seq kind items ih =>
      intro hp v b s s' E
      rw [anyFree_seq] at hp
      have hparts : ∀ parts : List (Option Value), ∀ part ∈ items.zip parts,
          Trailed policy part.1 := by
        intro parts part hpart
        have hmem := (List.of_mem_zip (a := part.1) (b := part.2) hpart).1
        exact ih part.1 hmem (hp part.1 hmem)
      rw [accepts_seq_iff]
      simp only [trail_seq_iff, acceptsInTurn_iff_trail _ (hparts _)]
      constructor
      · intro h
        rcases h with ⟨parts, hview, T, hT, hpasses⟩
        exact ⟨T, ⟨parts, hview, hT⟩, hpasses⟩
      · intro h
        rcases h with ⟨T, ⟨parts, hview, hT⟩, hpasses⟩
        exact ⟨parts, hview, T, hT, hpasses⟩
  | cons head tail ihhead ihtail =>
      intro hp v b s s' E
      rw [anyFree_cons] at hp
      have hparts : ∀ first rest : Option Value, ∀ part ∈ [(head, first), (tail, rest)],
          Trailed policy part.1 := by
        intro first rest
        simp only [List.forall_mem_cons]
        exact ⟨ihhead hp.1, ihtail hp.2, fun _ hpart => absurd hpart List.not_mem_nil⟩
      rw [accepts_cons_iff]
      simp only [trail_cons_iff, acceptsInTurn_iff_trail _ (hparts _ _)]
      constructor
      · intro h
        rcases h with ⟨kind, first, rest, hview, T, hT, hpasses⟩
        exact ⟨T, ⟨kind, first, rest, hview, hT⟩, hpasses⟩
      · intro h
        rcases h with ⟨T, ⟨kind, first, rest, hview, hT⟩, hpasses⟩
        exact ⟨kind, first, rest, hview, T, hT, hpasses⟩
  | mapping entries ih =>
      intro hp v b s s' E
      rw [anyFree_mapping] at hp
      have hparts : ∀ part ∈ entries.map fun entry => (entry.2, v.lookup? entry.1),
          Trailed policy part.1 :=
        List.forall_mem_map.mpr fun entry hentry => ih entry hentry (hp entry hentry)
      rw [accepts_mapping_iff, acceptsInTurn_iff_trail _ hparts]
      simp only [trail_mapping_iff, and_assoc, exists_and_left]
  | object expected fields ih =>
      intro hp v b s s' E
      rw [anyFree_object] at hp
      have hparts : ∀ part ∈ fields.map fun field => (field.2, v.field? field.1),
          Trailed policy part.1 :=
        List.forall_mem_map.mpr fun field hfield => ih field hfield (hp field hfield)
      rw [accepts_object_iff, acceptsInTurn_iff_trail _ hparts]
      simp only [trail_object_iff, and_assoc, exists_and_left]
  | all members ih =>
      intro hp v b s s' E
      rw [anyFree_all] at hp
      have hparts : ∀ part ∈ members.map fun p => (p, some v), Trailed policy part.1 :=
        List.forall_mem_map.mpr fun p hmem => ih p hmem (hp p hmem)
      rw [accepts_all_iff, trail_all, acceptsEach_iff_inTurn_same hp,
        acceptsInTurn_iff_trail _ hparts]
  | any alternatives _ =>
      intro hp
      rw [anyFree_any] at hp
      exact Bool.noConfusion hp
  | predicate t =>
      intro _ v b s s' E
      constructor
      · intro h
        cases h with
        | predicate h => exact ⟨[.test t v], rfl, rfl, .test h .nil⟩
      · intro h
        rcases h with ⟨T, hT, rfl, hpasses⟩
        cases Option.some.inj hT
        cases hpasses with
        | test h hrest =>
            cases hrest with
            | nil => exact .predicate h
  | capture slot =>
      intro _ v b s s' E
      constructor
      · intro h
        cases h with
        | capture => exact ⟨[.capture slot v], rfl, rfl, .capture .nil⟩
      · intro h
        rcases h with ⟨T, hT, rfl, hpasses⟩
        cases Option.some.inj hT
        cases hpasses with
        | capture hrest =>
            cases hrest with
            | nil => exact .capture

theorem built_of_trail {p : Pattern σ} {v : Value} (hv : v.Built) {T : Trail σ}
    (hT : p.trail v = some T) {s s' : σ} (hpasses : T.Passes s s') :
    ∀ c ∈ T.captures, c.2.Built :=
  ((@accepts_iff_trail _ .fail p (anyFree_of_trail p hT) v .empty s s' _).mpr
    ⟨T, hT, rfl, hpasses⟩).built hv

/-- Without alternatives, an extraction succeeds iff there is a trail whose tests
    accept and whose captures agree, and the captures are what is bound. -/
theorem extract_iff_trail {p : Pattern σ} (hp : p.anyFree = true) {v : Value} (hv : v.Built)
    {s s' : σ} {B : Bindings} : p.extract policy v s = (.ok (.matched B), s') ↔
      ∃ T, p.trail v = some T ∧ T.Passes s s' ∧ Consistent T.captures ∧
        B = Bindings.empty.extend T.captures := by
  rw [extract_eq_matched_iff hv]
  simp only [accepts_iff_trail p hp _ _ _ _ _]
  constructor
  · intro h
    rcases h with ⟨_, ⟨T, hT, rfl, hpasses⟩, hB, hconsistent⟩
    exact ⟨T, hT, hpasses, hconsistent, hB⟩
  · intro h
    rcases h with ⟨T, hT, hpasses, hconsistent, hB⟩
    exact ⟨T.captures, ⟨T, hT, rfl, hpasses⟩, hB, hconsistent⟩

end Acceptance

section Events

variable {α : Type} (test : Predicate σ → List α) (capture : Slot → List α)

theorem flatMap_collect_trailInTurn (parts : List (Pattern σ × Option Value)) :
    ∀ {T : Trail σ}, (∀ part ∈ parts, ∀ {v T}, part.1.trail v = some T →
        T.flatMap (Event.collect test capture) = part.1.collect test capture) →
      trailInTurn parts = some T →
      T.flatMap (Event.collect test capture) =
        ((parts.map Prod.fst).map (collect test capture)).flatten := by
  induction parts with
  | nil =>
      intro T _ hT
      cases Option.some.inj hT
      rfl
  | cons part rest ih =>
      intro T hparts hT
      rw [List.forall_mem_cons] at hparts
      rw [trailInTurn, List.map_cons, Trail.inTurn_cons_iff] at hT
      rcases hT with ⟨first, others, hfirst, hothers, rfl⟩
      rcases Option.bind_eq_some_iff.mp hfirst with ⟨w, -, hfirst⟩
      rw [List.flatMap_append, hparts.1 hfirst, ih hparts.2 hothers]
      rfl

/-- The events of a trail are those of the leaves of the pattern, in their order. -/
theorem flatMap_collect_trail (p : Pattern σ) : ∀ {v : Value} {T : Trail σ}, p.trail v = some T →
    T.flatMap (Event.collect test capture) = p.collect test capture := by
  induction p using Pattern.induction with
  | literal expected =>
      intro v T hT
      rw [(trail_literal_iff.mp hT).2]
      rfl
  | typeMatch tag =>
      intro v T hT
      rw [(trail_typeMatch_iff.mp hT).2]
      rfl
  | exactType tag =>
      intro v T hT
      rw [(trail_exactType_iff.mp hT).2]
      rfl
  | seq kind items ih =>
      intro v T hT
      rcases trail_seq_iff.mp hT with ⟨parts, ⟨-, hlength⟩, hT⟩
      rw [flatMap_collect_trailInTurn test capture _ ?_ hT, collect_seq, List.map_fst_zip]
      · simp [hlength]
      · exact fun part hpart => ih part.1 (List.of_mem_zip (a := part.1) (b := part.2) hpart).1
  | cons head tail ihhead ihtail =>
      intro v T hT
      rcases trail_cons_iff.mp hT with ⟨kind, first, rest, -, hT⟩
      rw [flatMap_collect_trailInTurn test capture _ ?_ hT, collect_cons]
      · simp
      · simp only [List.forall_mem_cons]
        exact ⟨ihhead, ihtail, fun _ hpart => absurd hpart List.not_mem_nil⟩
  | mapping entries ih =>
      intro v T hT
      rw [flatMap_collect_trailInTurn test capture _ (List.forall_mem_map.mpr ih)
        (trail_mapping_iff.mp hT).2, collect_mapping, List.map_map, List.map_map]
      rfl
  | object expected fields ih =>
      intro v T hT
      rw [flatMap_collect_trailInTurn test capture _ (List.forall_mem_map.mpr ih)
        (trail_object_iff.mp hT).2, collect_object, List.map_map, List.map_map]
      rfl
  | all members ih =>
      intro v T hT
      rw [trail_all] at hT
      rw [flatMap_collect_trailInTurn test capture _ (List.forall_mem_map.mpr ih) hT, collect_all,
        List.map_map, List.map_map]
      rfl
  | any alternatives _ =>
      intro v T hT
      rw [trail_any] at hT
      exact nomatch hT
  | predicate t =>
      intro v T hT
      cases Option.some.inj hT
      exact List.append_nil _
  | capture slot =>
      intro v T hT
      cases Option.some.inj hT
      exact List.append_nil _

end Events

end Pattern

section Leading

variable {τ : Type}

/-- A relation that is kept when trails are put one after another. -/
structure Trail.Joining (R : Trail σ → Trail τ → Prop) : Prop where
  nil : R [] []
  append : ∀ {T T' U U'}, R T T' → R U U' → R (T ++ U) (T' ++ U')

/-- If the first trail is there, so is the second, and they are related. -/
def Trail.Leads (R : Trail σ → Trail τ → Prop) (trail : Option (Trail σ))
    (trail' : Option (Trail τ)) : Prop :=
  ∀ T, trail = some T → ∃ T', trail' = some T' ∧ R T T'

/-- On all values. -/
def Tracer.Leads (R : Trail σ → Trail τ → Prop) (m : Tracer σ) (m' : Tracer τ) : Prop :=
  ∀ v, Trail.Leads R (m v) (m' v)

variable {R : Trail σ → Trail τ → Prop}

theorem Trail.leads_inTurn (hR : Joining R) {trails : List (Option (Trail σ))}
    {trails' : List (Option (Trail τ))} (h : List.Forall₂ (Leads R) trails trails') :
    Leads R (inTurn trails) (inTurn trails') := by
  induction h with
  | nil =>
      intro T hT
      cases Option.some.inj hT
      exact ⟨[], rfl, hR.nil⟩
  | cons hfirst _ ih =>
      intro T hT
      rcases inTurn_cons_iff.mp hT with ⟨first, others, htrail, htrails, rfl⟩
      rcases hfirst first htrail with ⟨first', htrail', hfirst⟩
      rcases ih others htrails with ⟨others', htrails', hothers⟩
      exact ⟨first' ++ others', inTurn_cons_iff.mpr ⟨_, _, htrail', htrails', rfl⟩,
        hR.append hfirst hothers⟩

theorem Trail.leads_bind {m : Tracer σ} {m' : Tracer τ} (h : Tracer.Leads R m m')
    (part : Option Value) : Leads R (part.bind m) (part.bind m') := by
  intro T hT
  rcases Option.bind_eq_some_iff.mp hT with ⟨w, rfl, hT⟩
  exact h w T hT

namespace Tracer

theorem leads_accept (hR : Trail.Joining R) {accepted accepted' : Value → Bool}
    (h : ∀ v, accepted v = true → accepted' v = true) :
    Leads R (accept accepted) (accept accepted') := by
  intro v T hT
  rcases accept_iff.mp hT with ⟨haccepted, rfl⟩
  exact ⟨[], accept_iff.mpr ⟨h v haccepted, rfl⟩, hR.nil⟩

theorem leads_seq (hR : Trail.Joining R) (kind : SeqKind) {ms : List (Tracer σ)}
    {ms' : List (Tracer τ)} (h : List.Forall₂ (Leads R) ms ms') :
    Leads R (seq kind ms) (seq kind ms') := by
  intro v T hT
  rcases seq_iff.mp hT with ⟨parts, ⟨hview, hlength⟩, hT⟩
  have hitems : List.Forall₂ (Trail.Leads R) (List.zipWith (fun m v => m v) ms parts)
      (List.zipWith (fun m v => m v) ms' parts) :=
    forall₂_zipWith (Q := Eq) (h.imp fun _ _ hm _ _ hvw => hvw ▸ hm _) (List.forall₂_refl parts)
  rcases Trail.leads_inTurn hR hitems T hT with ⟨T', hT', hrelated⟩
  exact ⟨T', seq_iff.mpr ⟨parts, ⟨hview, hlength.trans h.length_eq⟩, hT'⟩, hrelated⟩

theorem leads_cons (hR : Trail.Joining R) {head tail : Tracer σ} {head' tail' : Tracer τ}
    (hhead : Leads R head head') (htail : Leads R tail tail') :
    Leads R (cons head tail) (cons head' tail') := by
  intro v T hT
  rcases cons_iff.mp hT with ⟨kind, first, rest, hview, hT⟩
  rcases Trail.leads_inTurn hR (.cons (hhead first) (.cons (htail _) .nil)) T hT with
    ⟨T', hT', hrelated⟩
  exact ⟨T', cons_iff.mpr ⟨kind, first, rest, hview, hT'⟩, hrelated⟩

theorem leads_mapping (hR : Trail.Joining R) {entries : List (Value × Tracer σ)}
    {entries' : List (Value × Tracer τ)}
    (h : List.Forall₂ (fun x y => x.1 = y.1 ∧ Leads R x.2 y.2) entries entries') :
    Leads R (mapping entries) (mapping entries') := by
  intro v T hT
  rcases mapping_iff.mp hT with ⟨hview, hT⟩
  have hentries : List.Forall₂ (Trail.Leads R)
      (entries.map fun entry => (v.lookup? entry.1).bind entry.2)
      (entries'.map fun entry => (v.lookup? entry.1).bind entry.2) := by
    rw [List.forall₂_map_left_iff, List.forall₂_map_right_iff]
    exact h.imp fun x y hxy => hxy.1 ▸ Trail.leads_bind hxy.2 (v.lookup? x.1)
  rcases Trail.leads_inTurn hR hentries T hT with ⟨T', hT', hrelated⟩
  exact ⟨T', mapping_iff.mpr ⟨hview, hT'⟩, hrelated⟩

theorem leads_object (hR : Trail.Joining R) (expected : Option TypeTag)
    {fields : List (String × Tracer σ)} {fields' : List (String × Tracer τ)}
    (h : List.Forall₂ (fun x y => x.1 = y.1 ∧ Leads R x.2 y.2) fields fields') :
    Leads R (object expected fields) (object expected fields') := by
  intro v T hT
  rcases object_iff.mp hT with ⟨hview, hT⟩
  have hfields : List.Forall₂ (Trail.Leads R)
      (fields.map fun field => (v.field? field.1).bind field.2)
      (fields'.map fun field => (v.field? field.1).bind field.2) := by
    rw [List.forall₂_map_left_iff, List.forall₂_map_right_iff]
    exact h.imp fun x y hxy => hxy.1 ▸ Trail.leads_bind hxy.2 (v.field? x.1)
  rcases Trail.leads_inTurn hR hfields T hT with ⟨T', hT', hrelated⟩
  exact ⟨T', object_iff.mpr ⟨hview, hT'⟩, hrelated⟩

theorem leads_all (hR : Trail.Joining R) {ms : List (Tracer σ)} {ms' : List (Tracer τ)}
    (h : List.Forall₂ (Leads R) ms ms') : Leads R (all ms) (all ms') := by
  intro v
  refine Trail.leads_inTurn hR ?_
  rw [List.forall₂_map_left_iff, List.forall₂_map_right_iff]
  exact h.imp fun _ _ hm => hm v

/-- Finding trails keeps that they are related, if those of captures are. -/
theorem related_algebra (hR : Trail.Joining R) {ρ : Type} {test : Predicate ρ → Tracer σ}
    {test' : Predicate ρ → Tracer τ} {capture : Slot → Tracer σ} {capture' : Slot → Tracer τ}
    (hcapture : ∀ slot, Leads R (capture slot) (capture' slot)) :
    (algebra test capture).Related (Leads R) (algebra test' capture') where
  literal := fun _ => leads_accept hR fun _ h => h
  typeMatch := fun _ => leads_accept hR fun _ h => h
  exactType := fun _ => leads_accept hR fun _ h => h
  seq := fun kind _ _ h => leads_seq hR kind h
  cons := fun hhead htail => leads_cons hR hhead htail
  mapping := fun h => leads_mapping hR h
  object := fun expected _ _ h => leads_object hR expected h
  all := fun h => leads_all hR h
  any := fun _ _ _ hT => nomatch hT
  capture := hcapture

end Tracer

/-- The trail of a pattern whose leaves do something else, event by event. -/
theorem Pattern.fold_eq_map_trail (f : Event σ → Event τ) (p : Pattern σ) (v : Value) :
    p.fold (Tracer.algebra (fun t v => some [f (.test t v)]) fun slot v =>
      some [f (.capture slot v)]) v = (p.trail v).map (List.map f) := by
  have hforth : Trail.Joining fun (T : Trail σ) (T' : Trail τ) => T.map f = T' :=
    ⟨rfl, fun hT hU => by rw [List.map_append, hT, hU]⟩
  have hback : Trail.Joining fun (T' : Trail τ) (T : Trail σ) => T.map f = T' :=
    ⟨rfl, fun hT hU => by rw [List.map_append, hT, hU]⟩
  have hsingle : ∀ event : Event σ, Trail.Leads (fun T T' => T.map f = T') (some [event])
      (some [f event]) := fun event T hT => ⟨[f event], rfl, Option.some.inj hT ▸ rfl⟩
  have hsingle' : ∀ event : Event σ, Trail.Leads (fun T' T => T.map f = T') (some [f event])
      (some [event]) := fun event T' hT' => ⟨[event], rfl, Option.some.inj hT'⟩
  refine Option.ext fun T' => ?_
  rw [Option.map_eq_some_iff]
  constructor
  · exact fold_related (Tracer.related_algebra hback fun slot v => hsingle' (.capture slot v)) p
      (fun t _ v => hsingle' (.test t v)) v T'
  · intro h
    rcases h with ⟨T, hT, rfl⟩
    rcases fold_related (Tracer.related_algebra hforth fun slot v => hsingle (.capture slot v)) p
      (fun t _ v => hsingle (.test t v)) v T hT with ⟨T', hT', rfl⟩
    exact hT'

end Leading

end ShapeMatch
