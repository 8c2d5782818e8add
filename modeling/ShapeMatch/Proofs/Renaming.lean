import ShapeMatch.Proofs.Trails

/-!
# Renamed Slots

What a match has to do with the slots that its captures are written to.

A slot is known by its context and its name, and nothing else about it counts.
If slots are renamed and different ones stay different, every look-up and every
merge comes out as before. So the renamed pattern follows the original step by
step, with the renamed bindings. The two differ in what their captures do and in
nothing else, and a capture writes here to the slot that is the renamed one
there.

If the renaming makes several slots one, their captures have to agree as well.
Without alternatives this is all that changes: the trail of the renamed pattern
is the renamed trail, with the same tests. Its captures agree iff those of each
slot did before and, across the slots that have become one, the values that
these were bound to.

## Main definitions

* `Pattern.rename`: The captures of a pattern are written to other slots.
* `Bindings.rename`: The values are bound to other slots.
* `Comparison.renaming`: Two matches whose bindings differ by the renaming.

## Theorems

* `fold_rename`: Renaming and folding are one fold.
* `bind?_rename`, `absorb?_rename`: An injective renaming commutes with binding
  and merging.
* `follows_rename`: The renamed pattern follows the original.
* `extract_rename`, `calls_rename`: So an injective renaming commutes with
  matching, and the calls are the same.
* `trail_rename`: The trail of a renamed pattern.
* `consistent_rename_iff`: When renamed captures agree.
* `extract_renamed`: What a renaming does to a match.
-/

namespace ShapeMatch

variable {σ : Type} {r : Slot → Slot}

namespace Pattern

variable {β : Type}

/-- Write the captures of a pattern to other slots. -/
def rename (r : Slot → Slot) (p : Pattern σ) : Pattern σ :=
  p.fold ((testAlgebra id).withCapture fun slot => capture (r slot))

/-- Renaming and folding are one fold. -/
theorem fold_rename (r : Slot → Slot) (alg : Algebra σ β) (p : Pattern σ) :
    (p.rename r).fold alg = p.fold (alg.withCapture fun slot => alg.capture (r slot)) := by
  have hrelated := related_testAlgebra id alg
  have hrename : ((testAlgebra id).withCapture fun slot => capture (r slot)).Related
      (fun q x => q.fold alg = x) (alg.withCapture fun slot => alg.capture (r slot)) :=
    ⟨hrelated.literal, hrelated.typeMatch, hrelated.exactType, hrelated.seq, hrelated.cons,
      hrelated.mapping, hrelated.object, hrelated.all, hrelated.any, fun _ => rfl⟩
  exact fold_related hrename p fun _ _ => rfl

theorem mapTests_rename {τ : Type} (f : Predicate σ → Predicate τ) (p : Pattern σ) :
    (p.rename r).mapTests f = (p.mapTests f).rename r := by
  rw [mapTests, fold_rename, rename, mapTests, ← mapTests, fold_mapTests]
  rfl

theorem anyFree_rename (p : Pattern σ) : (p.rename r).anyFree = p.anyFree :=
  fold_rename r anyFreeAlgebra p

end Pattern

namespace Bindings

/-- Bind the values to other slots. -/
def rename (r : Slot → Slot) (b : Bindings) : Bindings :=
  ⟨⟨b.entries.map fun entry => (r entry.1, entry.2)⟩⟩

variable (hr : Function.Injective r)

include hr

theorem get?_rename (b : Bindings) (slot : Slot) : (b.rename r).get? (r slot) = b.get? slot := by
  rcases b with ⟨⟨entries⟩⟩
  induction entries with
  | nil => rfl
  | cons entry rest ih =>
      change Dictionary.get? ⟨(r entry.1, entry.2) :: _⟩ (r slot) =
        Dictionary.get? ⟨entry :: rest⟩ slot
      rw [Dictionary.get?_cons, Dictionary.get?_cons]
      by_cases hslot : entry.1 = slot
      · simp [hslot]
      · have hrenamed : r entry.1 ≠ r slot := hr.ne hslot
        simp only [beq_eq_false_iff_ne.mpr hslot, beq_eq_false_iff_ne.mpr hrenamed]
        exact ih

theorem bind?_rename (b : Bindings) (slot : Slot) (v : Value) :
    (b.rename r).bind? (r slot) v = (b.bind? slot v).map (rename r) := by
  unfold bind?
  rw [get?_rename hr]
  cases hget : b.get? slot with
  | some bound =>
      by_cases hbound : bound.deepEqual v = true
      · simp [hbound]
      · simp [hbound]
  | none =>
      have hrenamed : (b.rename r).slots.get? (r slot) = none := (get?_rename hr b slot).trans hget
      simp only [Option.map_some, Option.some.injEq]
      rw [Dictionary.insert_of_get?_eq_none _ _ _ hrenamed,
        Dictionary.insert_of_get?_eq_none _ _ _ hget]
      simp [rename, entries]

theorem absorb?_rename (b other : Bindings) :
    (b.rename r).absorb? (other.rename r) = (b.absorb? other).map (rename r) := by
  unfold absorb?
  change (other.entries.map fun entry => (r entry.1, entry.2)).foldlM _ _ = _
  generalize other.entries = entries
  induction entries generalizing b with
  | nil => rfl
  | cons entry rest ih =>
      rw [List.map_cons, List.foldlM_cons, List.foldlM_cons, bind?_rename hr]
      cases b.bind? entry.1 entry.2 with
      | none => rfl
      | some merged => exact ih merged

end Bindings

/-- The result with the values bound to other slots. -/
def MatchResult.rename (r : Slot → Slot) : MatchResult → MatchResult
  | matched bindings => matched (bindings.rename r)
  | noMatch => noMatch

/-- The same values and states, and renamed bindings, where no match goes on without
    the other. -/
def Comparison.renaming (r : Slot → Slot) : Comparison σ σ where
  values := Eq
  bindings := fun b c => c = b.rename r
  verdicts := fun _ => True
  states := Eq
  ended := fun _ _ _ => False

section Injective

variable (hr : Function.Injective r)

include hr

theorem Comparison.merging_renaming : (Comparison.renaming (σ := σ) r).Merging where
  decided := fun _ => trivial
  views := Value.views_eq
  absorb := by
    intro m m' b c hm hbc
    cases hm
    cases hbc
    rw [Bindings.absorb?_rename hr]
    cases m.absorb? b with
    | none => exact .none
    | some merged => exact .some rfl

theorem Matcher.follows_capture_rename (slot : Slot) :
    Follows (.renaming (σ := σ) r) (fun v => Step.record slot v)
      (fun v => Step.record (r slot) v) := by
  intro v w hvw
  cases hvw
  refine Step.follows_record (Comparison.merging_renaming hr) fun {b c} hbc => ?_
  cases hbc
  rw [Bindings.bind?_rename hr]
  cases b.bind? slot v with
  | none => exact .none
  | some bound => exact .some rfl

namespace Pattern

variable (policy : ErrorPolicy) (p : Pattern σ) (v : Value) (s : σ)

/-- Under an injective renaming the renamed pattern follows the original. -/
theorem follows_rename :
    Matcher.Follows (.renaming r) (p.matcher policy) ((p.rename r).matcher policy) := by
  rw [matcher, matcher, fold_rename]
  refine fold_related (Matcher.related_of_captures (Comparison.merging_renaming hr) (fun h => h)
    (fun h _ => h ▸ optionRel_self fun _ _ => rfl) (Matcher.follows_capture_rename hr)
    (Matcher.predicate policy) (Matcher.predicate policy)) p fun t _ => ?_
  refine Matcher.follows_predicate_of (fun h => h) (fun h => h) fun {v w} hvw {s s'} hs => ?_
  cases hvw
  cases hs
  exact ⟨rfl, trivial, rfl⟩

/-- An injective renaming commutes with matching. -/
theorem extract_rename : (p.rename r).extract policy v s =
    ((p.extract policy v s).1.map (MatchResult.rename r), (p.extract policy v s).2) := by
  have hattempt := (p.follows_rename hr policy (Eq.refl v)).along (b := .empty) (c := .empty) rfl
    (Eq.refl s)
  rw [extract_eq_outcome, extract_eq_outcome]
  generalize p.matcher policy v .empty s = a, (p.rename r).matcher policy v .empty s = a'
    at hattempt
  cases hattempt with
  | ended hnever => exact hnever.elim
  | @alike verdict b c s t _ hbc hs =>
      cases hbc
      cases hs
      rcases verdict with _ | _ | _
      · rfl
      · rfl
      · rfl

theorem calls_rename : (p.rename r).calls policy v s = p.calls policy v s := by
  unfold calls recorded
  rw [mapTests_rename, extract_rename hr]

end Pattern

end Injective

/-- The event with another slot. -/
def Event.rename (r : Slot → Slot) : Event σ → Event σ
  | .capture slot value => .capture (r slot) value
  | .test t value => .test t value

namespace Trail

theorem captures_rename (T : Trail σ) :
    Trail.captures (T.map (Event.rename r)) = T.captures.map fun c => (r c.1, c.2) := by
  unfold captures
  rw [List.filterMap_map, List.map_filterMap]
  refine List.filterMap_congr fun event _ => ?_
  cases event with
  | capture slot value => rfl
  | test t value => rfl

theorem passes_rename_iff {T : Trail σ} {s s' : σ} :
    Passes (T.map (Event.rename r)) s s' ↔ T.Passes s s' := by
  induction T generalizing s with
  | nil => exact Iff.rfl
  | cons event rest ih =>
      cases event with
      | capture slot value =>
          simp only [List.map_cons, Event.rename, passes_capture_iff, ih]
      | test t value => simp only [List.map_cons, Event.rename, passes_test_iff, ih]

end Trail

namespace Pattern

/-- The trail of a renamed pattern is the renamed trail. -/
theorem trail_rename (r : Slot → Slot) (p : Pattern σ) (v : Value) :
    (p.rename r).trail v = (p.trail v).map (List.map (Event.rename r)) :=
  (congrFun (fold_rename r _ p) v).trans (fold_eq_map_trail (Event.rename r) p v)

end Pattern

/-- Renamed captures agree iff the captures agree, and the values of slots that
    have become one. -/
theorem consistent_rename_iff {captures : List Capture} (hbuilt : ∀ c ∈ captures, c.2.Built) :
    Consistent (captures.map fun c => (r c.1, c.2)) ↔
      Consistent captures ∧ ∀ x y u w, r x = r y → captures.lookup x = some u →
        captures.lookup y = some w → u.deepEqual w = true := by
  have halike := Value.equivalenceOn_alike
  unfold Consistent
  simp only [List.forall_mem_map]
  constructor
  · intro h
    refine ⟨fun c hc d hd hslot => h c hc d hd (congrArg r hslot), ?_⟩
    intro x y u w hxy hu hw
    exact h _ (Bindings.mem_of_lookup hu) _ (Bindings.mem_of_lookup hw) hxy
  · intro h c hc d hd hslot
    rcases Option.isSome_iff_exists.mp (Bindings.isSome_lookup hc) with ⟨u, hu⟩
    rcases Option.isSome_iff_exists.mp (Bindings.isSome_lookup hd) with ⟨w, hw⟩
    have hu' := Bindings.mem_of_lookup hu
    have hw' := Bindings.mem_of_lookup hw
    -- From the capture to the value of its slot, across, and back.
    have hcu : c.2.Alike u := h.1 c hc _ hu' rfl
    have huw : u.Alike w := h.2 _ _ _ _ hslot hu hw
    have hwd : w.Alike d.2 := h.1 _ hw' d hd rfl
    have hcw := halike.trans (hbuilt c hc) (hbuilt _ hu') (hbuilt _ hw') hcu huw
    exact halike.trans (hbuilt c hc) (hbuilt _ hw') (hbuilt d hd) hcw hwd

namespace Pattern

/-- Slots are known by context and name alone. An injective renaming of slots
    changes nothing about a match but the slots in its bindings. And without
    alternatives, a renaming that makes slots one changes nothing but that the
    values of these slots have to agree. -/
theorem extract_renamed (policy : ErrorPolicy) (r : Slot → Slot) (p : Pattern σ) (v : Value)
    (s : σ) :
    (Function.Injective r →
      (p.rename r).extract policy v s =
          ((p.extract policy v s).1.map (MatchResult.rename r), (p.extract policy v s).2) ∧
        (p.rename r).calls policy v s = p.calls policy v s) ∧
    (p.anyFree = true → v.Built →
      ((∃ B, ((p.rename r).extract policy v s).1 = .ok (.matched B)) ↔
        ∃ B, (p.extract policy v s).1 = .ok (.matched B) ∧
          ∀ x y u w, r x = r y → B.get? x = some u → B.get? y = some w →
            u.deepEqual w = true)) := by
  refine ⟨fun hr => ⟨extract_rename hr policy p v s, calls_rename hr policy p v s⟩, fun hp hv => ?_⟩
  have hp' := (anyFree_rename (r := r) p).trans hp
  constructor
  · intro h
    rcases h with ⟨B, hB⟩
    rcases (extract_iff_trail hp' hv).mp (Prod.ext hB rfl) with
      ⟨_, htrail, hpasses, hconsistent, -⟩
    rw [trail_rename] at htrail
    rcases Option.map_eq_some_iff.mp htrail with ⟨T, hT, rfl⟩
    rw [Trail.passes_rename_iff] at hpasses
    rw [Trail.captures_rename, consistent_rename_iff (built_of_trail hv hT hpasses)] at hconsistent
    refine ⟨_, congrArg Prod.fst
      ((extract_iff_trail hp hv).mpr ⟨T, hT, hpasses, hconsistent.1, rfl⟩), ?_⟩
    simp only [Bindings.get?_extend_empty]
    exact hconsistent.2
  · intro h
    rcases h with ⟨B, hB, hagree⟩
    rcases (extract_iff_trail hp hv).mp (Prod.ext hB rfl) with ⟨T, hT, hpasses, hconsistent, rfl⟩
    simp only [Bindings.get?_extend_empty] at hagree
    have hrenamed :=
      (consistent_rename_iff (built_of_trail hv hT hpasses)).mpr ⟨hconsistent, hagree⟩
    rw [← Trail.captures_rename] at hrenamed
    have hT' := (trail_rename r p v).trans (congrArg (Option.map (List.map (Event.rename r))) hT)
    exact ⟨_, congrArg Prod.fst ((extract_iff_trail hp' hv).mpr
      ⟨_, hT', Trail.passes_rename_iff.mpr hpasses, hrenamed, rfl⟩)⟩

-- Contexts counted from two, and two contexts that become one.
theorem extract_renamed_of_contexts :
    ((any [literal .none, seq .list [capture ⟨⟨1⟩, "x"⟩, capture ⟨⟨2⟩, "x"⟩]]).rename
        fun slot => ⟨⟨slot.context.number + 1⟩, slot.name⟩).extract .fail
        (.seq .list [.int 1, .float ⟨0x3ff0000000000000⟩]) () =
      (.ok (.matched ⟨⟨[(⟨⟨2⟩, "x"⟩, .int 1), (⟨⟨3⟩, "x"⟩, .float ⟨0x3ff0000000000000⟩)]⟩⟩), ()) ∧
    ∃ B, (((seq .list [capture ⟨⟨1⟩, "x"⟩, capture ⟨⟨2⟩, "x"⟩]).rename
        fun slot => ⟨⟨1⟩, slot.name⟩).extract .fail
        (.seq .list [.int 1, .float ⟨0x3ff0000000000000⟩]) ()).1 = .ok (.matched B) := by
  have hr : Function.Injective fun slot : Slot =>
      (⟨⟨slot.context.number + 1⟩, slot.name⟩ : Slot) := by
    intro x y hxy
    simp only [Slot.mk.injEq, ContextId.mk.injEq, Nat.add_right_cancel_iff] at hxy
    exact congrArg₂ (fun number name => (⟨⟨number⟩, name⟩ : Slot)) hxy.1 hxy.2
  have hv : (Value.seq .list [.int 1, .float ⟨0x3ff0000000000000⟩]).Built :=
    .seq .list _ (by simp [Value.Built.int, Value.Built.float])
  refine ⟨((extract_renamed .fail _ _ _ ()).1 hr).1, ((extract_renamed .fail _ _ _ ()).2 rfl hv).mpr
    ⟨⟨⟨[(⟨⟨1⟩, "x"⟩, .int 1), (⟨⟨2⟩, "x"⟩, .float ⟨0x3ff0000000000000⟩)]⟩⟩, rfl, ?_⟩⟩
  -- The number one in both slots, once as an integer and once as a float.
  have hone : ∀ {slot u}, Bindings.get?
      ⟨⟨[(⟨⟨1⟩, "x"⟩, .int 1), (⟨⟨2⟩, "x"⟩, .float ⟨0x3ff0000000000000⟩)]⟩⟩ slot = some u →
        u = .int 1 ∨ u = .float ⟨0x3ff0000000000000⟩ := by
    intro slot u hu
    rcases Dictionary.exists_mem_of_get? hu with ⟨_, hmem, -⟩
    simp only [List.mem_cons, Prod.mk.injEq, List.not_mem_nil, or_false] at hmem
    exact hmem.imp And.right And.right
  intro x y u w _ hu hw
  rcases hone hu with rfl | rfl
  · rcases hone hw with rfl | rfl
    · rfl
    · rfl
  · rcases hone hw with rfl | rfl
    · rfl
    · rfl

end Pattern

end ShapeMatch
