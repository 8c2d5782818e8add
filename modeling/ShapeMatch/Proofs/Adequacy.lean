import ShapeMatch.Proofs.Acceptance
import ShapeMatch.Proofs.Folds

/-!
# Adequacy of Matching

Matching succeeds exactly where the rules of acceptance and the agreement of
the captures say so.

The rules emit captures and compare nothing, while a match compares each
capture at once, with whatever bindings it has at that point. The two meet in
one equivalence, for any bindings to start from: a match comes to acceptance
with bindings `b'` iff there is a derivation whose captures lead to `b'` and are
covered by it. It is proved for each combination of steps first, under the
assumption that it holds for the parts, and then for all patterns by
induction.

Only acceptance is described. What a step has recorded before it refused does
not matter, since steps in turn end with the first refusal, and the other
combinations go on from the bindings that they started with.

## Main definitions

* `Pattern.Adequate`: The equivalence, for one pattern.

## Theorems

* `inTurn_cons_iff`, `mergeFrom_cons_iff`, `anyOf_cons_iff`: When combined steps
  accept.
* `inTurn_iff`, `mergeFrom_iff`, `anyOf_iff`: Combined steps and the rules.
* `adequate`: The equivalence holds for all patterns.
-/

namespace ShapeMatch

variable {σ : Type}

namespace Step

variable {step : Step σ} {rest : List (Step σ)} {b b' : Bindings} {s s' : σ}

theorem answer_iff {accepted : Bool} :
    answer accepted b s = ⟨.ok true, b', s'⟩ ↔ accepted = true ∧ b' = b ∧ s' = s := by
  simp only [answer, Attempt.mk.injEq, Except.ok.injEq]
  rw [eq_comm (a := b), eq_comm (a := s)]

theorem inTurn_cons_iff :
    inTurn (step :: rest) b s = ⟨.ok true, b', s'⟩ ↔
      ∃ b₁ s₁, step b s = ⟨.ok true, b₁, s₁⟩ ∧ inTurn rest b₁ s₁ = ⟨.ok true, b', s'⟩ := by
  rw [inTurn_cons]
  rcases step b s with ⟨verdict, b₁, s₁⟩
  simp only [Attempt.andThen, Attempt.mk.injEq]
  rcases verdict with e | _ | _
  · simp
  · simp
  · simp

theorem mergeFrom_cons_iff {merged : Bindings} :
    mergeFrom b (step :: rest) merged s = ⟨.ok true, b', s'⟩ ↔
      ∃ b₁ s₁ merged', step b s = ⟨.ok true, b₁, s₁⟩ ∧ merged.absorb? b₁ = some merged' ∧
        mergeFrom b rest merged' s₁ = ⟨.ok true, b', s'⟩ := by
  rw [mergeFrom]
  rcases step b s with ⟨verdict, b₁, s₁⟩
  rcases verdict with e | _ | _
  · simp
  · simp
  · cases h : merged.absorb? b₁ with
    | none => simp [h]
    | some merged' => simp [h]

theorem anyOf_cons_iff :
    anyOf (step :: rest) b s = ⟨.ok true, b', s'⟩ ↔
      step b s = ⟨.ok true, b', s'⟩ ∨
        (step b s).verdict = .ok false ∧
          anyOf rest b (step b s).state = ⟨.ok true, b', s'⟩ := by
  rcases h : step b s with ⟨verdict, b₁, s₁⟩
  rcases verdict with e | _ | _
  · simp [anyOf, h]
  · simp [anyOf, h]
  · simp [anyOf, h]

end Step

namespace Pattern

/-- A match that starts from sound bindings succeeds with `b'` iff the pattern
    accepts, and the captures lead to `b'` and agree with it. -/
def Adequate (policy : ErrorPolicy) (p : Pattern σ) : Prop :=
  ∀ {v : Value} {b b' : Bindings} {s s' : σ}, v.Built → b.Sound →
    (p.matcher policy v b s = ⟨.ok true, b', s'⟩ ↔
      ∃ E, Accepts policy p v b s E s' ∧ b' = b.extend E ∧ b'.Covers E)

variable {policy : ErrorPolicy} {v : Value}

/-- The step that matches a part. -/
def partStep (policy : ErrorPolicy) (part : Pattern σ × Option Value) : Step σ :=
  Matcher.onPart (part.1.matcher policy) part.2

-- Each part starts from what the earlier ones have recorded, so the bindings
-- that the hypothesis is about change from part to part.
theorem inTurn_iff (parts : List (Pattern σ × Option Value)) :
    ∀ {b b' : Bindings} {s s' : σ}, (∀ part ∈ parts, Adequate policy part.1) → BuiltParts parts →
      b.Sound →
      (Step.inTurn (parts.map (partStep policy)) b s = ⟨.ok true, b', s'⟩ ↔
        ∃ E, AcceptsInTurn policy parts b s E s' ∧ b' = b.extend E ∧ b'.Covers E) := by
  induction parts with
  | nil =>
      intro b b' s s' _ _ hb
      rw [List.map_nil, Step.inTurn, Step.answer_iff]
      constructor
      · intro hrun
        rcases hrun with ⟨-, rfl, rfl⟩
        exact ⟨[], .nil, rfl, Bindings.covers_nil b'⟩
      · intro hderived
        rcases hderived with ⟨E, h, rfl, -⟩
        cases h with
        | nil => exact ⟨rfl, rfl, rfl⟩
  | cons part rest ih =>
      intro b b' s s' hparts hbuilt hb
      rw [List.forall_mem_cons] at hparts
      rw [List.map_cons, Step.inTurn_cons_iff]
      rcases part with ⟨p, part⟩
      cases part with
      | none =>
          -- A part that is not there is refused, and no rule accepts it.
          constructor
          · intro hrun
            rcases hrun with ⟨b₁, s₁, hstep, -⟩
            exact absurd (Step.answer_iff.mp hstep).1 Bool.false_ne_true
          · intro hderived
            rcases hderived with ⟨E, h, -, -⟩
            exact nomatch h
      | some w =>
          have hw := hbuilt.first
          constructor
          · intro hrun
            rcases hrun with ⟨b₁, s₁, hstep, hrest⟩
            rcases (hparts.1 hw hb).mp hstep with ⟨E, hE, rfl, hcovers⟩
            have hsound := Bindings.Sound.extend E hb (hE.built hw)
            rcases (ih hparts.2 hbuilt.rest hsound).mp hrest with ⟨F, hF, rfl, hcovers'⟩
            refine ⟨E ++ F, .cons hE hF, (Bindings.extend_append b E F).symm, ?_⟩
            rw [← Bindings.extend_append, Bindings.covers_extend_append]
            exact ⟨hcovers, hcovers'⟩
          · intro hderived
            rcases hderived with ⟨_, h, rfl, hcovers⟩
            cases h with
            | cons hE hF =>
                rename_i s₁ E F
                rw [Bindings.covers_extend_append] at hcovers
                have hsound := Bindings.Sound.extend E hb (hE.built hw)
                refine ⟨b.extend E, s₁, (hparts.1 hw hb).mpr ⟨E, hE, rfl, hcovers.1⟩, ?_⟩
                rw [ih hparts.2 hbuilt.rest hsound, Bindings.extend_append]
                exact ⟨F, hF, rfl, hcovers.2⟩

-- Each member starts from `parent` again. What is carried along is that
-- `merged` contains `parent`, which makes a branch and its merge one check.
theorem mergeFrom_iff {parent : Bindings} (hparent : parent.Sound) (hv : v.Built)
    (members : List (Pattern σ)) :
    ∀ {merged b' : Bindings} {s s' : σ}, (∀ p ∈ members, Adequate policy p) → merged.Sound →
      (∀ slot w, parent.get? slot = some w → merged.get? slot = some w) →
      (Step.mergeFrom parent (members.map fun p => p.matcher policy v) merged s =
          ⟨.ok true, b', s'⟩ ↔
        ∃ E, AcceptsEach policy members v parent s E s' ∧ b' = merged.extend E ∧
          b'.Covers E) := by
  induction members with
  | nil =>
      intro merged b' s s' _ _ _
      rw [List.map_nil, Step.mergeFrom, Attempt.mk.injEq]
      constructor
      · intro hrun
        rcases hrun with ⟨-, rfl, rfl⟩
        exact ⟨[], .nil, rfl, Bindings.covers_nil merged⟩
      · intro hderived
        rcases hderived with ⟨E, h, rfl, -⟩
        cases h with
        | nil => exact ⟨rfl, rfl, rfl⟩
  | cons p rest ih =>
      intro merged b' s s' hmembers hmerged hsub
      rw [List.forall_mem_cons] at hmembers
      rw [List.map_cons, Step.mergeFrom_cons_iff]
      -- What the parent has bound stays bound in whatever is merged later.
      have hsub' : ∀ (E : List Capture) slot w, parent.get? slot = some w →
          (merged.extend E).get? slot = some w :=
        fun E slot w h => Bindings.get?_extend_of_eq_some E (hsub slot w h)
      constructor
      · intro hrun
        rcases hrun with ⟨b₁, s₁, merged', hstep, habsorb, hrest⟩
        rcases (hmembers.1 hv hparent).mp hstep with ⟨E, hE, rfl, hcovers⟩
        have hbuilt := hE.built hv
        rcases (Bindings.absorb?_branch_iff hparent hmerged hbuilt hsub).mp ⟨hcovers, habsorb⟩ with
          ⟨rfl, hcovers'⟩
        have hsound := Bindings.Sound.extend E hmerged hbuilt
        rcases (ih hmembers.2 hsound (hsub' E)).mp hrest with ⟨F, hF, rfl, hcovers''⟩
        refine ⟨E ++ F, .cons hE hF, (Bindings.extend_append merged E F).symm, ?_⟩
        rw [← Bindings.extend_append, Bindings.covers_extend_append]
        exact ⟨hcovers', hcovers''⟩
      · intro hderived
        rcases hderived with ⟨_, h, rfl, hcovers⟩
        cases h with
        | cons hE hF =>
            rename_i s₁ E F
            rw [Bindings.covers_extend_append] at hcovers
            have hbuilt := hE.built hv
            have hsound := Bindings.Sound.extend E hmerged hbuilt
            rcases (Bindings.absorb?_branch_iff hparent hmerged hbuilt hsub).mpr
              ⟨rfl, hcovers.1⟩ with ⟨hbranch, habsorb⟩
            refine ⟨parent.extend E, s₁, merged.extend E,
              (hmembers.1 hv hparent).mpr ⟨E, hE, rfl, hbranch⟩, habsorb, ?_⟩
            rw [ih hmembers.2 hsound (hsub' E), Bindings.extend_append]
            exact ⟨F, hF, rfl, hcovers.2⟩

-- A refused alternative leaves the bindings alone, so one `b` serves for all.
theorem anyOf_iff {b b' : Bindings} {s' : σ} (hb : b.Sound) (hv : v.Built)
    (alternatives : List (Pattern σ)) :
    ∀ {s : σ}, (∀ p ∈ alternatives, Adequate policy p) →
      (Step.anyOf (alternatives.map fun p => p.matcher policy v) b s = ⟨.ok true, b', s'⟩ ↔
        ∃ E, AcceptsFirst policy alternatives v b s E s' ∧ b' = b.extend E ∧ b'.Covers E) := by
  induction alternatives with
  | nil =>
      intro s _
      rw [List.map_nil, Step.anyOf_nil, Attempt.mk.injEq]
      constructor
      · intro hrun
        rcases hrun with ⟨h, -, -⟩
        exact absurd (Except.ok.inj h) Bool.false_ne_true
      · intro hderived
        rcases hderived with ⟨E, h, -, -⟩
        exact nomatch h
  | cons p rest ih =>
      intro s halternatives
      rw [List.forall_mem_cons] at halternatives
      rw [List.map_cons, Step.anyOf_cons_iff, halternatives.1 hv hb, ih halternatives.2]
      constructor
      · intro hrun
        rcases hrun with ⟨E, hE, hb'⟩ | ⟨hrefused, E, hE, hb'⟩
        · exact ⟨E, .here hE, hb'⟩
        · exact ⟨E, .later hrefused hE, hb'⟩
      · intro hderived
        rcases hderived with ⟨E, h, hb'⟩
        cases h with
        | here hE => exact Or.inl ⟨E, hE, hb'⟩
        | later hrefused hE => exact Or.inr ⟨hrefused, E, hE, hb'⟩

section Kinds

-- A refused value is not accepted by the rules either.
theorem iff_of_refused {p : Pattern σ} {b b' : Bindings} {s s' : σ}
    (hmatcher : p.matcher policy v = Step.answer false)
    (h : ∀ b s E s', ¬Accepts policy p v b s E s') :
    p.matcher policy v b s = ⟨.ok true, b', s'⟩ ↔
      ∃ E, Accepts policy p v b s E s' ∧ b' = b.extend E ∧ b'.Covers E := by
  rw [hmatcher]
  simp [Step.answer, h]

-- The patterns that match parts of the value in turn.
theorem iff_of_inTurn {p : Pattern σ} {parts : List (Pattern σ × Option Value)}
    {b b' : Bindings} {s s' : σ}
    (hmatcher : p.matcher policy v = Step.inTurn (parts.map (partStep policy)))
    (haccepts : ∀ b s E s', Accepts policy p v b s E s' ↔ AcceptsInTurn policy parts b s E s')
    (hparts : ∀ part ∈ parts, Adequate policy part.1) (hbuilt : BuiltParts parts)
    (hb : b.Sound) :
    p.matcher policy v b s = ⟨.ok true, b', s'⟩ ↔
      ∃ E, Accepts policy p v b s E s' ∧ b' = b.extend E ∧ b'.Covers E := by
  rw [hmatcher, inTurn_iff parts hparts hbuilt hb]
  simp only [haccepts]

-- The patterns that look at the whole value and record nothing.
theorem adequate_of_answer {p : Pattern σ} (accepted : Value → Bool)
    (hmatcher : ∀ v, p.matcher policy v = Step.answer (accepted v))
    (h : ∀ v b s E s', Accepts policy p v b s E s' ↔ accepted v = true ∧ E = [] ∧ s' = s) :
    Adequate policy p := by
  intro v b b' s s' _ _
  rw [hmatcher, Step.answer_iff]
  constructor
  · intro hrun
    rcases hrun with ⟨haccepted, rfl, rfl⟩
    exact ⟨[], (h v _ _ [] _).mpr ⟨haccepted, rfl, rfl⟩, rfl, Bindings.covers_nil b'⟩
  · intro hderived
    rcases hderived with ⟨E, hE, rfl, -⟩
    rcases (h v b s E s').mp hE with ⟨haccepted, rfl, rfl⟩
    exact ⟨haccepted, rfl, rfl⟩

theorem adequate_literal (expected : Value) : Adequate policy (literal expected : Pattern σ) :=
  adequate_of_answer (fun v => v.deepEqual expected) (fun _ => rfl) fun _ _ _ _ _ =>
    accepts_literal_iff

theorem adequate_typeMatch (tag : TypeTag) : Adequate policy (typeMatch tag : Pattern σ) :=
  adequate_of_answer (fun v => v.typeOf.isSubtypeOf tag) (fun _ => rfl) fun _ _ _ _ _ =>
    accepts_typeMatch_iff

theorem adequate_exactType (tag : TypeTag) : Adequate policy (exactType tag : Pattern σ) := by
  refine adequate_of_answer (fun v => decide (v.typeOf = tag)) (fun _ => rfl) fun v b s E s' => ?_
  rw [decide_eq_true_iff]
  exact accepts_exactType_iff

theorem adequate_seq (kind : SeqKind) (items : List (Pattern σ))
    (h : ∀ p ∈ items, Adequate policy p) : Adequate policy (seq kind items) := by
  intro v b b' s s' hv hb
  have hmatcher : (seq kind items).matcher policy v =
      Matcher.seq kind (items.map (matcher policy)) v := by rw [matcher_seq]
  unfold Matcher.seq at hmatcher
  cases hview : v.asSequence? with
  | none =>
      refine iff_of_refused (by simp only [hmatcher, hview]) fun b s E s' hE => ?_
      cases hE with
      | seq hview' _ _ => simp [hview] at hview'
  | some view =>
      rcases view with ⟨k, parts⟩
      simp only [hview, List.length_map] at hmatcher
      -- The lengths are compared before any item is matched.
      by_cases hfits : k = kind ∧ parts.length = items.length
      · rcases hfits with ⟨rfl, hlength⟩
        rw [if_pos ⟨rfl, hlength⟩] at hmatcher
        refine iff_of_inTurn ?_ ?_ ?_ (builtParts_seq hv hview items) hb
        · rw [hmatcher, List.zipWith_map_left, List.zip_map_right, List.map_map, List.zip,
            List.map_zipWith]
          rfl
        · intro b s E s'
          refine ⟨fun hE => ?_, .seq hview hlength⟩
          cases hE with
          | seq hview' _ hE =>
              rw [hview, Option.some.injEq, Prod.mk.injEq] at hview'
              exact hview'.2 ▸ hE
        · exact fun part hpart => h part.1 (List.of_mem_zip (a := part.1) (b := part.2) hpart).1
      · rw [if_neg hfits] at hmatcher
        refine iff_of_refused hmatcher fun b s E s' hE => ?_
        cases hE with
        | seq hview' hlength _ =>
            rw [hview, Option.some.injEq, Prod.mk.injEq] at hview'
            exact hfits ⟨hview'.1, hview'.2 ▸ hlength⟩

theorem adequate_cons {head tail : Pattern σ} (hhead : Adequate policy head)
    (htail : Adequate policy tail) : Adequate policy (cons head tail) := by
  intro v b b' s s' hv hb
  have hmatcher : (cons head tail).matcher policy v =
      Matcher.cons (head.matcher policy) (tail.matcher policy) v := by rw [matcher_cons]
  unfold Matcher.cons at hmatcher
  cases hview : v.asSequence? with
  | none =>
      refine iff_of_refused (by simp only [hmatcher, hview]) fun b s E s' hE => ?_
      cases hE with
      | cons hview' _ => simp [hview] at hview'
  | some view =>
      rcases view with ⟨kind, _ | ⟨first, rest⟩⟩
      · -- An empty sequence has no first item.
        refine iff_of_refused (by simp only [hmatcher, hview]) fun b s E s' hE => ?_
        cases hE with
        | cons hview' _ => simp [hview] at hview'
      · refine iff_of_inTurn (by simp only [hmatcher, hview]; rfl) ?_ ?_
          (builtParts_cons hv hview head tail) hb
        · intro b s E s'
          refine ⟨fun hE => ?_, .cons hview⟩
          cases hE with
          | cons hview' hE =>
              rw [hview, Option.some.injEq, Prod.mk.injEq, List.cons.injEq] at hview'
              rcases hview' with ⟨rfl, rfl, rfl⟩
              exact hE
        · simp only [List.forall_mem_cons]
          exact ⟨hhead, htail, fun _ hpart => absurd hpart List.not_mem_nil⟩

theorem adequate_mapping (entries : List (Value × Pattern σ))
    (h : ∀ entry ∈ entries, Adequate policy entry.2) : Adequate policy (mapping entries) := by
  intro v b b' s s' hv hb
  have hmatcher : (mapping entries).matcher policy v =
      Matcher.mapping (entries.map fun entry => (entry.1, entry.2.matcher policy)) v := by
    rw [matcher_mapping]
  unfold Matcher.mapping at hmatcher
  by_cases hview : v.isMapping = true
  · rw [if_pos hview, List.map_map] at hmatcher
    exact iff_of_inTurn (by rw [hmatcher, List.map_map]; rfl)
      (fun b s E s' => accepts_mapping_iff.trans (and_iff_right hview)) (List.forall_mem_map.mpr h)
      (builtParts_mapping hv entries) hb
  · rw [if_neg hview] at hmatcher
    exact iff_of_refused hmatcher fun b s E s' hE => hview (accepts_mapping_iff.mp hE).1

theorem adequate_object (expected : Option TypeTag) (fields : List (String × Pattern σ))
    (h : ∀ field ∈ fields, Adequate policy field.2) :
    Adequate policy (object expected fields) := by
  intro v b b' s s' hv hb
  have hmatcher : (object expected fields).matcher policy v =
      Matcher.object expected (fields.map fun field => (field.1, field.2.matcher policy)) v := by
    rw [matcher_object]
  unfold Matcher.object at hmatcher
  have hcheck : (v.isRecord && expected.all (v.typeOf.isSubtypeOf ·)) = true ↔
      v.isRecord = true ∧ ∀ tag ∈ expected, v.typeOf.isSubtypeOf tag = true := by
    rw [Bool.and_eq_true, Option.all_eq_true]
    rfl
  by_cases hview : (v.isRecord && expected.all (v.typeOf.isSubtypeOf ·)) = true
  · rw [if_pos hview, List.map_map] at hmatcher
    exact iff_of_inTurn (by rw [hmatcher, List.map_map]; rfl)
      (fun b s E s' => accepts_object_iff.trans (and_iff_right (hcheck.mp hview)))
      (List.forall_mem_map.mpr h) (builtParts_object hv fields) hb
  · rw [if_neg hview] at hmatcher
    refine iff_of_refused hmatcher fun b s E s' hE => ?_
    exact hview (hcheck.mpr (accepts_object_iff.mp hE).1)

theorem adequate_all (members : List (Pattern σ)) (h : ∀ p ∈ members, Adequate policy p) :
    Adequate policy (all members) := by
  intro v b b' s s' hv hb
  have hmatcher : (all members).matcher policy v =
      Step.allOf (members.map fun p => p.matcher policy v) := by
    rw [matcher_all, Matcher.all, List.map_map]
    rfl
  rw [hmatcher]
  refine (mergeFrom_iff hb hv members h hb fun _ _ hget => hget).trans ?_
  exact exists_congr fun E => and_congr_left fun _ => accepts_all_iff.symm

theorem adequate_any (alternatives : List (Pattern σ)) (h : ∀ p ∈ alternatives, Adequate policy p) :
    Adequate policy (any alternatives) := by
  intro v b b' s s' hv hb
  have hmatcher : (any alternatives).matcher policy v =
      Step.anyOf (alternatives.map fun p => p.matcher policy v) := by
    rw [matcher_any, Matcher.any, List.map_map]
    rfl
  rw [hmatcher, anyOf_iff hb hv alternatives h]
  exact exists_congr fun E => and_congr_left fun _ => accepts_any_iff.symm

theorem adequate_predicate (p : Predicate σ) : Adequate policy (predicate p) := by
  intro v b b' s s' _ _
  have hmatcher : (predicate p).matcher policy v = Matcher.predicate policy p v := rfl
  have htest : Matcher.predicate policy p v b s = ⟨.ok true, b', s'⟩ ↔
      p.test v s = (.ok true, s') ∧ b' = b := by
    unfold Matcher.predicate
    -- A test that fails leads to a refusal or to an error, never to acceptance.
    rcases p.test v s with ⟨_ | _ | _, s₁⟩
    · cases policy with
      | propagate => simp
      | fail => simp
    · simp
    · simp [eq_comm, and_comm]
  rw [hmatcher, htest]
  constructor
  · intro hfits
    rcases hfits with ⟨h, rfl⟩
    exact ⟨[], .predicate h, rfl, Bindings.covers_nil b'⟩
  · intro hderived
    rcases hderived with ⟨E, hE, rfl, -⟩
    cases hE with
    | predicate h => exact ⟨h, rfl⟩

theorem adequate_capture (slot : Slot) : Adequate policy (capture slot : Pattern σ) := by
  intro v b b' s s' hv _
  have hmatcher : (capture slot : Pattern σ).matcher policy v = Step.record slot v := rfl
  have hrecord : Step.record slot v b s = ⟨.ok true, b', s'⟩ ↔
      b.bind? slot v = some b' ∧ s' = s := by
    unfold Step.record
    cases b.bind? slot v with
    | none => simp
    | some bound => simp [eq_comm]
  rw [hmatcher, hrecord, Bindings.bind?_eq_some_iff (c := (slot, v)) hv]
  constructor
  · intro hrun
    rcases hrun with ⟨⟨rfl, hcovers⟩, rfl⟩
    exact ⟨[(slot, v)], .capture, rfl, hcovers⟩
  · intro hderived
    rcases hderived with ⟨E, hE, rfl, hcovers⟩
    cases hE with
    | capture => exact ⟨⟨rfl, hcovers⟩, rfl⟩

end Kinds

/-- Every pattern is adequate, by induction on the pattern. -/
theorem adequate (p : Pattern σ) : Adequate policy p := by
  induction p using Pattern.induction with
  | literal expected => exact adequate_literal expected
  | typeMatch tag => exact adequate_typeMatch tag
  | exactType tag => exact adequate_exactType tag
  | seq kind items ih => exact adequate_seq kind items ih
  | cons head tail ihhead ihtail => exact adequate_cons ihhead ihtail
  | mapping entries ih => exact adequate_mapping entries ih
  | object expected fields ih => exact adequate_object expected fields ih
  | all members ih => exact adequate_all members ih
  | any alternatives ih => exact adequate_any alternatives ih
  | predicate p => exact adequate_predicate p
  | capture slot => exact adequate_capture slot

end Pattern

end ShapeMatch
