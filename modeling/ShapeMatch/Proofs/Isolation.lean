import ShapeMatch.Proofs.Policies
import ShapeMatch.Proofs.Variants

/-!
# Isolated Steps

Steps up to what they leave behind when they do not accept.

A sequence of steps that ends with a refusal leaves behind what was recorded
until then, while a conjunction or a disjunction restores the bindings that it
started with. So patterns that mean the same may still differ as steps, and no
equation between steps relates them. But whatever is left behind then is never
looked at: steps in turn stop there, and the other combinations go on from
their own bindings. A step is isolated if it restores the bindings itself, and
isolating the parts of a combination makes no difference to the combination,
once that is isolated as well.

Hence matches can be compared through their isolated steps. What is kept at
each kind of pattern is kept for patterns in which parts are exchanged, at any
depth.

## Main definitions

* `Attempt.restored`, `Step.isolated`, `Matcher.isolated`: Restore the bindings
  unless the value is accepted.
* `Comparison.sound`: The same values and bindings, as programs can make them.

## Theorems

* `mergeFrom_map_isolated`, `anyOf_map_isolated`, `isolated_inTurn_map_isolated`:
  Isolating the parts makes no difference.
* `related_isolated`: Matching keeps that isolated matchers follow each other.
* `extract_of_follows`: Patterns whose isolated matchers follow each other come to
  the same.
* `Variant.related`: Exchanging parts keeps what matching keeps.
-/

namespace ShapeMatch

variable {σ τ : Type}

/-- The attempt, with the bindings restored to `b` unless it accepts. -/
def Attempt.restored (b : Bindings) (a : Attempt σ) : Attempt σ :=
  match a.verdict with
  | .ok true => a
  | verdict => ⟨verdict, b, a.state⟩

theorem Attempt.restored_restored (b c : Bindings) (a : Attempt σ) :
    (a.restored b).restored c = a.restored c := by
  rcases a with ⟨_ | _ | _, d, s⟩
  · rfl
  · rfl
  · rfl

theorem Attempt.outcome_restored (b : Bindings) (a : Attempt σ) :
    (a.restored b).outcome = a.outcome := by
  rcases a with ⟨_ | _ | _, c, s⟩
  · rfl
  · rfl
  · rfl

namespace Step

/-- The step, which restores the bindings unless it accepts. -/
def isolated (step : Step σ) : Step σ := fun b s => (step b s).restored b

/-- An isolated step is the only alternative. -/
theorem anyOf_singleton (step : Step σ) : anyOf [step] = step.isolated := by
  funext b s
  simp only [anyOf, isolated]
  rcases step b s with ⟨_ | _ | _, c, s'⟩
  · rfl
  · rfl
  · rfl

theorem isolated_isolated (step : Step σ) : step.isolated.isolated = step.isolated := by
  funext b s
  exact Attempt.restored_restored b b (step b s)

theorem isolated_answer (accepted : Bool) : (answer accepted : Step σ).isolated = answer accepted := by
  funext b s
  cases accepted with
  | true => rfl
  | false => rfl

/-- A merge does not look at what a branch has recorded unless it accepts. -/
theorem mergeFrom_map_isolated (parent : Bindings) (steps : List (Step σ)) :
    mergeFrom parent (steps.map isolated) = mergeFrom parent steps := by
  induction steps with
  | nil => rfl
  | cons step rest ih =>
      funext merged s
      rw [List.map_cons, mergeFrom, mergeFrom, ih]
      unfold isolated
      rcases step parent s with ⟨_ | _ | _, c, s'⟩
      · rfl
      · rfl
      · rfl

theorem allOf_map_isolated (steps : List (Step σ)) : allOf (steps.map isolated) = allOf steps := by
  funext b s
  unfold allOf
  rw [mergeFrom_map_isolated]

/-- Nor does the choice among alternatives. -/
theorem anyOf_map_isolated (steps : List (Step σ)) : anyOf (steps.map isolated) = anyOf steps := by
  induction steps with
  | nil => rfl
  | cons step rest ih =>
      funext b s
      simp only [List.map_cons, anyOf, ih, isolated]
      rcases step b s with ⟨_ | _ | _, c, s'⟩
      · rfl
      · rfl
      · rfl

/-- Steps in turn pass on what the last one has left behind. -/
theorem isolated_inTurn_map_isolated (steps : List (Step σ)) :
    (inTurn (steps.map isolated)).isolated = (inTurn steps).isolated := by
  induction steps with
  | nil => rfl
  | cons step rest ih =>
      funext b s
      unfold isolated
      rw [List.map_cons, inTurn_cons, inTurn_cons]
      rcases step b s with ⟨_ | _ | _, c, s'⟩
      · rfl
      · rfl
      · -- The other steps start from `c` and are restored to `b`.
        have hrest := congrArg (Attempt.restored b) (congrFun (congrFun ih c) s')
        unfold isolated at hrest
        rw [Attempt.restored_restored, Attempt.restored_restored] at hrest
        exact hrest

end Step

namespace Matcher

/-- The matcher, which restores the bindings unless it accepts. -/
def isolated (m : Matcher σ) : Matcher σ := fun v => (m v).isolated

theorem onPart_isolated (m : Matcher σ) (part : Option Value) :
    m.isolated.onPart part = (m.onPart part).isolated := by
  cases part with
  | none => exact (Step.isolated_answer false).symm
  | some v => rfl

theorem isolated_seq (kind : SeqKind) (ms : List (Matcher σ)) :
    (seq kind (ms.map isolated)).isolated = (seq kind ms).isolated := by
  funext v
  unfold isolated seq
  cases v.asSequence? with
  | none => rfl
  | some view =>
      rcases view with ⟨k, vs⟩
      simp only [List.length_map]
      split
      · rw [List.zipWith_map_left]
        have hsteps : List.zipWith (fun m v => (isolated m : Matcher σ) v) ms vs =
            (List.zipWith (fun m v => m v) ms vs).map Step.isolated := by
          rw [List.map_zipWith]
          rfl
        exact hsteps ▸ Step.isolated_inTurn_map_isolated _
      · rfl

theorem isolated_cons (head tail : Matcher σ) :
    (cons head.isolated tail.isolated).isolated = (cons head tail).isolated := by
  funext v
  unfold isolated cons
  rcases v.asSequence? with _ | ⟨kind, _ | ⟨first, rest⟩⟩
  · rfl
  · rfl
  · exact Step.isolated_inTurn_map_isolated [head first, tail (.ofSequence kind rest)]

-- The steps of isolated parts, wherever the part is found.
theorem map_onPart_isolated {ι : Type} (find : ι → Option Value) (parts : List (ι × Matcher σ)) :
    (parts.map fun part => (part.1, part.2.isolated)).map (fun part => onPart part.2 (find part.1)) =
      (parts.map fun part => onPart part.2 (find part.1)).map Step.isolated := by
  rw [List.map_map, List.map_map]
  exact List.map_congr_left fun part _ => onPart_isolated part.2 (find part.1)

theorem isolated_mapping (entries : List (Value × Matcher σ)) :
    (mapping (entries.map fun entry => (entry.1, entry.2.isolated))).isolated =
      (mapping entries).isolated := by
  funext v
  change (mapping _ v).isolated = (mapping entries v).isolated
  unfold mapping
  rw [map_onPart_isolated]
  split
  · exact Step.isolated_inTurn_map_isolated _
  · rfl

theorem isolated_object (expected : Option TypeTag) (fields : List (String × Matcher σ)) :
    (object expected (fields.map fun field => (field.1, field.2.isolated))).isolated =
      (object expected fields).isolated := by
  funext v
  change (object expected _ v).isolated = (object expected fields v).isolated
  unfold object
  rw [map_onPart_isolated]
  split
  · exact Step.isolated_inTurn_map_isolated _
  · rfl

theorem all_map_isolated (ms : List (Matcher σ)) : all (ms.map isolated) = all ms := by
  funext v
  unfold all
  rw [List.map_map, ← Step.allOf_map_isolated (ms.map fun m => m v), List.map_map]
  rfl

theorem any_map_isolated (ms : List (Matcher σ)) : any (ms.map isolated) = any ms := by
  funext v
  unfold any
  rw [List.map_map, ← Step.anyOf_map_isolated (ms.map fun m => m v), List.map_map]
  rfl

section Follows

variable {ρ : Type} {C : Comparison σ τ} (hC : C.Lawful)
include hC

theorem follows_isolated {m : Matcher σ} {m' : Matcher τ} (h : Follows C m m') :
    Follows C m.isolated m'.isolated := by
  intro v w hvw
  have hsingle := Step.follows_anyOf hC.toMerging (.cons (h hvw) .nil)
  rw [Step.anyOf_singleton, Step.anyOf_singleton] at hsingle
  exact hsingle

/-- Isolated matchers follow each other if they are those of matchers that do. -/
theorem follows_isolated_of_eq {m n : Matcher σ} {m' n' : Matcher τ}
    (hm : m.isolated = n.isolated) (hm' : m'.isolated = n'.isolated) (h : Follows C m m') :
    Follows C n.isolated n'.isolated := by
  rw [← hm, ← hm']
  exact follows_isolated hC h

/-- Matching keeps that isolated matchers follow each other, where the values on
    both sides are the same. -/
theorem related_isolated (hsame : ∀ {v w}, C.values v w → v = w)
    (hlookup : ∀ {v w}, C.values v w → ∀ k, Option.Rel C.values (v.lookup? k) (w.lookup? k))
    (test : Predicate ρ → Matcher σ) (test' : Predicate ρ → Matcher τ) :
    (algebraWith test).Related (fun m m' => Follows C m.isolated m'.isolated)
      (algebraWith test') := by
  have hkept := related_of_same hC hsame hlookup test test'
  -- The parts are isolated, then the whole, and then the parts need not be.
  have hparts : ∀ {ms : List (Matcher σ)} {ms' : List (Matcher τ)},
      List.Forall₂ (fun m m' => Follows C m.isolated m'.isolated) ms ms' →
        List.Forall₂ (Follows C) (ms.map isolated) (ms'.map isolated) := by
    intro ms ms' h
    rw [List.forall₂_map_left_iff, List.forall₂_map_right_iff]
    exact h
  have hnamed : ∀ {ι : Type} {xs : List (ι × Matcher σ)} {ys : List (ι × Matcher τ)},
      List.Forall₂ (fun x y => x.1 = y.1 ∧ Follows C x.2.isolated y.2.isolated) xs ys →
        List.Forall₂ (fun x y => x.1 = y.1 ∧ Follows C x.2 y.2)
          (xs.map fun x => (x.1, x.2.isolated)) (ys.map fun y => (y.1, y.2.isolated)) := by
    intro ι xs ys h
    rw [List.forall₂_map_left_iff, List.forall₂_map_right_iff]
    exact h
  refine ⟨fun v => follows_isolated hC (hkept.literal v),
    fun tag => follows_isolated hC (hkept.typeMatch tag),
    fun tag => follows_isolated hC (hkept.exactType tag), fun kind ms ms' h => ?seq,
    fun {x y x' y'} hhead htail => ?cons, fun {xs ys} h => ?mapping,
    fun expected xs ys h => ?object, fun {xs ys} h => ?all, fun {xs ys} h => ?any,
    fun slot => follows_isolated hC (hkept.capture slot)⟩
  case seq =>
    exact follows_isolated_of_eq hC (isolated_seq kind ms) (isolated_seq kind ms')
      (hkept.seq kind (hparts h))
  case cons =>
    exact follows_isolated_of_eq hC (isolated_cons _ _) (isolated_cons _ _)
      (hkept.cons hhead htail)
  case mapping =>
    exact follows_isolated_of_eq hC (isolated_mapping xs) (isolated_mapping ys)
      (hkept.mapping (hnamed h))
  case object =>
    exact follows_isolated_of_eq hC (isolated_object expected xs) (isolated_object expected ys)
      (hkept.object expected (hnamed h))
  case all =>
    exact follows_isolated_of_eq hC (congrArg isolated (all_map_isolated xs))
      (congrArg isolated (all_map_isolated ys)) (hkept.all (hparts h))
  case any =>
    exact follows_isolated_of_eq hC (congrArg isolated (any_map_isolated xs))
      (congrArg isolated (any_map_isolated ys)) (hkept.any (hparts h))

end Follows

end Matcher

/-- The same values and bindings on both sides, as programs can make them, where
    no match goes on without the other. -/
def Comparison.sound (V : Except MatchError Bool → Prop) (R : σ → τ → Prop) : Comparison σ τ where
  values := Value.Same
  bindings := fun b c => b = c ∧ b.Sound
  verdicts := V
  states := R
  ended := fun _ _ _ => False

theorem Comparison.lawful_sound {V : Except MatchError Bool → Prop} {R : σ → τ → Prop}
    (hV : ∀ accepted, V (.ok accepted)) : (Comparison.sound V R).Lawful where
  decided := hV
  views := Value.likeness_same.toViews
  bind := by
    intro slot v w b c hvw hbc
    rcases hvw with ⟨rfl, hv⟩
    rcases hbc with ⟨rfl, hb⟩
    refine optionRel_self fun bound hbound => ⟨rfl, ?_⟩
    rw [((Bindings.bind?_eq_some_iff (c := (slot, v)) hv).mp hbound).1]
    exact hb.keep hv
  absorb := by
    intro m m' b c hm hbc
    rcases hm with ⟨rfl, hm⟩
    rcases hbc with ⟨rfl, hb⟩
    exact optionRel_self fun merged hmerged => ⟨rfl, hm.absorb? hb hmerged⟩

namespace Pattern

/-- Patterns whose isolated matchers follow each other come to the same. -/
theorem extract_of_follows {V : Except MatchError Bool → Prop} {R : σ → τ → Prop}
    {policy policy' : ErrorPolicy} {p : Pattern σ} {q : Pattern τ}
    (h : Matcher.Follows (.sound V R) (p.matcher policy).isolated (q.matcher policy').isolated)
    {v : Value} (hv : v.Built) {s : σ} {t : τ} (hst : R s t) :
    (p.extract policy v s).1 = (q.extract policy' v t).1 ∧
      R (p.extract policy v s).2 (q.extract policy' v t).2 := by
  have hattempt := (h ⟨rfl, hv⟩).along ⟨rfl, Bindings.sound_empty⟩ hst
  change Attempt.Follows _ ((p.matcher policy v .empty s).restored .empty)
    ((q.matcher policy' v .empty t).restored .empty) at hattempt
  rw [extract_eq_outcome, extract_eq_outcome, ← Attempt.outcome_restored .empty,
    ← Attempt.outcome_restored .empty (q.matcher policy' v .empty t)]
  generalize (p.matcher policy v .empty s).restored .empty = a,
    (q.matcher policy' v .empty t).restored .empty = a' at hattempt
  cases hattempt with
  | @alike verdict b c s t _ hbc hst =>
      rcases hbc with ⟨rfl, -⟩
      rcases verdict with _ | _ | _
      · exact ⟨rfl, hst⟩
      · exact ⟨rfl, hst⟩
      · exact ⟨rfl, hst⟩
  | ended hnever => exact hnever.elim

/-- Exchanging parts keeps what is kept at each kind of pattern, if it holds for
    the exchanged parts, under what is asked of the tests. -/
theorem Variant.related {β γ : Type} {S : β → γ → Prop} {alg : Algebra σ β} {alg' : Algebra σ γ}
    {leaf : Pattern σ → Pattern σ → Prop} {A : Predicate σ → Prop} (hrelated : alg.Related S alg')
    (hleaf : ∀ {p q}, leaf p q → (∀ t ∈ p.predicates, A t) → S (p.fold alg) (q.fold alg'))
    {p q : Pattern σ} (h : Variant leaf Eq Eq p q) :
    (∀ t ∈ p.predicates, A t) → S (p.fold alg) (q.fold alg') := by
  have hparts : ∀ {ps qs : List (Pattern σ)},
      List.Forall₂ (fun p q => (∀ t ∈ p.predicates, A t) → S (p.fold alg) (q.fold alg')) ps qs →
      (∀ t ∈ (ps.map predicates).flatten, A t) →
      List.Forall₂ S (ps.map (fold alg)) (qs.map (fold alg')) := by
    intro ps qs h hA
    rw [List.forall₂_map_left_iff, List.forall₂_map_right_iff]
    exact forall₂_of_predicates h hA
  have hnamed : ∀ {ι : Type} {xs ys : List (ι × Pattern σ)},
      List.Forall₂ Eq (xs.map Prod.fst) (ys.map Prod.fst) →
      List.Forall₂ (fun p q => (∀ t ∈ p.predicates, A t) → S (p.fold alg) (q.fold alg'))
        (xs.map Prod.snd) (ys.map Prod.snd) →
      (∀ t ∈ ((xs.map Prod.snd).map predicates).flatten, A t) →
      List.Forall₂ (fun x y => x.1 = y.1 ∧ S x.2 y.2) (xs.map fun x => (x.1, x.2.fold alg))
        (ys.map fun y => (y.1, y.2.fold alg')) := by
    intro ι xs ys hnames h hA
    rw [List.forall₂_map_left_iff, List.forall₂_map_right_iff]
    exact forall₂_of_parts hnames (forall₂_of_predicates h hA)
  refine variant_induction
    (motive := fun p q => (∀ t ∈ p.predicates, A t) → S (p.fold alg) (q.fold alg'))
    ?leaf ?seq ?cons ?mapping ?object ?all ?any ?capture h
  case leaf => exact hleaf
  case seq =>
    intro kind ps qs ih hA
    rw [predicates, collect_seq] at hA
    rw [fold_seq, fold_seq]
    exact hrelated.seq kind (hparts ih hA)
  case cons =>
    intro p p' q q' ihhead ihtail hA
    rw [predicates, collect_cons, List.forall_mem_append] at hA
    rw [fold, fold]
    exact hrelated.cons (ihhead hA.1) (ihtail hA.2)
  case mapping =>
    intro entries entries' hkeys ih hA
    rw [predicates, collect_mapping, ← Function.comp_def, ← List.map_map] at hA
    rw [fold_mapping, fold_mapping]
    exact hrelated.mapping (hnamed hkeys ih hA)
  case object =>
    intro expected fields fields' hnames ih hA
    rw [predicates, collect_object, ← Function.comp_def, ← List.map_map] at hA
    rw [← List.forall₂_eq_eq_eq] at hnames
    rw [fold_object, fold_object]
    exact hrelated.object expected (hnamed hnames ih hA)
  case all =>
    intro ps qs rs ih horder hA
    rw [predicates, collect_all] at hA
    rw [fold_all, fold_all, ← horder]
    exact hrelated.all (hparts ih hA)
  case any =>
    intro ps qs ih hA
    rw [predicates, collect_any] at hA
    rw [fold_any, fold_any]
    exact hrelated.any (hparts ih hA)
  case capture => exact fun slot _ => hrelated.capture slot

end Pattern

end ShapeMatch
