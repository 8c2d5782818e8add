import ShapeMatch.Proofs.Kinship
import ShapeMatch.Proofs.Simulation

/-!
# Agreement of Matches

When two matches come to the same, whatever spelling or order they follow.

Two attempts agree if both refuse or both accept, with bindings that are akin.
Steps agree if they lead akin bindings to attempts that agree, and matchers
agree if they lead like values to steps that agree. So agreement is a
comparison of matches, and what is known of those holds for it.

A conjunction gives more. Its members all start from the same bindings, and
what they recorded is merged afterwards, so they can change places.

The states of the tests need not be the same on both sides, since members that
change places run their tests in another order. They belong to a class `I` of
states, and agreement says that they stay there.

## Main definitions

* `Comparison.agreement`: Like values, akin bindings and states in a class.
* `Attempt.Agrees`, `Step.Agrees`, `Matcher.Agrees`: Agreement.
* `MatchResult.Akin`: Agreement of extractions.

## Theorems

* `lawful_agreement`: Agreement is kept by whatever a match does.
* `agrees_mergeFrom_of_perm`, `agrees_allOf`: The members of a conjunction in
  another order.
* `akin_extract`: Matchers that agree lead to akin results.
-/

namespace ShapeMatch

variable {σ : Type}

/-- Two attempts agree: both refuse or both accept, with akin bindings. The states
    are in a class. -/
inductive Attempt.Agrees (I : σ → Prop) : Attempt σ → Attempt σ → Prop
  | accepted {b c : Bindings} {s t : σ} (hbc : b.Akin c) (hs : I s) (ht : I t) :
      Agrees I ⟨.ok true, b, s⟩ ⟨.ok true, c, t⟩
  | refused {b c : Bindings} {s t : σ} (hbc : b.Akin c) (hs : I s) (ht : I t) :
      Agrees I ⟨.ok false, b, s⟩ ⟨.ok false, c, t⟩

namespace Attempt.Agrees

variable {I : σ → Prop} {a a' a'' : Attempt σ}

theorem left (h : Agrees I a a') : I a.state := by
  cases h with
  | accepted _ hs _ => exact hs
  | refused _ hs _ => exact hs

theorem symm (h : Agrees I a a') : Agrees I a' a := by
  cases h with
  | accepted hbc hs ht => exact .accepted hbc.symm ht hs
  | refused hbc hs ht => exact .refused hbc.symm ht hs

theorem trans (h : Agrees I a a') (h' : Agrees I a' a'') : Agrees I a a'' := by
  cases h with
  | accepted hbc hs ht =>
      cases h' with
      | accepted hcd _ hu => exact .accepted (hbc.trans hcd) hs hu
  | refused hbc hs ht =>
      cases h' with
      | refused hcd _ hu => exact .refused (hbc.trans hcd) hs hu

end Attempt.Agrees

/-- Steps that lead akin bindings to attempts that agree. -/
def Step.Agrees (I : σ → Prop) (step step' : Step σ) : Prop :=
  ∀ ⦃b c : Bindings⦄ ⦃s t : σ⦄, b.Akin c → I s → I t → Attempt.Agrees I (step b s) (step' c t)

/-- Like values, akin bindings, and states in a class, where no match fails. -/
def Comparison.agreement (Q : Value → Value → Prop) (I : σ → Prop) : Comparison σ σ where
  values := Q
  bindings := Bindings.Akin
  verdicts := fun verdict => ∃ accepted, verdict = .ok accepted
  states := fun s t => I s ∧ I t
  ended := fun _ _ _ => False

section Comparison

variable {Q : Value → Value → Prop} {I : σ → Prop}

theorem lawful_agreement (hQ : Value.Likeness Q) : (Comparison.agreement Q I).Lawful where
  decided := fun accepted => ⟨accepted, rfl⟩
  views := hQ.toViews
  bind := fun slot _ _ _ _ hvw hbc =>
    hbc.bind? ⟨(hQ.built hvw).1, (hQ.built hvw).2, hQ.alike hvw⟩ slot
  absorb := fun hm hbc => hm.absorb? hbc

theorem Attempt.follows_agreement_iff {a a' : Attempt σ} :
    Follows (.agreement Q I) a a' ↔ Agrees I a a' := by
  constructor
  · intro h
    cases h with
    | alike hverdict hbc hst =>
        rcases hverdict with ⟨accepted, rfl⟩
        cases accepted with
        | true => exact .accepted hbc hst.1 hst.2
        | false => exact .refused hbc hst.1 hst.2
    | ended hnever => exact hnever.elim
  · intro h
    cases h with
    | accepted hbc hs ht => exact .alike ⟨true, rfl⟩ hbc ⟨hs, ht⟩
    | refused hbc hs ht => exact .alike ⟨false, rfl⟩ hbc ⟨hs, ht⟩

theorem Step.follows_agreement_iff {step step' : Step σ} :
    Follows (.agreement Q I) step step' ↔ Agrees I step step' := by
  constructor
  · exact fun h _ _ _ _ hbc hs ht => Attempt.follows_agreement_iff.mp (h.along hbc ⟨hs, ht⟩)
  · intro h
    constructor
    · exact fun hbc hst => Attempt.follows_agreement_iff.mpr (h hbc hst.1 hst.2)
    · exact fun _ _ _ => ⟨trivial, fun _ _ hnever => hnever.elim⟩

end Comparison

namespace Step

variable {I : σ → Prop}

theorem Agrees.symm {step step' : Step σ} (h : Agrees I step step') : Agrees I step' step :=
  fun _ _ _ _ hbc hs ht => (h hbc.symm ht hs).symm

theorem Agrees.trans {step step' step'' : Step σ} (h : Agrees I step step')
    (h' : Agrees I step' step'') : Agrees I step step'' :=
  fun _ _ _ _ hbc hs ht => (h hbc hs ht).trans (h' (Bindings.akin_self hbc.right) ht ht)

section Conjunction

variable {parent parent' : Bindings}

/-- How a merge goes on after a branch that accepts. -/
def mergeThen (parent : Bindings) (rest : List (Step σ)) (s : σ) : Option Bindings → Attempt σ
  | some merged => mergeFrom parent rest merged s
  | none => ⟨.ok false, parent, s⟩

theorem mergeFrom_of_accepted {step : Step σ} {rest : List (Step σ)} {b merged : Bindings}
    {s s' : σ} (h : step parent s = ⟨.ok true, b, s'⟩) :
    mergeFrom parent (step :: rest) merged s = mergeThen parent rest s' (merged.absorb? b) := by
  rw [mergeFrom, h]
  cases merged.absorb? b with
  | none => rfl
  | some m => rfl

theorem mergeFrom_of_refused {step : Step σ} {rest : List (Step σ)} {b merged : Bindings}
    {s s' : σ} (h : step parent s = ⟨.ok false, b, s'⟩) :
    mergeFrom parent (step :: rest) merged s = ⟨.ok false, parent, s'⟩ := by
  rw [mergeFrom, h]

theorem agrees_mergeThen (hparent : parent.Akin parent') {rest rest' : List (Step σ)}
    (h : ∀ {m m' : Bindings} {s t : σ}, m.Akin m' → I s → I t →
      Attempt.Agrees I (mergeFrom parent rest m s) (mergeFrom parent' rest' m' t))
    {x y : Option Bindings} (hxy : Option.Rel Bindings.Akin x y) {s t : σ} (hs : I s) (ht : I t) :
    Attempt.Agrees I (mergeThen parent rest s x) (mergeThen parent' rest' t y) := by
  cases hxy with
  | none => exact .refused hparent hs ht
  | some hakin => exact h hakin hs ht

theorem agrees_mergeFrom (hparent : parent.Akin parent') {steps steps' : List (Step σ)}
    (h : List.Forall₂ (Agrees I) steps steps') {m m' : Bindings} {s t : σ} (hm : m.Akin m')
    (hs : I s) (ht : I t) :
    Attempt.Agrees I (mergeFrom parent steps m s) (mergeFrom parent' steps' m' t) :=
  follows_agreement_iff.mp (follows_mergeFrom (lawful_agreement Value.likeness_same).toMerging
    hparent (h.imp fun _ _ => follows_agreement_iff.mpr)) hm hs ht

-- Two members that accept one after the other are merged one after the other.
theorem mergeFrom_of_both {x y : Step σ} {rest : List (Step σ)} {b c m : Bindings}
    {s s₁ s₂ : σ} (hx : x parent s = ⟨.ok true, b, s₁⟩) (hy : y parent s₁ = ⟨.ok true, c, s₂⟩)
    (hs₁ : I s₁) (hs₂ : I s₂) :
    ∃ u, I u ∧ mergeFrom parent (x :: y :: rest) m s =
      mergeThen parent rest u ((m.absorb? b).bind (·.absorb? c)) := by
  rw [mergeFrom_of_accepted hx]
  cases m.absorb? b with
  | none => exact ⟨s₁, hs₁, rfl⟩
  | some m' => exact ⟨s₂, hs₂, mergeFrom_of_accepted hy⟩

theorem mergeFrom_of_second_refused {x y : Step σ} {rest : List (Step σ)} {b c m : Bindings}
    {s s₁ s₂ : σ} (hx : x parent s = ⟨.ok true, b, s₁⟩) (hy : y parent s₁ = ⟨.ok false, c, s₂⟩)
    (hs₁ : I s₁) (hs₂ : I s₂) :
    ∃ u, I u ∧ mergeFrom parent (x :: y :: rest) m s = ⟨.ok false, parent, u⟩ := by
  rw [mergeFrom_of_accepted hx]
  cases m.absorb? b with
  | none => exact ⟨s₁, hs₁, rfl⟩
  | some m' => exact ⟨s₂, hs₂, mergeFrom_of_refused hy⟩

-- Two neighbours change places. Each runs once on either side, in another state.
theorem agrees_mergeFrom_swap (hparent : parent.Sound) {x y : Step σ} (hx : Agrees I x x)
    (hy : Agrees I y y) {rest : List (Step σ)} (hrest : ∀ step ∈ rest, Agrees I step step)
    {m : Bindings} (hm : m.Sound) {s t : σ} (hs : I s) (ht : I t) :
    Attempt.Agrees I (mergeFrom parent (x :: y :: rest) m s)
      (mergeFrom parent (y :: x :: rest) m t) := by
  have hself := Bindings.akin_self hparent
  have hs₁ := (hx hself hs hs).left
  have ht₁ := (hy hself ht ht).left
  have hxx := hx hself hs ht₁
  have hyy := hy hself hs₁ ht
  generalize hax : x parent s = ax at hs₁ hxx hyy
  generalize hay' : y parent t = ay' at ht₁ hxx hyy
  generalize hax' : x parent ay'.state = ax' at hxx
  generalize hay : y parent ax.state = ay at hyy
  cases hxx with
  | accepted hbx _ ht₂ =>
      cases hyy with
      | accepted hby hs₂ _ =>
          rcases mergeFrom_of_both hax hay hs₁ hs₂ with ⟨u, hu, hleft⟩
          rcases mergeFrom_of_both hay' hax' ht₁ ht₂ with ⟨u', hu', hright⟩
          rw [hleft, hright]
          exact agrees_mergeThen hself (agrees_mergeFrom hself (List.forall₂_same.mpr hrest))
            (Bindings.absorb?_comm hm hbx hby) hu hu'
      | refused _ hs₂ _ =>
          rcases mergeFrom_of_second_refused hax hay hs₁ hs₂ with ⟨u, hu, hleft⟩
          rw [hleft, mergeFrom_of_refused hay']
          exact .refused hself hu ht₁
  | refused _ _ ht₂ =>
      cases hyy with
      | accepted _ _ _ =>
          rcases mergeFrom_of_second_refused hay' hax' ht₁ ht₂ with ⟨u, hu, hright⟩
          rw [hright, mergeFrom_of_refused hax]
          exact .refused hself hs₁ hu
      | refused _ _ _ =>
          rw [mergeFrom_of_refused hax, mergeFrom_of_refused hay']
          exact .refused hself hs₁ ht₁

/-- The members of a conjunction can be taken in any order, by induction on the
    permutation. -/
theorem agrees_mergeFrom_of_perm (hparent : parent.Sound) {steps steps' : List (Step σ)}
    (hperm : steps.Perm steps') :
    (∀ step ∈ steps, Agrees I step step) → ∀ {m m' : Bindings} {s t : σ}, m.Akin m' → I s → I t →
      Attempt.Agrees I (mergeFrom parent steps m s) (mergeFrom parent steps' m' t) := by
  have hself := Bindings.akin_self hparent
  induction hperm with
  | nil => exact fun _ _ _ _ _ hm hs ht => .accepted hm hs ht
  | cons x _ ih =>
      intro h m m' s t hm hs ht
      rw [List.forall_mem_cons] at h
      have hstep := h.1 hself hs ht
      generalize ha : x parent s = a, ha' : x parent t = a' at hstep
      cases hstep with
      | accepted hbc hs ht =>
          rw [mergeFrom_of_accepted ha, mergeFrom_of_accepted ha']
          exact agrees_mergeThen hself (ih h.2) (hm.absorb? hbc) hs ht
      | refused _ hs ht =>
          rw [mergeFrom_of_refused ha, mergeFrom_of_refused ha']
          exact .refused hself hs ht
  | swap x y rest =>
      intro h m m' s t hm hs ht
      rw [List.forall_mem_cons, List.forall_mem_cons] at h
      have hsame : List.Forall₂ (Agrees I) (y :: x :: rest) (y :: x :: rest) :=
        .cons h.1 (.cons h.2.1 (List.forall₂_same.mpr h.2.2))
      exact (agrees_mergeFrom hself hsame hm hs hs).trans
        (agrees_mergeFrom_swap hparent h.1 h.2.1 h.2.2 hm.right hs ht)
  | trans hfirst _ ihfirst ihrest =>
      intro h m m' s t hm hs ht
      have h' : ∀ step ∈ _, Agrees I step step := fun step hstep =>
        h step (hfirst.mem_iff.mpr hstep)
      exact (ihfirst h hm hs hs).trans (ihrest h' (Bindings.akin_self hm.right) hs ht)

/-- Conjunctions agree if their members do, in whatever order. -/
theorem agrees_allOf {steps steps' steps'' : List (Step σ)}
    (h : List.Forall₂ (Agrees I) steps steps') (hperm : steps'.Perm steps'') :
    Agrees I (allOf steps) (allOf steps'') := by
  intro b c s t hbc hs ht
  have hself : ∀ step ∈ steps', Agrees I step step := by
    intro step' hstep'
    rcases List.mem_iff_getElem.mp hstep' with ⟨i, hi, rfl⟩
    have hi' := h.get (h.length_eq ▸ hi) hi
    exact hi'.symm.trans hi'
  exact (agrees_mergeFrom hbc h hbc hs ht).trans
    (agrees_mergeFrom_of_perm hbc.right hperm hself (Bindings.akin_self hbc.right) ht ht)

end Conjunction

end Step

/-- Matchers that lead like values to steps that agree. -/
abbrev Matcher.Agrees (Q : Value → Value → Prop) (I : σ → Prop) : Matcher σ → Matcher σ → Prop :=
  Follows (.agreement Q I)

theorem Matcher.agrees_all {Q : Value → Value → Prop} {I : σ → Prop} {ms ms' ms'' : List (Matcher σ)}
    (h : List.Forall₂ (Agrees Q I) ms ms') (hperm : ms'.Perm ms'') :
    Agrees Q I (all ms) (all ms'') := by
  intro v w hvw
  have hsteps := (forall₂_steps h hvw).imp fun _ _ => Step.follows_agreement_iff.mp
  exact Step.follows_agreement_iff.mpr (Step.agrees_allOf hsteps (hperm.map _))

/-- Two extractions end alike: both find no match, or both match with akin
    bindings. -/
inductive MatchResult.Akin :
    Except MatchError MatchResult → Except MatchError MatchResult → Prop
  | matched {B C : Bindings} (h : B.Akin C) : Akin (.ok (.matched B)) (.ok (.matched C))
  | noMatch : Akin (.ok .noMatch) (.ok .noMatch)

/-- Patterns whose matchers agree lead like values to akin results. -/
theorem Pattern.akin_extract {policy : ErrorPolicy} {Q : Value → Value → Prop} {I : σ → Prop}
    {p q : Pattern σ} (h : Matcher.Agrees Q I (p.matcher policy) (q.matcher policy)) {v w : Value}
    (hvw : Q v w) {s t : σ} (hs : I s) (ht : I t) :
    MatchResult.Akin (p.extract policy v s).1 (q.extract policy w t).1 := by
  have hempty := Bindings.akin_self Bindings.sound_empty
  have hattempt := Attempt.follows_agreement_iff.mp ((h hvw).along hempty ⟨hs, ht⟩)
  unfold Pattern.extract
  generalize p.matcher policy v .empty s = a, q.matcher policy w .empty t = a' at hattempt
  cases hattempt with
  | accepted hbc _ _ => exact .matched hbc
  | refused _ _ _ => exact .noMatch

end ShapeMatch
