import ShapeMatch.Proofs.Invariance
import ShapeMatch.Proofs.Likeness

/-!
# Simulation of Matches

How a match is followed by another one, step by step.

Two matches may differ in the values that they look at, in what they have
recorded and in the states of their tests, and go together nevertheless. A
comparison says how each of these is related on both sides. As long as both
come to the same verdicts, all of it stays related. Where the first match ends
with an error, the second may go on; nothing is known of it then except a
relation between the state in which the first one ended and the state of the
second, which further steps have to keep.

What has to be related is only looked at through the views of values and by
binding slots and merging, so it is enough that these respect the comparison.
Slots are bound by captures alone, and for everything else it does not matter
how both sides bind them.
Each combination of steps and each kind of matcher is then shown to respect it
as well, without a word about patterns.

## Main definitions

* `Comparison`: How two matches are compared.
* `Comparison.Merging`: Views and merging respect the comparison.
* `Comparison.Lawful`: Binding respects it, too.
* `Attempt.Follows`, `Step.Follows`, `Matcher.Follows`: One match follows another.

## Theorems

* `follows_inTurn`, `follows_allOf`, `follows_anyOf`: Combined steps.
* `follows_seq`, `follows_mapping` and so on: Matchers of each kind.
-/

namespace ShapeMatch

/-- How two matches are compared. -/
structure Comparison (σ τ : Type) where
  /-- The values that are matched. -/
  values : Value → Value → Prop
  /-- What has been recorded. -/
  bindings : Bindings → Bindings → Prop
  /-- The verdicts to which both may come. -/
  verdicts : Except MatchError Bool → Prop
  /-- The states of the tests. -/
  states : σ → τ → Prop
  /-- The state in which the first has failed, and that of the second. -/
  ended : MatchError → σ → τ → Prop

variable {σ τ : Type}

/-- Views and merging respect the comparison. -/
structure Comparison.Merging (C : Comparison σ τ) : Prop where
  decided : ∀ accepted, C.verdicts (.ok accepted)
  views : Value.Views C.values
  absorb : ∀ {m m' b c}, C.bindings m m' → C.bindings b c →
    Option.Rel C.bindings (m.absorb? b) (m'.absorb? c)

/-- Views, merging and binding respect the comparison. -/
structure Comparison.Lawful (C : Comparison σ τ) : Prop extends Comparison.Merging C where
  bind : ∀ slot {v w b c}, C.values v w → C.bindings b c →
    Option.Rel C.bindings (b.bind? slot v) (c.bind? slot w)

/-- Going on from a state keeps what is known of it. -/
def Comparison.Onward (C : Comparison σ τ) (t t' : τ) : Prop :=
  ∀ e s, C.ended e s t → C.ended e s t'

theorem Comparison.Onward.refl {C : Comparison σ τ} (t : τ) : C.Onward t t := fun _ _ h => h

theorem Comparison.Onward.trans {C : Comparison σ τ} {t t' t'' : τ} (h : C.Onward t t')
    (h' : C.Onward t' t'') : C.Onward t t'' :=
  fun e s hs => h' e s (h e s hs)

-- Whatever happens on the way.
theorem Comparison.graded_onward (C : Comparison σ τ) : Graded fun _ : List Unit => C.Onward :=
  graded_of_preorder Onward.refl Onward.trans

/-- One attempt follows another: both come to one verdict and all is related, or
    the first one has failed before the second has ended. -/
inductive Attempt.Follows (C : Comparison σ τ) : Attempt σ → Attempt τ → Prop
  | alike {verdict : Except MatchError Bool} {b c : Bindings} {s : σ} {t : τ}
      (hverdict : C.verdicts verdict) (hbc : C.bindings b c) (h : C.states s t) :
      Follows C ⟨verdict, b, s⟩ ⟨verdict, c, t⟩
  | ended {e : MatchError} {b c : Bindings} {s : σ} {verdict : Except MatchError Bool} {t : τ}
      (h : C.ended e s t) : Follows C ⟨.error e, b, s⟩ ⟨verdict, c, t⟩

/-- One step follows another, and the second can go on after the first has
    failed. -/
structure Step.Follows (C : Comparison σ τ) (step : Step σ) (step' : Step τ) : Prop where
  along : ∀ {b c s t}, C.bindings b c → C.states s t → Attempt.Follows C (step b s) (step' c t)
  onward : Keeps (fun _ => True) C.Onward step'

variable {C : Comparison σ τ}

namespace Step

theorem onward_of_forall₂ {steps : List (Step σ)} {steps' : List (Step τ)}
    (h : List.Forall₂ (Follows C) steps steps') :
    List.Forall₂ (fun step (_ : List Unit) => Keeps (fun _ => True) C.Onward step) steps'
      (steps'.map fun _ => []) := by
  induction h with
  | nil => exact .nil
  | cons hfirst _ ih => exact .cons hfirst.onward ih

variable (hC : C.Merging)

include hC

theorem follows_answer (accepted : Bool) : Follows C (answer accepted) (answer accepted) where
  along := fun hbc h => .alike (hC.decided accepted) hbc h
  onward := keeps_answer Comparison.Onward.refl accepted

theorem follows_record {slot slot' : Slot} {v w : Value} (hbind : ∀ {b c}, C.bindings b c →
      Option.Rel C.bindings (b.bind? slot v) (c.bind? slot' w)) :
    Follows C (record slot v) (record slot' w) where
  along := by
    intro b c s t hbc h
    have hbind := hbind hbc
    unfold record
    generalize b.bind? slot v = bound, c.bind? slot' w = bound' at hbind
    cases hbind with
    | none => exact .alike (hC.decided false) hbc h
    | some hbound => exact .alike (hC.decided true) hbound h
  onward := keeps_record (fun _ _ => trivial) Comparison.Onward.refl slot' w

theorem follows_inTurn {steps : List (Step σ)} {steps' : List (Step τ)}
    (h : List.Forall₂ (Follows C) steps steps') : Follows C (inTurn steps) (inTurn steps') := by
  refine ⟨?_, keeps_inTurn C.graded_onward (onward_of_forall₂ h)⟩
  induction h with
  | nil => exact (follows_answer hC true).along
  | @cons step step' rest rest' hfirst hrest ih =>
      intro b c s t hbc h
      have hstep := hfirst.along hbc h
      rw [inTurn_cons, inTurn_cons]
      generalize step b s = a, step' c t = a' at hstep
      cases hstep with
      | @alike verdict b c s t hverdict hbc h =>
          cases verdict with
          | error e => exact .alike hverdict hbc h
          | ok accepted =>
              cases accepted with
              | true => exact ih hbc h
              | false => exact .alike hverdict hbc h
      | @ended e b c s verdict t h =>
          -- The second may run the other steps.
          have hgo := keeps_inTurn C.graded_onward (onward_of_forall₂ hrest) c t trivial
          cases verdict with
          | error e' => exact .ended h
          | ok accepted =>
              cases accepted with
              | true => exact .ended (hgo.2 e s h)
              | false => exact .ended h

theorem follows_mergeFrom {parent parent' : Bindings} (hparent : C.bindings parent parent')
    {steps : List (Step σ)} {steps' : List (Step τ)} (h : List.Forall₂ (Follows C) steps steps') :
    Follows C (mergeFrom parent steps) (mergeFrom parent' steps') := by
  have hkeeps {steps : List (Step σ)} {steps' : List (Step τ)}
      (h : List.Forall₂ (Follows C) steps steps') :
      Keeps (fun _ => True) C.Onward (mergeFrom parent' steps') :=
    keeps_mergeFrom C.graded_onward (fun _ _ => trivial) trivial (onward_of_forall₂ h)
  refine ⟨?_, hkeeps h⟩
  induction h with
  | nil => exact fun hbc h => .alike (hC.decided true) hbc h
  | @cons step step' rest rest' hfirst hrest ih =>
      intro m m' s t hm h
      have hstep := hfirst.along hparent h
      unfold mergeFrom
      generalize step parent s = a, step' parent' t = a' at hstep
      cases hstep with
      | @alike verdict b c s t hverdict hbc h =>
          cases verdict with
          | error e => exact .alike hverdict hparent h
          | ok accepted =>
              cases accepted with
              | false => exact .alike hverdict hparent h
              | true =>
                  have habsorb := hC.absorb hm hbc
                  simp only
                  generalize m.absorb? b = merged, m'.absorb? c = merged' at habsorb
                  cases habsorb with
                  | none => exact .alike (hC.decided false) hparent h
                  | some hmerged => exact ih hmerged h
      | @ended e b c s verdict t h =>
          simp only
          split
          · split
            · rename_i merged' _
              exact .ended ((hkeeps hrest merged' t trivial).2 e s h)
            · exact .ended h
          · exact .ended h

theorem follows_allOf {steps : List (Step σ)} {steps' : List (Step τ)}
    (h : List.Forall₂ (Follows C) steps steps') : Follows C (allOf steps) (allOf steps') where
  along := fun hbc hst => (follows_mergeFrom hC hbc h).along hbc hst
  onward := fun b t hb =>
    keeps_mergeFrom C.graded_onward (fun _ _ => trivial) trivial (onward_of_forall₂ h) b t hb

theorem follows_anyOf {steps : List (Step σ)} {steps' : List (Step τ)}
    (h : List.Forall₂ (Follows C) steps steps') : Follows C (anyOf steps) (anyOf steps') := by
  refine ⟨?_, keeps_anyOf C.graded_onward (onward_of_forall₂ h)⟩
  induction h with
  | nil => exact (follows_answer hC false).along
  | @cons step step' rest rest' hfirst hrest ih =>
      intro b c s t hbc h
      have hstep := hfirst.along hbc h
      unfold anyOf
      generalize step b s = a, step' c t = a' at hstep
      cases hstep with
      | @alike verdict b' c' s t hverdict hbc' h =>
          cases verdict with
          | error e => exact .alike hverdict hbc h
          | ok accepted =>
              cases accepted with
              | true => exact .alike hverdict hbc' h
              | false => exact ih hbc h
      | @ended e b' c' s verdict t h =>
          have hgo := keeps_anyOf C.graded_onward (onward_of_forall₂ hrest) c t trivial
          simp only
          split
          · exact .ended h
          · exact .ended (hgo.2 e s h)
          · exact .ended h

end Step

/-- One matcher follows another at related values. -/
def Matcher.Follows (C : Comparison σ τ) (m : Matcher σ) (m' : Matcher τ) : Prop :=
  ∀ ⦃v w⦄, C.values v w → Step.Follows C (m v) (m' w)

namespace Matcher

variable (hC : C.Merging)

theorem forall₂_steps {ms : List (Matcher σ)} {ms' : List (Matcher τ)}
    (h : List.Forall₂ (Follows C) ms ms') {v w : Value} (hvw : C.values v w) :
    List.Forall₂ (Step.Follows C) (ms.map fun m => m v) (ms'.map fun m => m w) := by
  rw [List.forall₂_map_left_iff, List.forall₂_map_right_iff]
  exact h.imp fun m m' hm => hm hvw

include hC

theorem follows_onPart {m : Matcher σ} {m' : Matcher τ} (h : Follows C m m') {x y : Option Value}
    (hxy : Option.Rel C.values x y) : Step.Follows C (m.onPart x) (m'.onPart y) := by
  cases hxy with
  | none => exact Step.follows_answer hC false
  | some hvw => exact h hvw

theorem follows_seq (kind : SeqKind) {ms : List (Matcher σ)} {ms' : List (Matcher τ)}
    (h : List.Forall₂ (Follows C) ms ms') : Follows C (seq kind ms) (seq kind ms') := by
  intro v w hvw
  have hview := hC.views.sequence hvw
  unfold seq
  generalize v.asSequence? = x, w.asSequence? = y at hview
  cases hview with
  | none => exact Step.follows_answer hC false
  | @some view view' hsame =>
      rcases view with ⟨k, vs⟩
      rcases view' with ⟨k', ws⟩
      rcases hsame with ⟨rfl, hitems⟩
      simp only [← h.length_eq, ← hitems.length_eq]
      split
      · exact Step.follows_inTurn hC (forall₂_zipWith h hitems)
      · exact Step.follows_answer hC false

theorem follows_cons {head tail : Matcher σ} {head' tail' : Matcher τ}
    (hhead : Follows C head head') (htail : Follows C tail tail') :
    Follows C (cons head tail) (cons head' tail') := by
  intro v w hvw
  have hview := hC.views.sequence hvw
  unfold cons
  generalize v.asSequence? = x, w.asSequence? = y at hview
  cases hview with
  | none => exact Step.follows_answer hC false
  | @some view view' hsame =>
      rcases view with ⟨k, vs⟩
      rcases view' with ⟨k', ws⟩
      rcases hsame with ⟨rfl, hitems⟩
      cases hitems with
      | nil => exact Step.follows_answer hC false
      | cons hfirst hrest =>
          exact Step.follows_inTurn hC (.cons (hhead hfirst)
            (.cons (htail (hC.views.ofSequence k hrest)) .nil))

theorem follows_mapping {entries : List (Value × Matcher σ)}
    {entries' : List (Value × Matcher τ)} (h : List.Forall₂ (fun x y =>
      (∀ v w, C.values v w → Option.Rel C.values (v.lookup? x.1) (w.lookup? y.1)) ∧
        Follows C x.2 y.2) entries entries') :
    Follows C (mapping entries) (mapping entries') := by
  intro v w hvw
  unfold mapping
  rw [← hC.views.mapping hvw]
  split
  · refine Step.follows_inTurn hC ?_
    rw [List.forall₂_map_left_iff, List.forall₂_map_right_iff]
    exact h.imp fun x y hxy => follows_onPart hC hxy.2 (hxy.1 v w hvw)
  · exact Step.follows_answer hC false

theorem follows_object (expected : Option TypeTag) {fields : List (String × Matcher σ)}
    {fields' : List (String × Matcher τ)}
    (h : List.Forall₂ (fun x y => x.1 = y.1 ∧ Follows C x.2 y.2) fields fields') :
    Follows C (object expected fields) (object expected fields') := by
  intro v w hvw
  unfold object
  -- The type is looked at only if the value is a record.
  have hguard : (v.isRecord && expected.all (v.typeOf.isSubtypeOf ·)) =
      (w.isRecord && expected.all (w.typeOf.isSubtypeOf ·)) := by
    rw [← hC.views.record hvw]
    cases hrecord : v.isRecord with
    | true => rw [hC.views.recordType hvw hrecord]
    | false => rfl
  rw [← hguard]
  split
  · refine Step.follows_inTurn hC ?_
    rw [List.forall₂_map_left_iff, List.forall₂_map_right_iff]
    refine h.imp fun x y hxy => ?_
    rw [hxy.1]
    exact follows_onPart hC hxy.2 (hC.views.field hvw y.1)
  · exact Step.follows_answer hC false

theorem follows_all {ms : List (Matcher σ)} {ms' : List (Matcher τ)}
    (h : List.Forall₂ (Follows C) ms ms') : Follows C (all ms) (all ms') :=
  fun _ _ hvw => Step.follows_allOf hC (forall₂_steps h hvw)

theorem follows_any {ms : List (Matcher σ)} {ms' : List (Matcher τ)}
    (h : List.Forall₂ (Follows C) ms ms') : Follows C (any ms) (any ms') :=
  fun _ _ hvw => Step.follows_anyOf hC (forall₂_steps h hvw)

-- A test of the whole value that has one answer for related values.
theorem follows_answer {accepted accepted' : Value → Bool}
    (h : ∀ v w, C.values v w → accepted v = accepted' w) :
    Follows C (fun v => .answer (accepted v)) (fun v => .answer (accepted' v)) := by
  intro v w hvw
  simp only [h v w hvw]
  exact Step.follows_answer hC (accepted' w)

omit hC

theorem follows_capture (hC : C.Lawful) (slot : Slot) :
    Follows C (fun v => Step.record slot v) (fun v => Step.record slot v) :=
  fun _ _ hvw => Step.follows_record hC.toMerging fun hbc => hC.bind slot hvw hbc

end Matcher

end ShapeMatch
