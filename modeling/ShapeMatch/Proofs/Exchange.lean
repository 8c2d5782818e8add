import ShapeMatch.Proofs.Simulation

/-!
# Patterns with Other Tests

The match of a pattern whose tests are exchanged for others.

Everything but the tests is the same on both sides, so the two matches go
together as long as the tests do. It is enough to look at one kind of pattern
after the other, and each kind of matcher follows itself if its parts do. What
the captures do may be exchanged as well.

## Main definitions

* `Comparison.exact`: Nothing but the states of the tests differs.

## Theorems

* `related_of_same`, `related_of_captures`: Matching keeps that one match follows
  another, also where the captures are exchanged.
* `follows_fold`: Matches with other tests follow each other if the tests do.
-/

namespace ShapeMatch

variable {ρ σ τ : Type} {V : Except MatchError Bool → Prop} {R : σ → τ → Prop}
  {B : MatchError → σ → τ → Prop}

/-- The same values and the same bindings on both sides. -/
def Comparison.exact (V : Except MatchError Bool → Prop) (R : σ → τ → Prop)
    (B : MatchError → σ → τ → Prop) : Comparison σ τ :=
  ⟨Eq, Eq, V, R, B⟩

theorem Comparison.lawful_exact (hV : ∀ accepted, V (.ok accepted)) : (exact V R B).Lawful where
  decided := hV
  views := Value.views_eq
  bind := by
    intro slot v w b c hvw hbc
    cases hvw
    cases hbc
    exact optionRel_self fun _ _ => rfl
  absorb := by
    intro m m' b c hm hbc
    cases hm
    cases hbc
    exact optionRel_self fun _ _ => rfl

namespace Matcher

/-- Matchers of all kinds follow each other if their parts and the captures do,
    where the values on both sides are the same. -/
theorem related_of_captures {C : Comparison σ τ} (hC : C.Merging)
    (hsame : ∀ {v w}, C.values v w → v = w)
    (hlookup : ∀ {v w}, C.values v w → ∀ k, Option.Rel C.values (v.lookup? k) (w.lookup? k))
    {capture : Slot → Matcher τ}
    (hcapture : ∀ slot, Follows C (fun v => Step.record slot v) (capture slot))
    (test : Predicate ρ → Matcher σ) (test' : Predicate ρ → Matcher τ) :
    (algebraWith test).Related (Follows C) ((algebraWith test').withCapture capture) := by
  refine ⟨fun _ => follows_answer hC fun v w h => ?_, fun _ => follows_answer hC fun v w h => ?_,
    fun _ => follows_answer hC fun v w h => ?_, fun kind _ _ h => follows_seq hC kind h,
    fun hhead htail => follows_cons hC hhead htail, fun h => follows_mapping hC ?_,
    fun expected _ _ h => follows_object hC expected h, fun h => follows_all hC h,
    fun h => follows_any hC h, hcapture⟩
  · exact hsame h ▸ rfl
  · exact hsame h ▸ rfl
  · exact hsame h ▸ rfl
  · exact h.imp fun x y hxy => ⟨fun v w hvw => hxy.1 ▸ hlookup hvw x.1, hxy.2⟩

theorem related_of_same {C : Comparison σ τ} (hC : C.Lawful)
    (hsame : ∀ {v w}, C.values v w → v = w)
    (hlookup : ∀ {v w}, C.values v w → ∀ k, Option.Rel C.values (v.lookup? k) (w.lookup? k))
    (test : Predicate ρ → Matcher σ) (test' : Predicate ρ → Matcher τ) :
    (algebraWith test).Related (Follows C) (algebraWith test') :=
  related_of_captures hC.toMerging hsame hlookup (fun slot => follows_capture hC slot) test test'

variable (hV : ∀ accepted, V (.ok accepted))

include hV

/-- Matches with other tests follow each other if the tests do. -/
theorem follows_fold {test : Predicate ρ → Matcher σ} {test' : Predicate ρ → Matcher τ}
    (p : Pattern ρ) (h : ∀ t ∈ p.predicates, Follows (.exact V R B) (test t) (test' t)) :
    Follows (.exact V R B) (p.fold (algebraWith test)) (p.fold (algebraWith test')) :=
  Pattern.fold_related (related_of_same (Comparison.lawful_exact hV) (fun h => h)
    (fun h _ => h ▸ optionRel_self fun _ _ => rfl) test test') p h

end Matcher

end ShapeMatch
