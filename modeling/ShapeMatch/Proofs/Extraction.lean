import ShapeMatch.Proofs.Adequacy

/-!
# Extraction

What a successful extraction says about the pattern and the value.

Extraction starts without bindings, so the equivalence of `adequate` loses its
side conditions: the captures of a derivation cover themselves iff they are
consistent, and the bindings are what they lead to from nothing.

## Main definitions

* `Attempt.outcome`: What an extraction makes of an attempt.

## Theorems

* `extract_eq_matched_iff`: Extraction succeeds iff a derivation has consistent
  captures.
* `extract_sound`: The bindings of a successful extraction are those of a
  derivation.
-/

namespace ShapeMatch

/-- What an extraction makes of an attempt: the bindings count only if the value
    is accepted. -/
def Attempt.outcome {σ : Type} (a : Attempt σ) : Except MatchError MatchResult × σ :=
  match a.verdict with
  | .ok true => (.ok (.matched a.bindings), a.state)
  | .ok false => (.ok .noMatch, a.state)
  | .error e => (.error e, a.state)

namespace Pattern

variable {σ : Type} {policy : ErrorPolicy} {p : Pattern σ} {v : Value} {s s' : σ} {B : Bindings}

theorem extract_eq_outcome :
    p.extract policy v s = (p.matcher policy v .empty s).outcome := by
  unfold extract Attempt.outcome
  rcases p.matcher policy v .empty s with ⟨_ | _ | _, B, s₁⟩
  · rfl
  · rfl
  · rfl

theorem extract_eq_matcher :
    p.extract policy v s = (.ok (.matched B), s') ↔
      p.matcher policy v .empty s = ⟨.ok true, B, s'⟩ := by
  unfold extract
  rcases p.matcher policy v .empty s with ⟨_ | _ | _, B', s₁⟩
  · simp
  · simp
  · simp

theorem extract_eq_matched_iff (hv : v.Built) :
    p.extract policy v s = (.ok (.matched B), s') ↔
      ∃ E, Accepts policy p v .empty s E s' ∧ B = Bindings.empty.extend E ∧ Consistent E := by
  rw [extract_eq_matcher, adequate p hv Bindings.sound_empty]
  refine exists_congr fun E => and_congr_right fun hE => and_congr_right ?_
  rintro rfl
  exact Bindings.covers_extend_empty_iff (hE.built hv)

/-- Soundness: a successful extraction has a derivation, all values that it
    emits for a slot are equal, and exactly the slots that it emits for are
    bound, each to the first value. -/
theorem extract_sound (policy : ErrorPolicy) (p : Pattern σ) {v : Value} (hv : v.Built)
    {s s' : σ} {B : Bindings} (h : p.extract policy v s = (.ok (.matched B), s')) :
    ∃ E, Accepts policy p v .empty s E s' ∧
      (∀ c ∈ E, ∀ d ∈ E, c.1 = d.1 → c.2.deepEqual d.2 = true) ∧
      B.slots.Distinct ∧ ∀ slot, B.get? slot = E.lookup slot := by
  rcases (extract_eq_matched_iff hv).mp h with ⟨E, hE, rfl, hconsistent⟩
  have hsound := Bindings.Sound.extend E Bindings.sound_empty (hE.built hv)
  exact ⟨E, hE, hconsistent, hsound.distinct, Bindings.get?_extend_empty E⟩

-- A repeated capture in a conjunction, behind an alternative that refuses.
theorem extract_sound_of_pair :
    ∃ E, Accepts .fail
        (any [literal .none, all [seq .list [capture ⟨⟨1⟩, "x"⟩, capture ⟨⟨1⟩, "x"⟩],
          cons (capture ⟨⟨1⟩, "x"⟩) (capture ⟨⟨2⟩, "rest"⟩)]])
        (.seq .list [.int 7, .int 7]) .empty () E () ∧
      (∀ c ∈ E, ∀ d ∈ E, c.1 = d.1 → c.2.deepEqual d.2 = true) ∧
      (⟨⟨[(⟨⟨1⟩, "x"⟩, .int 7), (⟨⟨2⟩, "rest"⟩, .seq .list [.int 7])]⟩⟩ : Bindings).slots.Distinct ∧
      ∀ slot, (⟨⟨[(⟨⟨1⟩, "x"⟩, .int 7), (⟨⟨2⟩, "rest"⟩, .seq .list [.int 7])]⟩⟩ : Bindings).get? slot =
        E.lookup slot :=
  extract_sound .fail _ (.seq .list _ (by simp [Value.Built.int])) (by rfl)

end Pattern

end ShapeMatch
