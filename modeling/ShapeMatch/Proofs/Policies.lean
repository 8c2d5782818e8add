import ShapeMatch.Proofs.Exchange

/-!
# The Two Error Policies

What an error of a test does under either policy, told by the calls of tests.

The calls that a match makes are recorded by tests that write to a log which is
part of their state. Recording changes nothing else about a match.

As long as no test fails, the policies cannot be told apart. The first error
ends a match that propagates errors, so the call that made it is the last one,
and the calls up to there are those that the other policy makes, too, before it
goes on. To let errors count as refusal is the same as to exchange the tests
for ones that refuse where they failed.

## Main definitions

* `Call`: A call of a test.
* `Pattern.recorded`, `Pattern.callsFrom`, `Pattern.calls`: The calls that a
  match makes.
* `Pattern.lenient`: The tests refuse instead of failing.

## Theorems

* `extract_recorded`: Recording changes nothing else.
* `extract_tracks`: How far the policies go together.
* `extract_lenient`: Errors that count as refusal are refusals.
* `matcher_fail_answers`, `extract_fail_ne_error`: A match that counts errors as
  refusal never fails.
* `matcher_propagate_answers`: Nor does one in which no call fails.
* `extract_policies`: The relation between the policies.
-/

namespace ShapeMatch

variable {σ : Type}

/-- A call of a test on a value, with its answer. -/
structure Call (σ : Type) where
  test : Predicate σ
  value : Value
  answer : Except MatchError Bool

/-- The answer with errors counted as refusal. -/
def lenientAnswer : Except MatchError Bool → Except MatchError Bool
  | .ok accepted => .ok accepted
  | .error _ => .ok false

theorem exists_lenientAnswer (answer : Except MatchError Bool) :
    ∃ accepted, lenientAnswer answer = .ok accepted := by
  cases answer with
  | ok accepted => exact ⟨accepted, rfl⟩
  | error e => exact ⟨false, rfl⟩

/-- The test, which also writes each of its calls to a log. -/
def Predicate.recorded (t : Predicate σ) : Predicate (σ × List (Call σ)) where
  label := t.label
  test v s :=
    let result := t.test v s.1
    (result.1, result.2, s.2 ++ [⟨t, v, result.1⟩])

/-- The test, which refuses where it failed. -/
def Predicate.lenient (t : Predicate σ) : Predicate σ where
  label := t.label
  test v s :=
    let result := t.test v s
    (lenientAnswer result.1, result.2)

namespace Call

/-- The test did not fail. -/
def Answered (c : Call σ) : Prop := ∃ accepted, c.answer = .ok accepted

/-- The call of the test that refuses where this one failed. -/
def lenient (c : Call σ) : Call σ := ⟨c.test.lenient, c.value, lenientAnswer c.answer⟩

end Call

/-- The last call, and no earlier one, has failed with this error. -/
def EndsWithError (e : MatchError) (calls : List (Call σ)) : Prop :=
  ∃ earlier last, calls = earlier ++ [last] ∧ (∀ c ∈ earlier, c.Answered) ∧ last.answer = .error e

theorem EndsWithError.not_answered {e : MatchError} {calls : List (Call σ)}
    (h : EndsWithError e calls) : ¬∀ c ∈ calls, c.Answered := by
  intro hanswered
  rcases h with ⟨earlier, last, rfl, _, hfailed⟩
  rcases hanswered last (List.mem_append_right earlier List.mem_cons_self) with ⟨accepted, haccepted⟩
  rw [hfailed] at haccepted
  exact nomatch haccepted

namespace Pattern

/-- The pattern with its calls recorded. -/
def recorded (p : Pattern σ) : Pattern (σ × List (Call σ)) := p.mapTests Predicate.recorded

/-- The pattern with tests that refuse where they failed. -/
def lenient (p : Pattern σ) : Pattern σ := p.mapTests Predicate.lenient

/-- The calls of tests that are made where `b` is bound, in their order. -/
def callsFrom (policy : ErrorPolicy) (p : Pattern σ) (v : Value) (b : Bindings) (s : σ) :
    List (Call σ) :=
  (p.recorded.matcher policy v b (s, [])).state.2

/-- The calls of tests that a match makes, in their order. -/
def calls (policy : ErrorPolicy) (p : Pattern σ) (v : Value) (s : σ) : List (Call σ) :=
  (p.recorded.extract policy v (s, [])).2.2

end Pattern

/-- What becomes of the answer of a test. -/
def ErrorPolicy.verdict : ErrorPolicy → Except MatchError Bool → Except MatchError Bool
  | .propagate, answer => answer
  | .fail, answer => lenientAnswer answer

theorem Matcher.predicate_eq (policy : ErrorPolicy) (t : Predicate σ) (v : Value) (b : Bindings)
    (s : σ) :
    predicate policy t v b s = ⟨policy.verdict (t.test v s).1, b, (t.test v s).2⟩ := by
  unfold predicate
  rcases t.test v s with ⟨_ | accepted, s'⟩
  · cases policy with
    | propagate => rfl
    | fail => rfl
  · cases policy with
    | propagate => rfl
    | fail => rfl

section Instances

variable {τ : Type} {R : σ → τ → Prop}

/-- Of two matches that follow each other, either both come to the same, or the
    first one fails. -/
theorem Matcher.Follows.extract {V : Except MatchError Bool → Prop}
    {B : MatchError → σ → τ → Prop} {policy policy' : ErrorPolicy} {p : Pattern σ} {q : Pattern τ}
    (h : Follows (.exact V R B) (p.matcher policy) (q.matcher policy')) (v : Value) {s : σ} {t : τ}
    (hst : R s t) :
    ((p.extract policy v s).1 = (q.extract policy' v t).1 ∧
      R (p.extract policy v s).2 (q.extract policy' v t).2 ∧
      ∀ e, (p.extract policy v s).1 = .error e → V (.error e)) ∨
    ∃ e, (p.extract policy v s).1 = .error e ∧
      B e (p.extract policy v s).2 (q.extract policy' v t).2 := by
  have hattempt := (h (Eq.refl v)).along (Eq.refl Bindings.empty) hst
  unfold Pattern.extract
  generalize p.matcher policy v .empty s = a, q.matcher policy' v .empty t = a' at hattempt
  cases hattempt with
  | @alike verdict b c s t hverdict hbc h =>
      cases hbc
      refine Or.inl ⟨rfl, h, fun e he => ?_⟩
      rcases verdict with e' | _ | _
      · exact Except.error.inj he ▸ hverdict
      · exact nomatch he
      · exact nomatch he
  | ended h => exact Or.inr ⟨_, rfl, h⟩

-- Tests follow each other without an end if they answer alike, in related states.
theorem Matcher.follows_predicate_of {C : Comparison σ τ} {policy policy' : ErrorPolicy}
    {t : Predicate σ} {t' : Predicate τ} (hsame : ∀ {v w}, C.values v w → v = w)
    (hended : ∀ {e s s'}, ¬C.ended e s s')
    (h : ∀ {v w}, C.values v w → ∀ {s s'}, C.states s s' →
      policy.verdict (t.test v s).1 = policy'.verdict (t'.test v s').1 ∧
        C.verdicts (policy.verdict (t.test v s).1) ∧ C.states (t.test v s).2 (t'.test v s').2) :
    Follows C (predicate policy t) (predicate policy' t') := by
  intro v w hvw
  have htests := @h v w hvw
  cases hsame hvw
  constructor
  · intro b c s s' hbc hs
    rcases htests hs with ⟨hanswer, hverdict, hstates⟩
    rw [predicate_eq, predicate_eq, ← hanswer]
    exact .alike hverdict hbc hstates
  · exact fun _ _ _ => ⟨trivial, fun _ _ hnever => (hended hnever).elim⟩

theorem Matcher.follows_predicate {policy policy' : ErrorPolicy} {t : Predicate σ}
    {t' : Predicate τ}
    (h : ∀ v {s s'}, R s s' → policy.verdict (t.test v s).1 = policy'.verdict (t'.test v s').1 ∧
      R (t.test v s).2 (t'.test v s').2) :
    Follows (.exact (fun _ => True) R fun _ _ _ => False) (predicate policy t)
      (predicate policy' t') :=
  follows_predicate_of (fun h => h) (fun h => h) fun _ _ _ hs => ⟨(h _ hs).1, trivial, (h _ hs).2⟩

end Instances

/-- How the policies go together: the same calls are made and none has failed, or
    the last call of the match that propagates errors has. -/
def tracking : Comparison (σ × List (Call σ)) (σ × List (Call σ)) :=
  .exact (fun verdict => ∃ accepted, verdict = .ok accepted)
    (fun s t => s = t ∧ ∀ c ∈ s.2, c.Answered) fun e s t => EndsWithError e s.2 ∧ s.2 <+: t.2

-- A recorded test under both policies. It is the last one that one of them calls
-- if it fails.
theorem Matcher.follows_recorded (t : Predicate σ) :
    Follows tracking (predicate .propagate t.recorded) (predicate .fail t.recorded) := by
  intro v w hvw
  cases hvw
  constructor
  · intro b c s s' hbc hs
    rcases hs with ⟨rfl, hanswered⟩
    rw [predicate_eq, predicate_eq]
    simp only [Predicate.recorded]
    generalize t.test v s.1 = result
    rcases result with ⟨answer, u⟩
    cases answer with
    | ok accepted =>
        refine .alike ⟨accepted, rfl⟩ hbc ⟨rfl, ?_⟩
        simp only [List.forall_mem_append, List.forall_mem_singleton]
        exact ⟨hanswered, accepted, rfl⟩
    | error e => exact .ended ⟨⟨s.2, _, rfl, hanswered, rfl⟩, List.prefix_refl _⟩
  · intro b s _
    refine ⟨trivial, fun e u hu => ⟨hu.1, hu.2.trans ?_⟩⟩
    rw [predicate_eq]
    exact List.prefix_append s.2 _

namespace Pattern

variable (p : Pattern σ) (v : Value) (s : σ)

theorem follows_recorded (policy : ErrorPolicy) :
    Matcher.Follows (.exact (fun _ => True) (fun s t => s = t.1) fun _ _ _ => False)
      (p.matcher policy) (p.recorded.matcher policy) := by
  rw [recorded, matcher_mapTests]
  refine Matcher.follows_fold (fun _ => trivial) p fun t _ => ?_
  refine Matcher.follows_predicate fun v s t hs => ?_
  subst hs
  exact ⟨rfl, rfl⟩

/-- Recording the calls changes nothing else about a match. -/
theorem extract_recorded (policy : ErrorPolicy) :
    p.recorded.extract policy v (s, []) =
      ((p.extract policy v s).1, (p.extract policy v s).2, p.calls policy v s) := by
  rcases (p.follows_recorded policy).extract v (t := (s, [])) rfl with hsame | ⟨_, _, hnever⟩
  · exact Prod.ext hsame.1.symm (Prod.ext hsame.2.1.symm rfl)
  · exact hnever.elim

/-- Errors that count as refusal are refusals: both policies agree, call by
    call, if tests refuse where they failed. -/
theorem extract_lenient :
    p.lenient.extract .propagate v s = p.extract .fail v s ∧
      p.lenient.calls .propagate v s = (p.calls .fail v s).map Call.lenient := by
  have hfollows : Matcher.Follows
      (.exact (fun _ => True) (fun s t => s = (t.1, t.2.map Call.lenient)) fun _ _ _ => False)
      (p.lenient.recorded.matcher .propagate) (p.recorded.matcher .fail) := by
    rw [recorded, lenient, mapTests_mapTests, recorded, matcher_mapTests, matcher_mapTests]
    refine Matcher.follows_fold (fun _ => trivial) p fun t _ => ?_
    refine Matcher.follows_predicate fun v s s' hs => ?_
    subst hs
    refine ⟨rfl, ?_⟩
    simp [Predicate.recorded, Predicate.lenient, Call.lenient]
  have hextract := hfollows.extract v (s := (s, [])) (t := (s, [])) rfl
  rw [extract_recorded, extract_recorded, Prod.mk.injEq] at hextract
  rcases hextract with ⟨hresult, hstate, -⟩ | ⟨_, _, hnever⟩
  · exact ⟨Prod.ext hresult hstate.1, hstate.2⟩
  · exact hnever.elim

theorem follows_tracking :
    Matcher.Follows tracking (p.recorded.matcher .propagate) (p.recorded.matcher .fail) := by
  rw [recorded, matcher_mapTests, matcher_mapTests]
  refine Matcher.follows_fold (fun accepted => ⟨accepted, rfl⟩) p fun t _ => ?_
  exact Matcher.follows_recorded t

/-- How far the policies go together: either no test fails, and all is the same,
    or the first error ends the match that propagates errors. -/
theorem extract_tracks :
    (p.extract .fail v s = p.extract .propagate v s ∧
      p.calls .fail v s = p.calls .propagate v s ∧
      (∃ r, (p.extract .propagate v s).1 = .ok r) ∧ ∀ c ∈ p.calls .propagate v s, c.Answered) ∨
    ∃ e, (p.extract .propagate v s).1 = .error e ∧ EndsWithError e (p.calls .propagate v s) ∧
      p.calls .propagate v s <+: p.calls .fail v s := by
  have hextract := p.follows_tracking.extract v (s := (s, [])) (t := (s, []))
    ⟨rfl, fun _ hc => absurd hc List.not_mem_nil⟩
  rw [extract_recorded, extract_recorded, Prod.mk.injEq] at hextract
  rcases hextract with ⟨hresult, hstate, hnever⟩ | hended
  · refine Or.inl ⟨Prod.ext hresult.symm hstate.1.1.symm, hstate.1.2.symm, ?_, hstate.2⟩
    cases hpropagate : (p.extract .propagate v s).1 with
    | ok r => exact ⟨r, rfl⟩
    | error e =>
        rcases hnever e hpropagate with ⟨accepted, haccepted⟩
        exact nomatch haccepted
  · exact Or.inr hended

/-- If errors count as refusal, a match never fails, whatever is bound. -/
theorem matcher_fail_answers (b : Bindings) :
    ∃ accepted, (p.matcher .fail v b s).verdict = .ok accepted := by
  -- The match is followed by itself, with verdicts that are no errors.
  have hfollows : Matcher.Follows
      (.exact (fun verdict => ∃ accepted, verdict = .ok accepted) Eq fun _ _ _ => False)
      (p.matcher .fail) (p.matcher .fail) := by
    refine Matcher.follows_fold (fun accepted => ⟨accepted, rfl⟩) p fun t _ => ?_
    refine Matcher.follows_predicate_of (fun h => h) (fun h => h) fun {v w} hvw {s s'} hs => ?_
    cases hvw
    cases hs
    exact ⟨rfl, exists_lenientAnswer (t.test v s).1, rfl⟩
  have hattempt := (hfollows (Eq.refl v)).along (Eq.refl b) (Eq.refl s)
  generalize p.matcher .fail v b s = a at hattempt ⊢
  cases hattempt with
  | alike hverdict _ _ => exact hverdict
  | ended hnever => exact hnever.elim

/-- If no call fails, a match never fails, whatever is bound. -/
theorem matcher_propagate_answers (b : Bindings)
    (h : ∀ c ∈ p.callsFrom .propagate v b s, c.Answered) :
    ∃ accepted, (p.matcher .propagate v b s).verdict = .ok accepted := by
  have hsame : (p.matcher .propagate v b s).verdict =
      (p.recorded.matcher .propagate v b (s, [])).verdict := by
    have hattempt := (p.follows_recorded .propagate (Eq.refl v)).along (Eq.refl b)
      (t := (s, [])) (Eq.refl s)
    generalize p.matcher .propagate v b s = a, p.recorded.matcher .propagate v b (s, []) = a'
      at hattempt
    cases hattempt with
    | alike _ _ _ => rfl
    | ended hnever => exact hnever.elim
  have htracking := (p.follows_tracking (Eq.refl v)).along (Eq.refl b) (s := (s, []))
    (t := (s, [])) ⟨rfl, fun _ hc => absurd hc List.not_mem_nil⟩
  rw [hsame]
  unfold callsFrom at h
  generalize p.recorded.matcher .propagate v b (s, []) = a,
    p.recorded.matcher .fail v b (s, []) = a' at htracking h
  cases htracking with
  | alike hverdict _ _ => exact hverdict
  | ended hended => exact absurd h hended.1.not_answered

/-- If errors count as refusal, a match never fails. -/
theorem extract_fail_ne_error (e : MatchError) : (p.extract .fail v s).1 ≠ .error e := by
  rcases p.matcher_fail_answers v s .empty with ⟨accepted, haccepted⟩
  rw [extract_eq_outcome, Attempt.outcome, haccepted]
  cases accepted with
  | false => exact nofun
  | true => exact nofun

/-- The two policies. If errors count as refusal, a match never fails. As long as
    the match that propagates errors does not fail, it makes the same calls and
    comes to the same. If it fails, then with the error of its last call, after
    calls that did not fail and that the other policy makes, too. And counting
    errors as refusal is exchanging the tests for ones that refuse. -/
theorem extract_policies :
    (∀ e, (p.extract .fail v s).1 ≠ .error e) ∧
    (∀ r, (p.extract .propagate v s).1 = .ok r →
      p.extract .fail v s = p.extract .propagate v s ∧
        p.calls .fail v s = p.calls .propagate v s) ∧
    (∀ e, (p.extract .propagate v s).1 = .error e →
      (∃ earlier last, p.calls .propagate v s = earlier ++ [last] ∧
        (∀ c ∈ earlier, ∃ accepted, c.answer = .ok accepted) ∧ last.answer = .error e) ∧
      p.calls .propagate v s <+: p.calls .fail v s) ∧
    p.lenient.extract .propagate v s = p.extract .fail v s ∧
    p.lenient.calls .propagate v s = (p.calls .fail v s).map Call.lenient := by
  refine ⟨p.extract_fail_ne_error v s, fun r hr => ?_, fun e he => ?_, p.extract_lenient v s⟩
  · rcases p.extract_tracks v s with ⟨hsame, hcalls, _⟩ | ⟨e, he, _⟩
    · exact ⟨hsame, hcalls⟩
    · rw [hr] at he
      exact nomatch he
  · rcases p.extract_tracks v s with ⟨_, _, ⟨r, hr⟩, _⟩ | ⟨e', he', hlast, hprefix⟩
    · rw [hr] at he
      exact nomatch he
    · rw [he'] at he
      exact Except.error.inj he ▸ ⟨hlast, hprefix⟩

-- A test that fails is the last one that is called, or the next one is tried.
example : ((any [predicate ⟨"no", fun _ s => (.error (.predicate "no"), s)⟩,
      predicate ⟨"yes", fun _ s => (.ok true, s)⟩]).calls .propagate (.int 1) ()).length = 1 ∧
    ((any [predicate ⟨"no", fun _ s => (.error (.predicate "no"), s)⟩,
      predicate ⟨"yes", fun _ s => (.ok true, s)⟩]).calls .fail (.int 1) ()).length = 2 :=
  ⟨rfl, rfl⟩

end Pattern

end ShapeMatch
