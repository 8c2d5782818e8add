import ShapeMatch.Proofs.Contents
import ShapeMatch.Proofs.Policies
import ShapeMatch.Proofs.Runs

/-!
# The Order of Iteration

Nothing depends on the order in which bindings are walked through.

Bindings are lists here, with the slots in the order in which they were bound.
A map that is kept by hashes yields its entries in an order of its own, perhaps
another one each time. So a match is run again with bindings that are put in
another order whenever they are walked through: before each merge, before a
commit, where the groups are put in another order as well, and before the text
is made. Which order is taken each time is open. The walks are numbered, and
an order for every number is given in advance, so whatever happens in a run is
one of these choices.

The number of the next walk is carried along with the state of the tests. It
is only there so that no two walks have to take the same order, and a test that
runs a match of its own counts its walks, too.

Both runs are compared step by step. A merge may stop at another entry, and
what has been merged until then may be different, but nobody sees that: the
conjunction goes on with the bindings it started from. If it does not stop, the
contents are the same.

## Main definitions

* `Walks`: An order for every walk.
* `Matcher.walkingAlgebra`, `Pattern.extractWalking`: Matches that merge in these
  orders.
* `Session.matchWalking`, `Predicate.nestedWalking`: Matches that also commit in
  these orders, and tests that run them.
* `Predicate.Answers`: A test answers like another one in related states.
* `MatchResult.SameContents`: Results that differ in the order of entries only.
* `Walks.SameOutcome`: What all orders come to.

## Theorems

* `related_walking`: Matching in any order keeps that one match follows another.
* `sameContents_extractWalking`: Extraction comes to the same contents.
* `sameOutcome_extractWalking`: So the results, their texts and their commits are
  the same.
* `answers_carried`, `answers_nested`: Tests that answer alike.
* `extract_any_order`: No pattern and no value makes the order visible.
-/

namespace ShapeMatch

/-- An order in which a list is walked through, for each number of a walk. -/
structure Walks where
  order : Nat → {α : Type} → List α → List α
  perm : ∀ n {α : Type} (xs : List α), (order n xs).Perm xs

/-- Every list is walked through backwards. -/
def Walks.backwards : Walks := ⟨fun _ _ xs => xs.reverse, fun _ _ xs => xs.reverse_perm⟩

variable {σ τ : Type}

/-- The step, whose bindings come in the order of the next walk if it accepts. -/
def Step.walked (walks : Walks) (step : Step (σ × Nat)) : Step (σ × Nat) := fun b s =>
  let branch := step b s
  match branch.verdict with
  | .ok true => ⟨.ok true, branch.bindings.inOrder (walks.order branch.state.2),
      (branch.state.1, branch.state.2 + 1)⟩
  | _ => branch

/-- The meaning of patterns, where each member of a conjunction is merged in the
    order of the next walk. -/
def Matcher.walkingAlgebra (walks : Walks) (policy : ErrorPolicy) :
    Pattern.Algebra (σ × Nat) (Matcher (σ × Nat)) :=
  { algebra policy with all := fun members => all (members.map fun m v => (m v).walked walks) }

/-- Match a value, starting without bindings, and merge in the given orders. -/
def Pattern.extractWalking (walks : Walks) (policy : ErrorPolicy) (p : Pattern (σ × Nat))
    (v : Value) (s : σ × Nat) : Except MatchError MatchResult × (σ × Nat) :=
  (p.fold (Matcher.walkingAlgebra walks policy) v .empty s).outcome

namespace MatchResult

/-- The result with the entries of its bindings in another order. -/
def inOrder (order : List Capture → List Capture) : MatchResult → MatchResult
  | matched bindings => matched (bindings.inOrder order)
  | noMatch => noMatch

/-- The same result, where the entries of bindings may have another order. -/
inductive SameContents :
    Except MatchError MatchResult → Except MatchError MatchResult → Prop
  | matched {B C : Bindings} (h : B.SameContents C) :
      SameContents (.ok (.matched B)) (.ok (.matched C))
  | noMatch : SameContents (.ok .noMatch) (.ok .noMatch)
  | error (e : MatchError) : SameContents (.error e) (.error e)

end MatchResult

/-- A test answers like another one on built values, in related states. -/
def Predicate.Answers (R : σ → τ → Prop) (t : Predicate σ) (t' : Predicate (τ × Nat)) : Prop :=
  ∀ {v : Value}, v.Built → ∀ {s : σ} {u : τ × Nat}, R s u.1 →
    (t.test v s).1 = (t'.test v u).1 ∧ R (t.test v s).2 (t'.test v u).2.1

section Walking

variable {R : σ → τ → Prop}

/-- The same values, the same contents, and related states, where no match goes
    on without the other. -/
def Comparison.contents (R : σ → τ → Prop) : Comparison σ (τ × Nat) where
  values := Value.Same
  bindings := Bindings.SameContents
  verdicts := fun _ => True
  states := fun s t => R s t.1
  ended := fun _ _ _ => False

theorem Comparison.lawful_contents : (Comparison.contents R).Lawful where
  decided := fun _ => trivial
  views := Value.likeness_same.toViews
  bind := by
    intro slot v w b c hvw hbc
    rcases hvw with ⟨rfl, hv⟩
    exact hbc.bind? slot hv
  absorb := fun hm hbc => hm.absorb? hbc

/-- A step is followed in any order if it is followed in one. -/
theorem Step.follows_walked (walks : Walks) {step : Step σ} {step' : Step (τ × Nat)}
    (h : Follows (.contents R) step step') :
    Follows (.contents R) step (step'.walked walks) := by
  refine ⟨fun {b c s t} hbc hst => ?_, fun _ _ _ => ⟨trivial, fun _ _ hnever => hnever.elim⟩⟩
  have hattempt := h.along hbc hst
  unfold walked
  generalize step b s = a, step' c t = a' at hattempt
  cases hattempt with
  | ended hnever => exact hnever.elim
  | @alike verdict b c s t hverdict hbc hst =>
      rcases verdict with _ | _ | _
      · exact .alike hverdict hbc hst
      · exact .alike hverdict hbc hst
      · exact .alike hverdict
          (hbc.trans (Bindings.sameContents_inOrder hbc.right (walks.perm _ _))) hst

/-- Matching in any order keeps that one match follows another. -/
theorem Matcher.related_walking {ρ : Type} (walks : Walks) (policy : ErrorPolicy) (test : Predicate ρ → Matcher σ)
    (test' : Predicate ρ → Matcher (τ × Nat)) :
    (algebraWith test).Related (Follows (.contents R))
      ((walkingAlgebra walks policy).withTest test') := by
  have hlawful := Comparison.lawful_contents (R := R)
  have hkept := related_of_same hlawful (fun h => h.1)
    (fun h _ => h.1 ▸ Value.optionRel_same fun _ hu => h.2.found hu) test test'
  -- Only conjunctions walk through bindings.
  refine ⟨hkept.literal, hkept.typeMatch, hkept.exactType, hkept.seq, hkept.cons, hkept.mapping,
    hkept.object, fun {ms ms'} h => follows_all hlawful.toMerging ?_, hkept.any,
    hkept.capture⟩
  rw [List.forall₂_map_right_iff]
  refine h.imp fun m m' hm => ?_
  intro v w hvw
  exact Step.follows_walked walks (hm hvw)

/-- Extraction comes to the same contents in all orders. -/
theorem Pattern.sameContents_extractWalking (walks : Walks) (policy : ErrorPolicy) (p : Pattern σ)
    {f : Predicate σ → Predicate (τ × Nat)} (hf : ∀ t ∈ p.predicates, t.Answers R (f t))
    {v : Value} (hv : v.Built) {s : σ} {u : τ × Nat} (hst : R s u.1) :
    MatchResult.SameContents (p.extract policy v s).1
        ((p.mapTests f).extractWalking walks policy v u).1 ∧
      R (p.extract policy v s).2 ((p.mapTests f).extractWalking walks policy v u).2.1 := by
  have hfollows : Matcher.Follows (.contents R) (p.matcher policy)
      ((p.mapTests f).fold (Matcher.walkingAlgebra walks policy)) := by
    rw [fold_mapTests]
    refine fold_related (Matcher.related_walking walks policy (Matcher.predicate policy) _) p
      fun t ht => Matcher.follows_predicate_of (fun h => h.1) (fun h => h) fun {v w} hvw {s u} hs => ?_
    have hanswers := hf t ht hvw.2 hs
    exact ⟨congrArg policy.verdict hanswers.1, trivial, hanswers.2⟩
  have hempty : Bindings.empty.SameContents Bindings.empty :=
    ⟨Bindings.sound_empty, Bindings.sound_empty, fun _ => rfl⟩
  have hattempt := (hfollows ⟨rfl, hv⟩).along hempty hst
  rw [extract_eq_outcome, extractWalking]
  generalize p.matcher policy v .empty s = a,
    (p.mapTests f).fold (Matcher.walkingAlgebra walks policy) v .empty u = a' at hattempt
  cases hattempt with
  | ended hnever => exact hnever.elim
  | @alike verdict b c s t _ hbc hst =>
      rcases verdict with e | _ | _
      · exact ⟨.error e, hst⟩
      · exact ⟨.noMatch, hst⟩
      · exact ⟨.matched hbc, hst⟩

end Walking

section Results

variable {r r' : Except MatchError MatchResult} {order : List Capture → List Capture}

/-- The same results have the same text, whatever the order. -/
theorem MatchResult.SameContents.debug_eq (h : SameContents r r')
    (hperm : ∀ xs, (order xs).Perm xs) :
    r.map MatchResult.debug = r'.map fun result => (result.inOrder order).debug := by
  cases h with
  | matched h =>
      have hordered := h.trans (Bindings.sameContents_inOrder h.right (hperm _))
      exact congrArg (fun text => Except.ok ("Match(" ++ text ++ ")")) hordered.debug_eq
  | noMatch => rfl
  | error e => rfl

/-- A match comes to the same as one in the given orders: it has the same verdict
    and the same values under the same slots, its text is the same in the order of
    any walk, and so are the stores after a commit in the orders of any two walks. -/
structure Walks.SameOutcome (walks : Walks) (R : σ → τ → Prop)
    (x : Except MatchError MatchResult × σ) (y : Except MatchError MatchResult × (τ × Nat)) :
    Prop where
  contents : MatchResult.SameContents x.1 y.1
  states : R x.2 y.2.1
  text : ∀ n, x.1.map MatchResult.debug =
    y.1.map fun result => (result.inOrder (walks.order n)).debug
  commits : ∀ {b c : Bindings}, x.1 = .ok (.matched b) → y.1 = .ok (.matched c) →
    ∀ {store store' : Store}, store.SameContents store' → ∀ m n,
      (store.commit b).SameContents (store'.commitInOrder (walks.order m) (walks.order n) c)

/-- Whatever the orders, extraction comes to the same outcome. -/
theorem Pattern.sameOutcome_extractWalking (walks : Walks) (policy : ErrorPolicy) (p : Pattern σ)
    {R : σ → τ → Prop} {f : Predicate σ → Predicate (τ × Nat)}
    (hf : ∀ t ∈ p.predicates, t.Answers R (f t)) {v : Value} (hv : v.Built) {s : σ} {u : τ × Nat}
    (hs : R s u.1) :
    walks.SameOutcome R (p.extract policy v s)
      ((p.mapTests f).extractWalking walks policy v u) := by
  have hextract := p.sameContents_extractWalking walks policy hf hv hs
  refine ⟨hextract.1, hextract.2, fun n => hextract.1.debug_eq (walks.perm n), ?_⟩
  intro b c hb hc store store' hstores m n
  have hmatched := hextract.1
  rw [hb, hc] at hmatched
  cases hmatched with
  | matched h => exact hstores.commitInOrder h (walks.perm m) (walks.perm n)

end Results

section Nested

variable {ω : Type}

namespace Session

/-- Sessions that differ only in the order of the slots in the store. -/
structure SameContents (s t : Session ω) : Prop where
  host : s.host = t.host
  store : s.store.SameContents t.store

/-- Write bindings to the store in the orders of two walks. -/
def commitInOrder (walks : Walks) (n : Nat) (session : Session ω) (bindings : Bindings) :
    Session ω :=
  { session with
    store := session.store.commitInOrder (walks.order n) (walks.order (n + 1)) bindings }

/-- Match a value, and write what was recorded if the match succeeds, all in the
    given orders. -/
def matchWalking (walks : Walks) (policy : ErrorPolicy) (p : Pattern (Session ω × Nat)) (v : Value)
    (s : Session ω × Nat) : Except MatchError Bool × (Session ω × Nat) :=
  match p.extractWalking walks policy v s with
  | (.ok (.matched bindings), (session, n)) =>
    (.ok true, (session.commitInOrder walks n bindings, n + 2))
  | (.ok .noMatch, s) => (.ok false, s)
  | (.error e, s) => (.error e, s)

/-- A match that commits comes to the same answer and the same store in all
    orders. -/
theorem sameContents_matchWalking (walks : Walks) (policy : ErrorPolicy) (p : Pattern (Session ω))
    {f : Predicate (Session ω) → Predicate (Session ω × Nat)}
    (hf : ∀ t ∈ p.predicates, t.Answers SameContents (f t)) {v : Value} (hv : v.Built)
    {s : Session ω} {u : Session ω × Nat} (hs : s.SameContents u.1) :
    (s.matchValue policy p v).1 = (matchWalking walks policy (p.mapTests f) v u).1 ∧
      (s.matchValue policy p v).2.SameContents
        (matchWalking walks policy (p.mapTests f) v u).2.1 := by
  have hextract := p.sameContents_extractWalking walks policy hf hv hs
  unfold matchValue matchWalking
  generalize p.extract policy v s = x, (p.mapTests f).extractWalking walks policy v u = y at hextract
  rcases x with ⟨r, s'⟩
  rcases y with ⟨r', session, n⟩
  rcases hextract with ⟨hresult, hsession⟩
  cases hresult with
  | matched h =>
      exact ⟨rfl, hsession.host,
        hsession.store.commitInOrder h (walks.perm n) (walks.perm (n + 1))⟩
  | noMatch => exact ⟨rfl, hsession⟩
  | error e => exact ⟨rfl, hsession⟩

end Session

namespace Predicate

/-- The test, which leaves the number of the next walk alone. -/
def carried (t : Predicate σ) : Predicate (σ × Nat) where
  label := t.label
  test v s :=
    let result := t.test v s.1
    (result.1, result.2, s.2)

/-- The test of `Pattern.nested`, where the match takes the given orders. -/
def nestedWalking (walks : Walks) (policy : ErrorPolicy) (p : Pattern (Session ω × Nat)) :
    Predicate (Session ω × Nat) where
  label := "try_predicate"
  test v s :=
    let result := Session.matchWalking walks policy p v s
    ((result.1.mapError MatchError.message).mapError .predicate, result.2)

theorem answers_carried (t : Predicate σ) : t.Answers Eq t.carried := by
  intro v _ s u hs
  subst hs
  exact ⟨rfl, rfl⟩

/-- A test that runs a match of its own answers the same in all orders. -/
theorem answers_nested (walks : Walks) (policy : ErrorPolicy) (p : Pattern (Session ω))
    {f : Predicate (Session ω) → Predicate (Session ω × Nat)}
    (hf : ∀ t ∈ p.predicates, t.Answers Session.SameContents (f t)) :
    ∀ t ∈ (p.nested policy).predicates,
      t.Answers Session.SameContents (nestedWalking walks policy (p.mapTests f)) := by
  intro t ht v hv s u hs
  rw [List.mem_singleton.mp ht]
  have hmatch := Session.sameContents_matchWalking walks policy p hf hv hs
  exact ⟨congrArg (fun r => (r.mapError MatchError.message).mapError MatchError.predicate)
    hmatch.1, hmatch.2⟩

end Predicate

end Nested

namespace Pattern

/-- A match does not depend on the order in which bindings are walked through.
    Whatever the tests of a pattern are, they answer like themselves if they leave
    the walks alone; and tests that run matches of their own may be replaced by ones
    that run them in other orders. -/
theorem extract_any_order (walks : Walks) (policy : ErrorPolicy) (p : Pattern σ) {v : Value}
    (hv : v.Built) :
    (∀ (s : σ) (n : Nat), walks.SameOutcome Eq (p.extract policy v s)
      ((p.mapTests Predicate.carried).extractWalking walks policy v (s, n))) ∧
    ∀ (τ : Type) (R : σ → τ → Prop) (f : Predicate σ → Predicate (τ × Nat)),
      (∀ t ∈ p.predicates, t.Answers R (f t)) → ∀ (s : σ) (u : τ × Nat), R s u.1 →
        walks.SameOutcome R (p.extract policy v s)
          ((p.mapTests f).extractWalking walks policy v u) :=
  ⟨fun _ _ => sameOutcome_extractWalking walks policy p (fun t _ => t.answers_carried) hv rfl,
    fun _ _ _ hf _ _ hs => sameOutcome_extractWalking walks policy p hf hv hs⟩

-- Backwards, the slots end up in another order, also those of a nested match.
theorem extract_any_order_of_nested :
    ((all [(capture ⟨⟨2⟩, "z"⟩).nested .fail, all [capture ⟨⟨1⟩, "x"⟩, capture ⟨⟨1⟩, "y"⟩]]).extract
        .propagate (.int 7) (⟨.empty, ()⟩ : Session Unit)).1 =
      .ok (.matched ⟨⟨[(⟨⟨1⟩, "x"⟩, .int 7), (⟨⟨1⟩, "y"⟩, .int 7)]⟩⟩) ∧
    ((all [predicate (.nestedWalking .backwards .fail (capture ⟨⟨2⟩, "z"⟩)),
        all [capture ⟨⟨1⟩, "x"⟩, capture ⟨⟨1⟩, "y"⟩]]).extractWalking .backwards
        .propagate (.int 7) ((⟨.empty, ()⟩ : Session Unit), 0)).1 =
      .ok (.matched ⟨⟨[(⟨⟨1⟩, "y"⟩, .int 7), (⟨⟨1⟩, "x"⟩, .int 7)]⟩⟩) ∧
    Walks.backwards.SameOutcome Session.SameContents
      ((all [(capture ⟨⟨2⟩, "z"⟩).nested .fail, all [capture ⟨⟨1⟩, "x"⟩, capture ⟨⟨1⟩, "y"⟩]]).extract
        .propagate (.int 7) (⟨.empty, ()⟩ : Session Unit))
      ((all [predicate (.nestedWalking .backwards .fail (capture ⟨⟨2⟩, "z"⟩)),
        all [capture ⟨⟨1⟩, "x"⟩, capture ⟨⟨1⟩, "y"⟩]]).extractWalking .backwards
        .propagate (.int 7) ((⟨.empty, ()⟩ : Session Unit), 0)) := by
  have hanswers : ∀ t ∈ ((capture ⟨⟨2⟩, "z"⟩).nested .fail).predicates,
      t.Answers (Session.SameContents (ω := Unit))
        (.nestedWalking .backwards .fail (capture ⟨⟨2⟩, "z"⟩)) :=
    Predicate.answers_nested (f := Predicate.carried) .backwards .fail (capture ⟨⟨2⟩, "z"⟩)
      fun _ ht => absurd ht List.not_mem_nil
  have hany := @extract_any_order (Session Unit) .backwards .propagate
    (all [(capture ⟨⟨2⟩, "z"⟩).nested .fail, all [capture ⟨⟨1⟩, "x"⟩, capture ⟨⟨1⟩, "y"⟩]])
    (.int 7) (.int 7)
  exact ⟨rfl, rfl, hany.2 (Session Unit) Session.SameContents
    (fun _ => .nestedWalking .backwards .fail (capture ⟨⟨2⟩, "z"⟩)) hanswers ⟨.empty, ()⟩
    (⟨.empty, ()⟩, 0) ⟨rfl, rfl, fun _ => rfl⟩⟩

end Pattern

end ShapeMatch
