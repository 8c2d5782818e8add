import ShapeMatch.Proofs.Trails

/-!
# The Order of Calls

Which tests a match calls, and in which order.

The tests of a pattern can be listed from left to right. A match calls some of
them, in this order, and none twice. Tests have labels, and where those in
different places have different ones, the calls in the log are calls of places.
For a single test there is nothing to show, and it is kept when some of the calls
for one list are followed by some of the calls for another. So it is kept by
matching, however the match ends.

Without alternatives a match that succeeds has skipped nothing. The calls that
it makes are those on the trail of the pattern, and all tests on it accept.

## Main definitions

* `Logged`: The log has grown by calls of listed tests.
* `Event.mapTest`: Exchange the test that is called.

## Theorems

* `graded_logged`: Calls for one list and then for another are calls for both.
* `trail_mapTests`: The trail of a pattern with other tests.
* `Passes.recorded`: The calls of a trail that passes.
* `calls_in_order`: The calls of a match are some of the tests of the pattern, or
  all of them.
-/

namespace ShapeMatch

variable {σ : Type}

/-- The log has grown by calls of some of the listed tests, in their order. -/
def Logged (tests : List (Predicate σ)) (s t : σ × List (Call σ)) : Prop :=
  ∃ calls, t.2 = s.2 ++ calls ∧ (calls.map Call.test).Sublist tests

namespace Logged

variable {s t u : σ × List (Call σ)}

theorem refl (tests : List (Predicate σ)) (s : σ × List (Call σ)) : Logged tests s s :=
  ⟨[], (List.append_nil s.2).symm, List.nil_sublist tests⟩

theorem append {tests more : List (Predicate σ)} (h : Logged tests s t) (h' : Logged more t u) :
    Logged (tests ++ more) s u := by
  rcases h with ⟨calls, hcalls, hsublist⟩
  rcases h' with ⟨calls', hcalls', hsublist'⟩
  refine ⟨calls ++ calls', ?_, ?_⟩
  · rw [hcalls', hcalls, List.append_assoc]
  · rw [List.map_append]
    exact hsublist.append hsublist'

end Logged

theorem graded_logged : Graded (Logged (σ := σ)) := ⟨Logged.refl, Logged.append⟩

theorem Matcher.logs_recorded (policy : ErrorPolicy) (t : Predicate σ) (v : Value) :
    Step.Keeps (fun _ => True) (Logged [t]) (predicate policy t.recorded v) :=
  keeps_predicate t.recorded v fun s => ⟨[⟨t, v, (t.test v s.1).1⟩], rfl, List.Sublist.refl [t]⟩

/-- The event with another test. -/
def Event.mapTest {τ : Type} (f : Predicate σ → Predicate τ) : Event σ → Event τ
  | .capture slot value => .capture slot value
  | .test t value => .test (f t) value

namespace Pattern

variable {τ : Type} (f : Predicate σ → Predicate τ) (p : Pattern σ)

theorem anyFree_mapTests : (p.mapTests f).anyFree = p.anyFree :=
  fold_mapTests f anyFreeAlgebra p

/-- The trail of a pattern with other tests is the old one with those tests. -/
theorem trail_mapTests (v : Value) :
    (p.mapTests f).trail v = (p.trail v).map (List.map (Event.mapTest f)) :=
  (congrFun (fold_mapTests f _ p) v).trans (fold_eq_map_trail (Event.mapTest f) p v)

end Pattern

/-- A trail of recorded tests that passes has called all of them, and they have
    accepted. -/
theorem Trail.Passes.recorded {T : Trail σ} : ∀ {s t : σ × List (Call σ)},
    Trail.Passes (T.map (Event.mapTest Predicate.recorded)) s t →
      ∃ calls, t.2 = s.2 ++ calls ∧
        calls.map Call.test = T.flatMap (Event.collect (fun t => [t]) fun _ => []) ∧
        ∀ c ∈ calls, c.answer = .ok true := by
  induction T with
  | nil =>
      intro s t h
      cases Trail.passes_nil_iff.mp h
      exact ⟨[], (List.append_nil s.2).symm, rfl, fun _ hc => absurd hc List.not_mem_nil⟩
  | cons event rest ih =>
      intro s t h
      cases event with
      | capture slot value => exact ih (Trail.passes_capture_iff.mp h)
      | test q value =>
          rcases Trail.passes_test_iff.mp h with ⟨s₁, hfirst, hrest⟩
          rcases ih hrest with ⟨calls, hcalls, htests, hanswers⟩
          have hanswer : (q.test value s.1).1 = .ok true := congrArg Prod.fst hfirst
          have hlog : s.2 ++ [⟨q, value, (q.test value s.1).1⟩] = s₁.2 :=
            congrArg (fun result => result.2.2) hfirst
          refine ⟨⟨q, value, .ok true⟩ :: calls, ?_, congrArg (q :: ·) htests,
            List.forall_mem_cons.mpr ⟨rfl, hanswers⟩⟩
          rw [hcalls, ← hlog, hanswer, List.append_assoc]
          rfl

namespace Pattern

/-- A match calls some of the tests of the pattern, from left to right, and none
    twice. If it succeeds, and there are no alternatives, it calls all of them, and
    all of them accept. -/
theorem calls_in_order (policy : ErrorPolicy) (p : Pattern σ) (v : Value) (s : σ) :
    ((p.calls policy v s).map Call.test).Sublist p.predicates ∧
    (p.anyFree = true → v.Built → ∀ B, (p.extract policy v s).1 = .ok (.matched B) →
      (p.calls policy v s).map Call.test = p.predicates ∧
        ∀ c ∈ p.calls policy v s, c.answer = .ok true) := by
  constructor
  · have hlogs : Step.Keeps (fun _ => True) (Logged p.predicates)
        (p.recorded.matcher policy v) := by
      rw [recorded, matcher_mapTests]
      exact keeps_fold (fun _ _ => trivial) graded_logged (fun t => [t]) p
        (fun t _ => Matcher.logs_recorded policy t) v
    rcases (hlogs .empty (s, []) trivial).2 with ⟨calls, hcalls, hsublist⟩
    have hlog : p.calls policy v s = calls := hcalls
    rw [hlog]
    exact hsublist
  · intro hp hv B hB
    have hrecorded := p.extract_recorded v s policy
    rw [hB] at hrecorded
    have hfree := (anyFree_mapTests Predicate.recorded p).trans hp
    rcases (extract_iff_trail hfree hv).mp hrecorded with ⟨T, hT, hpasses, -⟩
    rw [trail_mapTests] at hT
    rcases Option.map_eq_some_iff.mp hT with ⟨T', hT', rfl⟩
    rcases hpasses.recorded with ⟨calls, hcalls, htests, hanswers⟩
    have hlog : p.calls policy v s = calls := hcalls
    rw [hlog, predicates, ← flatMap_collect_trail _ _ p hT']
    exact ⟨htests, hanswers⟩

-- The tests of the head, of the members on the tail, and of an item of it.
theorem calls_in_order_of_cons :
    ((cons (predicate ⟨"head", fun _ n => (.ok true, n + 1)⟩)
          (all [predicate ⟨"tail", fun _ n => (.ok (n == 1), n + 1)⟩, capture ⟨⟨1⟩, "rest"⟩,
            seq .list [predicate ⟨"item", fun _ n => (.ok (n == 2), n + 1)⟩]])).calls .propagate
        (.seq .list [.int 1, .int 2]) 0).map Call.test =
      [⟨"head", fun _ n => (.ok true, n + 1)⟩, ⟨"tail", fun _ n => (.ok (n == 1), n + 1)⟩,
        ⟨"item", fun _ n => (.ok (n == 2), n + 1)⟩] :=
  ((calls_in_order .propagate _ _ 0).2 rfl (.seq .list _ (by simp [Value.Built.int])) _ rfl).1

end Pattern

end ShapeMatch
