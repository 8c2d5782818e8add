import ShapeMatch.Proofs.Policies
import ShapeMatch.Proofs.Runs
import ShapeMatch.Proofs.Variants

/-!
# Reordered Conjunctions

The members of a conjunction in another order.

Each member starts from the bindings of the conjunction and sees nothing of
what the others record, also where an alternative inside it depends on those
bindings. Only the merge brings them together, and whether it succeeds does not
depend on the order. What does depend on it is the value that is kept for a
slot, the first of several equal ones, and no later comparison can tell.

The tests run in another order, too, and more or fewer of them run. So their
answers must not change with the states they lead to, and no test may end the
match with an error. They may have any other effect. A test that commits to a
context does change the answer of one that reads from it, and then the order
matters.

## Main definitions

* `Pattern.Reordered`: Conjunctions have their members in another order.
* `Predicate.SteadyOn`: The answers do not change with the state.

## Theorems

* `follows_predicate_of_steady`: A steady test follows itself.
* `Reordered.agrees`: A pattern agrees with a reordered one.
* `extract_reordered`: The order of members does not matter.
* `extract_reordered_bound`: It does if a test reads what another one commits.
-/

namespace ShapeMatch

/-- The test stays in a class of states, and its answers are the same in all of
    them. -/
structure Predicate.SteadyOn {σ : Type} (I : σ → Prop) (t : Predicate σ) : Prop where
  stays : ∀ v {s}, I s → I (t.test v s).2
  answers : ∀ v {s s'}, I s → I s' → (t.test v s).1 = (t.test v s').1

namespace Pattern

variable {σ : Type}

/-- A leaf and itself. -/
inductive SameLeaf : Pattern σ → Pattern σ → Prop
  | literal (v : Value) : SameLeaf (literal v) (literal v)
  | typeMatch (tag : TypeTag) : SameLeaf (typeMatch tag) (typeMatch tag)
  | exactType (tag : TypeTag) : SameLeaf (exactType tag) (exactType tag)
  | predicate (t : Predicate σ) : SameLeaf (predicate t) (predicate t)

/-- Any conjunctions of a pattern, at any depth, have their members in another
    order. -/
abbrev Reordered : Pattern σ → Pattern σ → Prop := Variant SameLeaf Eq List.Perm

variable {policy : ErrorPolicy} {I : σ → Prop}

/-- No test of the pattern ends a match with an error, either because none has
    an error or because errors count as refusal. -/
def Unfailing (policy : ErrorPolicy) (I : σ → Prop) (p : Pattern σ) : Prop :=
  policy = .fail ∨ ∀ t ∈ p.predicates, ∀ v s, I s → ∀ e, (t.test v s).1 ≠ .error e

/-- A steady test follows itself in any comparison of states in the class, if it
    does not end a match. -/
theorem follows_predicate_of_steady {C : Comparison σ σ} {t : Predicate σ} (hsteady : t.SteadyOn I)
    (herror : policy = .fail ∨ ∀ v s, I s → ∀ e, (t.test v s).1 ≠ .error e)
    (hsame : ∀ {v w}, C.values v w → v = w) (hended : ∀ {e s s'}, ¬C.ended e s s')
    (hverdicts : ∀ accepted, C.verdicts (.ok accepted))
    (hstates : ∀ {s s'}, C.states s s' ↔ I s ∧ I s') :
    Matcher.Follows C (Matcher.predicate policy t) (Matcher.predicate policy t) := by
  refine Matcher.follows_predicate_of hsame hended fun {v w} _ {s s'} hs => ?_
  rw [hstates] at hs
  have hanswers := hsteady.answers v hs.1 hs.2
  refine ⟨by rw [hanswers], ?_, hstates.mpr ⟨hsteady.stays v hs.1, hsteady.stays v hs.2⟩⟩
  cases hanswer : (t.test v s).1 with
  | ok accepted =>
      cases policy with
      | propagate => exact hverdicts accepted
      | fail => exact hverdicts accepted
  | error e =>
      rcases herror with rfl | hnever
      · exact hverdicts false
      · exact absurd hanswer (hnever v s hs.1 e)

theorem SameLeaf.agrees {p q : Pattern σ} (h : SameLeaf p q)
    (hp : ∀ t ∈ p.predicates, t.SteadyOn I ∧
      (policy = .fail ∨ ∀ v s, I s → ∀ e, (t.test v s).1 ≠ .error e)) :
    Matcher.Agrees Value.Same I (p.matcher policy) (q.matcher policy) := by
  have hmerging : (Comparison.agreement Value.Same I).Merging :=
    (lawful_agreement Value.likeness_same).toMerging
  cases h with
  | literal expected => exact Matcher.follows_answer hmerging fun v w hvw => hvw.1 ▸ rfl
  | typeMatch tag => exact Matcher.follows_answer hmerging fun v w hvw => hvw.1 ▸ rfl
  | exactType tag => exact Matcher.follows_answer hmerging fun v w hvw => hvw.1 ▸ rfl
  | predicate t =>
      have ht := hp t List.mem_cons_self
      exact follows_predicate_of_steady ht.1 ht.2 (fun h => h.1) (fun h => h)
        (fun accepted => ⟨accepted, rfl⟩) Iff.rfl

/-- A pattern agrees with a reordered one, if its tests give steady answers. -/
theorem Reordered.agrees {p p' : Pattern σ} (h : Reordered p p')
    (hsteady : ∀ t ∈ p.predicates, t.SteadyOn I) (herror : p.Unfailing policy I) :
    Matcher.Agrees Value.Same I (p.matcher policy) (p'.matcher policy) := by
  refine Variant.agrees (A := fun t => t.SteadyOn I ∧
      (policy = .fail ∨ ∀ v s, I s → ∀ e, (t.test v s).1 ≠ .error e))
    Value.likeness_same (fun hleaf hA => hleaf.agrees hA) ?_ (fun hperm => hperm) h
    fun t ht => ⟨hsteady t ht, herror.imp id fun hnever => hnever t ht⟩
  intro k k' hkey v w hvw
  rcases hvw with ⟨rfl, hv⟩
  exact hkey ▸ Value.optionRel_same fun u hu => hv.found hu

/-- The order of conjuncts does not matter: if the answers of the tests do not
    change with the states that they lead to, a pattern and a reordered one
    both refuse, or both match and bind the same slots to equal values. -/
theorem extract_reordered {p p' : Pattern σ} (hp : Reordered p p')
    (hsteady : ∀ t ∈ p.predicates, t.SteadyOn I) (herror : p.Unfailing policy I) {v : Value}
    (hv : v.Built) {s s' : σ} (hs : I s) (hs' : I s') :
    MatchResult.Akin (p.extract policy v s).1 (p'.extract policy v s').1 :=
  akin_extract (hp.agrees hsteady herror) ⟨rfl, hv⟩ hs hs'

-- A test that counts its calls, and two captures of which the first is kept.
theorem extract_reordered_of_count :
    MatchResult.Akin (.ok (.matched ⟨⟨[(⟨⟨1⟩, "x"⟩, .int 1)]⟩⟩))
      (.ok (.matched ⟨⟨[(⟨⟨1⟩, "x"⟩, .float ⟨0x3ff0000000000000⟩)]⟩⟩)) := by
  have hp : Reordered
      (all [.cons (capture ⟨⟨1⟩, "x"⟩) wildcard,
        .seq .list [predicate ⟨"count", fun _ n => (.ok true, n + 1)⟩, capture ⟨⟨1⟩, "x"⟩]])
      (all [.seq .list [predicate ⟨"count", fun _ n => (.ok true, n + 1)⟩, capture ⟨⟨1⟩, "x"⟩],
        .cons (capture ⟨⟨1⟩, "x"⟩) wildcard]) := by
    refine .all (.cons ?_ (.cons ?_ .nil)) (.swap _ _ [])
    · exact .cons (.capture _) (.all .nil .nil)
    · exact .seq .list (.cons (.leaf (.predicate _)) (.cons (.capture _) .nil))
  have hsteady : Predicate.SteadyOn (fun _ : Nat => True) ⟨"count", fun _ n => (.ok true, n + 1)⟩ :=
    ⟨fun _ _ _ => trivial, fun _ _ _ _ _ => rfl⟩
  have hv : (Value.seq .list [.int 1, .float ⟨0x3ff0000000000000⟩]).Built :=
    .seq .list _ (by simp [Value.Built.int, Value.Built.float])
  have hakin : MatchResult.Akin (extract .fail _ _ 0).1 (extract .fail _ _ 0).1 :=
    extract_reordered hp (List.forall_mem_singleton.mpr hsteady) (.inl rfl) hv trivial trivial
  exact hakin

/-- A test whether a slot is bound in its context. -/
def isBound {ω : Type} (slot : Slot) : Pattern (Session ω) :=
  test fun _ session => (session.store.contains slot, session)

/-- It does matter if a test reads what another one commits: then the order of
    two tests decides whether the first one accepts. -/
theorem extract_reordered_bound :
    @Reordered (Session Unit)
        (all [isBound ⟨⟨1⟩, "x"⟩, (capture ⟨⟨1⟩, "x"⟩).nested .propagate])
        (all [(capture ⟨⟨1⟩, "x"⟩).nested .propagate, isBound ⟨⟨1⟩, "x"⟩]) ∧
      ((all [isBound ⟨⟨1⟩, "x"⟩, (capture ⟨⟨1⟩, "x"⟩).nested .propagate]).extract .fail (.int 1)
          ((Run.start ()).exec [.create]).session).1 = .ok .noMatch ∧
      ((all [(capture ⟨⟨1⟩, "x"⟩).nested .propagate, isBound ⟨⟨1⟩, "x"⟩]).extract .fail (.int 1)
          ((Run.start ()).exec [.create]).session).1 = .ok (.matched .empty) :=
  ⟨.all (.cons (.leaf (.predicate _)) (.cons (.leaf (.predicate _)) .nil)) (.swap _ _ []), rfl, rfl⟩

end Pattern

end ShapeMatch
