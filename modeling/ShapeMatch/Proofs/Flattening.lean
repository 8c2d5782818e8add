import ShapeMatch.Proofs.Isolation
import ShapeMatch.Proofs.Threading

/-!
# Flattened Conjunctions and Disjunctions

When a nested conjunction or disjunction can be replaced by its members.

At the beginning of another one, it always can. What a conjunction records
starts with the bindings it was given, so merging the result into those
bindings again changes nothing, and the members behind it are merged into the
same either way. No other test is run, and none in another order. So the
patterns are the same as isolated steps, and they can be exchanged in any
pattern.

Behind other members this is not so. A nested conjunction compares the captures
of its own members first, and a flat one compares each of them with all that
came before, so a conflict may be found at another moment, after fewer or more
tests. It is found in both or in neither, though: a derivation of one is a
derivation of the other. So both match with the same bindings or both refuse,
and only the state in which they refuse may differ. A larger pattern can tell
if a later test looks at that state, and not otherwise.

## Main definitions

* `Pattern.Flattened`: Nested conjunctions and disjunctions are flattened where
  they come first, anywhere in a pattern.
* `Pattern.Inlined`: Nested conjunctions are flattened wherever they stand.

## Theorems

* `mergeFrom_append`, `anyOf_append`: Merging and choosing in two parts.
* `Flattened.follows`: Flattened patterns are the same as isolated steps.
* `accepts_inlined_iff`: An inlined conjunction has the same derivations.
* `Inlined.follows`: Inlined patterns go together if the tests are steady.
* `extract_flattened`: Flattening does not change the meaning.
-/

namespace ShapeMatch

variable {σ : Type}

namespace Step

/-- A merge in two parts. The second goes on where the first has accepted. -/
theorem mergeFrom_append (parent : Bindings) (first rest : List (Step σ)) :
    ∀ merged s, mergeFrom parent (first ++ rest) merged s =
      (mergeFrom parent first merged s).andThen (mergeFrom parent rest) := by
  induction first with
  | nil => exact fun _ _ => rfl
  | cons step steps ih =>
      intro merged s
      rw [List.cons_append, mergeFrom, mergeFrom]
      rcases step parent s with ⟨_ | _ | _, c, s'⟩
      · rfl
      · rfl
      · simp only
        cases merged.absorb? c with
        | none => rfl
        | some merged' => exact ih merged' s'

/-- A merge restores the bindings it started from, unless it accepts. -/
theorem restored_mergeFrom (parent : Bindings) (steps : List (Step σ)) :
    ∀ merged s, (mergeFrom parent steps merged s).restored parent =
      mergeFrom parent steps merged s := by
  induction steps with
  | nil => exact fun _ _ => rfl
  | cons step rest ih =>
      intro merged s
      rw [mergeFrom]
      rcases step parent s with ⟨_ | _ | _, c, s'⟩
      · rfl
      · rfl
      · simp only
        cases merged.absorb? c with
        | none => rfl
        | some merged' => exact ih merged' s'

/-- Alternatives in two parts. The second is tried where the first has refused. -/
theorem anyOf_append (first rest : List (Step σ)) :
    anyOf (first ++ rest) = anyOf (anyOf first :: rest) := by
  induction first with
  | nil => rfl
  | cons step steps ih =>
      funext b s
      simp only [List.cons_append, anyOf, ih]
      rcases step b s with ⟨_ | _ | _, c, s'⟩
      · rfl
      · rfl
      · rfl

variable {b : Bindings} {s : σ}

/-- A conjunction of one member is the isolated member, if the bindings it
    starts from merge with what the member records. -/
theorem allOf_singleton {step : Step σ}
    (h : ∀ c s', step b s = ⟨.ok true, c, s'⟩ → b.absorb? c = some c) :
    allOf [step] b s = step.isolated b s := by
  unfold allOf mergeFrom isolated
  rcases hstep : step b s with ⟨_ | _ | _, c, s'⟩
  · rfl
  · rfl
  · simp only [h c s' hstep]
    rfl

/-- A conjunction in two parts, where the first is a member of its own. -/
theorem allOf_append {first rest : List (Step σ)}
    (h : ∀ c s', allOf first b s = ⟨.ok true, c, s'⟩ → b.absorb? c = some c) :
    allOf (first ++ rest) b s = allOf (allOf first :: rest) b s := by
  have hrestored := restored_mergeFrom b first b s
  unfold allOf at *
  rw [mergeFrom_append, mergeFrom]
  rcases hfirst : mergeFrom b first b s with ⟨_ | _ | _, c, s'⟩
  · rw [hfirst] at hrestored
    exact hrestored.symm
  · rw [hfirst] at hrestored
    exact hrestored.symm
  · simp only [h c s' hfirst]
    rfl

end Step

namespace Bindings

/-- Bindings that have grown from others merge with those into themselves. -/
theorem absorb?_extend_self {b : Bindings} (hb : b.Sound) {captures : List Capture}
    (hbuilt : ∀ c ∈ captures, c.2.Built) :
    b.absorb? (b.extend captures) = some (b.extend captures) := by
  have hsound : (b.extend captures).Sound := Sound.extend captures hb hbuilt
  rw [absorb?_eq_some_iff hsound]
  refine ⟨(extend_entries_extend b b (fun c hc => isSome_get?_of_mem hc) captures).symm,
    fun entry hentry => ⟨entry.2, hsound.get?_iff_mem.mpr hentry, ?_⟩⟩
  exact Value.equivalenceOn_alike.refl (hsound.built entry hentry)

end Bindings

namespace Pattern

variable {policy : ErrorPolicy} {p q : Pattern σ} {v : Value}

section Derivations

theorem acceptsEach_append_iff {first rest : List (Pattern σ)} {b : Bindings} {s s' : σ}
    {E : List Capture} : AcceptsEach policy (first ++ rest) v b s E s' ↔
      ∃ F G s₁, E = F ++ G ∧ AcceptsEach policy first v b s F s₁ ∧
        AcceptsEach policy rest v b s₁ G s' := by
  induction first generalizing s E with
  | nil =>
      constructor
      · exact fun h => ⟨[], E, s, rfl, .nil, h⟩
      · intro h
        rcases h with ⟨F, G, s₁, rfl, hnil, h⟩
        cases hnil
        exact h
  | cons p first ih =>
      constructor
      · intro h
        cases h with
        | cons hp hrest =>
            rcases ih.mp hrest with ⟨F, G, s₁, rfl, hfirst, hlast⟩
            exact ⟨_, G, s₁, (List.append_assoc _ F G).symm, .cons hp hfirst, hlast⟩
      · intro h
        rcases h with ⟨F, G, s₁, rfl, hfirst, hlast⟩
        cases hfirst with
        | cons hp hfirst =>
            rw [List.append_assoc]
            exact .cons hp (ih.mpr ⟨_, G, s₁, rfl, hfirst, hlast⟩)

theorem acceptsEach_singleton_iff {b : Bindings} {s s' : σ} {E : List Capture} :
    AcceptsEach policy [p] v b s E s' ↔ Accepts policy p v b s E s' := by
  constructor
  · intro h
    cases h with
    | cons hp hnil =>
        cases hnil
        rw [List.append_nil]
        exact hp
  · exact fun h => List.append_nil E ▸ .cons h .nil

/-- A conjunction accepts as before if a nested one is replaced by its members. -/
theorem accepts_inlined_iff (xs ys zs : List (Pattern σ)) {b : Bindings} {s s' : σ}
    {E : List Capture} : Accepts policy (all (xs ++ [all ys] ++ zs)) v b s E s' ↔
      Accepts policy (all (xs ++ ys ++ zs)) v b s E s' := by
  simp only [accepts_all_iff, acceptsEach_append_iff, acceptsEach_singleton_iff]

end Derivations

section Flattening

/-- A conjunction or disjunction at the beginning of another is flattened, or one
    of a single member is that member. -/
inductive Flattening : Pattern σ → Pattern σ → Prop
  | refl (p : Pattern σ) : Flattening p p
  | both (ps : List (Pattern σ)) (q : Pattern σ) :
      Flattening ((all ps).both q) (all [all ps, q])
  | either (ps : List (Pattern σ)) (q : Pattern σ) :
      Flattening ((any ps).either q) (any [any ps, q])
  | allOne (p : Pattern σ) : Flattening (all [p]) p
  | anyOne (p : Pattern σ) : Flattening (any [p]) p

/-- Conjunctions and disjunctions are flattened anywhere in a pattern. -/
abbrev Flattened : Pattern σ → Pattern σ → Prop := Variant Flattening Eq Eq

-- What a pattern records merges into the bindings that it started from.
theorem absorb?_of_accepted (hv : v.Built) {b c : Bindings} (hb : b.Sound) {s s' : σ}
    (h : p.matcher policy v b s = ⟨.ok true, c, s'⟩) : b.absorb? c = some c := by
  rcases (adequate p hv hb).mp h with ⟨E, hE, rfl, -⟩
  exact Bindings.absorb?_extend_self hb (hE.built hv)

theorem matcher_all_apply (ps : List (Pattern σ)) (v : Value) :
    (all ps).matcher policy v = Step.allOf (ps.map fun p => p.matcher policy v) := by
  rw [matcher_all, Matcher.all, List.map_map]
  rfl

theorem matcher_any_apply (ps : List (Pattern σ)) (v : Value) :
    (any ps).matcher policy v = Step.anyOf (ps.map fun p => p.matcher policy v) := by
  rw [matcher_any, Matcher.any, List.map_map]
  rfl

/-- Flattened patterns are the same as isolated steps. -/
theorem Flattening.isolated_eq (h : Flattening p q) (hv : v.Built) {b : Bindings} (hb : b.Sound)
    (s : σ) :
    (p.matcher policy v).isolated b s = (q.matcher policy v).isolated b s := by
  cases h with
  | refl p => rfl
  | both ps q =>
      have hmerges : ∀ c s', Step.allOf (ps.map fun p => p.matcher policy v) b s =
          ⟨.ok true, c, s'⟩ → b.absorb? c = some c := by
        intro c s' haccepted
        rw [← matcher_all_apply] at haccepted
        exact absorb?_of_accepted hv hb haccepted
      rw [both_all, matcher_all_apply, matcher_all_apply, List.map_append, Step.isolated,
        Step.isolated, Step.allOf_append hmerges, List.map_cons (a := all ps), matcher_all_apply]
  | either ps q =>
      rw [either_any, matcher_any_apply, matcher_any_apply, List.map_append, Step.anyOf_append,
        List.map_cons (a := any ps), matcher_any_apply]
  | allOne p =>
      rw [matcher_all_apply, ← Step.isolated_isolated (q.matcher policy v), Step.isolated,
        Step.isolated]
      exact congrArg (Attempt.restored b)
        (Step.allOf_singleton fun c s' haccepted => absorb?_of_accepted hv hb haccepted)
  | anyOne p =>
      rw [matcher_any_apply]
      exact congrFun (congrFun ((congrArg Step.isolated (Step.anyOf_singleton _)).trans
        (Step.isolated_isolated _)) b) s

/-- A pattern follows itself if its tests do. -/
theorem follows_self {V : Except MatchError Bool → Prop} {R : σ → σ → Prop}
    (hV : ∀ accepted, V (.ok accepted)) (p : Pattern σ)
    (htests : ∀ t ∈ p.predicates, Matcher.Follows (.sound V R) (Matcher.predicate policy t)
      (Matcher.predicate policy t)) :
    Matcher.Follows (.sound V R) (p.matcher policy) (p.matcher policy) :=
  fold_related (Matcher.related_of_same (Comparison.lawful_sound hV) (fun h => h.1)
    (fun h _ => h.1 ▸ Value.optionRel_same fun _ hu => h.2.found hu) _ _) p htests

/-- Flattened patterns go together: isolated, they come to the same verdicts,
    bindings and states. -/
theorem Flattened.follows (h : Flattened p q) :
    Matcher.Follows (.sound (fun _ => True) Eq) (p.matcher policy).isolated
      (q.matcher policy).isolated := by
  have hlawful : (Comparison.sound (σ := σ) (fun _ => True) Eq).Lawful :=
    Comparison.lawful_sound fun _ => trivial
  refine Variant.related (A := fun _ => True)
    (Matcher.related_isolated hlawful (fun h => h.1)
      (fun h _ => h.1 ▸ Value.optionRel_same fun _ hu => h.2.found hu)
      (Matcher.predicate policy) (Matcher.predicate policy)) ?_ h fun _ _ => trivial
  intro p q hleaf _ v w hvw
  have hself : Matcher.Follows (.sound (fun _ => True) Eq) (q.matcher policy).isolated
      (q.matcher policy).isolated :=
    Matcher.follows_isolated hlawful (follows_self (fun _ => trivial) q fun t _ =>
      Matcher.follows_predicate_of (fun h => h.1) (fun h => h)
        fun _ _ _ hs => ⟨hs ▸ rfl, trivial, hs ▸ rfl⟩)
  refine ⟨fun {b c s s'} hbc hs => ?_, (hself hvw).onward⟩
  -- The left one is the same as the right one, which follows itself.
  change Attempt.Follows _ ((p.matcher policy v).isolated b s) _
  rw [hleaf.isolated_eq hvw.2 hbc.2]
  exact (hself hvw).along hbc hs

theorem Flattened.extract_eq (h : Flattened p q) (hv : v.Built) (s : σ) :
    p.extract policy v s = q.extract policy v s := by
  have hsame : (p.extract policy v s).1 = (q.extract policy v s).1 ∧
      (p.extract policy v s).2 = (q.extract policy v s).2 :=
    extract_of_follows h.follows hv rfl
  exact Prod.ext hsame.1 hsame.2

/-- Exchanging the tests goes together with flattening. -/
theorem related_flattened {τ : Type} (f : Predicate σ → Predicate τ) :
    (testAlgebra f).Related Flattened (testAlgebra f) := by
  have hnamed : ∀ {ι : Type} {xs ys : List (ι × Pattern τ)},
      List.Forall₂ (fun x y => x.1 = y.1 ∧ Flattened x.2 y.2) xs ys →
      List.Forall₂ Eq (xs.map Prod.fst) (ys.map Prod.fst) ∧
        List.Forall₂ Flattened (xs.map Prod.snd) (ys.map Prod.snd) := by
    intro ι xs ys h
    simp only [List.forall₂_map_left_iff, List.forall₂_map_right_iff]
    exact ⟨h.imp fun _ _ hxy => hxy.1, h.imp fun _ _ hxy => hxy.2⟩
  refine ⟨fun v => .leaf (.refl _), fun tag => .leaf (.refl _), fun tag => .leaf (.refl _),
    fun kind _ _ h => .seq kind h, fun hhead htail => .cons hhead htail, fun h => ?_,
    fun expected _ _ h => ?_, fun h => .all h rfl, fun h => .any h, fun slot => .capture slot⟩
  · exact .mapping (hnamed h).1 (hnamed h).2
  · exact .object expected (List.forall₂_eq_eq_eq ▸ (hnamed h).1) (hnamed h).2

theorem Flattened.mapTests {τ : Type} (f : Predicate σ → Predicate τ) (h : Flattened p q) :
    Flattened (p.mapTests f) (q.mapTests f) := by
  refine Variant.related (A := fun _ => True) (related_flattened f) ?_ h fun _ _ => trivial
  intro p q hleaf _
  refine .leaf ?_
  cases hleaf with
  | refl p => exact .refl _
  | both ps q =>
      rw [both_all, fold_all, fold_all, List.map_append, List.map_cons (a := all ps), fold_all]
      exact .both (ps.map (fold (testAlgebra f))) (q.fold (testAlgebra f))
  | either ps q =>
      rw [either_any, fold_any, fold_any, List.map_append, List.map_cons (a := any ps), fold_any]
      exact .either (ps.map (fold (testAlgebra f))) (q.fold (testAlgebra f))
  | allOne p =>
      rw [fold_all]
      exact .allOne (q.fold (testAlgebra f))
  | anyOne p =>
      rw [fold_any]
      exact .anyOne (q.fold (testAlgebra f))

/-- Flattened patterns make the same calls. -/
theorem Flattened.calls_eq (h : Flattened p q) (hv : v.Built) (s : σ) :
    p.calls policy v s = q.calls policy v s := by
  have hrecorded : p.recorded.extract policy v (s, []) = q.recorded.extract policy v (s, []) :=
    (h.mapTests Predicate.recorded).extract_eq hv (s, [])
  unfold calls
  rw [hrecorded]

end Flattening

section Inlining

/-- A conjunction with one of its members, itself a conjunction, replaced by the
    members of that. -/
inductive Inlining : Pattern σ → Pattern σ → Prop
  | refl (p : Pattern σ) : Inlining p p
  | inline (xs ys zs : List (Pattern σ)) :
      Inlining (all (xs ++ [all ys] ++ zs)) (all (xs ++ ys ++ zs))

/-- Nested conjunctions are replaced by their members anywhere in a pattern. -/
abbrev Inlined : Pattern σ → Pattern σ → Prop := Variant Inlining Eq Eq

/-- An inlined conjunction comes to the same as a nested one, with the same
    bindings, if no error of a test ends either match. -/
theorem extract_inlined (xs ys zs : List (Pattern σ)) (hv : v.Built) {s : σ}
    (hnested : (all (xs ++ [all ys] ++ zs)).Untroubled policy v s)
    (hflat : (all (xs ++ ys ++ zs)).Untroubled policy v s) :
    ((all (xs ++ [all ys] ++ zs)).extract policy v s).1 =
      ((all (xs ++ ys ++ zs)).extract policy v s).1 := by
  rw [hnested.extract_eq, hflat.extract_eq]
  exact extract_fail_congr hv hv fun _ _ => accepts_inlined_iff xs ys zs

variable {I : σ → Prop}

/-- The same values and bindings, and states in a class, where no match fails. -/
abbrev steadily (I : σ → Prop) : Comparison σ σ :=
  .sound (fun verdict => ∃ accepted, verdict = .ok accepted) fun s t => I s ∧ I t

theorem follows_steady (hsteady : ∀ t ∈ p.predicates, t.SteadyOn I)
    (herror : p.Unfailing policy I) :
    Matcher.Follows (steadily I) (p.matcher policy) (p.matcher policy) :=
  follows_self (fun accepted => ⟨accepted, rfl⟩) p fun t ht =>
    follows_predicate_of_steady (hsteady t ht) (herror.imp id fun hnever => hnever t ht)
      (fun h => h.1) (fun h => h) (fun accepted => ⟨accepted, rfl⟩) Iff.rfl

theorem predicates_inlined (xs ys zs : List (Pattern σ)) :
    (all (xs ++ [all ys] ++ zs)).predicates = (all (xs ++ ys ++ zs)).predicates := by
  unfold predicates
  rw [collect_all, collect_all]
  simp only [List.map_append, List.map_singleton, List.flatten_append, collect_all,
    List.flatten_singleton]

-- Both accept from the same state, or both refuse. In another state of the class
-- the flat one comes to the same verdict again.
theorem Inlining.follows (h : Inlining p q) (hsteady : ∀ t ∈ p.predicates, t.SteadyOn I)
    (herror : p.Unfailing policy I) :
    Matcher.Follows (steadily I) (p.matcher policy).isolated (q.matcher policy).isolated := by
  cases h with
  | refl p =>
      exact Matcher.follows_isolated (Comparison.lawful_sound fun accepted => ⟨accepted, rfl⟩)
        (follows_steady hsteady herror)
  | inline xs ys zs =>
      have hnested := follows_steady hsteady herror
      unfold Unfailing at herror
      rw [predicates_inlined] at hsteady herror
      have hflat := follows_steady hsteady herror
      intro v w hvw
      refine ⟨fun {b c s t} hbc hst => ?_, fun _ _ _ => ⟨trivial, fun _ _ hnever => hnever.elim⟩⟩
      have hleft := (hnested hvw).along hbc ⟨hst.1, hst.1⟩
      have hright := (hflat hvw).along hbc hst
      rcases hvw with ⟨rfl, hv⟩
      rcases hbc with ⟨rfl, hb⟩
      have haccepts : ∀ b' s', (all (xs ++ [all ys] ++ zs)).matcher policy v b s =
          ⟨.ok true, b', s'⟩ ↔ (all (xs ++ ys ++ zs)).matcher policy v b s = ⟨.ok true, b', s'⟩ := by
        intro b' s'
        rw [adequate _ hv hb, adequate _ hv hb]
        simp only [accepts_inlined_iff]
      change Attempt.Follows _ (((all (xs ++ [all ys] ++ zs)).matcher policy v b s).restored b)
        (((all (xs ++ ys ++ zs)).matcher policy v b t).restored b)
      generalize (all (xs ++ [all ys] ++ zs)).matcher policy v b s = a at hleft haccepts
      generalize (all (xs ++ ys ++ zs)).matcher policy v b s = a',
        (all (xs ++ ys ++ zs)).matcher policy v b t = a'' at hright haccepts
      cases hleft with
      | ended hnever => exact hnever.elim
      | alike hverdict _ hs =>
          rcases hverdict with ⟨accepted, rfl⟩
          cases hright with
          | ended hnever => exact hnever.elim
          | alike hverdict' hbc' hst' =>
              rcases hverdict' with ⟨accepted', rfl⟩
              cases accepted with
              | true =>
                  rcases (haccepts _ _).mp rfl with ⟨rfl, rfl, rfl⟩
                  exact .alike ⟨true, rfl⟩ hbc' hst'
              | false =>
                  cases accepted' with
                  | true => exact nomatch (haccepts _ _).mpr rfl
                  | false => exact .alike ⟨false, rfl⟩ ⟨rfl, hb⟩ ⟨hs.1, hst'.2⟩

/-- Inlined patterns go together, if the answers of the tests do not change with
    the states that they lead to. -/
theorem Inlined.extract_eq (h : Inlined p q) (hsteady : ∀ t ∈ p.predicates, t.SteadyOn I)
    (herror : p.Unfailing policy I) (hv : v.Built) {s s' : σ} (hs : I s) (hs' : I s') :
    (p.extract policy v s).1 = (q.extract policy v s').1 := by
  have hlawful : (steadily I).Lawful := Comparison.lawful_sound fun accepted => ⟨accepted, rfl⟩
  have hfollows : Matcher.Follows (steadily I) (p.matcher policy).isolated
      (q.matcher policy).isolated := by
    refine Variant.related (A := fun t => t.SteadyOn I ∧
        (policy = .fail ∨ ∀ v s, I s → ∀ e, (t.test v s).1 ≠ .error e))
      (Matcher.related_isolated hlawful (fun h => h.1)
        (fun h _ => h.1 ▸ Value.optionRel_same fun _ hu => h.2.found hu)
        (Matcher.predicate policy) (Matcher.predicate policy)) ?_ h
      fun t ht => ⟨hsteady t ht, herror.imp id fun hnever => hnever t ht⟩
    intro p q hleaf hA
    refine hleaf.follows (fun t ht => (hA t ht).1) ?_
    by_cases hpolicy : policy = .fail
    · exact .inl hpolicy
    · exact .inr fun t ht => (hA t ht).2.resolve_left hpolicy
  exact (extract_of_follows hfollows hv ⟨hs, hs'⟩).1

end Inlining

/-- Flattening does not change the meaning. Where a conjunction or disjunction
    comes first in another one, it can be replaced by its members anywhere in a
    pattern, and a single member by itself: the outcome, the bindings, the states
    of the tests and their calls are the same. Where a nested conjunction stands
    behind other members, the outcome and the bindings are the same if no error
    of a test ends a match, and also inside a larger pattern if the answers of
    the tests do not change with the states that they lead to. -/
theorem extract_flattened (policy : ErrorPolicy) {v : Value} (hv : v.Built) :
    (∀ (p q : Pattern σ) (s : σ), Flattened p q →
      p.extract policy v s = q.extract policy v s ∧
        p.calls policy v s = q.calls policy v s) ∧
    (∀ (xs ys zs : List (Pattern σ)) (s : σ),
      (all (xs ++ [all ys] ++ zs)).Untroubled policy v s →
      (all (xs ++ ys ++ zs)).Untroubled policy v s →
      ((all (xs ++ [all ys] ++ zs)).extract policy v s).1 =
        ((all (xs ++ ys ++ zs)).extract policy v s).1) ∧
    (∀ (p q : Pattern σ) (s : σ) (I : σ → Prop), Inlined p q →
      (∀ t ∈ p.predicates, t.SteadyOn I) → p.Unfailing policy I → I s →
      (p.extract policy v s).1 = (q.extract policy v s).1) :=
  ⟨fun _ _ s h => ⟨h.extract_eq hv s, h.calls_eq hv s⟩,
    fun xs ys zs _ hnested hflat => extract_inlined xs ys zs hv hnested hflat,
    fun _ _ _ _ h hsteady herror hs => h.extract_eq hsteady herror hv hs hs⟩

-- A test that counts its calls, between two captures of one slot.
theorem extract_flattened_of_count :
    ((any [typeMatch .str, (all [capture ⟨⟨1⟩, "x"⟩,
        predicate ⟨"count", fun _ n => (.ok true, n + 1)⟩]).both (capture ⟨⟨1⟩, "x"⟩)]).extract
          .propagate (.int 7) 0 =
      (any [typeMatch .str, all [all [capture ⟨⟨1⟩, "x"⟩,
        predicate ⟨"count", fun _ n => (.ok true, n + 1)⟩], capture ⟨⟨1⟩, "x"⟩]]).extract
          .propagate (.int 7) 0) ∧
    ((all ([capture ⟨⟨1⟩, "x"⟩] ++ [all [predicate ⟨"count", fun _ n => (.ok true, n + 1)⟩,
        capture ⟨⟨1⟩, "x"⟩]] ++ [capture ⟨⟨2⟩, "x"⟩])).extract .propagate (.int 7) 0).1 =
      .ok (.matched ⟨⟨[(⟨⟨1⟩, "x"⟩, .int 7), (⟨⟨2⟩, "x"⟩, .int 7)]⟩⟩) ∧
    ((any [all ([capture ⟨⟨1⟩, "x"⟩] ++ [all [predicate ⟨"count", fun _ n => (.ok true, n + 1)⟩,
        capture ⟨⟨1⟩, "x"⟩]] ++ [])]).extract .fail (.int 7) 0).1 =
      .ok (.matched ⟨⟨[(⟨⟨1⟩, "x"⟩, .int 7)]⟩⟩) := by
  have hcounted : ∀ p : Pattern Nat, p.predicates = [⟨"count", fun _ n => (.ok true, n + 1)⟩] →
      ∀ t ∈ p.predicates, t.SteadyOn fun _ => True := by
    intro p hp t ht
    rw [hp, List.mem_singleton] at ht
    exact ht ▸ ⟨fun _ _ _ => trivial, fun _ _ _ _ _ => rfl⟩
  have hpropagate := @extract_flattened Nat .propagate (.int 7) (.int 7)
  have hfail := @extract_flattened Nat .fail (.int 7) (.int 7)
  exact ⟨(hpropagate.1 _ _ 0 (.any (.cons (.leaf (.refl _)) (.cons (.leaf (.both _ _)) .nil)))).1,
    (hpropagate.2.1 _ _ _ 0 (.inr (List.forall_mem_singleton.mpr ⟨true, rfl⟩))
      (.inr (List.forall_mem_singleton.mpr ⟨true, rfl⟩))).trans rfl,
    (hfail.2.2 _ _ 0 _ (.any (.cons (.leaf (.inline _ _ _)) .nil)) (hcounted _ rfl) (.inl rfl)
      trivial).trans rfl⟩

end Pattern

end ShapeMatch
