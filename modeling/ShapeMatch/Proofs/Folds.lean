import Mathlib.Data.List.Forall2
import ShapeMatch.Matching
import ShapeMatch.Proofs.Leaves

/-!
# Folds of Patterns

Two functions on patterns that are given kind by kind.

Whatever is done with a pattern here is done by folding it: it is matched, its
leaves are collected, its tests are exchanged. If two such functions keep a
relation between their results at each kind of pattern, it holds for all
patterns whose tests they relate. This is the one induction on patterns that
most of what follows rests on. What is left to show there is about one kind of
pattern at a time, and about lists of results.

Exchanging the leaves of a pattern is a fold itself, and folding what comes out
is folding the original with other leaves.

## Main definitions

* `Pattern.Algebra.Related`: Two functions keep a relation at each kind.
* `Pattern.mapTests`: Exchange the tests of a pattern.
* `Matcher.algebraWith`: The meaning of patterns, where the tests may have any
  meaning.

## Theorems

* `Pattern.induction`: Induction on patterns and all their parts.
* `fold_related`: What is kept at each kind holds for patterns.
* `fold_mapTests`, `mapTests_mapTests`: Exchanging the tests and going on is one
  step.
* `matcher_mapTests`: A match of a pattern with exchanged tests.
-/

namespace ShapeMatch

namespace Pattern

variable {σ τ β γ : Type}

/-- Induction on patterns, with the hypothesis for each part of a list. -/
theorem induction {motive : Pattern σ → Prop} (literal : ∀ v, motive (literal v))
    (typeMatch : ∀ tag, motive (typeMatch tag)) (exactType : ∀ tag, motive (exactType tag))
    (seq : ∀ kind items, (∀ p ∈ items, motive p) → motive (seq kind items))
    (cons : ∀ head tail, motive head → motive tail → motive (cons head tail))
    (mapping : ∀ entries, (∀ entry ∈ entries, motive entry.2) → motive (mapping entries))
    (object : ∀ expected fields, (∀ field ∈ fields, motive field.2) →
      motive (object expected fields))
    (all : ∀ members, (∀ p ∈ members, motive p) → motive (all members))
    (any : ∀ alternatives, (∀ p ∈ alternatives, motive p) → motive (any alternatives))
    (predicate : ∀ p, motive (predicate p)) (capture : ∀ slot, motive (capture slot))
    (p : Pattern σ) : motive p :=
  -- One motive for each type that the recursion passes through.
  @Pattern.rec σ motive (fun ps => ∀ p ∈ ps, motive p)
    (fun entries => ∀ entry ∈ entries, motive entry.2)
    (fun fields => ∀ field ∈ fields, motive field.2) (fun entry => motive entry.2)
    (fun field => motive field.2) literal typeMatch exactType seq cons mapping object all any
    predicate capture (fun _ h => absurd h List.not_mem_nil)
    (fun _ _ hp hrest => List.forall_mem_cons.mpr ⟨hp, hrest⟩)
    (fun _ h => absurd h List.not_mem_nil)
    (fun _ _ hentry hrest => List.forall_mem_cons.mpr ⟨hentry, hrest⟩)
    (fun _ h => absurd h List.not_mem_nil)
    (fun _ _ hfield hrest => List.forall_mem_cons.mpr ⟨hfield, hrest⟩)
    (fun _ _ h => h) (fun _ _ h => h) p

/-- Two functions on patterns, given kind by kind, keep a relation between their
    results at each kind but the tests. -/
structure Algebra.Related (S : β → γ → Prop) (alg : Algebra σ β) (alg' : Algebra σ γ) : Prop where
  literal : ∀ v, S (alg.literal v) (alg'.literal v)
  typeMatch : ∀ tag, S (alg.typeMatch tag) (alg'.typeMatch tag)
  exactType : ∀ tag, S (alg.exactType tag) (alg'.exactType tag)
  seq : ∀ kind {xs ys}, List.Forall₂ S xs ys → S (alg.seq kind xs) (alg'.seq kind ys)
  cons : ∀ {x y x' y'}, S x x' → S y y' → S (alg.cons x y) (alg'.cons x' y')
  mapping : ∀ {xs ys}, List.Forall₂ (fun x y => x.1 = y.1 ∧ S x.2 y.2) xs ys →
    S (alg.mapping xs) (alg'.mapping ys)
  object : ∀ expected {xs ys}, List.Forall₂ (fun x y => x.1 = y.1 ∧ S x.2 y.2) xs ys →
    S (alg.object expected xs) (alg'.object expected ys)
  all : ∀ {xs ys}, List.Forall₂ S xs ys → S (alg.all xs) (alg'.all ys)
  any : ∀ {xs ys}, List.Forall₂ S xs ys → S (alg.any xs) (alg'.any ys)
  capture : ∀ slot, S (alg.capture slot) (alg'.capture slot)

-- The tests of a part are among those of the whole.
theorem mem_predicates_of_part {ps : List (Pattern σ)} {p : Pattern σ} (hp : p ∈ ps)
    {q : Predicate σ} (hq : q ∈ p.predicates) : q ∈ (ps.map predicates).flatten :=
  List.mem_flatten.mpr ⟨p.predicates, List.mem_map_of_mem hp, hq⟩

section Fold

variable {S : β → γ → Prop} {alg : Algebra σ β} {alg' : Algebra σ γ}

theorem forall₂_fold {ps : List (Pattern σ)}
    (h : ∀ p ∈ ps, (∀ t ∈ p.predicates, S (alg.predicate t) (alg'.predicate t)) →
      S (p.fold alg) (p.fold alg'))
    (htests : ∀ t ∈ (ps.map predicates).flatten, S (alg.predicate t) (alg'.predicate t)) :
    List.Forall₂ S (ps.map (fold alg)) (ps.map (fold alg')) := by
  rw [List.forall₂_map_left_iff, List.forall₂_map_right_iff, List.forall₂_same]
  exact fun p hp => h p hp fun t ht => htests t (mem_predicates_of_part hp ht)

-- The same for parts that have a key or a name.
theorem forall₂_fold_named {ι : Type} {parts : List (ι × Pattern σ)}
    (h : ∀ part ∈ parts, (∀ t ∈ part.2.predicates, S (alg.predicate t) (alg'.predicate t)) →
      S (part.2.fold alg) (part.2.fold alg'))
    (htests : ∀ t ∈ (parts.map fun part => part.2.predicates).flatten,
      S (alg.predicate t) (alg'.predicate t)) :
    List.Forall₂ (fun x y => x.1 = y.1 ∧ S x.2 y.2)
      (parts.map fun part => (part.1, part.2.fold alg))
      (parts.map fun part => (part.1, part.2.fold alg')) := by
  rw [List.forall₂_map_left_iff, List.forall₂_map_right_iff, List.forall₂_same]
  refine fun part hpart => ⟨rfl, h part hpart fun t ht => htests t ?_⟩
  exact List.mem_flatten.mpr ⟨_, List.mem_map_of_mem hpart, ht⟩

/-- What two functions keep at each kind of pattern holds for all patterns whose
    tests they relate. -/
theorem fold_related (hrelated : alg.Related S alg') (p : Pattern σ) :
    (∀ t ∈ p.predicates, S (alg.predicate t) (alg'.predicate t)) →
      S (p.fold alg) (p.fold alg') := by
  induction p using Pattern.induction with
  | literal v => exact fun _ => hrelated.literal v
  | typeMatch tag => exact fun _ => hrelated.typeMatch tag
  | exactType tag => exact fun _ => hrelated.exactType tag
  | seq kind items ih =>
      intro htests
      rw [predicates, collect_seq] at htests
      rw [fold_seq, fold_seq]
      exact hrelated.seq kind (forall₂_fold ih htests)
  | cons head tail ihhead ihtail =>
      intro htests
      rw [predicates, collect_cons, List.forall_mem_append] at htests
      rw [fold, fold]
      exact hrelated.cons (ihhead htests.1) (ihtail htests.2)
  | mapping entries ih =>
      intro htests
      rw [predicates, collect_mapping] at htests
      rw [fold_mapping, fold_mapping]
      exact hrelated.mapping (forall₂_fold_named ih htests)
  | object expected fields ih =>
      intro htests
      rw [predicates, collect_object] at htests
      rw [fold_object, fold_object]
      exact hrelated.object expected (forall₂_fold_named ih htests)
  | all members ih =>
      intro htests
      rw [predicates, collect_all] at htests
      rw [fold_all, fold_all]
      exact hrelated.all (forall₂_fold ih htests)
  | any alternatives ih =>
      intro htests
      rw [predicates, collect_any] at htests
      rw [fold_any, fold_any]
      exact hrelated.any (forall₂_fold ih htests)
  | predicate t => exact fun htests => htests t List.mem_cons_self
  | capture slot => exact fun _ => hrelated.capture slot

end Fold

/-- The same function with another result at the tests. -/
def Algebra.withTest (alg : Algebra τ β) (test : Predicate σ → β) : Algebra σ β :=
  { alg with predicate := test }

/-- The same function with another result at the captures. -/
def Algebra.withCapture (alg : Algebra σ β) (capture : Slot → β) : Algebra σ β :=
  { alg with capture := capture }

/-- The patterns themselves, with other tests. -/
def testAlgebra (f : Predicate σ → Predicate τ) : Algebra σ (Pattern τ) where
  literal := literal
  typeMatch := typeMatch
  exactType := exactType
  seq := seq
  cons := cons
  mapping := mapping
  object := object
  all := all
  any := any
  predicate t := predicate (f t)
  capture := capture

/-- Exchange the tests of a pattern. -/
def mapTests (f : Predicate σ → Predicate τ) (p : Pattern σ) : Pattern τ := p.fold (testAlgebra f)

theorem map_fold_of_forall₂ {alg : Algebra τ β} {qs : List (Pattern τ)} {xs : List β}
    (h : List.Forall₂ (fun q x => q.fold alg = x) qs xs) : qs.map (fold alg) = xs := by
  rw [← List.forall₂_eq_eq_eq, List.forall₂_map_left_iff]
  exact h

theorem map_fold_named_of_forall₂ {ι : Type} {alg : Algebra τ β} {parts : List (ι × Pattern τ)}
    {xs : List (ι × β)}
    (h : List.Forall₂ (fun part x => part.1 = x.1 ∧ part.2.fold alg = x.2) parts xs) :
    (parts.map fun part => (part.1, part.2.fold alg)) = xs := by
  rw [← List.forall₂_eq_eq_eq, List.forall₂_map_left_iff]
  exact h.imp fun part x hpart => Prod.ext hpart.1 hpart.2

theorem related_testAlgebra (f : Predicate σ → Predicate τ) (alg : Algebra τ β) :
    (testAlgebra f).Related (fun q x => q.fold alg = x)
      (alg.withTest fun t => alg.predicate (f t)) where
  literal := fun _ => rfl
  typeMatch := fun _ => rfl
  exactType := fun _ => rfl
  seq := fun kind _ _ h => map_fold_of_forall₂ h ▸ fold_seq alg kind _
  cons := fun hhead htail => congrArg₂ alg.cons hhead htail
  mapping := fun h => map_fold_named_of_forall₂ h ▸ fold_mapping alg _
  object := fun expected _ _ h => map_fold_named_of_forall₂ h ▸ fold_object alg expected _
  all := fun h => map_fold_of_forall₂ h ▸ fold_all alg _
  any := fun h => map_fold_of_forall₂ h ▸ fold_any alg _
  capture := fun _ => rfl

/-- Exchanging the tests and folding are one fold. -/
theorem fold_mapTests (f : Predicate σ → Predicate τ) (alg : Algebra τ β) (p : Pattern σ) :
    (p.mapTests f).fold alg = p.fold (alg.withTest fun t => alg.predicate (f t)) :=
  fold_related (related_testAlgebra f alg) p fun _ _ => rfl

theorem mapTests_mapTests {ρ : Type} (f : Predicate ρ → Predicate σ) (g : Predicate σ → Predicate τ)
    (p : Pattern ρ) : (p.mapTests f).mapTests g = p.mapTests fun t => g (f t) :=
  fold_mapTests f (testAlgebra g) p

end Pattern

variable {ρ σ : Type}

/-- The meaning of patterns, where the tests may have any meaning. -/
def Matcher.algebraWith (test : Predicate ρ → Matcher σ) : Pattern.Algebra ρ (Matcher σ) :=
  (algebra default).withTest test

/-- A match of a pattern with exchanged tests is a match with other tests. -/
theorem Pattern.matcher_mapTests (policy : ErrorPolicy) (f : Predicate ρ → Predicate σ)
    (p : Pattern ρ) : (p.mapTests f).matcher policy =
      p.fold (Matcher.algebraWith fun t => Matcher.predicate policy (f t)) :=
  fold_mapTests f (Matcher.algebra policy) p

end ShapeMatch
