import ShapeMatch.Proofs.Extraction
import ShapeMatch.Proofs.Folds

/-!
# Invariance under Matching

What holds throughout a match, however it ends.

A match touches the bindings only by binding slots, and the state only by
running tests. So a property of bindings that every binding of a slot preserves
holds at the end if it held at the start, and the states before and after are
related by any preorder that relates them for every test. Unlike the
derivations of acceptance, this also describes matches that refuse or fail,
and the bindings that they leave behind.

How the states are related may also depend on the tests that there are. Then
there is a relation for each list. A match comes to the tests of a pattern from
left to right, and may leave some of them out, so the states are related for the
list of all of them if each test relates them for itself, if relations one after
another are one for both lists, and if nothing has to happen for a list.

## Main definitions

* `Step.Keeps`: A step preserves a property of bindings and relates the states.
* `BindInvariant`: Binding a slot preserves the property.
* `Graded`: A relation between states for each list.

## Theorems

* `keeps_inTurn`, `keeps_mergeFrom`, `keeps_anyOf`: Combined steps keep what their
  parts keep.
* `related_keeps`: So do matchers of all kinds.
* `keeps_fold`, `keeps_matcher`: Matching keeps what binding and the tests keep.
* `distinct_of_extract`: Extraction binds no slot twice.
-/

namespace ShapeMatch

variable {σ : Type} {P : Bindings → Prop} {R : σ → σ → Prop}

/-- A relation between states for each list of what may happen from one to the
    other, in this order. None of it has to. -/
structure Graded {α : Type} (S : List α → σ → σ → Prop) : Prop where
  refl : ∀ list s, S list s s
  append : ∀ {first rest s t u}, S first s t → S rest t u → S (first ++ rest) s u

theorem Graded.skip {α : Type} {S : List α → σ → σ → Prop} (hS : Graded S) {first : List α}
    {s t : σ} (h : S first s t) (rest : List α) : S (first ++ rest) s t :=
  hS.append h (hS.refl rest t)

theorem graded_of_preorder {α : Type} (hrefl : ∀ s, R s s)
    (htrans : ∀ {s t u}, R s t → R t u → R s u) : Graded fun _ : List α => R :=
  ⟨fun _ => hrefl, htrans⟩

/-- Binding a slot preserves the property. -/
def BindInvariant (P : Bindings → Prop) : Prop :=
  ∀ {b b' : Bindings} {slot : Slot} {v : Value}, P b → b.bind? slot v = some b' → P b'

theorem BindInvariant.absorb (hP : BindInvariant P) {merged merged' other : Bindings}
    (hmerged : P merged) (h : merged.absorb? other = some merged') : P merged' := by
  unfold Bindings.absorb? at h
  generalize other.entries = entries at h
  induction entries generalizing merged with
  | nil =>
      rw [List.foldlM_nil] at h
      exact Option.some.inj h ▸ hmerged
  | cons entry rest ih =>
      rw [List.foldlM_cons, Option.bind_eq_bind, Option.bind_eq_some_iff] at h
      rcases h with ⟨b, hb, hrest⟩
      exact ih (hP hmerged hb) hrest

namespace Step

/-- A step preserves a property of bindings and relates the states before and
    after. -/
def Keeps (P : Bindings → Prop) (R : σ → σ → Prop) (step : Step σ) : Prop :=
  ∀ b s, P b → P (step b s).bindings ∧ R s (step b s).state

theorem keeps_answer (hrefl : ∀ s, R s s) (accepted : Bool) : Keeps P R (answer accepted) :=
  fun _ s hb => ⟨hb, hrefl s⟩

theorem keeps_record (hP : BindInvariant P) (hrefl : ∀ s, R s s) (slot : Slot) (v : Value) :
    Keeps P R (record slot v) := by
  intro b s hb
  unfold record
  cases h : b.bind? slot v with
  | none => exact ⟨hb, hrefl s⟩
  | some bound => exact ⟨hP hb h, hrefl s⟩

section Combined

variable {α : Type} {S : List α → σ → σ → Prop} (hS : Graded S) {steps : List (Step σ)}
  {lists : List (List α)}

include hS

theorem keeps_inTurn (h : List.Forall₂ (fun step list => Keeps P (S list) step) steps lists) :
    Keeps P (S lists.flatten) (inTurn steps) := by
  induction h with
  | nil => exact keeps_answer (hS.refl []) true
  | @cons step list steps lists hstep _ ih =>
      intro b s hb
      have hstep := hstep b s hb
      rw [inTurn_cons]
      unfold Attempt.andThen
      split
      · have hrest := ih _ (step b s).state hstep.1
        exact ⟨hrest.1, hS.append hstep.2 hrest.2⟩
      · exact ⟨hstep.1, hS.skip hstep.2 lists.flatten⟩

theorem keeps_mergeFrom (hP : BindInvariant P) {parent : Bindings} (hparent : P parent)
    (h : List.Forall₂ (fun step list => Keeps P (S list) step) steps lists) :
    Keeps P (S lists.flatten) (mergeFrom parent steps) := by
  induction h with
  | nil => exact fun merged s hmerged => ⟨hmerged, hS.refl [] s⟩
  | @cons step list steps lists hstep _ ih =>
      intro merged s hmerged
      -- A member starts from `parent`. Only the merge touches `merged`.
      have hstep := hstep parent s hparent
      unfold mergeFrom
      simp only
      split
      · split
        · rename_i merged' habsorb
          have hrest := ih merged' (step parent s).state (hP.absorb hmerged habsorb)
          exact ⟨hrest.1, hS.append hstep.2 hrest.2⟩
        · exact ⟨hparent, hS.skip hstep.2 lists.flatten⟩
      · exact ⟨hparent, hS.skip hstep.2 lists.flatten⟩

theorem keeps_anyOf (h : List.Forall₂ (fun step list => Keeps P (S list) step) steps lists) :
    Keeps P (S lists.flatten) (anyOf steps) := by
  induction h with
  | nil => exact keeps_answer (hS.refl []) false
  | @cons step list steps lists hstep _ ih =>
      intro b s hb
      have hstep := hstep b s hb
      unfold anyOf
      simp only
      split
      · exact ⟨hstep.1, hS.skip hstep.2 lists.flatten⟩
      · -- What the refused alternative recorded is dropped, its state is not.
        have hrest := ih b (step b s).state hb
        exact ⟨hrest.1, hS.append hstep.2 hrest.2⟩
      · exact ⟨hb, hS.skip hstep.2 lists.flatten⟩

end Combined

end Step

namespace Matcher

section Parts

variable {α : Type} {S : List α → σ → σ → Prop}

-- One matcher for each value.
theorem keeps_zipWith {ms : List (Matcher σ)} {lists : List (List α)}
    (h : List.Forall₂ (fun m list => ∀ v, Step.Keeps P (S list) (m v)) ms lists) :
    ∀ {vs : List Value}, vs.length = ms.length →
      List.Forall₂ (fun step list => Step.Keeps P (S list) step)
        (List.zipWith (fun m v => m v) ms vs) lists := by
  induction h with
  | nil => exact fun _ => .nil
  | cons hm _ ih =>
      intro vs hlength
      cases vs with
      | nil => exact nomatch hlength
      | cons v vs => exact .cons (hm v) (ih (Nat.succ.inj hlength))

theorem keeps_onPart (hrefl : ∀ s, R s s) {m : Matcher σ} (h : ∀ v, Step.Keeps P R (m v))
    (part : Option Value) : Step.Keeps P R (m.onPart part) := by
  cases part with
  | none => exact Step.keeps_answer hrefl false
  | some v => exact h v

-- The parts of a map or a record, which have a key or a name.
theorem keeps_parts (hS : Graded S) {ι : Type} {parts : List (ι × Matcher σ)}
    {lists : List (ι × List α)} (h : List.Forall₂ (fun part list => part.1 = list.1 ∧
      ∀ v, Step.Keeps P (S list.2) (part.2 v)) parts lists) (find : ι → Option Value) :
    List.Forall₂ (fun step list => Step.Keeps P (S list) step)
      (parts.map fun part => part.2.onPart (find part.1)) (lists.map Prod.snd) := by
  rw [List.forall₂_map_left_iff, List.forall₂_map_right_iff]
  exact h.imp fun part list hpart => keeps_onPart (hS.refl list.2) hpart.2 _

theorem keeps_members {ms : List (Matcher σ)} {lists : List (List α)}
    (h : List.Forall₂ (fun m list => ∀ v, Step.Keeps P (S list) (m v)) ms lists) (v : Value) :
    List.Forall₂ (fun step list => Step.Keeps P (S list) step) (ms.map fun m => m v) lists := by
  rw [List.forall₂_map_left_iff]
  exact h.imp fun _ _ hm => hm v

/-- Matchers of all kinds keep what their parts keep, for the lists of their parts
    one after another. -/
theorem related_keeps {ρ : Type} (hP : BindInvariant P) (hS : Graded S)
    (test : Predicate ρ → Matcher σ) (list : Predicate ρ → List α) :
    (algebraWith test).Related (fun m list => ∀ v, Step.Keeps P (S list) (m v))
      (Pattern.collectAlgebra list fun _ => []) where
  literal := fun _ _ => Step.keeps_answer (hS.refl []) _
  typeMatch := fun _ _ => Step.keeps_answer (hS.refl []) _
  exactType := fun _ _ => Step.keeps_answer (hS.refl []) _
  seq := by
    intro kind ms lists h v
    change Step.Keeps P (S lists.flatten) (seq kind ms v)
    unfold seq
    split
    · split
      · rename_i hfits
        exact Step.keeps_inTurn hS (keeps_zipWith h hfits.2)
      · exact Step.keeps_answer (hS.refl _) false
    · exact Step.keeps_answer (hS.refl _) false
  cons := by
    intro head tail first rest hhead htail v
    have hflatten : first ++ rest = [first, rest].flatten := by simp
    change Step.Keeps P (S (first ++ rest)) (cons head tail v)
    unfold cons
    split
    · rw [hflatten]
      exact Step.keeps_inTurn hS (.cons (hhead _) (.cons (htail _) .nil))
    · exact Step.keeps_answer (hS.refl _) false
  mapping := by
    intro entries lists h v
    change Step.Keeps P (S (lists.map Prod.snd).flatten) (mapping entries v)
    unfold mapping
    split
    · exact Step.keeps_inTurn hS (keeps_parts hS h v.lookup?)
    · exact Step.keeps_answer (hS.refl _) false
  object := by
    intro expected fields lists h v
    change Step.Keeps P (S (lists.map Prod.snd).flatten) (object expected fields v)
    unfold object
    split
    · exact Step.keeps_inTurn hS (keeps_parts hS h v.field?)
    · exact Step.keeps_answer (hS.refl _) false
  all := fun h v b s hb => Step.keeps_mergeFrom hS hP hb (keeps_members h v) b s hb
  any := fun h v => Step.keeps_anyOf hS (keeps_members h v)
  capture := fun slot v => Step.keeps_record hP (hS.refl []) slot v

end Parts

theorem keeps_predicate {policy : ErrorPolicy} (t : Predicate σ) (v : Value)
    (h : ∀ s, R s (t.test v s).2) : Step.Keeps P R (predicate policy t v) := by
  intro b s hb
  have htest := h s
  unfold predicate
  generalize t.test v s = result at htest ⊢
  rcases result with ⟨_ | accepted, s'⟩
  · cases policy with
    | propagate => exact ⟨hb, htest⟩
    | fail => exact ⟨hb, htest⟩
  · exact ⟨hb, htest⟩

end Matcher

namespace Pattern

/-- Matching keeps what binding a slot and running a test keep, for the list of
    what is found at the tests of the pattern. -/
theorem keeps_fold {ρ α : Type} {S : List α → σ → σ → Prop} (hP : BindInvariant P)
    (hS : Graded S) {test : Predicate ρ → Matcher σ} (list : Predicate ρ → List α) (p : Pattern ρ)
    (h : ∀ t ∈ p.predicates, ∀ v, Step.Keeps P (S (list t)) (test t v)) (v : Value) :
    Step.Keeps P (S (p.collect list fun _ => [])) (p.fold (Matcher.algebraWith test) v) :=
  fold_related (Matcher.related_keeps hP hS test list) p h v

theorem keeps_matcher {policy : ErrorPolicy} (hP : BindInvariant P) (hrefl : ∀ s, R s s)
    (htrans : ∀ {s t u}, R s t → R t u → R s u) (p : Pattern σ)
    (h : ∀ q ∈ p.predicates, ∀ v s, R s (q.test v s).2) (v : Value) :
    Step.Keeps P R (p.matcher policy v) :=
  keeps_fold hP (graded_of_preorder hrefl htrans) (fun _ => ([] : List Unit)) p
    (fun q hq v => Matcher.keeps_predicate q v (h q hq v)) v

end Pattern

theorem bindInvariant_distinct : BindInvariant fun b => b.slots.Distinct := by
  intro b b' slot v hb hbind
  unfold Bindings.bind? at hbind
  split at hbind
  · split at hbind
    · exact Option.some.inj hbind ▸ hb
    · exact nomatch hbind
  · rw [← Option.some.inj hbind]
    exact Dictionary.distinct_insert b.slots slot v hb

/-- Extraction binds no slot twice. -/
theorem Pattern.distinct_of_extract {policy : ErrorPolicy} {p : Pattern σ} {v : Value} {s : σ}
    {B : Bindings} (h : (p.extract policy v s).1 = .ok (.matched B)) : B.slots.Distinct := by
  have hkeeps : Step.Keeps (fun b => b.slots.Distinct) (fun _ _ => True) (p.matcher policy v) :=
    keeps_matcher bindInvariant_distinct (fun _ => trivial) (fun _ _ => trivial) p
      (fun _ _ _ _ => trivial) v
  have hmatcher := extract_eq_matcher.mp (Prod.ext h rfl : p.extract policy v s = (_, _))
  have hdistinct := (hkeeps .empty s Dictionary.distinct_empty).1
  rw [hmatcher] at hdistinct
  exact hdistinct

end ShapeMatch
