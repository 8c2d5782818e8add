import ShapeMatch.Proofs.Agreement
import ShapeMatch.Proofs.Invariance

/-!
# Variants of Patterns

Patterns that may stand for one another.

Two patterns are variants if they are built in the same way from leaves that
correspond, with corresponding keys in the maps and with the members of each
conjunction in a permitted order. What corresponds, and which orders are
permitted, is left open. If corresponding leaves agree, so do variants, by
induction on how they are built; each kind of pattern is one of the matchers
for which agreement has been shown.

A first use are patterns whose literals and keys are exchanged for equal ones.
They match equal values alike, with equal values recorded. Only a test of the
type could tell `1` from `1.0`, and only a predicate the order in which a map
was filled, so neither tests for `int` or `float` nor predicates occur in them.

## Main definitions

* `Pattern.Variant`: Patterns built in the same way from corresponding leaves.
* `Pattern.Respelled`: Literals and keys are exchanged for equal ones.

## Theorems

* `variant_induction`: Induction on two patterns at a time.
* `Variant.agrees`: Variants agree if their leaves do.
* `extract_respelled`: Equal values match alike, by whatever spelling.
-/

namespace ShapeMatch

/-- Nothing but the test for a type of numbers tells those types apart. -/
theorem TypeTag.isSubtypeOf_of_number {t tag : TypeTag} (ht : t = .int ∨ t = .float)
    (hint : tag ≠ .int) (hfloat : tag ≠ .float) : t.isSubtypeOf tag = decide (tag = .object) := by
  rw [Bool.eq_iff_iff, isSubtypeOf_iff, decide_eq_true_iff]
  rcases ht with rfl | rfl
  · rw [lineage_eq]
    simp [parent?, lineage_eq, hint]
  · rw [lineage_eq]
    simp [parent?, lineage_eq, hfloat]

namespace Pattern

variable {σ : Type}

/-- Patterns built in the same way: from leaves related by `leaf`, with keys
    related by `key`, and with the members of conjunctions put in an order that
    `order` permits. -/
inductive Variant (leaf : Pattern σ → Pattern σ → Prop) (key : Value → Value → Prop)
    (order : List (Pattern σ) → List (Pattern σ) → Prop) : Pattern σ → Pattern σ → Prop
  | leaf {p q : Pattern σ} (h : leaf p q) : Variant leaf key order p q
  | seq (kind : SeqKind) {ps qs : List (Pattern σ)}
      (hparts : List.Forall₂ (Variant leaf key order) ps qs) :
      Variant leaf key order (seq kind ps) (seq kind qs)
  | cons {p p' q q' : Pattern σ} (hhead : Variant leaf key order p p')
      (htail : Variant leaf key order q q') : Variant leaf key order (cons p q) (cons p' q')
  | mapping {entries entries' : List (Value × Pattern σ)}
      (hkeys : List.Forall₂ key (entries.map Prod.fst) (entries'.map Prod.fst))
      (hparts : List.Forall₂ (Variant leaf key order) (entries.map Prod.snd)
        (entries'.map Prod.snd)) :
      Variant leaf key order (mapping entries) (mapping entries')
  | object (expected : Option TypeTag) {fields fields' : List (String × Pattern σ)}
      (hnames : fields.map Prod.fst = fields'.map Prod.fst)
      (hparts : List.Forall₂ (Variant leaf key order) (fields.map Prod.snd)
        (fields'.map Prod.snd)) :
      Variant leaf key order (object expected fields) (object expected fields')
  | all {ps qs rs : List (Pattern σ)} (hparts : List.Forall₂ (Variant leaf key order) ps qs)
      (horder : order qs rs) : Variant leaf key order (all ps) (all rs)
  | any {ps qs : List (Pattern σ)} (hparts : List.Forall₂ (Variant leaf key order) ps qs) :
      Variant leaf key order (any ps) (any qs)
  | capture (slot : Slot) : Variant leaf key order (capture slot) (capture slot)

section Variant

variable {leaf : Pattern σ → Pattern σ → Prop} {key : Value → Value → Prop}
  {order : List (Pattern σ) → List (Pattern σ) → Prop}

/-- Induction on two patterns at a time, with the hypothesis for each pair of
    parts. -/
theorem variant_induction {motive : Pattern σ → Pattern σ → Prop}
    (ofLeaf : ∀ {p q}, leaf p q → motive p q)
    (seq : ∀ kind {ps qs}, List.Forall₂ motive ps qs → motive (seq kind ps) (seq kind qs))
    (cons : ∀ {p p' q q'}, motive p p' → motive q q' → motive (cons p q) (cons p' q'))
    (mapping : ∀ {entries entries' : List (Value × Pattern σ)},
      List.Forall₂ key (entries.map Prod.fst) (entries'.map Prod.fst) →
      List.Forall₂ motive (entries.map Prod.snd) (entries'.map Prod.snd) →
      motive (mapping entries) (mapping entries'))
    (object : ∀ expected {fields fields' : List (String × Pattern σ)},
      fields.map Prod.fst = fields'.map Prod.fst →
      List.Forall₂ motive (fields.map Prod.snd) (fields'.map Prod.snd) →
      motive (object expected fields) (object expected fields'))
    (all : ∀ {ps qs rs}, List.Forall₂ motive ps qs → order qs rs → motive (all ps) (all rs))
    (any : ∀ {ps qs}, List.Forall₂ motive ps qs → motive (any ps) (any qs))
    (capture : ∀ slot, motive (capture slot) (capture slot)) {p q : Pattern σ}
    (h : Variant leaf key order p q) : motive p q :=
  -- One motive for pairs of patterns and one for pairs of lists of them.
  @Variant.rec σ leaf key order (fun p q _ => motive p q) (fun ps qs _ => List.Forall₂ motive ps qs)
    ofLeaf (fun kind _ _ _ ih => seq kind ih) (fun _ _ ihhead ihtail => cons ihhead ihtail)
    (fun hkeys _ ih => mapping hkeys ih) (fun expected _ _ hnames _ ih => object expected hnames ih)
    (fun _ horder ih => all ih horder) (fun _ ih => any ih) capture .nil
    (fun _ _ ih ihrest => .cons ih ihrest) p q h

-- What is asked of the tests of a pattern is asked of those of its parts.
theorem forall₂_of_predicates {A : Predicate σ → Prop} {S : Pattern σ → Pattern σ → Prop}
    {ps qs : List (Pattern σ)}
    (h : List.Forall₂ (fun p q => (∀ t ∈ p.predicates, A t) → S p q) ps qs)
    (hA : ∀ t ∈ (ps.map predicates).flatten, A t) : List.Forall₂ S ps qs := by
  have hparts : ∀ p ∈ ps, ∀ t ∈ p.predicates, A t :=
    fun p hp t ht => hA t (mem_predicates_of_part hp ht)
  exact ((List.forall₂_and_left ps qs).mpr ⟨hparts, h⟩).imp fun p q hpq => hpq.2 hpq.1

variable {policy : ErrorPolicy} {Q : Value → Value → Prop} {I : σ → Prop} {A : Predicate σ → Prop}

theorem agrees_parts {ps qs : List (Pattern σ)}
    (h : List.Forall₂ (fun p q => (∀ t ∈ p.predicates, A t) →
      Matcher.Agrees Q I (p.matcher policy) (q.matcher policy)) ps qs)
    (hA : ∀ t ∈ (ps.map predicates).flatten, A t) :
    List.Forall₂ (Matcher.Agrees Q I) (ps.map (matcher policy)) (qs.map (matcher policy)) := by
  rw [List.forall₂_map_left_iff, List.forall₂_map_right_iff]
  exact forall₂_of_predicates h hA

/-- Variants agree if their leaves do, under what is asked of the tests. -/
theorem Variant.agrees (hQ : Value.Likeness Q)
    (hleaf : ∀ {p q}, leaf p q → (∀ t ∈ p.predicates, A t) →
      Matcher.Agrees Q I (p.matcher policy) (q.matcher policy))
    (hkey : ∀ {k k'}, key k k' → ∀ v w, Q v w → Option.Rel Q (v.lookup? k) (w.lookup? k'))
    (horder : ∀ {ps qs}, order ps qs → ps.Perm qs) {p q : Pattern σ}
    (h : Variant leaf key order p q) :
    (∀ t ∈ p.predicates, A t) → Matcher.Agrees Q I (p.matcher policy) (q.matcher policy) := by
  have hlawful := lawful_agreement (I := I) hQ
  have hmerging := hlawful.toMerging
  refine variant_induction
    (motive := fun p q => (∀ t ∈ p.predicates, A t) →
      Matcher.Agrees Q I (p.matcher policy) (q.matcher policy))
    ?leaf ?seq ?cons ?mapping ?object ?all ?any ?capture h
  case leaf => exact hleaf
  case seq =>
    intro kind ps qs ih hA
    rw [predicates, collect_seq] at hA
    rw [matcher_seq, matcher_seq]
    exact Matcher.follows_seq hmerging kind (agrees_parts ih hA)
  case cons =>
    intro p p' q q' ihhead ihtail hA
    rw [predicates, collect_cons, List.forall_mem_append] at hA
    rw [matcher_cons, matcher_cons]
    exact Matcher.follows_cons hmerging (ihhead hA.1) (ihtail hA.2)
  case mapping =>
    intro entries entries' hkeys ih hA
    rw [predicates, collect_mapping, ← Function.comp_def, ← List.map_map] at hA
    rw [matcher_mapping, matcher_mapping]
    refine Matcher.follows_mapping hmerging ?_
    rw [List.forall₂_map_left_iff, List.forall₂_map_right_iff]
    exact (forall₂_of_parts hkeys (forall₂_of_predicates ih hA)).imp
      fun x y hxy => ⟨hkey hxy.1, hxy.2⟩
  case object =>
    intro expected fields fields' hnames ih hA
    rw [predicates, collect_object, ← Function.comp_def, ← List.map_map] at hA
    rw [← List.forall₂_eq_eq_eq] at hnames
    rw [matcher_object, matcher_object]
    refine Matcher.follows_object hmerging expected ?_
    rw [List.forall₂_map_left_iff, List.forall₂_map_right_iff]
    exact forall₂_of_parts hnames (forall₂_of_predicates ih hA)
  case all =>
    intro ps qs rs ih hperm hA
    rw [predicates, collect_all] at hA
    rw [matcher_all, matcher_all]
    exact Matcher.agrees_all (agrees_parts ih hA) ((horder hperm).map _)
  case any =>
    intro ps qs ih hA
    rw [predicates, collect_any] at hA
    rw [matcher_any, matcher_any]
    exact Matcher.follows_any hmerging (agrees_parts ih hA)
  case capture => exact fun slot _ => Matcher.follows_capture hlawful slot

end Variant

section Respelling

/-- Leaves of which one is a respelling of the other. There are no tests among
    them, and types are not those of numbers. -/
inductive RespelledLeaf : Pattern σ → Pattern σ → Prop
  | literal {v w : Value} (h : Value.Interchangeable v w) : RespelledLeaf (literal v) (literal w)
  | typeMatch {tag : TypeTag} (hint : tag ≠ .int) (hfloat : tag ≠ .float) :
      RespelledLeaf (typeMatch tag) (typeMatch tag)
  | exactType {tag : TypeTag} (hint : tag ≠ .int) (hfloat : tag ≠ .float) :
      RespelledLeaf (exactType tag) (exactType tag)

/-- The literals and the keys of a pattern are exchanged for equal ones, and
    nothing else is changed. -/
abbrev Respelled : Pattern σ → Pattern σ → Prop := Variant RespelledLeaf Value.Interchangeable Eq

variable {policy : ErrorPolicy}

theorem RespelledLeaf.agrees {I : σ → Prop} {p q : Pattern σ} (h : RespelledLeaf p q) :
    Matcher.Agrees Value.Interchangeable I (p.matcher policy) (q.matcher policy) := by
  have hmerging : (Comparison.agreement Value.Interchangeable I).Merging :=
    (lawful_agreement Value.likeness_interchangeable).toMerging
  cases h with
  | @literal expected expected' h =>
      refine Matcher.follows_answer hmerging fun v w hvw =>
        Bool.eq_iff_iff.mpr ⟨fun hv => ?_, fun hw => ?_⟩
      · have hleft : Value.Interchangeable v expected := ⟨hvw.left, h.left, hv⟩
        exact ((hvw.symm.trans hleft).trans h).alike
      · have hright : Value.Interchangeable w expected' := ⟨hvw.right, h.right, hw⟩
        exact ((hvw.trans hright).trans h.symm).alike
  | @typeMatch tag hint hfloat =>
      refine Matcher.follows_answer hmerging fun v w hvw => ?_
      rcases hvw.typeOf with htype | ⟨hv, hw⟩
      · rw [htype]
      · rw [TypeTag.isSubtypeOf_of_number hv hint hfloat,
          TypeTag.isSubtypeOf_of_number hw hint hfloat]
  | @exactType tag hint hfloat =>
      refine Matcher.follows_answer hmerging fun v w hvw => ?_
      rcases hvw.typeOf with htype | ⟨hv, hw⟩
      · rw [htype]
      · have hne : ∀ t : TypeTag, t = .int ∨ t = .float → t ≠ tag := by
          intro t ht
          rcases ht with rfl | rfl
          · exact hint.symm
          · exact hfloat.symm
        rw [decide_eq_false (hne _ hv), decide_eq_false (hne _ hw)]

/-- Matching is a congruence: a respelled pattern matches an equal value alike,
    and binds the same slots to equal values. -/
theorem extract_respelled (policy : ErrorPolicy) {p p' : Pattern σ} (hp : Respelled p p')
    {v v' : Value} (hv : Value.Interchangeable v v') (s s' : σ) :
    MatchResult.Akin (p.extract policy v s).1 (p'.extract policy v' s').1 := by
  refine akin_extract ?_ hv (I := fun _ => True) trivial trivial
  refine Variant.agrees (A := fun _ => True) Value.likeness_interchangeable
    (fun h _ => h.agrees) (fun hkey _ _ hvw => hvw.lookup? hkey) ?_ hp fun _ _ => trivial
  intro ps qs horder
  exact horder ▸ List.Perm.refl ps

-- One and two, as integers and as floats, in maps filled in different orders.
theorem extract_respelled_of_numbers :
    MatchResult.Akin
      (.ok (.matched ⟨⟨[(⟨⟨1⟩, "rest"⟩, .seq .list [.int 2]), (⟨⟨1⟩, "one"⟩, .int 1)]⟩⟩))
      (.ok (.matched ⟨⟨[(⟨⟨1⟩, "rest"⟩, .seq .list [.int 2]),
        (⟨⟨1⟩, "one"⟩, .float ⟨0x3ff0000000000000⟩)]⟩⟩)) := by
  have hone : Value.Interchangeable (.int 1) (.float ⟨0x3ff0000000000000⟩) :=
    ⟨.int 1, .float _, rfl⟩
  have htwo : Value.Interchangeable (.float ⟨0x4000000000000000⟩) (.int 2) :=
    ⟨.float _, .int 2, rfl⟩
  -- The second alternative is taken, since a map is no string.
  have hp : @Respelled Unit
      (all [mapping [(.int 1, cons (literal (.float ⟨0x4000000000000000⟩)) (capture ⟨⟨1⟩, "rest"⟩))],
        any [typeMatch .str, mapping [(.str "k", capture ⟨⟨1⟩, "one"⟩)]]])
      (all [mapping [(.float ⟨0x3ff0000000000000⟩, cons (literal (.int 2)) (capture ⟨⟨1⟩, "rest"⟩))],
        any [typeMatch .str, mapping [(.str "k", capture ⟨⟨1⟩, "one"⟩)]]]) := by
    have hstr : Value.Interchangeable (.str "k") (.str "k") := Value.interchangeable_self (.str "k")
    refine .all ?_ rfl
    refine .cons (.mapping (.cons hone .nil) (.cons ?_ .nil)) (.cons (.any ?_) .nil)
    · exact .cons (.leaf (.literal htwo)) (.capture _)
    · exact .cons (.leaf (.typeMatch nofun nofun))
        (.cons (.mapping (.cons hstr .nil) (.cons (.capture _) .nil)) .nil)
  have hlist : (Value.seq .list [.int 2, .int 2]).Built := .seq .list _ (by simp [Value.Built.int])
  have hv : Value.Interchangeable
      (.map (.ofList [(.int 1, .seq .list [.int 2, .int 2]), (.str "k", .int 1)]))
      (.map (.ofList [(.str "k", .float ⟨0x3ff0000000000000⟩),
        (.float ⟨0x3ff0000000000000⟩, .seq .list [.int 2, .int 2])])) :=
    ⟨.map _ (by simp [Value.Built.int, Value.Built.str]) (by simp [hlist, Value.Built.int]),
      .map _ (by simp [Value.Built.float, Value.Built.str]) (by simp [hlist, Value.Built.float]), rfl⟩
  exact extract_respelled .fail hp hv () ()

end Respelling

end Pattern

end ShapeMatch
