import ShapeMatch.Proofs.Completeness
import ShapeMatch.Proofs.Policies
import ShapeMatch.Proofs.Reordering

/-!
# Threaded and Merged Captures

When it makes no difference whether captures are merged or passed along.

The members of a conjunction start from the same bindings, and what they
recorded is merged. The parts of a sequence, a map or a record are matched in
turn, and each starts from what the earlier ones recorded. So a conflict comes
up at different moments, and it is found against different values. But without
disjunctions nothing depends on the bindings until then: the derivations are
the same with any bindings to start from, hence those of a conjunction are
those of its members in turn, and whether their captures agree is a question
about the captures alone.

It follows that the entries of a map and the fields of a record can be listed
in another order, since the members of a conjunction can. Again the answers of
the tests must not change with the states that they lead to.

## Main definitions

* `Pattern.Threads`: A conjunction, and its members matched in turn.
* `Pattern.Permuted`: The same entries or fields in another order.
* `Pattern.Untroubled`: No error of a test ends the match.

## Theorems

* `Accepts.rebind`: A derivation does not depend on the bindings.
* `acceptsEach_iff_inTurn`: Members that accept, and parts that accept in turn.
* `Threads.accepts_iff`: A conjunction accepts if its members in turn do.
* `extract_threads`: Both come to the same, with the same bindings.
* `extract_permuted_bound`: The order of entries does matter if a test reads
  what another one commits.
-/

namespace ShapeMatch

namespace Pattern

variable {σ : Type} {policy : ErrorPolicy}

section Rebinding

mutual

/-- Without alternatives, a derivation does not depend on the bindings. -/
theorem Accepts.rebind {p : Pattern σ} {v : Value} {b : Bindings} {s s' : σ} {E : List Capture} :
    Accepts policy p v b s E s' → p.anyFree = true → ∀ c, Accepts policy p v c s E s'
  | .literal h, _, _ => .literal h
  | .typeMatch h, _, _ => .typeMatch h
  | .exactType h, _, _ => .exactType h
  | .seq hview hlength h, hp, c => .seq hview hlength (h.rebind (anyFreeParts_seq hp _) c)
  | .cons hview h, hp, c => .cons hview (h.rebind (anyFreeParts_cons hp _ _) c)
  | .mapping hview h, hp, c => .mapping hview (h.rebind (anyFreeParts_mapping hp) c)
  | .object hview htype h, hp, c => .object hview htype (h.rebind (anyFreeParts_object hp) c)
  | .all h, hp, c => .all (h.rebind ((anyFree_all _).mp hp) c)
  | .any _, hp, _ => by
      rw [anyFree_any] at hp
      exact Bool.noConfusion hp
  | .predicate h, _, _ => .predicate h
  | .capture, _, _ => .capture

theorem AcceptsInTurn.rebind {parts : List (Pattern σ × Option Value)} {b : Bindings} {s s' : σ}
    {E : List Capture} : AcceptsInTurn policy parts b s E s' → AnyFreeParts parts →
      ∀ c, AcceptsInTurn policy parts c s E s'
  | .nil, _, _ => .nil
  | .cons hfirst hrest, hparts, c => by
      rw [AnyFreeParts, List.forall_mem_cons] at hparts
      exact .cons (hfirst.rebind hparts.1 c) (hrest.rebind hparts.2 _)

theorem AcceptsEach.rebind {ps : List (Pattern σ)} {v : Value} {b : Bindings} {s s' : σ}
    {E : List Capture} : AcceptsEach policy ps v b s E s' → (∀ p ∈ ps, p.anyFree = true) →
      ∀ c, AcceptsEach policy ps v c s E s'
  | .nil, _, _ => .nil
  | .cons hfirst hrest, hps, c => by
      rw [List.forall_mem_cons] at hps
      exact .cons (hfirst.rebind hps.1 c) (hrest.rebind hps.2 c)

end

end Rebinding

section Threading

variable {v : Value}

/-- A member of a conjunction accepts the value where a pattern accepts a part. -/
def StandsFor (policy : ErrorPolicy) (v : Value) (member : Pattern σ)
    (part : Pattern σ × Option Value) : Prop :=
  ∀ b s E s', Accepts policy member v b s E s' ↔ ∃ w, part.2 = some w ∧ Accepts policy part.1 w b s E s'

/-- Members that stand for parts accept iff the parts accept in turn. -/
theorem acceptsEach_iff_inTurn {members : List (Pattern σ)}
    {parts : List (Pattern σ × Option Value)}
    (h : List.Forall₂ (StandsFor policy v) members parts) :
    AnyFreeParts parts → ∀ {b : Bindings} {s s' : σ} {E : List Capture},
      AcceptsEach policy members v b s E s' ↔ AcceptsInTurn policy parts b s E s' := by
  induction h with
  | nil =>
      intro _ b s s' E
      constructor
      · intro h
        cases h
        exact .nil
      · intro h
        cases h
        exact .nil
  | @cons member part members parts hfirst _ ih =>
      intro hparts b s s' E
      rw [AnyFreeParts, List.forall_mem_cons] at hparts
      rcases part with ⟨p, found⟩
      constructor
      · intro heach
        cases heach with
        | cons hmember hmembers =>
            rcases (hfirst _ _ _ _).mp hmember with ⟨w, rfl, hpart⟩
            -- The others start from more bindings.
            exact .cons hpart (((ih hparts.2).mp hmembers).rebind hparts.2 _)
      · intro hturn
        cases hturn with
        | cons hpart hrest =>
            exact .cons ((hfirst _ _ _ _).mpr ⟨_, rfl, hpart⟩)
              ((ih hparts.2).mpr (hrest.rebind hparts.2 _))

theorem acceptsEach_iff_inTurn_same {ps : List (Pattern σ)} (hps : ∀ p ∈ ps, p.anyFree = true)
    {b : Bindings} {s s' : σ} {E : List Capture} :
    AcceptsEach policy ps v b s E s' ↔ AcceptsInTurn policy (ps.map fun p => (p, some v)) b s E s' := by
  refine acceptsEach_iff_inTurn ?_ (List.forall_mem_map.mpr hps)
  rw [List.forall₂_map_right_iff, List.forall₂_same]
  intro p _ b s E s'
  simp

theorem acceptsInTurn_single_iff {p : Pattern σ} {found : Option Value} {b : Bindings} {s s' : σ}
    {E : List Capture} : AcceptsInTurn policy [(p, found)] b s E s' ↔
      ∃ w, found = some w ∧ Accepts policy p w b s E s' := by
  constructor
  · intro h
    cases h with
    | cons hfirst hrest =>
        cases hrest
        rw [List.append_nil]
        exact ⟨_, rfl, hfirst⟩
  · intro h
    rcases h with ⟨w, rfl, h⟩
    exact List.append_nil E ▸ .cons h .nil

/-- `Threads p v q w` says that `q` matches in turn on `w` what the members of
    the conjunction `p` match on `v`. -/
inductive Threads : Pattern σ → Value → Pattern σ → Value → Prop
  | seq (kind : SeqKind) (ps : List (Pattern σ)) (v : Value) :
      Threads (all ps) v (seq kind ps) (.ofSequence kind (List.replicate ps.length v))
  | mapping {entries : List (Value × Pattern σ)} (hne : entries ≠ []) (v : Value) :
      Threads (all (entries.map fun entry => mapping [entry])) v (mapping entries) v
  | object (expected : Option TypeTag) {fields : List (String × Pattern σ)} (hne : fields ≠ [])
      (v : Value) :
      Threads (all (fields.map fun field => object expected [field])) v (object expected fields) v

theorem Threads.built {p q : Pattern σ} {v w : Value} (h : Threads p v q w) (hv : v.Built) :
    w.Built := by
  cases h with
  | seq kind ps _ =>
      exact Value.Built.ofSequence kind fun u hu => (List.eq_of_mem_replicate hu) ▸ hv
  | mapping _ _ => exact hv
  | object _ _ _ => exact hv

theorem zip_replicate (ps : List (Pattern σ)) (v : Value) :
    ps.zip ((List.replicate ps.length v).map some) = ps.map fun p => (p, some v) := by
  induction ps with
  | nil => rfl
  | cons p rest ih =>
      rw [List.length_cons, List.replicate_succ, List.map_cons, List.zip_cons_cons, ih,
        List.map_cons]

theorem accepts_seq_replicate_iff (kind : SeqKind) (ps : List (Pattern σ)) {b : Bindings}
    {s s' : σ} {E : List Capture} :
    Accepts policy (seq kind ps) (.ofSequence kind (List.replicate ps.length v)) b s E s' ↔
      AcceptsInTurn policy (ps.map fun p => (p, some v)) b s E s' := by
  rw [← zip_replicate]
  constructor
  · intro h
    cases h with
    | seq hview _ h =>
        rw [Value.asSequence?_ofSequence, Option.some.injEq, Prod.mk.injEq] at hview
        rw [hview.2]
        exact h
  · exact .seq (Value.asSequence?_ofSequence kind _) List.length_replicate

-- A whole that fits the value is matched part by part by members that ask for
-- one part each, where each of them asks for the whole to fit.
theorem acceptsEach_singles_iff {α : Type} {Fits : Prop} {single : α → Pattern σ}
    {part : α → Pattern σ × Option Value} (hsingle : ∀ x b s E s',
      Accepts policy (single x) v b s E s' ↔ Fits ∧ AcceptsInTurn policy [part x] b s E s')
    {xs : List α} (hne : xs ≠ []) (hparts : AnyFreeParts (xs.map part)) {b : Bindings} {s s' : σ}
    {E : List Capture} : AcceptsEach policy (xs.map single) v b s E s' ↔
      Fits ∧ AcceptsInTurn policy (xs.map part) b s E s' := by
  by_cases hfits : Fits
  · have hstands : List.Forall₂ (StandsFor policy v) (xs.map single) (xs.map part) := by
      rw [List.forall₂_map_left_iff, List.forall₂_map_right_iff, List.forall₂_same]
      intro x _ b s E s'
      rw [hsingle, acceptsInTurn_single_iff]
      exact and_iff_right hfits
    rw [acceptsEach_iff_inTurn hstands hparts]
    exact (and_iff_right hfits).symm
  · -- Already the first member refuses.
    constructor
    · intro h
      cases xs with
      | nil => exact absurd rfl hne
      | cons x rest =>
          cases h with
          | cons hfirst _ => exact absurd ((hsingle x _ _ _ _).mp hfirst).1 hfits
    · exact fun h => absurd h.1 hfits

/-- Without alternatives, a conjunction accepts iff its members in turn do, with
    the same captures. -/
theorem Threads.accepts_iff {p q : Pattern σ} {v w : Value} (h : Threads p v q w)
    (hq : q.anyFree = true) {b : Bindings} {s s' : σ} {E : List Capture} :
    Accepts policy p v b s E s' ↔ Accepts policy q w b s E s' := by
  cases h with
  | seq kind ps v =>
      rw [accepts_all_iff, accepts_seq_replicate_iff]
      exact acceptsEach_iff_inTurn_same ((anyFree_seq kind ps).mp hq)
  | mapping hne v =>
      rw [accepts_all_iff, accepts_mapping_iff]
      exact acceptsEach_singles_iff (fun _ _ _ _ _ => accepts_mapping_iff) hne
        (anyFreeParts_mapping hq)
  | object expected hne v =>
      rw [accepts_all_iff, accepts_object_iff]
      exact acceptsEach_singles_iff (fun _ _ _ _ _ => accepts_object_iff) hne
        (anyFreeParts_object hq)

end Threading

section Outcomes

/-- No error of a test ends the match: errors count as refusal, or no test that
    is called has an error. -/
def Untroubled (policy : ErrorPolicy) (p : Pattern σ) (v : Value) (s : σ) : Prop :=
  policy = .fail ∨ ∀ c ∈ p.calls policy v s, c.Answered

theorem Untroubled.extract_eq {p : Pattern σ} {v : Value} {s : σ} (h : p.Untroubled policy v s) :
    p.extract policy v s = p.extract .fail v s := by
  cases policy with
  | fail => rfl
  | propagate =>
      rcases p.extract_tracks v s with ⟨hsame, _⟩ | ⟨e, _, hlast, _⟩
      · exact hsame.symm
      · rcases h with hpolicy | hanswered
        · exact nomatch hpolicy
        · exact absurd hanswered hlast.not_answered

-- If derivations are the same, so are successes, and otherwise both refuse.
theorem extract_fail_congr {p q : Pattern σ} {v w : Value} (hv : v.Built) (hw : w.Built) {s : σ}
    (h : ∀ E s', Accepts .fail p v .empty s E s' ↔ Accepts .fail q w .empty s E s') :
    (p.extract .fail v s).1 = (q.extract .fail w s).1 := by
  have hmatched : ∀ B s', p.extract .fail v s = (.ok (.matched B), s') ↔
      q.extract .fail w s = (.ok (.matched B), s') := by
    intro B s'
    rw [extract_eq_matched_iff hv, extract_eq_matched_iff hw]
    simp only [h]
  rcases hp : p.extract .fail v s with ⟨_ | _ | _, s'⟩
  · exact absurd (congrArg Prod.fst hp) (p.extract_fail_ne_error v s _)
  · rw [(hmatched _ _).mp hp]
  · rcases hq : q.extract .fail w s with ⟨_ | _ | _, s''⟩
    · exact absurd (congrArg Prod.fst hq) (q.extract_fail_ne_error w s _)
    · rw [(hmatched _ _).mpr hq] at hp
      exact nomatch hp
    · rfl

theorem Threads.extract_fail {p q : Pattern σ} {v w : Value} (h : Threads p v q w)
    (hq : q.anyFree = true) (hv : v.Built) {s : σ} :
    (p.extract .fail v s).1 = (q.extract .fail w s).1 :=
  extract_fail_congr hv (h.built hv) fun _ _ => h.accepts_iff hq

end Outcomes

section Order

/-- The same entries or fields, listed in another order. -/
inductive Permuted : Pattern σ → Pattern σ → Prop
  | mapping {entries entries' : List (Value × Pattern σ)} (h : entries.Perm entries') :
      Permuted (mapping entries) (mapping entries')
  | object (expected : Option TypeTag) {fields fields' : List (String × Pattern σ)}
      (h : fields.Perm fields') : Permuted (object expected fields) (object expected fields')

theorem Permuted.anyFree {q q' : Pattern σ} (h : Permuted q q') (hq : q.anyFree = true) :
    q'.anyFree = true := by
  cases h with
  | mapping h =>
      rw [anyFree_mapping] at hq ⊢
      exact fun entry hentry => hq entry (h.mem_iff.mpr hentry)
  | object expected h =>
      rw [anyFree_object] at hq ⊢
      exact fun field hfield => hq field (h.mem_iff.mpr hfield)

/-- A pattern is a reordering of itself. -/
theorem reordered_refl (p : Pattern σ) : Reordered p p := by
  induction p using Pattern.induction with
  | literal v => exact .leaf (.literal v)
  | typeMatch tag => exact .leaf (.typeMatch tag)
  | exactType tag => exact .leaf (.exactType tag)
  | seq kind items ih => exact .seq kind (List.forall₂_same.mpr ih)
  | cons head tail ihhead ihtail => exact .cons ihhead ihtail
  | mapping entries ih =>
      refine .mapping (List.forall₂_same.mpr fun _ _ => rfl) (List.forall₂_same.mpr ?_)
      exact List.forall_mem_map.mpr ih
  | object expected fields ih =>
      exact .object expected rfl (List.forall₂_same.mpr (List.forall_mem_map.mpr ih))
  | all members ih => exact .all (List.forall₂_same.mpr ih) (.refl _)
  | any alternatives ih => exact .any (List.forall₂_same.mpr ih)
  | predicate t => exact .leaf (.predicate t)
  | capture slot => exact .capture slot

/-- Parts in another order are members of a conjunction in another order. -/
theorem Permuted.exists_threads {q q' : Pattern σ} (h : Permuted q q') :
    q = q' ∨ ∃ p p', Reordered p p' ∧ ∀ v, Threads p v q v ∧ Threads p' v q' v := by
  cases h with
  | @mapping entries entries' hperm =>
      by_cases hne : entries = []
      · exact Or.inl (hne ▸ (hne ▸ hperm).symm.eq_nil ▸ rfl)
      · refine Or.inr ⟨_, _, .all ?_ (hperm.map _), fun v =>
          ⟨.mapping hne v, .mapping (fun hnil => hne ?_) v⟩⟩
        · exact List.forall₂_same.mpr fun p _ => reordered_refl p
        · exact (hnil ▸ hperm).eq_nil
  | @object expected fields fields' hperm =>
      by_cases hne : fields = []
      · exact Or.inl (hne ▸ (hne ▸ hperm).symm.eq_nil ▸ rfl)
      · refine Or.inr ⟨_, _, .all ?_ (hperm.map _), fun v =>
          ⟨.object expected hne v, .object expected (fun hnil => hne ?_) v⟩⟩
        · exact List.forall₂_same.mpr fun p _ => reordered_refl p
        · exact (hnil ▸ hperm).eq_nil

theorem Threads.predicates {p q : Pattern σ} {v w : Value} (h : Threads p v q w) :
    p.predicates = q.predicates := by
  unfold Pattern.predicates
  cases h with
  | seq kind ps v => rw [collect_all, collect_seq]
  | mapping hne v =>
      rw [collect_all, collect_mapping, List.map_map]
      simp [Function.comp_def, collect_mapping]
  | object expected hne v =>
      rw [collect_all, collect_object, List.map_map]
      simp [Function.comp_def, collect_object]

/-- The order of entries and of fields does not matter, for steady tests. -/
theorem akin_extract_permuted {q q' : Pattern σ} (h : Permuted q q') (hq : q.anyFree = true)
    {I : σ → Prop} (hsteady : ∀ t ∈ q.predicates, t.SteadyOn I) {v : Value} (hv : v.Built)
    {s s' : σ} (hs : I s) (hs' : I s') :
    MatchResult.Akin (q.extract .fail v s).1 (q'.extract .fail v s').1 := by
  rcases h.exists_threads with rfl | ⟨p, p', hp, hthreads⟩
  · exact akin_extract ((reordered_refl q).agrees hsteady (.inl rfl)) ⟨rfl, hv⟩ hs hs'
  · -- From the parts to the members, to the other members, and back.
    rcases hthreads v with ⟨hleft, hright⟩
    rw [← hleft.extract_fail hq hv, ← hright.extract_fail (h.anyFree hq) hv]
    have hagrees := hp.agrees (hleft.predicates ▸ hsteady) (.inl rfl)
    exact akin_extract hagrees ⟨rfl, hv⟩ hs hs'

end Order

/-- Isolated and merged captures are threaded captures: without alternatives, a
    conjunction comes to the same as its members in turn, with the same
    bindings. So the order of entries and of fields does not matter, if the
    answers of the tests do not change with the states that they lead to. -/
theorem extract_threads {q : Pattern σ} (hq : q.anyFree = true) :
    (∀ p v w s, Threads p v q w → v.Built → p.Untroubled policy v s → q.Untroubled policy w s →
      (p.extract policy v s).1 = (q.extract policy w s).1) ∧
    ∀ q' v s s' (I : σ → Prop), Permuted q q' → v.Built → (∀ t ∈ q.predicates, t.SteadyOn I) →
      I s → I s' → q.Untroubled policy v s → q'.Untroubled policy v s' →
      MatchResult.Akin (q.extract policy v s).1 (q'.extract policy v s').1 := by
  constructor
  · intro p v w s h hv hmerged hthreaded
    rw [hmerged.extract_eq, hthreaded.extract_eq]
    exact h.extract_fail hq hv
  · intro q' v s s' I h hv hsteady hs hs' hleft hright
    rw [hleft.extract_eq, hright.extract_eq]
    exact akin_extract_permuted h hq hsteady hv hs hs'

-- Two entries that capture one slot, and a test that counts its calls.
theorem extract_threads_of_count :
    ((all [mapping [(.str "a", capture ⟨⟨1⟩, "x"⟩)],
          mapping [(.str "b", all [predicate ⟨"count", fun _ n => (.ok true, n + 1)⟩,
            capture ⟨⟨1⟩, "x"⟩])]]).extract .propagate
        (.map (.ofList [(.str "a", .int 1), (.str "b", .float ⟨0x3ff0000000000000⟩)])) 0).1 =
      .ok (.matched ⟨⟨[(⟨⟨1⟩, "x"⟩, .int 1)]⟩⟩) ∧
    MatchResult.Akin (.ok (.matched ⟨⟨[(⟨⟨1⟩, "x"⟩, .int 1)]⟩⟩))
      (.ok (.matched ⟨⟨[(⟨⟨1⟩, "x"⟩, .float ⟨0x3ff0000000000000⟩)]⟩⟩)) := by
  have hq : (mapping [(.str "a", capture ⟨⟨1⟩, "x"⟩),
      (.str "b", all [predicate ⟨"count", fun _ (n : Nat) => (.ok true, n + 1)⟩,
        capture ⟨⟨1⟩, "x"⟩])]).anyFree = true := rfl
  have hv : (Value.map (.ofList [(.str "a", .int 1),
      (.str "b", .float ⟨0x3ff0000000000000⟩)])).Built :=
    .map _ (by simp [Value.Built.str]) (by simp [Value.Built.int, Value.Built.float])
  have hsteady : Predicate.SteadyOn (fun _ : Nat => True) ⟨"count", fun _ n => (.ok true, n + 1)⟩ :=
    ⟨fun _ _ _ => trivial, fun _ _ _ _ _ => rfl⟩
  have hthreads := @extract_threads _ .propagate _ hq
  exact ⟨hthreads.1 _ _ _ 0 (.mapping (List.cons_ne_nil _ _) _) hv
      (.inr (List.forall_mem_singleton.mpr ⟨true, rfl⟩))
      (.inr (List.forall_mem_singleton.mpr ⟨true, rfl⟩)),
    hthreads.2 _ _ 0 0 _ (.mapping (.swap _ _ [])) hv (List.forall_mem_singleton.mpr hsteady)
      trivial trivial (.inr (List.forall_mem_singleton.mpr ⟨true, rfl⟩))
      (.inr (List.forall_mem_singleton.mpr ⟨true, rfl⟩))⟩

/-- The order of entries does matter if a test reads what another one commits:
    then it decides whether the slot is bound in time. -/
theorem extract_permuted_bound :
    @Permuted (Session Unit)
        (mapping [(.str "a", (capture ⟨⟨1⟩, "x"⟩).nested .propagate), (.str "b", isBound ⟨⟨1⟩, "x"⟩)])
        (mapping [(.str "b", isBound ⟨⟨1⟩, "x"⟩), (.str "a", (capture ⟨⟨1⟩, "x"⟩).nested .propagate)]) ∧
      (mapping [(.str "a", (capture ⟨⟨1⟩, "x"⟩).nested .propagate),
        (.str "b", (isBound ⟨⟨1⟩, "x"⟩ : Pattern (Session Unit)))]).anyFree = true ∧
      ((mapping [(.str "a", (capture ⟨⟨1⟩, "x"⟩).nested .propagate),
            (.str "b", isBound ⟨⟨1⟩, "x"⟩)]).extract .fail
          (.map (.ofList [(.str "a", .int 1), (.str "b", .int 2)]))
          ((Run.start ()).exec [.create]).session).1 = .ok (.matched .empty) ∧
      ((mapping [(.str "b", isBound ⟨⟨1⟩, "x"⟩),
            (.str "a", (capture ⟨⟨1⟩, "x"⟩).nested .propagate)]).extract .fail
          (.map (.ofList [(.str "a", .int 1), (.str "b", .int 2)]))
          ((Run.start ()).exec [.create]).session).1 = .ok .noMatch :=
  ⟨.mapping (.swap _ _ []), rfl, rfl, rfl⟩

end Pattern

end ShapeMatch
