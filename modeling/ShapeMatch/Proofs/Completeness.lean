import ShapeMatch.Proofs.Extraction
import ShapeMatch.Proofs.Leaves

/-!
# Completeness without Alternatives

A pattern without alternatives is refused only for a reason that can be named.

Where a disjunction occurs, the captures of an alternative that was taken can
clash with later ones, and the match does not come back for another. Without
disjunctions there is nothing to come back to. The pattern accepts by the
rules, or some node does not fit the value that it meets, and these are all
the ways in which a derivation can fail. The captures of a derivation belong to
the capture nodes of the pattern, so a successful extraction binds the slots
of all of them.

## Main definitions

* `Pattern.anyFree`: No disjunction occurs.
* `Pattern.Misfits`: Some node does not fit the value that it meets.

## Theorems

* `Accepts.map_fst`: The emitted captures are those of the pattern.
* `accepts_or_misfits`: A pattern without alternatives accepts or misfits.
* `extract_complete`: A pattern without alternatives is extracted where it
  accepts and its captures agree.
-/

namespace ShapeMatch

namespace Pattern

variable {σ : Type}

/-- Whether disjunctions are absent, kind by kind. -/
def anyFreeAlgebra : Algebra σ Bool where
  literal _ := true
  typeMatch _ := true
  exactType _ := true
  seq _ items := items.all id
  cons head tail := head && tail
  mapping entries := entries.all Prod.snd
  object _ fields := fields.all Prod.snd
  all members := members.all id
  any _ := false
  predicate _ := true
  capture _ := true

/-- Whether no disjunction occurs in a pattern. -/
def anyFree (p : Pattern σ) : Bool := p.fold anyFreeAlgebra

section Equations

theorem anyFree_seq (kind : SeqKind) (items : List (Pattern σ)) :
    (seq kind items).anyFree = true ↔ ∀ p ∈ items, p.anyFree = true := by
  rw [anyFree, fold_seq]
  simp [anyFreeAlgebra, anyFree]

theorem anyFree_cons (head tail : Pattern σ) :
    (cons head tail).anyFree = true ↔ head.anyFree = true ∧ tail.anyFree = true := by
  rw [anyFree, fold]
  exact Bool.and_eq_true_iff

theorem anyFree_mapping (entries : List (Value × Pattern σ)) :
    (mapping entries).anyFree = true ↔ ∀ entry ∈ entries, entry.2.anyFree = true := by
  rw [anyFree, fold_mapping]
  simp [anyFreeAlgebra, anyFree]

theorem anyFree_object (expected : Option TypeTag) (fields : List (String × Pattern σ)) :
    (object expected fields).anyFree = true ↔ ∀ field ∈ fields, field.2.anyFree = true := by
  rw [anyFree, fold_object]
  simp [anyFreeAlgebra, anyFree]

theorem anyFree_all (members : List (Pattern σ)) :
    (all members).anyFree = true ↔ ∀ p ∈ members, p.anyFree = true := by
  rw [anyFree, fold_all]
  simp [anyFreeAlgebra, anyFree]

theorem anyFree_any (alternatives : List (Pattern σ)) : (any alternatives).anyFree = false := by
  rw [anyFree, fold_any]
  rfl

end Equations

/-- No disjunction occurs in the patterns of the parts. -/
def AnyFreeParts (parts : List (Pattern σ × Option Value)) : Prop :=
  ∀ part ∈ parts, part.1.anyFree = true

section Parts

variable {v : Value}

theorem anyFreeParts_seq {kind : SeqKind} {items : List (Pattern σ)}
    (h : (seq kind items).anyFree = true) (parts : List (Option Value)) :
    AnyFreeParts (items.zip parts) :=
  fun part hpart => (anyFree_seq kind items).mp h part.1
    (List.of_mem_zip (a := part.1) (b := part.2) hpart).1

theorem anyFreeParts_cons {head tail : Pattern σ} (h : (cons head tail).anyFree = true)
    (first rest : Option Value) : AnyFreeParts [(head, first), (tail, rest)] := by
  rw [anyFree_cons] at h
  simp [AnyFreeParts, h]

theorem anyFreeParts_mapping {entries : List (Value × Pattern σ)}
    (h : (mapping entries).anyFree = true) :
    AnyFreeParts (entries.map fun entry => (entry.2, v.lookup? entry.1)) :=
  List.forall_mem_map.mpr ((anyFree_mapping entries).mp h)

theorem anyFreeParts_object {expected : Option TypeTag} {fields : List (String × Pattern σ)}
    (h : (object expected fields).anyFree = true) :
    AnyFreeParts (fields.map fun field => (field.2, v.field? field.1)) :=
  List.forall_mem_map.mpr ((anyFree_object expected fields).mp h)

end Parts

section Emitted

variable {policy : ErrorPolicy}

mutual

/-- Without alternatives, the emitted captures are those of the pattern. -/
theorem Accepts.map_fst {p : Pattern σ} {v : Value} {b : Bindings} {s s' : σ} {E : List Capture} :
    Accepts policy p v b s E s' → p.anyFree = true → E.map Prod.fst = p.slots
  | .literal _, _ => rfl
  | .typeMatch _, _ => rfl
  | .exactType _, _ => rfl
  | .seq _ hlength h, hp => by
      rw [h.map_fst (anyFreeParts_seq hp _), slots, collect_seq, List.map_fst_zip]
      · rfl
      · simp [hlength]
  | .cons _ h, hp => by
      rw [h.map_fst (anyFreeParts_cons hp _ _), slots, collect_cons]
      simp [slots]
  | .mapping _ h, hp => by
      rw [h.map_fst (anyFreeParts_mapping hp), slots, collect_mapping, List.map_map, List.map_map]
      rfl
  | .object _ _ h, hp => by
      rw [h.map_fst (anyFreeParts_object hp), slots, collect_object, List.map_map, List.map_map]
      rfl
  | .all h, hp => by
      rw [h.map_fst ((anyFree_all _).mp hp), slots, collect_all]
      rfl
  | .any _, hp => by
      rw [anyFree_any] at hp
      exact Bool.noConfusion hp
  | .predicate _, _ => rfl
  | .capture, _ => rfl

theorem AcceptsInTurn.map_fst {parts : List (Pattern σ × Option Value)} {b : Bindings} {s s' : σ}
    {E : List Capture} : AcceptsInTurn policy parts b s E s' → AnyFreeParts parts →
      E.map Prod.fst = ((parts.map Prod.fst).map slots).flatten
  | .nil, _ => rfl
  | .cons hfirst hrest, hparts => by
      rw [AnyFreeParts, List.forall_mem_cons] at hparts
      rw [List.map_append, hfirst.map_fst hparts.1, hrest.map_fst hparts.2]
      rfl

theorem AcceptsEach.map_fst {ps : List (Pattern σ)} {v : Value} {b : Bindings} {s s' : σ}
    {E : List Capture} : AcceptsEach policy ps v b s E s' → (∀ p ∈ ps, p.anyFree = true) →
      E.map Prod.fst = (ps.map slots).flatten
  | .nil, _ => rfl
  | .cons hfirst hrest, hps => by
      rw [List.forall_mem_cons] at hps
      rw [List.map_append, hfirst.map_fst hps.1, hrest.map_fst hps.2]
      rfl

end

end Emitted

mutual

/-- `Misfits policy p v b s` says that some node of `p` does not fit the value
    that it meets, while all nodes before it do. -/
inductive Misfits (policy : ErrorPolicy) : Pattern σ → Value → Bindings → σ → Prop
  | literal {expected v : Value} {b : Bindings} {s : σ} (h : v.deepEqual expected = false) :
      Misfits policy (literal expected) v b s
  | typeMatch {tag : TypeTag} {v : Value} {b : Bindings} {s : σ}
      (h : v.typeOf.isSubtypeOf tag = false) : Misfits policy (typeMatch tag) v b s
  | exactType {tag : TypeTag} {v : Value} {b : Bindings} {s : σ} (h : v.typeOf ≠ tag) :
      Misfits policy (exactType tag) v b s
  | noSeq {kind : SeqKind} {items : List (Pattern σ)} {v : Value} {b : Bindings} {s : σ}
      (h : ∀ parts, v.asSequence? = some (kind, parts) → parts.length ≠ items.length) :
      Misfits policy (seq kind items) v b s
  | seq {kind : SeqKind} {items : List (Pattern σ)} {v : Value} {parts : List Value}
      {b : Bindings} {s : σ} (hview : v.asSequence? = some (kind, parts))
      (h : MisfitsInTurn policy (items.zip (parts.map some)) b s) :
      Misfits policy (seq kind items) v b s
  | noCons {head tail : Pattern σ} {v : Value} {b : Bindings} {s : σ}
      (h : ∀ kind first rest, v.asSequence? ≠ some (kind, first :: rest)) :
      Misfits policy (cons head tail) v b s
  | cons {head tail : Pattern σ} {v : Value} {kind : SeqKind} {first : Value}
      {rest : List Value} {b : Bindings} {s : σ}
      (hview : v.asSequence? = some (kind, first :: rest))
      (h : MisfitsInTurn policy [(head, some first), (tail, some (.ofSequence kind rest))] b s) :
      Misfits policy (cons head tail) v b s
  | noMapping {entries : List (Value × Pattern σ)} {v : Value} {b : Bindings} {s : σ}
      (h : v.isMapping = false) : Misfits policy (mapping entries) v b s
  | mapping {entries : List (Value × Pattern σ)} {v : Value} {b : Bindings} {s : σ}
      (h : MisfitsInTurn policy (entries.map fun entry => (entry.2, v.lookup? entry.1)) b s) :
      Misfits policy (mapping entries) v b s
  | noObject {expected : Option TypeTag} {fields : List (String × Pattern σ)} {v : Value}
      {b : Bindings} {s : σ} (h : v.isRecord = false) :
      Misfits policy (object expected fields) v b s
  | otherObject {tag : TypeTag} {fields : List (String × Pattern σ)} {v : Value}
      {b : Bindings} {s : σ} (h : v.typeOf.isSubtypeOf tag = false) :
      Misfits policy (object (some tag) fields) v b s
  | object {expected : Option TypeTag} {fields : List (String × Pattern σ)} {v : Value}
      {b : Bindings} {s : σ}
      (h : MisfitsInTurn policy (fields.map fun field => (field.2, v.field? field.1)) b s) :
      Misfits policy (object expected fields) v b s
  | all {members : List (Pattern σ)} {v : Value} {b : Bindings} {s : σ}
      (h : MisfitsEach policy members v b s) : Misfits policy (all members) v b s
  | predicate {p : Predicate σ} {v : Value} {b : Bindings} {s : σ}
      (h : (p.test v s).1 ≠ .ok true) : Misfits policy (predicate p) v b s

/-- Some part is not there or does not fit, and the parts before it are
    accepted. -/
inductive MisfitsInTurn (policy : ErrorPolicy) :
    List (Pattern σ × Option Value) → Bindings → σ → Prop
  | missing {p : Pattern σ} {rest : List (Pattern σ × Option Value)} {b : Bindings} {s : σ} :
      MisfitsInTurn policy ((p, none) :: rest) b s
  | here {p : Pattern σ} {v : Value} {rest : List (Pattern σ × Option Value)} {b : Bindings}
      {s : σ} (h : Misfits policy p v b s) : MisfitsInTurn policy ((p, some v) :: rest) b s
  | later {p : Pattern σ} {v : Value} {rest : List (Pattern σ × Option Value)} {b : Bindings}
      {s s' : σ} {E : List Capture} (hfirst : Accepts policy p v b s E s')
      (h : MisfitsInTurn policy rest (b.extend E) s') :
      MisfitsInTurn policy ((p, some v) :: rest) b s

/-- Some pattern does not fit the value, and those before it accept it. -/
inductive MisfitsEach (policy : ErrorPolicy) : List (Pattern σ) → Value → Bindings → σ → Prop
  | here {p : Pattern σ} {rest : List (Pattern σ)} {v : Value} {b : Bindings} {s : σ}
      (h : Misfits policy p v b s) : MisfitsEach policy (p :: rest) v b s
  | later {p : Pattern σ} {rest : List (Pattern σ)} {v : Value} {b : Bindings} {s s' : σ}
      {E : List Capture} (hfirst : Accepts policy p v b s E s')
      (h : MisfitsEach policy rest v b s') : MisfitsEach policy (p :: rest) v b s

end

section Refusal

variable {policy : ErrorPolicy} {v : Value}

/-- A pattern accepts a value or does not fit it, whatever is bound. -/
def Decided (policy : ErrorPolicy) (p : Pattern σ) : Prop :=
  ∀ (v : Value) (b : Bindings) (s : σ),
    (∃ E s', Accepts policy p v b s E s') ∨ Misfits policy p v b s

theorem decided_inTurn (parts : List (Pattern σ × Option Value)) :
    ∀ (b : Bindings) (s : σ), (∀ part ∈ parts, Decided policy part.1) →
      (∃ E s', AcceptsInTurn policy parts b s E s') ∨ MisfitsInTurn policy parts b s := by
  induction parts with
  | nil => exact fun b s _ => Or.inl ⟨[], s, .nil⟩
  | cons part rest ih =>
      intro b s hparts
      rw [List.forall_mem_cons] at hparts
      rcases part with ⟨p, _ | w⟩
      · exact Or.inr .missing
      -- The first part fits or not, and if it does, the rest goes on from it.
      · rcases hparts.1 w b s with ⟨E, s', hE⟩ | hmisfit
        · rcases ih (b.extend E) s' hparts.2 with ⟨F, s'', hF⟩ | hmisfit
          · exact Or.inl ⟨E ++ F, s'', .cons hE hF⟩
          · exact Or.inr (.later hE hmisfit)
        · exact Or.inr (.here hmisfit)

theorem decided_each (ps : List (Pattern σ)) (v : Value) (b : Bindings) :
    ∀ s : σ, (∀ p ∈ ps, Decided policy p) →
      (∃ E s', AcceptsEach policy ps v b s E s') ∨ MisfitsEach policy ps v b s := by
  induction ps with
  | nil => exact fun s _ => Or.inl ⟨[], s, .nil⟩
  | cons p rest ih =>
      intro s hps
      rw [List.forall_mem_cons] at hps
      rcases hps.1 v b s with ⟨E, s', hE⟩ | hmisfit
      · rcases ih s' hps.2 with ⟨F, s'', hF⟩ | hmisfit
        · exact Or.inl ⟨E ++ F, s'', .cons hE hF⟩
        · exact Or.inr (.later hE hmisfit)
      · exact Or.inr (.here hmisfit)

/-- A pattern without alternatives accepts, or some node does not fit. -/
theorem accepts_or_misfits (p : Pattern σ) : p.anyFree = true → Decided policy p := by
  induction p using Pattern.induction with
  | literal expected =>
      intro _ v b s
      by_cases h : v.deepEqual expected = true
      · exact Or.inl ⟨[], s, .literal h⟩
      · exact Or.inr (.literal (Bool.eq_false_iff.mpr h))
  | typeMatch tag =>
      intro _ v b s
      by_cases h : v.typeOf.isSubtypeOf tag = true
      · exact Or.inl ⟨[], s, .typeMatch h⟩
      · exact Or.inr (.typeMatch (Bool.eq_false_iff.mpr h))
  | exactType tag =>
      intro _ v b s
      by_cases h : v.typeOf = tag
      · exact Or.inl ⟨[], s, .exactType h⟩
      · exact Or.inr (.exactType h)
  | seq kind items ih =>
      intro hp v b s
      rw [anyFree_seq] at hp
      -- No view of the kind and no view of the length are one misfit.
      by_cases h : ∃ parts, v.asSequence? = some (kind, parts) ∧ parts.length = items.length
      · rcases h with ⟨parts, hview, hlength⟩
        refine (decided_inTurn (items.zip (parts.map some)) b s fun part hpart => ?_).imp ?_
          (.seq hview)
        · have hmem := (List.of_mem_zip (a := part.1) (b := part.2) hpart).1
          exact ih part.1 hmem (hp part.1 hmem)
        · intro hderived
          rcases hderived with ⟨E, s', hE⟩
          exact ⟨E, s', .seq hview hlength hE⟩
      · exact Or.inr (.noSeq fun parts hview hlength => h ⟨parts, hview, hlength⟩)
  | cons head tail ihhead ihtail =>
      intro hp v b s
      rw [anyFree_cons] at hp
      by_cases h : ∃ kind first rest, v.asSequence? = some (kind, first :: rest)
      · rcases h with ⟨kind, first, rest, hview⟩
        refine (decided_inTurn [(head, some first), (tail, some (.ofSequence kind rest))] b s
          ?_).imp ?_ (.cons hview)
        · simp [ihhead hp.1, ihtail hp.2]
        · intro hderived
          rcases hderived with ⟨E, s', hE⟩
          exact ⟨E, s', .cons hview hE⟩
      · exact Or.inr (.noCons fun kind first rest hview => h ⟨kind, first, rest, hview⟩)
  | mapping entries ih =>
      intro hp v b s
      rw [anyFree_mapping] at hp
      by_cases h : v.isMapping = true
      · refine (decided_inTurn (entries.map fun entry => (entry.2, v.lookup? entry.1)) b s
          ?_).imp ?_ .mapping
        · exact List.forall_mem_map.mpr fun entry hentry => ih entry hentry (hp entry hentry)
        · intro hderived
          rcases hderived with ⟨E, s', hE⟩
          exact ⟨E, s', .mapping h hE⟩
      · exact Or.inr (.noMapping (Bool.eq_false_iff.mpr h))
  | object expected fields ih =>
      intro hp v b s
      rw [anyFree_object] at hp
      by_cases h : v.isRecord = true
      · by_cases htype : ∀ tag ∈ expected, v.typeOf.isSubtypeOf tag = true
        · refine (decided_inTurn (fields.map fun field => (field.2, v.field? field.1)) b s
            ?_).imp ?_ .object
          · exact List.forall_mem_map.mpr fun field hfield => ih field hfield (hp field hfield)
          · intro hderived
            rcases hderived with ⟨E, s', hE⟩
            exact ⟨E, s', .object h htype hE⟩
        · -- There is an expected type, and the value does not have it.
          simp only [not_forall, Option.mem_def] at htype
          rcases htype with ⟨tag, rfl, htag⟩
          exact Or.inr (.otherObject (Bool.eq_false_iff.mpr htag))
      · exact Or.inr (.noObject (Bool.eq_false_iff.mpr h))
  | all members ih =>
      intro hp v b s
      rw [anyFree_all] at hp
      refine (decided_each members v b s fun p hmem => ih p hmem (hp p hmem)).imp ?_ .all
      intro hderived
      rcases hderived with ⟨E, s', hE⟩
      exact ⟨E, s', .all hE⟩
  | any alternatives _ =>
      intro hp
      rw [anyFree_any] at hp
      exact Bool.noConfusion hp
  | predicate p =>
      intro _ v b s
      by_cases h : (p.test v s).1 = .ok true
      · exact Or.inl ⟨[], (p.test v s).2, .predicate (Prod.ext h rfl)⟩
      · exact Or.inr (.predicate h)
  | capture slot => exact fun _ v b s => Or.inl ⟨[(slot, v)], s, .capture⟩

end Refusal

/-- Completeness: without alternatives, a derivation with consistent captures
    makes the extraction succeed, with exactly the slots of the pattern bound.
    So if it does not succeed, some node does not fit, or some slot meets two
    unequal values. -/
theorem extract_complete (policy : ErrorPolicy) (p : Pattern σ) (hp : p.anyFree = true) {v : Value}
    (hv : v.Built) (s : σ) :
    (∀ E s', Accepts policy p v .empty s E s' →
      (∀ c ∈ E, ∀ d ∈ E, c.1 = d.1 → c.2.deepEqual d.2 = true) →
      ∃ B, p.extract policy v s = (.ok (.matched B), s') ∧
        ∀ slot, (B.get? slot).isSome = true ↔ slot ∈ p.slots) ∧
    ((∀ B, (p.extract policy v s).1 ≠ .ok (.matched B)) →
      Misfits policy p v .empty s ∨
        ∃ E s', Accepts policy p v .empty s E s' ∧
          ∃ c ∈ E, ∃ d ∈ E, c.1 = d.1 ∧ c.2.deepEqual d.2 = false) := by
  constructor
  · intro E s' hE hconsistent
    refine ⟨Bindings.empty.extend E, (extract_eq_matched_iff hv).mpr ⟨E, hE, rfl, hconsistent⟩,
      fun slot => ?_⟩
    -- The slots of the pattern are those of the captures, in order.
    rw [Bindings.get?_extend_empty, ← hE.map_fst hp, List.lookup_isSome_iff]
    simp
  · intro hrefused
    rcases accepts_or_misfits p hp v .empty s with ⟨E, s', hE⟩ | hmisfit
    · refine Or.inr ⟨E, s', hE, ?_⟩
      -- Consistent captures would make the extraction succeed.
      by_contra hagree
      refine hrefused (Bindings.empty.extend E) ?_
      rw [(extract_eq_matched_iff hv).mpr ⟨E, hE, rfl, fun c hc d hd hslot => ?_⟩]
      by_contra hne
      exact hagree ⟨c, hc, d, hd, hslot, Bool.eq_false_iff.mpr hne⟩
    · exact Or.inl hmisfit

-- A conjunction whose second member counts the calls of its test.
theorem extract_complete_of_pair :
    ∃ B, (all [cons (capture ⟨⟨1⟩, "x"⟩) (capture ⟨⟨2⟩, "rest"⟩),
          seq .list [predicate ⟨"count", fun _ n => (.ok true, n + 1)⟩, capture ⟨⟨1⟩, "x"⟩]]).extract
          .propagate (.seq .list [.int 7, .int 7]) 0 = (.ok (.matched B), 1) ∧
        ∀ slot, (B.get? slot).isSome = true ↔
          slot ∈ [⟨⟨1⟩, "x"⟩, ⟨⟨2⟩, "rest"⟩, ⟨⟨1⟩, "x"⟩] := by
  have hcons : Accepts .propagate (cons (capture ⟨⟨1⟩, "x"⟩) (capture ⟨⟨2⟩, "rest"⟩))
      (.seq .list [.int 7, .int 7]) .empty 0
      [(⟨⟨1⟩, "x"⟩, .int 7), (⟨⟨2⟩, "rest"⟩, .seq .list [.int 7])] 0 :=
    .cons rfl (.cons .capture (.cons .capture .nil))
  have hseq : Accepts .propagate
      (seq .list [predicate ⟨"count", fun _ n => (.ok true, n + 1)⟩, capture ⟨⟨1⟩, "x"⟩])
      (.seq .list [.int 7, .int 7]) .empty 0 [(⟨⟨1⟩, "x"⟩, .int 7)] 1 :=
    .seq rfl rfl (.cons (.predicate rfl) (.cons .capture .nil))
  exact (extract_complete .propagate _ rfl (.seq .list _ (by simp [Value.Built.int])) 0).1
    _ 1 (.all (.cons hcons (.cons hseq .nil))) (by decide)

end Pattern

end ShapeMatch
