import ShapeMatch.Proofs.DeepEquality
import ShapeMatch.Proofs.Extraction

/-!
# Bare Values

What a value that is used as a pattern matches.

The pattern of a bare value is made by one recursion and then matched by
another one, which walks along two sequences and compares their kinds and
lengths on the way. `standsFor` says what both amount to: a type stands for the
values of its subtypes, a sequence for the sequences that its items stand for,
and everything else for what it equals. There the recursion ends, so types
inside a map or a record stand for nothing but themselves.

Deep equality goes down sequences in the same way. So a value in which no type
is exposed to the recursion stands for what it equals, and its pattern is as good
as the literal.

None of this records anything or runs a test, so the pattern of a bare value is
an answer, and the steps for the items of a sequence are answers in turn.

## Main definitions

* `Value.standsFor`: What a bare value stands for.
* `Value.Exposed`: A value behind nothing but sequences.

## Theorems

* `standsFor_seq_iff`: A sequence stands for sequences, item by item.
* `Built.standsFor_eq_deepEqual`: Without exposed types this is deep equality.
* `Built.matcher_ofValue`: The pattern of a bare value is an answer.
* `Pattern.extract_ofValue`: What the pattern of a bare value matches.
-/

namespace ShapeMatch

namespace Value

mutual

/-- Whether a bare value stands for the other one. -/
def standsFor : Value → Value → Bool
  | type tag, w => w.typeOf.isSubtypeOf tag
  | seq kind vs, seq kind' ws => kind == kind' && eachStandsFor vs ws
  | seq _ _, _ => false
  | v, w => v.deepEqual w
termination_by structural v => v

/-- Whether there are as many bare values as others, and each stands for its own. -/
def eachStandsFor : List Value → List Value → Bool
  | [], [] => true
  | v :: vs, w :: ws => standsFor v w && eachStandsFor vs ws
  | _, _ => false
termination_by structural vs => vs

end

/-- The first value is the second one, or stands in it behind nothing but
    sequences. -/
inductive Exposed (u : Value) : Value → Prop
  | self : Exposed u u
  | item {kind : SeqKind} {items : List Value} {v : Value} (hmem : v ∈ items)
      (h : Exposed u v) : Exposed u (seq kind items)

theorem eachStandsFor_iff (vs : List Value) :
    ∀ ws : List Value,
      eachStandsFor vs ws = true ↔ List.Forall₂ (fun v w => v.standsFor w = true) vs ws := by
  induction vs with
  | nil =>
      intro ws
      cases ws with
      | nil => exact iff_of_true rfl .nil
      | cons w ws => exact iff_of_false Bool.false_ne_true (fun h => nomatch h)
  | cons v vs ih =>
      intro ws
      cases ws with
      | nil => exact iff_of_false Bool.false_ne_true (fun h => nomatch h)
      | cons w ws => rw [eachStandsFor, Bool.and_eq_true, List.forall₂_cons, ih ws]

/-- A sequence stands for the sequences of its kind and length that its items stand
    for. -/
theorem standsFor_seq_iff {kind : SeqKind} {vs : List Value} {w : Value} :
    (seq kind vs).standsFor w = true ↔
      ∃ ws, w = seq kind ws ∧ List.Forall₂ (fun v w => v.standsFor w = true) vs ws := by
  cases w with
  | seq kind' ws =>
      rw [standsFor, Bool.and_eq_true, beq_iff_eq, eachStandsFor_iff]
      constructor
      · intro h
        exact ⟨ws, by rw [h.1], h.2⟩
      · intro h
        rcases h with ⟨_, heq, hitems⟩
        rw [seq.injEq] at heq
        exact ⟨heq.1.symm, heq.2 ▸ hitems⟩
  | _ => simp [standsFor]

theorem eachStandsFor_eq_itemsEqual {vs : List Value}
    (h : ∀ v ∈ vs, ∀ w, v.standsFor w = v.deepEqual w) :
    ∀ ws : List Value, eachStandsFor vs ws = itemsEqual vs ws := by
  induction vs with
  | nil =>
      intro ws
      cases ws <;> rfl
  | cons v vs ih =>
      rw [List.forall_mem_cons] at h
      intro ws
      cases ws with
      | nil => rfl
      | cons w ws => rw [eachStandsFor, itemsEqual, h.1 w, ih h.2 ws]

theorem deepEqual_comm {v w : Value} (hv : v.Built) (hw : w.Built) :
    v.deepEqual w = w.deepEqual v :=
  Bool.eq_iff_iff.mpr ⟨equivalenceOn_alike.symm hv hw, equivalenceOn_alike.symm hw hv⟩

/-- A value without exposed types stands for what it equals. -/
theorem Built.standsFor_eq_deepEqual {v : Value} (hv : v.Built)
    (h : ∀ tag : TypeTag, ¬Exposed (Value.type tag) v) (w : Value) : v.standsFor w = v.deepEqual w := by
  induction hv generalizing w with
  | seq kind items _ ih =>
      have hitems : ∀ v ∈ items, ∀ w, v.standsFor w = v.deepEqual w :=
        fun v hv w => ih v hv (fun tag htag => h tag (.item hv htag)) w
      cases w with
      | seq kind' ws => rw [standsFor, deepEqual_seq, eachStandsFor_eq_itemsEqual hitems]
      | _ => rfl
  | type tag => exact absurd .self (h tag)
  | _ => rfl

end Value

variable {σ : Type}

-- An answer and other steps that amount to one are an answer.
theorem Step.inTurn_answer_cons {accepted others : Bool} {rest : List (Step σ)}
    (h : inTurn rest = answer others) :
    inTurn (answer accepted :: rest) = answer (accepted && others) := by
  funext b s
  rw [inTurn_cons, h]
  cases accepted with
  | true => rfl
  | false => rfl

section Answers

variable {policy : ErrorPolicy}

open Pattern

-- The items of a sequence are looked at in turn.
theorem inTurn_zipWith_ofValue {vs : List Value} (h : ∀ v ∈ vs, ∀ {w : Value}, w.Built →
      (ofValue v : Pattern σ).matcher policy w = .answer (v.standsFor w)) :
    ∀ {ws : List Value}, (∀ w ∈ ws, w.Built) → ws.length = vs.length →
      Step.inTurn (List.zipWith (fun m w => m w)
          ((vs.map ofValue).map fun p : Pattern σ => p.matcher policy) ws) =
        .answer (Value.eachStandsFor vs ws) := by
  induction vs with
  | nil =>
      intro ws _ hlength
      rw [List.length_eq_zero_iff.mp hlength]
      rfl
  | cons v vs ih =>
      rw [List.forall_mem_cons] at h
      intro ws hws hlength
      cases ws with
      | nil => exact nomatch hlength
      | cons w ws =>
          rw [List.forall_mem_cons] at hws
          rw [List.map_cons, List.map_cons, List.zipWith_cons_cons, h.1 hws.1,
            Value.eachStandsFor]
          exact Step.inTurn_answer_cons (ih h.2 hws.2 (Nat.succ.inj hlength))

/-- The pattern of a bare value accepts the values that it stands for, and does
    nothing else. -/
theorem Value.Built.matcher_ofValue {v : Value} (hv : v.Built) {w : Value} (hw : w.Built) :
    (ofValue v : Pattern σ).matcher policy w = .answer (v.standsFor w) := by
  induction hv generalizing w with
  | seq kind vs _ ih =>
      rw [ofValue_seq, matcher_seq]
      cases w with
      | seq kind' ws =>
          rw [Matcher.seq]
          simp only [asSequence?]
          by_cases hfits : kind' = kind ∧ ws.length = vs.length
          · rw [if_pos (by simpa using hfits), inTurn_zipWith_ofValue ih hw.item hfits.2, standsFor,
              hfits.1, beq_self_eq_true, Bool.true_and]
          · -- What stands for a sequence has its kind and its length.
            have hrefused : standsFor (.seq kind vs) (.seq kind' ws) = false := by
              rw [Bool.eq_false_iff, ne_eq, standsFor_seq_iff]
              intro h
              rcases h with ⟨_, heq, hitems⟩
              rw [Value.seq.injEq] at heq
              exact hfits ⟨heq.1, heq.2 ▸ hitems.length_eq.symm⟩
            rw [if_neg (by simpa using hfits), hrefused]
      | _ => rfl
  | type tag => rfl
  | _ => exact congrArg Step.answer (deepEqual_comm hw (by constructor <;> assumption))

end Answers

namespace Pattern

/-- The pattern of a bare value never fails, records nothing and runs no test. It
    accepts the values that the bare value stands for. If no type is exposed in
    it, these are the values that the literal accepts. -/
theorem extract_ofValue (policy : ErrorPolicy) {v w : Value} (hv : v.Built) (hw : w.Built)
    (s : σ) :
    (ofValue v).extract policy w s =
      (.ok (if v.standsFor w then .matched .empty else .noMatch), s) ∧
    ((∀ tag, ¬Value.Exposed (.type tag) v) →
      (ofValue v).extract policy w s = (literal v).extract policy w s) := by
  have hmatcher : (ofValue v : Pattern σ).matcher policy w = .answer (v.standsFor w) :=
    hv.matcher_ofValue hw
  constructor
  · rw [extract, hmatcher, Step.answer]
    cases v.standsFor w with
    | true => rfl
    | false => rfl
  · intro hexposed
    have hliteral : (literal v : Pattern σ).matcher policy w = .answer (w.deepEqual v) := rfl
    rw [extract, extract, hmatcher, hliteral, hv.standsFor_eq_deepEqual hexposed,
      Value.deepEqual_comm hv hw]

-- A type on its own, and one under the key of a map.
theorem extract_ofValue_of_nested :
    (ofValue (.seq .list [.type .int, .seq .tuple [.int 1]])).extract .propagate
        (.seq .list [.bool true, .seq .tuple [.float ⟨0x3ff0000000000000⟩]]) () =
      (.ok (.matched .empty), ()) ∧
    (ofValue (.seq .list [.map (.ofList [(.type .int, .type .int)])])).extract .propagate
        (.seq .list [.map (.ofList [(.type .int, .int 1)])]) () =
      (literal (.seq .list [.map (.ofList [(.type .int, .type .int)])])).extract .propagate
        (.seq .list [.map (.ofList [(.type .int, .int 1)])]) () := by
  have hpair : (Value.seq .list [.type .int, .seq .tuple [.int 1]]).Built :=
    .seq .list _ (List.forall_mem_cons.mpr ⟨.type .int,
      List.forall_mem_singleton.mpr (.seq .tuple _ (List.forall_mem_singleton.mpr (.int 1)))⟩)
  have hitems : (Value.seq .list
      [.bool true, .seq .tuple [.float ⟨0x3ff0000000000000⟩]]).Built :=
    .seq .list _ (List.forall_mem_cons.mpr ⟨.bool true,
      List.forall_mem_singleton.mpr (.seq .tuple _ (List.forall_mem_singleton.mpr (.float _)))⟩)
  have hmap : ∀ v : Value, v.Built →
      (Value.seq .list [.map (.ofList [(.type .int, v)])]).Built := fun v hv =>
    .seq .list _ (List.forall_mem_singleton.mpr (.map _
      (List.forall_mem_singleton.mpr (.type .int)) (List.forall_mem_singleton.mpr hv)))
  refine ⟨(extract_ofValue .propagate hpair hitems ()).1.trans rfl,
    (extract_ofValue .propagate (hmap _ (.type .int)) (hmap _ (.int 1)) ()).2 fun tag h => ?_⟩
  cases h with
  | item hmem h => cases List.mem_singleton.mp hmem ▸ h

end Pattern

end ShapeMatch
