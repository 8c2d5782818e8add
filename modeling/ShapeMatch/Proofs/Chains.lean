import ShapeMatch.Proofs.Policies

/-!
# Chains

Sequences matched one item at a time.

A chain takes the first item off a sequence, makes a sequence of the others,
and goes on with that. At its end stands a pattern for what is left. If this
asks for a sequence, the chain comes to the same as the sequence of all the
patterns. They do not get there in the same way: one compares the kind and the
number of items before it looks at any of them, the other finds out only when it
has come to the end. In between it has matched items and called tests. So it
does not refuse where the other one does if an error has ended it before, and
for this reason no test may end a match here.

The induction is on the chain, and it needs any value, any bindings and any
state to start from, since all three have changed when the others are reached.

## Main definitions

* `Pattern.chain`: Patterns for the first items and one for what is left.
* `Pattern.SucceedInTurn`: Patterns match items, with the bindings passed along.

## Theorems

* `matcher_cons_eq`, `matcher_seq_eq`: One item is matched, and then the others.
* `chain_seq_agrees`: A chain that ends with a sequence is a sequence.
* `matcher_cons_iff`, `chain_accepts_iff`: When one pattern and a tail accept, and
  when a chain does.
* `matcher_chain`: Both together.
-/

namespace ShapeMatch

variable {σ : Type}

theorem Attempt.andThen_answer (a : Attempt σ) : a.andThen (Step.answer true) = a := by
  rcases a with ⟨_ | _ | _, b, s⟩
  · rfl
  · rfl
  · rfl

namespace Pattern

/-- Patterns for the first items of a sequence, and one for what is left. -/
def chain (ps : List (Pattern σ)) (tail : Pattern σ) : Pattern σ := ps.foldr cons tail

theorem chain_cons (p : Pattern σ) (ps : List (Pattern σ)) (tail : Pattern σ) :
    chain (p :: ps) tail = cons p (chain ps tail) := rfl

/-- The patterns match the items one after another, and the bindings and the state
    are passed along. -/
inductive SucceedInTurn (policy : ErrorPolicy) :
    List (Pattern σ) → List Value → Bindings → σ → Bindings → σ → Prop
  | nil {b : Bindings} {s : σ} : SucceedInTurn policy [] [] b s b s
  | cons {p : Pattern σ} {v : Value} {ps : List (Pattern σ)} {vs : List Value}
      {b b₁ b' : Bindings} {s s₁ s' : σ} (hfirst : p.matcher policy v b s = ⟨.ok true, b₁, s₁⟩)
      (hrest : SucceedInTurn policy ps vs b₁ s₁ b' s') :
      SucceedInTurn policy (p :: ps) (v :: vs) b s b' s'

variable {policy : ErrorPolicy} {v first : Value} {rest : List Value} {kind : SeqKind}

section Items

theorem matcher_cons_eq (hview : v.asSequence? = some (kind, first :: rest))
    (head tail : Pattern σ) (b : Bindings) (s : σ) :
    (cons head tail).matcher policy v b s =
      (head.matcher policy first b s).andThen (tail.matcher policy (.ofSequence kind rest)) := by
  have htail : Step.inTurn [tail.matcher policy (.ofSequence kind rest)] =
      tail.matcher policy (.ofSequence kind rest) := by
    funext b s
    exact Attempt.andThen_answer _
  rw [matcher_cons, Matcher.cons]
  simp only [hview]
  rw [Step.inTurn_cons, htail]

theorem matcher_cons_refuses (hview : ∀ kind first rest, v.asSequence? ≠ some (kind, first :: rest))
    (head tail : Pattern σ) : (cons head tail).matcher policy v = Step.answer false := by
  rw [matcher_cons]
  unfold Matcher.cons
  split
  · rename_i hsome
    exact absurd hsome (hview _ _ _)
  · rfl

theorem matcher_seq_eq (hview : v.asSequence? = some (kind, first :: rest))
    {items : List (Pattern σ)} (hlength : rest.length = items.length) (p : Pattern σ) (b : Bindings)
    (s : σ) : (seq kind (p :: items)).matcher policy v b s =
      (p.matcher policy first b s).andThen
        ((seq kind items).matcher policy (.ofSequence kind rest)) := by
  rw [matcher_seq, matcher_seq, Matcher.seq, Matcher.seq]
  simp [hview, hlength]
  rfl

theorem matcher_seq_refuses {items : List (Pattern σ)}
    (hview : ∀ parts, v.asSequence? = some (kind, parts) → parts.length ≠ items.length) :
    (seq kind items).matcher policy v = Step.answer false := by
  rw [matcher_seq]
  unfold Matcher.seq
  split
  · rename_i k parts hsome
    split
    · rename_i hfits
      rcases hfits with ⟨rfl, hlength⟩
      exact absurd (hlength.trans (List.length_map _)) (hview parts hsome)
    · rfl
  · rfl

end Items

/-- A chain that ends with a sequence comes to the same as the sequence of all,
    unless an error ends it before it has come to the end. -/
theorem chain_seq_agrees (kind : SeqKind) (qs ps : List (Pattern σ)) :
    ∀ (v : Value) (b : Bindings) (s : σ),
      (∀ e, ((chain ps (seq kind qs)).matcher policy v b s).verdict ≠ .error e) →
      ((chain ps (seq kind qs)).matcher policy v b s).verdict =
          ((seq kind (ps ++ qs)).matcher policy v b s).verdict ∧
        (((chain ps (seq kind qs)).matcher policy v b s).verdict = .ok true →
          (chain ps (seq kind qs)).matcher policy v b s =
            (seq kind (ps ++ qs)).matcher policy v b s) := by
  induction ps with
  | nil => exact fun _ _ _ _ => ⟨rfl, fun _ => rfl⟩
  | cons p ps ih =>
      intro v b s herror
      rw [chain_cons, List.cons_append] at *
      by_cases hview : ∃ k first rest, v.asSequence? = some (k, first :: rest)
      · rcases hview with ⟨k, first, rest, hview⟩
        rw [matcher_cons_eq hview] at herror ⊢
        by_cases hfits : k = kind ∧ rest.length = (ps ++ qs).length
        · -- Both match the first item, and then the others.
          rcases hfits with ⟨rfl, hlength⟩
          rw [matcher_seq_eq hview hlength]
          generalize p.matcher policy first b s = a at herror ⊢
          rcases a with ⟨_ | _ | _, b₁, s₁⟩
          · exact ⟨rfl, fun _ => rfl⟩
          · exact ⟨rfl, fun _ => rfl⟩
          · exact ih _ b₁ s₁ herror
        · -- The sequence refuses at once, and the chain at its end or before.
          have hseq : (seq kind (p :: (ps ++ qs))).matcher policy v = Step.answer false := by
            refine matcher_seq_refuses fun parts hparts hlength => hfits ?_
            rw [hview, Option.some.injEq, Prod.mk.injEq] at hparts
            rcases hparts with ⟨rfl, rfl⟩
            exact ⟨rfl, Nat.succ.inj hlength⟩
          have hrest : (seq kind (ps ++ qs)).matcher policy (.ofSequence k rest) =
              Step.answer false := by
            refine matcher_seq_refuses fun parts hparts hlength => hfits ?_
            rw [Value.asSequence?_ofSequence, Option.some.injEq, Prod.mk.injEq] at hparts
            rcases hparts with ⟨rfl, rfl⟩
            exact ⟨rfl, hlength⟩
          rw [hseq]
          generalize p.matcher policy first b s = a at herror ⊢
          rcases a with ⟨e | _ | _, b₁, s₁⟩
          · exact absurd rfl (herror e)
          · exact ⟨rfl, nofun⟩
          · have hchain := (ih (.ofSequence k rest) b₁ s₁ herror).1
            rw [hrest] at hchain
            exact ⟨hchain, fun htrue => nomatch hchain.symm.trans htrue⟩
      · -- No first item, or no sequence at all.
        have hseq : (seq kind (p :: (ps ++ qs))).matcher policy v = Step.answer false := by
          refine matcher_seq_refuses fun parts hparts hlength => ?_
          cases parts with
          | nil => exact nomatch hlength
          | cons first rest => exact hview ⟨kind, first, rest, hparts⟩
        have hcons : (cons p (chain ps (seq kind qs))).matcher policy v = Step.answer false :=
          matcher_cons_refuses (fun k first rest h => hview ⟨k, first, rest, h⟩) _ _
        rw [hseq, hcons]
        exact ⟨rfl, fun _ => rfl⟩

theorem matcher_cons_iff {head tail : Pattern σ} {b b' : Bindings} {s s' : σ} :
    (cons head tail).matcher policy v b s = ⟨.ok true, b', s'⟩ ↔
      ∃ kind first rest b₁ s₁, v.asSequence? = some (kind, first :: rest) ∧
        head.matcher policy first b s = ⟨.ok true, b₁, s₁⟩ ∧
        tail.matcher policy (.ofSequence kind rest) b₁ s₁ = ⟨.ok true, b', s'⟩ := by
  constructor
  · intro h
    by_cases hview : ∃ kind first rest, v.asSequence? = some (kind, first :: rest)
    · rcases hview with ⟨kind, first, rest, hview⟩
      rw [matcher_cons_eq hview] at h
      refine ⟨kind, first, rest, ?_⟩
      generalize head.matcher policy first b s = a at h ⊢
      rcases a with ⟨_ | _ | _, b₁, s₁⟩
      · exact nomatch h
      · exact nomatch h
      · exact ⟨b₁, s₁, hview, rfl, h⟩
    · rw [matcher_cons_refuses fun kind first rest h => hview ⟨kind, first, rest, h⟩] at h
      exact nomatch h
  · intro h
    rcases h with ⟨kind, first, rest, b₁, s₁, hview, hhead, htail⟩
    rw [matcher_cons_eq hview, hhead]
    exact htail

-- On a sequence, also a chain without patterns takes off the items that it has
-- patterns for.
theorem chain_ofSequence_iff (kind : SeqKind) (tail : Pattern σ) (ps : List (Pattern σ)) :
    ∀ {items : List Value} {b b' : Bindings} {s s' : σ},
      (chain ps tail).matcher policy (.ofSequence kind items) b s = ⟨.ok true, b', s'⟩ ↔
        ∃ firsts rest b₁ s₁, items = firsts ++ rest ∧ SucceedInTurn policy ps firsts b s b₁ s₁ ∧
          tail.matcher policy (.ofSequence kind rest) b₁ s₁ = ⟨.ok true, b', s'⟩ := by
  induction ps with
  | nil =>
      intro items b b' s s'
      constructor
      · exact fun h => ⟨[], items, b, s, rfl, .nil, h⟩
      · intro h
        rcases h with ⟨firsts, rest, b₁, s₁, rfl, hfirsts, htail⟩
        cases hfirsts with
        | nil => exact htail
  | cons p ps ih =>
      intro items b b' s s'
      rw [chain_cons, matcher_cons_iff]
      constructor
      · intro h
        rcases h with ⟨k, first, others, b₁, s₁, hview, hfirst, hothers⟩
        rw [Value.asSequence?_ofSequence, Option.some.injEq, Prod.mk.injEq] at hview
        rcases hview with ⟨rfl, rfl⟩
        rcases ih.mp hothers with ⟨firsts, rest, b₂, s₂, rfl, hfirsts, htail⟩
        exact ⟨first :: firsts, rest, b₂, s₂, rfl, .cons hfirst hfirsts, htail⟩
      · intro h
        rcases h with ⟨_, rest, b₂, s₂, rfl, hfirsts, htail⟩
        cases hfirsts with
        | @cons _ first _ firsts _ b₁ _ _ s₁ _ hfirst hrest =>
            exact ⟨kind, first, firsts ++ rest, b₁, s₁, rfl, hfirst,
              ih.mpr ⟨firsts, rest, b₂, s₂, rfl, hrest, htail⟩⟩

/-- A chain accepts iff its patterns match the first items of a sequence, and the
    last pattern matches what is left. -/
theorem chain_accepts_iff {ps : List (Pattern σ)} (hne : ps ≠ []) (tail : Pattern σ)
    {b b' : Bindings} {s s' : σ} :
    (chain ps tail).matcher policy v b s = ⟨.ok true, b', s'⟩ ↔
      ∃ kind firsts rest b₁ s₁, v.asSequence? = some (kind, firsts ++ rest) ∧
        SucceedInTurn policy ps firsts b s b₁ s₁ ∧
        tail.matcher policy (.ofSequence kind rest) b₁ s₁ = ⟨.ok true, b', s'⟩ := by
  cases hview : v.asSequence? with
  | none =>
      -- Already the first pattern refuses, and there is one.
      cases ps with
      | nil => exact absurd rfl hne
      | cons p ps =>
          rw [chain_cons, matcher_cons_refuses fun kind first rest h => nomatch hview.symm.trans h]
          simp [Step.answer]
  | some view =>
      rcases view with ⟨kind, items⟩
      rw [Value.eq_ofSequence hview, chain_ofSequence_iff]
      simp only [Option.some.injEq, Prod.mk.injEq]
      constructor
      · intro h
        rcases h with ⟨firsts, rest, b₁, s₁, hitems, hrest⟩
        exact ⟨kind, firsts, rest, b₁, s₁, ⟨rfl, hitems⟩, hrest⟩
      · intro h
        rcases h with ⟨k, firsts, rest, b₁, s₁, ⟨rfl, hitems⟩, hrest⟩
        exact ⟨firsts, rest, b₁, s₁, hitems, hrest⟩

/-- Chains agree with sequences. A chain that ends with a sequence comes to the same
    as the sequence of all its patterns, with the same bindings, if no error ends
    the match. And any chain accepts iff its patterns match the first items in
    turn, and the last pattern matches the sequence of the others from there. -/
theorem matcher_chain (policy : ErrorPolicy) (ps : List (Pattern σ)) (v : Value) (b : Bindings)
    (s : σ) :
    (∀ kind qs, (policy = .fail ∨ ∀ c ∈ (chain ps (seq kind qs)).callsFrom policy v b s,
        ∃ accepted, c.answer = .ok accepted) →
      ((chain ps (seq kind qs)).matcher policy v b s).verdict =
          ((seq kind (ps ++ qs)).matcher policy v b s).verdict ∧
        (((chain ps (seq kind qs)).matcher policy v b s).verdict = .ok true →
          ((chain ps (seq kind qs)).matcher policy v b s).bindings =
            ((seq kind (ps ++ qs)).matcher policy v b s).bindings)) ∧
    (ps ≠ [] → ∀ tail b' s',
      (chain ps tail).matcher policy v b s = ⟨.ok true, b', s'⟩ ↔
        ∃ kind firsts rest b₁ s₁, v.asSequence? = some (kind, firsts ++ rest) ∧
          SucceedInTurn policy ps firsts b s b₁ s₁ ∧
          tail.matcher policy (.ofSequence kind rest) b₁ s₁ = ⟨.ok true, b', s'⟩) := by
  refine ⟨fun kind qs hanswered => ?_, fun hne tail b' s' => chain_accepts_iff hne tail⟩
  have hverdict : ∃ accepted,
      ((chain ps (seq kind qs)).matcher policy v b s).verdict = .ok accepted := by
    cases policy with
    | fail => exact matcher_fail_answers _ v s b
    | propagate =>
        rcases hanswered with hpolicy | hanswered
        · exact nomatch hpolicy
        · exact matcher_propagate_answers _ v s b hanswered
  rcases hverdict with ⟨accepted, haccepted⟩
  have hagrees := chain_seq_agrees kind qs ps v b s fun e he => nomatch haccepted.symm.trans he
  exact ⟨hagrees.1, fun htrue => congrArg Attempt.bindings (hagrees.2 htrue)⟩

-- A slot that is bound before, an alternative that refuses, and what is left.
theorem matcher_chain_of_pair :
    ((chain [capture ⟨⟨1⟩, "x"⟩, any [typeMatch .str, capture ⟨⟨1⟩, "y"⟩]]
          (seq .list [capture ⟨⟨1⟩, "x"⟩])).matcher .fail
        (.seq .list [.int 1, .int 2, .float ⟨0x3ff0000000000000⟩])
        ⟨⟨[(⟨⟨1⟩, "x"⟩, .int 1)]⟩⟩ ()).verdict =
      ((seq .list [capture ⟨⟨1⟩, "x"⟩, any [typeMatch .str, capture ⟨⟨1⟩, "y"⟩],
          capture ⟨⟨1⟩, "x"⟩]).matcher .fail
        (.seq .list [.int 1, .int 2, .float ⟨0x3ff0000000000000⟩])
        ⟨⟨[(⟨⟨1⟩, "x"⟩, .int 1)]⟩⟩ ()).verdict ∧
    (chain [capture ⟨⟨1⟩, "x"⟩, any [typeMatch .str, capture ⟨⟨1⟩, "y"⟩]]
          (capture ⟨⟨1⟩, "rest"⟩)).matcher .fail
        (.seq .list [.int 1, .int 2, .float ⟨0x3ff0000000000000⟩])
        ⟨⟨[(⟨⟨1⟩, "x"⟩, .int 1)]⟩⟩ () =
      ⟨.ok true, ⟨⟨[(⟨⟨1⟩, "x"⟩, .int 1), (⟨⟨1⟩, "y"⟩, .int 2),
        (⟨⟨1⟩, "rest"⟩, .seq .list [.float ⟨0x3ff0000000000000⟩])]⟩⟩, ()⟩ := by
  have hchain := matcher_chain .fail
    [capture ⟨⟨1⟩, "x"⟩, any [typeMatch .str, capture ⟨⟨1⟩, "y"⟩]]
    (.seq .list [.int 1, .int 2, .float ⟨0x3ff0000000000000⟩]) ⟨⟨[(⟨⟨1⟩, "x"⟩, .int 1)]⟩⟩ ()
  exact ⟨(hchain.1 .list [capture ⟨⟨1⟩, "x"⟩] (.inl rfl)).1,
    (hchain.2 (List.cons_ne_nil _ _) (capture ⟨⟨1⟩, "rest"⟩) _ _).mpr
      ⟨.list, [.int 1, .int 2], [.float ⟨0x3ff0000000000000⟩], _, (), rfl,
        .cons rfl (.cons rfl .nil), rfl⟩⟩

end Pattern

end ShapeMatch
