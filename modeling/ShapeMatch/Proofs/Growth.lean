import ShapeMatch.Proofs.Flattening

/-!
# What a Match Adds

A match that succeeds has only added to the bindings that it was given.

Nothing ever removes a binding, and a slot that is bound keeps its value, so all
that a step can do is to extend the bindings by captures. `Step.Adds` says of
which kind these captures are, and says nothing of a step that does not accept.
This is what makes it so easy to keep: steps in turn add one after another, and
an alternative adds what it adds alone. Only a merge needs a word. The bindings
of a branch are merged as a whole, with those that the branch has started from,
and these are bound already, so that what is new comes from the branch.

The captures of a pattern have the slots that occur in it, and their values are
parts of the matched value. `Value.Reaches` lists the ways in which a match goes
from a value to a part. It finds an item, the value of an entry or a field, or
the sequence of all items but the first, which is a part of no list but is made
for the tail of a `cons`.

The bindings that a refused match leaves behind may hold captures that count for
nothing. Conjunctions and disjunctions work on copies, and leave none.

## Main definitions

* `Value.Reaches`: A value is a part of another one, as matches go.
* `Step.Adds`: What an accepting step adds is of some kind.

## Theorems

* `eq_extend_of_absorb?`: A merge extends the bindings by all that is merged.
* `adds_inTurn`, `adds_allOf`, `adds_anyOf`: Combined steps add what their parts
  add.
* `related_captures`: Matchers of all kinds add captures of parts.
* `isolated_allOf`, `isolated_anyOf`: Conjunctions and disjunctions leave nothing
  behind.
* `matcher_extends`: All of it, for patterns.
-/

namespace ShapeMatch

/-- The second value is the first one or a part of it that a match can come to. -/
inductive Value.Reaches : Value → Value → Prop
  | self (v : Value) : Reaches v v
  | item {kind : SeqKind} {items : List Value} {v w : Value} (hmem : v ∈ items)
      (h : Reaches v w) : Reaches (seq kind items) w
  | rest {kind : SeqKind} {first : Value} {rest : List Value} {w : Value}
      (h : Reaches (ofSequence kind rest) w) : Reaches (seq kind (first :: rest)) w
  | value {d : Dictionary Value Value} {entry : Value × Value} {w : Value}
      (hmem : entry ∈ d.entries) (h : Reaches entry.2 w) : Reaches (map d) w
  | field {declared : RecordType} {f : Fields Value} {entry : String × Value} {w : Value}
      (hmem : entry ∈ f.entries) (h : Reaches entry.2 w) : Reaches (record declared f) w

theorem Value.Reaches.of_lookup? {v key part w : Value} (hpart : v.lookup? key = some part)
    (h : part.Reaches w) : v.Reaches w := by
  cases v with
  | map d =>
      rcases Dictionary.exists_mem_of_get? hpart with ⟨k, hmem, -⟩
      exact .value hmem h
  | _ => exact nomatch hpart

theorem Value.Reaches.of_field? {v part w : Value} {name : String}
    (hpart : v.field? name = some part) (h : part.Reaches w) : v.Reaches w := by
  cases v with
  | record declared f => exact .field (Fields.mem_of_get? hpart) h
  | _ => exact nomatch hpart

namespace Bindings

theorem eq_keep_of_bind? {b b' : Bindings} {c : Capture} (h : b.bind? c.1 c.2 = some b') :
    b' = b.keep c := by
  cases hget : b.get? c.1 with
  | none =>
      rw [bind?_of_unbound hget, Option.some.injEq] at h
      exact h.symm
  | some w =>
      rw [bind?_of_bound hget, Option.ite_none_right_eq_some, Option.some.injEq] at h
      rw [keep_of_bound (Option.isSome_of_eq_some hget), h.2]

/-- A merge that succeeds extends the bindings by all that is merged, whatever it
    has compared. -/
theorem eq_extend_of_absorb? {merged merged' other : Bindings}
    (h : merged.absorb? other = some merged') : merged' = merged.extend other.entries := by
  unfold absorb? at h
  generalize other.entries = entries at h ⊢
  induction entries generalizing merged with
  | nil => exact (Option.some.inj h).symm
  | cons c rest ih =>
      rw [List.foldlM_cons, Option.bind_eq_bind, Option.bind_eq_some_iff] at h
      rcases h with ⟨b, hb, hrest⟩
      rw [ih hrest, eq_keep_of_bind? hb, extend_cons]

end Bindings

variable {σ : Type} {Q Q' : Capture → Prop}

namespace Step

/-- Where the step accepts, it has added captures of some kind, and nothing else. -/
def Adds (Q : Capture → Prop) (step : Step σ) : Prop :=
  ∀ b c s s', step b s = ⟨.ok true, c, s'⟩ → ∃ E, c = b.extend E ∧ ∀ e ∈ E, Q e

theorem Adds.mono {step : Step σ} (h : Adds Q step) (hQ : ∀ c, Q c → Q' c) : Adds Q' step := by
  intro b c s s' haccepts
  rcases h b c s s' haccepts with ⟨E, hE, hadded⟩
  exact ⟨E, hE, fun e he => hQ e (hadded e he)⟩

theorem adds_answer (accepted : Bool) : Adds Q (answer accepted : Step σ) := by
  intro b c s s' haccepts
  exact ⟨[], (answer_iff.mp haccepts).2.1, fun _ he => absurd he List.not_mem_nil⟩

theorem adds_record {slot : Slot} {v : Value} (h : Q (slot, v)) :
    Adds Q (record slot v : Step σ) := by
  intro b c s s' haccepts
  unfold record at haccepts
  cases hbind : b.bind? slot v with
  | none =>
      rw [hbind] at haccepts
      cases haccepts
  | some bound =>
      rw [hbind] at haccepts
      cases haccepts
      exact ⟨[(slot, v)], Bindings.eq_keep_of_bind? hbind, List.forall_mem_singleton.mpr h⟩

theorem adds_inTurn {steps : List (Step σ)} (h : ∀ step ∈ steps, Adds Q step) :
    Adds Q (inTurn steps) := by
  induction steps with
  | nil => exact adds_answer true
  | cons step rest ih =>
      rw [List.forall_mem_cons] at h
      intro b c s s' haccepts
      rcases inTurn_cons_iff.mp haccepts with ⟨d, s₁, hstep, hrest⟩
      rcases h.1 _ _ _ _ hstep with ⟨E, rfl, hE⟩
      rcases ih h.2 _ _ _ _ hrest with ⟨F, rfl, hF⟩
      exact ⟨E ++ F, (b.extend_append E F).symm, List.forall_mem_append.mpr ⟨hE, hF⟩⟩

/-- What is merged adds to the merged bindings what its branch has added to those
    it started from, since these are in the merged bindings already. -/
theorem adds_mergeFrom {steps : List (Step σ)} (h : ∀ step ∈ steps, Adds Q step)
    {parent : Bindings} : ∀ {E : List Capture} {c : Bindings} {s s' : σ}, (∀ e ∈ E, Q e) →
      mergeFrom parent steps (parent.extend E) s = ⟨.ok true, c, s'⟩ →
      ∃ F, c = parent.extend F ∧ ∀ e ∈ F, Q e := by
  induction steps with
  | nil =>
      intro E c s s' hE haccepts
      exact ⟨E, (congrArg Attempt.bindings haccepts).symm, hE⟩
  | cons step rest ih =>
      rw [List.forall_mem_cons] at h
      intro E c s s' hE haccepts
      rcases mergeFrom_cons_iff.mp haccepts with ⟨d, s₁, merged, hstep, habsorb, hrest⟩
      rcases h.1 _ _ _ _ hstep with ⟨F, rfl, hF⟩
      have hbound : ∀ e ∈ parent.entries, ((parent.extend E).get? e.1).isSome := by
        intro e he
        rcases Option.isSome_iff_exists.mp (Bindings.isSome_get?_of_mem he) with ⟨w, hw⟩
        exact Option.isSome_of_eq_some (Bindings.get?_extend_of_eq_some E hw)
      rw [Bindings.eq_extend_of_absorb? habsorb, Bindings.extend_entries_extend _ parent hbound,
        ← Bindings.extend_append] at hrest
      exact ih h.2 (List.forall_mem_append.mpr ⟨hE, hF⟩) hrest

theorem adds_allOf {steps : List (Step σ)} (h : ∀ step ∈ steps, Adds Q step) :
    Adds Q (allOf steps) :=
  fun _ _ _ _ haccepts => adds_mergeFrom h (fun _ he => absurd he List.not_mem_nil) haccepts

theorem adds_anyOf {steps : List (Step σ)} (h : ∀ step ∈ steps, Adds Q step) :
    Adds Q (anyOf steps) := by
  induction steps with
  | nil => exact adds_answer false
  | cons step rest ih =>
      rw [List.forall_mem_cons] at h
      intro b c s s' haccepts
      rcases anyOf_cons_iff.mp haccepts with hstep | ⟨-, hrest⟩
      · exact h.1 _ _ _ _ hstep
      · -- A refused alternative has added nothing, since the next one starts from `b`.
        exact ih h.2 _ _ _ _ hrest

/-- A conjunction leaves nothing behind unless it accepts. -/
theorem isolated_allOf (steps : List (Step σ)) : (allOf steps).isolated = allOf steps := by
  funext b s
  exact restored_mergeFrom b steps b s

/-- Nor does a disjunction. -/
theorem isolated_anyOf (steps : List (Step σ)) : (anyOf steps).isolated = anyOf steps := by
  rw [← anyOf_singleton, ← anyOf_append, List.append_nil]

theorem bindings_of_isolated {step : Step σ} (h : step.isolated = step) {b : Bindings} {s : σ}
    (hverdict : (step b s).verdict ≠ .ok true) : (step b s).bindings = b := by
  have hrestored : (step b s).restored b = step b s := congrFun (congrFun h b) s
  rw [← hrestored]
  rcases hstep : step b s with ⟨_ | _ | _, c, s'⟩
  · rfl
  · rfl
  · exact absurd (congrArg Attempt.verdict hstep) hverdict

end Step

/-- A capture of one of the slots, of a part of the value. -/
def CapturedFrom (slots : List Slot) (v : Value) (c : Capture) : Prop :=
  c.1 ∈ slots ∧ v.Reaches c.2

theorem CapturedFrom.of_part {slots : List Slot} {v part : Value}
    (hpart : ∀ w, part.Reaches w → v.Reaches w) (c : Capture) (h : CapturedFrom slots part c) :
    CapturedFrom slots v c :=
  ⟨h.1, hpart c.2 h.2⟩

namespace Matcher

/-- Whatever value it meets, the matcher adds captures of parts of it. -/
def Captures (m : Matcher σ) (slots : List Slot) : Prop :=
  ∀ v, Step.Adds (CapturedFrom slots v) (m v)

theorem Captures.mono {m : Matcher σ} {slots slots' : List Slot} (h : m.Captures slots)
    (hsub : slots ⊆ slots') : m.Captures slots' :=
  fun v => (h v).mono fun _ hc => ⟨hsub hc.1, hc.2⟩

-- What each of several matchers captures is captured by all of them together.
theorem captures_flatten {ms : List (Matcher σ)} {lists : List (List Slot)}
    (h : List.Forall₂ Captures ms lists) : ∀ m ∈ ms, m.Captures lists.flatten := by
  induction h with
  | nil => exact fun _ hm => absurd hm List.not_mem_nil
  | cons hfirst _ ih =>
      rw [List.forall_mem_cons, List.flatten_cons]
      exact ⟨hfirst.mono (List.subset_append_left _ _),
        fun m hm => (ih m hm).mono (List.subset_append_right _ _)⟩

theorem captures_flatten_named {ι : Type} {parts : List (ι × Matcher σ)}
    {lists : List (ι × List Slot)}
    (h : List.Forall₂ (fun part list => part.1 = list.1 ∧ part.2.Captures list.2) parts lists) :
    ∀ part ∈ parts, part.2.Captures (lists.map Prod.snd).flatten := by
  have hparts : List.Forall₂ Captures (parts.map Prod.snd) (lists.map Prod.snd) := by
    rw [List.forall₂_map_left_iff, List.forall₂_map_right_iff]
    exact h.imp fun _ _ hpart => hpart.2
  exact fun part hpart => captures_flatten hparts part.2 (List.mem_map_of_mem hpart)

theorem adds_onPart {m : Matcher σ} {slots : List Slot} (h : m.Captures slots) {v : Value}
    {found : Option Value} (hfound : ∀ part ∈ found, ∀ w, part.Reaches w → v.Reaches w) :
    Step.Adds (CapturedFrom slots v) (m.onPart found) := by
  cases found with
  | none => exact Step.adds_answer false
  | some part => exact (h part).mono (CapturedFrom.of_part (hfound part rfl))

/-- Matchers of all kinds capture parts under the slots of their parts. -/
theorem related_captures (policy : ErrorPolicy) :
    (algebra policy : Pattern.Algebra σ (Matcher σ)).Related Captures
      (Pattern.collectAlgebra (fun _ => []) fun slot => [slot]) where
  literal := fun _ _ => Step.adds_answer _
  typeMatch := fun _ _ => Step.adds_answer _
  exactType := fun _ _ => Step.adds_answer _
  seq := by
    intro kind ms lists h v
    change Step.Adds (CapturedFrom lists.flatten v) (seq kind ms v)
    unfold seq
    split
    · rename_i k vs hview
      split
      · refine Step.adds_inTurn fun step hstep => ?_
        rw [← List.map_uncurry_zip_eq_zipWith, List.mem_map] at hstep
        rcases hstep with ⟨⟨m, w⟩, hmem, rfl⟩
        rcases List.of_mem_zip hmem with ⟨hm, hw⟩
        rw [Value.eq_ofSequence hview]
        exact (captures_flatten h m hm w).mono (CapturedFrom.of_part fun _ => .item hw)
      · exact Step.adds_answer false
    · exact Step.adds_answer false
  cons := by
    intro head tail slots slots' hhead htail v
    change Step.Adds (CapturedFrom (slots ++ slots') v) (cons head tail v)
    unfold cons
    split
    · rename_i kind first rest hview
      rw [Value.eq_ofSequence hview]
      refine Step.adds_inTurn (List.forall_mem_cons.mpr ⟨?_, List.forall_mem_singleton.mpr ?_⟩)
      · exact (hhead.mono (List.subset_append_left _ _) first).mono
          (CapturedFrom.of_part fun _ => .item List.mem_cons_self)
      · exact (htail.mono (List.subset_append_right _ _) (.ofSequence kind rest)).mono
          (CapturedFrom.of_part fun _ => .rest)
    · exact Step.adds_answer false
  mapping := by
    intro entries lists h v
    change Step.Adds (CapturedFrom (lists.map Prod.snd).flatten v) (mapping entries v)
    unfold mapping
    split
    · refine Step.adds_inTurn (List.forall_mem_map.mpr fun entry hentry => ?_)
      exact adds_onPart (captures_flatten_named h entry hentry) fun part hpart w =>
        Value.Reaches.of_lookup? hpart
    · exact Step.adds_answer false
  object := by
    intro expected fields lists h v
    change Step.Adds (CapturedFrom (lists.map Prod.snd).flatten v) (object expected fields v)
    unfold object
    split
    · refine Step.adds_inTurn (List.forall_mem_map.mpr fun field hfield => ?_)
      exact adds_onPart (captures_flatten_named h field hfield) fun part hpart w =>
        Value.Reaches.of_field? hpart
    · exact Step.adds_answer false
  all := fun h v =>
    Step.adds_allOf (List.forall_mem_map.mpr fun m hm => captures_flatten h m hm v)
  any := fun h v =>
    Step.adds_anyOf (List.forall_mem_map.mpr fun m hm => captures_flatten h m hm v)
  capture := fun slot v => Step.adds_record ⟨List.mem_singleton_self slot, .self v⟩

-- A test does not touch the bindings.
theorem captures_predicate (policy : ErrorPolicy) (t : Predicate σ) :
    (predicate policy t).Captures [] := by
  intro v b c s s' haccepts
  refine ⟨[], ?_, fun _ he => absurd he List.not_mem_nil⟩
  have hbindings : (predicate policy t v b s).bindings = b := by
    unfold predicate
    rcases t.test v s with ⟨_ | accepted, s₁⟩
    · cases policy with
      | propagate => rfl
      | fail => rfl
    · rfl
  rw [haccepts] at hbindings
  exact hbindings

end Matcher

namespace Pattern

/-- A pattern captures parts of the value under its slots. -/
theorem captures_matcher (policy : ErrorPolicy) (p : Pattern σ) :
    (p.matcher policy).Captures p.slots :=
  fold_related (Matcher.related_captures policy) p fun t _ => Matcher.captures_predicate policy t

/-- Attempts only extend bindings, whatever these are. A match that accepts leaves
    each slot that was bound with the value that it had, and the slots that it has
    bound are those of captures in the pattern, each to a part of the value. A
    conjunction or disjunction that refuses or fails leaves the bindings as they
    were. -/
theorem matcher_extends (policy : ErrorPolicy) (p : Pattern σ) (v : Value) (b : Bindings) (s : σ) :
    ((p.matcher policy v b s).verdict = .ok true →
      (∀ slot w, b.get? slot = some w → (p.matcher policy v b s).bindings.get? slot = some w) ∧
      (∀ slot w, b.get? slot = none → (p.matcher policy v b s).bindings.get? slot = some w →
        slot ∈ p.slots ∧ v.Reaches w)) ∧
    ((∃ parts, p = all parts ∨ p = any parts) →
      (p.matcher policy v b s).verdict ≠ .ok true →
      (p.matcher policy v b s).bindings = b) := by
  constructor
  · intro haccepts
    rcases hattempt : p.matcher policy v b s with ⟨verdict, c, s'⟩
    rw [hattempt] at haccepts
    rw [show verdict = .ok true from haccepts] at hattempt
    rcases captures_matcher policy p v _ _ _ _ hattempt with ⟨E, rfl, hE⟩
    refine ⟨fun slot w => Bindings.get?_extend_of_eq_some E, fun slot w hnew hget => ?_⟩
    -- A slot that was not bound has the first value captured for it.
    change (b.extend E).get? slot = some w at hget
    rw [Bindings.get?_extend, hnew, Option.none_or] at hget
    exact hE (slot, w) (Bindings.mem_of_lookup hget)
  · intro hparts
    rcases hparts with ⟨parts, rfl | rfl⟩
    · rw [matcher_all_apply]
      exact Step.bindings_of_isolated (Step.isolated_allOf _)
    · rw [matcher_any_apply]
      exact Step.bindings_of_isolated (Step.isolated_anyOf _)

-- The first slot is bound to 1 before, and is captured as 1.0. The first
-- alternative captures the second slot as well, but does not come to an end.
theorem matcher_extends_of_bound :
    (⟨⟨[(⟨⟨1⟩, "x"⟩, .int 1)]⟩⟩ : Bindings).get? ⟨⟨1⟩, "x"⟩ = some (.int 1) ∧
    ((any [all [capture ⟨⟨2⟩, "x"⟩, typeMatch .str],
        cons (capture ⟨⟨1⟩, "x"⟩) (capture ⟨⟨2⟩, "x"⟩)]).matcher .propagate
          (.seq .list [.float (.ofInt64 1), .int 2]) ⟨⟨[(⟨⟨1⟩, "x"⟩, .int 1)]⟩⟩ ()).bindings.get?
            ⟨⟨1⟩, "x"⟩ = some (.int 1) ∧
    (⟨⟨2⟩, "x"⟩ ∈ (any [all [capture ⟨⟨2⟩, "x"⟩, typeMatch .str],
        cons (capture ⟨⟨1⟩, "x"⟩) (capture ⟨⟨2⟩, "x"⟩)] : Pattern Unit).slots ∧
      (Value.seq .list [.float (.ofInt64 1), .int 2]).Reaches (.seq .list [.int 2])) ∧
    ((all [capture ⟨⟨2⟩, "x"⟩, typeMatch .str]).matcher .propagate
      (.seq .list [.float (.ofInt64 1), .int 2]) ⟨⟨[(⟨⟨1⟩, "x"⟩, .int 1)]⟩⟩ ()).bindings =
        ⟨⟨[(⟨⟨1⟩, "x"⟩, .int 1)]⟩⟩ := by
  have hextends := fun p : Pattern Unit => matcher_extends .propagate p
    (.seq .list [.float (.ofInt64 1), .int 2]) ⟨⟨[(⟨⟨1⟩, "x"⟩, .int 1)]⟩⟩ ()
  exact ⟨rfl, ((hextends _).1 rfl).1 _ _ rfl, ((hextends _).1 rfl).2 _ _ rfl rfl,
    (hextends _).2 ⟨_, .inl rfl⟩ (by rintro ⟨⟩)⟩

end Pattern

end ShapeMatch
