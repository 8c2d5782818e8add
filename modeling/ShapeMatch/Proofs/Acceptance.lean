import ShapeMatch.Matching
import ShapeMatch.Proofs.Captures

/-!
# Acceptance

When a pattern accepts a value, told by rules.

There is one rule for each kind of pattern, and a derivation from the rules
lists the captures that it emits, from left to right. Nothing is compared and
nothing is merged: whether the captures agree is a question about the list,
asked afterwards.

Two things in the rules are not about the shape of the value. The predicates
have a state, so a derivation leads from one state to another, in the order in
which the parts are visited. And an alternative counts only if those before it
were refused when they were tried, which depends on what was bound at that
point. So a derivation also carries the bindings that are current at each part:
the ones it started with, extended by the captures emitted since, where a
member of a conjunction starts from those of the conjunction. No rule looks at
the bindings except the one that passes over an alternative.

## Main definitions

* `Pattern.Accepts`: A pattern accepts a value.
* `Pattern.AcceptsInTurn`: Patterns accept the parts of a value in turn.
* `Pattern.AcceptsEach`: Every pattern accepts the value.
* `Pattern.AcceptsFirst`: A pattern accepts after the earlier ones refused.

## Theorems

* `accepts_mapping_iff`, `accepts_all_iff` and so on: What a derivation ends with.
* `Accepts.built`: A built value leads to built captures.
-/

namespace ShapeMatch

namespace Pattern

variable {σ : Type}

mutual

/-- `Accepts policy p v b s E s'` says that `p` accepts `v` where `b` is bound,
    emits the captures `E`, and takes the predicates from `s` to `s'`. -/
inductive Accepts (policy : ErrorPolicy) :
    Pattern σ → Value → Bindings → σ → List Capture → σ → Prop
  | literal {expected v : Value} {b : Bindings} {s : σ} (h : v.deepEqual expected = true) :
      Accepts policy (literal expected) v b s [] s
  | typeMatch {tag : TypeTag} {v : Value} {b : Bindings} {s : σ}
      (h : v.typeOf.isSubtypeOf tag = true) : Accepts policy (typeMatch tag) v b s [] s
  | exactType {tag : TypeTag} {v : Value} {b : Bindings} {s : σ} (h : v.typeOf = tag) :
      Accepts policy (exactType tag) v b s [] s
  | seq {kind : SeqKind} {items : List (Pattern σ)} {v : Value} {parts : List Value}
      {b : Bindings} {s s' : σ} {E : List Capture} (hview : v.asSequence? = some (kind, parts))
      (hlength : parts.length = items.length)
      (h : AcceptsInTurn policy (items.zip (parts.map some)) b s E s') :
      Accepts policy (seq kind items) v b s E s'
  | cons {head tail : Pattern σ} {v : Value} {kind : SeqKind} {first : Value}
      {rest : List Value} {b : Bindings} {s s' : σ} {E : List Capture}
      (hview : v.asSequence? = some (kind, first :: rest))
      (h : AcceptsInTurn policy [(head, some first), (tail, some (.ofSequence kind rest))]
        b s E s') :
      Accepts policy (cons head tail) v b s E s'
  | mapping {entries : List (Value × Pattern σ)} {v : Value} {b : Bindings} {s s' : σ}
      {E : List Capture} (hview : v.isMapping = true)
      (h : AcceptsInTurn policy (entries.map fun entry => (entry.2, v.lookup? entry.1))
        b s E s') :
      Accepts policy (mapping entries) v b s E s'
  | object {expected : Option TypeTag} {fields : List (String × Pattern σ)} {v : Value}
      {b : Bindings} {s s' : σ} {E : List Capture} (hview : v.isRecord = true)
      (htype : ∀ tag ∈ expected, v.typeOf.isSubtypeOf tag = true)
      (h : AcceptsInTurn policy (fields.map fun field => (field.2, v.field? field.1))
        b s E s') :
      Accepts policy (object expected fields) v b s E s'
  | all {members : List (Pattern σ)} {v : Value} {b : Bindings} {s s' : σ} {E : List Capture}
      (h : AcceptsEach policy members v b s E s') : Accepts policy (all members) v b s E s'
  | any {alternatives : List (Pattern σ)} {v : Value} {b : Bindings} {s s' : σ}
      {E : List Capture} (h : AcceptsFirst policy alternatives v b s E s') :
      Accepts policy (any alternatives) v b s E s'
  | predicate {p : Predicate σ} {v : Value} {b : Bindings} {s s' : σ}
      (h : p.test v s = (.ok true, s')) : Accepts policy (predicate p) v b s [] s'
  | capture {slot : Slot} {v : Value} {b : Bindings} {s : σ} :
      Accepts policy (capture slot) v b s [(slot, v)] s

/-- Every pattern accepts its part, which has to be there. What the earlier
    ones emitted is bound for the later ones. -/
inductive AcceptsInTurn (policy : ErrorPolicy) :
    List (Pattern σ × Option Value) → Bindings → σ → List Capture → σ → Prop
  | nil {b : Bindings} {s : σ} : AcceptsInTurn policy [] b s [] s
  | cons {p : Pattern σ} {v : Value} {rest : List (Pattern σ × Option Value)} {b : Bindings}
      {s₁ s₂ s₃ : σ} {E F : List Capture} (hfirst : Accepts policy p v b s₁ E s₂)
      (hrest : AcceptsInTurn policy rest (b.extend E) s₂ F s₃) :
      AcceptsInTurn policy ((p, some v) :: rest) b s₁ (E ++ F) s₃

/-- Every pattern accepts the value, where the same is bound for all. -/
inductive AcceptsEach (policy : ErrorPolicy) :
    List (Pattern σ) → Value → Bindings → σ → List Capture → σ → Prop
  | nil {v : Value} {b : Bindings} {s : σ} : AcceptsEach policy [] v b s [] s
  | cons {p : Pattern σ} {rest : List (Pattern σ)} {v : Value} {b : Bindings} {s₁ s₂ s₃ : σ}
      {E F : List Capture} (hfirst : Accepts policy p v b s₁ E s₂)
      (hrest : AcceptsEach policy rest v b s₂ F s₃) :
      AcceptsEach policy (p :: rest) v b s₁ (E ++ F) s₃

/-- A pattern accepts the value, and all before it refused it when they were
    tried with the current bindings. -/
inductive AcceptsFirst (policy : ErrorPolicy) :
    List (Pattern σ) → Value → Bindings → σ → List Capture → σ → Prop
  | here {p : Pattern σ} {rest : List (Pattern σ)} {v : Value} {b : Bindings} {s s' : σ}
      {E : List Capture} (h : Accepts policy p v b s E s') :
      AcceptsFirst policy (p :: rest) v b s E s'
  | later {p : Pattern σ} {rest : List (Pattern σ)} {v : Value} {b : Bindings} {s s' : σ}
      {E : List Capture} (hrefused : (p.matcher policy v b s).verdict = .ok false)
      (h : AcceptsFirst policy rest v b (p.matcher policy v b s).state E s') :
      AcceptsFirst policy (p :: rest) v b s E s'

end

section Inversion

variable {policy : ErrorPolicy} {v : Value}

theorem accepts_literal_iff {expected : Value} {b : Bindings} {s s' : σ} {E : List Capture} :
    Accepts policy (literal expected) v b s E s' ↔
      v.deepEqual expected = true ∧ E = [] ∧ s' = s := by
  constructor
  · intro h
    cases h with
    | literal h => exact ⟨h, rfl, rfl⟩
  · intro hfits
    rcases hfits with ⟨h, rfl, rfl⟩
    exact .literal h

theorem accepts_typeMatch_iff {tag : TypeTag} {b : Bindings} {s s' : σ} {E : List Capture} :
    Accepts policy (typeMatch tag) v b s E s' ↔
      v.typeOf.isSubtypeOf tag = true ∧ E = [] ∧ s' = s := by
  constructor
  · intro h
    cases h with
    | typeMatch h => exact ⟨h, rfl, rfl⟩
  · intro hfits
    rcases hfits with ⟨h, rfl, rfl⟩
    exact .typeMatch h

theorem accepts_exactType_iff {tag : TypeTag} {b : Bindings} {s s' : σ} {E : List Capture} :
    Accepts policy (exactType tag) v b s E s' ↔ v.typeOf = tag ∧ E = [] ∧ s' = s := by
  constructor
  · intro h
    cases h with
    | exactType h => exact ⟨h, rfl, rfl⟩
  · intro hfits
    rcases hfits with ⟨h, rfl, rfl⟩
    exact .exactType h

theorem accepts_seq_iff {kind : SeqKind} {items : List (Pattern σ)} {b : Bindings} {s s' : σ}
    {E : List Capture} : Accepts policy (seq kind items) v b s E s' ↔
      ∃ parts, (v.asSequence? = some (kind, parts) ∧ parts.length = items.length) ∧
        AcceptsInTurn policy (items.zip (parts.map some)) b s E s' := by
  constructor
  · intro h
    cases h with
    | seq hview hlength h => exact ⟨_, ⟨hview, hlength⟩, h⟩
  · intro hfits
    rcases hfits with ⟨parts, ⟨hview, hlength⟩, h⟩
    exact .seq hview hlength h

theorem accepts_cons_iff {head tail : Pattern σ} {b : Bindings} {s s' : σ} {E : List Capture} :
    Accepts policy (cons head tail) v b s E s' ↔
      ∃ kind first rest, v.asSequence? = some (kind, first :: rest) ∧
        AcceptsInTurn policy [(head, some first), (tail, some (.ofSequence kind rest))] b s E s' := by
  constructor
  · intro h
    cases h with
    | cons hview h => exact ⟨_, _, _, hview, h⟩
  · intro hfits
    rcases hfits with ⟨kind, first, rest, hview, h⟩
    exact .cons hview h

theorem accepts_mapping_iff {entries : List (Value × Pattern σ)} {b : Bindings} {s s' : σ}
    {E : List Capture} : Accepts policy (mapping entries) v b s E s' ↔ v.isMapping = true ∧
      AcceptsInTurn policy (entries.map fun entry => (entry.2, v.lookup? entry.1)) b s E s' := by
  constructor
  · intro h
    cases h with
    | mapping hview h => exact ⟨hview, h⟩
  · exact fun h => .mapping h.1 h.2

theorem accepts_object_iff {expected : Option TypeTag} {fields : List (String × Pattern σ)}
    {b : Bindings} {s s' : σ} {E : List Capture} :
    Accepts policy (object expected fields) v b s E s' ↔
      (v.isRecord = true ∧ ∀ tag ∈ expected, v.typeOf.isSubtypeOf tag = true) ∧
      AcceptsInTurn policy (fields.map fun field => (field.2, v.field? field.1)) b s E s' := by
  constructor
  · intro h
    cases h with
    | object hview htype h => exact ⟨⟨hview, htype⟩, h⟩
  · exact fun h => .object h.1.1 h.1.2 h.2

theorem accepts_all_iff {ps : List (Pattern σ)} {b : Bindings} {s s' : σ} {E : List Capture} :
    Accepts policy (all ps) v b s E s' ↔ AcceptsEach policy ps v b s E s' := by
  constructor
  · intro h
    cases h with
    | all h => exact h
  · exact .all

theorem accepts_any_iff {ps : List (Pattern σ)} {b : Bindings} {s s' : σ} {E : List Capture} :
    Accepts policy (any ps) v b s E s' ↔ AcceptsFirst policy ps v b s E s' := by
  constructor
  · intro h
    cases h with
    | any h => exact h
  · exact .any

end Inversion

/-- All parts that are there are built. -/
def BuiltParts (parts : List (Pattern σ × Option Value)) : Prop :=
  ∀ part ∈ parts, ∀ w ∈ part.2, w.Built

section Parts

variable {v : Value}

theorem builtParts_seq (hv : v.Built) {kind : SeqKind} {parts : List Value}
    (hview : v.asSequence? = some (kind, parts)) (items : List (Pattern σ)) :
    BuiltParts (items.zip (parts.map some)) := by
  intro part hpart w hw
  rcases List.mem_map.mp (List.of_mem_zip (a := part.1) (b := part.2) hpart).2 with ⟨u, hu, hsome⟩
  rw [← hsome, Option.mem_some_iff] at hw
  exact hw ▸ hv.viewed hview u hu

theorem builtParts_cons (hv : v.Built) {kind : SeqKind} {first : Value} {rest : List Value}
    (hview : v.asSequence? = some (kind, first :: rest)) (head tail : Pattern σ) :
    BuiltParts [(head, some first), (tail, some (.ofSequence kind rest))] := by
  have hitems := hv.viewed hview
  rw [List.forall_mem_cons] at hitems
  simp only [BuiltParts, List.forall_mem_cons, Option.mem_some_iff, forall_eq']
  exact ⟨hitems.1, Value.Built.ofSequence kind hitems.2, fun _ h => absurd h List.not_mem_nil⟩

theorem builtParts_mapping (hv : v.Built) (entries : List (Value × Pattern σ)) :
    BuiltParts (entries.map fun entry => (entry.2, v.lookup? entry.1)) := by
  intro part hpart w hw
  rcases List.mem_map.mp hpart with ⟨entry, -, rfl⟩
  exact hv.found hw

theorem builtParts_object (hv : v.Built) (fields : List (String × Pattern σ)) :
    BuiltParts (fields.map fun field => (field.2, v.field? field.1)) := by
  intro part hpart w hw
  rcases List.mem_map.mp hpart with ⟨field, -, rfl⟩
  exact hv.read hw

theorem BuiltParts.first {p : Pattern σ} {w : Value} {rest : List (Pattern σ × Option Value)}
    (h : BuiltParts ((p, some w) :: rest)) : w.Built :=
  h (p, some w) List.mem_cons_self w rfl

theorem BuiltParts.rest {part : Pattern σ × Option Value} {rest : List (Pattern σ × Option Value)}
    (h : BuiltParts (part :: rest)) : BuiltParts rest :=
  fun other hother => h other (List.mem_cons_of_mem _ hother)

end Parts

section Emitted

variable {policy : ErrorPolicy}

mutual

-- By induction on the derivation, since the parts of a built value are built.
theorem Accepts.built {p : Pattern σ} {v : Value} {b : Bindings} {s s' : σ} {E : List Capture} :
    Accepts policy p v b s E s' → v.Built → ∀ c ∈ E, c.2.Built
  | .literal _, _ => fun _ hc => absurd hc List.not_mem_nil
  | .typeMatch _, _ => fun _ hc => absurd hc List.not_mem_nil
  | .exactType _, _ => fun _ hc => absurd hc List.not_mem_nil
  | .seq hview _ h, hv => h.built (builtParts_seq hv hview _)
  | .cons hview h, hv => h.built (builtParts_cons hv hview _ _)
  | .mapping _ h, hv => h.built (builtParts_mapping hv _)
  | .object _ _ h, hv => h.built (builtParts_object hv _)
  | .all h, hv => h.built hv
  | .any h, hv => h.built hv
  | .predicate _, _ => fun _ hc => absurd hc List.not_mem_nil
  | .capture, hv => List.forall_mem_singleton.mpr hv

theorem AcceptsInTurn.built {parts : List (Pattern σ × Option Value)} {b : Bindings} {s s' : σ}
    {E : List Capture} : AcceptsInTurn policy parts b s E s' → BuiltParts parts →
      ∀ c ∈ E, c.2.Built
  | .nil, _ => fun _ hc => absurd hc List.not_mem_nil
  | .cons hfirst hrest, hparts => List.forall_mem_append.mpr
      ⟨hfirst.built hparts.first, hrest.built hparts.rest⟩

theorem AcceptsEach.built {ps : List (Pattern σ)} {v : Value} {b : Bindings} {s s' : σ}
    {E : List Capture} : AcceptsEach policy ps v b s E s' → v.Built → ∀ c ∈ E, c.2.Built
  | .nil, _ => fun _ hc => absurd hc List.not_mem_nil
  | .cons hfirst hrest, hv => List.forall_mem_append.mpr ⟨hfirst.built hv, hrest.built hv⟩

theorem AcceptsFirst.built {ps : List (Pattern σ)} {v : Value} {b : Bindings} {s s' : σ}
    {E : List Capture} : AcceptsFirst policy ps v b s E s' → v.Built → ∀ c ∈ E, c.2.Built
  | .here h, hv => h.built hv
  | .later _ h, hv => h.built hv

end

end Emitted

end Pattern

end ShapeMatch
