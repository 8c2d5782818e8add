import ShapeMatch.Step

/-!
# Matching

How a pattern is matched against a value.

Each kind of pattern turns a value into a step of the match. Sequences, maps
and records first look at the value as a whole, and then match their parts in
turn, from left to right. A conjunction gives each member the same bindings to
start from, and a disjunction tries its alternatives in their order.

An error of a predicate either ends the whole match or counts as refusal. The
policy decides which.

## Main definitions

* `ErrorPolicy`: What an error of a predicate does.
* `Matcher`: The step that a value gives rise to.
* `Pattern.matcher`: The meaning of a pattern.
* `MatchResult`: How a match without an error ends.
* `Pattern.extract`: Match a value and return what was recorded.

## Theorems

* `matcher_seq`, `matcher_all` and so on: The meaning of a pattern is made from
  the meanings of its parts.
-/

namespace ShapeMatch

/-- What an error of a predicate does to the match. -/
inductive ErrorPolicy where
  /-- It ends the match. -/
  | propagate
  /-- It counts as refusal. -/
  | fail
  deriving DecidableEq, Inhabited

/-- The step that a value gives rise to. -/
abbrev Matcher (σ : Type) := Value → Step σ

namespace Matcher

variable {σ : Type}

/-- Match a part of a value, if it is there. -/
def onPart (m : Matcher σ) : Option Value → Step σ
  | some part => m part
  | none => .answer false

/-- Match a sequence of that kind and length, item by item. -/
def seq (kind : SeqKind) (items : List (Matcher σ)) : Matcher σ := fun v =>
  match v.asSequence? with
  | some (k, vs) =>
    if k = kind ∧ vs.length = items.length then .inTurn (List.zipWith (fun m v => m v) items vs)
    else .answer false
  | none => .answer false

/-- Match the first item of a sequence, and the sequence of the others. -/
def cons (head tail : Matcher σ) : Matcher σ := fun v =>
  match v.asSequence? with
  | some (kind, first :: rest) => .inTurn [head first, tail (.ofSequence kind rest)]
  | _ => .answer false

/-- Match the values under the listed keys of a map. -/
def mapping (entries : List (Value × Matcher σ)) : Matcher σ := fun v =>
  if v.isMapping then .inTurn (entries.map fun entry => onPart entry.2 (v.lookup? entry.1))
  else .answer false

/-- Match the listed fields of a record of the expected type. -/
def object (expected : Option TypeTag) (fields : List (String × Matcher σ)) : Matcher σ := fun v =>
  if v.isRecord && expected.all (v.typeOf.isSubtypeOf ·) then
    .inTurn (fields.map fun field => onPart field.2 (v.field? field.1))
  else .answer false

/-- All members match the value, each from the same bindings. -/
def all (members : List (Matcher σ)) : Matcher σ := fun v => .allOf (members.map fun m => m v)

/-- The first alternative that matches the value. -/
def any (alternatives : List (Matcher σ)) : Matcher σ := fun v =>
  .anyOf (alternatives.map fun m => m v)

/-- Run the test of a predicate. -/
def predicate (policy : ErrorPolicy) (p : Predicate σ) : Matcher σ := fun v b s =>
  match p.test v s with
  | (.ok accepted, s) => ⟨.ok accepted, b, s⟩
  | (.error e, s) =>
    match policy with
    | .propagate => ⟨.error e, b, s⟩
    | .fail => ⟨.ok false, b, s⟩

/-- The meaning of patterns, kind by kind. -/
def algebra (policy : ErrorPolicy) : Pattern.Algebra σ (Matcher σ) where
  literal expected := fun v => .answer (v.deepEqual expected)
  typeMatch tag := fun v => .answer (v.typeOf.isSubtypeOf tag)
  exactType tag := fun v => .answer (v.typeOf = tag)
  seq := seq
  cons := cons
  mapping := mapping
  object := object
  all := all
  any := any
  predicate := predicate policy
  capture slot := fun v => .record slot v

end Matcher

/-- How a match without an error ends. -/
inductive MatchResult where
  /-- The value matches, and this was recorded. -/
  | matched (bindings : Bindings)
  | noMatch
  deriving Inhabited

namespace MatchResult

/-- Whether the value matches. -/
def isMatch : MatchResult → Bool
  | matched _ => true
  | noMatch => false

/-- The debug text of a result. -/
def debug : MatchResult → String
  | matched bindings => "Match(" ++ bindings.debug ++ ")"
  | noMatch => "NoMatch"

end MatchResult

namespace Pattern

variable {σ : Type}

/-- The meaning of a pattern. -/
def matcher (policy : ErrorPolicy) (p : Pattern σ) : Matcher σ := p.fold (Matcher.algebra policy)

/-- Match a value, starting without bindings. -/
def extract (policy : ErrorPolicy) (p : Pattern σ) (v : Value) (s : σ) :
    Except MatchError MatchResult × σ :=
  let attempt := p.matcher policy v .empty s
  let result :=
    match attempt.verdict with
    | .ok true => .ok (.matched attempt.bindings)
    | .ok false => .ok .noMatch
    | .error e => .error e
  (result, attempt.state)

variable (policy : ErrorPolicy)

theorem matcher_seq (kind : SeqKind) (items : List (Pattern σ)) :
    (seq kind items).matcher policy = Matcher.seq kind (items.map (matcher policy)) := by
  rw [matcher, fold_seq]
  rfl

theorem matcher_cons (head tail : Pattern σ) :
    (cons head tail).matcher policy = Matcher.cons (head.matcher policy) (tail.matcher policy) := by
  rw [matcher, fold]
  rfl

theorem matcher_mapping (entries : List (Value × Pattern σ)) :
    (mapping entries).matcher policy =
      Matcher.mapping (entries.map fun entry => (entry.1, entry.2.matcher policy)) := by
  rw [matcher, fold_mapping]
  rfl

theorem matcher_object (expected : Option TypeTag) (fields : List (String × Pattern σ)) :
    (object expected fields).matcher policy =
      Matcher.object expected (fields.map fun field => (field.1, field.2.matcher policy)) := by
  rw [matcher, fold_object]
  rfl

theorem matcher_all (members : List (Pattern σ)) :
    (all members).matcher policy = Matcher.all (members.map (matcher policy)) := by
  rw [matcher, fold_all]
  rfl

theorem matcher_any (alternatives : List (Pattern σ)) :
    (any alternatives).matcher policy = Matcher.any (alternatives.map (matcher policy)) := by
  rw [matcher, fold_any]
  rfl

end Pattern

end ShapeMatch
