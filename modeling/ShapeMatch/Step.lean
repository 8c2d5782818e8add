import ShapeMatch.Bindings
import ShapeMatch.Pattern

/-!
# Steps of a Match

What happens when a pattern meets a value, and how such steps are combined.

A step starts from the bindings recorded so far and the state of the
predicates. It comes to a verdict, and it passes both on. The verdict is
acceptance, refusal or an error.

There are three ways to combine steps. Steps in turn pass the bindings along
from one to the next and stop at the first that does not accept; what was
recorded until then is left as it is. Steps that all have to accept each start
from the same bindings, and what they recorded is merged afterwards, in their
order. Of alternative steps the first that accepts decides. The last two never
leave anything recorded unless they accept.

The state of the predicates is passed along in all three, whatever the
verdicts, since a test that has been run has been run.

## Main definitions

* `Attempt`: How a step ends.
* `Step`: A step of a match.
* `Step.inTurn`: Steps that pass the bindings along.
* `Step.allOf`: Steps that all start from the same bindings.
* `Step.anyOf`: Alternative steps.

## Theorems

* `inTurn_cons`: The first step, and then the others.
* `allOf_nil`, `anyOf_nil`: No condition is met, no alternative is not.
-/

namespace ShapeMatch

/-- How a step ends: the verdict, the bindings and the state of the
    predicates. -/
structure Attempt (σ : Type) where
  verdict : Except MatchError Bool
  bindings : Bindings
  state : σ

/-- Go on with another step if the verdict is acceptance. -/
def Attempt.andThen {σ : Type} (a : Attempt σ) (next : Bindings → σ → Attempt σ) : Attempt σ :=
  match a.verdict with
  | .ok true => next a.bindings a.state
  | _ => a

/-- A step of a match. -/
abbrev Step (σ : Type) := Bindings → σ → Attempt σ

namespace Step

variable {σ : Type}

/-- Come to a verdict and record nothing. -/
def answer (accepted : Bool) : Step σ := fun b s => ⟨.ok accepted, b, s⟩

/-- Record a value under a slot, unless it disagrees with the value there. -/
def record (slot : Slot) (value : Value) : Step σ := fun b s =>
  match b.bind? slot value with
  | some bound => ⟨.ok true, bound, s⟩
  | none => ⟨.ok false, b, s⟩

/-- Steps that pass the bindings along, as long as they accept. -/
def inTurn : List (Step σ) → Step σ
  | [] => answer true
  | step :: rest => fun b s => (step b s).andThen (inTurn rest)

/-- Steps that all start from the bindings `parent`. What they recorded is
    merged into `merged` one after another. -/
def mergeFrom (parent : Bindings) : List (Step σ) → Step σ
  | [], merged, s => ⟨.ok true, merged, s⟩
  | step :: rest, merged, s =>
    let branch := step parent s
    match branch.verdict with
    | .ok true =>
      match merged.absorb? branch.bindings with
      | some merged => mergeFrom parent rest merged branch.state
      | none => ⟨.ok false, parent, branch.state⟩
    | verdict => ⟨verdict, parent, branch.state⟩

/-- Steps that all start from the same bindings, merged if all accept and
    nothing disagrees. -/
def allOf (steps : List (Step σ)) : Step σ := fun b s => mergeFrom b steps b s

/-- Alternative steps. The first that accepts decides, and an error ends the
    search. -/
def anyOf : List (Step σ) → Step σ
  | [] => answer false
  | step :: rest => fun b s =>
    let branch := step b s
    match branch.verdict with
    | .ok true => branch
    | .ok false => anyOf rest b branch.state
    | .error e => ⟨.error e, b, branch.state⟩

theorem inTurn_cons (step : Step σ) (rest : List (Step σ)) (b : Bindings) (s : σ) :
    inTurn (step :: rest) b s = (step b s).andThen (inTurn rest) := rfl

@[simp] theorem allOf_nil (b : Bindings) (s : σ) :
    allOf ([] : List (Step σ)) b s = ⟨.ok true, b, s⟩ := rfl

@[simp] theorem anyOf_nil (b : Bindings) (s : σ) :
    anyOf ([] : List (Step σ)) b s = ⟨.ok false, b, s⟩ := rfl

end Step

end ShapeMatch
