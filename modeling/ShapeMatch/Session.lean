import ShapeMatch.Matching
import ShapeMatch.Store

/-!
# Sessions

Matches that write to contexts.

A session is the state that a run of matches works on: the store of contexts,
and whatever else the predicates of the patterns may want to keep. A match
writes its captures to the store when it succeeds as a whole, and leaves the
store alone otherwise. Extraction never writes; the bindings it returns can be
committed later, any number of times.

Because predicates may read and change the session, one of them may run a
match of its own, which commits at once.

## Main definitions

* `Session`: The store of contexts, and a state of the user.
* `Session.matchValue`: Match a value and commit the captures.
* `Session.commit`: Commit bindings.
-/

namespace ShapeMatch

/-- The state that matches work on. -/
structure Session (ω : Type) where
  store : Store
  /-- What the predicates keep for themselves. -/
  host : ω
  deriving Inhabited

namespace Session

variable {ω : Type}

/-- Write bindings to the store. -/
def commit (session : Session ω) (bindings : Bindings) : Session ω :=
  { session with store := session.store.commit bindings }

/-- Match a value, and write what was recorded if the match succeeds. -/
def matchValue (policy : ErrorPolicy) (p : Pattern (Session ω)) (v : Value)
    (session : Session ω) : Except MatchError Bool × Session ω :=
  match p.extract policy v session with
  | (.ok (.matched bindings), session) => (.ok true, session.commit bindings)
  | (.ok .noMatch, session) => (.ok false, session)
  | (.error e, session) => (.error e, session)

end Session

end ShapeMatch
