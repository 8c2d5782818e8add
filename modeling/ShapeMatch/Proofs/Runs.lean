import ShapeMatch.Session
import ShapeMatch.Proofs.Commits
import ShapeMatch.Proofs.Invariance

/-!
# Runs

What contexts hold in the course of a program that matches, extracts and
commits.

A run is a list of commands. Each works on the session, on the handles of
contexts and on the bindings that earlier extractions returned, and those can
be committed at any later time and any number of times. The state of the store
is explained by a journal, which the program never sees: the bindings that
were committed so far, in their order. A slot holds what it has in the latest
of them that binds it.

Tests of predicates are programs too. One that runs a match of its own commits
at once, in the middle of the step that called it, and what it has committed
stays even if that step refuses in the end. So the journal lists those commits
as well, each at the moment at which it happened. All that is assumed of a test
is that it goes through the operations of the library: `Session.Wrote` is what
a program can reach that way. The class `N` of commits that tests are allowed
is a parameter. With the class of the empty list alone, tests commit nothing.

## Main definitions

* `Session.Wrote`: What the operations of the library lead to.
* `ClosedClass`: Commits that tests are allowed, one test after another.
* `Pattern.TestsCommit`: The tests of a pattern stay in a class.
* `Pattern.nested`: A test that runs a match of its own.
* `Command`, `Run`, `Run.step`: A program and what it works on.
* `Run.own`, `Run.untilCommit`: What a step commits itself, and the session
  just before that.
* `Run.Journal`: All commits of a run.

## Theorems

* `Wrote.get?`: What is read after the operations.
* `wrote_matchValue`, `testsCommit_nested`: A test that runs a match stays in the
  class.
* `session_step`: A step ends with its own commits.
* `exec_reads_latest`: A slot reads the latest commit that binds it.
-/

namespace ShapeMatch

variable {ω : Type}

namespace Session

/-- `Wrote s js t` says that the operations of the library lead from `s` to `t`
    and commit `js` on the way. -/
inductive Wrote : Session ω → List Bindings → Session ω → Prop
  | keep (s : Session ω) (host : ω) : Wrote s [] { s with host := host }
  | create (s : Session ω) : Wrote s [] { s with store := s.store.create.2 }
  | commit (s : Session ω) (b : Bindings) (h : b.slots.Distinct) : Wrote s [b] (s.commit b)
  | trans {s t u : Session ω} {js ks : List Bindings} (hfirst : Wrote s js t)
      (hrest : Wrote t ks u) : Wrote s (js ++ ks) u

theorem Wrote.refl (s : Session ω) : Wrote s [] s := .keep s s.host

theorem Wrote.get? {s t : Session ω} {js : List Bindings} (h : Wrote s js t) (slot : Slot) :
    t.store.get? slot = (latest js slot).or (s.store.get? slot) := by
  induction h with
  | keep s host => rfl
  | create s => rfl
  | commit s b h =>
      rw [latest_singleton]
      exact Store.get?_commit s.store h slot
  | trans _ _ ihfirst ihrest => rw [latest_append, ihrest, ihfirst, Option.or_assoc]

theorem wrote_foldl_commit (js : List Bindings) :
    ∀ (s : Session ω), (∀ b ∈ js, b.slots.Distinct) → Wrote s js (js.foldl commit s) := by
  induction js with
  | nil => exact fun s _ => Wrote.refl s
  | cons b rest ih =>
      intro s h
      rw [List.forall_mem_cons] at h
      exact .trans (.commit s b h.1) (ih (s.commit b) h.2)

end Session

/-- A class of commits that several programs stay in if each of them does. -/
structure ClosedClass (N : List Bindings → Prop) : Prop where
  nil : N []
  append : ∀ {js ks : List Bindings}, N js → N ks → N (js ++ ks)

variable {N : List Bindings → Prop}

namespace Pattern

/-- The tests of a pattern go through the operations of the library, and their
    commits are in the class. -/
def TestsCommit (N : List Bindings → Prop) (p : Pattern (Session ω)) : Prop :=
  ∀ q ∈ p.predicates, ∀ v s, ∃ js, N js ∧ Session.Wrote s js (q.test v s).2

theorem wrote_extract (hN : ClosedClass N) {p : Pattern (Session ω)} (hp : p.TestsCommit N)
    (policy : ErrorPolicy) (v : Value) (s : Session ω) :
    ∃ js, N js ∧ Session.Wrote s js (p.extract policy v s).2 := by
  -- Matching itself has no effect on the store, so the tests are all there is.
  have hkeeps : Step.Keeps (fun _ => True) (fun s t => ∃ js, N js ∧ Session.Wrote s js t)
      (p.matcher policy v) := by
    refine keeps_matcher (R := fun s t => ∃ js, N js ∧ Session.Wrote s js t)
      (fun _ _ => trivial) (fun s => ⟨[], hN.nil, .refl s⟩) ?_ p hp v
    intro s t u hst htu
    rcases hst with ⟨js, hjs, hst⟩
    rcases htu with ⟨ks, hks, htu⟩
    exact ⟨js ++ ks, hN.append hjs hks, .trans hst htu⟩
  exact (hkeeps .empty s trivial).2

end Pattern

/-- What an extraction recorded, if it succeeded. -/
def MatchResult.recorded : Except MatchError MatchResult → List Bindings
  | .ok (.matched b) => [b]
  | _ => []

theorem MatchResult.distinct_of_mem_recorded {p : Pattern (Session ω)} {policy : ErrorPolicy}
    {v : Value} {s : Session ω} {b : Bindings}
    (h : b ∈ recorded (p.extract policy v s).1) : b.slots.Distinct := by
  cases hresult : (p.extract policy v s).1 with
  | error e =>
      rw [hresult] at h
      exact absurd h List.not_mem_nil
  | ok result =>
      rw [hresult] at h
      cases result with
      | matched B =>
          rw [List.mem_singleton.mp h]
          exact Pattern.distinct_of_extract hresult
      | noMatch => exact absurd h List.not_mem_nil

namespace Session

theorem matchValue_snd (policy : ErrorPolicy) (p : Pattern (Session ω)) (v : Value)
    (s : Session ω) :
    (matchValue policy p v s).2 =
      (MatchResult.recorded (p.extract policy v s).1).foldl commit (p.extract policy v s).2 := by
  unfold matchValue
  rcases p.extract policy v s with ⟨_ | _ | _, t⟩
  · rfl
  · rfl
  · rfl

theorem recorded_of_ne_true {policy : ErrorPolicy} {p : Pattern (Session ω)} {v : Value}
    {s : Session ω} (h : (matchValue policy p v s).1 ≠ .ok true) :
    MatchResult.recorded (p.extract policy v s).1 = [] := by
  unfold matchValue at h
  generalize p.extract policy v s = attempt at h ⊢
  rcases attempt with ⟨_ | _ | _, t⟩
  · rfl
  · exact (h rfl).elim
  · rfl

-- A test that runs a match of its own stays in a class that has all commits of
-- the match.
theorem wrote_matchValue (hN : ClosedClass N) (hsingle : ∀ b, N [b])
    {p : Pattern (Session ω)} (hp : p.TestsCommit N) (policy : ErrorPolicy) (v : Value)
    (s : Session ω) : ∃ js, N js ∧ Wrote s js (matchValue policy p v s).2 := by
  rcases p.wrote_extract hN hp policy v s with ⟨js, hjs, hwrote⟩
  have hdistinct : ∀ b ∈ MatchResult.recorded (p.extract policy v s).1, b.slots.Distinct :=
    fun b hb => MatchResult.distinct_of_mem_recorded hb
  -- First the commits of its tests, then at most one of its own.
  refine ⟨js ++ MatchResult.recorded (p.extract policy v s).1, hN.append hjs ?_, ?_⟩
  · rcases (p.extract policy v s).1 with _ | B | _
    · exact hN.nil
    · exact hsingle B
    · exact hN.nil
  · rw [matchValue_snd]
    exact .trans hwrote (wrote_foldl_commit _ _ hdistinct)

end Session

/-- A test that matches the value against a pattern of its own, and commits at
    once. -/
def Pattern.nested (policy : ErrorPolicy) (p : Pattern (Session ω)) : Pattern (Session ω) :=
  tryTest fun v s =>
    let (result, s) := s.matchValue policy p v
    (result.mapError MatchError.message, s)

theorem Pattern.testsCommit_nested (hN : ClosedClass N) (hsingle : ∀ b, N [b])
    {p : Pattern (Session ω)} (hp : p.TestsCommit N) (policy : ErrorPolicy) :
    (p.nested policy).TestsCommit N := by
  intro q hq v s
  rw [List.mem_singleton.mp hq]
  exact Session.wrote_matchValue hN hsingle hp policy v s

/-- A step of a program. Handles and kept bindings are named by their numbers. -/
inductive Command (ω : Type) where
  /-- Create a context. -/
  | create
  /-- Make another handle of the same context. -/
  | clone (handle : Nat)
  /-- Match a value, and commit what was recorded. -/
  | matchValue (policy : ErrorPolicy) (p : Pattern (Session ω)) (v : Value)
  /-- Match a value, and keep what was recorded. -/
  | extract (policy : ErrorPolicy) (p : Pattern (Session ω)) (v : Value)
  /-- Commit a copy of bindings that were kept. -/
  | commit (kept : Nat)

/-- What a step answers. -/
inductive Outcome where
  | done
  | matched (result : Except MatchError Bool)
  | extracted (result : Except MatchError MatchResult)

/-- The answers of steps that should leave all contexts alone. -/
inductive Outcome.CommitsNothing : Outcome → Prop
  | refused : CommitsNothing (matched (.ok false))
  | failed (e : MatchError) : CommitsNothing (matched (.error e))
  | extracted (result : Except MatchError MatchResult) : CommitsNothing (extracted result)

/-- The tests of a command stay in the class. -/
def Command.TestsCommit (N : List Bindings → Prop) : Command ω → Prop
  | matchValue _ p _ | extract _ p _ => p.TestsCommit N
  | _ => True

/-- What a program works on. -/
structure Run (ω : Type) where
  session : Session ω
  handles : List ContextId
  kept : List Bindings

namespace Run

/-- A program that has not done anything yet. -/
def start (host : ω) : Run ω := ⟨⟨.empty, host⟩, [], []⟩

/-- Do one step. -/
def step (r : Run ω) : Command ω → Outcome × Run ω
  | .create =>
    let (context, store) := r.session.store.create
    (.done, ⟨{ r.session with store := store }, r.handles ++ [context], r.kept⟩)
  | .clone handle => (.done, { r with handles := r.handles ++ r.handles[handle]?.toList })
  | .matchValue policy p v =>
    let (result, session) := r.session.matchValue policy p v
    (.matched result, { r with session := session })
  | .extract policy p v =>
    let (result, session) := p.extract policy v r.session
    (.extracted result, ⟨session, r.handles, r.kept ++ MatchResult.recorded result⟩)
  | .commit kept => (.done, { r with session := r.kept[kept]?.toList.foldl .commit r.session })

/-- Do several steps. -/
def exec (r : Run ω) (commands : List (Command ω)) : Run ω :=
  commands.foldl (fun r c => (r.step c).2) r

/-- What a step commits itself, once its tests have run. -/
def own (r : Run ω) : Command ω → List Bindings
  | .matchValue policy p v => MatchResult.recorded (p.extract policy v r.session).1
  | .commit kept => r.kept[kept]?.toList
  | _ => []

/-- The session just before a step commits anything itself. -/
def untilCommit (r : Run ω) : Command ω → Session ω
  | .create => { r.session with store := r.session.store.create.2 }
  | .matchValue policy p v | .extract policy p v => (p.extract policy v r.session).2
  | _ => r.session

/-- The commits of a run that starts from `r`: at each step those of its tests,
    which are in the class, and then its own. -/
inductive Journal (N : List Bindings → Prop) (r : Run ω) :
    List (Command ω) → List Bindings → Prop
  | nil : Journal N r [] []
  | snoc {commands : List (Command ω)} {c : Command ω} {js nested : List Bindings}
      (hprev : Journal N r commands js) (hclass : N nested)
      (hnested : Session.Wrote (r.exec commands).session nested ((r.exec commands).untilCommit c)) :
      Journal N r (commands ++ [c]) (js ++ (nested ++ (r.exec commands).own c))

theorem exec_append (r : Run ω) (commands : List (Command ω)) (c : Command ω) :
    r.exec (commands ++ [c]) = ((r.exec commands).step c).2 :=
  List.foldl_append

-- A step ends with its own commits.
theorem session_step (r : Run ω) (c : Command ω) :
    (r.step c).2.session = (r.own c).foldl Session.commit (r.untilCommit c) := by
  cases c with
  | create => rfl
  | clone handle => rfl
  | matchValue policy p v => exact Session.matchValue_snd policy p v r.session
  | extract policy p v => rfl
  | commit kept => rfl

theorem own_of_commitsNothing {r : Run ω} {c : Command ω} (h : (r.step c).1.CommitsNothing) :
    r.own c = [] := by
  cases c with
  | matchValue policy p v =>
      refine Session.recorded_of_ne_true fun htrue => ?_
      change (Outcome.matched (r.session.matchValue policy p v).1).CommitsNothing at h
      rw [htrue] at h
      exact nomatch h
  | extract policy p v => rfl
  | create => exact nomatch h
  | clone handle => exact nomatch h
  | commit kept => exact nomatch h

section Kept

-- What was kept comes from extractions, so it binds no slot twice.
theorem distinct_kept_step {r : Run ω} (h : ∀ b ∈ r.kept, b.slots.Distinct) (c : Command ω) :
    ∀ b ∈ (r.step c).2.kept, b.slots.Distinct := by
  cases c with
  | extract policy p v =>
      refine List.forall_mem_append.mpr ⟨h, fun b hb => ?_⟩
      exact MatchResult.distinct_of_mem_recorded hb
  | create => exact h
  | clone handle => exact h
  | matchValue policy p v => exact h
  | commit kept => exact h

theorem distinct_kept_exec (host : ω) (commands : List (Command ω)) :
    ∀ b ∈ ((start host).exec commands).kept, b.slots.Distinct := by
  induction commands using List.reverseRecOn with
  | nil => exact fun _ hb => absurd hb List.not_mem_nil
  | append_singleton commands c ih =>
      rw [exec_append]
      exact distinct_kept_step ih c

theorem distinct_own {r : Run ω} (h : ∀ b ∈ r.kept, b.slots.Distinct) (c : Command ω) :
    ∀ b ∈ r.own c, b.slots.Distinct := by
  cases c with
  | matchValue policy p v => exact fun b hb => MatchResult.distinct_of_mem_recorded hb
  | commit kept =>
      intro b hb
      rw [own, Option.mem_toList] at hb
      exact h b (List.mem_of_getElem? hb)
  | create => exact fun _ hb => absurd hb List.not_mem_nil
  | clone handle => exact fun _ hb => absurd hb List.not_mem_nil
  | extract policy p v => exact fun _ hb => absurd hb List.not_mem_nil

end Kept

section Reads

theorem wrote_untilCommit (hN : ClosedClass N) (r : Run ω) {c : Command ω}
    (h : c.TestsCommit N) :
    ∃ nested, N nested ∧ Session.Wrote r.session nested (r.untilCommit c) := by
  cases c with
  | create => exact ⟨[], hN.nil, .create r.session⟩
  | clone handle => exact ⟨[], hN.nil, .refl r.session⟩
  | matchValue policy p v => exact p.wrote_extract hN h policy v r.session
  | extract policy p v => exact p.wrote_extract hN h policy v r.session
  | commit kept => exact ⟨[], hN.nil, .refl r.session⟩

-- A step writes what its tests and then it itself committed, over what was
-- there.
theorem get?_step {r : Run ω} (hkept : ∀ b ∈ r.kept, b.slots.Distinct) {c : Command ω}
    {nested : List Bindings} (h : Session.Wrote r.session nested (r.untilCommit c))
    (slot : Slot) :
    (r.step c).2.session.store.get? slot =
      (latest (nested ++ r.own c) slot).or (r.session.store.get? slot) := by
  rw [session_step]
  exact (h.trans (Session.wrote_foldl_commit _ _ (distinct_own hkept c))).get? slot

theorem exists_journal (hN : ClosedClass N) (r : Run ω) (commands : List (Command ω))
    (h : ∀ c ∈ commands, c.TestsCommit N) : ∃ js, Journal N r commands js := by
  induction commands using List.reverseRecOn with
  | nil => exact ⟨[], .nil⟩
  | append_singleton commands c ih =>
      rw [List.forall_mem_append] at h
      rcases ih h.1 with ⟨js, hjs⟩
      rcases wrote_untilCommit hN (r.exec commands) (h.2 c List.mem_cons_self) with
        ⟨nested, hclass, hnested⟩
      exact ⟨_, .snoc hjs hclass hnested⟩

/-- The journal explains the store, by induction on the run. -/
theorem get?_exec {host : ω} {commands : List (Command ω)} {js : List Bindings}
    (h : Journal N (start host) commands js) (slot : Slot) :
    ((start host).exec commands).session.store.get? slot = latest js slot := by
  induction h with
  | nil => rfl
  | snoc hprev hclass hnested ih =>
      rename_i commands c js nested
      -- What the step has not written is read from the journal before it.
      rw [exec_append, get?_step (distinct_kept_exec host commands) hnested, ih,
        latest_append, latest_append, latest_append]

end Reads

/-- The commit discipline of runs. After every run there is a journal of all
    commits, those of tests included, and every context reads from it, through
    whatever handle, since a handle is the number of its context: the value in
    the latest commit that binds the slot, or the error that there is none.
    And a further step, whatever it is, adds to the journal what its tests
    commit and then what it commits itself. If it is an extraction, or a match
    that refuses or fails, it leaves all contexts as its tests left them. No
    slot is ever removed, and a slot that no commit of the step binds is never
    touched. -/
theorem exec_reads_latest (hN : ClosedClass N) {commands : List (Command ω)}
    (h : ∀ c ∈ commands, c.TestsCommit N) (host : ω) {r : Run ω}
    (hr : r = (start host).exec commands) :
    (∃ journal, Journal N (start host) commands journal ∧
      ∀ (context : ContextId) (name : String), r.session.store.read ⟨context, name⟩ =
        (latest journal ⟨context, name⟩).elim (.error (.unbound name)) .ok) ∧
    ∀ c : Command ω, c.TestsCommit N →
      ∃ nested, N nested ∧ Session.Wrote r.session nested (r.untilCommit c) ∧
        ((r.step c).1.CommitsNothing → (r.step c).2.session = r.untilCommit c) ∧
        ∀ slot,
          ((∀ b ∈ nested ++ r.own c, b.get? slot = none) →
            (r.step c).2.session.store.get? slot = r.session.store.get? slot) ∧
          (r.session.store.contains slot = true →
            (r.step c).2.session.store.contains slot = true) := by
  subst hr
  constructor
  · rcases exists_journal hN (start host) commands h with ⟨journal, hjournal⟩
    refine ⟨journal, hjournal, fun context name => ?_⟩
    unfold Store.read
    rw [get?_exec hjournal]
    cases latest journal ⟨context, name⟩ with
    | none => rfl
    | some v => rfl
  · intro c hc
    rcases wrote_untilCommit hN ((start host).exec commands) hc with ⟨nested, hclass, hnested⟩
    have hread := get?_step (distinct_kept_exec host commands) hnested
    refine ⟨nested, hclass, hnested, fun hnothing => ?_, fun slot => ⟨fun hunbound => ?_, ?_⟩⟩
    · -- Nothing follows the tests.
      rw [session_step, own_of_commitsNothing hnothing]
      rfl
    · have hnone : latest (nested ++ ((start host).exec commands).own c) slot = none := by
        rw [latest, List.findSome?_eq_none_iff]
        exact fun b hb => hunbound b (List.mem_reverse.mp hb)
      rw [hread, hnone, Option.none_or]
    · intro hcontains
      unfold Store.contains at hcontains ⊢
      rw [hread, Option.isSome_or, hcontains, Bool.or_true]

-- Two contexts, a second handle, a test that commits, and a repeated commit.
theorem exec_reads_latest_of_nested :
    ∃ journal, Journal (fun _ => True) (start ())
        [.create, .create, .clone 0, .extract .fail (.capture ⟨⟨1⟩, "x"⟩) (.int 7),
          .matchValue .propagate (.nested .fail (.capture ⟨⟨1⟩, "x"⟩)) (.int 8), .commit 0] journal ∧
      ∀ (context : ContextId) (name : String),
        Store.read ⟨2, ⟨[(⟨⟨1⟩, "x"⟩, .int 7)]⟩⟩ ⟨context, name⟩ =
          (latest journal ⟨context, name⟩).elim (.error (.unbound name)) .ok := by
  have hN : ClosedClass fun _ => True := ⟨trivial, fun _ _ => trivial⟩
  have hcapture : (Pattern.capture ⟨⟨1⟩, "x"⟩ : Pattern (Session Unit)).TestsCommit fun _ => True :=
    fun _ hq => absurd hq List.not_mem_nil
  refine (exec_reads_latest hN ?_ () rfl).1
  simp only [List.forall_mem_cons]
  exact ⟨trivial, trivial, trivial, hcapture,
    Pattern.testsCommit_nested hN (fun _ => trivial) hcapture .fail, trivial,
    fun _ hc => absurd hc List.not_mem_nil⟩

/-- An extraction is not free of effects if a test is not: a test that runs a
    match of its own has committed by the time the extraction returns. -/
theorem extract_nested_writes :
    ((start ()).exec [.create]).session.store.read ⟨⟨1⟩, "x"⟩ = .error (.unbound "x") ∧
      ((start ()).exec [.create,
          .extract .propagate (.nested .propagate (.capture ⟨⟨1⟩, "x"⟩)) (.int 1)]).session.store.read
        ⟨⟨1⟩, "x"⟩ = .ok (.int 1) :=
  ⟨rfl, rfl⟩

end Run

end ShapeMatch
