import OatImage.Log.Logger

/-!
# Scopes of a logger

A logger has one operation, and an operation scope that is open keeps the operation it has taken
the place of. `Keeps` relates the two: from the innermost scope outwards, each kept operation is
the one of the scopes around. A step keeps this relation, whatever it is, and so does every run in
which no scope is left that is not open. So a record is made during the innermost operation that
is open, timed scopes make no difference to that, and when all scopes are left the operation is
the one that it was at the start.
-/
namespace OatImage.Log

/-- What is done with a logger. -/
inductive Step
  | operation (name : String)
  | timed (now : Instant) (label : String)
  /-- The innermost scope is left, at its end or by a failure that goes on around it, when it has
  been open for so many seconds. -/
  | leave (now : Instant) (elapsed : Double) (failed : Bool)
  | log (now : Instant) (level : Level) (template : String) (values : List Value)
    (context : GivenContext)
deriving DecidableEq, Repr

/-- A call that cannot note its context changes nothing, and leaving looks at no failure. -/
def Logger.step (l : Logger) : Step → Logger
  | .operation name => l.enterOperation name
  | .timed now label => l.enterTimed now label
  | .leave now elapsed _ => l.leave now elapsed
  | .log now level template values context =>
    (l.log now level template values context).toOption.getD l

def Logger.run (l : Logger) (steps : List Step) : Logger := steps.foldl Logger.step l

/-! What the steps say of the scopes, apart from any logger. -/

/-- A scope by what it was opened with. -/
inductive Opened
  | operation (name : String)
  | timed (label : String)
deriving DecidableEq, Repr

/-- The scopes that are open after a step, the innermost one first. None can be left if none is
open. -/
def Step.scopes (outer : List Opened) : Step → Option (List Opened)
  | .operation name => some (.operation name :: outer)
  | .timed _ label => some (.timed label :: outer)
  | .leave _ _ _ => outer.tail?
  | .log _ _ _ _ _ => some outer

/-- The scopes that are open after some steps, unless one was left that was not open. -/
def openAfter (steps : List Step) : Option (List Opened) := steps.foldlM Step.scopes []

def innermost : List Opened → Option String
  | [] => none
  | .operation name :: _ => some name
  | .timed _ :: outer => innermost outer

/-- The operation while some scopes are open: the innermost one, and if there is none the one that
there was at the start, if any. -/
def operationIn (start : Option String) (opened : List Opened) : Option String :=
  (innermost opened).or start

/-- What a record is asked to say, and when. -/
structure Call where
  now : Instant
  level : Level
  template : String
  values : List Value
  context : GivenContext := []
deriving DecidableEq, Repr

/-- The context can be noted. -/
def GivenContext.IsNotable (c : GivenContext) : Prop := c.taken? = none ∧ c.unexpected = []

instance (c : GivenContext) : Decidable c.IsNotable := inferInstanceAs (Decidable (_ ∧ _))

/-- The call that a step makes while some scopes are open. -/
def Step.call? (opened : List Opened) : Step → Option Call
  | .operation _ => none
  | .timed now label =>
    some { now, level := .debug, template := "Started: %s", values := [.text label] }
  | .leave now elapsed _ =>
    match opened with
    | .timed label :: _ =>
      some
        { now, level := .debug, template := "Completed: %s (%.3f sec)"
          values := [.text label, .real elapsed] }
    | _ => none
  | .log now level template values context =>
    if context.IsNotable then some { now, level, template, values, context } else none

/-- The calls that reach a threshold, of one call or of none. -/
def reaching (threshold : Nat) (c : Option Call) : List Call :=
  (c.filter fun c => threshold ≤ weight c.level).toList

/-- The calls of some steps that reach a threshold, in order, each with the operation during which
it is made. -/
def calls (threshold : Nat) (start : Option String) :
    (opened : List Opened) → List Step → List (Option String × Call)
  | _, [] => []
  | opened, s :: rest =>
    (reaching threshold (s.call? opened)).map (fun c => (operationIn start opened, c)) ++
      calls threshold start ((s.scopes opened).getD []) rest

/-- A timed scope is entered or left. -/
def Step.IsTimed (opened : List Opened) : Step → Prop
  | .timed _ _ => True
  | .leave _ _ _ => ∃ label outer, opened = .timed label :: outer
  | _ => False

/-- The operation and the scopes of a logger with some scopes open: each operation scope keeps the
operation that the scopes around it leave. -/
inductive Keeps (start : Option String) (below : List Scope) :
    List Opened → Option String → List Scope → Prop
  | start : Keeps start below [] start below
  | operation {opened : List Opened} {now : Option String} {scopes : List Scope} (name : String)
      (h : Keeps start below opened now scopes) :
      Keeps start below (.operation name :: opened) (some name) (.operation now :: scopes)
  | timed {opened : List Opened} {now : Option String} {scopes : List Scope} (label : String)
      (h : Keeps start below opened now scopes) :
      Keeps start below (.timed label :: opened) now (.timed label :: scopes)

variable {start now : Option String} {below scopes : List Scope} {opened opened' : List Opened}
  {s : Step} {steps : List Step}

theorem Keeps.now_eq (h : Keeps start below opened now scopes) :
    now = operationIn start opened := by
  induction h with
  | start => rfl
  | operation => rfl
  | timed _ _ ih => exact ih

theorem Step.IsTimed.operationIn_eq (h : s.IsTimed opened)
    (hs : s.scopes opened = some opened') :
    operationIn start opened' = operationIn start opened := by
  cases s with
  | timed now label =>
      cases hs
      rfl
  | leave now elapsed failed =>
      obtain ⟨label, outer, rfl⟩ := h
      cases hs
      rfl
  | operation => exact h.elim
  | log => exact h.elim

namespace Logger

variable {l : Logger}

/-- The record that a call makes during an operation. -/
def record (l : Logger) (operation : Option String) (c : Call) : Record :=
  { made := c.now, level := c.level, logger := l.name, tool := l.tool, operation
    template := c.template, values := c.values, context := c.context.known }

theorem write_eq (l : Logger) (c : Call) :
    l.write c.now c.level c.template c.values c.context.known =
      { l with
        records := l.records ++ (reaching l.threshold (some c)).map (l.record l.operation) } := by
  unfold write reaching
  by_cases h : weight c.level < l.threshold
  · rw [if_pos h, Option.filter_some_neg (by simpa using h)]
    simp
  · rw [if_neg h, Option.filter_some_pos (by simpa using h)]
    rfl

theorem log_eq (l : Logger) (c : Call) :
    (l.log c.now c.level c.template c.values c.context).toOption.getD l =
      if c.context.IsNotable then
        { l with
          records := l.records ++ (reaching l.threshold (some c)).map (l.record l.operation) }
      else l := by
  by_cases h : c.context.IsNotable
  · rw [if_pos h, log, h.1, h.2, ← write_eq]
    rfl
  · rw [if_neg h, log]
    split
    · rfl
    · rename_i htaken hunexpected
      exact absurd ⟨htaken, hunexpected⟩ h
    · rfl

/-- What one step changes: the scopes that are open, the operation with them, and the record of
its call during the operation that there was before. -/
theorem step_eq (h : Keeps start below opened l.operation l.scopes)
    (hs : s.scopes opened = some opened') : ∃ now scopes, Keeps start below opened' now scopes ∧
      l.step s = { l with
        operation := now
        scopes
        records := l.records ++
          (reaching l.threshold (s.call? opened)).map (l.record l.operation) } := by
  cases s with
  | operation name =>
      cases hs
      refine ⟨_, _, .operation name h, ?_⟩
      simp [step, enterOperation, Step.call?, reaching]
  | timed now label =>
      cases hs
      refine ⟨_, _, .timed label h, ?_⟩
      rw [step, enterTimed]
      exact congrArg (fun l' : Logger => { l' with scopes := .timed label :: l'.scopes })
        (l.write_eq { now, level := .debug, template := "Started: %s", values := [.text label] })
  | leave now elapsed failed =>
      generalize hoperation : l.operation = operation at h
      generalize hscopes : l.scopes = scopes at h
      cases h with
      | start => cases hs
      | operation name h =>
          cases hs
          refine ⟨_, _, h, ?_⟩
          rw [step, leave, leaveOperation, hscopes]
          simp [Step.call?, reaching]
      | @timed _ _ outer label h =>
          cases hs
          refine ⟨_, _, h, ?_⟩
          rw [step, leave, hscopes, ← hoperation]
          exact { l with scopes := outer }.write_eq
            { now, level := .debug, template := "Completed: %s (%.3f sec)"
              values := [.text label, .real elapsed] }
  | log now level template values context =>
      cases hs
      refine ⟨_, _, h, ?_⟩
      rw [step, l.log_eq ⟨now, level, template, values, context⟩, Step.call?]
      by_cases hnotable : context.IsNotable
      · rw [if_pos hnotable, if_pos hnotable]
      · rw [if_neg hnotable, if_neg hnotable]
        simp [reaching]

theorem run_append (l : Logger) (before after : List Step) :
    l.run (before ++ after) = (l.run before).run after := List.foldl_append

/-- What a run changes, by induction on its steps: each adds the record of its call, and behind
the last one the operation and the scopes are those of the scopes that are open. -/
theorem run_eq (h : Keeps start below opened l.operation l.scopes)
    (hs : steps.foldlM Step.scopes opened = some opened') : ∃ now scopes,
      Keeps start below opened' now scopes ∧
      l.run steps = { l with
        operation := now
        scopes
        records := l.records ++ (calls l.threshold start opened steps).map
          fun (operation, c) => l.record operation c } := by
  induction steps generalizing l opened with
  | nil =>
      cases hs
      refine ⟨_, _, h, ?_⟩
      rw [calls, List.map_nil, List.append_nil]
      rfl
  | cons s rest ih =>
      obtain ⟨middle, hfirst, hrest⟩ := Option.bind_eq_some_iff.mp hs
      obtain ⟨now, scopes, hkeeps, hstep⟩ := step_eq h hfirst
      have hnext : Keeps start below middle (l.step s).operation (l.step s).scopes := by
        rwa [hstep]
      obtain ⟨now', scopes', hkeeps', hrun⟩ := ih hnext hrest
      refine ⟨now', scopes', hkeeps', ?_⟩
      rw [run, List.foldl_cons, ← run, hrun, hstep, calls, hfirst, ← h.now_eq]
      simp only [Option.getD_some, List.map_append, List.map_map, List.append_assoc]
      rfl

/-- In every run in which no scope is left that is not open, each record is made during the
operation that is innermost at its step; entering and leaving timed scopes keeps the operation;
and when all scopes are left it is the one that it was at the start. -/
theorem run_nests (l : Logger) (h : openAfter steps = some opened) :
    (∀ before s after, steps = before ++ s :: after → ∃ outer, openAfter before = some outer ∧
      (l.run (before ++ [s])).records = (l.run before).records ++
        (reaching l.threshold (s.call? outer)).map (l.record (operationIn l.operation outer)) ∧
      (s.IsTimed outer → (l.run (before ++ [s])).operation = (l.run before).operation)) ∧
    (l.run steps).operation = operationIn l.operation opened ∧
    (opened = [] → (l.run steps).operation = l.operation ∧ (l.run steps).scopes = l.scopes) := by
  refine ⟨fun before s after hsteps => ?_, ?_⟩
  · rw [hsteps, openAfter, List.foldlM_append] at h
    obtain ⟨outer, hbefore, hrest⟩ := Option.bind_eq_some_iff.mp h
    obtain ⟨inner, hs, -⟩ := Option.bind_eq_some_iff.mp hrest
    have happend : l.run (before ++ [s]) = (l.run before).step s := run_append l before [s]
    obtain ⟨now, scopes, hkeeps, hrun⟩ := run_eq .start hbefore
    have hhere : Keeps l.operation l.scopes outer (l.run before).operation
        (l.run before).scopes := by
      rwa [hrun]
    obtain ⟨now', scopes', hkeeps', hstep⟩ := step_eq hhere hs
    refine ⟨outer, hbefore, ?_, fun htimed => ?_⟩
    · rw [happend, hstep, hhere.now_eq, hrun]
      rfl
    · rw [happend, hhere.now_eq, hstep, ← htimed.operationIn_eq hs]
      exact hkeeps'.now_eq
  · obtain ⟨now, scopes, hkeeps, hrun⟩ := run_eq .start h
    rw [hrun]
    refine ⟨hkeeps.now_eq, ?_⟩
    rintro rfl
    cases hkeeps
    exact ⟨rfl, rfl⟩

/-- An operation that is left by a failure inside a timed scope inside another operation. -/
def nestedSteps (now : Instant) (elapsed : Double) : List Step :=
  [.operation "outer", .timed now "walk", .operation "inner", .log now .info "at a method" [] [],
    .leave now elapsed true, .leave now elapsed true, .log now .error "no method" [] [],
    .leave now elapsed false]

theorem run_nests_nestedSteps :
    let l : Logger := { tool := "oatwalk", threshold := 10, asJson := true, hasFile := true }
    let now : Instant := ⟨"12:00:00", "11:00:00"⟩
    let elapsed : Double := .finite false 3 (-1)
    let steps := nestedSteps now elapsed
    openAfter steps = some [] ∧
      ((l.run (steps.take 6)).records = (l.run (steps.take 5)).records ++
        [l.record (some "outer")
          { now, level := .debug, template := "Completed: %s (%.3f sec)"
            values := [.text "walk", .real elapsed] }]) ∧
      (l.run steps).operation = none := by
  intro l now elapsed steps
  have hopen : openAfter steps = some [] := rfl
  obtain ⟨hrecords, -, hend⟩ := l.run_nests hopen
  obtain ⟨outer, houter, hleft, -⟩ :=
    hrecords (steps.take 5) (.leave now elapsed true) (steps.drop 6) rfl
  cases houter
  exact ⟨hopen, hleft, (hend rfl).1⟩

end Logger

end OatImage.Log
