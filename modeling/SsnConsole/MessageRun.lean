import Mathlib

/-!
# Runs of an event-driven system

A system is a partial step function: an event that is not enabled has no
successor.  `Reachable` collects the states of the runs whose events all meet a
side condition, and `Execution` indexes one finite run so that a property can
speak about several of its moments at once.
-/

namespace SsnConsole.MessageRun

variable {State Event : Type}

/-- States that runs from `initial` with only `allowed` events lead to. -/
inductive Reachable
    (step : State → Event → Option State)
    (allowed : State → Event → Prop)
    (initial : State) : State → Prop
  | initial : Reachable step allowed initial initial
  | step
      {before after : State}
      {event : Event}
      (earlier : Reachable step allowed initial before)
      (permitted : allowed before event)
      (stepped : step before event = some after) :
      Reachable step allowed initial after

variable {step : State → Event → Option State}
variable {allowed : State → Event → Prop}
variable {initial : State}

/-- A property of the first state that allowed events keep holds throughout. -/
theorem Reachable.invariant
    {Invariant : State → Prop}
    {state : State}
    (reachable : Reachable step allowed initial state)
    (base : Invariant initial)
    (preserved :
      ∀ before event after,
        Reachable step allowed initial before →
          Invariant before → allowed before event →
            step before event = some after → Invariant after) :
    Invariant state := by
  induction reachable with
  | initial =>
      exact base
  | step earlier permitted stepped inductionHypothesis =>
      exact preserved _ _ _ earlier inductionHypothesis permitted stepped

/-- Loosening the side condition keeps every reachable state. -/
theorem Reachable.loosen
    {looser : State → Event → Prop}
    {state : State}
    (reachable : Reachable step allowed initial state)
    (implies : ∀ before event, allowed before event → looser before event) :
    Reachable step looser initial state := by
  induction reachable with
  | initial =>
      exact .initial
  | step _ permitted stepped inductionHypothesis =>
      exact .step inductionHypothesis (implies _ _ permitted) stepped

/-- What a reachable state leads to is reachable. -/
theorem Reachable.trans
    {middle state : State}
    (first : Reachable step allowed initial middle)
    (second : Reachable step allowed middle state) :
    Reachable step allowed initial state := by
  induction second with
  | initial =>
      exact first
  | step _ permitted stepped inductionHypothesis =>
      exact .step inductionHypothesis permitted stepped

/-- Feed a list of events to the system, if each is enabled in its turn. -/
def runEvents
    (step : State → Event → Option State)
    (state : State) : List Event → Option State
  | [] => some state
  | event :: rest => (step state event).bind fun next => runEvents step next rest

/-- A list of events leads from a reachable state to a reachable state. -/
theorem Reachable.runEvents
    {events : List Event}
    {state final : State}
    (reachable : Reachable step allowed initial state)
    (permitted : ∀ before event, event ∈ events → allowed before event)
    (ran : runEvents step state events = some final) :
    Reachable step allowed initial final := by
  induction events generalizing state with
  | nil =>
      cases ran
      exact reachable
  | cons event rest inductionHypothesis =>
      obtain ⟨next, stepped, ranRest⟩ := Option.bind_eq_some_iff.mp ran
      refine inductionHypothesis ?_ ?_ ranRest
      · exact .step reachable (permitted _ _ (by simp)) stepped
      · intro before other member
        exact permitted before other (by simp [member])

/-- Feeding one more event is one more step. -/
theorem runEvents_concat
    (events : List Event)
    (state : State)
    (last : Event) :
    runEvents step state (events ++ [last]) =
      (runEvents step state events).bind fun next => step next last := by
  induction events generalizing state with
  | nil =>
      simp only [List.nil_append, MessageRun.runEvents, Option.bind_some, Option.bind_fun_some]
  | cons event rest inductionHypothesis =>
      simp only [List.cons_append, MessageRun.runEvents, Option.bind_assoc,
        inductionHypothesis]

/-- The events before an enabled list of events are enabled. -/
theorem isSome_runEvents_take
    {events : List Event}
    {state : State}
    (count : Nat)
    (ran : (runEvents step state events).isSome) :
    (runEvents step state (events.take count)).isSome := by
  induction events generalizing state count with
  | nil =>
      simp [MessageRun.runEvents]
  | cons event rest inductionHypothesis =>
      cases count with
      | zero =>
          simp [MessageRun.runEvents]
      | succ count =>
          obtain ⟨final, ran⟩ := Option.isSome_iff_exists.mp ran
          obtain ⟨next, stepped, ranRest⟩ := Option.bind_eq_some_iff.mp ran
          simp only [List.take_succ_cons, MessageRun.runEvents, stepped, Option.bind_some]
          exact inductionHypothesis count (Option.isSome_of_eq_some ranRest)

/-- One finite run, with its states and events indexed by time. -/
structure Execution
    (step : State → Event → Option State)
    (initial : State) where
  /-- How many events the run has. -/
  length : Nat
  /-- The state before event `time`. -/
  state : Nat → State
  /-- The event at `time`. -/
  event : Nat → Event
  starts : state 0 = initial
  advances : ∀ time, time < length → step (state time) (event time) = some (state (time + 1))

namespace Execution

/-- The run of an enabled list of events; `idle` stands after its end. -/
def ofEvents
    (events : List Event)
    (idle : Event)
    (ran : (runEvents step initial events).isSome) :
    Execution step initial where
  length := events.length
  state time := (runEvents step initial (events.take time)).getD initial
  event time := events[time]?.getD idle
  starts := rfl
  advances := by
    intro time within
    obtain ⟨before, ranBefore⟩ :=
      Option.isSome_iff_exists.mp (isSome_runEvents_take time ran)
    have next := isSome_runEvents_take (time + 1) ran
    rw [List.take_succ_eq_append_getElem within, runEvents_concat, ranBefore,
      Option.bind_some] at next
    obtain ⟨after, stepped⟩ := Option.isSome_iff_exists.mp next
    rw [List.take_succ_eq_append_getElem within, runEvents_concat, ranBefore,
      List.getElem?_eq_getElem within]
    simp only [Option.bind_some, Option.getD_some, stepped]

/-- A run whose steps are steps of another system is a run of that system. -/
def mono
    {other : State → Event → Option State}
    (execution : Execution step initial)
    (steps : ∀ before event after, step before event = some after →
      other before event = some after) :
    Execution other initial where
  length := execution.length
  state := execution.state
  event := execution.event
  starts := execution.starts
  advances time within := steps _ _ _ (execution.advances time within)

variable (execution : Execution step initial)

/-- From any state of a run, allowed events lead to the later ones. -/
theorem reachable_from
    {first last : Nat}
    (ordered : first ≤ last)
    (within : last ≤ execution.length)
    (permitted :
      ∀ time, first ≤ time → time < last →
        allowed (execution.state time) (execution.event time)) :
    Reachable step allowed (execution.state first) (execution.state last) := by
  induction last with
  | zero =>
      obtain rfl : first = 0 := by omega
      exact .initial
  | succ last inductionHypothesis =>
      rcases Nat.lt_or_ge first (last + 1) with earlier | later
      · refine
          .step (inductionHypothesis (by omega) (by omega) ?_) (permitted last (by omega) (by omega))
            (execution.advances last (by omega))
        exact fun time started before => permitted time started (by omega)
      · obtain rfl : first = last + 1 := by omega
        exact .initial

/-- The states of a run whose events are all allowed are reachable by allowed events. -/
theorem reachable_of_permitted
    {time : Nat}
    (within : time ≤ execution.length)
    (permitted :
      ∀ earlier, earlier < time → allowed (execution.state earlier) (execution.event earlier)) :
    Reachable step allowed initial (execution.state time) := by
  have later : Reachable step allowed (execution.state 0) (execution.state time) :=
    execution.reachable_from (Nat.zero_le time) within fun earlier _ before =>
      permitted earlier before
  rwa [execution.starts] at later

/-- Every state of a run is reachable. -/
theorem reachable
    {time : Nat}
    (within : time ≤ execution.length) :
    Reachable step (fun _ _ => True) initial (execution.state time) :=
  execution.reachable_of_permitted within fun _ _ => trivial

/-- What every step keeps, once it holds, holds from then on. -/
theorem persists
    {Holds : State → Prop}
    {first last : Nat}
    (kept :
      ∀ time, first ≤ time → time < execution.length →
        Holds (execution.state time) → Holds (execution.state (time + 1)))
    (ordered : first ≤ last)
    (within : last ≤ execution.length)
    (holds : Holds (execution.state first)) :
    Holds (execution.state last) := by
  induction last with
  | zero =>
      obtain rfl : first = 0 := by omega
      exact holds
  | succ last inductionHypothesis =>
      rcases Nat.lt_or_ge first (last + 1) with earlier | later
      · exact
          kept last (by omega) (by omega)
            (inductionHypothesis (by omega) (by omega))
      · obtain rfl : first = last + 1 := by omega
        exact holds

end Execution

end SsnConsole.MessageRun
