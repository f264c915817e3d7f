import SsnConsole.MessageRun

/-!
# Runs with a clock

Every event of a system carries the time at which it happens.  A timed system
remembers the time of its last event and has no step that goes back.
-/

namespace SsnConsole.TimedRun

open SsnConsole.MessageRun

variable {State Event : Type}

/-- A state and the time of the event that led to it. -/
structure Timed (State : Type) where
  state : State
  clock : Nat

/-- Steps of a system whose clock does not go back. -/
def timedStep
    (step : State → Event → Option State)
    (stamp : Event → Nat)
    (timed : Timed State)
    (event : Event) : Option (Timed State) :=
  if timed.clock ≤ stamp event then
    (step timed.state event).map fun next => ⟨next, stamp event⟩
  else
    none

variable {step : State → Event → Option State} {stamp : Event → Nat}

/-- A timed step is a step of the system at a time that is not in the past. -/
theorem timedStep_eq_some
    {before after : Timed State}
    {event : Event} :
    timedStep step stamp before event = some after ↔
      before.clock ≤ stamp event ∧
        step before.state event = some after.state ∧ after.clock = stamp event := by
  obtain ⟨next, clock⟩ := after
  unfold timedStep
  split
  · rename_i forward
    rw [Option.map_eq_some_iff]
    constructor
    · rintro ⟨stepped, ran, same⟩
      cases same
      exact ⟨forward, ran, rfl⟩
    · rintro ⟨-, ran, rfl⟩
      exact ⟨next, ran, rfl⟩
  · rename_i backward
    constructor
    · intro impossible
      cases impossible
    · rintro ⟨forward, -⟩
      exact (backward forward).elim

end SsnConsole.TimedRun
