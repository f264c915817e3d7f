import SsnConsole.MessageRun

/-!
# Runs of a component

A component of a system moves at some events of the system and rests at the others.
A run of the system then is a run of the component as well, and every move has its
place in it.
-/

namespace SsnConsole.ComponentRuns

open SsnConsole.MessageRun

variable {State Event Part PartEvent : Type}
variable {step : State → Event → Option State} {initial : State}
variable {partStep : Part → PartEvent → Option Part}

/-- A part of the states of a run that moves at some of its events. -/
structure Component
    (execution : Execution step initial)
    (partStep : Part → PartEvent → Option Part) where
  view : State → Part
  /-- The event of the component at a time, if it moves. -/
  event : Nat → Option PartEvent
  moves :
    ∀ time < execution.length, ∀ happened, event time = some happened →
      partStep (view (execution.state time)) happened =
        some (view (execution.state (time + 1)))
  rests :
    ∀ time < execution.length,
      event time = none → view (execution.state (time + 1)) = view (execution.state time)

namespace Component

variable {execution : Execution step initial} (component : Component execution partStep)

/-- The events of the component before a time. -/
def events (time : Nat) : List PartEvent :=
  (List.range time).filterMap component.event

/-- How often the component moves before a time. -/
def count (time : Nat) : Nat :=
  (component.events time).length

/-- One more time, one more event if the component moves. -/
theorem events_succ
    (time : Nat) :
    component.events (time + 1) = component.events time ++ (component.event time).toList := by
  rw [events, List.range_succ, List.filterMap_append]
  congr 1

/-- Earlier events come first. -/
theorem events_prefix
    {earlier later : Nat}
    (ordered : earlier ≤ later) :
    component.events earlier <+: component.events later := by
  induction later, ordered using Nat.le_induction with
  | base => exact List.prefix_refl _
  | succ later _ inductionHypothesis =>
      rw [events_succ]
      exact inductionHypothesis.trans (List.prefix_append _ _)

/-- A move comes after those before it, and before those after it. -/
theorem count_lt_count
    {earlier later : Nat}
    {happened : PartEvent}
    (before : earlier < later)
    (moved : component.event earlier = some happened) :
    component.count earlier < component.count later := by
  have within := (component.events_prefix (Nat.succ_le_of_lt before)).length_le
  rw [Nat.succ_eq_add_one, events_succ, moved, List.length_append] at within
  exact within

/-- The events of the component lead to its part of the state. -/
theorem runEvents_events
    {time : Nat}
    (within : time ≤ execution.length) :
    runEvents partStep (component.view initial) (component.events time) =
      some (component.view (execution.state time)) := by
  induction time with
  | zero =>
      rw [execution.starts]
      rfl
  | succ time inductionHypothesis =>
      have earlier := inductionHypothesis (Nat.le_of_succ_le within)
      cases happened : component.event time with
      | none =>
          rw [events_succ, happened, Option.toList_none, List.append_nil, earlier,
            component.rests time within happened]
      | some event =>
          rw [events_succ, happened, Option.toList_some, runEvents_concat, earlier,
            Option.bind_some, component.moves time within event happened]

/-- The run of the component; `idle` stands after its end. -/
def run (idle : PartEvent) : Execution partStep (component.view initial) :=
  .ofEvents (component.events execution.length) idle
    (Option.isSome_of_eq_some (component.runEvents_events (Nat.le_refl _)))

variable {idle : PartEvent} {time : Nat}

/-- A time of the run is in time for the component. -/
theorem count_le_length
    (within : time ≤ execution.length) :
    component.count time ≤ (component.run idle).length :=
  (component.events_prefix within).length_le

/-- The states of the run of the component are those of its part. -/
theorem run_state
    (within : time ≤ execution.length) :
    (component.run idle).state (component.count time) =
      component.view (execution.state time) := by
  have taken :
      (component.events execution.length).take (component.count time) =
        component.events time :=
    List.prefix_iff_eq_take.mp (component.events_prefix within) |>.symm
  show ((runEvents partStep (component.view initial)
      ((component.events execution.length).take (component.count time))).getD _) = _
  rw [taken, component.runEvents_events within, Option.getD_some]

/-- A move of the component stands in its place of the component's run. -/
theorem run_event
    {happened : PartEvent}
    (within : time < execution.length)
    (moved : component.event time = some happened) :
    component.count time < (component.run idle).length ∧
      (component.run idle).event (component.count time) = happened := by
  have inside := component.count_lt_count within moved
  have next : component.events (time + 1) = component.events time ++ [happened] := by
    rw [events_succ, moved, Option.toList_some]
  obtain ⟨rest, joined⟩ := component.events_prefix (Nat.succ_le_of_lt within)
  rw [Nat.succ_eq_add_one, next, List.append_assoc] at joined
  refine ⟨inside, ?_⟩
  show ((component.events execution.length)[component.count time]?).getD idle = happened
  rw [← joined]
  simp [count]

/-- Every event of the component's run is one of its moves. -/
theorem exists_move
    {place : Nat}
    (within : place < (component.run idle).length) :
    ∃ time < execution.length,
      component.count time = place ∧
        component.event time = some ((component.run idle).event place) := by
  have least :
      ∀ bound ≤ execution.length, place < component.count bound →
        ∃ time < bound, component.count time = place ∧
          ∃ happened, component.event time = some happened := by
    intro bound inside counted
    induction bound with
    | zero => cases counted
    | succ bound inductionHypothesis =>
        rcases Nat.lt_or_ge place (component.count bound) with earlier | reached
        · obtain ⟨time, before, rest⟩ :=
            inductionHypothesis (Nat.le_of_succ_le inside) earlier
          exact ⟨time, Nat.lt_succ_of_lt before, rest⟩
        · unfold count at counted reached
          rw [events_succ] at counted
          cases happened : component.event bound with
          | none =>
              rw [happened, Option.toList_none, List.append_nil] at counted
              omega
          | some event =>
              rw [happened, Option.toList_some, List.length_append,
                List.length_singleton] at counted
              refine ⟨bound, Nat.lt_succ_self bound, ?_, event, happened⟩
              unfold count
              omega
  obtain ⟨time, before, counted, happened, moved⟩ := least execution.length le_rfl within
  refine ⟨time, before, counted, ?_⟩
  have same : (component.run idle).event (component.count time) = happened :=
    (component.run_event before moved).2
  rw [← counted, same, moved]

end Component

end SsnConsole.ComponentRuns
