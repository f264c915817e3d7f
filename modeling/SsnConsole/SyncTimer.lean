import SsnConsole.BackendAccess
import SsnConsole.MessageRun

/-!
# The sync timers

`define_timer!` gives a canister a timer that runs its sync function over and over.
A guard keeps two runs apart, a run queues the next timer when it ends, and a
controller may start a run early.  Firing a timer and running its function are
separate messages, and other messages come in while a run awaits its calls.
-/

namespace SsnConsole.CanisterUtils

open SsnConsole.Backend (ApiResult Call assertController)
open SsnConsole.MessageRun

/-- The arguments of `define_timer!` that its functions read. -/
structure TimerDefinition where
  logName : String
  maxTime : Nat
  minTime : Nat

/-- `history_timer` of the canister-history canister. -/
def historyTimer : TimerDefinition :=
  ⟨"canister history sync", 300000000000, 60000000000⟩

/-- `cycles_timer` of the cycles-monitor canister. -/
def cyclesTimer : TimerDefinition :=
  ⟨"canister metrics sync", 5 * 60 * 1000000000, 60 * 1000000000⟩

abbrev TimerId := Nat

/-- A timer that is set and has neither fired nor been cleared. -/
structure PendingTimer where
  id : TimerId
  delayNanos : Nat
  deriving DecidableEq

/-- The variables of the module, and what is under way. -/
structure TimerState where
  /-- `TIMERS`. -/
  timers : Option TimerId
  /-- `IS_TIMER_RUNNING`. -/
  isTimerRunning : Bool
  pending : List PendingTimer
  /-- Timers that have fired, and whose function has not run yet. -/
  fired : List TimerId
  /-- The sync runs in progress: when each began. -/
  running : List Nat
  /-- How many timers have been set. -/
  timersSet : Nat
  deriving DecidableEq

namespace TimerState

/-- A new module has no timers. -/
def new : TimerState :=
  ⟨none, false, [], [], [], 0⟩

/-- `set_timer`: the new timer, and the state in which it is pending. -/
def setTimer (delayNanos : Nat) (s : TimerState) : TimerId × TimerState :=
  (s.timersSet,
    { s with
      pending := s.pending ++ [⟨s.timersSet, delayNanos⟩]
      timersSet := s.timersSet + 1 })

/-- `clear_timer`; it may or may not reach a timer that has fired already. -/
def clearTimer (clearsFired : Bool) (id : TimerId) (s : TimerState) : TimerState :=
  { s with
    pending := s.pending.filter fun timer => timer.id ≠ id
    fired := if clearsFired then s.fired.filter fun other => other ≠ id else s.fired }

/-- Set a timer and store it. -/
def queueTimer (delayNanos : Nat) (s : TimerState) : TimerState :=
  { (s.setTimer delayNanos).2 with timers := some (s.setTimer delayNanos).1 }

/-- `setup_timer`. -/
def setupTimer (s : TimerState) : TimerState :=
  s.queueTimer 0

/-- `TimerRunGuard::new`. -/
def newGuard (s : TimerState) : Except Unit TimerState :=
  if s.isTimerRunning then .error () else .ok { s with isTimerRunning := true }

/-- `TimerRunGuard::drop`. -/
def dropGuard (s : TimerState) : TimerState :=
  { s with isTimerRunning := false }

/-- `run_timer_and_queue_next` up to the first call that it awaits. -/
def beginRun (now : Nat) (s : TimerState) : TimerState :=
  { s with running := s.running ++ [now] }

/-- The run at this place is over. -/
def endRun (execution : Nat) (s : TimerState) : TimerState :=
  { s with running := s.running.eraseIdx execution }

end TimerState

variable (timer : TimerDefinition)
variable (clearsFired : Bool)

/-- `run_timer`. -/
def runTimer (now : Nat) (s : TimerState) : Except String Unit × TimerState :=
  match s.newGuard with
  | .error () =>
      (.error
        s!"Timer already in progress. No new timer was triggered for {timer.logName}.", s)
  | .ok s =>
      match s.timers with
      | none => (.ok (), s.beginRun now)
      | some id => (.ok (), ({ s with timers := none }.clearTimer clearsFired id).beginRun now)

/-- `timer_fn` up to the first call that its run awaits. -/
def timerFn (now : Nat) (s : TimerState) : TimerState :=
  match s.newGuard with
  | .error () => s
  | .ok s => s.beginRun now

/-- `run_timer_and_queue_next` once the sync function has returned, and the end of the guard. -/
def queueNext (execution began now : Nat) (s : TimerState) : TimerState :=
  let timeDiffNanos := now - began
  let nextRunNanos := max (timer.maxTime - timeDiffNanos) timer.minTime
  ((s.queueTimer nextRunNanos).endRun execution).dropGuard

/-- What happens to a canister's timer. -/
inductive TimerEvent
  | fired (id : TimerId)
  | timerFn (id : TimerId) (now : Nat)
  | runTimer (now : Nat)
  | resumed (execution : Nat)
  | returned (execution : Nat) (result : ApiResult Unit) (now : Nat)

/-- One message.  A run that resumes awaits its next call; an error that it returns is only
printed. -/
def timerStep (s : TimerState) : TimerEvent → Option TimerState
  | .fired id =>
      if s.pending.any (·.id == id) then
        some { s with
          pending := s.pending.eraseP (·.id == id)
          fired := s.fired ++ [id] }
      else
        none
  | .timerFn id now =>
      if id ∈ s.fired then
        some (timerFn now { s with fired := s.fired.erase id })
      else
        none
  | .runTimer now => some (runTimer timer clearsFired now s).2
  | .resumed execution => if execution < s.running.length then some s else none
  | .returned execution _ now =>
      s.running[execution]?.map fun began => queueNext timer execution began now s

/-- The request to sync of both canisters: its message. -/
def triggerSync (call : Call) (s : TimerState) : ApiResult String × TimerState :=
  match assertController call with
  | .error err => (.error err, s)
  | .ok () =>
      match runTimer timer clearsFired call.now s with
      | (.ok (), s) => (.ok "Sync triggered successfully.", s)
      | (.error message, s) => (.ok message, s)

/-- What every message leaves as it is: the guard is held by the only run there is, and where
there is no run a timer will start one. -/
structure Kept (s : TimerState) : Prop where
  guarded : s.running.length = if s.isTimerRunning then 1 else 0
  awaited : s.isTimerRunning = false → s.pending ≠ [] ∨ s.fired ≠ []
  soon : ∀ pending ∈ s.pending, pending.delayNanos ≤ max timer.maxTime timer.minTime

section Messages

variable {timer : TimerDefinition}
variable {clearsFired : Bool}
variable {s : TimerState}

/-- A new module waits for its first timer. -/
theorem kept_setupTimer :
    Kept timer TimerState.new.setupTimer where
  guarded := rfl
  awaited _ := Or.inl (List.cons_ne_nil _ _)
  soon := by
    intro pending member
    rw [List.mem_singleton.mp member]
    exact Nat.zero_le _

/-- Without the guard there is no run. -/
theorem Kept.idle
    (kept : Kept timer s)
    (free : s.isTimerRunning = false) :
    s.running = [] := by
  have none := kept.guarded
  rw [free] at none
  exact List.length_eq_zero_iff.mp none

/-- With the guard there is a run. -/
theorem Kept.busy
    (kept : Kept timer s)
    (held : s.isTimerRunning = true) :
    s.running.length = 1 := by
  have one := kept.guarded
  rw [held] at one
  exact one

/-- A run that begins with the guard in hand, and without another one, is the only run. -/
theorem kept_beginRun
    (held : s.isTimerRunning = true)
    (idle : s.running = [])
    (soon : ∀ pending ∈ s.pending, pending.delayNanos ≤ max timer.maxTime timer.minTime)
    (now : Nat) :
    Kept timer (s.beginRun now) where
  guarded := by
    change (s.running ++ [now]).length = if s.isTimerRunning then 1 else 0
    rw [held, idle]
    rfl
  awaited free := absurd (held.symm.trans free) Bool.noConfusion
  soon := soon

/-- The function of a timer leaves it to the run in progress. -/
theorem timerFn_busy
    (held : s.isTimerRunning = true)
    (now : Nat) :
    timerFn now s = s := by
  unfold timerFn TimerState.newGuard
  rw [held]
  rfl

/-- Otherwise it begins a run. -/
theorem timerFn_free
    (free : s.isTimerRunning = false)
    (now : Nat) :
    timerFn now s = { s with isTimerRunning := true }.beginRun now := by
  unfold timerFn TimerState.newGuard
  rw [free]
  rfl

/-- A request to run is turned down, and changes nothing, while a run is in progress. -/
theorem runTimer_busy
    (held : s.isTimerRunning = true)
    (now : Nat) :
    runTimer timer clearsFired now s =
      (.error s!"Timer already in progress. No new timer was triggered for {timer.logName}.",
        s) := by
  unfold runTimer TimerState.newGuard
  rw [held]
  rfl

/-- Otherwise it clears the stored timer and begins a run. -/
theorem runTimer_free
    (free : s.isTimerRunning = false)
    (now : Nat) :
    ∃ cleared : TimerState,
      runTimer timer clearsFired now s = (.ok (), cleared.beginRun now) ∧
        cleared.isTimerRunning = true ∧ cleared.running = s.running ∧
        ∀ pending ∈ cleared.pending, pending ∈ s.pending := by
  unfold runTimer TimerState.newGuard
  rw [free]
  cases s.timers with
  | none => exact ⟨_, rfl, rfl, rfl, fun _ member => member⟩
  | some id => exact ⟨_, rfl, rfl, rfl, fun _ member => List.mem_of_mem_filter member⟩

/-- The function of a timer that has fired. -/
theorem Kept.timerFn
    (kept : Kept timer s)
    (id : TimerId)
    (now : Nat) :
    Kept timer (timerFn now { s with fired := s.fired.erase id }) := by
  rcases Bool.eq_false_or_eq_true s.isTimerRunning with held | free
  · have busy := timerFn_busy (s := { s with fired := s.fired.erase id }) held now
    rw [busy]
    exact ⟨kept.guarded, fun free => absurd (held.symm.trans free) Bool.noConfusion, kept.soon⟩
  · have begun := timerFn_free (s := { s with fired := s.fired.erase id }) free now
    rw [begun]
    apply kept_beginRun
    · rfl
    · exact kept.idle free
    · exact kept.soon

/-- A request to run. -/
theorem Kept.runTimer
    (kept : Kept timer s)
    (now : Nat) :
    Kept timer (runTimer timer clearsFired now s).2 := by
  cases held : s.isTimerRunning with
  | true =>
      rw [runTimer_busy held]
      exact kept
  | false =>
      obtain ⟨cleared, ran, guard, same, fewer⟩ := runTimer_free held now
      have idle : cleared.running = [] := same.trans (kept.idle held)
      rw [ran]
      exact kept_beginRun guard idle (fun pending member => kept.soon _ (fewer _ member)) now

/-- A run that ends has queued the next timer. -/
theorem Kept.queueNext
    (kept : Kept timer s)
    {execution began : Nat}
    (ended : s.running[execution]? = some began)
    (now : Nat) :
    Kept timer (queueNext timer execution began now s) where
  guarded := by
    have bound : execution < s.running.length := (List.getElem?_eq_some_iff.mp ended).1
    have one : s.running.length = 1 := by
      cases held : s.isTimerRunning with
      | true => exact kept.busy held
      | false =>
          rw [kept.idle held] at bound
          exact absurd bound (Nat.not_lt_zero _)
    change (s.running.eraseIdx execution).length = 0
    rw [List.length_eraseIdx_of_lt bound, one]
  awaited _ := by
    left
    exact List.append_ne_nil_of_right_ne_nil _ (List.cons_ne_nil _ _)
  soon := by
    intro pending member
    rcases List.mem_append.mp member with earlier | queued
    · exact kept.soon pending earlier
    · rw [List.mem_singleton.mp queued]
      exact max_le_max (Nat.sub_le _ _) (Nat.le_refl _)

/-- Every message keeps it. -/
theorem Kept.timerStep
    (kept : Kept timer s)
    {event : TimerEvent}
    {after : TimerState}
    (stepped : timerStep timer clearsFired s event = some after) :
    Kept timer after := by
  cases event with
  | fired id =>
      rw [CanisterUtils.timerStep] at stepped
      split_ifs at stepped
      cases stepped
      refine ⟨kept.guarded, fun _ => Or.inr ?_, ?_⟩
      · exact List.append_ne_nil_of_right_ne_nil _ (List.cons_ne_nil _ _)
      · intro pending member
        exact kept.soon pending (List.mem_of_mem_eraseP member)
  | timerFn id now =>
      rw [CanisterUtils.timerStep] at stepped
      split_ifs at stepped
      cases stepped
      exact kept.timerFn id now
  | runTimer now =>
      cases stepped
      exact kept.runTimer now
  | resumed execution =>
      rw [CanisterUtils.timerStep] at stepped
      split_ifs at stepped
      cases stepped
      exact kept
  | returned execution result now =>
      obtain ⟨began, ended, rfl⟩ := Option.map_eq_some_iff.mp stepped
      exact kept.queueNext ended now

/-- A request to sync runs the timer, or changes nothing. -/
theorem triggerSync_step
    (call : Call)
    (s : TimerState) :
    (triggerSync timer clearsFired call s).2 = s ∨
      timerStep timer clearsFired s (.runTimer call.now) =
        some (triggerSync timer clearsFired call s).2 := by
  unfold triggerSync
  cases assertController call with
  | error err => exact Or.inl rfl
  | ok _ =>
      right
      cases ran : runTimer timer clearsFired call.now s with
      | mk result after =>
          rw [timerStep, ran]
          cases result with
          | error message => rfl
          | ok _ => rfl

/--
Whatever messages come in, at most one sync run is in progress; where there is none,
a timer is pending or has fired, and the function of any that has fired begins a run;
and a request that is turned down leaves everything as it is.
-/
theorem syncTimer_neverStops
    (timer : TimerDefinition)
    (clearsFired : Bool)
    {s : TimerState}
    (reachable :
      Reachable (timerStep timer clearsFired) (fun _ _ => True) TimerState.new.setupTimer s) :
    s.running.length ≤ 1 ∧
      (s.running = [] →
        (s.pending ≠ [] ∨ s.fired ≠ []) ∧
          ∀ id ∈ s.fired, ∀ now, ∃ after,
            timerStep timer clearsFired s (.timerFn id now) = some after ∧
              after.running = [now]) ∧
      ∀ now message after,
        runTimer timer clearsFired now s = (.error message, after) →
          after = s ∧ s.running ≠ [] := by
  have kept : Kept timer s :=
    reachable.invariant kept_setupTimer fun _ _ _ _ kept _ stepped => kept.timerStep stepped
  have free (idle : s.running = []) : s.isTimerRunning = false := by
    rcases Bool.eq_false_or_eq_true s.isTimerRunning with held | free
    · have busy := kept.busy held
      rw [idle] at busy
      cases busy
    · exact free
  refine ⟨?_, ?_, ?_⟩
  · rw [kept.guarded]
    split_ifs
    · exact Nat.le_refl 1
    · exact Nat.zero_le 1
  · intro idle
    refine ⟨kept.awaited (free idle), ?_⟩
    intro id member now
    have begun := timerFn_free (s := { s with fired := s.fired.erase id }) (free idle) now
    refine ⟨_, if_pos member, ?_⟩
    rw [begun]
    change s.running ++ [now] = [now]
    rw [idle]
    rfl
  · intro now message after rejected
    rcases Bool.eq_false_or_eq_true s.isTimerRunning with held | unheld
    · rw [runTimer_busy held] at rejected
      cases rejected
      refine ⟨rfl, ?_⟩
      intro idle
      exact absurd (held.symm.trans (free idle)) Bool.noConfusion
    · obtain ⟨cleared, ran, -⟩ := runTimer_free unheld now
      rw [ran] at rejected
      cases rejected

/-- A request to run comes in during the first run, which then fails. -/
theorem syncTimer_failedRun :
    ∃ s,
      runEvents (timerStep historyTimer false) TimerState.new.setupTimer
          [.fired 0, .timerFn 0 5, .runTimer 7, .resumed 0,
            .returned 0 (.error (.internalError "timeout")) 10] =
        some s ∧
        s.running = [] ∧ (s.pending ≠ [] ∨ s.fired ≠ []) := by
  have ran :
      runEvents (timerStep historyTimer false) TimerState.new.setupTimer
          [.fired 0, .timerFn 0 5, .runTimer 7, .resumed 0,
            .returned 0 (.error (.internalError "timeout")) 10] =
        some ⟨some 1, false, [⟨1, 299999999995⟩], [], [], 2⟩ := by
    decide +kernel
  have reachable := Reachable.initial.runEvents (fun _ _ _ => trivial) ran
  obtain ⟨-, waiting, -⟩ := syncTimer_neverStops historyTimer false reachable
  exact ⟨_, ran, rfl, (waiting rfl).1⟩

end Messages

end SsnConsole.CanisterUtils
