import Mathlib

/-!
# Message slices

Between two awaits a canister message runs atomically and ends with a value or
an error.  An error does not undo the writes made before it, so the error part
sits above the state.  `Ends` describes where a slice started in a given state
ends, and its rules turn a slice into the conditions read off from its steps.
-/

namespace SsnConsole.MessageSlice

variable {σ ε δ α β : Type}

/-- A slice over state `σ`: its writes survive an error of type `ε`. -/
abbrev Slice (σ ε α : Type) : Type :=
  ExceptT ε (StateM σ) α

/-- The value or error of a slice run from a state, with the state it leaves. -/
def outcome (slice : Slice σ ε α) (state : σ) : Except ε α × σ :=
  slice.run.run state

/-- Read the state and fail with the error of a pure check, or use its value. -/
def check (verdict : σ → Except ε α) : Slice σ ε α :=
  fun state => (verdict state, state)

/-- Use the value that a lookup in the state finds, or fail with `error`. -/
def lookup (view : σ → Option α) (error : ε) : Slice σ ε α :=
  fun state =>
    (match view state with
      | some value => .ok value
      | none => .error error, state)

/-- Use a value that was parsed or validated without reading the state. -/
def require (verdict : Except ε α) : Slice σ ε α :=
  fun state => (verdict, state)

/-- Fail with `error` when the condition holds of the state. -/
def rejectIf (condition : σ → Bool) (error : ε) : Slice σ ε Unit :=
  fun state => (if condition state then .error error else .ok (), state)

/-- Use a value that the state is read for. -/
def inspect (view : σ → α) : Slice σ ε α :=
  fun state => (.ok (view state), state)

/-- Replace the state. -/
def write (update : σ → σ) : Slice σ ε Unit :=
  fun state => (.ok (), update state)

/-- Replace the state by the result of an update that may fail. -/
def tryWrite (update : σ → Except ε σ) : Slice σ ε Unit :=
  fun state =>
    match update state with
    | .ok after => (.ok (), after)
    | .error error => (.error error, state)

/-- Run a stateful step that cannot fail. -/
def commit (step : StateM σ α) : Slice σ ε α :=
  fun state => let (value, after) := step.run state; (.ok value, after)

/-- Change how a slice reports its errors. -/
def reportAs (rename : ε → δ) (slice : Slice σ ε α) : Slice σ δ α :=
  fun state =>
    match outcome slice state with
    | (.ok value, after) => (.ok value, after)
    | (.error error, after) => (.error (rename error), after)

/-- A slice from `state` ends in `onValue` or, having failed, in `onError`. -/
def Ends
    (slice : Slice σ ε α)
    (state : σ)
    (onValue : α → σ → Prop)
    (onError : ε → σ → Prop) : Prop :=
  match outcome slice state with
  | (.ok value, after) => onValue value after
  | (.error error, after) => onError error after

/-- A slice either fails without a trace or settles on a value and a state. -/
abbrev Settles
    (slice : Slice σ ε α)
    (state : σ)
    (onValue : α → σ → Prop) : Prop :=
  Ends slice state onValue fun _ after => after = state

section Verdicts

/-- A sequence of checks passes when each of them does. -/
theorem bind_eq_ok
    {first : Except ε β}
    {next : β → Except ε α}
    {value : α} :
    (first >>= next) = .ok value ↔
      ∃ intermediate, first = .ok intermediate ∧ next intermediate = .ok value := by
  cases first <;> simp [bind, Except.bind]

/-- A converted check passes when the check does. -/
theorem map_eq_ok
    {verdict : Except ε β}
    {convert : β → α}
    {value : α} :
    verdict.map convert = .ok value ↔
      ∃ intermediate, verdict = .ok intermediate ∧ convert intermediate = value := by
  cases verdict <;> simp [Except.map]

/-- A converted check fails as the check does. -/
theorem map_eq_error
    {verdict : Except ε β}
    {convert : β → α}
    {error : ε} :
    verdict.map convert = .error error ↔ verdict = .error error := by
  cases verdict <;> simp [Except.map]

end Verdicts

section Outcomes

variable {state : σ}

/-- A sequence continues with the value and the state of its first part. -/
theorem outcome_bind
    {first : Slice σ ε β}
    {next : β → Slice σ ε α} :
    outcome (first >>= next) state =
      match outcome first state with
      | (.ok value, after) => outcome (next value) after
      | (.error error, after) => (.error error, after) := by
  change
    (ExceptT.bindCont next (outcome first state).1).run (outcome first state).2 = _
  rcases outcome first state with ⟨_ | _, after⟩ <;> rfl

/-- A check leaves the state alone. -/
theorem outcome_check
    {verdict : σ → Except ε α} :
    outcome (check verdict) state = (verdict state, state) :=
  rfl

/-- A lookup leaves the state alone. -/
theorem outcome_lookup
    {view : σ → Option α}
    {error : ε} :
    outcome (lookup view error) state =
      (match view state with
        | some value => .ok value
        | none => .error error, state) :=
  rfl

/-- A rejection leaves the state alone. -/
theorem outcome_rejectIf
    {condition : σ → Bool}
    {error : ε} :
    outcome (rejectIf condition error) state =
      (if condition state then .error error else .ok (), state) :=
  rfl

/-- A failed update leaves the state alone. -/
theorem outcome_tryWrite
    {update : σ → Except ε σ} :
    outcome (tryWrite update) state =
      match update state with
      | .ok after => (.ok (), after)
      | .error error => (.error error, state) :=
  rfl

/-- Renaming errors keeps values and states. -/
theorem outcome_reportAs
    {slice : Slice σ ε α}
    {rename : ε → δ} :
    outcome (reportAs rename slice) state =
      match outcome slice state with
      | (.ok value, after) => (.ok value, after)
      | (.error error, after) => (.error (rename error), after) :=
  rfl

/-- A slice that succeeds has a value. -/
theorem exists_outcome_of_isOk
    {slice : Slice σ ε α}
    (succeeded : (outcome slice state).1.isOk = true) :
    ∃ value, outcome slice state = (.ok value, (outcome slice state).2) := by
  rcases ended : outcome slice state with ⟨error | value, after⟩
  · rw [ended] at succeeded
    cases succeeded
  · exact ⟨value, rfl⟩

end Outcomes

section Rules

variable {onValue : α → σ → Prop} {onError : ε → σ → Prop} {state : σ}

/-- What a slice ends in holds of its outcome. -/
theorem ends_iff_outcome
    {slice : Slice σ ε α} :
    Ends slice state onValue onError ↔
      (∀ value after, outcome slice state = (.ok value, after) → onValue value after) ∧
        ∀ error after, outcome slice state = (.error error, after) → onError error after := by
  unfold Ends
  rcases outcome slice state with ⟨_ | _, after⟩ <;> simp

/-- The state conditions of a slice that succeeded. -/
theorem Ends.of_ok
    {slice : Slice σ ε α}
    {value : α}
    {after : σ}
    (ends : Ends slice state onValue onError)
    (succeeded : outcome slice state = (.ok value, after)) :
    onValue value after :=
  (ends_iff_outcome.mp ends).1 value after succeeded

/-- A slice that cannot end but in one value succeeds with it. -/
theorem Ends.outcome_eq_ok
    {slice : Slice σ ε α}
    {expected : α}
    (ends : Ends slice state (fun value _ => value = expected) fun _ _ => False) :
    (outcome slice state).1 = .ok expected := by
  unfold Ends at ends
  split at ends
  · rename_i ended
    rw [ended, ends]
  · exact ends.elim

/-- Where a slice ends may be described more loosely. -/
theorem Ends.mono
    {slice : Slice σ ε α}
    {onValue' : α → σ → Prop}
    {onError' : ε → σ → Prop}
    (ends : Ends slice state onValue onError)
    (valueImplies : ∀ value after, onValue value after → onValue' value after)
    (errorImplies : ∀ error after, onError error after → onError' error after) :
    Ends slice state onValue' onError' := by
  rw [ends_iff_outcome] at ends ⊢
  exact
    ⟨fun value after ran => valueImplies value after (ends.1 value after ran),
      fun error after ran => errorImplies error after (ends.2 error after ran)⟩

@[simp]
theorem ends_pure
    {value : α} :
    Ends (pure value : Slice σ ε α) state onValue onError ↔ onValue value state :=
  Iff.rfl

@[simp]
theorem ends_bind
    {first : Slice σ ε β}
    {next : β → Slice σ ε α} :
    Ends (first >>= next) state onValue onError ↔
      Ends first state
        (fun value after => Ends (next value) after onValue onError) onError := by
  unfold Ends
  rw [outcome_bind]
  rcases outcome first state with ⟨_ | _, after⟩ <;> rfl

@[simp]
theorem ends_map
    {slice : Slice σ ε β}
    {convert : β → α} :
    Ends (convert <$> slice) state onValue onError ↔
      Ends slice state (fun value after => onValue (convert value) after) onError := by
  rw [map_eq_pure_bind, ends_bind]
  simp only [ends_pure]

@[simp]
theorem ends_check
    {verdict : σ → Except ε α} :
    Ends (check verdict) state onValue onError ↔
      (∀ value, verdict state = .ok value → onValue value state) ∧
        ∀ error, verdict state = .error error → onError error state := by
  unfold Ends
  rw [outcome_check]
  rcases verdict state with _ | _ <;> simp

@[simp]
theorem ends_lookup
    {view : σ → Option α}
    {error : ε} :
    Ends (lookup view error) state onValue onError ↔
      (∀ value, view state = some value → onValue value state) ∧
        (view state = none → onError error state) := by
  unfold Ends
  rw [outcome_lookup]
  rcases view state with _ | _ <;> simp

@[simp]
theorem ends_require
    {verdict : Except ε α} :
    Ends (require verdict) state onValue onError ↔
      (∀ value, verdict = .ok value → onValue value state) ∧
        ∀ error, verdict = .error error → onError error state := by
  change Ends (check fun _ => verdict) state onValue onError ↔ _
  exact ends_check

@[simp]
theorem ends_rejectIf
    {condition : σ → Bool}
    {error : ε}
    {onUnit : Unit → σ → Prop} :
    Ends (rejectIf condition error) state onUnit onError ↔
      (condition state = false → onUnit () state) ∧
        (condition state = true → onError error state) := by
  unfold Ends
  rw [outcome_rejectIf]
  rcases condition state <;> simp

@[simp]
theorem ends_inspect
    {view : σ → α} :
    Ends (inspect view : Slice σ ε α) state onValue onError ↔
      onValue (view state) state :=
  Iff.rfl

@[simp]
theorem ends_write
    {update : σ → σ}
    {onUnit : Unit → σ → Prop} :
    Ends (write update : Slice σ ε Unit) state onUnit onError ↔
      onUnit () (update state) :=
  Iff.rfl

@[simp]
theorem ends_tryWrite
    {update : σ → Except ε σ}
    {onUnit : Unit → σ → Prop} :
    Ends (tryWrite update) state onUnit onError ↔
      (∀ after, update state = .ok after → onUnit () after) ∧
        ∀ error, update state = .error error → onError error state := by
  unfold Ends
  rw [outcome_tryWrite]
  rcases update state with _ | _ <;> simp

@[simp]
theorem ends_commit
    {step : StateM σ α} :
    Ends (commit step : Slice σ ε α) state onValue onError ↔
      onValue (step.run state).1 (step.run state).2 :=
  Iff.rfl

@[simp]
theorem ends_reportAs
    {slice : Slice σ δ α}
    {rename : δ → ε} :
    Ends (reportAs rename slice) state onValue onError ↔
      Ends slice state onValue fun error after => onError (rename error) after := by
  unfold Ends
  rw [outcome_reportAs]
  rcases outcome slice state with ⟨_ | _, after⟩ <;> rfl

@[simp]
theorem ends_ite
    {condition : Prop}
    [Decidable condition]
    {first second : Slice σ ε α} :
    Ends (if condition then first else second) state onValue onError ↔
      (condition → Ends first state onValue onError) ∧
        (¬condition → Ends second state onValue onError) := by
  by_cases holds : condition <;> simp [holds]

end Rules

section Settling

variable {onValue : α → σ → Prop} {state : σ}

/-- A slice that starts with a check settles if it settles after passing it. -/
theorem Settles.check
    {verdict : σ → Except ε β}
    {next : β → Slice σ ε α}
    (passed : ∀ value, verdict state = .ok value → Settles (next value) state onValue) :
    Settles (MessageSlice.check verdict >>= next) state onValue := by
  refine ends_bind.mpr (ends_check.mpr ⟨passed, ?_⟩)
  exact fun _ _ => rfl

/-- A slice that starts with a pure requirement settles if it settles after it. -/
theorem Settles.require
    {verdict : Except ε β}
    {next : β → Slice σ ε α}
    (passed : ∀ value, verdict = .ok value → Settles (next value) state onValue) :
    Settles (MessageSlice.require verdict >>= next) state onValue := by
  refine ends_bind.mpr (ends_require.mpr ⟨passed, ?_⟩)
  exact fun _ _ => rfl

/-- A slice that starts with a lookup settles if it settles with what is found. -/
theorem Settles.lookup
    {view : σ → Option β}
    {error : ε}
    {next : β → Slice σ ε α}
    (found : ∀ value, view state = some value → Settles (next value) state onValue) :
    Settles (MessageSlice.lookup view error >>= next) state onValue := by
  refine ends_bind.mpr (ends_lookup.mpr ⟨found, ?_⟩)
  exact fun _ => rfl

/-- A slice that starts with a rejection settles if it settles when not rejected. -/
theorem Settles.rejectIf
    {condition : σ → Bool}
    {error : ε}
    {next : Unit → Slice σ ε α}
    (passed : condition state = false → Settles (next ()) state onValue) :
    Settles (MessageSlice.rejectIf condition error >>= next) state onValue := by
  refine ends_bind.mpr (ends_rejectIf.mpr ⟨passed, ?_⟩)
  exact fun _ => rfl

/-- A slice that starts by reading the state settles as it does with what it read. -/
theorem Settles.inspect
    {view : σ → β}
    {next : β → Slice σ ε α}
    (continued : Settles (next (view state)) state onValue) :
    Settles (MessageSlice.inspect view >>= next) state onValue :=
  ends_bind.mpr continued

/-- A slice that branches settles if it settles on either branch. -/
theorem Settles.ite
    {condition : Prop}
    [Decidable condition]
    {first second : Slice σ ε α}
    (holds : condition → Settles first state onValue)
    (fails : ¬condition → Settles second state onValue) :
    Settles (if condition then first else second) state onValue :=
  ends_ite.mpr ⟨holds, fails⟩

/-- A slice that ends with an update settles where the update leads. -/
theorem Settles.tryWrite
    {update : σ → Except ε σ}
    {value : α}
    (updated : ∀ after, update state = .ok after → onValue value after) :
    Settles (do MessageSlice.tryWrite update; return value) state onValue := by
  refine ends_bind.mpr (ends_tryWrite.mpr ⟨updated, ?_⟩)
  exact fun _ _ => rfl

end Settling

section Refusals

variable {state : σ} {error : ε}

/-- A slice refuses: it fails with this error and leaves the state alone. -/
abbrev Refuses
    (slice : Slice σ ε α)
    (state : σ)
    (error : ε) : Prop :=
  outcome slice state = (.error error, state)

/-- A slice whose first part refuses refuses. -/
theorem Refuses.bind
    {first : Slice σ ε β}
    {next : β → Slice σ ε α}
    (refuses : Refuses first state error) :
    Refuses (first >>= next) state error := by
  rw [Refuses, outcome_bind, refuses]

/-- A slice that refuses after a part that only read refuses. -/
theorem Refuses.after
    {first : Slice σ ε β}
    {next : β → Slice σ ε α}
    {value : β}
    (refuses : Refuses (next value) state error)
    (passed : outcome first state = (.ok value, state)) :
    Refuses (first >>= next) state error := by
  rw [Refuses, outcome_bind, passed]
  exact refuses

/-- A failing check refuses. -/
theorem Refuses.check
    {verdict : σ → Except ε α}
    (fails : verdict state = .error error) :
    Refuses (MessageSlice.check verdict) state error := by
  rw [Refuses, outcome_check, fails]

/-- An unmet requirement refuses. -/
theorem Refuses.require
    {verdict : Except ε α}
    (fails : verdict = .error error) :
    Refuses (MessageSlice.require verdict) state error :=
  Refuses.check fails

/-- A slice that refuses after a requirement that is met refuses. -/
theorem Refuses.afterRequire
    {verdict : Except ε β}
    {next : β → Slice σ ε α}
    {value : β}
    (met : verdict = .ok value)
    (refuses : Refuses (next value) state error) :
    Refuses (MessageSlice.require verdict >>= next) state error := by
  subst met
  exact refuses.after rfl

/-- A lookup that finds nothing refuses. -/
theorem Refuses.lookup
    {view : σ → Option α}
    (absent : view state = none) :
    Refuses (MessageSlice.lookup view error) state error := by
  rw [Refuses, outcome_lookup, absent]

/-- A refusal stays one when its value would be converted. -/
theorem Refuses.map
    {slice : Slice σ ε β}
    {convert : β → α}
    (refuses : Refuses slice state error) :
    Refuses (convert <$> slice) state error := by
  rw [map_eq_pure_bind]
  exact refuses.bind

/-- A refusal is reported under the new name of its error. -/
theorem Refuses.reportAs
    {slice : Slice σ ε α}
    {rename : ε → δ}
    (refuses : Refuses slice state error) :
    Refuses (MessageSlice.reportAs rename slice) state (rename error) := by
  rw [Refuses, outcome_reportAs, refuses]

end Refusals

end SsnConsole.MessageSlice
