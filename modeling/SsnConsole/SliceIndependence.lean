import SsnConsole.MessageSlice

/-!
# Slices that ignore a change

A slice ignores a change of the state when it makes no difference whether the
change comes before or after it: the slice neither reads what the change writes
nor writes what the change reads.  The rules follow the steps of a slice.
-/

namespace SsnConsole.MessageSlice

variable {σ ε δ α β : Type}

/-- The slice ends alike from a changed state, and its writes commute with the change. -/
def Ignores (change : σ → σ) (slice : Slice σ ε α) : Prop :=
  ∀ state,
    outcome slice (change state) = ((outcome slice state).1, change (outcome slice state).2)

/-- The same of a step that cannot fail. -/
def Commutes (change : σ → σ) (step : StateM σ α) : Prop :=
  ∀ state, step.run (change state) = ((step.run state).1, change (step.run state).2)

namespace Commutes

variable {change : σ → σ}

/-- A value reads and writes nothing. -/
theorem pure
    (value : α) :
    Commutes change (Pure.pure value : StateM σ α) :=
  fun _ => rfl

/-- A sequence commutes with what both of its parts do. -/
theorem bind
    {first : StateM σ β}
    {next : β → StateM σ α}
    (begins : Commutes change first)
    (continues : ∀ value, Commutes change (next value)) :
    Commutes change (first >>= next) := by
  intro state
  rw [StateT.run_bind, StateT.run_bind, begins state]
  exact continues (first.run state).1 (first.run state).2

end Commutes

namespace Ignores

variable {change : σ → σ}

/-- A value reads and writes nothing. -/
theorem pure
    (value : α) :
    Ignores change (Pure.pure value : Slice σ ε α) :=
  fun _ => rfl

/-- An error reads and writes nothing. -/
theorem throw
    (error : ε) :
    Ignores change (MonadExcept.throw error : Slice σ ε α) :=
  fun _ => rfl

/-- A sequence ignores what both of its parts do. -/
theorem bind
    {first : Slice σ ε β}
    {next : β → Slice σ ε α}
    (begins : Ignores change first)
    (continues : ∀ value, Ignores change (next value)) :
    Ignores change (first >>= next) := by
  intro state
  rw [outcome_bind, outcome_bind, begins state]
  rcases outcome first state with ⟨_ | value, after⟩
  · rfl
  · exact continues value after

/-- A converted value comes from the same run. -/
theorem map
    {slice : Slice σ ε β}
    (convert : β → α)
    (ignores : Ignores change slice) :
    Ignores change (convert <$> slice) := by
  rw [map_eq_pure_bind]
  exact ignores.bind fun value => pure (convert value)

/-- A check ignores what its verdict does not depend on. -/
theorem check
    {verdict : σ → Except ε α}
    (same : ∀ state, verdict (change state) = verdict state) :
    Ignores change (MessageSlice.check verdict) := by
  intro state
  rw [outcome_check, outcome_check, same]

/-- A lookup ignores what it does not search. -/
theorem lookup
    {view : σ → Option α}
    {error : ε}
    (same : ∀ state, view (change state) = view state) :
    Ignores change (MessageSlice.lookup view error) := by
  intro state
  rw [outcome_lookup, outcome_lookup, same]

/-- A requirement reads nothing. -/
theorem require
    (verdict : Except ε α) :
    Ignores change (MessageSlice.require verdict) :=
  fun _ => rfl

/-- A rejection ignores what its condition does not depend on. -/
theorem rejectIf
    {condition : σ → Bool}
    {error : ε}
    (same : ∀ state, condition (change state) = condition state) :
    Ignores change (MessageSlice.rejectIf condition error) := by
  intro state
  rw [outcome_rejectIf, outcome_rejectIf, same]

/-- An inspection ignores what it does not read. -/
theorem inspect
    {view : σ → α}
    (same : ∀ state, view (change state) = view state) :
    Ignores change (MessageSlice.inspect view : Slice σ ε α) := by
  intro state
  exact congrArg (fun value => (Except.ok value, change state)) (same state)

/-- A write ignores a change that it commutes with. -/
theorem write
    {update : σ → σ}
    (commutes : ∀ state, update (change state) = change (update state)) :
    Ignores change (MessageSlice.write update : Slice σ ε Unit) := by
  intro state
  exact congrArg (fun after => (Except.ok (), after)) (commutes state)

/-- An update that may fail ignores a change that it commutes with. -/
theorem tryWrite
    {update : σ → Except ε σ}
    (commutes : ∀ state, update (change state) = (update state).map change) :
    Ignores change (MessageSlice.tryWrite update) := by
  intro state
  rw [outcome_tryWrite, outcome_tryWrite, commutes]
  cases update state <;> rfl

/-- So does one that stores what the state was read for. -/
theorem tryStore
    {view : σ → Except ε β}
    {store : β → σ → σ}
    (same : ∀ state, view (change state) = view state)
    (commutes : ∀ value state, store value (change state) = change (store value state)) :
    Ignores change
      (MessageSlice.tryWrite fun state =>
        (view state).map fun value => store value state) := by
  apply tryWrite
  intro state
  rw [same]
  cases view state with
  | error error => rfl
  | ok value => exact congrArg Except.ok (commutes value state)

/-- A committed step ignores a change that it commutes with. -/
theorem commit
    {step : StateM σ α}
    (commutes : Commutes change step) :
    Ignores change (MessageSlice.commit step : Slice σ ε α) := by
  intro state
  exact congrArg (fun result => (Except.ok result.1, result.2)) (commutes state)

/-- Renaming errors changes no run. -/
theorem reportAs
    {slice : Slice σ ε α}
    (rename : ε → δ)
    (ignores : Ignores change slice) :
    Ignores change (MessageSlice.reportAs rename slice) := by
  intro state
  rw [outcome_reportAs, outcome_reportAs, ignores state]
  rcases outcome slice state with ⟨_ | _, after⟩ <;> rfl

/-- A branch ignores what both of its sides do. -/
theorem ite
    {condition : Prop}
    [Decidable condition]
    {first second : Slice σ ε α}
    (holds : Ignores change first)
    (fails : Ignores change second) :
    Ignores change (if condition then first else second) := by
  split
  · exact holds
  · exact fails

end Ignores

end SsnConsole.MessageSlice
