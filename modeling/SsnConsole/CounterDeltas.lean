import Mathlib

/-!
# Counting what a cumulative counter gained

A meter is read from time to time, and each reading is charged with what it
gained over a baseline: the previous reading, where the two are bridged, and
nothing otherwise.  The charges telescope exactly when no reading that already
counted for something is left behind.
-/

namespace SsnConsole.CounterDeltas

variable {Reading : Type}

section Definitions

variable (value : Reading → Nat)
variable (bridged : Reading → Reading → Prop) [DecidableRel bridged]

/-- The value of the last reading before this one, or nothing. -/
def valueOf : Option Reading → Nat
  | none => 0
  | some reading => value reading

/-- What a reading is compared with. -/
def baseline : Option Reading → Reading → Nat
  | none, _ => 0
  | some previous, reading => if bridged previous reading then value previous else 0

/-- The sum of the gains of the readings that follow `previous`. -/
def counted : Option Reading → List Reading → Nat
  | _, [] => 0
  | previous, reading :: rest =>
      value reading - baseline value bridged previous reading + counted (some reading) rest

/-- The values that were counted already when a reading without a baseline came. -/
def recounted : Option Reading → List Reading → Nat
  | _, [] => 0
  | previous, reading :: rest =>
      valueOf value previous - baseline value bridged previous reading +
        recounted (some reading) rest

/-- The last reading, or the previous one if there are none. -/
def lastReading (previous : Option Reading) : List Reading → Option Reading
  | [] => previous
  | reading :: rest => lastReading (some reading) rest

end Definitions

variable (value : Reading → Nat)
variable (bridged : Reading → Reading → Prop) [DecidableRel bridged]

/-- No baseline is above the previous reading. -/
theorem baseline_le
    (previous : Option Reading)
    (reading : Reading) :
    baseline value bridged previous reading ≤ valueOf value previous := by
  cases previous with
  | none =>
      simp [baseline]
  | some previous =>
      by_cases bridge : bridged previous reading
      · simp [baseline, valueOf, bridge]
      · simp [baseline, bridge]

/-- The gains of a nondecreasing meter and what they repeat add up to its last value. -/
theorem counted_add_valueOf
    (previous : Option Reading)
    {readings : List Reading}
    (notBelow : ∀ reading ∈ readings, valueOf value previous ≤ value reading)
    (nondecreasing : readings.Pairwise fun early late => value early ≤ value late) :
    counted value bridged previous readings + valueOf value previous =
      valueOf value (lastReading previous readings) +
        recounted value bridged previous readings := by
  induction readings generalizing previous with
  | nil =>
      simp [counted, recounted, lastReading]
  | cons reading rest inductionHypothesis =>
      obtain ⟨later, restNondecreasing⟩ := List.pairwise_cons.mp nondecreasing
      have restCounted :
          counted value bridged (some reading) rest + value reading =
            valueOf value (lastReading (some reading) rest) +
              recounted value bridged (some reading) rest :=
        inductionHypothesis (some reading) later restNondecreasing
      have gained := notBelow reading (by simp)
      have below := baseline_le value bridged previous reading
      simp only [counted, recounted, lastReading]
      omega

/-- After a reading, nothing is repeated exactly when the rest is bridged or starts at zero. -/
theorem recounted_some_eq_zero_iff
    {previous : Reading}
    {readings : List Reading} :
    recounted value bridged (some previous) readings = 0 ↔
      (previous :: readings).IsChain fun early late => bridged early late ∨ value early = 0 := by
  induction readings generalizing previous with
  | nil =>
      simp [recounted]
  | cons reading rest inductionHypothesis =>
      rw [List.isChain_cons_cons, ← inductionHypothesis]
      simp only [recounted, Nat.add_eq_zero_iff]
      apply and_congr_left'
      unfold baseline valueOf
      by_cases bridge : bridged previous reading
      · simp [bridge]
      · simp [bridge]

/-- A nondecreasing meter is counted up to its last value exactly when no reading is repeated. -/
theorem counted_eq_last_iff
    {readings : List Reading}
    (nondecreasing : readings.Pairwise fun early late => value early ≤ value late) :
    counted value bridged none readings = valueOf value (lastReading none readings) ↔
      readings.IsChain fun early late => bridged early late ∨ value early = 0 := by
  have balance := counted_add_valueOf value bridged none (fun _ _ => Nat.zero_le _)
    nondecreasing
  have nothing : valueOf value (none : Option Reading) = 0 := rfl
  have repeatedZero : recounted value bridged none readings = 0 ↔
      readings.IsChain fun early late => bridged early late ∨ value early = 0 := by
    cases readings with
    | nil =>
        simp [recounted]
    | cons reading rest =>
        rw [← recounted_some_eq_zero_iff]
        simp [recounted, valueOf]
  rw [← repeatedZero]
  omega

end SsnConsole.CounterDeltas
