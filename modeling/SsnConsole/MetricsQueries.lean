import SsnConsole.DelegatedAuthentication

/-!
# What the metrics proxy asks Grafana for

A client names a metric of the catalogue and a range.  The range is bounded
before anything is sent, so that one call cannot ask for too many points.
-/

namespace SsnConsole.MetricsProxy

open SsnConsole.GoStandard
open SsnConsole.IiAuth (rejectWhen rejectWhen_eq_ok)
open SsnConsole.MessageSlice (bind_eq_ok)

/-- What the model takes from `time`, `fmt` and `agent-go` as it is. -/
class ProxyLibraries where
  /-- `time.Parse(time.RFC3339, v)`, in nanoseconds since 1970. -/
  parseRFC3339 : Bytes → Option Int
  /-- `time.ParseDuration`. -/
  parseDuration : Bytes → Except String Duration
  /-- The verb `%q`. -/
  quote : String → String
  /-- Whether `principal.Decode` succeeds, or its error. -/
  decodePrincipal : String → Except String Unit

open ProxyLibraries

section Catalogue

/-- `Metric`. -/
structure Metric where
  slug : String
  series : String
  unit : String
  description : String
  deriving DecidableEq

/-- `catalogue`. -/
def catalogue : List Metric :=
  [{ slug := "memory-bytes"
     series := "ic_canister_memory_bytes"
     unit := "bytes"
     description := "Canister memory usage." },
   { slug := "compute-time-seconds"
     series := "ic_canister_compute_time_seconds_total"
     unit := "seconds"
     description := "Cumulative compute time billed to the canister." },
   { slug := "burned-cycles"
     series := "ic_canister_burned_cycles_total"
     unit := "cycles"
     description := "Cumulative cycles burned by the canister." }]

/-- `Lookup`. -/
def lookup (slug : String) : Option Metric :=
  catalogue.find? fun metric => metric.slug = slug

/-- What is looked up is in the catalogue, under its slug. -/
theorem mem_catalogue_of_lookup
    {slug : String}
    {metric : Metric}
    (found : lookup slug = some metric) :
    metric ∈ catalogue ∧ metric.slug = slug :=
  ⟨List.mem_of_find?_eq_some found, by simpa using List.find?_some found⟩

end Catalogue

section Range

/-- A number of seconds. -/
def second : Int :=
  1000000000

/-- `defaultStep`. -/
def defaultStep : Duration :=
  ⟨60 * (1000 * 1000000), by decide⟩

/-- `maxStep`. -/
def maxStep : Duration :=
  ⟨24 * 3600 * 1000000000, by decide⟩

/-- `maxRange`. -/
def maxRange : Duration :=
  ⟨31 * 24 * 3600 * 1000000000, by decide⟩

/-- The seconds from the year 1, from which Go counts, to 1970. -/
def unixToInternal : Int :=
  62135596800

/-- `time.Unix(n, 0)`: the count of seconds from the year 1 wraps. -/
def unixTime (seconds : Int) : Int :=
  (Int.bmod (seconds + unixToInternal) (2 ^ 64) - unixToInternal) * second

/-- `Time.Unix`. -/
def unixSeconds (time : Int) : Int :=
  Int.bmod (time / second) (2 ^ 64)

variable [ProxyLibraries]

/-- `parseTime`. -/
def parseTime (v : Bytes) : Except String Int :=
  match parseRFC3339 v with
  | some time => .ok time
  | none =>
      match parseInt64 v with
      | some n => .ok (unixTime n)
      | none => .error "expected RFC3339 or unix seconds"

/-- Read a parameter if it is there. -/
def parameter {α : Type} (name : String) (parse : Bytes → Except String α) (default : α)
    (v : Bytes) : Except String α :=
  if v = [] then
    .ok default
  else
    (parse v).mapError fun error => s!"invalid {name}: {error}"

/-- `parseRange`: start, end and step of a query, where a missing parameter reads as the empty
one. -/
def parseRange (query : String → Bytes) (now : Int) : Except String (Int × Int × Duration) := do
  let start ← parameter "from" parseTime (now - 3600 * second) (query "from")
  let stop ← parameter "to" parseTime now (query "to")
  let step ← parameter "step" parseDuration defaultStep (query "step")
  rejectWhen (decide ¬start < stop) "to must be after from"
  rejectWhen (decide (maxRange.nanoseconds < (timeSub stop start).nanoseconds))
    "range exceeds 744h0m0s"
  rejectWhen (decide (step.nanoseconds < second)) "step must be >= 1s"
  rejectWhen (decide (maxStep.nanoseconds < step.nanoseconds)) "step exceeds 24h0m0s"
  return (start, stop, step)

/-- The bounds of a query. -/
structure Bounded (start stop : Int) (step : Duration) : Prop where
  ordered : start < stop
  range : stop - start ≤ maxRange.nanoseconds
  coarse : second ≤ step.nanoseconds
  fine : step.nanoseconds ≤ maxStep.nanoseconds

omit [ProxyLibraries] in
/-- Nothing is lost to the limits of durations: a difference beyond them exceeds the range. -/
theorem sub_le_maxRange_iff
    {start stop : Int}
    (ordered : start < stop) :
    ¬maxRange.nanoseconds < (timeSub stop start).nanoseconds ↔
      stop - start ≤ maxRange.nanoseconds := by
  have limit : maxRange.nanoseconds < 2 ^ 63 - 1 := by decide
  unfold timeSub Duration.saturate
  split
  · exfalso
    omega
  · split
    · show ¬maxRange.nanoseconds < 2 ^ 63 - 1 ↔ _
      omega
    · show ¬maxRange.nanoseconds < stop - start ↔ _
      omega

/-- A range is accepted exactly if its parameters are read and within the bounds. -/
theorem parseRange_eq_ok_iff
    {query : String → Bytes}
    {now start stop : Int}
    {step : Duration} :
    parseRange query now = .ok (start, stop, step) ↔
      parameter "from" parseTime (now - 3600 * second) (query "from") = .ok start ∧
        parameter "to" parseTime now (query "to") = .ok stop ∧
          parameter "step" parseDuration defaultStep (query "step") = .ok step ∧
            Bounded start stop step := by
  constructor
  · intro accepted
    obtain ⟨first, startRead, accepted⟩ := bind_eq_ok.mp accepted
    obtain ⟨last, stopRead, accepted⟩ := bind_eq_ok.mp accepted
    obtain ⟨duration, stepRead, accepted⟩ := bind_eq_ok.mp accepted
    obtain ⟨⟨⟩, ordered, accepted⟩ := bind_eq_ok.mp accepted
    obtain ⟨⟨⟩, range, accepted⟩ := bind_eq_ok.mp accepted
    obtain ⟨⟨⟩, coarse, accepted⟩ := bind_eq_ok.mp accepted
    obtain ⟨⟨⟩, fine, answered⟩ := bind_eq_ok.mp accepted
    cases answered
    simp only [rejectWhen_eq_ok, decide_eq_false_iff_not, not_not] at ordered range coarse fine
    exact
      ⟨startRead, stopRead, stepRead,
        { ordered := ordered
          range := (sub_le_maxRange_iff ordered).mp range
          coarse := not_lt.mp coarse
          fine := not_lt.mp fine }⟩
  · rintro ⟨startRead, stopRead, stepRead, bounded⟩
    have ordered : rejectWhen (decide ¬start < stop) "to must be after from" = .ok () := by
      simpa using bounded.ordered
    have range :
        rejectWhen (decide (maxRange.nanoseconds < (timeSub stop start).nanoseconds))
          "range exceeds 744h0m0s" = .ok () :=
      rejectWhen_eq_ok.mpr
        (decide_eq_false ((sub_le_maxRange_iff bounded.ordered).mpr bounded.range))
    have coarse :
        rejectWhen (decide (step.nanoseconds < second)) "step must be >= 1s" = .ok () :=
      rejectWhen_eq_ok.mpr (decide_eq_false bounded.coarse.not_gt)
    have fine :
        rejectWhen (decide (maxStep.nanoseconds < step.nanoseconds)) "step exceeds 24h0m0s" =
          .ok () :=
      rejectWhen_eq_ok.mpr (decide_eq_false bounded.fine.not_gt)
    exact
      bind_eq_ok.mpr ⟨start, startRead, bind_eq_ok.mpr ⟨stop, stopRead,
        bind_eq_ok.mpr ⟨step, stepRead, bind_eq_ok.mpr ⟨(), ordered,
          bind_eq_ok.mpr ⟨(), range, bind_eq_ok.mpr ⟨(), coarse,
            bind_eq_ok.mpr ⟨(), fine, rfl⟩⟩⟩⟩⟩⟩⟩

end Range

end SsnConsole.MetricsProxy
