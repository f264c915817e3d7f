import SsnConsole.CanisterOtlpSyncer
import SsnConsole.TextualHost

/-!
# The OTLP metrics of a page of snapshots

`Build` derives fourteen values from each snapshot and narrows each of them twice:
to the signed integer of a data point, where it saturates, and to the unsigned
integer of a usage, where only its low 64 bits are kept.
-/

namespace SsnConsole.CanisterOtlpSyncer

open SsnConsole.Backend (Principal Usage UsageField)
open SsnConsole.CyclesMonitor

/-- Big integers are naturals here: counters and constants are not negative. -/
structure MetricDef where
  name : String
  description : String
  unit : String
  value : CyclesMetricsSnapshotDto → Nat
  set : Backend.Dto.CanisterUsage → UInt64 → Backend.Dto.CanisterUsage

def cyclesPerGBPerSecond : Nat := 127000

def cyclesPerPercentComputePerSec : Nat := 10000000

def cyclesPerIngressByte : Nat := 2000

def cyclesPerTransmissionByte : Nat := 1000

def cyclesPerSecondOfCompute : Nat := 2000000000

def cyclesPerUninstall : Nat := 5000000

def bytesPerGB : Nat := 1024 * 1024 * 1024

/-- Every emitted metric in order. -/
def defs : List MetricDef :=
  [ { name := "ic_canister_memory_cycles_total"
      description := "Cumulative cycles burned for memory"
      unit := "cycles"
      value s := s.memory
      set u v := { u with memory := v } },
    { name := "ic_canister_memory_bytes"
      description := "Canister memory in bytes"
      unit := "byte-seconds"
      value s := s.memory * bytesPerGB / cyclesPerGBPerSecond
      set u v := { u with memoryBytes := v } },
    { name := "ic_canister_compute_allocation_cycles_total"
      description := "Cumulative cycles burned for compute allocation"
      unit := "cycles"
      value s := s.computeAllocation
      set u v := { u with computeAllocation := v } },
    { name := "ic_canister_compute_allocation_percent"
      description := "Canister compute allocation percentage"
      unit := "percent-seconds"
      value s := s.computeAllocation / cyclesPerPercentComputePerSec
      set u v := { u with computeAllocationPercent := v } },
    { name := "ic_canister_ingress_induction_cycles_total"
      description := "Cumulative cycles burned for ingress induction"
      unit := "cycles"
      value s := s.ingressInduction
      set u v := { u with ingressInduction := v } },
    { name := "ic_canister_ingress_induction_bytes_total"
      description :=
        "Total bytes of ingress induction including the base price represented as bytes"
      unit := "bytes"
      value s := s.ingressInduction / cyclesPerIngressByte
      set u v := { u with ingressInductionBytesTotal := v } },
    { name := "ic_canister_instructions_cycles_total"
      description := "Cumulative cycles burned for instructions"
      unit := "cycles"
      value s := s.instructions
      set u v := { u with instructions := v } },
    { name := "ic_canister_compute_time_seconds_total"
      description := "Total compute time in seconds (2b instructions = 1s)"
      unit := "seconds"
      value s := s.instructions / cyclesPerSecondOfCompute
      set u v := { u with computeTimeSecondsTotal := v } },
    { name := "ic_canister_request_response_transmission_cycles_total"
      description := "Cumulative cycles burned for request and response transmission"
      unit := "cycles"
      value s := s.requestAndResponseTransmission
      set u v := { u with requestAndResponseTransmission := v } },
    { name := "ic_canister_transmission_bytes_total"
      description :=
        "Total bytes of request and response transmission including the base price " ++
          "represented as bytes"
      unit := "bytes"
      value s := s.requestAndResponseTransmission / cyclesPerTransmissionByte
      set u v := { u with transmissionBytesTotal := v } },
    { name := "ic_canister_uninstall_cycles_total"
      description := "Cumulative cycles burned for uninstall"
      unit := "cycles"
      value s := s.uninstall
      set u v := { u with uninstall := v } },
    { name := "ic_canister_uninstalls_total"
      description := "Total uninstalls"
      unit := "count"
      value s := s.uninstall / cyclesPerUninstall
      set u v := { u with uninstallsTotal := v } },
    { name := "ic_canister_http_outcalls_cycles_total"
      description := "Cumulative cycles burned for HTTP outcalls"
      unit := "cycles"
      value s := s.httpOutcalls
      set u v := { u with httpOutcalls := v } },
    { name := "ic_canister_burned_cycles_total"
      description := "Total cumulative burned cycles"
      unit := "cycles"
      value s := s.burnedCycles
      set u v := { u with burnedCycles := v } } ]

/-- `strAttr`. -/
structure KeyValue where
  key : String
  stringValue : String
  deriving DecidableEq

structure NumberDataPoint where
  startTimeUnixNano : UInt64
  timeUnixNano : UInt64
  attributes : List KeyValue
  asInt : Int64
  deriving DecidableEq

inductive AggregationTemporality
  | unspecified
  | delta
  | cumulative
  deriving DecidableEq

/-- A metric whose data is a sum. -/
structure Metric where
  name : String
  description : String
  unit : String
  aggregationTemporality : AggregationTemporality
  isMonotonic : Bool
  dataPoints : List NumberDataPoint
  deriving DecidableEq

/-- Metrics of one resource in one scope. -/
structure ResourceMetrics where
  resource : List KeyValue
  scope : String
  metrics : List Metric
  deriving DecidableEq

/-- `bigToInt64`. -/
def bigToInt64 (value : Nat) : Int64 :=
  if value < 2 ^ 63 then .ofNat value else .maxValue

/-- No usage has been set yet. -/
def emptyUsage (canisterId : Principal) : Backend.Dto.CanisterUsage :=
  { Usage.default with canisterId := canisterId }

variable (text : Principal → String)

/-- The data point of a metric; `text` is `Principal.String`. -/
def dataPoint (snapshot : CyclesMetricsSnapshotDto) (metric : MetricDef) : NumberDataPoint where
  startTimeUnixNano := 0
  timeUnixNano := snapshot.timestampNs
  attributes := [⟨"canister_id", text snapshot.canisterId⟩]
  asInt := bigToInt64 (metric.value snapshot)

/-- How far the loop over the snapshots has got. -/
structure Building where
  dataPoints : List (List NumberDataPoint)
  usages : List Backend.Dto.CanisterUsage

/-- The loop's body. -/
def Building.add (building : Building) (snapshot : CyclesMetricsSnapshotDto) : Building where
  dataPoints :=
    List.zipWith (fun points metric => points ++ [dataPoint text snapshot metric])
      building.dataPoints defs
  usages :=
    building.usages ++
      [defs.foldl (fun usage metric => metric.set usage (toUint64 (metric.value snapshot)))
        (emptyUsage snapshot.canisterId)]

/-- The emitted metric of a definition: a cumulative sum. -/
def MetricDef.emitted (dataPoints : List NumberDataPoint) (metric : MetricDef) : Metric where
  name := metric.name
  description := metric.description
  unit := metric.unit
  aggregationTemporality := .cumulative
  isMonotonic := true
  dataPoints := dataPoints

/-- `Build`. -/
def build (snapshots : List CyclesMetricsSnapshotDto) (environment : String) :
    ResourceMetrics × List Backend.Dto.CanisterUsage :=
  let building := snapshots.foldl (Building.add text) ⟨defs.map fun _ => [], []⟩
  ({ resource :=
      [⟨"service.namespace", "ssn"⟩, ⟨"service.name", "canister-otlp-syncer"⟩,
        ⟨"deployment.environment", environment⟩]
     scope := "canister-otlp-syncer"
     metrics := List.zipWith MetricDef.emitted building.dataPoints defs },
    building.usages)

section Spec

/-- The quotient that a field of a usage stands for, computed from its counter. -/
def exactQuotient (counters : CyclesMetricsSnapshot) : UsageField → Nat
  | .memory => counters.memory
  | .memoryBytes => counters.memory * 2 ^ 30 / 127000
  | .computeAllocation => counters.computeAllocation
  | .computeAllocationPercent => counters.computeAllocation / 10000000
  | .ingressInduction => counters.ingressInduction
  | .ingressInductionBytesTotal => counters.ingressInduction / 2000
  | .instructions => counters.instructions
  | .computeTimeSecondsTotal => counters.instructions / 2000000000
  | .requestAndResponseTransmission => counters.requestAndResponseTransmission
  | .transmissionBytesTotal => counters.requestAndResponseTransmission / 1000
  | .uninstall => counters.uninstall
  | .uninstallsTotal => counters.uninstall / 5000000
  | .httpOutcalls => counters.httpOutcalls
  | .burnedCycles => counters.burnedCycles

/-- The fields whose metrics are emitted, in order. -/
def reportedFields : List UsageField :=
  [.memory, .memoryBytes, .computeAllocation, .computeAllocationPercent, .ingressInduction,
    .ingressInductionBytesTotal, .instructions, .computeTimeSecondsTotal,
    .requestAndResponseTransmission, .transmissionBytesTotal, .uninstall, .uninstallsTotal,
    .httpOutcalls, .burnedCycles]

/-- The place of a field's metric. -/
def metricIndex (field : UsageField) : Nat :=
  reportedFields.idxOf field

/-- The data point of a metric for the snapshot at a position. -/
def ResourceMetrics.pointAt (resourceMetrics : ResourceMetrics) (index position : Nat) :
    Option NumberDataPoint :=
  resourceMetrics.metrics[index]?.bind fun metric => metric.dataPoints[position]?

/-- The data points of a metric. -/
def ResourceMetrics.pointsOf (resourceMetrics : ResourceMetrics) (index : Nat) :
    List NumberDataPoint :=
  (resourceMetrics.metrics[index]?.map Metric.dataPoints).getD []

/-- No counter is less than it was. -/
structure CountersLe (earlier later : CyclesMetricsSnapshot) : Prop where
  memory : earlier.memory ≤ later.memory
  computeAllocation : earlier.computeAllocation ≤ later.computeAllocation
  ingressInduction : earlier.ingressInduction ≤ later.ingressInduction
  instructions : earlier.instructions ≤ later.instructions
  requestAndResponseTransmission :
    earlier.requestAndResponseTransmission ≤ later.requestAndResponseTransmission
  uninstall : earlier.uninstall ≤ later.uninstall
  httpOutcalls : earlier.httpOutcalls ≤ later.httpOutcalls
  burnedCycles : earlier.burnedCycles ≤ later.burnedCycles

/-- The low 64 bits of a number are what it saturates to. -/
def Narrows (quotient : Nat) : Prop :=
  quotient < 2 ^ 64 ∨ quotient % 2 ^ 64 = 2 ^ 64 - 1

instance (quotient : Nat) : Decidable (Narrows quotient) :=
  inferInstanceAs (Decidable (_ ∨ _))

end Spec

section Narrowing

/-- The low bits of a number are the number itself, or the greatest word. -/
theorem toNat_toUint64_eq_iff
    (quotient : Nat) :
    (toUint64 quotient).toNat = min (2 ^ 64 - 1) quotient ↔ Narrows quotient := by
  have low : (toUint64 quotient).toNat = quotient % 2 ^ 64 := UInt64.toNat_ofNat'
  unfold Narrows
  rw [low]
  by_cases fits : quotient < 2 ^ 64
  · have whole : quotient % 2 ^ 64 = quotient := Nat.mod_eq_of_lt fits
    have least : min (2 ^ 64 - 1) quotient = quotient :=
      Nat.min_eq_right (Nat.le_sub_one_of_lt fits)
    rw [whole, least]
    exact ⟨fun _ => Or.inl fits, fun _ => rfl⟩
  · have least : min (2 ^ 64 - 1) quotient = 2 ^ 64 - 1 :=
      Nat.min_eq_left (Nat.le_of_lt (Nat.lt_of_lt_of_le (by decide) (Nat.le_of_not_lt fits)))
    rw [least, or_iff_right fits]

/-- A data point saturates. -/
theorem toInt_bigToInt64
    (quotient : Nat) :
    (bigToInt64 quotient).toInt = min (2 ^ 63 - 1) quotient := by
  unfold bigToInt64
  split_ifs with fits
  · rw [Int64.toInt_ofNat_of_lt fits]
    omega
  · have greatest : Int64.maxValue.toInt = 2 ^ 63 - 1 := by
      decide
    rw [greatest]
    omega

/-- A greater quotient has no lesser data point. -/
theorem bigToInt64_mono
    {earlier later : Nat}
    (ordered : earlier ≤ later) :
    bigToInt64 earlier ≤ bigToInt64 later := by
  rw [Int64.le_iff_toInt_le, toInt_bigToInt64, toInt_bigToInt64]
  exact Int.ofNat_le.mpr (min_le_min_left _ ordered)

/-- A greater quotient has no lesser word, if both saturate. -/
theorem toUint64_mono
    {earlier later : Nat}
    (ordered : earlier ≤ later)
    (narrows : Narrows earlier)
    (laterNarrows : Narrows later) :
    toUint64 earlier ≤ toUint64 later := by
  rw [UInt64.le_iff_toNat_le, (toNat_toUint64_eq_iff earlier).mpr narrows,
    (toNat_toUint64_eq_iff later).mpr laterNarrows]
  exact min_le_min_left _ ordered

/-- Greater counters have no lesser quotients. -/
theorem CountersLe.exactQuotient_le
    {earlier later : CyclesMetricsSnapshot}
    (ordered : CountersLe earlier later)
    (field : UsageField) :
    exactQuotient earlier field ≤ exactQuotient later field := by
  cases field with
  | memory => exact ordered.memory
  | memoryBytes => exact Nat.div_le_div_right (Nat.mul_le_mul_right _ ordered.memory)
  | computeAllocation => exact ordered.computeAllocation
  | computeAllocationPercent => exact Nat.div_le_div_right ordered.computeAllocation
  | ingressInduction => exact ordered.ingressInduction
  | ingressInductionBytesTotal => exact Nat.div_le_div_right ordered.ingressInduction
  | instructions => exact ordered.instructions
  | computeTimeSecondsTotal => exact Nat.div_le_div_right ordered.instructions
  | requestAndResponseTransmission => exact ordered.requestAndResponseTransmission
  | transmissionBytesTotal =>
      exact Nat.div_le_div_right ordered.requestAndResponseTransmission
  | uninstall => exact ordered.uninstall
  | uninstallsTotal => exact Nat.div_le_div_right ordered.uninstall
  | httpOutcalls => exact ordered.httpOutcalls
  | burnedCycles => exact ordered.burnedCycles

end Narrowing

section Pages

/-- A usage holds the low bits of the exact quotients. -/
theorem get_derivedUsage
    (snapshot : CyclesMetricsSnapshotDto)
    (field : UsageField) :
    (derivedUsage snapshot).get field =
      toUint64 (exactQuotient snapshot.toCyclesMetricsSnapshot field) := by
  cases field <;> rfl

/-- The metrics have the exact quotients as their values. -/
theorem map_value_defs
    (snapshot : CyclesMetricsSnapshotDto) :
    defs.map (fun metric => metric.value snapshot) =
      reportedFields.map (exactQuotient snapshot.toCyclesMetricsSnapshot) :=
  rfl

/-- One snapshot adds its data point to every metric, and its usage. -/
theorem add_eq
    (seen : List CyclesMetricsSnapshotDto)
    (snapshot : CyclesMetricsSnapshotDto) :
    Building.add text
        ⟨defs.map fun metric => seen.map fun other => dataPoint text other metric,
          seen.map derivedUsage⟩
        snapshot =
      ⟨defs.map fun metric => (seen ++ [snapshot]).map fun other => dataPoint text other metric,
        (seen ++ [snapshot]).map derivedUsage⟩ := by
  have usage :
      defs.foldl (fun usage metric => metric.set usage (toUint64 (metric.value snapshot)))
          (emptyUsage snapshot.canisterId) =
        derivedUsage snapshot :=
    rfl
  have extended (metric : MetricDef) :
      (seen ++ [snapshot]).map (fun other => dataPoint text other metric) =
        seen.map (fun other => dataPoint text other metric) ++ [dataPoint text snapshot metric] :=
    List.map_append
  unfold Building.add
  dsimp only
  rw [usage, List.zipWith_map_left, List.zipWith_self, List.map_append]
  simp only [extended]
  rfl

/-- The loop has the data points of every metric, and the usages, of the snapshots it has seen. -/
theorem foldl_add
    (seen rest : List CyclesMetricsSnapshotDto) :
    rest.foldl (Building.add text)
        ⟨defs.map fun metric => seen.map fun other => dataPoint text other metric,
          seen.map derivedUsage⟩ =
      ⟨defs.map fun metric => (seen ++ rest).map fun other => dataPoint text other metric,
        (seen ++ rest).map derivedUsage⟩ := by
  induction rest generalizing seen with
  | nil => rw [List.append_nil, List.foldl_nil]
  | cons snapshot rest hypothesis =>
      have assembled : seen ++ snapshot :: rest = seen ++ [snapshot] ++ rest := by
        rw [List.append_assoc]
        rfl
      rw [List.foldl_cons, add_eq, hypothesis, assembled]

/-- The usages of a page are derived from its snapshots, one by one. -/
theorem build_usages
    (snapshots : List CyclesMetricsSnapshotDto)
    (environment : String) :
    (build text snapshots environment).2 = snapshots.map derivedUsage :=
  congrArg Building.usages (foldl_add text [] snapshots)

/-- The metrics of a page have the data points of its snapshots, one by one. -/
theorem build_metrics
    (snapshots : List CyclesMetricsSnapshotDto)
    (environment : String) :
    (build text snapshots environment).1.metrics =
      defs.map fun metric =>
        metric.emitted (snapshots.map fun snapshot => dataPoint text snapshot metric) := by
  have points := congrArg Building.dataPoints (foldl_add text [] snapshots)
  have zipped := congrArg (fun points => List.zipWith MetricDef.emitted points defs) points
  dsimp only at zipped
  rw [List.zipWith_map_left, List.zipWith_self] at zipped
  exact zipped

/-- A metric has a data point for each snapshot. -/
theorem pointAt_build
    (snapshots : List CyclesMetricsSnapshotDto)
    (environment : String)
    (index position : Nat) :
    (build text snapshots environment).1.pointAt index position =
      defs[index]?.bind fun metric =>
        snapshots[position]?.map fun snapshot => dataPoint text snapshot metric := by
  unfold ResourceMetrics.pointAt
  rw [build_metrics, List.getElem?_map, Option.bind_map]
  congr 1
  funext metric
  exact List.getElem?_map

/-- The metric of a field has the field's quotient as its value. -/
theorem exists_metric
    (field : UsageField) :
    ∃ metric, defs[metricIndex field]? = some metric ∧
      ∀ snapshot : CyclesMetricsSnapshotDto,
        metric.value snapshot = exactQuotient snapshot.toCyclesMetricsSnapshot field := by
  have reported : reportedFields[metricIndex field]? = some field := by
    cases field <;> rfl
  have within : metricIndex field < defs.length := (List.getElem?_eq_some_iff.mp reported).1
  refine ⟨defs[metricIndex field], List.getElem?_eq_getElem within, ?_⟩
  intro snapshot
  have values := congrArg (fun numbers => numbers[metricIndex field]?) (map_value_defs snapshot)
  rw [List.getElem?_map, List.getElem?_map, reported, List.getElem?_eq_getElem within] at values
  exact Option.some.inj values

/-- The data point of a field's metric for a snapshot saturates. -/
theorem exists_pointAt
    {snapshots : List CyclesMetricsSnapshotDto}
    {position : Nat}
    {snapshot : CyclesMetricsSnapshotDto}
    (given : snapshots[position]? = some snapshot)
    (environment : String)
    (field : UsageField) :
    ∃ point,
      (build text snapshots environment).1.pointAt (metricIndex field) position = some point ∧
        point.timeUnixNano = snapshot.timestampNs ∧
        point.asInt = bigToInt64 (exactQuotient snapshot.toCyclesMetricsSnapshot field) := by
  obtain ⟨metric, found, value⟩ := exists_metric field
  refine ⟨dataPoint text snapshot metric, ?_, rfl, congrArg bigToInt64 (value snapshot)⟩
  rw [pointAt_build, found, given]
  rfl

/--
A data point always saturates at the greatest signed integer.  A field of a usage is the
quotient, saturated at the greatest unsigned one, exactly if the quotient's low 64 bits
are.  Where no counter is less than it was, no data point is, and no such field.
-/
theorem build_saturates_iff
    {snapshots : List CyclesMetricsSnapshotDto}
    {position : Nat}
    {snapshot : CyclesMetricsSnapshotDto}
    (given : snapshots[position]? = some snapshot)
    (environment : String) :
    ∃ usage, (build text snapshots environment).2[position]? = some usage ∧
      usage.canisterId = snapshot.canisterId ∧
      (∀ field,
        let quotient := exactQuotient snapshot.toCyclesMetricsSnapshot field
        (∃ point,
          (build text snapshots environment).1.pointAt (metricIndex field) position =
              some point ∧
            point.timeUnixNano = snapshot.timestampNs ∧
            point.asInt.toInt = min (2 ^ 63 - 1) quotient) ∧
          ((usage.get field).toNat = min (2 ^ 64 - 1) quotient ↔
            quotient < 2 ^ 64 ∨ quotient % 2 ^ 64 = 2 ^ 64 - 1)) ∧
      ∀ laterSnapshots laterPosition later laterEnvironment,
        laterSnapshots[laterPosition]? = some later →
          CountersLe snapshot.toCyclesMetricsSnapshot later.toCyclesMetricsSnapshot →
            ∃ laterUsage,
              (build text laterSnapshots laterEnvironment).2[laterPosition]? =
                  some laterUsage ∧
                ∀ field,
                  (∃ point laterPoint,
                    (build text snapshots environment).1.pointAt (metricIndex field)
                          position =
                        some point ∧
                      (build text laterSnapshots laterEnvironment).1.pointAt
                          (metricIndex field) laterPosition =
                        some laterPoint ∧
                      point.asInt ≤ laterPoint.asInt) ∧
                    (Narrows (exactQuotient snapshot.toCyclesMetricsSnapshot field) →
                      Narrows (exactQuotient later.toCyclesMetricsSnapshot field) →
                        usage.get field ≤ laterUsage.get field) := by
  have usage : (build text snapshots environment).2[position]? = some (derivedUsage snapshot) := by
    rw [build_usages, List.getElem?_map, given]
    rfl
  refine ⟨_, usage, rfl, ?_, ?_⟩
  · intro field quotient
    obtain ⟨point, found, time, value⟩ := exists_pointAt text given environment field
    refine ⟨⟨point, found, time, ?_⟩, ?_⟩
    · rw [value]
      exact toInt_bigToInt64 quotient
    · rw [get_derivedUsage]
      exact toNat_toUint64_eq_iff quotient
  · intro laterSnapshots laterPosition later laterEnvironment laterGiven ordered
    have laterUsage :
        (build text laterSnapshots laterEnvironment).2[laterPosition]? =
          some (derivedUsage later) := by
      rw [build_usages, List.getElem?_map, laterGiven]
      rfl
    refine ⟨_, laterUsage, ?_⟩
    intro field
    have quotients := ordered.exactQuotient_le field
    obtain ⟨point, found, -, value⟩ := exists_pointAt text given environment field
    obtain ⟨laterPoint, laterFound, -, laterValue⟩ :=
      exists_pointAt text laterGiven laterEnvironment field
    refine ⟨⟨point, laterPoint, found, laterFound, ?_⟩, ?_⟩
    · rw [value, laterValue]
      exact bigToInt64_mono quotients
    · intro narrows laterNarrows
      rw [get_derivedUsage, get_derivedUsage]
      exact toUint64_mono quotients narrows laterNarrows

/-- A snapshot of a canister that has burned cycles for its memory only. -/
def memorySnapshot (memory : Nat) : CyclesMetricsSnapshotDto :=
  { memory := memory, computeAllocation := 0, ingressInduction := 0, instructions := 0,
    requestAndResponseTransmission := 0, uninstall := 0, httpOutcalls := 0, burnedCycles := 0,
    timestampNs := 100, canisterId := ⟨[31], by decide⟩ }

/-- The memory of a snapshot whose derived values all fit. -/
theorem build_saturates_fitting :
    ∃ usage,
      (build Backend.TextualHost.principalText [memorySnapshot 127000] "production").2[0]? =
          some usage ∧
        (usage.get .memoryBytes).toNat = 2 ^ 30 := by
  obtain ⟨usage, found, -, fields, -⟩ :=
    build_saturates_iff Backend.TextualHost.principalText
      (rfl : [memorySnapshot 127000][0]? = some (memorySnapshot 127000)) "production"
  refine ⟨usage, found, ?_⟩
  have value := (fields .memoryBytes).2.mpr (by decide)
  rw [value]
  decide

/-- The memory bytes of more cycles are fewer than they were, and not saturated. -/
theorem build_wraps :
    exactQuotient (memorySnapshot (2 ^ 52)).toCyclesMetricsSnapshot .memoryBytes ≥ 2 ^ 64 ∧
      ∃ earlier later,
        (build Backend.TextualHost.principalText
              [memorySnapshot 2181843000000000, memorySnapshot (2 ^ 52)] "production").2 =
            [earlier, later] ∧
          (later.get .memoryBytes).toNat ≠
            min (2 ^ 64 - 1)
              (exactQuotient (memorySnapshot (2 ^ 52)).toCyclesMetricsSnapshot .memoryBytes) ∧
          later.get .memoryBytes < earlier.get .memoryBytes := by
  refine ⟨by decide, _, _, build_usages _ _ _, ?_, ?_⟩
  · decide +kernel
  · decide +kernel

end Pages

end SsnConsole.CanisterOtlpSyncer
