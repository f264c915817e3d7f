import SsnConsole.MetricsAccess
import SsnConsole.UrlQuery

/-!
# What Grafana reads of a query

A query is sent as whole seconds in a URL.  The bounds on its range and step hold
of the numbers that Grafana reads, and the query text is read as it was built.
-/

namespace SsnConsole.MetricsProxy

open SsnConsole.AgentGo
open SsnConsole.GoStandard
open SsnConsole.IiAuth
open SsnConsole.UrlQuery

section Client

/-- The parameters of a range query. -/
def rangeValues (request : QueryRangeRequest) : Values :=
  ((((∅ : Values).set (bytesOf "query") (bytesOf request.query)).set (bytesOf "start")
      (bytesOf (toString (unixSeconds request.start)))).set (bytesOf "end")
    (bytesOf (toString (unixSeconds request.stop)))).set (bytesOf "step")
      (bytesOf (toString (request.step.nanoseconds / second) ++ "s"))

/-- `HTTPClient.QueryRange` up to the request: its URL. -/
def queryRangeURL (baseURL : Bytes) (request : QueryRangeRequest) : Except String Bytes :=
  if baseURL = [] then
    .error "grafana: base URL not configured"
  else
    .ok (baseURL ++ bytesOf "/api/v1/query_range?" ++ (rangeValues request).encode)

/-- The values of a range query. -/
theorem valuesOf_rangeValues
    (request : QueryRangeRequest)
    (name : Bytes) :
    (rangeValues request).valuesOf name =
      if name = bytesOf "step" then
        [bytesOf (toString (request.step.nanoseconds / second) ++ "s")]
      else if name = bytesOf "end" then
        [bytesOf (toString (unixSeconds request.stop))]
      else if name = bytesOf "start" then
        [bytesOf (toString (unixSeconds request.start))]
      else if name = bytesOf "query" then
        [bytesOf request.query]
      else
        [] := by
  simp only [rangeValues, Values.valuesOf_set, Values.valuesOf_empty]

/-- As numbers of 64 bits, the seconds of a bounded range differ by at most the longest range. -/
theorem seconds_of_bounded
    {start stop : Int}
    {step : Duration}
    (bounded : Bounded start stop step) :
    (0 ≤ Int.bmod (unixSeconds stop - unixSeconds start) (2 ^ 64) ∧
        Int.bmod (unixSeconds stop - unixSeconds start) (2 ^ 64) ≤ 31 * 24 * 3600) ∧
      1 ≤ step.nanoseconds / second ∧ step.nanoseconds / second ≤ 24 * 3600 := by
  have ordered := bounded.ordered
  have range : stop - start ≤ 31 * 24 * 3600 * 1000000000 := bounded.range
  have coarse : 1000000000 ≤ step.nanoseconds := bounded.coarse
  have fine : step.nanoseconds ≤ 24 * 3600 * 1000000000 := bounded.fine
  have difference :
      Int.bmod (unixSeconds stop - unixSeconds start) (2 ^ 64) =
        stop / second - start / second := by
    rw [unixSeconds, unixSeconds, ← Int.sub_bmod]
    have width : ((2 ^ 64 : Nat) : Int) = 18446744073709551616 := by
      norm_num
    apply Int.bmod_eq_of_le_mul_two
    · rw [width]
      unfold second
      omega
    · rw [width]
      unfold second
      omega
  rw [difference]
  unfold second
  omega

end Client

section Requests

variable [Certification] [PrincipalText] [ProxyLibraries] {ε : Type} {deps : Deps} {start : Int}

/--
Of every query that the proxy sends, Grafana reads the text that names one series
of the catalogue and the canister of the request, a start and an end whose
difference, as 64-bit numbers, is at most 31 days and not negative, a step of a
second to a day, and nothing else.
-/
theorem grafanaRequest_bounded
    (run : MetricsRun ε deps start)
    (time : Nat)
    (within : time < run.length)
    (admitted : Admitted)
    (call : WaitingCall)
    (metric : Metric)
    (query : QueryRangeRequest)
    (forwards : run.Forwards time admitted call metric query)
    (baseURL : Bytes)
    (configured : baseURL ≠ []) :
    ∃ text,
      queryRangeURL baseURL query =
          .ok (baseURL ++ bytesOf "/api/v1/query_range?" ++ text) ∧
        ∃ first last step : Int,
          (∀ name,
            (parseQuery text).valuesOf name =
              if name = bytesOf "step" then
                [bytesOf (toString step ++ "s")]
              else if name = bytesOf "end" then
                [bytesOf (toString last)]
              else if name = bytesOf "start" then
                [bytesOf (toString first)]
              else if name = bytesOf "query" then
                [bytesOf (promQuery metric admitted.request.canisterID)]
              else
                []) ∧
            metric ∈ catalogue ∧
              (0 ≤ Int.bmod (last - first) (2 ^ 64) ∧
                Int.bmod (last - first) (2 ^ 64) ≤ 31 * 24 * 3600) ∧
                1 ≤ step ∧ step ≤ 24 * 3600 := by
  obtain ⟨-, rangeNow, concluded⟩ := MetricsRun.concluded_of_forwards within.le forwards
  obtain ⟨-, member, -, text, bounded⟩ := concludeQuery_eq_forward concluded
  obtain ⟨range, step⟩ := seconds_of_bounded bounded
  refine
    ⟨(rangeValues query).encode, if_neg configured, unixSeconds query.start,
      unixSeconds query.stop, query.step.nanoseconds / second, ?_, member, range, step⟩
  intro name
  rw [valuesOf_parseQuery_encode, valuesOf_rangeValues, text]

end Requests

section RecordedQuery

attribute [local instance] recorded userTexts recordedLibraries

/-- Grafana reads the query of the recorded request with a step within the bounds. -/
theorem grafanaRequest_bounded_memoryRun :
    ∃ query text,
      queryRangeURL (bytesOf "https://grafana.example") query =
          .ok (bytesOf "https://grafana.example" ++ bytesOf "/api/v1/query_range?" ++ text) ∧
        ∃ step : Int,
          (parseQuery text).valuesOf (bytesOf "step") = [bytesOf (toString step ++ "s")] ∧
            1 ≤ step ∧ step ≤ 24 * 3600 := by
  obtain ⟨admitted, call, metric, query, forwards⟩ := memoryRun_forwards
  obtain ⟨text, built, first, last, step, read, -, -, bounds⟩ :=
    grafanaRequest_bounded memoryRun 4 (by decide) admitted call metric query forwards
      (bytesOf "https://grafana.example") (by decide +kernel)
  refine ⟨query, text, built, step, ?_, bounds⟩
  rw [read, if_pos rfl]

end RecordedQuery

end SsnConsole.MetricsProxy
