import SsnConsole.CyclesMonitor
import SsnConsole.UsageStores

/-!
# The canister-otlp-syncer service

`Run` pages through the cycles-monitor canister, pushes every page and records
the latest usage of each canister at the end.  Between its calls it is kept as a
phase, so that every call can fail and every moment can be observed.
-/

namespace SsnConsole.CanisterOtlpSyncer

open Std
open SsnConsole.Backend (Principal)
open SsnConsole.CursorPaging
open SsnConsole.CyclesMonitor

/-- `unicode.IsSpace`. -/
def isSpace (char : Char) : Bool :=
  [0x20, 0x09, 0x0A, 0x0B, 0x0C, 0x0D, 0x85, 0xA0, 0x1680, 0x2028, 0x2029, 0x202F, 0x205F,
    0x3000].contains char.toNat || (0x2000 ≤ char.toNat && char.toNat ≤ 0x200A)

/-- `strings.TrimSpace`. -/
def trimSpace (text : List Char) : List Char :=
  ((text.dropWhile isSpace).reverse.dropWhile isSpace).reverse

/-- `strconv.ParseUint(text, 10, 64)`. -/
def parseUint (text : List Char) : Option UInt64 :=
  if text ≠ [] ∧ text.all Char.isDigit then
    if fits : Nat.ofDigitChars 10 text 0 < UInt64.size then
      some (.ofNatLT (Nat.ofDigitChars 10 text 0) fits)
    else
      none
  else
    none

/-- `strconv.FormatUint(ns, 10)`. -/
def formatUint (ns : UInt64) : List Char :=
  Nat.toDigits 10 ns.toNat

/-- The timestamp that a state file holds. -/
def fileTimestamp (stateFile : Option (List Char)) : Option UInt64 :=
  stateFile.bind fun contents => parseUint (trimSpace contents)

/-- `readStartTimestamp`: the stored timestamp, or an hour ago. -/
def readStartTimestamp (stateFile : Option (List Char)) (nowUnixNano : Int) : UInt64 :=
  (fileTimestamp stateFile).getD (.ofInt (nowUnixNano - 3600000000000))

/-- `minPrincipal`: 29 zero bytes. -/
def minPrincipal : Principal :=
  ⟨List.replicate 29 0, by decide⟩

/-- `v.Uint64()` of a big integer: its low 64 bits. -/
def toUint64 (value : Nat) : UInt64 :=
  .ofNat value

/-- The usage that `otlp.Build` derives from a snapshot. -/
def derivedUsage (snapshot : CyclesMetricsSnapshotDto) : Backend.Dto.CanisterUsage where
  canisterId := snapshot.canisterId
  memory := toUint64 snapshot.memory
  memoryBytes := toUint64 (snapshot.memory * (1024 * 1024 * 1024) / 127000)
  computeAllocation := toUint64 snapshot.computeAllocation
  computeAllocationPercent := toUint64 (snapshot.computeAllocation / 10000000)
  ingressInduction := toUint64 snapshot.ingressInduction
  ingressInductionBytesTotal := toUint64 (snapshot.ingressInduction / 2000)
  instructions := toUint64 snapshot.instructions
  computeTimeSecondsTotal := toUint64 (snapshot.instructions / 2000000000)
  requestAndResponseTransmission := toUint64 snapshot.requestAndResponseTransmission
  transmissionBytesTotal := toUint64 (snapshot.requestAndResponseTransmission / 1000)
  uninstall := toUint64 snapshot.uninstall
  uninstallsTotal := toUint64 (snapshot.uninstall / 5000000)
  httpOutcalls := toUint64 snapshot.httpOutcalls
  burnedCycles := toUint64 snapshot.burnedCycles

/-- `stamped`: the latest usage of a canister with its snapshot's time. -/
structure Stamped where
  usage : Backend.Dto.CanisterUsage
  ts : UInt64

/-- The latest usages by canister; the source keys them by the principal's text. -/
abbrev Latest := ExtTreeMap Principal Stamped

/-- Keep a snapshot's usage unless a later one of its canister is kept. -/
def keepLatest (latest : Latest) (snapshot : CyclesMetricsSnapshotDto) : Latest :=
  match latest[snapshot.canisterId]? with
  | some kept =>
      if snapshot.timestampNs ≥ kept.ts then
        latest.insert snapshot.canisterId ⟨derivedUsage snapshot, snapshot.timestampNs⟩
      else
        latest
  | none => latest.insert snapshot.canisterId ⟨derivedUsage snapshot, snapshot.timestampNs⟩

/-- The usages that a Run records at its end. -/
def latestUsages (latest : Latest) : List Backend.Dto.CanisterUsage :=
  latest.toList.map fun entry => entry.2.usage

/-- Which call a Run waits for, or that none is under way. -/
inductive Phase
  | idle
  | listing (cursor : Cursor) (latest : Latest)
  | pushing
      (snapshots : List CyclesMetricsSnapshotDto) (next : Option Cursor) (latest : Latest)
  | recording (latest : Latest)

/-- The service, with the snapshots that it was ever given and the usages that it recorded. -/
structure Syncer where
  stateFile : Option (List Char)
  phase : Phase
  returned : List CyclesMetricsSnapshotDto
  recorded : List Backend.Dto.CanisterUsage

/-- A service that has not run, with whatever file an earlier one left. -/
def Syncer.installed (stateFile : Option (List Char)) : Syncer :=
  ⟨stateFile, .idle, [], []⟩

/-- A Run starts, or the call that it waits for succeeds or fails. -/
inductive SyncerEvent
  | started (nowUnixNano : Int)
  | listed (snapshots : List CyclesMetricsSnapshotDto) (next : Option Cursor)
  | listingFailed
  | pushed
  | pushFailed
  | recorded
  | recordingFailed

namespace Syncer

/-- After a page: continue with the next one, or record what was collected. -/
def afterPage (syncer : Syncer) (next : Option Cursor) (latest : Latest) : Syncer :=
  match next with
  | some cursor =>
      { syncer with
        stateFile := some (formatUint cursor.1)
        phase := .listing cursor latest }
  | none =>
      { syncer with phase := if (latestUsages latest).isEmpty then .idle else .recording latest }

/-- One event; a call can only end while a Run waits for it. -/
def step (syncer : Syncer) (event : SyncerEvent) : Option Syncer :=
  match syncer.phase, event with
  | .idle, .started nowUnixNano =>
      some { syncer with
        phase := .listing (readStartTimestamp syncer.stateFile nowUnixNano, minPrincipal) ∅ }
  | .listing _ latest, .listed snapshots next =>
      let syncer := { syncer with returned := syncer.returned ++ snapshots }
      if snapshots.isEmpty then
        some (syncer.afterPage next latest)
      else
        some { syncer with phase := .pushing snapshots next latest }
  | .pushing snapshots next latest, .pushed =>
      some (syncer.afterPage next (snapshots.foldl keepLatest latest))
  | .recording latest, .recorded =>
      some { syncer with
        phase := .idle
        recorded := syncer.recorded ++ latestUsages latest }
  | .listing _ _, .listingFailed | .pushing _ _ _, .pushFailed
  | .recording _, .recordingFailed => some { syncer with phase := .idle }
  | _, _ => none

end Syncer

section StateFile

/-- Digits hold no spaces to trim. -/
theorem trimSpace_of_digits
    {text : List Char}
    (digits : ∀ char ∈ text, char.isDigit = true) :
    trimSpace text = text := by
  have noSpace (char : Char) (digit : char.isDigit = true) : isSpace char = false := by
    simp only [Char.isDigit, ge_iff_le, Bool.and_eq_true, decide_eq_true_eq] at digit
    have lower : 48 ≤ char.toNat := digit.1
    have upper : char.toNat ≤ 57 := digit.2
    unfold isSpace
    simp only [List.contains_eq_mem, Bool.or_eq_false_iff, decide_eq_false_iff_not,
      List.mem_cons, List.not_mem_nil, or_false, Bool.and_eq_false_imp, decide_eq_true_eq]
    omega
  have kept (text : List Char) (digits : ∀ char ∈ text, char.isDigit = true) :
      text.dropWhile isSpace = text := by
    rw [List.dropWhile_eq_self_iff]
    intro nonempty
    rw [noSpace _ (digits _ (List.getElem_mem nonempty))]
    decide
  unfold trimSpace
  rw [kept text digits, kept text.reverse fun char member => digits char (by simpa using member),
    List.reverse_reverse]

/-- A written timestamp is read back. -/
theorem fileTimestamp_formatUint
    (ns : UInt64) :
    fileTimestamp (some (formatUint ns)) = some ns := by
  have digits : ∀ char ∈ formatUint ns, char.isDigit = true := by
    intro char member
    exact Nat.isDigit_of_mem_toDigits (by decide) (by decide) member
  have value : Nat.ofDigitChars 10 (formatUint ns) 0 = ns.toNat :=
    Nat.ofDigitChars_ten_toDigits
  have fits : Nat.ofDigitChars 10 (formatUint ns) 0 < UInt64.size := by
    rw [value]
    exact ns.toNat_lt_size
  unfold fileTimestamp parseUint
  rw [Option.bind_some, trimSpace_of_digits digits,
    if_pos ⟨Nat.toDigits_ne_nil, List.all_eq_true.mpr digits⟩, dif_pos fits]
  congr 1
  rw [← UInt64.toNat_inj, UInt64.toNat_ofNatLT, value]

end StateFile

end SsnConsole.CanisterOtlpSyncer
