import SsnConsole.AgentGo
import SsnConsole.ExpiringCache
import SsnConsole.MessageRun

/-!
# The authorization cache of the metrics proxy

`authCache.allows` reads the clock and answers from the user's entry, or asks
the authorizer and stores its reply.  Calls run side by side: each is atomic but
for the time that it waits for the authorizer, and the replies to calls of one
user come in any order.
-/

namespace SsnConsole.MetricsProxy

open Std
open SsnConsole.AgentGo
open SsnConsole.ExpiringCache
open SsnConsole.MessageRun

section Caches

variable [PrincipalText]

/-- The reply of `ListUserReadableCanisters`. -/
abbrev AuthorizerReply (ε : Type) : Type :=
  Except ε (List Principal)

/-- The set of canister identifiers of a reply. -/
def canisterIDs (list : List Principal) : ExtTreeSet String :=
  ExtTreeSet.ofList (list.map Principal.text)

/-- A call of `allows` that waits for the authorizer. -/
structure WaitingCall where
  user : Principal
  canisterID : String
  /-- What the call read from the clock. -/
  now : Int
  deriving DecidableEq

/-- `authCache`, the calls that wait, and the last reading of the clock. -/
structure AuthCache where
  out : Cache String (ExtTreeSet String)
  waiting : List WaitingCall
  clock : Int

namespace AuthCache

/-- `newAuthCache`. -/
def new (clock : Int) : AuthCache :=
  ⟨∅, [], clock⟩

/-- `allows` up to the call of the authorizer: a verdict, or one more call that waits. -/
def allows {ε : Type} (cache : AuthCache) (call : WaitingCall) :
    Option (Except ε Bool) × AuthCache :=
  let cache := { cache with clock := call.now }
  match live cache.out call.user.text call.now with
  | some entry => (some (.ok (entry.value.contains call.canisterID)), cache)
  | none => (none, { cache with waiting := cache.waiting ++ [call] })

/-- `allows` from the reply of the authorizer on. -/
def refill {ε : Type} (ttl : Int) (cache : AuthCache) (call : WaitingCall)
    (reply : AuthorizerReply ε) : Except ε Bool × AuthCache :=
  match reply with
  | .error error => (.error error, cache)
  | .ok list =>
      let set := canisterIDs list
      (.ok (set.contains call.canisterID),
        { cache with out := fill cache.out call.now ttl call.user.text set })

end AuthCache

/-- A call arrives, or the authorizer replies to one that waits. -/
inductive AuthEvent (ε : Type)
  | call (call : WaitingCall)
  | reply (index : Nat) (reply : AuthorizerReply ε)

variable {ε : Type} {ttl start : Int}

/-- The result that an event gives to a call, if any, and the cache after it.  The clock
does not go back. -/
def AuthCache.serve (ttl : Int) (cache : AuthCache) :
    AuthEvent ε → Option (Option (Except ε Bool) × AuthCache)
  | .call call => if cache.clock ≤ call.now then some (cache.allows call) else none
  | .reply index reply =>
      (cache.waiting[index]?).map fun call =>
        let (result, after) := cache.refill ttl call reply
        (some result, { after with waiting := after.waiting.eraseIdx index })

/-- One event. -/
def AuthCache.step (ttl : Int) (cache : AuthCache) (event : AuthEvent ε) : Option AuthCache :=
  (cache.serve ttl event).map Prod.snd

/-- Runs of the cache. -/
abbrev AuthRun (ε : Type) (ttl start : Int) : Type :=
  Execution (@AuthCache.step _ ε ttl) (AuthCache.new start)

namespace AuthRun

variable (run : AuthRun ε ttl start)

/-- The authorizer returns a list to a call. -/
def Returns (time : Nat) (call : WaitingCall) (list : List Principal) : Prop :=
  ∃ index,
    run.event time = .reply index (.ok list) ∧ (run.state time).waiting[index]? = some call

/-- The authorizer fails a call. -/
def Fails (time : Nat) (call : WaitingCall) (error : ε) : Prop :=
  ∃ index,
    run.event time = .reply index (.error error) ∧ (run.state time).waiting[index]? = some call

/-- An event gives a call its result: the call when it arrives, or one that waited. -/
def Gives (time : Nat) (call : WaitingCall) (result : Except ε Bool) : Prop :=
  (run.event time = .call call ∨
      ∃ index reply,
        run.event time = .reply index reply ∧
          (run.state time).waiting[index]? = some call) ∧
    ((run.state time).serve ttl (run.event time)).map Prod.fst = some (some result)

/-- A call is answered from an entry of the cache. -/
def Uses (time : Nat) (call : WaitingCall) (entry : Entry (ExtTreeSet String)) : Prop :=
  run.event time = .call call ∧ (run.state time).out[call.user.text]? = some entry ∧
    ∃ result, run.Gives time call result

end AuthRun

namespace AuthCache

variable {cache after : AuthCache} {call : WaitingCall}

/-- The set of a list has the textual forms of its members. -/
theorem contains_canisterIDs
    {list : List Principal}
    {canisterID : String} :
    (canisterIDs list).contains canisterID = true ↔ canisterID ∈ list.map Principal.text := by
  simp [canisterIDs]

/-- Every way in which an event changes the cache. -/
inductive Change (ttl : Int) (cache : AuthCache) : AuthEvent ε → AuthCache → Prop
  | answered
      {call : WaitingCall}
      (forward : cache.clock ≤ call.now) :
      Change ttl cache (.call call) { cache with clock := call.now }
  | asked
      {call : WaitingCall}
      (forward : cache.clock ≤ call.now) :
      Change ttl cache (.call call)
        { cache with waiting := cache.waiting ++ [call], clock := call.now }
  | failed
      {index : Nat}
      {error : ε}
      {call : WaitingCall}
      (waited : cache.waiting[index]? = some call) :
      Change ttl cache (.reply index (.error error))
        { cache with waiting := cache.waiting.eraseIdx index }
  | refilled
      {index : Nat}
      {list : List Principal}
      {call : WaitingCall}
      (waited : cache.waiting[index]? = some call) :
      Change ttl cache (.reply index (.ok list))
        { cache with
          out := fill cache.out call.now ttl call.user.text (canisterIDs list)
          waiting := cache.waiting.eraseIdx index }

/-- Every event changes the cache in one of these ways. -/
theorem change_of_step
    {event : AuthEvent ε}
    (stepped : cache.step ttl event = some after) :
    cache.Change ttl event after := by
  obtain ⟨⟨result, next⟩, served, rfl⟩ := Option.map_eq_some_iff.mp stepped
  cases event with
  | call incoming =>
      simp only [serve] at served
      split at served
      · rename_i forward
        have asked := Option.some.inj served
        simp only [allows] at asked
        split at asked
        · cases asked
          exact .answered forward
        · cases asked
          exact .asked forward
      · cases served
  | reply index reply =>
      simp only [serve] at served
      obtain ⟨asker, waited, answered⟩ := Option.map_eq_some_iff.mp served
      cases reply with
      | error error =>
          cases answered
          exact .failed waited
      | ok list =>
          cases answered
          exact .refilled waited

end AuthCache

namespace AuthRun

variable {run : AuthRun ε ttl start} {time : Nat}

/-- The list behind a value that was filled in under a key before an event. -/
def Filled (run : AuthRun ε ttl start) (time : Nat) (key : String) (readAt : Int)
    (value : ExtTreeSet String) : Prop :=
  ∃ earlier asker list,
    earlier < time ∧ run.Returns earlier asker list ∧ asker.user.text = key ∧
      asker.now = readAt ∧ value = canisterIDs list ∧ readAt ≤ (run.state time).clock

/-- What holds of the cache before every event. -/
structure Sound (run : AuthRun ε ttl start) (time : Nat) : Prop where
  traces : Traces (run.Filled time) ttl (run.state time).out
  waiting : ∀ call ∈ (run.state time).waiting, call.now ≤ (run.state time).clock

/-- The clock does not go back. -/
theorem clock_le_step
    (within : time < run.length) :
    (run.state time).clock ≤ (run.state (time + 1)).clock := by
  have change := AuthCache.change_of_step (run.advances time within)
  generalize run.event time = event, run.state (time + 1) = after at change
  cases change with
  | answered forward | asked forward =>
      exact forward
  | failed | refilled =>
      exact le_rfl

/-- Values filled in before an event were filled in before the next. -/
theorem Filled.step
    {key : String}
    {readAt : Int}
    {value : ExtTreeSet String}
    (within : time < run.length)
    (filled : run.Filled time key readAt value) :
    run.Filled (time + 1) key readAt value := by
  obtain ⟨earlier, asker, list, before, returns, named, read, same, bounded⟩ := filled
  exact
    ⟨earlier, asker, list, Nat.lt_succ_of_lt before, returns, named, read, same,
      bounded.trans (clock_le_step within)⟩

/-- One event keeps the cache sound, also a reply that comes late. -/
theorem Sound.step
    (sound : run.Sound time)
    (within : time < run.length) :
    run.Sound (time + 1) := by
  have change := AuthCache.change_of_step (run.advances time within)
  have forward := clock_le_step within
  have kept : Traces (run.Filled (time + 1)) ttl (run.state time).out :=
    sound.traces.mono fun _ _ _ filled => filled.step within
  have waitedEarlier :
      ∀ call ∈ (run.state time).waiting, call.now ≤ (run.state (time + 1)).clock :=
    fun call member => (sound.waiting call member).trans forward
  cases happened : run.event time with
  | call incoming =>
      rw [happened] at change
      generalize afterwards : run.state (time + 1) = after at change forward waitedEarlier
      cases change with
      | answered _ =>
          refine ⟨?_, ?_⟩
          · rw [afterwards]
            exact kept
          · rw [afterwards]
            exact waitedEarlier
      | asked _ =>
          refine ⟨?_, ?_⟩
          · rw [afterwards]
            exact kept
          · rw [afterwards]
            intro call member
            rcases List.mem_append.mp member with earlier | new
            · exact waitedEarlier call earlier
            · rw [List.mem_singleton.mp new]
  | reply index reply =>
      rw [happened] at change
      generalize afterwards : run.state (time + 1) = after at change forward waitedEarlier
      cases change with
      | failed _ =>
          refine ⟨?_, ?_⟩
          · rw [afterwards]
            exact kept
          · rw [afterwards]
            exact fun call member => waitedEarlier call (List.mem_of_mem_eraseIdx member)
      | @refilled _ list asker waited =>
          refine ⟨?_, ?_⟩
          · rw [afterwards]
            refine kept.fill ⟨time, asker, list, Nat.lt_succ_self time, ⟨index, happened, waited⟩,
              rfl, rfl, rfl, ?_⟩
            rw [afterwards]
            exact waitedEarlier asker (List.mem_of_getElem? waited)
          · rw [afterwards]
            exact fun call member => waitedEarlier call (List.mem_of_mem_eraseIdx member)

/-- The cache is sound before every event of a run. -/
theorem sound
    (within : time ≤ run.length) :
    run.Sound time := by
  induction time with
  | zero =>
      refine ⟨?_, ?_⟩
      · rw [run.starts]
        exact .empty
      · rw [run.starts]
        intro call member
        cases member
  | succ time inductionHypothesis =>
      exact (inductionHypothesis (by omega)).step (by omega)

/-- A result comes from a live entry, or from the authorizer's reply. -/
theorem gives_cases
    {call : WaitingCall}
    {result : Except ε Bool}
    (gives : run.Gives time call result) :
    (run.event time = .call call ∧
        ∃ entry,
          live (run.state time).out call.user.text call.now = some entry ∧
            result = .ok (entry.value.contains call.canisterID)) ∨
      ∃ index reply,
        run.event time = .reply index reply ∧
          (run.state time).waiting[index]? = some call ∧
            result = ((run.state time).refill ttl call reply).1 := by
  obtain ⟨incoming | ⟨index, reply, replied, waited⟩, served⟩ := gives
  · refine .inl ⟨incoming, ?_⟩
    rw [incoming] at served
    simp only [AuthCache.serve] at served
    split at served
    · simp only [AuthCache.allows] at served
      split at served
      · rename_i entry found
        exact ⟨entry, found, (Option.some.inj (Option.some.inj served)).symm⟩
      · cases Option.some.inj served
    · cases served
  · refine .inr ⟨index, reply, replied, waited, ?_⟩
    rw [replied] at served
    simp only [AuthCache.serve, waited, Option.map_some] at served
    exact (Option.some.inj (Option.some.inj served)).symm

/-- A failed call is given its error and nothing else, and leaves the entries alone. -/
theorem out_of_fails
    {call : WaitingCall}
    {error : ε}
    (within : time < run.length)
    (fails : run.Fails time call error) :
    (run.state (time + 1)).out = (run.state time).out ∧
      ∀ result, run.Gives time call result ↔ result = .error error := by
  obtain ⟨index, replied, waited⟩ := fails
  refine ⟨?_, ?_⟩
  · have change := AuthCache.change_of_step (run.advances time within)
    rw [replied] at change
    generalize run.state (time + 1) = after at change
    cases change with
    | failed _ => rfl
  · intro result
    constructor
    · intro gives
      rcases gives_cases gives with ⟨incoming, -⟩ | ⟨_, reply, other, -, rfl⟩
      · cases incoming.symm.trans replied
      · cases other.symm.trans replied
        rfl
    · rintro rfl
      refine ⟨.inr ⟨index, _, replied, waited⟩, ?_⟩
      rw [replied]
      simp only [AuthCache.serve, waited, Option.map_some]
      rfl

/-- The list that a live entry comes from. -/
theorem returned_of_live
    {call : WaitingCall}
    {entry : Entry (ExtTreeSet String)}
    (within : time ≤ run.length)
    (found : live (run.state time).out call.user.text call.now = some entry) :
    ∃ earlier asker list,
      earlier < time ∧ run.Returns earlier asker list ∧ asker.user = call.user ∧
        entry = ⟨asker.now + ttl, canisterIDs list⟩ ∧
          asker.now ≤ (run.state time).clock ∧ call.now < asker.now + ttl := by
  obtain ⟨readAt, filled, expires, unexpired⟩ := (sound within).traces.of_live found
  obtain ⟨earlier, asker, list, before, returns, named, rfl, same, bounded⟩ := filled
  refine
    ⟨earlier, asker, list, before, returns, PrincipalText.text_injective named, ?_, bounded,
      unexpired⟩
  cases entry
  cases same
  cases expires
  rfl

end AuthRun

/-- Every verdict is that of a list which the authorizer returned for the same user, to this
call or to one whose reading of the clock is less than `ttl` older; failures leave the
entries alone and are reported; and no entry is used for another user or past its expiry. -/
theorem authCache_staleness
    (run : AuthRun ε ttl start)
    (time : Nat)
    (within : time < run.length) :
    (∀ call allowed, run.Gives time call (.ok allowed) →
        ∃ earlier asker list,
          run.Returns earlier asker list ∧ asker.user = call.user ∧
            (allowed = true ↔ call.canisterID ∈ list.map Principal.text) ∧
              ((earlier = time ∧ asker = call) ∨
                (earlier < time ∧ asker.now ≤ call.now ∧ call.now < asker.now + ttl))) ∧
      (∀ call error, run.Fails time call error →
        (run.state (time + 1)).out = (run.state time).out ∧
          ∀ result, run.Gives time call result ↔ result = .error error) ∧
        ∀ call entry, run.Uses time call entry →
          call.now < entry.expiresAt ∧
            ∃ earlier asker list,
              earlier < time ∧ run.Returns earlier asker list ∧ asker.user = call.user ∧
                entry = ⟨asker.now + ttl, canisterIDs list⟩ := by
  refine ⟨?_, fun call error fails => AuthRun.out_of_fails within fails, ?_⟩
  · intro call allowed gives
    rcases AuthRun.gives_cases gives with
      ⟨incoming, entry, found, given⟩ | ⟨index, reply, replied, waited, given⟩
    · obtain ⟨earlier, asker, list, before, returns, sameUser, rfl, bounded, recent⟩ :=
        AuthRun.returned_of_live within.le found
      refine ⟨earlier, asker, list, returns, sameUser, ?_, .inr ⟨before, ?_, recent⟩⟩
      · rw [Except.ok.inj given]
        exact AuthCache.contains_canisterIDs
      · have change := AuthCache.change_of_step (run.advances time within)
        rw [incoming] at change
        generalize run.state (time + 1) = after at change
        cases change with
        | answered forward | asked forward => exact bounded.trans forward
    · cases reply with
      | error error => cases given
      | ok list =>
          refine ⟨time, call, list, ⟨index, replied, waited⟩, rfl, ?_, .inl ⟨rfl, rfl⟩⟩
          rw [Except.ok.inj given]
          exact AuthCache.contains_canisterIDs
  · rintro call entry ⟨incoming, stored, result, gives⟩
    rcases AuthRun.gives_cases gives with
      ⟨-, used, found, -⟩ | ⟨_, _, replied, -⟩
    · obtain ⟨storedUsed, unexpired⟩ := live_eq_some.mp found
      cases storedUsed.symm.trans stored
      obtain ⟨earlier, asker, list, before, returns, sameUser, same, -, -⟩ :=
        AuthRun.returned_of_live within.le found
      exact ⟨unexpired, earlier, asker, list, before, returns, sameUser, same⟩
    · cases incoming.symm.trans replied

end Caches

section LateReply

/-- The principal of one byte `1`. -/
def asker : Principal :=
  ⟨[1]⟩

/-- The principal of one byte `2`. -/
def canister : Principal :=
  ⟨[2]⟩

/-- The textual form of the two principals, and some other encoding of all others. -/
def exampleText (principal : Principal) : String :=
  if principal = asker then
    "uuc56-gyb"
  else if principal = canister then
    "hqgi5-iic"
  else
    String.ofList ('#' :: principal.raw.map fun byte => Char.ofNat byte.toNat)

/-- Bytes are told apart by their characters. -/
private theorem charOfByte_injective :
    Function.Injective fun byte : UInt8 => Char.ofNat byte.toNat := by
  have inverse :
      Function.LeftInverse (fun char : Char => UInt8.ofNat char.toNat)
        fun byte : UInt8 => Char.ofNat byte.toNat := by
    unfold Function.LeftInverse
    decide +kernel
  exact inverse.injective

/-- The encodings are told apart. -/
private theorem exampleText_injective : Function.Injective exampleText := by
  have other {text : String} {chars : List Char}
      (starts : text.toList.head? ≠ some '#') :
      String.ofList ('#' :: chars) ≠ text := by
    rintro rfl
    simp at starts
  intro first second same
  unfold exampleText at same
  split at same
  · split at same
    · simp_all
    · split at same
      · exact absurd same (by decide)
      · exact (other (by decide) same.symm).elim
  · split at same
    · split at same
      · exact absurd same (by decide)
      · split at same
        · simp_all
        · exact (other (by decide) same.symm).elim
    · split at same
      · exact (other (by decide) same).elim
      · split at same
        · exact (other (by decide) same).elim
        · have chars := String.ofList_injective same
          have bytes := List.map_injective_iff.mpr charOfByte_injective (List.cons.inj chars).2
          cases first
          cases second
          cases bytes
          rfl

/-- Principals by these encodings. -/
@[reducible]
def exampleTexts : PrincipalText where
  text := exampleText
  text_injective := exampleText_injective

attribute [local instance] exampleTexts

/-- Two calls miss; the reply to the later call comes first, the reply to the earlier one
overwrites it, and a third call is answered from what the earlier call was told. -/
def lateReply : AuthRun String 60 0 :=
  .ofEvents
    [.call ⟨asker, canister.text, 0⟩, .call ⟨asker, canister.text, 10⟩,
      .reply 1 (.ok [canister]), .reply 0 (.ok []), .call ⟨asker, canister.text, 20⟩]
    (.call ⟨asker, canister.text, 20⟩) (by decide +kernel)

/-- The third call's verdict is that of the list for the first one. -/
theorem authCache_staleness_lateReply :
    ∃ earlier told list,
      lateReply.Returns earlier told list ∧ told.user = asker ∧
        (false = true ↔ canister.text ∈ list.map Principal.text) ∧
          ((earlier = 4 ∧ told = ⟨asker, canister.text, 20⟩) ∨
            (earlier < 4 ∧ told.now ≤ 20 ∧ 20 < told.now + 60)) :=
  (authCache_staleness lateReply 4 (by decide)).1 ⟨asker, canister.text, 20⟩ false
    ⟨.inl rfl, by decide +kernel⟩

end LateReply

end SsnConsole.MetricsProxy
