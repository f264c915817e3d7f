import SsnConsole.AgentGo
import SsnConsole.ForgetfulMap
import SsnConsole.GoStandard
import SsnConsole.MessageRun

/-!
# The session store of the metrics proxy

`Mint` draws a token and reads the clock before it takes the lock, so that other
calls may come between; `Lookup` reads the clock under the lock.  The store
drops expired sessions whenever it comes across them.
-/

namespace SsnConsole.IiAuth

open Std
open SsnConsole.AgentGo
open SsnConsole.ForgetfulMap
open SsnConsole.GoStandard
open SsnConsole.MessageRun

section Store

/-- `sessionEntry`. -/
structure SessionEntry where
  principal : Principal
  expiresAt : Int
  deriving DecidableEq

/-- A session counts until its expiry, exclusively. -/
def SessionEntry.isLive (now : Int) (entry : SessionEntry) : Bool :=
  decide (now < entry.expiresAt)

/-- An expired session stays expired. -/
theorem SessionEntry.isLive_mortal : Mortal SessionEntry.isLive := by
  intro entry early late ordered living
  unfold isLive at living ⊢
  simp only [decide_eq_true_eq] at living ⊢
  exact Int.lt_of_le_of_lt ordered living

/-- `SessionStore`, with the clock left out: its readings come with each call. -/
structure SessionStore where
  ttl : Duration
  sessions : ExtTreeMap Bytes SessionEntry

/-- A call of `Mint` that has drawn its token and read the clock. -/
structure Minting where
  token : Bytes
  principal : Principal
  now : Int

namespace SessionStore

/-- `NewSessionStore`. -/
def new (ttl : Duration) : SessionStore :=
  ⟨ttl, ∅⟩

/-- `Mint` up to the lock: without random bytes there is no token. -/
def beginMint (principal : Principal) (random : Option (Vector UInt8 32)) (now : Int) :
    Option Minting :=
  random.map fun buf => ⟨hexEncode buf.toList, principal, now⟩

/-- `Mint` under the lock: the token with its expiry, and the swept store with the session. -/
def finishMint (store : SessionStore) (minting : Minting) : (Bytes × Int) × SessionStore :=
  let expiresAt := minting.now + store.ttl.nanoseconds
  let sessions := forget SessionEntry.isLive store.sessions minting.now
  ((minting.token, expiresAt),
    { store with sessions := sessions.insert minting.token ⟨minting.principal, expiresAt⟩ })

/-- `Lookup`. -/
def lookup (store : SessionStore) (now : Int) (token : Bytes) :
    (Principal × Bool) × SessionStore :=
  match store.sessions[token]? with
  | none => ((⟨[]⟩, false), store)
  | some entry =>
      if ¬now < entry.expiresAt then
        ((⟨[]⟩, false), { store with sessions := store.sessions.erase token })
      else
        ((entry.principal, true), store)

/-- `Lookup` finds the principal of the stored session, if it has not expired. -/
theorem lookup_eq_iff
    {store : SessionStore}
    {now : Int}
    {token : Bytes}
    {principal : Principal} :
    (store.lookup now token).1 = (principal, true) ↔
      ∃ expiresAt, store.sessions[token]? = some ⟨principal, expiresAt⟩ ∧ now < expiresAt := by
  unfold lookup
  cases stored : store.sessions[token]? with
  | none =>
      simp
  | some entry =>
      obtain ⟨owner, expiresAt⟩ := entry
      by_cases expired : now < expiresAt
      · simp [expired]
      · simp [expired]

/-- What `Lookup` does not find it answers with the zero principal. -/
theorem lookup_cases
    (store : SessionStore)
    (now : Int)
    (token : Bytes) :
    (store.lookup now token).1 = (⟨[]⟩, false) ∨
      ∃ principal, (store.lookup now token).1 = (principal, true) := by
  unfold lookup
  split
  · exact Or.inl rfl
  · split
    · exact Or.inl rfl
    · exact Or.inr ⟨_, rfl⟩

end SessionStore

end Store

section System

/-- The store, the calls of `Mint` that wait for its lock, and the last reading of the clock. -/
structure Sessions where
  store : SessionStore
  minting : List Minting
  clock : Int

/-- A call of `Mint` starts or gets the lock, or a call of `Lookup` does. -/
inductive SessionEvent
  | mint (principal : Principal) (random : Option (Vector UInt8 32)) (now : Int)
  | minted (index : Nat)
  | lookup (token : Bytes) (now : Int)

/-- The call of `Mint` that draws its token in an event. -/
def SessionEvent.draws : SessionEvent → Option Minting
  | .mint principal random now => SessionStore.beginMint principal random now
  | .minted _ => none
  | .lookup _ _ => none

namespace Sessions

/-- A new store at a time. -/
def new (ttl : Duration) (clock : Int) : Sessions :=
  ⟨.new ttl, [], clock⟩

/-- One event.  The clock does not go back. -/
def step (s : Sessions) : SessionEvent → Option Sessions
  | .mint principal random now =>
      if s.clock ≤ now then
        some
          { s with
            minting := s.minting ++ (SessionStore.beginMint principal random now).toList
            clock := now }
      else
        none
  | .minted index =>
      (s.minting[index]?).map fun minting =>
        { s with
          store := (s.store.finishMint minting).2
          minting := s.minting.eraseIdx index }
  | .lookup token now =>
      if s.clock ≤ now then
        some { s with store := (s.store.lookup now token).2, clock := now }
      else
        none

end Sessions

/-- Runs of the session store. -/
abbrev SessionRun (ttl : Duration) (start : Int) : Type :=
  Execution Sessions.step (Sessions.new ttl start)

variable {ttl : Duration} {start : Int}

namespace SessionRun

variable (run : SessionRun ttl start)

/-- A call of `Mint` draws a token. -/
def Draws (time : Nat) (minting : Minting) : Prop :=
  (run.event time).draws = some minting

/-- A call of `Mint` returns a token for a principal with its expiry. -/
def Returns (time : Nat) (token : Bytes) (entry : SessionEntry) : Prop :=
  ∃ index minting,
    run.event time = .minted index ∧ (run.state time).minting[index]? = some minting ∧
      minting.principal = entry.principal ∧
        ((run.state time).store.finishMint minting).1 = (token, entry.expiresAt)

/-- A call of `Mint` before an event returned a token for a principal with its expiry. -/
def Minted (time : Nat) (token : Bytes) (entry : SessionEntry) : Prop :=
  ∃ earlier < time, run.Returns earlier token entry

/-- No two calls of `Mint` draw one token. -/
def DistinctTokens : Prop :=
  ∀ first second minting otherMinting,
    first < run.length → second < run.length →
      run.Draws first minting → run.Draws second otherMinting →
        minting.token = otherMinting.token → first = second

/-- A call of `Mint` drew a token before an event. -/
def DrawnBefore (time : Nat) (token : Bytes) : Prop :=
  ∃ earlier < time, ∃ minting, run.Draws earlier minting ∧ minting.token = token

/-- What holds before every event, for the sessions that were written. -/
structure Sound (time : Nat) (written : Bytes → Option SessionEntry) : Prop where
  remembers :
    Remembers SessionEntry.isLive (run.state time).store.sessions written (run.state time).clock
  minted : ∀ token entry, written token = some entry ↔ run.Minted time token entry
  /-- The calls that wait have read the clock. -/
  read : ∀ minting ∈ (run.state time).minting, minting.now ≤ (run.state time).clock
  /-- Their tokens differ from each other and from those returned. -/
  nodup : ((run.state time).minting.map Minting.token).Nodup
  fresh : ∀ minting ∈ (run.state time).minting, written minting.token = none
  drawn : ∀ minting ∈ (run.state time).minting, run.DrawnBefore time minting.token
  drawnWritten : ∀ token entry, written token = some entry → run.DrawnBefore time token

variable {run} {time : Nat} {written : Bytes → Option SessionEntry}

/-- What was returned before the next event was returned before this one or by it. -/
theorem minted_succ
    {token : Bytes}
    {entry : SessionEntry} :
    run.Minted (time + 1) token entry ↔
      run.Minted time token entry ∨ run.Returns time token entry := by
  constructor
  · rintro ⟨earlier, before, returns⟩
    rcases Nat.lt_succ_iff_lt_or_eq.mp before with past | rfl
    · exact Or.inl ⟨earlier, past, returns⟩
    · exact Or.inr returns
  · rintro (⟨earlier, before, returns⟩ | returns)
    · exact ⟨earlier, Nat.lt_succ_of_lt before, returns⟩
    · exact ⟨time, Nat.lt_succ_self time, returns⟩

/-- Only the critical section of `Mint` returns. -/
theorem minted_succ_of_other
    {token : Bytes}
    {entry : SessionEntry}
    (other : ∀ index, run.event time ≠ .minted index) :
    run.Minted (time + 1) token entry ↔ run.Minted time token entry := by
  rw [minted_succ]
  constructor
  · rintro (minted | ⟨index, minting, event, -⟩)
    · exact minted
    · exact absurd event (other index)
  · exact Or.inl

/-- A token that was drawn stays so. -/
theorem DrawnBefore.succ
    {token : Bytes}
    (drawn : run.DrawnBefore time token) :
    run.DrawnBefore (time + 1) token := by
  obtain ⟨earlier, before, draws⟩ := drawn
  exact ⟨earlier, Nat.lt_succ_of_lt before, draws⟩

/-- A new store is sound. -/
theorem sound_zero : run.Sound 0 fun _ => none where
  remembers := by
    rw [run.starts]
    exact .empty
  minted token entry := by
    constructor
    · intro absent
      cases absent
    · rintro ⟨earlier, before, -⟩
      cases before
  read := by
    rw [run.starts]
    simp [Sessions.new]
  nodup := by
    rw [run.starts]
    exact List.nodup_nil
  fresh _ _ := rfl
  drawn := by
    rw [run.starts]
    simp [Sessions.new]
  drawnWritten token entry absent := by cases absent

/-- What an event that returns nothing and has its effect on the store keeps. -/
private theorem Sound.of_same
    (sound : run.Sound time written)
    (other : ∀ index, run.event time ≠ .minted index)
    (sameMinting : (run.state (time + 1)).minting = (run.state time).minting)
    (forward : (run.state time).clock ≤ (run.state (time + 1)).clock)
    (remembers :
      Remembers SessionEntry.isLive (run.state (time + 1)).store.sessions written
        (run.state (time + 1)).clock) :
    run.Sound (time + 1) written where
  remembers := remembers
  minted token entry := by
    rw [sound.minted, minted_succ_of_other other]
  read minting member := by
    rw [sameMinting] at member
    exact (sound.read minting member).trans forward
  nodup := by
    rw [sameMinting]
    exact sound.nodup
  fresh minting member := by
    rw [sameMinting] at member
    exact sound.fresh minting member
  drawn minting member := by
    rw [sameMinting] at member
    exact (sound.drawn minting member).succ
  drawnWritten token entry found := (sound.drawnWritten token entry found).succ

/-- A call of `Lookup` drops at most what has expired. -/
private theorem Sound.lookup
    {token : Bytes}
    {now : Int}
    (sound : run.Sound time written)
    (within : time < run.length)
    (event : run.event time = .lookup token now) :
    run.Sound (time + 1) written := by
  have stepped := run.advances time within
  rw [event, Sessions.step] at stepped
  split at stepped
  · rename_i forward
    have after := Option.some.inj stepped
    have later := sound.remembers.mono forward
    apply sound.of_same
    · simp [event]
    · rw [← after]
    · rw [← after]
      exact forward
    · rw [← after]
      unfold SessionStore.lookup
      split
      · exact later
      · rename_i entry stored
        split
        · rename_i expired
          exact later.erase SessionEntry.isLive_mortal (Int.le_refl now) stored (by
            simpa [SessionEntry.isLive] using expired)
        · exact later
  · cases stepped

/-- A call of `Mint` that gets the lock returns its own token. -/
private theorem returns_iff
    {index : Nat}
    {minting : Minting}
    {token : Bytes}
    {entry : SessionEntry}
    (event : run.event time = .minted index)
    (waiting : (run.state time).minting[index]? = some minting) :
    run.Returns time token entry ↔
      token = minting.token ∧
        entry = ⟨minting.principal,
          minting.now + (run.state time).store.ttl.nanoseconds⟩ := by
  constructor
  · rintro ⟨otherIndex, other, otherEvent, otherWaiting, samePrincipal, returned⟩
    obtain rfl : index = otherIndex := by
      rw [event] at otherEvent
      exact SessionEvent.minted.inj otherEvent
    obtain rfl := Option.some.inj (waiting.symm.trans otherWaiting)
    have parts := Prod.mk.inj returned
    refine ⟨parts.1.symm, ?_⟩
    cases entry
    exact congrArg₂ SessionEntry.mk samePrincipal.symm parts.2.symm
  · rintro ⟨rfl, rfl⟩
    exact ⟨index, minting, event, waiting, rfl, rfl⟩

/-- The calls that still wait have other tokens than the one that gets the lock. -/
private theorem Sound.token_ne
    {index : Nat}
    {minting other : Minting}
    (sound : run.Sound time written)
    (waiting : (run.state time).minting[index]? = some minting)
    (member : other ∈ (run.state time).minting.eraseIdx index) :
    other.token ≠ minting.token := by
  intro same
  obtain ⟨otherIndex, distinct, otherWaiting⟩ := List.mem_eraseIdx_iff_getElem?.mp member
  apply distinct
  have inside : otherIndex < ((run.state time).minting.map Minting.token).length := by
    rw [List.length_map]
    exact (List.getElem?_eq_some_iff.mp otherWaiting).1
  apply (List.getElem?_inj inside sound.nodup).mp
  rw [List.getElem?_map, List.getElem?_map, waiting, otherWaiting]
  exact congrArg some same

/-- A call of `Mint` that gets the lock writes its session and forgets none. -/
private theorem Sound.minted_step
    {index : Nat}
    (sound : run.Sound time written)
    (within : time < run.length)
    (event : run.event time = .minted index) :
    ∃ after, run.Sound (time + 1) after := by
  have stepped := run.advances time within
  rw [event, Sessions.step] at stepped
  obtain ⟨minting, waiting, after⟩ := Option.map_eq_some_iff.mp stepped
  have member := List.mem_of_getElem? waiting
  have read := sound.read minting member
  have fresh := sound.fresh minting member
  have others : ∀ other ∈ (run.state time).minting.eraseIdx index,
      other ∈ (run.state time).minting := by
    intro other
    exact List.mem_of_mem_eraseIdx
  refine
    ⟨Function.update written minting.token
      (some ⟨minting.principal, minting.now + (run.state time).store.ttl.nanoseconds⟩), ?_⟩
  constructor
  · rw [← after]
    exact (sound.remembers.forget SessionEntry.isLive_mortal read).insert
  · intro token entry
    rw [minted_succ, returns_iff event waiting, ← sound.minted]
    by_cases same : token = minting.token
    · subst same
      rw [Function.update_self, fresh]
      constructor
      · intro new
        exact Or.inr ⟨rfl, (Option.some.inj new).symm⟩
      · rintro (absent | ⟨-, rfl⟩)
        · cases absent
        · rfl
    · rw [Function.update_of_ne same]
      constructor
      · exact Or.inl
      · rintro (earlier | ⟨own, -⟩)
        · exact earlier
        · exact absurd own same
  · rw [← after]
    intro other member
    exact sound.read other (others other member)
  · rw [← after]
    exact sound.nodup.sublist ((List.eraseIdx_sublist _ index).map Minting.token)
  · rw [← after]
    intro other member
    rw [Function.update_of_ne (sound.token_ne waiting member)]
    exact sound.fresh other (others other member)
  · rw [← after]
    intro other member
    exact (sound.drawn other (others other member)).succ
  · intro token entry found
    by_cases same : token = minting.token
    · rw [same]
      exact (sound.drawn minting member).succ
    · rw [Function.update_of_ne same] at found
      exact (sound.drawnWritten token entry found).succ

/-- A call of `Mint` joins the waiting ones with a token that was not drawn before. -/
private theorem Sound.await
    {minting : Minting}
    (sound : run.Sound time written)
    (other : ∀ index, run.event time ≠ .minted index)
    (draws : run.Draws time minting)
    (new : ¬run.DrawnBefore time minting.token)
    (waiting : (run.state (time + 1)).minting = (run.state time).minting ++ [minting])
    (forward : (run.state time).clock ≤ (run.state (time + 1)).clock)
    (reading : minting.now = (run.state (time + 1)).clock)
    (remembers :
      Remembers SessionEntry.isLive (run.state (time + 1)).store.sessions written
        (run.state (time + 1)).clock) :
    run.Sound (time + 1) written := by
  have cases_of_mem : ∀ waiter ∈ (run.state (time + 1)).minting,
      waiter ∈ (run.state time).minting ∨ waiter = minting := by
    intro waiter member
    rw [waiting] at member
    simpa using member
  constructor
  case remembers =>
    exact remembers
  case minted =>
    intro token entry
    rw [sound.minted, minted_succ_of_other other]
  case read =>
    intro waiter member
    rcases cases_of_mem waiter member with earlier | rfl
    · exact (sound.read waiter earlier).trans forward
    · exact reading.le
  case nodup =>
    rw [waiting, List.map_append, List.map_singleton, ← List.concat_eq_append]
    apply List.Nodup.concat _ sound.nodup
    intro known
    obtain ⟨waiter, member, same⟩ := List.mem_map.mp known
    have drawn := sound.drawn waiter member
    rw [same] at drawn
    exact new drawn
  case fresh =>
    intro waiter member
    rcases cases_of_mem waiter member with earlier | rfl
    · exact sound.fresh waiter earlier
    · cases found : written waiter.token with
      | none =>
          rfl
      | some entry =>
          exact absurd (sound.drawnWritten waiter.token entry found) new
  case drawn =>
    intro waiter member
    rcases cases_of_mem waiter member with earlier | rfl
    · exact (sound.drawn waiter earlier).succ
    · exact ⟨time, Nat.lt_succ_self time, waiter, draws, rfl⟩
  case drawnWritten =>
    intro token entry found
    exact (sound.drawnWritten token entry found).succ

/-- A call of `Mint` that starts draws a token that nobody has. -/
private theorem Sound.mint
    {principal : Principal}
    {random : Option (Vector UInt8 32)}
    {now : Int}
    (sound : run.Sound time written)
    (distinct : run.DistinctTokens)
    (within : time < run.length)
    (event : run.event time = .mint principal random now) :
    run.Sound (time + 1) written := by
  have other : ∀ index, run.event time ≠ .minted index := by
    simp [event]
  have stepped := run.advances time within
  rw [event, Sessions.step] at stepped
  split at stepped
  · rename_i forward
    have after := Option.some.inj stepped
    have clock : (run.state (time + 1)).clock = now := by
      rw [← after]
    have remembers :
        Remembers SessionEntry.isLive (run.state (time + 1)).store.sessions written
          (run.state (time + 1)).clock := by
      rw [← after]
      exact sound.remembers.mono forward
    rw [← clock] at forward
    cases drew : SessionStore.beginMint principal random now with
    | none =>
        apply sound.of_same other _ forward remembers
        rw [← after, drew]
        simp
    | some minting =>
        have draws : run.Draws time minting := by
          rw [Draws, event]
          exact drew
        have new : ¬run.DrawnBefore time minting.token := by
          rintro ⟨earlier, before, otherMinting, otherDraws, same⟩
          have sameTime :=
            distinct earlier time otherMinting minting (before.trans within) within otherDraws
              draws same
          exact absurd sameTime (Nat.ne_of_lt before)
        have waiting :
            (run.state (time + 1)).minting = (run.state time).minting ++ [minting] := by
          rw [← after, drew]
          rfl
        have reading : minting.now = (run.state (time + 1)).clock := by
          obtain ⟨buf, -, made⟩ := Option.map_eq_some_iff.mp drew
          rw [clock, ← made]
        exact sound.await other draws new waiting forward reading remembers
  · cases stepped

/-- Before every event the store remembers what was returned. -/
theorem exists_sound
    (distinct : run.DistinctTokens)
    (within : time ≤ run.length) :
    ∃ written, run.Sound time written := by
  induction time with
  | zero =>
      exact ⟨_, sound_zero⟩
  | succ time inductionHypothesis =>
      obtain ⟨written, sound⟩ := inductionHypothesis (Nat.le_of_succ_le within)
      cases event : run.event time with
      | mint principal random now =>
          exact ⟨written, sound.mint distinct within event⟩
      | minted index =>
          exact sound.minted_step within event
      | lookup token now =>
          exact ⟨written, sound.lookup within event⟩

/-- A session is stored and counts at a time that has come exactly if it was returned. -/
theorem stored_iff
    (distinct : run.DistinctTokens)
    (within : time ≤ run.length)
    {now : Int}
    (come : (run.state time).clock ≤ now)
    (token : Bytes)
    (entry : SessionEntry) :
    (run.state time).store.sessions[token]? = some entry ∧ now < entry.expiresAt ↔
      run.Minted time token entry ∧ now < entry.expiresAt := by
  obtain ⟨written, sound⟩ := exists_sound distinct within
  rw [and_congr_left_iff, ← sound.minted]
  intro living
  exact sound.remembers token entry now come (decide_eq_true living)

/--
In every run with distinct tokens, `Lookup` answers with a principal exactly if a
call of `Mint` returned the token for it with an expiry that has not come, and
with the zero principal otherwise.  At every moment the store has exactly the
live sessions that were returned, whatever was swept or removed before.
-/
theorem sessionLookup_iff
    (run : SessionRun ttl start)
    (distinct : run.DistinctTokens) :
    (∀ time token now,
        time < run.length → run.event time = .lookup token now →
          (∀ principal,
            ((run.state time).store.lookup now token).1 = (principal, true) ↔
              ∃ expiresAt, run.Minted time token ⟨principal, expiresAt⟩ ∧ now < expiresAt) ∧
          ((¬∃ entry, run.Minted time token entry ∧ now < entry.expiresAt) →
            ((run.state time).store.lookup now token).1 = (⟨[]⟩, false))) ∧
      ∀ time token entry now,
        time ≤ run.length → (run.state time).clock ≤ now →
          ((run.state time).store.sessions[token]? = some entry ∧ now < entry.expiresAt ↔
            run.Minted time token entry ∧ now < entry.expiresAt) := by
  constructor
  · intro time token now within event
    have come : (run.state time).clock ≤ now := by
      have stepped := run.advances time within
      rw [event, Sessions.step] at stepped
      split at stepped
      · rename_i forward
        exact forward
      · cases stepped
    have found : ∀ principal,
        ((run.state time).store.lookup now token).1 = (principal, true) ↔
          ∃ expiresAt, run.Minted time token ⟨principal, expiresAt⟩ ∧ now < expiresAt := by
      intro principal
      rw [SessionStore.lookup_eq_iff]
      apply exists_congr
      intro expiresAt
      exact stored_iff distinct (Nat.le_of_lt within) come token ⟨principal, expiresAt⟩
    refine ⟨found, ?_⟩
    intro absent
    rcases SessionStore.lookup_cases (run.state time).store now token with zero | ⟨principal, hit⟩
    · exact zero
    · obtain ⟨expiresAt, minted, living⟩ := (found principal).mp hit
      exact absurd ⟨⟨principal, expiresAt⟩, minted, living⟩ absent
  · intro time token entry now within come
    exact stored_iff distinct within come token entry


end SessionRun

end System

section TwoSessions

/-- The principal of one byte. -/
private def principalOf (byte : UInt8) : Principal :=
  ⟨[byte]⟩

/-- Random bytes that repeat one. -/
private def bytesFrom (byte : UInt8) : Option (Vector UInt8 32) :=
  some (Vector.replicate 32 byte)

/-- The second call of `Mint` gets the lock first; the first session is looked up, expires, and
is swept by a third call. -/
def twoSessions : List SessionEvent :=
  [.mint (principalOf 1) (bytesFrom 17) 0, .mint (principalOf 2) (bytesFrom 34) 2, .minted 1,
    .lookup (hexEncode (List.replicate 32 17)) 5, .minted 0,
    .lookup (hexEncode (List.replicate 32 17)) 9, .mint (principalOf 3) (bytesFrom 51) 11,
    .minted 0, .lookup (hexEncode (List.replicate 32 17)) 11,
    .lookup (hexEncode (List.replicate 32 34)) 11]

/-- The run of these events, with a lifetime of ten nanoseconds. -/
def twoSessionsRun : SessionRun ⟨10, by decide⟩ 0 :=
  .ofEvents twoSessions (.minted 0) (by decide +kernel)

/-- The first session is found after its call got the lock, so it was returned and lives. -/
theorem sessionLookup_twoSessions :
    ∃ expiresAt,
      twoSessionsRun.Minted 5 (hexEncode (List.replicate 32 17)) ⟨principalOf 1, expiresAt⟩ ∧
        9 < expiresAt := by
  have distinct : twoSessionsRun.DistinctTokens := by
    have check : ∀ first < 10, ∀ second < 10,
        (twoSessionsRun.event first).draws.map Minting.token =
            (twoSessionsRun.event second).draws.map Minting.token →
          (twoSessionsRun.event first).draws.isSome → first = second := by
      decide +kernel
    intro first second minting other firstInside secondInside draws otherDraws same
    apply check first firstInside second secondInside
    · rw [draws, otherDraws]
      exact congrArg some same
    · rw [draws]
      rfl
  have found :
      ((twoSessionsRun.state 5).store.lookup 9 (hexEncode (List.replicate 32 17))).1 =
        (principalOf 1, true) := by
    decide +kernel
  have lookups := (SessionRun.sessionLookup_iff twoSessionsRun distinct).1
  exact ((lookups 5 _ 9 (by decide) rfl).1 (principalOf 1)).mp found

end TwoSessions

end SsnConsole.IiAuth
