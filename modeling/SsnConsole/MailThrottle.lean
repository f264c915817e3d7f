import SsnConsole.ForgetfulMap
import SsnConsole.GoStandard

/-!
# The mail throttle of the auth service

`allowSend` accepts a mail for a purpose and an address unless it accepted one
for them shortly before.  It keeps the time of the last one for each, and drops
what no longer matters once there are many.
-/

namespace SsnConsole.AuthService

open Std
open SsnConsole.ForgetfulMap
open SsnConsole.GoStandard
open SsnConsole.StableIndex

/-- `perEmailThrottle`. -/
def perEmailThrottle : Duration :=
  ⟨60 * 10 ^ 9, by decide⟩

def throttleSweepThreshold : Nat := 4096

/-- `throttleKey`. -/
structure ThrottleKey where
  purpose : Bytes
  email : Bytes
  deriving DecidableEq

namespace ThrottleKey

/-- The fields of a key. -/
def fields (key : ThrottleKey) : Bytes × Bytes :=
  (key.purpose, key.email)

instance : Ord ThrottleKey :=
  ⟨fun first second => compare first.fields second.fields⟩

instance : TransOrd ThrottleKey :=
  inferInstanceAs (TransCmp (compareOn ThrottleKey.fields))

instance : LawfulEqOrd ThrottleKey where
  eq_of_compare := by
    rintro ⟨purpose, email⟩ ⟨otherPurpose, otherEmail⟩ equal
    have sameFields : compare (purpose, email) (otherPurpose, otherEmail) = Ordering.eq := equal
    obtain ⟨rfl, rfl⟩ := Prod.mk.inj (LawfulEqOrd.eq_of_compare sameFields)
    rfl

end ThrottleKey

/-- The time of the last mail that was accepted for each key. -/
abbrev Throttle : Type :=
  ExtTreeMap ThrottleKey Int

/-- A call of `allowSend` with its reading of the clock, in the order of the lock. -/
structure SendCall where
  purpose : Bytes
  email : Bytes
  now : Int
  deriving DecidableEq

/-- The key of a call. -/
def SendCall.key (call : SendCall) : ThrottleKey :=
  ⟨call.purpose, call.email⟩

/-- A mail counts for less than the throttle's window. -/
def isRecent (now last : Int) : Bool :=
  decide ((timeSub now last).nanoseconds < perEmailThrottle.nanoseconds)

/-- `allowSend`: the verdict, and the throttle after it. -/
def allowSend (throttle : Throttle) (call : SendCall) : Bool × Throttle :=
  if throttle[call.key]?.any (isRecent call.now) then
    (false, throttle)
  else
    let throttle :=
      if throttle.size ≥ throttleSweepThreshold then
        forget isRecent throttle call.now
      else
        throttle
    (true, throttle.insert call.key call.now)

/-- The verdicts on successive calls. -/
def allowSends : Throttle → List SendCall → List Bool
  | _, [] => []
  | throttle, call :: rest =>
      (allowSend throttle call).1 :: allowSends (allowSend throttle call).2 rest

/-- A mail is recent until the window has passed. -/
theorem isRecent_iff
    {now last : Int} :
    isRecent now last = true ↔ now - last < perEmailThrottle.nanoseconds := by
  unfold isRecent
  rw [decide_eq_true_iff]
  exact timeSub_lt_iff (by decide)

/-- What is recent was recent before. -/
theorem isRecent_mortal : Mortal isRecent := by
  intro last early late ordered recent
  rw [isRecent_iff] at recent ⊢
  omega

variable {throttle : Throttle} {written : ThrottleKey → Option Int} {clock : Int}
variable {call : SendCall}

/-- The times of the accepted mails after a call. -/
def writtenAfter (written : ThrottleKey → Option Int) (throttle : Throttle)
    (call : SendCall) : ThrottleKey → Option Int :=
  if (allowSend throttle call).1 then
    Function.update written call.key (some call.now)
  else
    written

/-- A call is accepted if the last mail for its key is not recent. -/
theorem allowSend_eq_true_iff
    (remembers : Remembers isRecent throttle written clock)
    (later : clock ≤ call.now) :
    (allowSend throttle call).1 = true ↔
      ∀ last, written call.key = some last →
        perEmailThrottle.nanoseconds ≤ call.now - last := by
  have refused :
      throttle[call.key]?.any (isRecent call.now) = true ↔
        ∃ last, written call.key = some last ∧
          call.now - last < perEmailThrottle.nanoseconds := by
    rw [Option.any_eq_true]
    apply exists_congr
    intro last
    rw [← isRecent_iff, and_congr_left_iff]
    intro recent
    exact remembers call.key last call.now later recent
  unfold allowSend
  split
  · rename_i recent
    obtain ⟨last, wrote, within⟩ := refused.mp recent
    constructor
    · intro accepted
      cases accepted
    · intro spaced
      exact absurd (spaced last wrote) (Int.not_le.mpr within)
  · rename_i notRecent
    constructor
    · intro _ last wrote
      by_contra within
      exact notRecent (refused.mpr ⟨last, wrote, Int.not_le.mp within⟩)
    · intro _
      rfl

/-- A call keeps the throttle remembering what was accepted, also when it sweeps. -/
theorem remembers_allowSend
    (remembers : Remembers isRecent throttle written clock)
    (later : clock ≤ call.now) :
    Remembers isRecent (allowSend throttle call).2 (writtenAfter written throttle call)
      call.now := by
  have now := remembers.mono later
  unfold writtenAfter allowSend
  split
  · exact now
  · show Remembers isRecent (ExtTreeMap.insert (if throttle.size ≥ throttleSweepThreshold then
      forget isRecent throttle call.now else throttle) call.key call.now)
      (Function.update written call.key (some call.now)) call.now
    split
    · exact (now.forget isRecent_mortal (Int.le_refl _)).insert
    · exact now.insert

/-- A call leaves the mails for other keys alone. -/
theorem writtenAfter_of_ne
    {key : ThrottleKey}
    (distinct : call.key ≠ key) :
    writtenAfter written throttle call key = written key := by
  unfold writtenAfter
  split
  · exact Function.update_of_ne (Ne.symm distinct) _ _
  · rfl

/-- A mail is late enough after what was written before and after a call if it is late enough
after what was written before it, and after the call if that was accepted for its key. -/
theorem spaced_writtenAfter_iff
    {first : SendCall}
    (remembers : Remembers isRecent throttle written clock)
    (later : clock ≤ first.now)
    (ordered : first.now ≤ call.now) :
    (∀ last, writtenAfter written throttle first call.key = some last →
        perEmailThrottle.nanoseconds ≤ call.now - last) ↔
      (∀ last, written call.key = some last →
        perEmailThrottle.nanoseconds ≤ call.now - last) ∧
      (first.key = call.key → (allowSend throttle first).1 = true →
        perEmailThrottle.nanoseconds ≤ call.now - first.now) := by
  by_cases same : first.key = call.key
  · have verdict := allowSend_eq_true_iff remembers later
    rw [same] at verdict
    cases accepted : (allowSend throttle first).1 with
    | false =>
        simp [writtenAfter, accepted]
    | true =>
        have spaced := verdict.mp accepted
        simp only [writtenAfter, accepted, if_true, same, Function.update_self, Option.some.injEq,
          forall_eq', true_implies]
        constructor
        · intro own
          refine ⟨?_, own⟩
          intro last wrote
          have before := spaced last wrote
          omega
        · intro both
          exact both.2
  · rw [writtenAfter_of_ne same]
    constructor
    · intro spaced
      exact ⟨spaced, fun own => absurd own same⟩
    · intro both
      exact both.1

/-- The clock readings do not go back. -/
def Nondecreasing (calls : List SendCall) : Prop :=
  calls.Pairwise fun early late => early.now ≤ late.now

/-- A call is accepted exactly if it is late enough after the accepted mails for its key, those
that were written before and those of earlier calls. -/
theorem allowSends_getElem?_iff
    {calls : List SendCall}
    {index : Nat}
    (remembers : Remembers isRecent throttle written clock)
    (nondecreasing : Nondecreasing calls)
    (later : ∀ call ∈ calls, clock ≤ call.now)
    (found : calls[index]? = some call) :
    (allowSends throttle calls)[index]? = some true ↔
      (∀ last, written call.key = some last →
        perEmailThrottle.nanoseconds ≤ call.now - last) ∧
      ∀ earlier other, earlier < index → calls[earlier]? = some other → other.key = call.key →
        (allowSends throttle calls)[earlier]? = some true →
          perEmailThrottle.nanoseconds ≤ call.now - other.now := by
  induction calls generalizing throttle written clock index with
  | nil =>
      cases found
  | cons first rest inductionHypothesis =>
      have firstLater := later first List.mem_cons_self
      have verdict := allowSend_eq_true_iff remembers firstLater
      cases index with
      | zero =>
          obtain rfl : first = call := Option.some.inj found
          simp only [allowSends, List.getElem?_cons_zero, Option.some.injEq, verdict]
          constructor
          · intro spaced
            exact ⟨spaced, fun _ _ before => absurd before (Nat.not_lt_zero _)⟩
          · intro spaced
            exact spaced.1
      | succ index =>
          have inRest : rest[index]? = some call := by simpa using found
          have member := List.mem_of_getElem? inRest
          have ordered := List.pairwise_cons.mp nondecreasing
          have after := inductionHypothesis (remembers_allowSend remembers firstLater) ordered.2
            ordered.1 inRest
          simp only [allowSends, List.getElem?_cons_succ]
          rw [after, spaced_writtenAfter_iff remembers firstLater (ordered.1 call member),
            and_assoc]
          apply and_congr_right
          intro _
          constructor
          · rintro ⟨own, others⟩ earlier other before isOther sameKey accepted
            cases earlier with
            | zero =>
                obtain rfl : first = other := Option.some.inj isOther
                exact own sameKey (Option.some.inj accepted)
            | succ earlier =>
                exact
                  others earlier other (Nat.lt_of_succ_lt_succ before) isOther sameKey accepted
          · intro all
            constructor
            · intro sameKey accepted
              exact all 0 first (Nat.succ_pos index) rfl sameKey (congrArg some accepted)
            · intro earlier other before isOther sameKey accepted
              exact all (earlier + 1) other (Nat.succ_lt_succ before) isOther sameKey accepted

/-- The verdicts on the calls for one key. -/
def verdictsFor (key : ThrottleKey) (calls : List SendCall) (verdicts : List Bool) :
    List Bool :=
  ((calls.zip verdicts).filter fun entry => entry.1.key = key).map Prod.snd

/-- Throttles that remember the same for a key give its calls the same verdicts. -/
theorem verdictsFor_allowSends
    {key : ThrottleKey}
    {calls : List SendCall}
    {other : Throttle}
    {otherWritten : ThrottleKey → Option Int}
    (remembers : Remembers isRecent throttle written clock)
    (otherRemembers : Remembers isRecent other otherWritten clock)
    (same : written key = otherWritten key)
    (nondecreasing : Nondecreasing calls)
    (later : ∀ call ∈ calls, clock ≤ call.now) :
    verdictsFor key calls (allowSends throttle calls) =
      allowSends other (calls.filter fun call => call.key = key) := by
  induction calls generalizing throttle written other otherWritten clock with
  | nil =>
      rfl
  | cons first rest inductionHypothesis =>
      have firstLater := later first List.mem_cons_self
      have ordered := List.pairwise_cons.mp nondecreasing
      have after := remembers_allowSend remembers firstLater
      by_cases own : first.key = key
      · have verdict :
            (allowSend throttle first).1 = (allowSend other first).1 := by
          rw [Bool.eq_iff_iff, allowSend_eq_true_iff remembers firstLater,
            allowSend_eq_true_iff otherRemembers firstLater, own, same]
        have sameAfter :
            writtenAfter written throttle first key =
              writtenAfter otherWritten other first key := by
          unfold writtenAfter
          rw [verdict]
          split
          · rw [own, Function.update_self, Function.update_self]
          · exact same
        have others :=
          inductionHypothesis after (remembers_allowSend otherRemembers firstLater) sameAfter
            ordered.2 ordered.1
        rw [verdictsFor] at others
        simp [verdictsFor, allowSends, own, verdict, others]
      · have sameAfter : writtenAfter written throttle first key = otherWritten key := by
          rw [writtenAfter_of_ne own, same]
        have others :=
          inductionHypothesis after (otherRemembers.mono firstLater) sameAfter ordered.2
            ordered.1
        rw [verdictsFor] at others
        simp [verdictsFor, allowSends, own, others]

/-- Readings that do not go back start somewhere. -/
private theorem exists_start
    {calls : List SendCall}
    (nondecreasing : Nondecreasing calls) :
    ∃ clock, ∀ call ∈ calls, clock ≤ call.now := by
  cases calls with
  | nil =>
      exact ⟨0, fun _ member => absurd member List.not_mem_nil⟩
  | cons first rest =>
      refine ⟨first.now, ?_⟩
      intro call member
      rcases List.mem_cons.mp member with rfl | behind
      · exact Int.le_refl _
      · exact List.rel_of_pairwise_cons nondecreasing behind

/--
For calls whose clock readings do not go back, a call is accepted exactly if no
call for its purpose and address was accepted less than the window before it, and
the calls for one key are answered as if there were no others, however often the
throttle is swept.
-/
theorem allowSend_iff
    {calls : List SendCall}
    (nondecreasing : Nondecreasing calls) :
    (∀ (index : Nat) (call : SendCall), calls[index]? = some call →
        ((allowSends ∅ calls)[index]? = some true ↔
          ¬∃ (earlier : Nat) (other : SendCall),
            earlier < index ∧ calls[earlier]? = some other ∧
              other.purpose = call.purpose ∧ other.email = call.email ∧
                (allowSends ∅ calls)[earlier]? = some true ∧
                  call.now - other.now < perEmailThrottle.nanoseconds)) ∧
      ∀ key : ThrottleKey,
        verdictsFor key calls (allowSends ∅ calls) =
          allowSends ∅ (calls.filter fun call => call.key = key) := by
  obtain ⟨clock, later⟩ := exists_start nondecreasing
  have remembers : Remembers isRecent (∅ : Throttle) (fun _ => none) clock := .empty
  constructor
  · intro index call found
    rw [allowSends_getElem?_iff remembers nondecreasing later found]
    constructor
    · rintro ⟨-, spaced⟩ ⟨earlier, other, before, isOther, purpose, email, accepted, within⟩
      have sameKey : other.key = call.key := by
        rw [SendCall.key, SendCall.key, purpose, email]
      exact absurd within (Int.not_lt.mpr (spaced earlier other before isOther sameKey accepted))
    · intro noRecent
      constructor
      · intro last absent
        cases absent
      · intro earlier other before isOther sameKey accepted
        by_contra within
        obtain ⟨purpose, email⟩ := ThrottleKey.mk.inj sameKey
        exact noRecent
          ⟨earlier, other, before, isOther, purpose, email, accepted, Int.not_le.mp within⟩
  · intro key
    exact verdictsFor_allowSends remembers remembers rfl nondecreasing later

/-- Three mails for one address and one for another, around the end of the window. -/
def spacedCalls : List SendCall :=
  let recovery := bytesOf "account_recovery"
  let address := bytesOf "ada@example.org"
  [⟨recovery, address, 0⟩, ⟨recovery, address, 59999999999⟩,
    ⟨bytesOf "email_verification", address, 59999999999⟩, ⟨recovery, address, 60000000000⟩]

/-- The mail at the end of the window is accepted although one within it was refused. -/
theorem allowSend_spacedCalls :
    (allowSends ∅ spacedCalls)[3]? = some true ∧
      ¬∃ (earlier : Nat) (other : SendCall),
        earlier < 3 ∧ spacedCalls[earlier]? = some other ∧
          other.purpose = bytesOf "account_recovery" ∧
            other.email = bytesOf "ada@example.org" ∧
              (allowSends ∅ spacedCalls)[earlier]? = some true ∧
                60000000000 - other.now < perEmailThrottle.nanoseconds := by
  have nondecreasing : Nondecreasing spacedCalls := by
    unfold Nondecreasing
    decide +kernel
  have accepted : (allowSends ∅ spacedCalls)[3]? = some true := by
    decide +kernel
  exact ⟨accepted, ((allowSend_iff nondecreasing).1 3 _ rfl).mp accepted⟩

end SsnConsole.AuthService
