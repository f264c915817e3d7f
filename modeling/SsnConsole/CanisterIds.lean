import SsnConsole.BackendAccess
import SsnConsole.Cbor

/-!
# Canister identifiers and their ranges

The identifiers of a subnet's canisters are principals made of a 64-bit number,
a reserved byte and the class of opaque identifiers.  A range walks from one
identifier to another by counting the numbers up; it stops when it meets the
other principal, byte by byte, or runs out of numbers.
-/

namespace SsnConsole.CanisterUtils

open SsnConsole.Backend (Principal)
open SsnConsole.Cbor (bigEndian number)

def U64_LENGTH : Nat := 8

/-- A 64-bit number, a reserved byte and the identifier class. -/
def CANISTER_ID_LENGTH : Nat := U64_LENGTH + 2

def OPAQUE_ID_CLASS : UInt8 := 0x01

/-- The last number that an identifier can have. -/
def MAX_VALUE : Nat := 2 ^ 64 - 1

/-- A principal that has the length and the class of a canister's identifier. -/
structure CanisterId where
  principal : Principal
  length : principal.bytes.length = CANISTER_ID_LENGTH
  classed : principal.bytes.getLast? = some OPAQUE_ID_CLASS
  deriving DecidableEq

namespace CanisterId

/-- `CanisterId::try_from`. -/
def tryFrom (value : Principal) : Except String CanisterId :=
  if length : value.bytes.length = CANISTER_ID_LENGTH then
    if classed : value.bytes.getLast? = some OPAQUE_ID_CLASS then
      .ok ⟨value, length, classed⟩
    else
      .error "Principal must end in the in the opaque ID class to be a valid canister id"
  else
    .error
      (s!"Principal must have length {CANISTER_ID_LENGTH} to be a valid canister id, " ++
        s!"but it has length: {value.bytes.length}")

/-- `CanisterId::from(u64)`. -/
def ofU64 (value : UInt64) : CanisterId where
  principal :=
    ⟨bigEndian U64_LENGTH value.toNat ++ [0x01, OPAQUE_ID_CLASS], by
      simp [U64_LENGTH]⟩
  length := by
    simp [CANISTER_ID_LENGTH]
  classed := by
    simp

/-- `u64::from(CanisterId)`. -/
def toU64 (id : CanisterId) : UInt64 :=
  .ofNat (number (id.principal.bytes.take U64_LENGTH))

/-- The number of an identifier. -/
def value (id : CanisterId) : Nat :=
  id.toU64.toNat

/-- The identifier whose reserved byte is the usual one. -/
def canonical (value : Nat) : CanisterId :=
  .ofU64 (.ofNat value)

/-- An identifier that its number determines. -/
def IsCanonical (id : CanisterId) : Prop :=
  id = canonical id.value

instance (id : CanisterId) : Decidable id.IsCanonical :=
  inferInstanceAs (Decidable (_ = _))

/-- Identifiers are told apart by their principals. -/
theorem principal_injective :
    Function.Injective principal := by
  intro first second same
  cases first
  cases second
  cases same
  rfl

/-- The number of an identifier is that of its leading bytes. -/
theorem value_eq
    (id : CanisterId) :
    id.value = number (id.principal.bytes.take U64_LENGTH) := by
  have bytes : (id.principal.bytes.take U64_LENGTH).length = 8 := by
    rw [List.length_take, id.length]
    rfl
  have fits : number (id.principal.bytes.take U64_LENGTH) < 2 ^ 64 := by
    have below := Cbor.number_lt (id.principal.bytes.take U64_LENGTH)
    rw [bytes] at below
    exact below
  exact UInt64.toNat_ofNat_of_lt' fits

/-- Numbers have 64 bits. -/
theorem value_le
    (id : CanisterId) :
    id.value ≤ MAX_VALUE :=
  Nat.le_sub_one_of_lt id.toU64.toNat_lt

/-- The number of a canonical identifier. -/
theorem value_canonical
    {value : Nat}
    (fits : value ≤ MAX_VALUE) :
    (canonical value).value = value := by
  have word : (UInt64.ofNat value).toNat = value :=
    UInt64.toNat_ofNat_of_lt' (Nat.lt_of_le_of_lt fits (by decide))
  have bytes :
      (canonical value).principal.bytes.take U64_LENGTH = bigEndian U64_LENGTH value := by
    change (bigEndian U64_LENGTH (UInt64.ofNat value).toNat ++ _).take U64_LENGTH = _
    rw [word, List.take_left' (Cbor.length_bigEndian _ _)]
  rw [value_eq, bytes]
  exact Cbor.number_bigEndian (Nat.lt_of_le_of_lt fits (by decide))

/-- Canonical identifiers are canonical. -/
theorem isCanonical_canonical
    {value : Nat}
    (fits : value ≤ MAX_VALUE) :
    (canonical value).IsCanonical := by
  unfold IsCanonical
  rw [value_canonical fits]

/-- Counting up to a greater number does not wrap. -/
theorem toU64_canonical_eq_succ_iff
    {earlier value : Nat}
    (before : earlier < value)
    (fits : value ≤ MAX_VALUE) :
    (canonical value).toU64 = (canonical earlier).toU64 + 1 ↔ value = earlier + 1 := by
  have within : earlier + 1 ≤ MAX_VALUE := Nat.le_trans before fits
  have later : (canonical value).toU64.toNat = value := value_canonical fits
  have sooner : (canonical earlier).toU64.toNat = earlier :=
    value_canonical (Nat.le_of_succ_le within)
  have whole : (earlier + 1) % 2 ^ 64 = earlier + 1 :=
    Nat.mod_eq_of_lt (Nat.lt_of_le_of_lt within (by decide))
  rw [← UInt64.toNat_inj, later, UInt64.toNat_add, sooner]
  change value = (earlier + 1) % 2 ^ 64 ↔ _
  rw [whole]

/-- An accepted principal is that of its identifier. -/
theorem tryFrom_eq_ok
    {value : Principal}
    {id : CanisterId} :
    tryFrom value = .ok id ↔ id.principal = value := by
  unfold tryFrom
  constructor
  · intro accepted
    split_ifs at accepted with length classed
    · cases accepted
      rfl
  · rintro rfl
    rw [dif_pos id.length, dif_pos id.classed]

end CanisterId

/-- `CanisterIdRange`. -/
structure CanisterIdRange where
  current : CanisterId
  endId : CanisterId
  finished : Bool
  deriving DecidableEq

namespace CanisterIdRange

open CanisterId

/-- `CanisterIdRange::new`. -/
def new (ids : CanisterId × CanisterId) : CanisterIdRange :=
  ⟨ids.1, ids.2, false⟩

/-- `u64::checked_add` of one. -/
def checkedSucc (value : UInt64) : Option UInt64 :=
  if value.toNat + 1 < 2 ^ 64 then some (value + 1) else none

/-- `CanisterIdRange::next`. -/
def next (range : CanisterIdRange) : Option CanisterId × CanisterIdRange :=
  if range.finished then
    (none, range)
  else if range.current = range.endId then
    (some range.current, { range with finished := true })
  else
    match checkedSucc range.current.toU64 with
    | none => (some range.current, { range with finished := true })
    | some value => (some range.current, { range with current := ofU64 value })

/-- `by_ref().take(count).collect()`: what comes next, and where the range is then. -/
def collect : Nat → CanisterIdRange → List CanisterId × CanisterIdRange
  | 0, range => ([], range)
  | count + 1, range =>
      match range.next with
      | (none, range) => ([], range)
      | (some id, range) =>
          let collected := collect count range
          (id :: collected.1, collected.2)

/-- A range yields these identifiers: asked for one more, it has no more than them. -/
def Yields (range : CanisterIdRange) (ids : List CanisterId) : Prop :=
  (range.collect (ids.length + 1)).1 = ids

instance (range : CanisterIdRange) (ids : List CanisterId) : Decidable (range.Yields ids) :=
  inferInstanceAs (Decidable (_ = _))

/-- How many identifiers follow the current one; a range that cannot meet its end goes on to the
last number. -/
def following (range : CanisterIdRange) : Nat :=
  if range.current = range.endId then
    0
  else if range.endId.IsCanonical ∧ range.current.value < range.endId.value then
    range.endId.value - range.current.value
  else
    MAX_VALUE - range.current.value

/-- The identifiers that a range has not yielded yet. -/
def remaining (range : CanisterIdRange) : List CanisterId :=
  if range.finished then
    []
  else
    range.current ::
      (List.range' (range.current.value + 1) range.following).map canonical

/-- Only the last number has no successor. -/
theorem checkedSucc_toU64
    (id : CanisterId) :
    checkedSucc id.toU64 =
      if id.value = MAX_VALUE then none else some (.ofNat (id.value + 1)) := by
  have bounded : id.value ≤ MAX_VALUE := id.value_le
  have word : id.toU64 + 1 = .ofNat (id.value + 1) := by
    rw [UInt64.ofNat_add, value, UInt64.ofNat_toNat]
    rfl
  unfold checkedSucc
  change (if id.value + 1 < 2 ^ 64 then some (id.toU64 + 1) else none) = _
  rw [word]
  unfold MAX_VALUE at bounded ⊢
  split_ifs with fits last last
  · omega
  · rfl
  · rfl
  · omega

/-- A range that has not met its end and has a next number goes on by one. -/
theorem following_succ
    {current endId : CanisterId}
    (apart : current ≠ endId)
    (more : current.value < MAX_VALUE)
    (finished : Bool) :
    following ⟨current, endId, finished⟩ =
      following ⟨canonical (current.value + 1), endId, finished⟩ + 1 := by
  have number : (canonical (current.value + 1)).value = current.value + 1 :=
    value_canonical more
  have usual : (canonical (current.value + 1)).IsCanonical := isCanonical_canonical more
  unfold following
  dsimp only
  rw [if_neg apart, number]
  by_cases ahead : endId.IsCanonical ∧ current.value < endId.value
  · obtain ⟨canonicalEnd, before⟩ := ahead
    rw [if_pos ⟨canonicalEnd, before⟩]
    by_cases met : canonical (current.value + 1) = endId
    · have last : endId.value = current.value + 1 := by
        rw [← met, number]
      rw [if_pos met, last]
      omega
    · have notLast : endId.value ≠ current.value + 1 := by
        intro last
        apply met
        rw [canonicalEnd, last]
      rw [if_neg met, if_pos ⟨canonicalEnd, by omega⟩]
      omega
  · have missed : canonical (current.value + 1) ≠ endId := by
      intro met
      apply ahead
      rw [← met]
      exact ⟨usual, by omega⟩
    rw [if_neg ahead, if_neg missed, if_neg]
    · omega
    · rintro ⟨canonicalEnd, before⟩
      exact ahead ⟨canonicalEnd, by omega⟩

/-- At the last number nothing follows. -/
theorem following_last
    {range : CanisterIdRange}
    (last : range.current.value = MAX_VALUE) :
    range.following = 0 := by
  have bounded : range.endId.value ≤ MAX_VALUE := range.endId.value_le
  unfold following
  split_ifs with met ahead
  · rfl
  · omega
  · omega

/-- A range is a list of which the first element comes next. -/
theorem next_eq
    (range : CanisterIdRange) :
    range.next.1 = range.remaining.head? ∧
      range.next.2.remaining = range.remaining.tail := by
  rcases range with ⟨current, endId, finished⟩
  cases finished with
  | true => exact ⟨rfl, rfl⟩
  | false =>
      by_cases met : current = endId
      · subst met
        simp [next, remaining, following]
      · have bounded : current.value ≤ MAX_VALUE := current.value_le
        unfold next
        dsimp only
        rw [if_neg Bool.false_ne_true, if_neg met, checkedSucc_toU64]
        rcases bounded.lt_or_eq with more | last
        · rw [if_neg more.ne]
          refine ⟨rfl, ?_⟩
          have number : (canonical (current.value + 1)).value = current.value + 1 :=
            value_canonical more
          unfold remaining
          dsimp only
          rw [if_neg Bool.false_ne_true, if_neg Bool.false_ne_true, following_succ met more,
            List.tail_cons, List.range'_succ, List.map_cons]
          change canonical (current.value + 1) :: (List.range'
            ((canonical (current.value + 1)).value + 1) _).map canonical = _
          rw [number]
          rfl
        · have none : following ⟨current, endId, false⟩ = 0 := following_last last
          rw [if_pos last]
          refine ⟨rfl, ?_⟩
          unfold remaining
          dsimp only
          rw [none]
          rfl

/-- What comes next is taken off the front of the list. -/
theorem collect_eq
    (count : Nat)
    (range : CanisterIdRange) :
    (range.collect count).1 = range.remaining.take count ∧
      (range.collect count).2.remaining = range.remaining.drop count := by
  induction count generalizing range with
  | zero => exact ⟨rfl, rfl⟩
  | succ count hypothesis =>
      obtain ⟨first, rest⟩ := range.next_eq
      cases list : range.remaining with
      | nil =>
          rw [list] at first rest
          have ended : range.next = (none, range.next.2) := Prod.ext first rfl
          rw [collect, ended]
          exact ⟨rfl, rest⟩
      | cons id others =>
          rw [list] at first rest
          have found : range.next = (some id, range.next.2) := Prod.ext first rfl
          obtain ⟨taken, left⟩ := hypothesis range.next.2
          rw [rest] at taken left
          rw [collect, found]
          exact ⟨congrArg (id :: ·) taken, left⟩

/-- A range yields the identifiers that remain, and only these. -/
theorem yields_iff
    {range : CanisterIdRange}
    {ids : List CanisterId} :
    range.Yields ids ↔ ids = range.remaining := by
  unfold Yields
  rw [(range.collect_eq _).1]
  constructor
  · intro taken
    have length := congrArg List.length taken
    rw [List.length_take] at length
    rw [← taken]
    apply List.take_of_length_le
    omega
  · rintro rfl
    exact List.take_of_length_le (Nat.le_succ _)

/-- A range of canonical identifiers in order yields those between its ends. -/
theorem remaining_canonical
    {first last : Nat}
    (ordered : first ≤ last)
    (bounded : last ≤ MAX_VALUE) :
    (new (canonical first, canonical last)).remaining =
      (List.range' first (last + 1 - first)).map canonical := by
  have firstValue : (canonical first).value = first := value_canonical (ordered.trans bounded)
  have lastValue : (canonical last).value = last := value_canonical bounded
  have follow : (new (canonical first, canonical last)).following = last - first := by
    unfold following new
    dsimp only
    rw [firstValue, lastValue]
    split_ifs with met ahead
    · have same := congrArg value met
      rw [firstValue, lastValue] at same
      omega
    · rfl
    · have equal : first = last := by
        by_contra distinct
        exact ahead ⟨isCanonical_canonical bounded, by omega⟩
      exact absurd (congrArg canonical equal) met
  have length : last + 1 - first = last - first + 1 := by
    omega
  unfold remaining
  rw [follow, length, List.range'_succ, List.map_cons]
  change canonical first :: (List.range' ((canonical first).value + 1) _).map canonical = _
  rw [firstValue]

/-- The numbers that a new range yields. -/
theorem map_value_remaining
    (start endId : CanisterId) :
    (new (start, endId)).remaining.map value =
      List.range' start.value ((new (start, endId)).following + 1) := by
  have bounded : start.value + (new (start, endId)).following ≤ MAX_VALUE := by
    have startBounded : start.value ≤ MAX_VALUE := start.value_le
    have endBounded : endId.value ≤ MAX_VALUE := endId.value_le
    unfold following new
    dsimp only
    split_ifs
    · omega
    · omega
    · omega
  have numbers :
      ∀ number ∈ List.range' (start.value + 1) (new (start, endId)).following,
        value (canonical number) = number := by
    intro number member
    obtain ⟨-, below⟩ := List.mem_range'_1.mp member
    exact value_canonical (by omega)
  have same := List.map_congr_left numbers
  rw [List.map_id'] at same
  change start.value :: ((List.range' (start.value + 1) _).map canonical).map value = _
  rw [List.map_map, List.range'_succ]
  exact congrArg (start.value :: ·) same

/-- A new range counts up to the number of its end exactly if it meets its end, or if there are
no greater numbers. -/
theorem following_eq_iff
    (start endId : CanisterId) :
    (new (start, endId)).following + 1 = endId.value + 1 - start.value ↔
      endId.value = MAX_VALUE ∨ start = endId ∨
        start.value < endId.value ∧ endId.IsCanonical := by
  have startBounded : start.value ≤ MAX_VALUE := start.value_le
  have endBounded : endId.value ≤ MAX_VALUE := endId.value_le
  unfold following new
  dsimp only
  split_ifs with met ahead
  · subst met
    exact ⟨fun _ => Or.inr (Or.inl rfl), fun _ => by omega⟩
  · exact ⟨fun _ => Or.inr (Or.inr ⟨ahead.2, ahead.1⟩), fun _ => by omega⟩
  · constructor
    · intro counted
      left
      omega
    · rintro (last | same | ⟨before, usual⟩)
      · omega
      · exact absurd same met
      · exact absurd ⟨usual, before⟩ ahead

end CanisterIdRange

end SsnConsole.CanisterUtils
