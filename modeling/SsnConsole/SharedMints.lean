import SsnConsole.MetricsProxyApi

/-!
# Shared mints

However its calls interleave, the client runs one mint at a time, every call is
answered once or waits for the mint that is under way, and a token that a call gets
is fresh or comes from the mint that the call waited for.
-/

namespace SsnConsole.Frontend

open SsnConsole.MessageRun

variable {Identity : Type} [ClientIdentity Identity]

namespace MetricsProxyApi

/-- What an event does, branch by branch. -/
inductive Change (api : MetricsProxyApi Identity) :
    ClientEvent Identity → MetricsProxyApi Identity → Prop
  | cached {identity now session}
      (fresh : api.freshSession now = some session) :
      Change api (.call identity now) (api.answerCached identity session)
  | joined {identity now promise}
      (stale : api.freshSession now = none)
      (inflight : api.inflightSession = some promise) :
      Change api (.call identity now) (api.joinMint identity promise)
  | started {identity now}
      (stale : api.freshSession now = none)
      (idle : api.inflightSession = none)
      (delegated : ClientIdentity.isDelegation identity = true) :
      Change api (.call identity now)
        { api with
          inflightSession := some api.promises
          minting := ⟨api.promises, identity⟩ :: api.minting
          waiting := (api.promises, api.nextCall identity) :: api.waiting
          promises := api.promises + 1
          calls := api.calls + 1 }
  | refused {identity now}
      (stale : api.freshSession now = none)
      (idle : api.inflightSession = none)
      (undelegated : ClientIdentity.isDelegation identity = false) :
      Change api (.call identity now)
        { api with
          inflightSession := some api.promises
          settled := (api.promises, .error (notDelegated identity)) :: api.settled
          waiting := (api.promises, api.nextCall identity) :: api.waiting
          promises := api.promises + 1
          calls := api.calls + 1 }
  | minted {index reply mint session}
      (running : api.minting[index]? = some mint)
      (parsed : mintResult reply = .ok session) :
      Change api (.reply index reply)
        { api with
          session := some session
          minting := api.minting.eraseIdx index
          settled := (mint.promise, .ok session.token) :: api.settled }
  | failed {index reply mint message}
      (running : api.minting[index]? = some mint)
      (unparsed : mintResult reply = .error message) :
      Change api (.reply index reply)
        { api with
          minting := api.minting.eraseIdx index
          settled := (mint.promise, .error message) :: api.settled }
  | released {index promise result}
      (ended : api.settled[index]? = some (promise, result)) :
      Change api (.release index) (api.release index promise result)

/-- Every event takes one of the branches. -/
theorem change_of_step
    {api after : MetricsProxyApi Identity}
    {event : ClientEvent Identity}
    (stepped : api.step event = some after) :
    api.Change event after := by
  cases event with
  | call identity now =>
      simp only [step, Option.some.injEq, getSessionToken] at stepped
      cases fresh : api.freshSession now with
      | some session =>
          simp only [fresh] at stepped
          subst stepped
          exact .cached fresh
      | none =>
          cases inflight : api.inflightSession with
          | some promise =>
              simp only [fresh, inflight] at stepped
              subst stepped
              exact .joined fresh inflight
          | none =>
              simp only [fresh, inflight, mintSession] at stepped
              cases delegated : ClientIdentity.isDelegation identity with
              | true =>
                  simp only [delegated, if_true] at stepped
                  subst stepped
                  exact .started fresh inflight delegated
              | false =>
                  simp only [delegated, Bool.false_eq_true, if_false] at stepped
                  subst stepped
                  exact .refused fresh inflight delegated
  | reply index reply =>
      obtain ⟨mint, running, same⟩ := Option.map_eq_some_iff.mp stepped
      subst same
      cases parsed : mintResult reply with
      | ok session => exact .minted running parsed
      | error message => exact .failed running parsed
  | release index =>
      obtain ⟨⟨promise, result⟩, ended, same⟩ := Option.map_eq_some_iff.mp stepped
      subst same
      exact .released ended

variable {api after : MetricsProxyApi Identity} {event : ClientEvent Identity}

/-- A call waited before, or it comes in just now and finds no fresh session. -/
theorem waiting_of_change
    {waiter : Nat × TokenCall Identity}
    (change : api.Change event after)
    (member : waiter ∈ after.waiting) :
    waiter ∈ api.waiting ∨
      ∃ now,
        event = .call waiter.2.identity now ∧ waiter.2 = api.nextCall waiter.2.identity ∧
          api.freshSession now = none := by
  cases change with
  | cached => exact .inl member
  | joined stale =>
      rcases List.mem_cons.mp member with rfl | earlier
      · exact .inr ⟨_, rfl, rfl, stale⟩
      · exact .inl earlier
  | started stale =>
      rcases List.mem_cons.mp member with rfl | earlier
      · exact .inr ⟨_, rfl, rfl, stale⟩
      · exact .inl earlier
  | refused stale =>
      rcases List.mem_cons.mp member with rfl | earlier
      · exact .inr ⟨_, rfl, rfl, stale⟩
      · exact .inl earlier
  | minted => exact .inl member
  | failed => exact .inl member
  | released =>
      simp only [release, List.partition_eq_filter_filter] at member
      exact .inl (List.mem_of_mem_filter member)

/-- A mint ran before, or a call starts it just now. -/
theorem minting_of_change
    {mint : MintCall Identity}
    (change : api.Change event after)
    (member : mint ∈ after.minting) :
    mint ∈ api.minting ∨
      ∃ now,
        event = .call mint.identity now ∧ api.freshSession now = none ∧
          api.inflightSession = none ∧ mint.promise = api.promises := by
  cases change with
  | started stale idle =>
      rcases List.mem_cons.mp member with rfl | earlier
      · exact .inr ⟨_, rfl, stale, idle, rfl⟩
      · exact .inl earlier
  | minted => exact .inl ((List.eraseIdx_sublist _ _).subset member)
  | failed => exact .inl ((List.eraseIdx_sublist _ _).subset member)
  | cached => exact .inl member
  | joined => exact .inl member
  | refused => exact .inl member
  | released => exact .inl member

/-- An event that ends a mint with a session. -/
def Mints (api : MetricsProxyApi Identity) (event : ClientEvent Identity)
    (mint : MintCall Identity) (session : ClientSession) : Prop :=
  ∃ index reply,
    event = .reply index reply ∧ api.minting[index]? = some mint ∧
      mintResult reply = .ok session

/-- The session is the one before, and no mint ends with one, or it is minted just now. -/
theorem session_of_change
    {session : ClientSession}
    (change : api.Change event after)
    (found : after.session = some session) :
    (api.session = some session ∧ ∀ mint other, ¬ api.Mints event mint other) ∨
      ∃ mint, api.Mints event mint session := by
  cases change with
  | minted running parsed =>
      cases found
      exact .inr ⟨_, _, _, rfl, running, parsed⟩
  | failed running unparsed =>
      refine .inl ⟨found, ?_⟩
      rintro mint other ⟨index, reply, same, -, parsed⟩
      cases same
      rw [unparsed] at parsed
      cases parsed
  | cached | joined | started | refused | released =>
      refine .inl ⟨found, ?_⟩
      rintro mint other ⟨index, reply, same, -⟩
      cases same

/-- A token waits for its `finally` since before, or it is minted just now. -/
theorem settled_of_change
    {promise : Nat}
    {token : String}
    (change : api.Change event after)
    (member : (promise, .ok token) ∈ after.settled) :
    (promise, .ok token) ∈ api.settled ∨
      ∃ mint session,
        api.Mints event mint session ∧ mint.promise = promise ∧ session.token = token := by
  cases change with
  | minted running parsed =>
      rcases List.mem_cons.mp member with same | earlier
      · cases same
        exact .inr ⟨_, _, ⟨_, _, rfl, running, parsed⟩, rfl, rfl⟩
      · exact .inl earlier
  | failed running unparsed =>
      rcases List.mem_cons.mp member with same | earlier
      · cases same
      · exact .inl earlier
  | refused =>
      rcases List.mem_cons.mp member with same | earlier
      · cases same
      · exact .inl earlier
  | released => exact .inl ((List.eraseIdx_sublist _ _).subset member)
  | cached => exact .inl member
  | joined => exact .inl member
  | started => exact .inl member

/-- A call was answered before, or it finds a fresh session, or its promise is resolved. -/
theorem answered_of_change
    {answer : TokenAnswer Identity}
    {token : String}
    (change : api.Change event after)
    (member : answer ∈ after.answered)
    (answered : answer.result = .ok token) :
    answer ∈ api.answered ∨
      (∃ now session,
        event = .call answer.call.identity now ∧
          answer.call = api.nextCall answer.call.identity ∧
            api.freshSession now = some session ∧ session.token = token) ∨
        ∃ promise,
          (promise, .ok token) ∈ api.settled ∧ (promise, answer.call) ∈ api.waiting ∧
            answer.promise = some promise := by
  cases change with
  | cached fresh =>
      rcases List.mem_cons.mp member with rfl | earlier
      · cases answered
        exact .inr (.inl ⟨_, _, rfl, rfl, fresh, rfl⟩)
      · exact .inl earlier
  | @released index promise result ended =>
      simp only [release, List.partition_eq_filter_filter] at member
      rcases List.mem_append.mp member with resolved | earlier
      · obtain ⟨⟨awaited, call⟩, waits, rfl⟩ := List.mem_map.mp resolved
        obtain ⟨waiting, same⟩ := List.mem_filter.mp waits
        obtain rfl : awaited = promise := by simpa using same
        obtain rfl : result = .ok token := answered
        exact .inr (.inr ⟨awaited, List.mem_of_getElem? ended, waiting, rfl⟩)
      · exact .inl earlier
  | joined => exact .inl member
  | started => exact .inl member
  | refused => exact .inl member
  | minted => exact .inl member
  | failed => exact .inl member

end MetricsProxyApi

/-- Runs of the client. -/
abbrev ClientRun (Identity : Type) [ClientIdentity Identity] : Type :=
  Execution
    (MetricsProxyApi.step : MetricsProxyApi Identity → ClientEvent Identity →
      Option (MetricsProxyApi Identity))
    MetricsProxyApi.new

namespace ClientRun

variable (run : ClientRun Identity)

/-- A call comes in at a reading of the clock. -/
def Called (time : Nat) (call : TokenCall Identity) (now : Int) : Prop :=
  run.event time = .call call.identity now ∧ call = (run.state time).nextCall call.identity

/-- A call starts a mint: it finds no fresh session, and no mint that is under way. -/
def Started (time : Nat) (mint : MintCall Identity) : Prop :=
  ∃ now,
    run.event time = .call mint.identity now ∧ (run.state time).freshSession now = none ∧
      (run.state time).inflightSession = none ∧ mint.promise = (run.state time).promises

/-- A mint returns a session. -/
def Minted (time : Nat) (mint : MintCall Identity) (session : ClientSession) : Prop :=
  (∃ earlier < time, run.Started earlier mint) ∧
    (run.state time).Mints (run.event time) mint session

/-- A session is the last that was minted before an event. -/
def LastMinted (time : Nat) (session : ClientSession) : Prop :=
  ∃ minted < time, (∃ mint, run.Minted minted mint session) ∧
    ∀ later, minted < later → later < time → ∀ mint other, ¬ run.Minted later mint other

/-- Where the token of an answer is from. -/
inductive TokenOrigin (time : Nat) (answer : TokenAnswer Identity) (token : String) : Prop
  /-- The last session was fresh when the call came. -/
  | cached
      {called : Nat}
      {now : Int}
      {session : ClientSession}
      (before : called < time)
      (calls : run.Called called answer.call now)
      (last : run.LastMinted called session)
      (fresh : now < session.expiresAtMs - SESSION_REFRESH_BUFFER_MS)
      (same : session.token = token)
  /-- The call waited for the mint. -/
  | awaited
      {called minted : Nat}
      {now : Int}
      {mint : MintCall Identity}
      {session : ClientSession}
      (before : called < time)
      (calls : run.Called called answer.call now)
      (stale : (run.state called).freshSession now = none)
      (ended : minted < time)
      (mints : run.Minted minted mint session)
      (waited : answer.promise = some mint.promise)
      (same : session.token = token)

/-- What holds of the client whatever happened. -/
structure MintsShared (time : Nat) : Prop where
  /-- There is one mint under way, or none. -/
  single :
    (run.state time).minting.map MintCall.promise ++ (run.state time).settled.map Prod.fst =
      (run.state time).inflightSession.toList
  /-- Calls wait for the mint that is under way only. -/
  attended :
    ∀ waiter ∈ (run.state time).waiting, (run.state time).inflightSession = some waiter.1
  /-- Every call is answered once, or waits. -/
  accounted :
    ((run.state time).answered.map (fun answer => answer.call.id) ++
        (run.state time).waiting.map fun waiter => waiter.2.id).Perm
      (List.range (run.state time).calls)
  /-- Every token comes from a fresh session, or from the mint that was waited for. -/
  origin :
    ∀ answer ∈ (run.state time).answered, ∀ token,
      answer.result = .ok token → run.TokenOrigin time answer token

/-- What goes back to earlier events, before every event. -/
structure Traced (time : Nat) : Prop where
  waiters :
    ∀ waiter ∈ (run.state time).waiting,
      ∃ called < time, ∃ now,
        run.Called called waiter.2 now ∧ (run.state called).freshSession now = none
  started : ∀ mint ∈ (run.state time).minting, ∃ earlier < time, run.Started earlier mint
  session : ∀ session, (run.state time).session = some session → run.LastMinted time session
  settled :
    ∀ promise token,
      (promise, .ok token) ∈ (run.state time).settled →
        ∃ minted < time, ∃ mint session,
          run.Minted minted mint session ∧ mint.promise = promise ∧ session.token = token

variable {run} {time : Nat}

/-- What happened before an event happened before the next. -/
private theorem before_succ
    {Happened : Nat → Prop}
    (happened : ∃ earlier < time, Happened earlier) :
    ∃ earlier < time + 1, Happened earlier := by
  obtain ⟨earlier, before, rest⟩ := happened
  exact ⟨earlier, Nat.lt_succ_of_lt before, rest⟩

/-- The last session stays the last until another is minted. -/
theorem LastMinted.succ
    {session : ClientSession}
    (last : run.LastMinted time session)
    (silent : ∀ mint other, ¬ run.Minted time mint other) :
    run.LastMinted (time + 1) session := by
  obtain ⟨minted, before, mints, newest⟩ := last
  refine ⟨minted, Nat.lt_succ_of_lt before, mints, ?_⟩
  intro later after within mint other
  rcases Nat.lt_succ_iff_lt_or_eq.mp within with earlier | rfl
  · exact newest later after earlier mint other
  · exact silent mint other

/-- Where a token is from does not change. -/
theorem TokenOrigin.succ
    {answer : TokenAnswer Identity}
    {token : String}
    (origin : run.TokenOrigin time answer token) :
    run.TokenOrigin (time + 1) answer token := by
  cases origin with
  | cached before calls last fresh same =>
      exact .cached (Nat.lt_succ_of_lt before) calls last fresh same
  | awaited before calls stale ended mints waited same =>
      exact
        .awaited (Nat.lt_succ_of_lt before) calls stale (Nat.lt_succ_of_lt ended) mints waited same

/-- A step of a run takes one of the branches. -/
private theorem change
    (within : time < run.length) :
    (run.state time).Change (run.event time) (run.state (time + 1)) :=
  MetricsProxyApi.change_of_step (run.advances time within)

section Steps

variable {api after : MetricsProxyApi Identity}

omit [ClientIdentity Identity] in
/-- A mint that runs is the only one. -/
private theorem only_running
    {index : Nat}
    {mint : MintCall Identity}
    (single :
      api.minting.map MintCall.promise ++ api.settled.map Prod.fst = api.inflightSession.toList)
    (running : api.minting[index]? = some mint) :
    api.minting.eraseIdx index = [] ∧ api.settled = [] ∧
      api.inflightSession = some mint.promise := by
  cases minting : api.minting with
  | nil =>
      rw [minting] at running
      cases running
  | cons first rest =>
      rw [minting] at single running
      cases inflight : api.inflightSession with
      | none =>
          rw [inflight] at single
          cases single
      | some promise =>
          simp only [inflight, List.map_cons, List.cons_append, Option.toList_some,
            List.cons.injEq, List.append_eq_nil_iff, List.map_eq_nil_iff] at single
          obtain ⟨same, rfl, settled⟩ := single
          cases index with
          | zero =>
              cases running
              exact ⟨rfl, settled, congrArg some same.symm⟩
          | succ index => cases running

omit [ClientIdentity Identity] in
/-- A mint that has ended is the only one. -/
private theorem only_settled
    {index promise : Nat}
    {result : Except String String}
    (single :
      api.minting.map MintCall.promise ++ api.settled.map Prod.fst = api.inflightSession.toList)
    (ended : api.settled[index]? = some (promise, result)) :
    api.minting = [] ∧ api.settled = [(promise, result)] ∧ index = 0 ∧
      api.inflightSession = some promise := by
  cases settled : api.settled with
  | nil =>
      rw [settled] at ended
      cases ended
  | cons first rest =>
      rw [settled] at single ended
      cases inflight : api.inflightSession with
      | none =>
          rw [inflight] at single
          simp at single
      | some awaited =>
          cases minting : api.minting with
          | cons mint others =>
              rw [inflight, minting] at single
              simp at single
          | nil =>
              simp only [inflight, minting, List.map_nil, List.nil_append, List.map_cons,
                Option.toList_some, List.cons.injEq, List.map_eq_nil_iff] at single
              obtain ⟨same, rfl⟩ := single
              cases index with
              | zero =>
                  cases ended
                  exact ⟨rfl, rfl, rfl, congrArg some same.symm⟩
              | succ index => cases ended

omit [ClientIdentity Identity] in
/-- Without a mint under way nothing runs, and nobody waits. -/
private theorem idle
    (single :
      api.minting.map MintCall.promise ++ api.settled.map Prod.fst = api.inflightSession.toList)
    (attended : ∀ waiter ∈ api.waiting, api.inflightSession = some waiter.1)
    (none : api.inflightSession = none) :
    api.minting = [] ∧ api.settled = [] ∧ api.waiting = [] := by
  rw [none] at single attended
  obtain ⟨minting, settled⟩ := List.append_eq_nil_iff.mp single
  refine ⟨List.map_eq_nil_iff.mp minting, List.map_eq_nil_iff.mp settled, ?_⟩
  apply List.eq_nil_iff_forall_not_mem.mpr
  intro waiter member
  cases attended waiter member

end Steps

/-- Every event keeps the traces. -/
theorem Traced.step
    (within : time < run.length)
    (traced : run.Traced time) :
    run.Traced (time + 1) where
  waiters waiter member := by
    rcases MetricsProxyApi.waiting_of_change (change within) member with
      earlier | ⟨now, event, calls, stale⟩
    · exact before_succ (traced.waiters waiter earlier)
    · exact ⟨time, Nat.lt_succ_self time, now, ⟨event, calls⟩, stale⟩
  started mint member := by
    rcases MetricsProxyApi.minting_of_change (change within) member with
      earlier | ⟨now, event, stale, idle, numbered⟩
    · exact before_succ (traced.started mint earlier)
    · exact ⟨time, Nat.lt_succ_self time, now, event, stale, idle, numbered⟩
  session session found := by
    rcases MetricsProxyApi.session_of_change (change within) found with
      ⟨kept, silent⟩ | ⟨mint, mints⟩
    · exact (traced.session session kept).succ fun mint other minted =>
        silent mint other minted.2
    · refine ⟨time, Nat.lt_succ_self time, ⟨mint, ?_, mints⟩, ?_⟩
      · obtain ⟨index, reply, -, running, -⟩ := mints
        exact traced.started mint (List.mem_of_getElem? running)
      · intro later after before
        omega
  settled promise token member := by
    rcases MetricsProxyApi.settled_of_change (change within) member with
      earlier | ⟨mint, session, mints, promised, same⟩
    · exact before_succ (traced.settled promise token earlier)
    · refine ⟨time, Nat.lt_succ_self time, mint, session, ⟨?_, mints⟩, promised, same⟩
      obtain ⟨index, reply, -, running, -⟩ := mints
      exact traced.started mint (List.mem_of_getElem? running)

/-- Nothing goes back to before the first event. -/
theorem Traced.zero : run.Traced 0 where
  waiters waiter member := by
    rw [run.starts] at member
    cases member
  started mint member := by
    rw [run.starts] at member
    cases member
  session session found := by
    rw [run.starts] at found
    cases found
  settled promise token member := by
    rw [run.starts] at member
    cases member

/-- The traces hold before every event. -/
theorem traced
    (within : time ≤ run.length) :
    run.Traced time := by
  induction time with
  | zero => exact .zero
  | succ time inductionHypothesis =>
      exact (inductionHypothesis (Nat.le_of_succ_le within)).step within

/-- One call more is answered or waits. -/
private theorem accounted_succ
    {answered waiting : List Nat}
    {calls : Nat}
    (accounted : (answered ++ waiting).Perm (List.range calls)) :
    (calls :: (answered ++ waiting)).Perm (List.range (calls + 1)) := by
  rw [List.range_succ]
  exact (accounted.cons calls).trans (List.perm_append_singleton calls _).symm

/-- A new client is sound. -/
theorem MintsShared.zero : run.MintsShared 0 where
  single := by
    rw [run.starts]
    rfl
  attended waiter member := by
    rw [run.starts] at member
    cases member
  accounted := by
    rw [run.starts]
    exact .refl _
  origin answer member := by
    rw [run.starts] at member
    cases member

/-- Every event keeps one mint under way. -/
private theorem single_succ
    (within : time < run.length)
    (shared : run.MintsShared time) :
    (run.state (time + 1)).minting.map MintCall.promise ++
        (run.state (time + 1)).settled.map Prod.fst =
      (run.state (time + 1)).inflightSession.toList := by
  have changed := change within
  generalize run.state (time + 1) = after at changed ⊢
  generalize run.event time = event at changed
  have single := shared.single
  cases changed with
  | cached => exact single
  | joined => exact single
  | started _ none =>
      obtain ⟨minting, settled, -⟩ := idle single shared.attended none
      simp [minting, settled]
  | refused _ none =>
      obtain ⟨minting, settled, -⟩ := idle single shared.attended none
      simp [minting, settled]
  | minted running =>
      obtain ⟨minting, settled, inflight⟩ := only_running single running
      simp [minting, settled, inflight]
  | failed running =>
      obtain ⟨minting, settled, inflight⟩ := only_running single running
      simp [minting, settled, inflight]
  | released ended =>
      obtain ⟨minting, settled, rfl, -⟩ := only_settled single ended
      simp [MetricsProxyApi.release, minting, settled]

/-- Every event leaves calls waiting for the mint that is under way only. -/
private theorem attended_succ
    (within : time < run.length)
    (shared : run.MintsShared time) :
    ∀ waiter ∈ (run.state (time + 1)).waiting,
      (run.state (time + 1)).inflightSession = some waiter.1 := by
  have changed := change within
  generalize run.state (time + 1) = after at changed ⊢
  generalize run.event time = event at changed
  have attended := shared.attended
  intro waiter member
  cases changed with
  | cached => exact attended waiter member
  | joined _ inflight =>
      rcases List.mem_cons.mp member with rfl | earlier
      · exact inflight
      · exact attended waiter earlier
  | started _ none =>
      obtain ⟨-, -, waiting⟩ := idle shared.single attended none
      rw [waiting] at member
      obtain rfl := List.mem_singleton.mp member
      rfl
  | refused _ none =>
      obtain ⟨-, -, waiting⟩ := idle shared.single attended none
      rw [waiting] at member
      obtain rfl := List.mem_singleton.mp member
      rfl
  | minted => exact attended waiter member
  | failed => exact attended waiter member
  | released ended =>
      obtain ⟨-, -, -, inflight⟩ := only_settled shared.single ended
      simp only [MetricsProxyApi.release, List.partition_eq_filter_filter] at member
      obtain ⟨earlier, other⟩ := List.mem_filter.mp member
      rw [inflight] at attended
      have same := Option.some.inj (attended waiter earlier)
      simp [same] at other

/-- Every event answers every call once, or leaves it waiting. -/
private theorem accounted_succ_of_shared
    (within : time < run.length)
    (shared : run.MintsShared time) :
    ((run.state (time + 1)).answered.map (fun answer => answer.call.id) ++
        (run.state (time + 1)).waiting.map fun waiter => waiter.2.id).Perm
      (List.range (run.state (time + 1)).calls) := by
  have changed := change within
  generalize run.state (time + 1) = after at changed ⊢
  generalize run.event time = event at changed
  have accounted := shared.accounted
  cases changed with
  | cached => exact accounted_succ accounted
  | joined => exact List.perm_middle.trans (accounted_succ accounted)
  | started => exact List.perm_middle.trans (accounted_succ accounted)
  | refused => exact List.perm_middle.trans (accounted_succ accounted)
  | minted => exact accounted
  | failed => exact accounted
  | @released index promise result ended =>
      obtain ⟨-, -, -, inflight⟩ := only_settled shared.single ended
      have awaited : ∀ waiter ∈ (run.state time).waiting, (waiter.1 == promise) = true := by
        intro waiter member
        have same := shared.attended waiter member
        rw [inflight] at same
        simp [Option.some.inj same]
      have resolved :
          (run.state time).waiting.filter (fun waiter => waiter.1 == promise) =
            (run.state time).waiting :=
        List.filter_eq_self.mpr awaited
      have left :
          (run.state time).waiting.filter (fun waiter => !waiter.1 == promise) = [] := by
        apply List.filter_eq_nil_iff.mpr
        intro waiter member
        simp [awaited waiter member]
      simp only [MetricsProxyApi.release, List.partition_eq_filter_filter, resolved, left,
        List.map_append, List.map_map, Function.comp_def, List.map_nil, List.append_nil]
      exact List.perm_append_comm.trans accounted

/-- Every event keeps the client sound. -/
theorem MintsShared.step
    (within : time < run.length)
    (shared : run.MintsShared time) :
    run.MintsShared (time + 1) where
  single := single_succ within shared
  attended := attended_succ within shared
  accounted := accounted_succ_of_shared within shared
  origin answer member token answered := by
    have traces := traced (Nat.le_of_lt within)
    rcases MetricsProxyApi.answered_of_change (change within) member answered with
      earlier | ⟨now, session, event, calls, fresh, same⟩ | ⟨promise, minted, waits, waited⟩
    · exact (shared.origin answer earlier token answered).succ
    · obtain ⟨found, current⟩ := Option.filter_eq_some_iff.mp fresh
      exact
        .cached (Nat.lt_succ_self time) ⟨event, calls⟩ (traces.session session found)
          (of_decide_eq_true current) same
    · obtain ⟨called, before, now, calls, stale⟩ := traces.waiters _ waits
      obtain ⟨ended, earlier, mint, session, mints, promised, same⟩ :=
        traces.settled promise token minted
      exact
        .awaited (Nat.lt_succ_of_lt before) calls stale (Nat.lt_succ_of_lt earlier) mints
          (waited.trans (congrArg some promised.symm)) same

/-- However its calls interleave, the client shares its mints. -/
theorem mintsShared
    (within : time ≤ run.length) :
    run.MintsShared time := by
  induction time with
  | zero => exact .zero
  | succ time inductionHypothesis =>
      exact (inductionHypothesis (Nat.le_of_succ_le within)).step within

end ClientRun

namespace SharedSession

/-- Who is logged in on a page. -/
inductive PageIdentity
  | anonymous
  | delegated

@[reducible]
def identities : ClientIdentity PageIdentity where
  isDelegation
    | .anonymous => false
    | .delegated => true
  constructorName
    | .anonymous => "AnonymousIdentity"
    | .delegated => "DelegationIdentity"

attribute [local instance] identities

/-- A session of a quarter of an hour. -/
def session : ClientSession :=
  ⟨"9f86d081884c7d659a2feaa0c55ad015a3bf4f1b2b0b822cd15d6c15b0f00a08", 1700000900000⟩

/-- Two charts share one mint, a third finds its session, and a fourth comes too late for it. -/
def events : List (ClientEvent PageIdentity) :=
  [.call .delegated 1700000000000,
    .call .delegated 1700000000001,
    .reply 0 (.response 200 "OK" "" (.ok session)),
    .release 0,
    .call .delegated 1700000869999,
    .call .delegated 1700000870000]

/-- The run of these events. -/
def run : ClientRun PageIdentity :=
  .ofEvents events (.release 0) (by decide +kernel)

/-- The charts of the run share their mints. -/
theorem mintsShared_charts :
    (run.state 6).answered.length = 3 ∧ (run.state 6).waiting.length = 1 ∧
      run.MintsShared 6 :=
  ⟨by decide +kernel, by decide +kernel, run.mintsShared (Nat.le_refl 6)⟩

end SharedSession

end SsnConsole.Frontend
