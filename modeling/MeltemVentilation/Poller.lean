import MeltemVentilation.PollChain

/-!
# The poll loop of the coordinator

`_async_update_data` and what it calls: the choice of the job, the read of one unit, the
count of failures of the link, and the delay until the next tick. A tick is split where the
source awaits, so that everything else may happen in between: a new request rate, an optional
read that is switched on or off, a read slot taken by somebody else, a write whose readback
publishes new data, and the events of the poll chain. The gateway lock admits one tick at a
time (`Poller.tick`).

What a unit replies is input, and so are the times that the clock shows; they never go back.
-/

namespace MeltemVentilation

/-! ### What a job did -/

/-- `_job_read_groups`: the groups whose failures determine the outcome of one job. -/
def jobReadGroups (room : RoomConfig) (plan : RefreshPlan) : List ReadGroup :=
  if plan.refreshAirflow && room.supportsGroup .flow then [.flow]
  else plan.readGroups.filter fun group => room.supportsGroup group

/-- `job_read_failure`, the error: set when all recorded primary groups failed. -/
def jobReadFailure (room : RoomConfig) (outcome : ReadJobOutcome) (plan : RefreshPlan) :
    Option String :=
  let recorded := (jobReadGroups room plan).filter (· ∈ outcome.recordedGroups)
  if recorded.all fun group => (outcome.errors group).isSome then
    recorded.head?.bind outcome.errors
  else none

/-- `job_read_attempted`: whether any supported group was actually read. -/
def jobReadAttempted (room : RoomConfig) (outcome : ReadJobOutcome) (plan : RefreshPlan) : Bool :=
  plan.readGroups.any fun group => group ∈ outcome.attemptedGroups && room.supportsGroup group

/-- `job_read_unanswered`: requests were sent and none of them got a valid answer. -/
def jobReadUnanswered (room : RoomConfig) (outcome : ReadJobOutcome) (plan : RefreshPlan) : Bool :=
  jobReadAttempted room outcome plan && !outcome.answered

/-! ### The state -/

/-- A room state map: a dictionary by room key. -/
abbrev States := String → Option UnitState

/-- Where a tick awaits. -/
inductive Tick where
  | none
  /-- No job: due optional values are read. -/
  | idle
  /-- The job is being read; `startup` says that it is its first turn. -/
  | reading (job : PollJob) (startup : Bool)
  /-- The job has been read; due optional values are read before it is judged. -/
  | judging (job : PollJob) (startup : Bool) (updated : States)

/-- The coordinator, as far as polling reads and writes it. -/
structure Poller where
  rooms : List RoomConfig
  jobs : List PollJob
  /-- `_startup_jobs`: the jobs whose first turn is still to come. -/
  startupJobs : Option (List JobId) := none
  startupTurn : Bool := true
  startedAt : Seconds
  /-- The last time that was read off the clock. -/
  clock : Seconds
  lastReadStarted : Option Seconds := none
  tickSeconds : Seconds
  data : States := fun _ => none
  startupStates : States := fun _ => none
  lastJobError : Option String := none
  lastJobLinkFailure : Bool := false
  lastJobAttempted : Bool := false
  consecutiveTransportFailures : ℕ := 0
  backoff : Option Seconds := none
  tick : Tick := .none
  chain : PollChain

namespace Poller

variable (s : Poller)

/-- Whether a room state map has an entry. -/
def nonempty (states : States) : Bool := s.rooms.any fun room => (states room.key).isSome

/-! ### Planning the next tick -/

/-- `_schedule_next_tick`. `optionalDue` lists the seconds until the enabled optional reads are
due. -/
def scheduleNextTick (now : Seconds) (optionalDue : List Seconds) : Poller :=
  if s.backoff.isSome then s
  else
    let startupPending := s.startupJobs.any fun waiting => !waiting.isEmpty
    let seconds := nextTickSeconds s.jobs startupPending s.tickSeconds now
    let seconds := optionalDue.foldl (fun seconds dueIn => min seconds (max s.tickSeconds dueIn))
      seconds
    { s with chain := s.chain.setNextPollDelay seconds }

/-- `_on_transport_success`: reset failure tracking and any active polling backoff. -/
def onTransportSuccess (now : Seconds) (optionalDue : List Seconds) : Poller :=
  let s := { s with consecutiveTransportFailures := 0 }
  if s.backoff = none then s
  else { s with backoff := none }.scheduleNextTick now optionalDue

/-- `_apply_transport_backoff`: slow down polling while the gateway keeps failing. -/
def applyTransportBackoff : Poller :=
  match backoffSeconds s.consecutiveTransportFailures with
  | none => s
  | some seconds =>
    if s.backoff = some seconds then s
    else { s with backoff := some seconds, chain := s.chain.setNextPollDelay seconds }

/-- `_on_transport_failure`. -/
def onTransportFailure : Poller :=
  { s with
    consecutiveTransportFailures := s.consecutiveTransportFailures + 1 }.applyTransportBackoff

/-- What the end of a job does to the failure tracking. -/
def judgeJob (now : Seconds) (optionalDue : List Seconds) : Poller :=
  if s.lastJobLinkFailure then s.onTransportFailure
  else if s.lastJobAttempted then s.onTransportSuccess now optionalDue
  else s

/-! ### Choosing a job -/

/-- `_read_spacing_remaining`: how long the request-rate cap still blocks the next read. -/
def readSpacingRemaining (now : Seconds) : Seconds :=
  match s.lastReadStarted with
  | none => 0
  | some started => started + s.tickSeconds - now

/-- `_room_silent`: whether a unit has not answered any read for a long time. -/
def roomSilent (now : Seconds) (secondsSinceSuccessfulRead : Option Seconds) : Bool :=
  roomSilentAfterSeconds < secondsSinceSuccessfulRead.getD (now - s.startedAt)

/-- The jobs whose first turn is still to come; all of them before the first tick. -/
def waiting : List JobId := s.startupJobs.getD (s.jobs.map PollJob.id)

/-- The first lines of `_select_poll_job`: the first pass begins with the first tick. -/
def beginPass : Poller :=
  if s.startupJobs = none ∧ s.nonempty s.data = false then
    { s with startupJobs := some (s.jobs.map PollJob.id) }
  else s

/-- **`_select_poll_job`**: warm up all groups while allowing already-read groups to refresh.
The flag says that it is the job's first turn. -/
def selectPollJob (now : Seconds) : Poller × Option (PollJob × Bool) :=
  let s := s.beginPass
  if 0 < s.readSpacingRemaining now then (s, none)
  else
    match s.startupJobs with
    | some (next :: rest) =>
      let due := selectDueJob (s.jobs.filter fun job => job.id ∉ next :: rest) now
      match due, s.startupTurn with
      | some job, false => ({ s with startupTurn := true }, some (job, false))
      | _, _ =>
        ({ s with startupTurn := false, startupJobs := some rest },
          (s.jobs.find? fun job => job.id = next).map fun job => (job, true))
    | _ => (s, (selectDueJob s.jobs now).map fun job => (job, false))

/-- Move one job. -/
def setNextDue (id : JobId) (nextDue : Seconds) : Poller :=
  { s with
    jobs := s.jobs.map fun job =>
      if job.id = id then { job with nextDue := nextDue } else job }

/-! ### One tick -/

/-- The start of `_async_update_data`, up to its first await. A job is moved forward before it
is run, so a failing read cannot get stuck at the front of the queue. -/
def beginTick (now later : Seconds) (silentFor : Option Seconds) : Poller :=
  let (s, selected) := s.selectPollJob now
  match selected with
  | none => { s with tick := .idle, clock := later }
  | some (job, startup) =>
    { s.setNextDue job.id
        (now + job.interval (later - s.startedAt) false (s.roomSilent later silentFor)) with
      lastReadStarted := some now
      lastJobError := none
      lastJobLinkFailure := false
      lastJobAttempted := false
      tick := .reading job startup
      clock := later }

/-- `record_read_failures` for the groups of a plan that the room has. -/
def recordFailures (wall : WallTime) (room : RoomConfig) (plan : RefreshPlan) (text : String)
    (state : UnitState) : UnitState :=
  { state with
    groupReadHealth := fun group =>
      if group ∈ plan.readGroups ∧ room.supportsGroup group = true then
        (state.groupReadHealth group).failed wall text false
      else state.groupReadHealth group }

/-- `_read_one_job` once `read_room` has replied, and the end of the wait for it. -/
def readOneJob (job : PollJob) (startup : Bool) (wall : WallTime)
    (reply : Except GatewayError RoomRead) : Poller :=
  let plan := job.group.refreshPlan
  let previousStates := if s.nonempty s.data then s.data else s.startupStates
  let previous := (previousStates job.room.key).getD {}
  let (s, refreshed) : Poller × UnitState :=
    match reply with
    | .error error =>
      ({ s with
          lastJobError := some error.message
          lastJobLinkFailure := true
          lastJobAttempted := true },
        recordFailures wall job.room plan error.message previous)
    | .ok read =>
      ({ s with
          lastJobError := jobReadFailure job.room read.outcome plan
          lastJobLinkFailure := jobReadUnanswered job.room read.outcome plan
          lastJobAttempted := jobReadAttempted job.room read.outcome plan },
        read.state)
  let updated :=
    if refreshed = previous then previousStates
    else Function.update previousStates job.room.key (some refreshed)
  { s with tick := .judging job startup updated }

/-- Whether any room of a state map has a value. -/
def anyData (states : States) : Bool :=
  s.rooms.any fun room => (states room.key).any UnitState.hasData

/-- After its first turn, and while a group of it was never read, a job is planned anew from
the end of its read. -/
def replanJob (job : PollJob) (startup : Bool) (updated : States) (now later : Seconds)
    (silentFor : Option Seconds) : Poller :=
  let neverRead := job.neverRead ((updated job.room.key).getD {})
  if startup || neverRead then
    s.setNextDue job.id
      (now + job.interval (later - s.startedAt) neverRead (s.roomSilent later silentFor))
  else s

/-- The rest of `_async_update_data` for a job. Before any value has arrived it raises
`UpdateFailed`, behind the count of failures and a first pause. -/
def concludeTick (updated : States) (now : Seconds) (optionalDue : List Seconds) : Poller :=
  if s.anyData updated then
    let s := { s with startupStates := fun _ => none }
    { (s.judgeJob now optionalDue).scheduleNextTick now optionalDue with data := updated }
  else
    let s := { s with startupStates := updated }.judgeJob now optionalDue
    if s.backoff = none then
      { s with chain := s.chain.setNextPollDelay transportBackoffStartSeconds }
    else s

/-- The end of `_async_update_data` for a job, behind its last await. -/
def finishTick (job : PollJob) (startup : Bool) (updated : States) (now later : Seconds)
    (silentFor : Option Seconds) (optionalDue : List Seconds) : Poller :=
  ({ s with tick := .none, clock := later }.replanJob job startup updated now later
    silentFor).concludeTick updated later optionalDue

/-- `update_request_rate`. -/
def updateRequestRate (rate now : Seconds) (optionalDue : List Seconds) : Poller :=
  let s := { s with tickSeconds := 1 / max (1 / 10) rate }
  if s.backoff = none then s.scheduleNextTick now optionalDue else s

/-! ### Steps -/

end Poller

/-- What can happen next, with what the outside decides about it. -/
inductive PollerLabel where
  | beginTick (now later : Seconds) (silentFor : Option Seconds)
  /-- `read_room` replies to the job. -/
  | reply (wall : WallTime) (reply : Except GatewayError RoomRead)
  | finishTick (now later : Seconds) (silentFor : Option Seconds) (optionalDue : List Seconds)
  /-- A tick without a job ends. -/
  | finishIdle (now : Seconds) (optionalDue : List Seconds)
  /-- An error that is none of the client's, or a cancellation, leaves the tick. -/
  | abortTick
  | updateRequestRate (rate now : Seconds) (optionalDue : List Seconds)
  /-- An optional read is switched on or off. -/
  | optionalReads (now : Seconds) (optionalDue : List Seconds)
  /-- A read outside the jobs takes a read slot. -/
  | claimReadSlot (now : Seconds)
  /-- The readback of a write publishes new data. -/
  | setData (data : States)
  | elapse (now : Seconds)
  | chain (event : PollChain.Event)

namespace Poller

/-- **The step function of the poll loop.** -/
def step (s : Poller) : PollerLabel → Option Poller
  | .beginTick now later silentFor =>
    match s.tick with
    | .none => if s.clock ≤ now ∧ now ≤ later then some (s.beginTick now later silentFor) else none
    | _ => none
  | .reply wall reply =>
    match s.tick with
    | .reading job startup => some (s.readOneJob job startup wall reply)
    | _ => none
  | .finishTick now later silentFor optionalDue =>
    match s.tick with
    | .judging job startup updated =>
      if s.clock ≤ now ∧ now ≤ later then
        some (s.finishTick job startup updated now later silentFor optionalDue)
      else none
    | _ => none
  | .finishIdle now optionalDue =>
    match s.tick with
    | .idle =>
      if s.clock ≤ now then
        some ({ s with tick := .none, clock := now }.scheduleNextTick now optionalDue)
      else none
    | _ => none
  | .abortTick =>
    match s.tick with
    | .none => none
    | _ => some { s with tick := .none }
  | .updateRequestRate rate now optionalDue =>
    if s.clock ≤ now then
      some ({ s with clock := now }.updateRequestRate rate now optionalDue)
    else none
  | .optionalReads now optionalDue =>
    if s.clock ≤ now then
      some ({ s with clock := now }.scheduleNextTick now optionalDue)
    else none
  | .claimReadSlot now =>
    if s.clock ≤ now then some { s with lastReadStarted := some now, clock := now } else none
  | .setData data =>
    -- Writes come from entities, which are set up after the first tick.
    if s.startupJobs.isSome then some { s with data } else none
  | .elapse now => if s.clock ≤ now then some { s with clock := now } else none
  | .chain event => (s.chain.handle event).map fun chain => { s with chain }

/-- A new coordinator, with polling enabled and Home Assistant running. -/
def Started (s : Poller) : Prop :=
  (s.jobs.map PollJob.id).Nodup ∧ ∃ rooms jobs started tickSeconds,
    s = { rooms, jobs, startedAt := started, clock := started, tickSeconds,
          chain := { nextPollDelay := tickSeconds } }

/-- Every run is considered. -/
def always : Poller → PollerLabel → Prop := fun _ _ => True

/-- The states of the poll loop that are reached. -/
abbrev Reached : Poller → Prop := Transition.Reach step always Started

/-! ### What the functions touch -/

section Frames

variable (s : Poller) (now later : Seconds) (optionalDue : List Seconds)

/-- Planning the next tick touches the chain only. -/
theorem scheduleNextTick_eq : ∃ delays : List Seconds, s.scheduleNextTick now optionalDue =
    { s with chain := delays.foldl PollChain.setNextPollDelay s.chain } := by
  unfold scheduleNextTick
  split
  · exact ⟨[], rfl⟩
  · exact ⟨[_], rfl⟩

/-- Judging a job touches the failure tracking and the chain. -/
theorem judgeJob_eq : ∃ (delays : List Seconds) (failures : ℕ) (backoff : Option Seconds),
    s.judgeJob now optionalDue =
      { s with
        consecutiveTransportFailures := failures
        backoff := backoff
        chain := delays.foldl PollChain.setNextPollDelay s.chain } := by
  unfold judgeJob
  split
  · unfold onTransportFailure applyTransportBackoff
    split
    · exact ⟨[], _, _, rfl⟩
    · split
      · exact ⟨[], _, _, rfl⟩
      · exact ⟨[_], _, _, rfl⟩
  · split
    · unfold onTransportSuccess
      dsimp only
      split
      · exact ⟨[], _, _, rfl⟩
      · obtain ⟨delays, hschedule⟩ := scheduleNextTick_eq
          { s with consecutiveTransportFailures := 0, backoff := none } now optionalDue
        exact ⟨delays, _, _, hschedule⟩
    · exact ⟨[], _, _, rfl⟩

/-- The choice of a job touches the first pass and the turn. -/
theorem selectPollJob_eq : ∃ startupJobs turn, (s.selectPollJob now).1 =
    { s with startupJobs := startupJobs, startupTurn := turn } := by
  have hpass : ∃ startupJobs, s.beginPass = { s with startupJobs := startupJobs } := by
    unfold beginPass
    split
    · exact ⟨_, rfl⟩
    · exact ⟨_, rfl⟩
  obtain ⟨startupJobs, hpass⟩ := hpass
  unfold selectPollJob
  rw [hpass]
  dsimp only
  split
  · exact ⟨_, _, rfl⟩
  · split
    · split <;> exact ⟨_, _, rfl⟩
    · exact ⟨_, _, rfl⟩

/-- Planning a job anew moves at most this job. -/
theorem replanJob_eq (job : PollJob) (startup : Bool) (updated : States)
    (silentFor : Option Seconds) :
    s.replanJob job startup updated now later silentFor = s ∨ ∃ neverRead silent,
      s.replanJob job startup updated now later silentFor =
        s.setNextDue job.id (now + job.interval (later - s.startedAt) neverRead silent) := by
  unfold replanJob
  dsimp only
  split
  · exact .inr ⟨_, _, rfl⟩
  · exact .inl rfl

/-- The rest of a tick touches the data, the failure tracking and the chain. -/
theorem concludeTick_eq (updated : States) : ∃ (delays : List Seconds) (failures : ℕ)
      (backoff : Option Seconds) (startupStates data : States),
    s.concludeTick updated now optionalDue =
      { s with
        consecutiveTransportFailures := failures
        backoff := backoff
        startupStates := startupStates
        data := data
        chain := delays.foldl PollChain.setNextPollDelay s.chain } := by
  -- Judging may set a delay and planning another; both go down the chain in that order.
  unfold concludeTick
  split
  · obtain ⟨judged, failures, backoff, hjudge⟩ := judgeJob_eq
      { s with startupStates := fun _ => none } now optionalDue
    obtain ⟨planned, hplan⟩ := scheduleNextTick_eq
      { s with
        startupStates := fun _ => none
        consecutiveTransportFailures := failures
        backoff := backoff
        chain := judged.foldl PollChain.setNextPollDelay s.chain } now optionalDue
    refine ⟨judged ++ planned, failures, backoff, fun _ => none, updated, ?_⟩
    dsimp only
    rw [hjudge, hplan, List.foldl_append]
  · obtain ⟨judged, failures, backoff, hjudge⟩ := judgeJob_eq
      { s with startupStates := updated } now optionalDue
    dsimp only
    rw [hjudge]
    split
    · refine ⟨judged ++ [(transportBackoffStartSeconds : Seconds)], failures, backoff, updated,
        s.data, ?_⟩
      rw [List.foldl_append]
      rfl
    · exact ⟨judged, failures, backoff, updated, s.data, rfl⟩

end Frames

/-! ### The chain of the loop -/

theorem run_setNextPollDelay (delays : List Seconds) (chain : PollChain) :
    Transition.run PollChain.step (delays.map .setNextPollDelay) chain =
      some (delays.foldl PollChain.setNextPollDelay chain) := by
  induction delays generalizing chain with
  | nil => rfl
  | cons delay delays ih => exact ih _

section Chain

variable {s t : Poller} {label : PollerLabel} {now later : Seconds}

/-- **A step of the loop is a few steps of its chain**: an event, or new delays. -/
theorem chain_step (h : s.step label = some t) :
    ∃ labels, Transition.run PollChain.step labels s.chain = some t.chain := by
  have hkeep : t.chain = s.chain →
      ∃ labels, Transition.run PollChain.step labels s.chain = some t.chain := fun heq =>
    ⟨[], by rw [heq]; rfl⟩
  have hdelays : ∀ delays : List Seconds,
      t.chain = delays.foldl PollChain.setNextPollDelay s.chain →
      ∃ labels, Transition.run PollChain.step labels s.chain = some t.chain := fun delays heq =>
    ⟨_, by rw [heq]; exact run_setNextPollDelay delays s.chain⟩
  -- Each label is an event of the chain or sets a list of delays on it, mostly an empty one.
  cases label with
  | beginTick now later silentFor =>
    simp only [step] at h
    split at h
    · obtain ⟨-, heq⟩ := Option.ite_none_right_eq_some.mp h
      cases heq
      refine hkeep ?_
      obtain ⟨startupJobs, turn, hpass⟩ := selectPollJob_eq s now
      unfold beginTick
      rcases hselect : s.selectPollJob now with ⟨s', - | ⟨job, startup⟩⟩
      · rw [hselect] at hpass
        rw [show s' = _ from hpass]
      · rw [hselect] at hpass
        rw [show s' = _ from hpass]
        rfl
    · cases h
  | reply wall reply =>
    simp only [step] at h
    split at h
    · cases h
      cases reply <;> exact hkeep rfl
    · cases h
  | finishTick now later silentFor optionalDue =>
    simp only [step] at h
    split at h
    · rename_i job startup updated htick
      obtain ⟨-, heq⟩ := Option.ite_none_right_eq_some.mp h
      cases heq
      obtain ⟨delays, failures, backoff, startupStates, data, hconclude⟩ := concludeTick_eq
        ({ s with tick := .none, clock := later }.replanJob job startup updated now later
          silentFor) later optionalDue updated
      refine hdelays delays ?_
      rw [finishTick, hconclude]
      unfold replanJob
      dsimp only
      split <;> rfl
    · cases h
  | finishIdle now optionalDue =>
    simp only [step] at h
    split at h
    · obtain ⟨-, heq⟩ := Option.ite_none_right_eq_some.mp h
      cases heq
      obtain ⟨delays, hplan⟩ := scheduleNextTick_eq
        { s with tick := .none, clock := now } now optionalDue
      exact hdelays delays (by rw [hplan])
    · cases h
  | abortTick =>
    simp only [step] at h
    split at h
    · cases h
    · cases h
      exact hkeep rfl
  | updateRequestRate rate now optionalDue =>
    obtain ⟨-, heq⟩ := Option.ite_none_right_eq_some.mp h
    cases heq
    unfold updateRequestRate at hkeep hdelays ⊢
    dsimp only at hkeep hdelays ⊢
    split
    · rename_i hidle
      obtain ⟨delays, hplan⟩ := scheduleNextTick_eq
        { s with clock := now, tickSeconds := 1 / max (1 / 10) rate } now optionalDue
      rw [if_pos hidle] at hdelays
      exact hdelays delays (by rw [hplan])
    · rename_i hpaused
      rw [if_neg hpaused] at hkeep
      exact hkeep rfl
  | optionalReads now optionalDue =>
    obtain ⟨-, heq⟩ := Option.ite_none_right_eq_some.mp h
    cases heq
    obtain ⟨delays, hplan⟩ := scheduleNextTick_eq { s with clock := now } now optionalDue
    exact hdelays delays (by rw [hplan])
  | claimReadSlot now =>
    obtain ⟨-, heq⟩ := Option.ite_none_right_eq_some.mp h
    cases heq
    exact hkeep rfl
  | setData data =>
    obtain ⟨-, heq⟩ := Option.ite_none_right_eq_some.mp h
    cases heq
    exact hkeep rfl
  | elapse now =>
    obtain ⟨-, heq⟩ := Option.ite_none_right_eq_some.mp h
    cases heq
    exact hkeep rfl
  | chain event =>
    obtain ⟨chain, hchain, rfl⟩ := Option.map_eq_some_iff.mp h
    refine ⟨[.event event], ?_⟩
    rw [Transition.run, PollChain.step, hchain]
    rfl

/-- **The chain of every poll loop that is reached is a chain that is reached**, so it neither
dies nor forks. -/
theorem reached_chain (h : Reached s) : PollChain.Reached s.chain := by
  refine h.invariant (P := fun s => PollChain.Reached s.chain) ?_ ?_
  · rintro s ⟨-, rooms, jobs, started, tickSeconds, rfl⟩
    exact .start ⟨tickSeconds, rfl⟩
  · rintro s label t hs - hstep
    obtain ⟨labels, hrun⟩ := chain_step hstep
    exact hs.of_run (Transition.along_true _ (fun _ _ => trivial) _ _) hrun

end Chain

/-! ### Two units at the lowest request rate -/

/-- Two units with all sensors, polled every 2 s. -/
def twoUnits : Poller where
  rooms := [⟨"slave_2", "Living room", .sFc, 2⟩, ⟨"slave_3", "Bedroom", .sFc, 3⟩]
  jobs := buildJobs [⟨"slave_2", "Living room", .sFc, 2⟩, ⟨"slave_3", "Bedroom", .sFc, 3⟩] 0
  startedAt := 0
  clock := 0
  tickSeconds := 2
  chain := { nextPollDelay := 2 }

theorem started_twoUnits : Started twoUnits :=
  ⟨buildJobs_nodup (by decide) 0, _, _, _, _, rfl⟩

end Poller

end MeltemVentilation
