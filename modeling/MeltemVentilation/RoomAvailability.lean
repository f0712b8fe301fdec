import Mathlib.Data.List.Destutter
import Mathlib.Data.List.ReduceOption
import MeltemVentilation.Lib.Transition
import MeltemVentilation.Poller

/-!
# When a unit is unavailable

A unit that cannot be reached must not look healthy with its frozen values, and one lost telegram
must not make it flap. `_room_unavailable_reason` therefore waits for three failed read jobs in a
row or for two minutes without an answer, and `_log_room_availability` says once in the log that a
unit is gone and once that it is back. The failed jobs are counted by `_read_one_job`, which starts
again at zero behind a job that brought something, and leaves out the jobs that the unit may refuse.

A run is told by a record of it: how its read jobs ended, when a read of the unit was answered, and
what there was to say about the unit when a job was over.

* **A unit is available** (`roomAvailable_iff`) while it has data, fewer than three jobs have failed
  since the last one that brought something, and an answer is not older than two minutes.
* **The log tells the changes** (`log_eq_changes`): what was the case behind the read jobs, without
  the repetitions. A unit that neither is unavailable nor has data yet is not spoken of.
-/

namespace MeltemVentilation

open Transition

/-! ### What a job brought -/

/-- `ROOM_UNAVAILABLE_AFTER_FAILURES`. -/
def roomUnavailableAfterFailures : ℕ := 3

/-- `job_read_received_values`: an attempted primary group yielded a usable value. -/
def jobReadReceivedValues (room : RoomConfig) (outcome : ReadJobOutcome) (plan : RefreshPlan) :
    Bool :=
  (jobReadGroups room plan).any fun group => group ∈ outcome.valueGroups

/-- `job_read_succeeded`: a primary group had a successful read during the job. -/
def jobReadSucceeded (room : RoomConfig) (outcome : ReadJobOutcome) (plan : RefreshPlan) : Bool :=
  jobReadReceivedValues room outcome plan ||
    (jobReadGroups room plan).any fun group =>
      group ∈ outcome.unitSuccessGroups && group ∈ outcome.recordedGroups &&
        (outcome.errors group).isNone

/-- `optional_rejection`: a failure that is an answer, and only about groups that a unit need not
have. -/
def optionalRejection (room : RoomConfig) (outcome : ReadJobOutcome) (plan : RefreshPlan) : Bool :=
  outcome.answered &&
    (plan.readGroups.filter fun group => room.supportsGroup group).all (·.isOptionalDiagnostic)

/-! ### The bookkeeping of a unit -/

/-- A line of the log about a unit. -/
inductive RoomMessage where
  | unavailable (reason : String)
  | reachableAgain
deriving DecidableEq, Repr

namespace RoomMessage

/-- The text of the line. -/
def text (roomKey : String) : RoomMessage → String
  | .unavailable reason => s!"Meltem room {roomKey} unavailable: {reason}"
  | .reachableAgain => s!"Meltem room {roomKey} reachable again"

/-- Whether the line says that the unit is gone. -/
def isUnavailable : RoomMessage → Bool
  | .unavailable _ => true
  | .reachableAgain => false

end RoomMessage

/-- `RoomReadError`: the most recent failed read job of a unit, and its time `at`. -/
structure RoomReadError where
  message : String
  failedAt : WallTime
deriving DecidableEq, Repr

/-- A read job that `read_room` has replied to: the state that is published next, and the error.
The set register of the airflow may still be read. -/
structure RepliedJob where
  state : UnitState
  error : Option String
  readsTarget : Bool

/-- What `RoomRuntime` keeps about the availability of a unit, with what it is judged by. -/
structure RoomRuntime where
  room : RoomConfig
  readFailures : ℕ := 0
  lastReadError : Option RoomReadError := none
  unavailableLogged : Bool := false
  /-- `_last_read_answer` of the transport policy, for this unit. -/
  lastReadAnswer : Option Monotonic := none
  /-- The job under way, once it has been replied to. -/
  replied : Option RepliedJob := none
  log : List RoomMessage := []
  now : Monotonic

/-- What happens to a unit. -/
inductive RoomEvent where
  /-- A register read of the unit is answered with values, in a job or in any other read; those of
  the bridge's own registers do not count. -/
  | answered
  | wait (duration : Monotonic)
  /-- `read_room` replies to a job, or raises. -/
  | reply (plan : RefreshPlan) (wall : WallTime) (previous : UnitState)
    (reply : Except GatewayError RoomRead)
  /-- `_read_balanced_target_if_pending` replaces the value of the set register. -/
  | target (readback : Option ℤ)
  /-- The rest of `_read_one_job`. -/
  | conclude (wall : WallTime)
  /-- The job is cancelled while it waits for the set register. -/
  | abort

namespace RoomRuntime

variable (s : RoomRuntime)

/-- `seconds_since_read_answer`. -/
def secondsSinceReadAnswer : Option Monotonic :=
  s.lastReadAnswer.map fun answered => s.now - answered

/-- **`_room_unavailable_reason`**: why a unit is unavailable despite its cached data. -/
def unavailableReason : Option String :=
  if roomUnavailableAfterFailures ≤ s.readFailures then
    some s!"after {s.readFailures} consecutive read failures"
  else if s.secondsSinceReadAnswer.any (fun silent => seconds roomSilentAfterSeconds < silent) then
    some s!"no successful read for more than {roomSilentAfterSeconds} seconds"
  else none

/-- **`room_available`**, for the state of the unit in `safe_data`. -/
def roomAvailable (state : Option UnitState) : Bool :=
  s.unavailableReason.isNone && state.any UnitState.hasData

/-- **`_log_room_availability`.** -/
def logRoomAvailability (state : UnitState) (error : Option String) : RoomRuntime :=
  match s.unavailableReason with
  | some reason =>
    if s.unavailableLogged then s
    else
      let reason := match error with
        | some error => s!"{reason}: {error}"
        | none => reason
      { s with unavailableLogged := true, log := s.log ++ [.unavailable reason] }
  | none =>
    if state.hasData && s.unavailableLogged then
      { s with unavailableLogged := false, log := s.log ++ [.reachableAgain] }
    else s

/-- The failures that `_read_one_job` has counted behind a reply. -/
def countFailures (plan : RefreshPlan) (reply : Except GatewayError RoomRead) : ℕ :=
  match reply with
  | .error _ => s.readFailures + 1
  | .ok read =>
    match jobReadFailure s.room read.outcome plan with
    | some _ =>
      if jobReadReceivedValues s.room read.outcome plan then 0
      else if optionalRejection s.room read.outcome plan then s.readFailures
      else s.readFailures + 1
    | none => if jobReadSucceeded s.room read.outcome plan then 0 else s.readFailures

/-- What the rest of `_read_one_job` works on. -/
def repliedJob (plan : RefreshPlan) (wall : WallTime) (previous : UnitState)
    (reply : Except GatewayError RoomRead) : RepliedJob :=
  match reply with
  | .error error =>
    ⟨Poller.recordFailures wall s.room plan error.message previous, some error.message, false⟩
  | .ok read =>
    let error := jobReadFailure s.room read.outcome plan
    ⟨read.state, error, error.isNone && jobReadSucceeded s.room read.outcome plan &&
      plan.refreshAirflow⟩

/-- The rest of `_read_one_job`. -/
def conclude (job : RepliedJob) (wall : WallTime) : RoomRuntime :=
  let s := { s with replied := none }.logRoomAvailability job.state job.error
  match job.error with
  | some error => { s with lastReadError := some ⟨error, wall⟩ }
  | none => s

/-- One event. The gateway lock admits one job at a time. -/
def step (s : RoomRuntime) (event : RoomEvent) : Option RoomRuntime :=
  match event with
  | .answered => some { s with lastReadAnswer := some s.now }
  | .wait duration => some { s with now := s.now + duration }
  | .reply plan wall previous reply =>
    if s.replied.isSome then none
    else
      some { s with
        readFailures := s.countFailures plan reply
        replied := some (s.repliedJob plan wall previous reply) }
  | .target readback =>
    s.replied.bind fun job =>
      if job.readsTarget then
        some { s with
          replied := some { job with
            state := { job.state with balancedTargetReadback := readback }
            readsTarget := false } }
      else none
  | .conclude wall => s.replied.map fun job => s.conclude job wall
  | .abort => if s.replied.any (·.readsTarget) then some { s with replied := none } else none

end RoomRuntime

/-! ### The record of a run -/

/-- How a read job ends, as far as the availability of its unit is concerned. -/
inductive ReadEnd where
  | succeeded
  /-- With an error, and without any value. -/
  | failed
  /-- Nothing was read, or the unit refused what it need not have. -/
  | notCounted
deriving DecidableEq, Repr

/-- How a job ends with a reply. -/
def ReadEnd.ofReply (room : RoomConfig) (plan : RefreshPlan) :
    Except GatewayError RoomRead → ReadEnd
  | .error _ => .failed
  | .ok read =>
    if jobReadSucceeded room read.outcome plan then .succeeded
    else if (jobReadFailure room read.outcome plan).isSome &&
        !optionalRejection room read.outcome plan then .failed
    else .notCounted

/-- What is recorded of a run. -/
structure AvailabilityRecord where
  /-- How the read jobs ended, the last one first. -/
  ends : List ReadEnd := []
  /-- When a read of the unit was answered, the last time first. -/
  answers : List Monotonic := []
  /-- What was the case when a job was over, in the order of the jobs: that the unit was
  unavailable, that it was not and had data, or neither. -/
  verdicts : List (Option Bool) := []

/-- What is the case when a job is over. -/
def RoomRuntime.verdict (s : RoomRuntime) (state : UnitState) : Option Bool :=
  if s.unavailableReason.isSome then some true else if state.hasData then some false else none

/-- The record behind an event. -/
def recordAvailability (s : RoomRuntime) (event : RoomEvent) (record : AvailabilityRecord) :
    AvailabilityRecord :=
  match event with
  | .answered => { record with answers := s.now :: record.answers }
  | .reply plan _ _ reply =>
    { record with ends := .ofReply s.room plan reply :: record.ends }
  | .conclude _ =>
    { record with
      verdicts := record.verdicts ++ (s.replied.map fun job => s.verdict job.state).toList }
  | _ => record

/-- A unit with its record. -/
abbrev AvailabilityStep := recorded RoomRuntime.step recordAvailability

/-- A run starts with the runtime of a new coordinator. The policy may have answers of the unit from
before, as from the setup of the entry. -/
def AvailabilityStart (s : RoomRuntime × AvailabilityRecord) : Prop :=
  ∃ room answered now, s = ({ room, lastReadAnswer := answered, now },
    { answers := answered.toList }) ∧ ∀ time ∈ answered, time ≤ now

/-! ### The failures in a row -/

/-- The failed jobs since the last one that brought something. -/
def failuresInARow : List ReadEnd → ℕ
  | [] | .succeeded :: _ => 0
  | .failed :: ends => failuresInARow ends + 1
  | .notCounted :: ends => failuresInARow ends

section Ends

variable {recent ends : List ReadEnd}

/-- No stretch of the last jobs without a success has more failures. -/
theorem count_le_failuresInARow (h : recent <+: ends) (hnone : .succeeded ∉ recent) :
    recent.count .failed ≤ failuresInARow ends := by
  induction ends generalizing recent with
  | nil =>
    rw [List.prefix_nil.mp h]
    rfl
  | cons readEnd ends ih =>
    cases recent with
    | nil => exact Nat.zero_le _
    | cons latest recent =>
      obtain ⟨rfl, hprefix⟩ := List.cons_prefix_cons.mp h
      have hrest := ih hprefix fun hmem => hnone (List.mem_cons_of_mem _ hmem)
      cases latest with
      | succeeded => exact absurd List.mem_cons_self hnone
      | failed =>
        rw [List.count_cons_self]
        exact Nat.succ_le_succ hrest
      | notCounted =>
        rw [List.count_cons_of_ne (by decide)]
        exact hrest

/-- There is a stretch of the last jobs that has the failures in a row. -/
theorem exists_count_eq_failuresInARow (ends : List ReadEnd) :
    ∃ recent, recent <+: ends ∧ .succeeded ∉ recent ∧
      recent.count .failed = failuresInARow ends := by
  induction ends with
  | nil => exact ⟨[], List.prefix_rfl, List.not_mem_nil, rfl⟩
  | cons readEnd ends ih =>
    obtain ⟨recent, hprefix, hnone, hcount⟩ := ih
    cases readEnd with
    | succeeded => exact ⟨[], List.nil_prefix, List.not_mem_nil, rfl⟩
    | failed =>
      refine ⟨.failed :: recent, List.cons_prefix_cons.mpr ⟨rfl, hprefix⟩, by simpa, ?_⟩
      rw [List.count_cons_self, hcount, failuresInARow]
    | notCounted =>
      refine ⟨.notCounted :: recent, List.cons_prefix_cons.mpr ⟨rfl, hprefix⟩, by simpa, ?_⟩
      rw [List.count_cons_of_ne (by decide), hcount, failuresInARow]

theorem failuresInARow_lt_iff {n : ℕ} : failuresInARow ends < n ↔
    ∀ recent, recent <+: ends → .succeeded ∉ recent → recent.count .failed < n := by
  constructor
  · exact fun h recent hprefix hnone => (count_le_failuresInARow hprefix hnone).trans_lt h
  · intro h
    obtain ⟨recent, hprefix, hnone, hcount⟩ := exists_count_eq_failuresInARow ends
    exact hcount ▸ h recent hprefix hnone

end Ends

section Availability

variable {room : RoomConfig} {outcome : ReadJobOutcome} {plan : RefreshPlan}
  {s t : RoomRuntime} {record : AvailabilityRecord} {state : UnitState}

/-- **A job with an error has succeeded only if it brought a value**: the groups that it recorded
have all failed. -/
theorem jobReadSucceeded_of_failure {error : String}
    (h : jobReadFailure room outcome plan = some error) :
    jobReadSucceeded room outcome plan = jobReadReceivedValues room outcome plan := by
  have hfailed : ∀ group ∈ jobReadGroups room plan, group ∈ outcome.recordedGroups →
      (outcome.errors group).isSome = true := by
    intro group hgroup hrecorded
    rw [jobReadFailure] at h
    split at h
    · rename_i hall
      exact List.all_eq_true.mp hall group (List.mem_filter.mpr ⟨hgroup, decide_eq_true hrecorded⟩)
    · cases h
  have hnone : ((jobReadGroups room plan).any fun group =>
      group ∈ outcome.unitSuccessGroups && group ∈ outcome.recordedGroups &&
        (outcome.errors group).isNone) = false := by
    refine List.any_eq_false.mpr fun group hgroup hread => ?_
    simp only [Bool.and_eq_true, decide_eq_true_eq] at hread
    have := hfailed group hgroup hread.1.2
    rw [Option.isNone_iff_eq_none.mp hread.2] at this
    cases this
  rw [jobReadSucceeded, hnone, Bool.or_false]

/-- A reply is counted as the record counts it. -/
theorem countFailures_eq {reply : Except GatewayError RoomRead} {ends : List ReadEnd}
    (h : s.readFailures = failuresInARow ends) :
    s.countFailures plan reply = failuresInARow (.ofReply s.room plan reply :: ends) := by
  cases reply with
  | error error => exact congrArg (· + 1) h
  | ok read =>
    rw [RoomRuntime.countFailures, ReadEnd.ofReply]
    cases hfailure : jobReadFailure s.room read.outcome plan with
    | none =>
      dsimp only
      rw [Option.isSome_none, Bool.false_and, if_neg Bool.false_ne_true]
      split
      · rfl
      · exact h
    | some error =>
      dsimp only
      rw [jobReadSucceeded_of_failure hfailure, Option.isSome_some, Bool.true_and]
      split
      · rfl
      · cases optionalRejection s.room read.outcome plan with
        | true => exact h
        | false => exact congrArg (· + 1) h

/-! ### What is said of a unit -/

theorem unavailableReason_eq_none : s.unavailableReason = none ↔
    s.readFailures < roomUnavailableAfterFailures ∧
      ∀ answered ∈ s.lastReadAnswer, s.now - answered ≤ seconds roomSilentAfterSeconds := by
  rw [RoomRuntime.unavailableReason, RoomRuntime.secondsSinceReadAnswer]
  split
  · rename_i hmany
    simp [hmany]
  · rename_i hfew
    cases s.lastReadAnswer <;> simp [lt_of_not_ge hfew]

/-- **What `_log_room_availability` writes**: what is the case, if that is news. -/
theorem logRoomAvailability_eq (s : RoomRuntime) (state : UnitState) (error : Option String) :
    ∃ log, s.logRoomAvailability state error =
        { s with unavailableLogged := (s.verdict state).getD s.unavailableLogged, log := log } ∧
      log.map RoomMessage.isUnavailable = s.log.map RoomMessage.isUnavailable ++
        ((s.verdict state).filter (· ≠ s.unavailableLogged)).toList := by
  rw [RoomRuntime.logRoomAvailability, RoomRuntime.verdict]
  obtain ⟨room, failures, lastReadError, logged, answer, replied, log, now⟩ := s
  cases RoomRuntime.unavailableReason _ with
  | some reason =>
    cases logged with
    | true => exact ⟨log, rfl, by simp⟩
    | false => exact ⟨_, rfl, by simp [RoomMessage.isUnavailable, Option.filter]⟩
  | none =>
    cases state.hasData with
    | false => exact ⟨log, by simp⟩
    | true =>
      cases logged with
      | true => exact ⟨_, rfl, by simp [RoomMessage.isUnavailable, Option.filter]⟩
      | false => exact ⟨log, rfl, by simp⟩

/-- The poll loop has the same error of a job. -/
theorem lastJobError_readOneJob (poller : Poller) {job : PollJob} (hroom : s.room = job.room)
    (startup : Bool) (wall : WallTime) (previous : UnitState)
    (reply : Except GatewayError RoomRead) :
    (poller.readOneJob job startup wall reply).lastJobError =
      (s.repliedJob job.group.refreshPlan wall previous reply).error := by
  cases reply with
  | error error => rfl
  | ok read =>
    rw [RoomRuntime.repliedJob, hroom]
    rfl

/-- What the rest of `_read_one_job` does. -/
theorem conclude_eq (s : RoomRuntime) (job : RepliedJob) (wall : WallTime) :
    ∃ log lastReadError, s.conclude job wall =
        { s with
          replied := none
          lastReadError := lastReadError
          unavailableLogged := (s.verdict job.state).getD s.unavailableLogged
          log := log } ∧
      log.map RoomMessage.isUnavailable = s.log.map RoomMessage.isUnavailable ++
        ((s.verdict job.state).filter (· ≠ s.unavailableLogged)).toList := by
  obtain ⟨log, hstate, hlog⟩ :=
    logRoomAvailability_eq { s with replied := none } job.state job.error
  refine ⟨log, job.error.elim s.lastReadError fun error => some ⟨error, wall⟩, ?_, hlog⟩
  rw [RoomRuntime.conclude, hstate]
  cases job.error <;> rfl

/-- **What a step does.** -/
inductive RoomStep (s : RoomRuntime) : RoomEvent → RoomRuntime → Prop where
  | answered : RoomStep s .answered { s with lastReadAnswer := some s.now }
  | waited (duration : Monotonic) : RoomStep s (.wait duration) { s with now := s.now + duration }
  | replied {plan : RefreshPlan} {wall : WallTime} {previous : UnitState}
    {reply : Except GatewayError RoomRead} {job : RepliedJob} :
    RoomStep s (.reply plan wall previous reply)
      { s with readFailures := s.countFailures plan reply, replied := some job }
  | targetRead {readback : Option ℤ} {job : RepliedJob} :
    RoomStep s (.target readback) { s with replied := some job }
  | concluded {wall : WallTime} {job : RepliedJob} {log : List RoomMessage}
    {lastReadError : Option RoomReadError} (hjob : s.replied = some job)
    (hlog : log.map RoomMessage.isUnavailable = s.log.map RoomMessage.isUnavailable ++
      ((s.verdict job.state).filter (· ≠ s.unavailableLogged)).toList) :
    RoomStep s (.conclude wall)
      { s with
        replied := none
        lastReadError := lastReadError
        unavailableLogged := (s.verdict job.state).getD s.unavailableLogged
        log := log }
  | aborted : RoomStep s .abort { s with replied := none }

theorem roomStep_of_step {event : RoomEvent} (h : s.step event = some t) : RoomStep s event t := by
  cases event with
  | answered =>
    obtain rfl : _ = t := Option.some.inj h
    exact .answered
  | wait duration =>
    obtain rfl : _ = t := Option.some.inj h
    exact .waited duration
  | reply plan wall previous reply =>
    rw [RoomRuntime.step] at h
    split at h
    · cases h
    · obtain rfl : _ = t := Option.some.inj h
      exact .replied
  | target readback =>
    obtain ⟨job, -, hnext⟩ := Option.bind_eq_some_iff.mp h
    split at hnext
    · obtain rfl : _ = t := Option.some.inj hnext
      exact .targetRead
    · cases hnext
  | conclude wall =>
    obtain ⟨job, hjob, rfl⟩ := Option.map_eq_some_iff.mp h
    obtain ⟨log, lastReadError, hconclude, hlog⟩ := conclude_eq s job wall
    rw [hconclude]
    exact .concluded hjob hlog
  | abort =>
    rw [RoomRuntime.step] at h
    split at h
    · obtain rfl : _ = t := Option.some.inj h
      exact .aborted
    · cases h

/-! ### What holds along a run -/

/-- The failures are those of the record, and the last answer is the latest one. -/
structure FailuresCounted (s : RoomRuntime × AvailabilityRecord) : Prop where
  failures : s.1.readFailures = failuresInARow s.2.ends
  answer : s.1.lastReadAnswer = s.2.answers.head?
  past : (s.1.now :: s.2.answers).Pairwise (· ≥ ·)

/-- The log has what was the case, without the repetitions, and the flag is what it said last. A
unit is taken to be reachable at the start. -/
structure ChangesLogged (s : RoomRuntime × AvailabilityRecord) : Prop where
  changes : (s.2.verdicts.reduceOption).destutter' (· ≠ ·) false =
    false :: s.1.log.map RoomMessage.isUnavailable
  flag : ((s.2.verdicts.reduceOption).destutter' (· ≠ ·) false).getLast? =
    some s.1.unavailableLogged

/-- What is the case after a list of verdicts is told if it is not what was told last. -/
theorem destutter'_concat {α : Type*} {R : α → α → Prop} [DecidableRel R] {first last : α}
    {entries : List α} (h : (entries.destutter' R first).getLast? = some last) (next : α) :
    (entries ++ [next]).destutter' R first =
      entries.destutter' R first ++ if R last next then [next] else [] := by
  induction entries generalizing first with
  | nil =>
    obtain rfl : first = last := by simpa using h
    by_cases hnext : R first next <;> simp [hnext]
  | cons entry entries ih =>
    rw [List.cons_append]
    by_cases hentry : R first entry
    · rw [List.destutter'_cons_pos _ hentry] at h ⊢
      rw [List.destutter'_cons_pos _ hentry]
      have hne : entries.destutter' R entry ≠ [] := List.destutter'_ne_nil _ _
      obtain ⟨head, rest, hrest⟩ := List.exists_cons_of_ne_nil hne
      rw [hrest, List.getLast?_cons_cons] at h
      rw [ih (hrest ▸ h), List.cons_append]
    · rw [List.destutter'_cons_neg _ hentry] at h ⊢
      rw [List.destutter'_cons_neg _ hentry]
      exact ih h

theorem FailuresCounted.step {event : RoomEvent} (h : FailuresCounted (s, record))
    (hstep : s.step event = some t) : FailuresCounted (t, recordAvailability s event record) := by
  obtain ⟨hpast, hanswers⟩ := List.pairwise_cons.mp h.past
  cases roomStep_of_step hstep with
  | answered =>
    refine ⟨h.failures, rfl, List.pairwise_cons.mpr ⟨fun time htime => ?_, h.past⟩⟩
    rcases List.mem_cons.mp htime with rfl | htime
    · exact le_rfl
    · exact hpast time htime
  | waited duration =>
    exact ⟨h.failures, h.answer, List.pairwise_cons.mpr
      ⟨fun time htime => (hpast time htime).trans (Nat.le_add_right _ _), hanswers⟩⟩
  | replied => exact ⟨countFailures_eq h.failures, h.answer, h.past⟩
  | targetRead => exact ⟨h.failures, h.answer, h.past⟩
  | concluded hjob hlog => exact ⟨h.failures, h.answer, h.past⟩
  | aborted => exact ⟨h.failures, h.answer, h.past⟩

theorem ChangesLogged.step {event : RoomEvent} (h : ChangesLogged (s, record))
    (hstep : s.step event = some t) :
    ChangesLogged (t, recordAvailability s event record) := by
  cases roomStep_of_step hstep with
  | answered => exact ⟨h.changes, h.flag⟩
  | waited duration => exact ⟨h.changes, h.flag⟩
  | replied => exact ⟨h.changes, h.flag⟩
  | targetRead => exact ⟨h.changes, h.flag⟩
  | aborted => exact ⟨h.changes, h.flag⟩
  | @concluded wall job log lastReadError hjob hlog =>
    have hrecord : recordAvailability s (.conclude wall) record =
        { record with verdicts := record.verdicts ++ [s.verdict job.state] } := by
      rw [recordAvailability, hjob]
      rfl
    have hreduce : (record.verdicts ++ [s.verdict job.state]).reduceOption =
        record.verdicts.reduceOption ++ (s.verdict job.state).toList := by
      rw [List.reduceOption_append, List.reduceOption_singleton]
    rw [hrecord]
    cases hverdict : s.verdict job.state with
    | none =>
      rw [hverdict, Option.toList_none, List.append_nil] at hreduce
      rw [hverdict, Option.filter_none, Option.toList_none, List.append_nil] at hlog
      refine ⟨?_, ?_⟩
      · rw [hreduce, hlog]
        exact h.changes
      · rw [hreduce]
        exact h.flag
    | some told =>
      rw [hverdict, Option.toList_some] at hreduce
      have hchanges := destutter'_concat h.flag told
      by_cases hnews : s.unavailableLogged = told
      · rw [if_neg (not_not.mpr hnews), List.append_nil] at hchanges
        have hsame : (some told).filter (· ≠ s.unavailableLogged) = none := by simp [hnews]
        rw [hverdict, hsame, Option.toList_none, List.append_nil] at hlog
        refine ⟨?_, ?_⟩
        · rw [hreduce, hchanges, hlog]
          exact h.changes
        · rw [hreduce, hchanges]
          exact h.flag.trans (congrArg some hnews)
      · rw [if_pos hnews] at hchanges
        have hnew : (some told).filter (· ≠ s.unavailableLogged) = some told := by
          simp [Option.filter, Ne.symm hnews]
        rw [hverdict, hnew, Option.toList_some] at hlog
        refine ⟨?_, ?_⟩
        · rw [hreduce, hchanges, hlog, h.changes, List.cons_append]
        · rw [hreduce, hchanges, List.getLast?_concat]
          rfl

theorem counted_of_reach {s : RoomRuntime × AvailabilityRecord}
    (h : Reach AvailabilityStep (fun _ _ => True) AvailabilityStart s) : FailuresCounted s := by
  refine h.invariant ?_ ?_
  · rintro _ ⟨room, answered, now, rfl, hpast⟩
    refine ⟨rfl, by cases answered <;> rfl, ?_⟩
    cases answered with
    | none => exact List.pairwise_singleton _ _
    | some time => exact List.pairwise_pair.mpr (hpast time rfl)
  · rintro ⟨s, record⟩ event ⟨t, record'⟩ hcounted - hstep
    obtain ⟨hnext, hrecord⟩ := recorded_eq_some.mp hstep
    obtain rfl : record' = _ := hrecord
    exact hcounted.step hnext

theorem changesLogged_of_reach {s : RoomRuntime × AvailabilityRecord}
    (h : Reach AvailabilityStep (fun _ _ => True) AvailabilityStart s) : ChangesLogged s := by
  refine h.invariant ?_ ?_
  · rintro _ ⟨room, answered, now, rfl, -⟩
    exact ⟨rfl, rfl⟩
  · rintro ⟨s, record⟩ event ⟨t, record'⟩ hlogged - hstep
    obtain ⟨hnext, hrecord⟩ := recorded_eq_some.mp hstep
    obtain rfl : record' = _ := hrecord
    exact hlogged.step hnext

/-- The latest answer is recent if any is. -/
theorem FailuresCounted.heard_iff {s : RoomRuntime × AvailabilityRecord} (h : FailuresCounted s)
    {limit : Monotonic} :
    (∀ answered ∈ s.2.answers.head?, s.1.now - answered ≤ limit) ↔
      s.2.answers = [] ∨ ∃ answered ∈ s.2.answers, s.1.now - answered ≤ limit := by
  have hpast := (List.pairwise_cons.mp h.past).2
  cases hanswers : s.2.answers with
  | nil => simp
  | cons last earlier =>
    rw [hanswers] at hpast
    have hlast : ∀ answered ∈ last :: earlier, answered ≤ last := by
      intro answered hmem
      rcases List.mem_cons.mp hmem with rfl | hmem
      · exact le_rfl
      · exact (List.pairwise_cons.mp hpast).1 answered hmem
    constructor
    · exact fun hrecent => .inr ⟨last, List.mem_cons_self, hrecent last rfl⟩
    · rintro (hnone | ⟨answered, hmem, hrecent⟩) _ ⟨⟩
      · cases hnone
      · exact (Nat.sub_le_sub_left (hlast answered hmem) _).trans hrecent

/-- **When a unit is available**: it has data, fewer than three jobs have failed since the last one
that brought something, and a read of it was answered within the last two minutes, if ever. -/
theorem roomAvailable_iff {s : RoomRuntime × AvailabilityRecord}
    (h : Reach AvailabilityStep (fun _ _ => True) AvailabilityStart s) (state : Option UnitState) :
    s.1.roomAvailable state = true ↔
      (∃ polled, state = some polled ∧ polled.hasData = true) ∧
      (∀ recent, recent <+: s.2.ends → .succeeded ∉ recent →
        recent.count .failed < roomUnavailableAfterFailures) ∧
      (s.2.answers = [] ∨
        ∃ answered ∈ s.2.answers, s.1.now - answered ≤ seconds roomSilentAfterSeconds) := by
  have hcounted := counted_of_reach h
  have hdata : state.any UnitState.hasData = true ↔
      ∃ polled, state = some polled ∧ polled.hasData = true := Option.any_eq_true _ _
  rw [RoomRuntime.roomAvailable, Bool.and_eq_true, hdata, Option.isNone_iff_eq_none,
    unavailableReason_eq_none, hcounted.failures, hcounted.answer, failuresInARow_lt_iff,
    hcounted.heard_iff, and_comm]

/-- A unit with a value. -/
def seenState : UnitState := { targetLevel := some 30 }

/-- A unit of a new coordinator. -/
def newRuntime : RoomRuntime where
  room := ⟨"slave_2", "Living room", .sFc, 2⟩
  now := 0

/-- A job that the gateway does not answer, half a minute after the one before. -/
def lostJob (second : ℕ) : List RoomEvent :=
  [.wait (seconds 30),
    .reply airflowRefreshPlan (wallSeconds second) seenState (.error ⟨false, "timeout"⟩),
    .conclude (wallSeconds second)]

/-- A job that brings the airflow, half a minute after the one before. -/
def answeredJob (second : ℕ) : List RoomEvent :=
  [.wait (seconds 30), .answered,
    .reply airflowRefreshPlan (wallSeconds second) seenState (.ok ⟨seenState,
      { recordedGroups := {.flow}, answered := true, valueGroups := {.flow} }⟩),
    .conclude (wallSeconds second)]

/-- Three jobs without an answer. -/
def threeLost : List RoomEvent := lostJob 30 ++ lostJob 60 ++ lostJob 90

/-- Five jobs without an answer, and two with one. -/
def lostAndBack : List RoomEvent :=
  threeLost ++ lostJob 120 ++ lostJob 150 ++ answeredJob 180 ++ answeredJob 210

theorem newRuntime_reach :
    Reach AvailabilityStep (fun _ _ => True) AvailabilityStart (newRuntime, {}) :=
  .start ⟨_, none, 0, rfl, fun _ h => by cases h⟩

/-- Three jobs without an answer, and the unit is not available. -/
theorem roomAvailable_iff_lost :
    ∃ s, run AvailabilityStep threeLost (newRuntime, {}) = some s ∧
      ∃ recent, recent <+: s.2.ends ∧ .succeeded ∉ recent ∧ 3 ≤ recent.count .failed := by
  obtain ⟨s, hrun, hreach, htest⟩ := newRuntime_reach.exists_of_run threeLost
    (fun s : RoomRuntime × AvailabilityRecord =>
      !s.1.roomAvailable (some seenState) && s.2.answers.isEmpty)
    (along_true _ (fun _ _ => trivial) _ _) (by decide +kernel)
  rw [Bool.and_eq_true, Bool.not_eq_true', List.isEmpty_iff] at htest
  refine ⟨s, hrun, ?_⟩
  by_contra hfew
  push Not at hfew
  have havailable := (roomAvailable_iff hreach (some seenState)).mpr
    ⟨⟨seenState, rfl, by decide +kernel⟩, hfew, .inl htest.2⟩
  rw [htest.1] at havailable
  cases havailable

/-- **The log of a unit tells the changes**: what was the case behind its read jobs, without the
repetitions. -/
theorem log_eq_changes {s : RoomRuntime × AvailabilityRecord}
    (h : Reach AvailabilityStep (fun _ _ => True) AvailabilityStart s) :
    s.1.log.map RoomMessage.isUnavailable =
      ((s.2.verdicts.reduceOption).destutter' (· ≠ ·) false).tail := by
  rw [(changesLogged_of_reach h).changes, List.tail_cons]

/-- A unit that is gone for five jobs and then for the next two back: two lines. -/
theorem log_eq_changes_back :
    ∃ s, run AvailabilityStep lostAndBack (newRuntime, {}) = some s ∧
      s.1.log.map RoomMessage.isUnavailable = [true, false] := by
  obtain ⟨s, hrun, hreach, htest⟩ := newRuntime_reach.exists_of_run lostAndBack
    (fun s : RoomRuntime × AvailabilityRecord => decide (s.2.verdicts =
      [some false, some false, some true, some true, some true, some false, some false]))
    (along_true _ (fun _ _ => trivial) _ _) (by decide +kernel)
  refine ⟨s, hrun, ?_⟩
  rw [log_eq_changes hreach, of_decide_eq_true htest]
  decide

end Availability

end MeltemVentilation
