import Mathlib.Data.List.MinMax
import Mathlib.Data.Nat.Log
import Mathlib.Data.Rat.Floor
import MeltemVentilation.ModbusClient.RoomRead

/-!
# Poll jobs

The planning functions of `polling.py`: the jobs of a list of rooms, the choice of the job
that has been due the longest, the delay until the next tick, and the pause of a gateway
that does not answer. Times and delays are seconds here, as rational numbers; the source
computes them as floats.

The interval of a group is positive, which is part of `JobGroup`: everything that is proved
about the order of the jobs rests on a job that has just run not being due again.
-/

namespace MeltemVentilation

/-- A time of the monotonic clock, or a delay, in seconds. -/
abbrev Seconds := ℚ

/-! ### Constants -/

/-- `TRANSPORT_BACKOFF_AFTER_FAILURES`. -/
def transportBackoffAfterFailures : ℕ := 3

/-- `TRANSPORT_BACKOFF_START_SECONDS`. -/
def transportBackoffStartSeconds : ℕ := 5

/-- `TRANSPORT_BACKOFF_MAX_SECONDS`. -/
def transportBackoffMaxSeconds : ℕ := 60

/-- `SILENT_ROOM_POLL_SECONDS`: silent units are polled rarely. -/
def silentRoomPollSeconds : ℕ := 60

/-- `UNREAD_GROUP_RETRY_SECONDS`: the first retry of a group that never answered. -/
def unreadGroupRetrySeconds : ℕ := 60

/-- `IDLE_TICK_SECONDS`: the wake-up of a gateway without any poll job. -/
def idleTickSeconds : ℕ := 60

/-- `ROOM_SILENT_AFTER_SECONDS`. -/
def roomSilentAfterSeconds : ℕ := 120

/-- Membership in `OPTIONAL_DIAGNOSTIC_READ_GROUPS`. -/
def ReadGroup.isOptionalDiagnostic : ReadGroup → Bool
  | .rfLastSeen | .rfSignal | .deviceFault | .valueError | .fanHours => true
  | _ => false

/-! ### Jobs -/

/-- One refresh group: which registers it covers and how often it runs. -/
structure JobGroup where
  key : String
  intervalSeconds : ℕ
  refreshPlan : RefreshPlan
  interval_pos : 0 < intervalSeconds
deriving DecidableEq, Repr

/-- `JOB_GROUPS`. -/
def jobGroups : List JobGroup :=
  [⟨"flow", 10, airflowRefreshPlan, by decide⟩,
    ⟨"status", 60, { emptyRefreshPlan with refreshStatus := true }, by decide⟩,
    ⟨"rf", 60, { emptyRefreshPlan with refreshRfDiagnostics := true }, by decide⟩,
    ⟨"temperature", 60,
      { emptyRefreshPlan with refreshTemperatures := true, refreshEnvironment := true },
      by decide⟩,
    ⟨"filter", 3600,
      { emptyRefreshPlan with refreshFilterChangeDue := true, refreshFilterDays := true },
      by decide⟩,
    ⟨"hours", 3600, { emptyRefreshPlan with refreshOperatingHours := true }, by decide⟩,
    ⟨"control_settings", 3600, controlSettingsRefreshPlan, by decide⟩]

/-- What tells the jobs of a gateway apart: the group and the room. -/
structure JobId where
  key : String
  roomKey : String
deriving DecidableEq, Repr

/-- One scheduled read job for one room and one refresh group. It carries its room where the
source keeps the key of the room. -/
structure PollJob where
  group : JobGroup
  room : RoomConfig
  nextDue : Seconds
deriving DecidableEq, Repr

namespace PollJob

/-- The group and the room of a job. -/
def id (job : PollJob) : JobId := ⟨job.group.key, job.room.key⟩

/-- The supported groups of the job's plan. -/
def groups (job : PollJob) : List ReadGroup :=
  job.group.refreshPlan.readGroups.filter fun group => job.room.supportsGroup group

/-- `never_read`: whether a group of this job has no successful read yet. Optional
diagnostics count only if there is no other group, and a refusal settles them. -/
def neverRead (job : PollJob) (state : UnitState) : Bool :=
  let primaryGroups := job.groups.filter fun group => !group.isOptionalDiagnostic
  if primaryGroups = [] then
    job.groups.any fun group =>
      let health := state.groupReadHealth group
      health.lastSuccessfulRead.isNone && (health.lastAttempt.isNone || health.lastErrorTimedOut)
  else primaryGroups.any fun group => (state.groupReadHealth group).lastSuccessfulRead.isNone

/-- `interval`: the job interval, stretched while its unit stays silent. -/
def interval (job : PollJob) (elapsedSinceStart : Seconds) (neverRead roomSilent : Bool) :
    Seconds :=
  let interval : Seconds := job.group.intervalSeconds
  let interval :=
    if neverRead then min interval (max unreadGroupRetrySeconds elapsedSinceStart) else interval
  if roomSilent then max interval silentRoomPollSeconds else interval

/-- **A job that has just run is not due again at once.** -/
theorem interval_pos (job : PollJob) (elapsed : Seconds) (neverRead roomSilent : Bool) :
    0 < job.interval elapsed neverRead roomSilent := by
  have hinterval : (0 : Seconds) < job.group.intervalSeconds := by
    exact_mod_cast job.group.interval_pos
  have hretry : (0 : Seconds) < max (unreadGroupRetrySeconds : Seconds) elapsed :=
    lt_max_of_lt_left (by norm_num [unreadGroupRetrySeconds])
  have hstretched : ∀ base : Seconds, 0 < base →
      0 < if roomSilent then max base (silentRoomPollSeconds : Seconds) else base := by
    intro base hbase
    split
    · exact lt_max_of_lt_left hbase
    · exact hbase
  refine hstretched _ ?_
  split
  · exact lt_min hinterval hretry
  · exact hinterval

end PollJob

/-- `room_needs_job`: whether a room has any entity a job group refreshes. -/
def roomNeedsJob (room : RoomConfig) (group : JobGroup) : Bool :=
  group.refreshPlan.readGroups.any fun readGroup => room.supportsGroup readGroup

/-- The jobs of one group, staggered across its interval. -/
def groupJobs (rooms : List RoomConfig) (now : Seconds) (group : JobGroup) : List PollJob :=
  let groupRooms := rooms.filter fun room => roomNeedsJob room group
  let spacing : Seconds := group.intervalSeconds / groupRooms.length
  groupRooms.zipIdx.map fun (room, index) => ⟨group, room, now + index * spacing⟩

/-- **`build_jobs`**: one job per room and group. -/
def buildJobs (rooms : List RoomConfig) (now : Seconds) : List PollJob :=
  jobGroups.flatMap (groupJobs rooms now)

/-- **`select_due_job`**: the job that has been due the longest, the first of them on a tie. -/
def selectDueJob (jobs : List PollJob) (now : Seconds) : Option PollJob :=
  (jobs.filter fun job => job.nextDue ≤ now).argmin PollJob.nextDue

/-- `next_tick_seconds`: the delay until the next scheduler wake-up. -/
def nextTickSeconds (jobs : List PollJob) (startupPending : Bool) (tickSeconds now : Seconds) :
    Seconds :=
  match (jobs.map PollJob.nextDue).min? with
  | none => idleTickSeconds
  | some earliest => max tickSeconds ((if startupPending then now else earliest) - now)

/-- **`backoff_seconds`**: the polling delay for a streak of failures. -/
def backoffSeconds (consecutiveFailures : ℕ) : Option Seconds :=
  if consecutiveFailures < transportBackoffAfterFailures then none
  else
    let exponent := min (consecutiveFailures - transportBackoffAfterFailures)
      (Nat.clog 2 (transportBackoffMaxSeconds / transportBackoffStartSeconds))
    some (min transportBackoffMaxSeconds (transportBackoffStartSeconds * 2 ^ exponent))

/-! ### What the functions do -/

section Selection

variable {jobs : List PollJob} {job : PollJob} {now : Seconds}

theorem mem_of_selectDueJob (h : selectDueJob jobs now = some job) :
    job ∈ jobs ∧ job.nextDue ≤ now := by
  have hmem := List.argmin_mem (Option.mem_def.mpr h)
  simpa using List.mem_filter.mp hmem

/-- The selected job is due no later than every other due job. -/
theorem nextDue_le_of_selectDueJob (h : selectDueJob jobs now = some job) {other : PollJob}
    (hother : other ∈ jobs) (hdue : other.nextDue ≤ now) : job.nextDue ≤ other.nextDue :=
  List.le_of_mem_argmin (List.mem_filter.mpr ⟨hother, by simpa using hdue⟩) (Option.mem_def.mpr h)

end Selection

theorem clog_backoff :
    Nat.clog 2 (transportBackoffMaxSeconds / transportBackoffStartSeconds) = 4 := by
  rw [Nat.clog_of_one_lt (by decide) (by decide)]
  decide

/-- **The pause doubles with every failure**: the bound on the exponent only keeps the power
from growing where the maximum applies anyway. -/
theorem backoffSeconds_eq (n : ℕ) : backoffSeconds n =
    if n < 3 then none else some (min 60 (5 * 2 ^ (n - 3))) := by
  by_cases hfew : n < 3
  · rw [if_pos hfew]
    exact if_pos hfew
  · rw [if_neg hfew]
    refine (if_neg hfew).trans (congrArg some ?_)
    rw [clog_backoff]
    change min (60 : Seconds) (5 * 2 ^ min (n - 3) 4) = min 60 (5 * 2 ^ (n - 3))
    rcases le_total (n - 3) 4 with hle | hge
    · rw [min_eq_left hle]
    · have hpow : (2 : Seconds) ^ 4 ≤ 2 ^ (n - 3) := pow_le_pow_right₀ (by norm_num) hge
      rw [min_eq_right hge, min_eq_left (by norm_num), min_eq_left (by linarith)]

/-- The jobs of one group belong to it, one for each of its rooms. -/
theorem groupJobs_id (rooms : List RoomConfig) (now : Seconds) (group : JobGroup) :
    (groupJobs rooms now group).map PollJob.id =
      (rooms.filter fun room => roomNeedsJob room group).map fun room =>
        ⟨group.key, room.key⟩ := by
  simp only [groupJobs, List.map_map]
  conv_rhs => rw [← List.zipIdx_map_fst 0 (rooms.filter fun room => roomNeedsJob room group)]
  rw [List.map_map]
  rfl

/-- **No two jobs have the same group and room**, if no two rooms have the same key. -/
theorem buildJobs_nodup {rooms : List RoomConfig} (h : (rooms.map (·.key)).Nodup)
    (now : Seconds) : ((buildJobs rooms now).map PollJob.id).Nodup := by
  have hkeys : (jobGroups.map JobGroup.key).Nodup := by decide
  rw [buildJobs, List.map_flatMap, List.nodup_flatMap]
  constructor
  · intro group _
    rw [groupJobs_id]
    have hrooms : ((rooms.filter fun room => roomNeedsJob room group).map (·.key)).Nodup :=
      h.sublist (List.filter_sublist.map _)
    refine List.Nodup.of_map JobId.roomKey ?_
    rwa [List.map_map]
  · refine (List.pairwise_map.mp hkeys).imp fun {first second} hne => ?_
    rw [Function.onFun_apply, groupJobs_id, groupJobs_id]
    rintro id hfirst hsecond
    obtain ⟨room, -, rfl⟩ := List.mem_map.mp hfirst
    obtain ⟨other, -, heq⟩ := List.mem_map.mp hsecond
    exact hne (congrArg JobId.key heq).symm

end MeltemVentilation
