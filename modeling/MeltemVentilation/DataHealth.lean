import MeltemVentilation.Poller

/-!
# When the data of a unit is healthy

`group_available` decides whether the entities of a read group show their values, `group_stale` and
`data_health_stale` whether the data health of the unit reports a problem. Both look at the
`ReadHealth` of a group, which keeps only the last attempt, the last success and the failures since.
Here they are told by the reads of a group themselves (`RecordedRead`, `healthAfter`), which is what
every read of the client adds to at most once (`updatedReadHealth_reads`, `recordFailures_reads`).

* **Values are shown while they are recent** (`groupAvailable_iff`): there was a successful read,
  it is not past the age limit of the group by the monotonic clock, and fewer than three reads have
  failed since.
* **The two agree** (`groupStale_eq_false_iff`): the data health calls a group healthy exactly if
  its values are shown.
* **A unit has a problem** (`dataHealthStale_eq_true_iff`) if a write has, or a group has: its
  values are too old, or it failed three times in a row, or it was refused before it ever had a
  value. What a unit need not have may be refused.
-/

namespace MeltemVentilation

/-! ### What the data health shows -/

/-- `_unsupported_optional_group`: the unit refused a group that it need not have. -/
def unsupportedOptionalGroup (group : ReadGroup) (health : ReadHealth) : Bool :=
  group.isOptionalDiagnostic && health.lastSuccessfulRead.isNone && health.lastAttempt.isSome &&
    !health.lastErrorTimedOut

/-- **`group_stale`**: whether the last successful read of a group is stale. -/
def groupStale (clock : Clock) (state : RoomState) (group : ReadGroup) : Option Bool :=
  let health := state.groupReadHealth group
  if health.lastAttempt = none ∨ unsupportedOptionalGroup group health = true then none
  else if readFailureThreshold ≤ health.consecutiveFailures then some true
  else if health.lastSuccessfulRead = none then
    -- A timeout says nothing about the unit and waits for the threshold.
    if health.lastError ≠ none ∧ health.lastErrorTimedOut = false then some true else none
  else some (readTooOld clock group health)

/-- **`data_health_stale`**: whether any read group or write confirmation is unhealthy. -/
def dataHealthStale (clock : Clock) (state : Option RoomState) (writesUnhealthy hasWrites : Bool) :
    Option Bool :=
  match state with
  | none => none
  | some state =>
    if ∃ group, groupStale clock state group = some true then some true
    else if writesUnhealthy then some true
    else if (∃ group, groupStale clock state group = some false) ∨ hasWrites = true then some false
    else none

/-! ### The reads of a group -/

/-- A read of a group that was recorded. -/
inductive RecordedRead where
  | succeeded (clock : Clock)
  | failed (wall : WallTime) (error : String) (timedOut : Bool)
deriving DecidableEq, Repr

/-- Whether a read failed. -/
def RecordedRead.isFailed : RecordedRead → Bool
  | .succeeded _ => false
  | .failed _ _ _ => true

/-- Whether a read failed otherwise than by a timeout, which counts as a refusal. -/
def RecordedRead.isRefused : RecordedRead → Bool
  | .succeeded _ => false
  | .failed _ _ timedOut => !timedOut

/-- The health of a group after its reads, the last one first. -/
def healthAfter : List RecordedRead → ReadHealth
  | [] => emptyReadHealth
  | .succeeded clock :: _ => .succeeded clock
  | .failed wall error timedOut :: reads => (healthAfter reads).failed wall error timedOut

section DataHealth

variable {clock success : Clock} {state : RoomState} {group : ReadGroup}
  {reads failures earlier : List RecordedRead} {room : RoomConfig} {plan : RefreshPlan}

/-- A read of the client adds at most one read of a group. -/
theorem updatedReadHealth_reads {job : ReadJob} {previous : ReadGroup → ReadHealth}
    (h : previous group = healthAfter reads) :
    ∃ recent, recent.length ≤ 1 ∧
      updatedReadHealth room plan job clock previous group = healthAfter (recent ++ reads) := by
  rw [updatedReadHealth]
  split
  · cases job.errors group with
    | some error =>
      exact ⟨[.failed clock.wall error (group ∈ job.timeouts)], le_rfl, by rw [h]; rfl⟩
    | none =>
      dsimp only
      split
      · exact ⟨[], Nat.zero_le _, h⟩
      · exact ⟨[.succeeded clock], le_rfl, rfl⟩
  · exact ⟨[], Nat.zero_le _, h⟩

/-- And so does one that raised. -/
theorem recordFailures_reads {wall : WallTime} {text : String} {polled : UnitState}
    (h : polled.groupReadHealth group = healthAfter reads) :
    ∃ recent, recent.length ≤ 1 ∧
      (Poller.recordFailures wall room plan text polled).groupReadHealth group =
        healthAfter (recent ++ reads) := by
  simp only [Poller.recordFailures]
  split
  · exact ⟨[.failed wall text false], le_rfl, by rw [h]; rfl⟩
  · exact ⟨[], Nat.zero_le _, h⟩

/-- Reads are failures behind the last success, or nothing but failures. -/
theorem exists_lastSuccess (reads : List RecordedRead) :
    (∀ read ∈ reads, read.isFailed = true) ∨
      ∃ failures success earlier, reads = failures ++ .succeeded success :: earlier ∧
        ∀ read ∈ failures, read.isFailed = true := by
  induction reads with
  | nil => exact .inl fun _ hmem => by cases hmem
  | cons read reads ih =>
    cases read with
    | succeeded success => exact .inr ⟨[], success, reads, rfl, fun _ hmem => by cases hmem⟩
    | failed wall error timedOut =>
      rcases ih with hall | ⟨failures, success, earlier, rfl, hall⟩
      · exact .inl (List.forall_mem_cons.mpr ⟨rfl, hall⟩)
      · exact .inr ⟨.failed wall error timedOut :: failures, success, earlier, rfl,
          List.forall_mem_cons.mpr ⟨rfl, hall⟩⟩

/-- Failures are counted up to the threshold and leave the last success alone. -/
theorem healthAfter_failures {rest : List RecordedRead}
    (hfailed : ∀ read ∈ failures, read.isFailed = true)
    (hrest : (healthAfter rest).consecutiveFailures = 0) :
    (healthAfter (failures ++ rest)).consecutiveFailures =
        min failures.length readFailureThreshold ∧
      (healthAfter (failures ++ rest)).lastSuccessfulRead =
        (healthAfter rest).lastSuccessfulRead ∧
      (healthAfter (failures ++ rest)).lastSuccessMonotonic =
        (healthAfter rest).lastSuccessMonotonic := by
  induction failures with
  | nil => exact ⟨by simpa using hrest, rfl, rfl⟩
  | cons read failures ih =>
    obtain ⟨hread, hfailed⟩ := List.forall_mem_cons.mp hfailed
    obtain ⟨hcount, hwall, hstamp⟩ := ih hfailed
    cases read with
    | succeeded success => cases hread
    | failed wall error timedOut =>
      refine ⟨?_, hwall, hstamp⟩
      rw [List.cons_append, healthAfter, ReadHealth.failed, hcount, List.length_cons]
      dsimp only
      omega

/-- The health behind a last success. -/
theorem healthAfter_lastSuccess (success : Clock) (earlier : List RecordedRead)
    (hfailed : ∀ read ∈ failures, read.isFailed = true) :
    (healthAfter (failures ++ .succeeded success :: earlier)).consecutiveFailures =
        min failures.length readFailureThreshold ∧
      (healthAfter (failures ++ .succeeded success :: earlier)).lastSuccessfulRead =
        some success.wall ∧
      (healthAfter (failures ++ .succeeded success :: earlier)).lastSuccessMonotonic =
        some success.monotonic :=
  healthAfter_failures hfailed rfl

/-- A group that never succeeded has no success. -/
theorem healthAfter_allFailed (hfailed : ∀ read ∈ reads, read.isFailed = true) :
    (healthAfter reads).consecutiveFailures = min reads.length readFailureThreshold ∧
      (healthAfter reads).lastSuccessfulRead = none := by
  have hrest : (healthAfter []).consecutiveFailures = 0 := rfl
  obtain ⟨hcount, hwall, -⟩ := healthAfter_failures hfailed hrest
  rw [List.append_nil] at hcount hwall
  exact ⟨hcount, hwall⟩

/-- A group has an attempt exactly if it has a read. -/
theorem lastAttempt_healthAfter_eq_none : (healthAfter reads).lastAttempt = none ↔ reads = [] := by
  cases reads with
  | nil => exact ⟨fun _ => rfl, fun _ => rfl⟩
  | cons read reads =>
    cases read <;> exact ⟨fun h => (Option.some_ne_none _ h).elim, fun h => by cases h⟩

/-- Whether the values of a group are shown behind a last success. -/
theorem groupAvailable_lastSuccess (hfailed : ∀ read ∈ failures, read.isFailed = true)
    (h : state.groupReadHealth group = healthAfter (failures ++ .succeeded success :: earlier)) :
    groupAvailable clock state group = true ↔ failures.length < readFailureThreshold ∧
      clock.monotonic - success.monotonic ≤ seconds (staleAfterSeconds group) := by
  obtain ⟨hcount, hwall, hstamp⟩ := healthAfter_lastSuccess success earlier hfailed
  simp only [groupAvailable, h, hcount, hwall, readTooOld, hstamp]
  by_cases hfew : failures.length < readFailureThreshold
  · have : ¬ readFailureThreshold ≤ min failures.length readFailureThreshold := by omega
    simp [this, hfew]
  · have : readFailureThreshold ≤ min failures.length readFailureThreshold := by omega
    simp [this, hfew]

/-- **Values are shown while they are recent**: behind the last success, if it is not past the age
limit and fewer than three reads have failed since. -/
theorem groupAvailable_iff (h : state.groupReadHealth group = healthAfter reads) :
    groupAvailable clock state group = true ↔
      ∃ failures success earlier, reads = failures ++ .succeeded success :: earlier ∧
        (∀ read ∈ failures, read.isFailed = true) ∧ failures.length < readFailureThreshold ∧
        clock.monotonic - success.monotonic ≤ seconds (staleAfterSeconds group) := by
  constructor
  · intro havailable
    rcases exists_lastSuccess reads with hall | ⟨failures, success, earlier, rfl, hfailed⟩
    · have hnone := (healthAfter_allFailed hall).2
      simp [groupAvailable, h, hnone] at havailable
    · exact ⟨failures, success, earlier, rfl, hfailed,
        (groupAvailable_lastSuccess hfailed h).mp havailable⟩
  · rintro ⟨failures, success, earlier, rfl, hfailed, hrecent⟩
    exact (groupAvailable_lastSuccess hfailed h).mpr hrecent

/-- Two missed reads behind a successful one. -/
def missedReads : List RecordedRead :=
  [.failed 0 "timeout" true, .failed 0 "timeout" true, .succeeded ⟨seconds 10, 0⟩]

/-- Read at 10 s and twice missed, the airflow is shown at 40 s. -/
theorem groupAvailable_iff_missed :
    groupAvailable ⟨seconds 40, 0⟩ { groupReadHealth := fun _ => healthAfter missedReads } .flow =
      true :=
  (groupAvailable_iff rfl).mpr ⟨missedReads.take 2, _, [], rfl, by decide, by decide, by decide⟩

/-- What the data health says of a group behind a last success. -/
theorem groupStale_lastSuccess (hfailed : ∀ read ∈ failures, read.isFailed = true)
    (h : state.groupReadHealth group = healthAfter (failures ++ .succeeded success :: earlier)) :
    groupStale clock state group = some (!groupAvailable clock state group) := by
  obtain ⟨hcount, hwall, hstamp⟩ := healthAfter_lastSuccess success earlier hfailed
  have hattempt : (healthAfter (failures ++ .succeeded success :: earlier)).lastAttempt ≠ none :=
    fun hnone => by simpa using lastAttempt_healthAfter_eq_none.mp hnone
  simp only [groupStale, groupAvailable, h, unsupportedOptionalGroup, hwall, hattempt,
    Option.isNone_some, Bool.and_false, Bool.false_and, Bool.false_eq_true, or_self, if_false,
    reduceCtorEq, false_or]
  split <;> simp

/-- **The data health and the entities agree** on what is healthy. -/
theorem groupStale_eq_false_iff (h : state.groupReadHealth group = healthAfter reads) :
    groupStale clock state group = some false ↔ groupAvailable clock state group = true := by
  rcases exists_lastSuccess reads with hall | ⟨failures, success, earlier, rfl, hfailed⟩
  · have hnone := (healthAfter_allFailed hall).2
    have hunavailable : groupAvailable clock state group = false := by
      simp [groupAvailable, h, hnone]
    rw [hunavailable, groupStale, h]
    simp only [hnone, if_true, Bool.false_eq_true, iff_false]
    split_ifs <;> simp
  · rw [groupStale_lastSuccess hfailed h]
    simp

/-- What is wrong with a group, told by its reads. -/
def GroupProblem (clock : Clock) (group : ReadGroup) (reads : List RecordedRead) : Prop :=
  (∃ failures success earlier, reads = failures ++ .succeeded success :: earlier ∧
    (∀ read ∈ failures, read.isFailed = true) ∧
    (readFailureThreshold ≤ failures.length ∨
      seconds (staleAfterSeconds group) < clock.monotonic - success.monotonic)) ∨
  ((∀ read ∈ reads, read.isFailed = true) ∧
    if reads.head?.any RecordedRead.isRefused = true then group.isOptionalDiagnostic = false
    else readFailureThreshold ≤ reads.length)

/-- What the data health says of a group that never succeeded. -/
theorem groupStale_allFailed (hall : ∀ read ∈ reads, read.isFailed = true)
    (h : state.groupReadHealth group = healthAfter reads) :
    groupStale clock state group = some true ↔
      if reads.head?.any RecordedRead.isRefused = true then group.isOptionalDiagnostic = false
      else readFailureThreshold ≤ reads.length := by
  obtain ⟨hcount, hnone⟩ := healthAfter_allFailed hall
  cases reads with
  | nil => simp [groupStale, h, healthAfter, emptyReadHealth, readFailureThreshold]
  | cons read reads =>
    cases read with
    | succeeded success => cases hall _ List.mem_cons_self
    | failed wall error timedOut =>
      have hattempt :
          (healthAfter (.failed wall error timedOut :: reads)).lastAttempt = some wall := rfl
      have herror : (healthAfter (.failed wall error timedOut :: reads)).lastError = some error :=
        rfl
      have htimedOut :
          (healthAfter (.failed wall error timedOut :: reads)).lastErrorTimedOut = timedOut := rfl
      simp only [groupStale, h, unsupportedOptionalGroup, hcount, hnone, hattempt, herror,
        htimedOut, le_min_iff, le_refl, and_true, List.head?_cons, Option.any_some,
        RecordedRead.isRefused]
      cases timedOut with
      | true => simp
      | false => cases group.isOptionalDiagnostic <;> simp

theorem groupStale_eq_true_iff (h : state.groupReadHealth group = healthAfter reads) :
    groupStale clock state group = some true ↔ GroupProblem clock group reads := by
  rcases exists_lastSuccess reads with hall | ⟨failures, success, earlier, rfl, hfailed⟩
  · rw [groupStale_allFailed hall h, GroupProblem]
    refine ⟨fun hproblem => .inr ⟨hall, hproblem⟩, ?_⟩
    rintro (⟨failures, success, earlier, rfl, -⟩ | ⟨-, hproblem⟩)
    · cases hall _ (List.mem_append_right _ List.mem_cons_self)
    · exact hproblem
  · rw [groupStale_lastSuccess hfailed h, Option.some.injEq, Bool.not_eq_true',
      ← Bool.not_eq_true, GroupProblem]
    constructor
    · intro hunavailable
      rw [groupAvailable_lastSuccess hfailed h, not_and_or, not_lt, not_le] at hunavailable
      exact .inl ⟨failures, success, earlier, rfl, hfailed, hunavailable⟩
    · rintro (⟨failures', success', earlier', hreads, hfailed', hproblem⟩ | ⟨hall, -⟩)
      · rw [hreads] at h
        rwa [groupAvailable_lastSuccess hfailed' h, not_and_or, not_lt, not_le]
      · cases hall _ (List.mem_append_right _ List.mem_cons_self)

/-- **When the data health of a unit reports a problem**: a write has one, or a group has. -/
theorem dataHealthStale_eq_true_iff (reads : ReadGroup → List RecordedRead)
    (h : ∀ group, state.groupReadHealth group = healthAfter (reads group))
    (writesUnhealthy hasWrites : Bool) :
    dataHealthStale clock (some state) writesUnhealthy hasWrites = some true ↔
      writesUnhealthy = true ∨ ∃ group, GroupProblem clock group (reads group) := by
  have hgroups : (∃ group, groupStale clock state group = some true) ↔
      ∃ group, GroupProblem clock group (reads group) :=
    exists_congr fun group => groupStale_eq_true_iff (h group)
  rw [dataHealthStale, ← hgroups]
  split_ifs with hstale hwrites hfalse
  · simp [hstale]
  · simp [hwrites]
  · simp [hstale, hwrites]
  · simp [hstale, hwrites]

/-- The reads of a unit that refuses its status and the operating hours of its fans. -/
def refusedReads : ReadGroup → List RecordedRead
  | .status | .fanHours => [.failed 0 "illegal data address" false]
  | _ => [.succeeded ⟨0, 0⟩]

/-- The status is a problem, the hours are none. -/
theorem dataHealthStale_eq_true_iff_refused :
    dataHealthStale ⟨0, 0⟩
      (some { groupReadHealth := fun group => healthAfter (refusedReads group) }) false true =
        some true :=
  (dataHealthStale_eq_true_iff refusedReads (fun _ => rfl) false true).mpr
    (.inr ⟨.status, .inr ⟨by decide, by decide⟩⟩)

end DataHealth

end MeltemVentilation
