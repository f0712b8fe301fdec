import MeltemVentilation.ModbusClient.RoomReadBlocks

/-!
# Which read groups a call records, and how

Every supported group of a plan ends up in one of three ways: recorded as read, recorded as
failed, or left alone. `readRoom_health` says which from the blocks that are due for the
group, with no reference to the record that the call keeps: a group is recorded as read
exactly if all of its due blocks were read and gave usable numbers, so that a frozen value
never counts as fresh, and it is recorded as failed exactly if one of them failed, gave an
unusable number or, for the status map, was given up because the unit went silent.

A block that `async_poll` reports as refused by the recovery pause is neither: it leaves its
groups alone even if the pause began within the same call.
-/

namespace MeltemVentilation

variable {call : RoomCall} {read : RoomRead} {job : ReadJob} {group : ReadGroup}

namespace RoomCall

/-! ### The three ends of a group -/

/-- Every block due for the group was read, and none of its due fields was unusable. -/
def GroupRead (call : RoomCall) (group : ReadGroup) : Prop :=
  (∃ block, call.Due block group) ∧ (∀ block, call.Due block group → call.Read block) ∧
    ¬ call.GaveInvalid group

/-- A block due for the group failed or was given up, or a due field was unusable. -/
def GroupFailed (call : RoomCall) (group : ReadGroup) : Prop :=
  (∃ block, call.Due block group ∧ (call.Failed block ∨ call.GivenUp block)) ∨
    call.GaveInvalid group

/-- A block is read, failed or given up, and never two of them. -/
theorem not_failed_of_read {block : Block} (h : call.Read block) :
    ¬ call.Failed block ∧ ¬ call.GivenUp block := by
  cases block with
  | component component =>
    obtain ⟨values, -, outcome, hpoll, hvalues⟩ := h
    refine ⟨?_, id⟩
    rintro ⟨-, ⟨error, hraised⟩ | ⟨reported, error, hreport, herror, -⟩⟩
    · rw [hpoll] at hraised
      cases hraised
    · rw [hpoll] at hreport
      cases hreport
      rw [hvalues] at herror
      cases herror
  | statusMap =>
    obtain ⟨-, hanswering, block, hmode⟩ := h
    refine ⟨?_, fun hgiven => hanswering hgiven.2⟩
    rintro ⟨-, -, error, hfailed⟩
    rw [hmode] at hfailed
    cases hfailed

theorem isDue_of_supports {field : RoomField}
    (hreads : call.plan.reads call.room.profile field = true)
    (hsupports : call.room.supports field = true) : isDue call.room call.plan field = true := by
  simp [isDue, hreads, hsupports]

/-- A supported group of a plan has a due field, if it is not one of the status map. -/
theorem exists_isDue (hplan : call.plan.refreshes group = true)
    (hsupports : call.room.supportsGroup group = true) (hmode : group ∉ modeGroups) :
    ∃ field, isDue call.room call.plan field = true ∧
      (fieldRead call.room field).group = group := by
  cases group with
  | flow => exact ⟨.extractAirFlow, isDue_of_supports hplan rfl, rfl⟩
  | status => exact ⟨.errorStatus, isDue_of_supports hplan rfl, rfl⟩
  | temperature => exact ⟨.exhaustTemperature, isDue_of_supports hplan rfl, rfl⟩
  | hours => exact ⟨.operatingHours, isDue_of_supports hplan rfl, rfl⟩
  | fanHours => exact ⟨.fanMotorHours, isDue_of_supports hplan rfl, rfl⟩
  | rfLastSeen => exact ⟨.rfLastSeenAgeSeconds, isDue_of_supports hplan rfl, rfl⟩
  | rfSignal => exact ⟨.rfSignalStrength, isDue_of_supports hplan rfl, rfl⟩
  | deviceFault => exact ⟨.deviceFault, isDue_of_supports hplan rfl, rfl⟩
  | valueError => exact ⟨.valueErrorStatus, isDue_of_supports hplan rfl, rfl⟩
  | flowControl | intensive => exact (hmode (by simp [modeGroups])).elim
  | filter =>
    rcases (Bool.or_eq_true _ _).mp hplan with hplan | hplan
    · exact ⟨.filterChangeDue, isDue_of_supports hplan rfl, rfl⟩
    · exact ⟨.daysUntilFilterChange, isDue_of_supports hplan rfl, rfl⟩
  | airQuality =>
    -- Which sensor stands for the group depends on the profile.
    rcases (Bool.or_eq_true _ _).mp hsupports with hsensor | hsensor
    · exact ⟨.humidityExtractAir,
        isDue_of_supports (Bool.and_eq_true_iff.mpr ⟨hplan, hsensor⟩) hsensor, rfl⟩
    · exact ⟨.co2ExtractAir,
        isDue_of_supports (Bool.and_eq_true_iff.mpr ⟨hplan, hsensor⟩) hsensor, rfl⟩
  | controlSettings =>
    rcases (Bool.or_eq_true _ _).mp hsupports with hsensor | hsensor
    · exact ⟨.controlSetting .humidityStartingPoint,
        isDue_of_supports (Bool.and_eq_true_iff.mpr ⟨hplan, hsensor⟩) hsensor, rfl⟩
    · exact ⟨.controlSetting .co2StartingPoint,
        isDue_of_supports (Bool.and_eq_true_iff.mpr ⟨hplan, hsensor⟩) hsensor, rfl⟩

/-- A supported group of a plan has a block: no group is recorded as read for want of one. -/
theorem exists_due (h : group ∈ plannedGroups call.room call.plan) :
    ∃ block, call.Due block group := by
  obtain ⟨hplan, hsupports⟩ := List.mem_filter.mp (List.mem_toFinset.mp h)
  have hplan := RefreshPlan.mem_readGroups.mp hplan
  by_cases hmode : group ∈ modeGroups
  · refine ⟨.statusMap, ?_, hmode⟩
    rcases List.mem_cons.mp hmode with rfl | hmode
    · exact hplan
    · obtain rfl := List.mem_singleton.mp hmode
      exact hplan
  · obtain ⟨field, hdue, rfl⟩ := exists_isDue hplan hsupports hmode
    exact ⟨.component (fieldRead call.room field).component, field, hdue, rfl⟩

theorem not_groupFailed_of_groupRead (h : call.GroupRead group) : ¬ call.GroupFailed group := by
  rintro (⟨block, hdue, hend⟩ | hinvalid)
  · obtain ⟨hfailed, hgiven⟩ := not_failed_of_read (h.2.1 block hdue)
    exact hend.elim hfailed hgiven
  · exact h.2.2 hinvalid

/-- A group that neither failed nor has an untried block was read. -/
theorem groupRead_of_not_skipped (hgroup : group ∈ plannedGroups call.room call.plan)
    (hfailed : ¬ call.GroupFailed group)
    (hskipped : ¬ ∃ block, call.Due block group ∧ ¬ call.Read block ∧ ¬ call.Failed block ∧
      ¬ call.GivenUp block) : call.GroupRead group := by
  refine ⟨exists_due hgroup, fun block hdue => ?_, fun hinvalid => hfailed (.inr hinvalid)⟩
  by_contra hread
  exact hskipped ⟨block, hdue, hread, fun h => hfailed (.inl ⟨block, hdue, .inl h⟩),
    fun h => hfailed (.inl ⟨block, hdue, .inr h⟩)⟩

/-! ### The record of a call that returned -/

/-- What the record says of a group, when the result is built from it. -/
structure Recorded (call : RoomCall) (job : ReadJob) (group : ReadGroup) : Prop where
  errors : (job.errors group).isSome = true ↔ call.GroupFailed group
  skipped : group ∈ job.skippedGroups ↔ ∃ block, call.Due block group ∧ ¬ call.Read block ∧
    ¬ call.Failed block ∧ ¬ call.GivenUp block

/-- In a recovery pause nothing is requested, and every group of the plan is skipped. -/
theorem recorded_of_delayed (hdelayed : call.replies.readDelayed = true)
    (hgroup : group ∈ plannedGroups call.room call.plan) :
    call.Recorded (({} : ReadJob).skip call.plan.readGroups) group := by
  -- While reads are delayed nothing is requested, so every planned group is skipped.
  have hrequested : ∀ component, ¬ call.Requested component := fun component h =>
    Bool.false_ne_true (h.1.symm.trans hdelayed)
  have htried : ¬ call.StatusMapTried := fun h =>
    Bool.false_ne_true (h.1.symm.trans hdelayed)
  have hread : ∀ block, ¬ call.Read block := by
    rintro (component | -)
    · exact fun ⟨_, h, _⟩ => hrequested component h
    · exact fun h => htried h.1
  have hfailed : ∀ block, ¬ call.Failed block := by
    rintro (component | -)
    · exact fun h => hrequested component h.1
    · exact fun h => htried h.1
  have hgiven : ∀ block, ¬ call.GivenUp block := by
    rintro (component | -)
    · exact id
    · exact fun h => htried h.1
  constructor
  · constructor
    · intro h
      cases h
    · rintro (⟨block, -, h | h⟩ | ⟨field, values, repr, -, -, h, -⟩)
      · exact (hfailed block h).elim
      · exact (hgiven block h).elim
      · exact (hrequested _ h.1).elim
  · constructor
    · intro _
      obtain ⟨block, hdue⟩ := exists_due hgroup
      exact ⟨block, hdue, hread block, hfailed block, hgiven block⟩
    · intro _
      rw [ReadJob.mem_skip]
      exact .inr (List.mem_filter.mp (List.mem_toFinset.mp hgroup)).1

/-- Without the airflow plan the record is complete after the values. -/
theorem recorded_of_fields {updated : Updated} (hpolled : call.Polled job updated)
    (hplan : call.plan.refreshAirflow = false) :
    call.Recorded (recordFields call.room call.plan updated job) group := by
  have hmap : ¬ call.Due .statusMap group := fun h =>
    Bool.false_ne_true (hplan.symm.trans h.1)
  constructor
  · rw [recordFields_errors hpolled]
    refine or_congr_left ?_
    constructor
    · rintro ⟨component, hdue, hfails⟩
      exact ⟨.component component, hdue, .inl hfails⟩
    · rintro ⟨component | -, hdue, hend⟩
      · exact ⟨component, hdue, hend.resolve_right id⟩
      · exact (hmap hdue).elim
  · rw [recordFields_skippedGroups, hpolled.skipped]
    constructor
    · rintro ⟨component, hdue, hread, hfails⟩
      exact ⟨.component component, hdue, hread, hfails, id⟩
    · rintro ⟨component | -, hdue, hread, hfails, -⟩
      · exact ⟨component, hdue, hread, hfails⟩
      · exact (hmap hdue).elim

/-- With the airflow plan the status map is recorded last. -/
theorem recorded_of_statusMap {updated : Updated} {client client' : RoomClient}
    {job' : ReadJob} {block : Option ModeRead} (hnow : call.replies.readDelayed = false)
    (hpolled : call.Polled job updated) (hplan : call.plan.refreshAirflow = true)
    (hbackoff : client.modeBackoff = call.client.modeBackoff)
    (hmode : client.readModeBlock call.room call.replies
      (recordFields call.room call.plan updated job) = (client', .ok (job', block))) :
    call.Recorded job' group := by
  have hsilent : (recordFields call.room call.plan updated job).silentError.isSome = true ↔
      call.WentSilent := by
    rw [recordFields_silentError]
    exact hpolled.silent
  obtain ⟨herrors, hskipped, hblock⟩ := readModeBlock_spec hnow hplan hsilent hbackoff hmode
  constructor
  · rw [herrors, recordFields_errors hpolled]
    constructor
    · rintro ((⟨component, hdue, hfails⟩ | hinvalid) | ⟨hgroup, hend⟩)
      · exact .inl ⟨.component component, hdue, .inl hfails⟩
      · exact .inr hinvalid
      · exact .inl ⟨.statusMap, ⟨hplan, hgroup⟩, hend⟩
    · rintro (⟨component | -, hdue, hend⟩ | hinvalid)
      · exact .inl (.inl ⟨component, hdue, hend.resolve_right id⟩)
      · exact .inr ⟨hdue.2, hend⟩
      · exact .inl (.inr hinvalid)
  · rw [hskipped, recordFields_skippedGroups, hpolled.skipped]
    constructor
    · rintro (⟨component, hdue, hread, hfails⟩ | ⟨hgroup, htried⟩)
      · exact ⟨.component component, hdue, hread, hfails, id⟩
      · exact ⟨.statusMap, ⟨hplan, hgroup⟩, fun h => htried h.1, fun h => htried h.1,
          fun h => htried h.1⟩
    · rintro ⟨component | -, hdue, hread, hfails, hgiven⟩
      · exact .inl ⟨component, hdue, hread, hfails⟩
      · refine .inr ⟨hdue.2, fun htried => ?_⟩
        -- A call that returned either read the status map or got an error for it.
        by_cases hwent : call.WentSilent
        · exact hgiven ⟨htried, hwent⟩
        · rcases hreply : call.replies.mode with values | text | error
          · exact hread ⟨htried, hwent, values, hreply⟩
          · exact (readModeBlock_ne_lost htried hwent hsilent hbackoff hreply hmode).elim
          · exact hfails ⟨htried, hwent, error, hreply⟩

theorem exists_finish (h : call.result = .ok read) : ∃ job state, read = call.finish job state := by
  obtain ⟨-, hread⟩ | ⟨-, job, updated, -, ⟨-, hread⟩ | ⟨-, -, -, job', block, -, -, hread⟩⟩ :=
    result_cases h
  · exact ⟨_, _, hread⟩
  · exact ⟨_, _, hread⟩
  · exact ⟨_, _, hread⟩

/-- The record of a call that returned, for the supported groups of its plan. -/
theorem recorded_of_result (h : call.result = .ok read)
    (hgroup : group ∈ plannedGroups call.room call.plan) :
    ∃ job state, read = call.finish job state ∧ call.Recorded job group := by
  obtain ⟨hdelayed, hread⟩ | ⟨hnow, job, updated, hpolled, hcase⟩ := result_cases h
  · exact ⟨_, _, hread, recorded_of_delayed hdelayed hgroup⟩
  · obtain ⟨hplan, hread⟩ | ⟨hplan, client, client', job', block, hbackoff, hmode, hread⟩ := hcase
    · exact ⟨_, _, hread, recorded_of_fields hpolled hplan⟩
    · exact ⟨_, _, hread, recorded_of_statusMap hnow hpolled hplan hbackoff hmode⟩

end RoomCall

/-! ### What the call records -/

/-- The read records a success of the group. -/
def RoomRead.RecordsSuccess (read : RoomRead) (clock : Clock) (group : ReadGroup) : Prop :=
  group ∈ read.outcome.recordedGroups ∧ read.outcome.errors group = none ∧
    read.state.groupReadHealth group = .succeeded clock

/-- The read records a failure of the group, on top of the health it had. -/
def RoomRead.RecordsFailure (read : RoomRead) (clock : Clock) (previous : ReadHealth)
    (group : ReadGroup) : Prop :=
  group ∈ read.outcome.recordedGroups ∧ ∃ error timedOut,
    read.outcome.errors group = some error ∧
      read.state.groupReadHealth group = previous.failed clock.wall error timedOut

/-- The read leaves the health of the group alone. -/
def RoomRead.LeavesAlone (read : RoomRead) (previous : ReadHealth) (group : ReadGroup) : Prop :=
  group ∉ read.outcome.recordedGroups ∧ read.state.groupReadHealth group = previous

section Finish

variable (state : UnitState)

theorem mem_recordedGroups : group ∈ (call.finish job state).outcome.recordedGroups ↔
    group ∈ plannedGroups call.room call.plan ∧
      ((job.errors group).isSome = true ∨ group ∉ job.skippedGroups) :=
  Finset.mem_filter

/-- A group with an error is recorded as failed. -/
theorem recordsFailure_of_error (hgroup : group ∈ plannedGroups call.room call.plan)
    (herror : (job.errors group).isSome = true) :
    (call.finish job state).RecordsFailure call.replies.finished
      (call.previous.groupReadHealth group) group := by
  have hmem : group ∈ recordedGroups call.room call.plan job :=
    (mem_recordedGroups state).mpr ⟨hgroup, .inl herror⟩
  obtain ⟨error, herror⟩ := Option.isSome_iff_exists.mp herror
  refine ⟨hmem, error, decide (group ∈ job.timeouts), ?_, ?_⟩
  · show (if group ∈ recordedGroups call.room call.plan job then job.errors group else none) = _
    rw [if_pos hmem, herror]
  · show updatedReadHealth _ _ _ _ _ _ = _
    simp [updatedReadHealth, hgroup, herror]

/-- A group without an error that was not skipped is recorded as read. -/
theorem recordsSuccess_of_none (hgroup : group ∈ plannedGroups call.room call.plan)
    (herror : ¬ (job.errors group).isSome = true) (hskipped : group ∉ job.skippedGroups) :
    (call.finish job state).RecordsSuccess call.replies.finished group := by
  have hmem : group ∈ recordedGroups call.room call.plan job :=
    (mem_recordedGroups state).mpr ⟨hgroup, .inr hskipped⟩
  have hnone : job.errors group = none := by simpa using herror
  refine ⟨hmem, ?_, ?_⟩
  · show (if group ∈ recordedGroups call.room call.plan job then job.errors group else none) = _
    rw [if_pos hmem, hnone]
  · show updatedReadHealth _ _ _ _ _ _ = _
    simp [updatedReadHealth, hgroup, hnone, hskipped]

/-- Every other group is left alone. -/
theorem leavesAlone_of_skipped (h : group ∈ plannedGroups call.room call.plan →
    ¬ (job.errors group).isSome = true ∧ group ∈ job.skippedGroups) :
    (call.finish job state).LeavesAlone (call.previous.groupReadHealth group) group := by
  constructor
  · intro hmem
    obtain ⟨hgroup, herror | hskipped⟩ := (mem_recordedGroups state).mp hmem
    · exact (h hgroup).1 herror
    · exact hskipped (h hgroup).2
  · show updatedReadHealth _ _ _ _ _ _ = _
    unfold updatedReadHealth
    split
    · rename_i hgroup
      have hnone : job.errors group = none := by simpa using (h hgroup).1
      rw [hnone]
      exact if_pos (h hgroup).2
    · rfl

end Finish

/-- **Read health is sound and complete per call.** A group is recorded as read exactly if it
is a supported group of the plan whose due blocks were all read, with usable numbers; it is
recorded as failed exactly if one of its due blocks failed, was given up because the unit
went silent, or gave an unusable number; in every other case its health stays. -/
theorem readRoom_health (call : RoomCall) (read : RoomRead) (h : call.result = .ok read)
    (group : ReadGroup) :
    (read.RecordsSuccess call.replies.finished group ↔
      group ∈ plannedGroups call.room call.plan ∧ call.GroupRead group) ∧
    (read.RecordsFailure call.replies.finished (call.previous.groupReadHealth group) group ↔
      group ∈ plannedGroups call.room call.plan ∧ call.GroupFailed group) ∧
    (¬ (group ∈ plannedGroups call.room call.plan ∧
        (call.GroupRead group ∨ call.GroupFailed group)) →
      read.LeavesAlone (call.previous.groupReadHealth group) group) := by
  -- A planned group ends up failed, skipped or read; each end excludes the two others.
  by_cases hgroup : group ∈ plannedGroups call.room call.plan
  · obtain ⟨job, state, rfl, hrecorded⟩ := RoomCall.recorded_of_result h hgroup
    by_cases hfailed : call.GroupFailed group
    · have herror := hrecorded.errors.mpr hfailed
      have hfailure := recordsFailure_of_error state hgroup herror
      refine ⟨?_, ⟨fun _ => ⟨hgroup, hfailed⟩, fun _ => hfailure⟩,
        fun hnot => (hnot ⟨hgroup, .inr hfailed⟩).elim⟩
      constructor
      · rintro ⟨-, hnone, -⟩
        obtain ⟨-, error, -, hsome, -⟩ := hfailure
        rw [hnone] at hsome
        cases hsome
      · rintro ⟨-, hread⟩
        exact (RoomCall.not_groupFailed_of_groupRead hread hfailed).elim
    · have hnoError := fun herror => hfailed (hrecorded.errors.mp herror)
      by_cases hskipped : group ∈ job.skippedGroups
      · have halone : (call.finish job state).LeavesAlone
            (call.previous.groupReadHealth group) group :=
          leavesAlone_of_skipped state fun _ => ⟨hnoError, hskipped⟩
        refine ⟨?_, ?_, fun _ => halone⟩
        · constructor
          · exact fun hsuccess => (halone.1 hsuccess.1).elim
          · rintro ⟨-, -, hread, -⟩
            obtain ⟨block, hdue, hunread, -⟩ := hrecorded.skipped.mp hskipped
            exact (hunread (hread block hdue)).elim
        · exact ⟨fun hfailure => (halone.1 hfailure.1).elim, fun hend => (hfailed hend.2).elim⟩
      · have hsuccess := recordsSuccess_of_none state hgroup hnoError hskipped
        have hread := RoomCall.groupRead_of_not_skipped hgroup hfailed fun hend =>
          hskipped (hrecorded.skipped.mpr hend)
        refine ⟨⟨fun _ => ⟨hgroup, hread⟩, fun _ => hsuccess⟩, ?_,
          fun hnot => (hnot ⟨hgroup, .inl hread⟩).elim⟩
        constructor
        · rintro ⟨-, error, -, hsome, -⟩
          rw [hsuccess.2.1] at hsome
          cases hsome
        · exact fun hend => (hfailed hend.2).elim
  · obtain ⟨job, state, rfl⟩ := RoomCall.exists_finish h
    have halone : (call.finish job state).LeavesAlone (call.previous.groupReadHealth group) group :=
      leavesAlone_of_skipped state fun hmem => (hgroup hmem).elim
    exact ⟨⟨fun hsuccess => (halone.1 hsuccess.1).elim, fun hend => (hgroup hend.1).elim⟩,
      ⟨fun hfailure => (halone.1 hfailure.1).elim, fun hend => (hgroup hend.1).elim⟩,
      fun _ => halone⟩

/-! ### A unit that goes silent between two blocks -/

/-- The temperature job of a unit that answers its first block, loses the reply to the second
and is not asked for the air quality any more. -/
def silencedCall : RoomCall where
  client := { port := "/dev/ttyUSB0" }
  room := ⟨"slave_2", "Living room", .sF, 2⟩
  previous := {}
  plan := { emptyRefreshPlan with refreshTemperatures := true, refreshEnvironment := true }
  replies := {
    readDelayed := false
    pollStarted := seconds 100
    poll := .report fun
      | .temperatures => .updated fun _ => some (.float 20)
      | .supplyTemperature => .failed ⟨.timeout, "No response"⟩
      | _ => .failed ⟨.quarantined,
        "Unit 2 is quarantined after an unanswered register read"⟩
    modeStarted := seconds 101
    mode := .failed ⟨.other, ""⟩
    answered := true
    finished := ⟨seconds 102, wallSeconds 102⟩ }

theorem silencedCall_wentSilent : silencedCall.WentSilent :=
  ⟨.supplyTemperature, ⟨rfl, ⟨.temperature, .supplyAirTemperature, by decide, rfl⟩, rfl⟩,
    .inr ⟨_, _, rfl, rfl, by decide, rfl⟩⟩

/-- No block of the air quality was read: each is reported as refused. -/
theorem silencedCall_refused (block : Block) (h : silencedCall.Due block .airQuality) :
    ∃ component outcome error, block = .component component ∧
      silencedCall.replies.poll = .report outcome ∧ outcome component = .failed error ∧
      error.kind = .quarantined := by
  obtain component | - := block
  · obtain ⟨field, -, hread⟩ := h
    refine ⟨component, _, ⟨.quarantined,
      "Unit 2 is quarantined after an unanswered register read"⟩, rfl, rfl, ?_, rfl⟩
    have hcomponent : component ≠ .temperatures ∧ component ≠ .supplyTemperature := by
      constructor <;>
      · rintro rfl
        cases field <;> cases hread
    cases component <;> first | rfl | exact (hcomponent.1 rfl).elim | exact (hcomponent.2 rfl).elim
  · cases h.1

/-- **A group whose blocks are skipped because the unit went silent in the same call is left
alone**, and not recorded as failed. -/
theorem airQuality_of_silencedCall : ∃ read, silencedCall.result = .ok read ∧
    silencedCall.WentSilent ∧
    .airQuality ∈ plannedGroups silencedCall.room silencedCall.plan ∧
    (∀ block, silencedCall.Due block .airQuality → ¬ silencedCall.Read block) ∧
    ¬ read.RecordsFailure silencedCall.replies.finished
      (silencedCall.previous.groupReadHealth .airQuality) .airQuality := by
  refine ⟨_, rfl, silencedCall_wentSilent, by decide, fun block hdue hread => ?_, ?_⟩
  · obtain ⟨component, outcome, error, rfl, hpoll, herror, -⟩ := silencedCall_refused block hdue
    obtain ⟨values, -, reported, hreport, hvalues⟩ := hread
    rw [hpoll] at hreport
    cases hreport
    rw [herror] at hvalues
    cases hvalues
  · rintro ⟨hmem, -⟩
    revert hmem
    decide

/-- The temperatures of that call are recorded as failed. -/
theorem readRoom_health_silencedCall : ∃ read, silencedCall.result = .ok read ∧
    read.RecordsFailure silencedCall.replies.finished
      (silencedCall.previous.groupReadHealth .temperature) .temperature := by
  refine ⟨_, rfl, (readRoom_health silencedCall _ rfl .temperature).2.1.mpr ⟨by decide, ?_⟩⟩
  exact .inl ⟨.component .supplyTemperature, ⟨.supplyAirTemperature, by decide, rfl⟩,
    .inl ⟨⟨rfl, ⟨.temperature, .supplyAirTemperature, by decide, rfl⟩, rfl⟩,
      .inr ⟨_, _, rfl, rfl, by decide⟩⟩⟩

end MeltemVentilation
