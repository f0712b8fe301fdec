import MeltemVentilation.IntensiveDisplay

/-!
# Interrupted flow-control writes

A flow-control write that is cancelled while it is sent may or may not have reached the unit.
The coordinator then remembers the health of the two read groups that levels come from
(`RoomCoordinator.uncertainFlow`), and refuses the commands that build on known levels until
one of the groups has been read again. The marker is dropped by the first query that finds
such a read, so what protects a command is not the marker itself but what the marker stood
for when it was dropped.

The record of a run, `FlowRecord`, says which groups have been read successfully since the
last interrupted write. The invariant has three parts. While the marker is there, a group
whose health differs from the baseline, and is fresh, has been read since
(`FlowInvariant.marked`). Once it is gone, the mode status group has been read since, or the
airflow group has and the mode status group is not fresh (`FlowInvariant.settled`); time only
makes a group less fresh, so the second case lasts until the next read of the mode status. And
a read of the status map that brings no airflow has failed to read it, or skips it since an
earlier read failed, so the airflow group is not fresh then (`FlowInvariant.failed`).

So a group that is fresh when a command is sent was read after the interruption
(`levelsRead_of_reach`). That the airflow was read whenever the status map is not fresh does not
follow: neither may be fresh, and a command is then planned without levels
(`levelsRead_refuted`).
-/

namespace MeltemVentilation

open ReadHealth (ReadFrom)
open RoomCoordinator Transition

/-! ### Groups that were not read -/

/-- How the health of a group may change without a successful read: not at all, by a failed
read, or by being forgotten. -/
def ReadHealth.Unread (health later : ReadHealth) : Prop :=
  later = health ∨ later = emptyReadHealth ∨ later.lastError ≠ none

namespace ReadHealth

variable {health later latest : ReadHealth} {since : Monotonic}

theorem Unread.refl : Unread health health := .inl rfl

theorem Unread.trans (h : Unread health later) (h' : Unread later latest) :
    Unread health latest := by
  rcases h' with rfl | h'
  · exact h
  · exact .inr h'

/-- The health of a group that has only been read by the client: never, with an error, or
successfully at some time. -/
def Recorded (health : ReadHealth) : Prop := Unread emptyReadHealth health ∨
  ∃ read : Clock, health = .succeeded read

theorem Recorded.readFrom (h : Recorded health) (h' : ReadFrom since health later) :
    Recorded later := by
  rcases h' with rfl | rfl | h' | ⟨read, -, rfl⟩
  · exact h
  · exact .inl (.inl rfl)
  · exact .inl (.inr (.inr h'))
  · exact .inr ⟨read, rfl⟩

end ReadHealth

open ReadHealth (Unread Recorded)

section Fresh

variable {clock later : Clock} {state state' : RoomState} {group : ReadGroup}

/-- A fresh group that was not read has the health it had. -/
theorem eq_of_unread {health : ReadHealth} (h : Unread health (state.groupReadHealth group))
    (hfresh : groupFresh clock state group = true) : state.groupReadHealth group = health := by
  rcases h with h | h | h
  · exact h
  · simp [groupFresh, h, emptyReadHealth] at hfresh
  · exact absurd (lastError_of_groupFresh hfresh) h

/-- **A group becomes fresh by a read only**: without one, as time passes, it stays stale. -/
theorem not_fresh_of_unread
    (h : Unread (state.groupReadHealth group) (state'.groupReadHealth group))
    (hrecorded : Recorded (state.groupReadHealth group))
    (hclock : clock.monotonic ≤ later.monotonic) (hstale : groupFresh clock state group = false) :
    groupFresh later state' group = false := by
  by_contra hnot
  have hfresh := Bool.eq_true_of_not_eq_false hnot
  have hsame := eq_of_unread h hfresh
  rcases hrecorded with hunread | ⟨read, hread⟩
  · -- A group that was never read successfully is not fresh.
    have hempty := eq_of_unread (hsame ▸ hunread) hfresh
    simp [groupFresh, hempty, emptyReadHealth] at hfresh
  · have hage : ¬ clock.monotonic - read.monotonic ≤ seconds (staleAfterSeconds group) := by
      intro hage
      rw [groupFresh_of_succeeded hread hage] at hstale
      cases hstale
    have hold : readTooOld later group (.succeeded read) = true := by
      simp only [readTooOld, ReadHealth.succeeded, decide_eq_true_eq]
      exact (lt_of_not_ge hage).trans_le (Nat.sub_le_sub_right hclock _)
    simp [groupFresh, hsame, hread, hold] at hfresh

end Fresh

/-! ### Which groups a reply reads -/

/-- Whether a reply brings values of a group. -/
def PlanReply.reads : PlanReply → ReadGroup → Bool
  | .airflow (.blocks flow _) _, .flow => flow.read?.isSome
  | .airflow (.blocks _ mode) _, .flowControl | .airflow (.blocks _ mode) _, .intensive =>
    mode.read?.isSome
  | .settings (.block read), .controlSettings => read.read?.isSome
  | _, _ => false

/-- Whether a step reads a group successfully. -/
def Label.reads (label : Label) (group : ReadGroup) : Bool :=
  label.reply.any (·.1.reads group)

theorem BlockRead.unread {α : Type} {read : BlockRead α} {clock : Clock} {previous : ReadHealth}
    (h : read.read?.isSome = false) : Unread previous (read.health clock previous) := by
  cases read with
  | values _ => cases h
  | failed error timedOut => exact .inr (.inr ReadHealth.lastError_failed)
  | skipped => exact .refl

theorem recordReadFailures_unread {wall : WallTime} {room : RoomConfig} {error : String}
    {groups : List ReadGroup} (state : RoomState) (group : ReadGroup) :
    Unread (state.groupReadHealth group)
      ((recordReadFailures wall room error groups state).groupReadHealth group) := by
  simp only [recordReadFailures]
  split
  · exact .inr (.inr (by simp [ReadHealth.failed]))
  · exact .refl

/-- A reply leaves the groups it does not read as they were, or failed. -/
theorem PlanReply.unread {room : RoomConfig} {clock : Clock} {previous : RoomState}
    {reply : PlanReply} {group : ReadGroup} (h : reply.reads group = false) :
    Unread (previous.groupReadHealth group)
      ((reply.state room clock previous).groupReadHealth group) := by
  rcases reply with ⟨_ | error | ⟨flow, mode⟩, target⟩ | ⟨_ | error | read⟩
  · exact .refl
  · exact recordReadFailures_unread previous group
  · cases group <;> first | exact BlockRead.unread h | exact .refl
  · exact .refl
  · exact recordReadFailures_unread previous group
  · simp only [PlanReply.state, SettingsRead.apply]
    split
    · cases group <;> first | exact BlockRead.unread h | exact .refl
    · exact .refl

/-- Whether a reply shows the status map and leaves out the block of the airflow. -/
def PlanReply.skipsAirflow : PlanReply → Bool
  | .airflow (.blocks .skipped (.values _)) _ => true
  | _ => false

/-- A reply that shows the status map reads the airflow, skips it, or fails to read it. -/
theorem PlanReply.reads_flow_or_unread (room : RoomConfig) (clock : Clock) (previous : RoomState)
    {reply : PlanReply} (h : reply.reads .flowControl = true) :
    reply.reads .flow = true ∨ reply.skipsAirflow = true ∨
      ((reply.state room clock previous).groupReadHealth .flow).lastError ≠ none := by
  rcases reply with ⟨_ | error | ⟨_ | ⟨error, timedOut⟩ | _, mode | _ | _⟩, target⟩ | _ | _ | read
  all_goals try cases h
  · exact .inl rfl
  · exact .inr (.inr ReadHealth.lastError_failed)
  · exact .inr (.inl rfl)

/-! ### What a step does to the health of the groups -/

section Steps

variable {s t u : RoomCoordinator} {label : Label} {group : ReadGroup} {write : PreparedWrite}
  {outcome : WriteOutcome} {state : RoomState} {clock finished : Clock} {command : Command}

namespace RoomCoordinator

theorem Previous.unread (h : s.Previous state) (group : ReadGroup) :
    Unread (s.groupHealth group) (state.groupReadHealth group) := by
  rcases h with rfl | ⟨hdata, hstartup⟩
  · rcases hdata : s.data with _ | data
    · exact .inr (.inl (by simp [RoomCoordinator.state, hdata, emptyRoomState]))
    · exact .inl (by simp [RoomCoordinator.state, RoomCoordinator.groupHealth, hdata])
  · exact .inl (by simp [RoomCoordinator.groupHealth, hdata, hstartup])

theorem Source.unread (h : s.Source label state finished) (hnot : label.reads group = false) :
    Unread (s.groupHealth group) (state.groupReadHealth group) := by
  rcases h with ⟨-, h⟩ | ⟨-, previous, reply, replied, polled, h, hreply, -, -, rfl⟩
  · exact h.unread group
  · obtain ⟨-, readback, hstate⟩ := (s.atClock replied).applyReply_frame previous polled reply
    rw [hstate]
    rw [Label.reads, hreply] at hnot
    exact (h.unread group).trans (PlanReply.unread hnot)

/-- What a step does to the health of the groups: without a reply that reads a group, its
health is what it was, or failed, or forgotten. -/
structure HealthStep (s : RoomCoordinator) (label : Label) (t : RoomCoordinator) : Prop where
  clock : s.clock.monotonic ≤ t.clock.monotonic
  data : s.data.isSome → t.data.isSome
  health : ∀ group, ReadFrom s.clock.monotonic (s.groupHealth group) (t.groupHealth group)
  unread : ∀ group, label.reads group = false →
    Unread (s.groupHealth group) (t.groupHealth group)

theorem HealthStep.of_eq (hclock : s.clock.monotonic ≤ t.clock.monotonic)
    (hdata : t.data = s.data) (hstartup : t.startup = s.startup) : s.HealthStep label t := by
  have hhealth : ∀ group, t.groupHealth group = s.groupHealth group := by
    intro group
    simp only [RoomCoordinator.groupHealth, hdata, hstartup]
  exact ⟨hclock, fun h => hdata ▸ h, fun group => .inl (hhealth group),
    fun group _ => .inl (hhealth group)⟩

theorem Quiet.healthStep (h : s.Quiet t) : s.HealthStep label t :=
  .of_eq h.clock h.data h.startup

/-- The end of a write changes no health. -/
theorem finishWrite_frame (s : RoomCoordinator) (write : PreparedWrite)
    (outcome : WriteOutcome) :
    (s.finishWrite write outcome).clock = s.clock ∧ (s.finishWrite write outcome).data = s.data ∧
      (s.finishWrite write outcome).startup = s.startup := by
  unfold finishWrite
  split
  · obtain ⟨-, hclock, hdata, hstartup, -⟩ := accept_frame s write
    exact ⟨hclock, hdata, hstartup⟩
  · obtain ⟨-, hclock, hdata, hstartup, -⟩ := fail_frame s write _
    exact ⟨hclock, hdata, hstartup⟩
  · obtain ⟨-, hclock, hdata, hstartup, -⟩ := cancel_frame s write
    exact ⟨hclock, hdata, hstartup⟩

theorem Judged.healthStep (h : s.Judged label state t) : s.HealthStep label t := by
  refine ⟨h.clock, fun hsome => ?_, h.health, fun group hnot => ?_⟩
  · rcases h.data with hdata | ⟨-, hdata, -⟩
    · rw [hdata]
      rfl
    · rw [hdata] at hsome
      cases hsome
  · rcases h.data with hdata | ⟨hdata, hnone, rfl⟩
    · have hhealth : t.groupHealth group = state.groupReadHealth group := by
        simp [RoomCoordinator.groupHealth, hdata]
      exact hhealth ▸ h.source.unread hnot
    · rcases h.startup with hstartup | hstartup
      · exact .inr (.inl (by simp [RoomCoordinator.groupHealth, hdata, hstartup, emptyRoomState]))
      · exact .inl (by simp [RoomCoordinator.groupHealth, hdata, hnone, hstartup])

theorem StartupOnly.healthStep (h : s.StartupOnly label t) : s.HealthStep label t := by
  refine ⟨h.clock, fun hsome => h.data ▸ hsome, h.health, fun group hnot => ?_⟩
  rcases hdata : s.data with _ | data
  · rcases hstartup : t.startup with _ | state
    · refine .inr (.inl ?_)
      simp [RoomCoordinator.groupHealth, h.data, hdata, hstartup, emptyRoomState]
    · have hhealth : t.groupHealth group = state.groupReadHealth group := by
        simp [RoomCoordinator.groupHealth, h.data, hdata, hstartup]
      exact hhealth ▸ (h.startupSource state hstartup).unread hnot
  · exact .inl (by simp [RoomCoordinator.groupHealth, h.data, hdata])

/-- **The health of the groups after a step.** -/
theorem healthStep (h : s.step label = some t) : s.HealthStep label t := by
  rcases step_cases h with ⟨command, outcome, finished, u, write, rfl, hle, hprepare, -, rfl⟩ |
    ⟨-, ⟨-, hquiet⟩ | ⟨state, hjudged⟩ | ⟨state, u, write, hjudged, -, rfl⟩ | hstartup⟩
  · have hsound := s.sound_prepare command
    rw [hprepare] at hsound
    have hquiet := hsound.1.atClock hle
    obtain ⟨hclock, hdata, hkept⟩ := finishWrite_frame (u.atClock finished) write outcome
    exact .of_eq (hquiet.clock.trans (le_of_eq (congrArg _ hclock.symm)))
      (hdata.trans hquiet.data) (hkept.trans hquiet.startup)
  · exact hquiet.healthStep
  · exact hjudged.healthStep
  · obtain ⟨-, hclock, hdata, hkept, -⟩ := finishReadBack_frame u write
    have hsame : ∀ group, (u.finishReadBack write).groupHealth group = u.groupHealth group := by
      intro group
      simp only [RoomCoordinator.groupHealth, hdata, hkept]
    have hstep := hjudged.healthStep
    exact ⟨hstep.clock.trans (le_of_eq (congrArg _ hclock.symm)), fun hsome =>
      hdata ▸ hstep.data hsome, fun group => hsame group ▸ hstep.health group,
      fun group hnot => hsame group ▸ hstep.unread group hnot⟩
  · exact hstartup.healthStep

/-- A state that a reply with the status map gives has a value. -/
theorem hasData_of_reads {reply : PlanReply} {replied : Clock} {polled : Bool}
    {previous : RoomState} (h : reply.reads .flowControl = true) :
    ((s.atClock replied).applyReply previous polled reply).2.hasData = true := by
  obtain ⟨-, readback, hstate⟩ := (s.atClock replied).applyReply_frame previous polled reply
  have hsome : (reply.state s.room replied previous).intensiveActive.isSome = true := by
    rcases reply with ⟨_ | error | ⟨flow, block | _ | _⟩, target⟩ | _ | _ | read
    all_goals try cases h
    simp only [PlanReply.state, AirflowRead.apply, BlockRead.read?]
    unfold applyModeRead
    dsimp only
    generalize ((some block).map decodeSensorSubcode).any modeStatusReportsIntensive = hidden
    cases hidden <;> rfl
  rw [hstate]
  simp [RoomState.hasData, hsome, RoomCoordinator.atClock]

/-- **A status map without the airflow leaves the airflow group unread**: what is known of it is
that it was never read, or that its last read failed. -/
theorem unread_of_airflow_missing (h : s.step label = some t)
    (hreads : label.reads .flowControl = true) (hflow : label.reads .flow = false)
    (hskips : ∀ reply ∈ label.reply, reply.1.skipsAirflow = true →
      Unread emptyReadHealth (s.groupHealth .flow)) :
    Unread emptyReadHealth (t.groupHealth .flow) := by
  -- The state that the replies give knows no airflow that was read since.
  have hsource : ∀ {state finished}, s.Source label state finished → state.hasData = true ∧
      Unread emptyReadHealth (state.groupReadHealth .flow) := by
    rintro state finished (⟨hnone, -⟩ | ⟨-, previous, reply, replied, polled, hprevious, hreply,
      -, -, rfl⟩)
    · rw [Label.reads, hnone] at hreads
      cases hreads
    · rw [Label.reads, hreply] at hreads hflow
      refine ⟨hasData_of_reads hreads, ?_⟩
      obtain ⟨-, readback, hstate⟩ := (s.atClock replied).applyReply_frame previous polled reply
      rw [hstate]
      rcases PlanReply.reads_flow_or_unread s.room replied previous hreads
        with hread | hskip | herror
      · exact absurd hread (by simpa using hflow)
      · exact (hskips _ hreply hskip).trans
          ((hprevious.unread .flow).trans (PlanReply.unread hflow))
      · exact .inr (.inr herror)
  have hjudged : ∀ {state u}, s.Judged label state u →
      Unread emptyReadHealth (u.groupHealth .flow) := by
    intro state u hjudged
    obtain ⟨hdata, hunread⟩ := hsource hjudged.source
    rcases hjudged.data with hsome | ⟨-, -, rfl⟩
    · simpa [RoomCoordinator.groupHealth, hsome] using hunread
    · cases hdata
  rcases step_cases h with ⟨command, outcome, finished, u, write, rfl, -⟩ |
    ⟨-, ⟨hnone, -⟩ | ⟨state, hstate⟩ | ⟨state, u, write, hstate, -, rfl⟩ | hstartup⟩
  · cases hreads
  · rw [Label.reads, hnone] at hreads
    cases hreads
  · exact hjudged hstate
  · obtain ⟨-, -, hdata, hkept, -⟩ := finishReadBack_frame u write
    simpa only [RoomCoordinator.groupHealth, hdata, hkept] using hjudged hstate
  · -- A poll that leaves no value has not read the map.
    have hno : ∀ state ∈ t.startup, s.Source label state t.clock → False := by
      intro state hmem hstate
      have hvalue := (hsource hstate).1
      rw [hstartup.startup state hmem] at hvalue
      cases hvalue
    rcases hdata : s.data with _ | data
    · rcases hstart : t.startup with _ | state
      · refine .inl ?_
        simp [RoomCoordinator.groupHealth, hstartup.data, hdata, hstart, emptyRoomState]
      · exact (hno state hstart (hstartup.startupSource state hstart)).elim
    · obtain ⟨state, hmem, hstate⟩ := hstartup.source (by rw [hdata]; rfl)
      exact (hno state hmem hstate).elim

/-! ### What a step does to the marker -/

/-- Whether a step cancels a flow-control write while it is sent. -/
def interrupts (s : RoomCoordinator) (label : Label) : Bool :=
  (s.writeOf label).any fun write =>
    write.2 = .cancelled ∧ writeGroup write.1.writeKey = .flowControl

/-- The marker is what it was, or what a query made of it. -/
def MarkerKept (s t : RoomCoordinator) : Prop :=
  t.uncertainFlow = s.uncertainFlow ∨ t.uncertainFlow = s.settleUncertainFlow.uncertainFlow

end RoomCoordinator

/-- The marker in the state that the preparation of a command leaves. -/
def Preparation.MarkerKept (s : RoomCoordinator) : Preparation → Prop
  | .refused _ t | .done t | .send t _ => s.MarkerKept t

namespace RoomCoordinator

@[simp] theorem clearOverlay_uncertainFlow (key : WriteKey) :
    (s.clearOverlay key).uncertainFlow = s.uncertainFlow := by
  cases key <;> rfl

theorem foldl_clearOverlay_uncertainFlow (keys : List WriteKey) (s : RoomCoordinator) :
    (keys.foldl clearOverlay s).uncertainFlow = s.uncertainFlow := by
  induction keys generalizing s with
  | nil => rfl
  | cons key keys ih => rw [List.foldl_cons, ih, clearOverlay_uncertainFlow]

@[simp] theorem prepareSetLevel_uncertainFlow (level : ℤ) :
    (s.prepareSetLevel level).1.uncertainFlow = s.uncertainFlow := by
  unfold prepareSetLevel
  dsimp only
  split <;> simp

@[simp] theorem prepareSetUnbalancedLevels_uncertainFlow (supply extract : ℤ) :
    (s.prepareSetUnbalancedLevels supply extract).1.uncertainFlow = s.uncertainFlow :=
  clearOverlay_uncertainFlow _

@[simp] theorem leaveOverlays_uncertainFlow (mode : OperationMode) :
    (s.leaveOverlays mode).uncertainFlow = s.uncertainFlow := by
  unfold leaveOverlays
  split <;> simp

theorem markerKept_prepareSetDirectionLevel (s : RoomCoordinator) (direction : Direction)
    (level : ℤ) : (s.prepareSetDirectionLevel direction level).MarkerKept s := by
  unfold prepareSetDirectionLevel
  dsimp only
  split
  · exact .inr rfl
  · split
    · exact .inr rfl
    · exact .inr (prepareSetUnbalancedLevels_uncertainFlow _ _)
    · exact .inr (prepareSetLevel_uncertainFlow _)

theorem markerKept_prepareSetOperationMode (s : RoomCoordinator) (mode : OperationMode) :
    (s.prepareSetOperationMode mode).MarkerKept s := by
  rcases s.prepareSetOperationMode_cases mode with ⟨error, h⟩ | h | ⟨sent, -, -, -, h⟩ <;> rw [h]
  · exact .inr rfl
  · exact .inr rfl
  · exact .inr (leaveOverlays_uncertainFlow sent)

theorem markerKept_prepareClearPresetMode (s : RoomCoordinator) :
    s.prepareClearPresetMode.MarkerKept s := by
  rcases s.prepareClearPresetMode_cases with h | ⟨preset, -, ⟨error, t, hmode, h⟩ |
    ⟨t, hmode, h⟩ | ⟨t, write, hmode, h⟩⟩ <;> rw [h]
  · exact .inl (clearOverlay_uncertainFlow _)
  all_goals
    have hkept := s.markerKept_prepareSetOperationMode (leavePresetMode preset)
    rw [hmode] at hkept
  · exact hkept
  · exact hkept.imp (clearOverlay_uncertainFlow _).trans (clearOverlay_uncertainFlow _).trans
  · exact hkept

/-- **A command drops the marker as a query would, or leaves it.** -/
theorem markerKept_prepare (s : RoomCoordinator) (command : Command) :
    (s.prepare command).MarkerKept s := by
  cases command with
  | setLevel level => exact .inl (prepareSetLevel_uncertainFlow level)
  | setUnbalancedLevels supply extract =>
    exact .inl (prepareSetUnbalancedLevels_uncertainFlow supply extract)
  | setDirectionLevel direction level => exact s.markerKept_prepareSetDirectionLevel direction level
  | setOperationMode mode => exact s.markerKept_prepareSetOperationMode mode
  | setPresetMode preset => exact .inl rfl
  | clearPresetMode => exact s.markerKept_prepareClearPresetMode
  | activateIntensive => exact .inl rfl
  | deactivateIntensive => exact .inl rfl
  | setControlSetting key value =>
    simp only [prepare]
    split
    · exact .inl rfl
    · exact .inl rfl

/-- **The end of a write marks the unit exactly if a flow-control write was cancelled.** -/
theorem finishWrite_uncertainFlow (s : RoomCoordinator) (write : PreparedWrite)
    (outcome : WriteOutcome) :
    (s.finishWrite write outcome).uncertainFlow =
      if write.outcome s.room outcome = .cancelled ∧ writeGroup write.writeKey = .flowControl then
        some (s.groupHealth .flowControl, s.groupHealth .flow)
      else s.uncertainFlow := by
  unfold finishWrite
  rcases write.outcome s.room outcome with _ | error | _
  · rw [if_neg (by simp)]
    simp only [accept, applyLevelFallback, setOverlay]
    split <;> split <;> simp [foldl_clearOverlay_uncertainFlow]
  · rw [if_neg (by simp)]
    simp [fail]
  · by_cases hgroup : writeGroup write.writeKey = .flowControl
    · simp [cancel, hgroup, baseline]
    · simp [cancel, hgroup]

theorem finishPoll_uncertainFlow (s : RoomCoordinator) (entry : Option RoomState)
    (others : Others) : (s.finishPoll entry others).uncertainFlow = s.uncertainFlow := by
  unfold finishPoll
  split
  · split <;> rfl
  · rfl

/-- **What a step does to the marker**: a cancelled flow-control write sets it, and every
other step leaves it or drops it as a query would. -/
theorem uncertainFlow_step (h : s.step label = some t) :
    (s.interrupts label = true ∧
      t.uncertainFlow = some (s.groupHealth .flowControl, s.groupHealth .flow)) ∨
    (s.interrupts label = false ∧ s.MarkerKept t) := by
  cases label with
  | elapse clock =>
    obtain ⟨-, rfl⟩ : s.clock.le clock = true ∧ s.atClock clock = t := by simpa [step] using h
    exact .inr ⟨rfl, .inl rfl⟩
  | expire overlay =>
    obtain rfl : s.clearOverlay overlay.writeKey = t := by simpa [step] using h
    exact .inr ⟨rfl, .inl (clearOverlay_uncertainFlow _)⟩
  | queryLevels =>
    obtain rfl : s.settleUncertainFlow = t := by simpa [step] using h
    exact .inr ⟨rfl, .inr rfl⟩
  | command command outcome finished =>
    obtain ⟨⟨-, hle⟩, h⟩ := Option.ite_none_right_eq_some.mp h
    have hkept := s.markerKept_prepare command
    have hsound := s.sound_prepare command
    rcases hprepare : s.prepare command with ⟨error, u⟩ | u | ⟨u, write⟩
    all_goals
      rw [hprepare] at h hkept hsound
      cases h
    · exact .inr ⟨by simp [interrupts, writeOf, hprepare], hkept⟩
    · exact .inr ⟨by simp [interrupts, writeOf, hprepare], hkept⟩
    · -- Only a write that was sent can be interrupted, and it marks the health before it.
      have hquiet := hsound.1.atClock hle
      have hroom : (u.atClock finished).room = s.room := hquiet.room
      have hsame : s.interrupts (.command command outcome finished) =
          decide (write.outcome (u.atClock finished).room outcome = .cancelled ∧
            writeGroup write.writeKey = .flowControl) := by
        simp [interrupts, writeOf, hprepare, hroom]
      have hflow := finishWrite_uncertainFlow (u.atClock finished) write outcome
      rw [hsame]
      split at hflow
      · rename_i hcancelled
        rw [hquiet.groupHealth, hquiet.groupHealth] at hflow
        exact .inl ⟨decide_eq_true hcancelled, hflow⟩
      · rename_i hnot
        exact .inr ⟨decide_eq_false hnot, hkept.imp hflow.trans hflow.trans⟩
  | readBack reply replied finished =>
    obtain ⟨-, h⟩ := Option.ite_none_right_eq_some.mp h
    rcases hphase : s.phase with _ | write | write
    all_goals simp only [hphase] at h
    · cases h
    · obtain ⟨-, h⟩ := Option.ite_none_right_eq_some.mp h
      cases h
      refine .inr ⟨rfl, .inl ?_⟩
      unfold finishReadBack
      dsimp only
      split <;> rfl
    · obtain ⟨-, h⟩ := Option.ite_none_right_eq_some.mp h
      cases h
      exact .inr ⟨rfl, .inl rfl⟩
  | cancelReadBack =>
    obtain ⟨-, h⟩ := Option.ite_none_left_eq_some.mp h
    cases h
    exact .inr ⟨rfl, .inl rfl⟩
  | poll reply others replied finished =>
    obtain ⟨-, h⟩ := Option.ite_none_right_eq_some.mp h
    cases h
    exact .inr ⟨rfl, .inl (finishPoll_uncertainFlow _ _ _)⟩
  | otherPoll others finished =>
    obtain ⟨-, h⟩ := Option.ite_none_right_eq_some.mp h
    cases h
    exact .inr ⟨rfl, .inl (finishPoll_uncertainFlow _ _ _)⟩
  | otherReadBack finished =>
    obtain ⟨-, h⟩ := Option.ite_none_right_eq_some.mp h
    refine .inr ⟨rfl, .inl ?_⟩
    split at h <;> cases h <;> rfl

end RoomCoordinator

/-! ### The record of a run -/

/-- What a run says about interrupted flow-control writes. -/
structure FlowRecord where
  /-- A flow-control write has been cancelled while it was sent. -/
  interrupted : Bool := false
  /-- The groups that have been read successfully since the last such write. -/
  readSince : ReadGroup → Bool := fun _ => false

/-- The record after a step. -/
def recordFlow (s : RoomCoordinator) (label : Label) (record : FlowRecord) : FlowRecord :=
  if s.interrupts label then { interrupted := true }
  else { record with readSince := fun group => record.readSince group || label.reads group }

/-- The coordinator with the interrupted writes on record. -/
abbrev FlowStep := recorded RoomCoordinator.step recordFlow

/-- A run starts before the first poll and the first command. -/
def FlowStart (s : RoomCoordinator × FlowRecord) : Prop := s.1.Started ∧ s.2 = {}

/-- Since the last interrupted flow-control write there was a successful read of the group that
the levels come from: of the mode status group while it is fresh, and of the airflow group while
that one is, and at any rate of one of them. -/
def FlowRecord.LevelsRead (record : FlowRecord) (s : RoomCoordinator) : Prop :=
  record.interrupted = true →
    (∀ group ∈ [ReadGroup.flowControl, .flow], groupFresh s.clock s.state group = true →
      record.readSince group = true) ∧
    (record.readSince .flowControl = true ∨ record.readSince .flow = true)

/-- The same for levels that come from the mode status group or else from the airflow group,
whether or not that one is fresh. -/
def FlowRecord.SourceRead (record : FlowRecord) (s : RoomCoordinator) : Prop :=
  record.interrupted = true →
    if groupFresh s.clock s.state .flowControl = true then record.readSince .flowControl = true
    else record.readSince .flow = true

/-- A reply that shows the status map leaves out the block of the airflow only while that block
is backed off, which it is after a read of it has failed. -/
def SkipsRecorded (s : RoomCoordinator × FlowRecord) (label : Label) : Prop :=
  ∀ reply ∈ label.reply, reply.1.skipsAirflow = true →
    Unread emptyReadHealth (s.1.groupHealth .flow)

/-- The commands that build on the known levels of a unit. -/
def Command.buildsOnLevels : Command → Bool
  | .setDirectionLevel _ _ | .setOperationMode _ => true
  | _ => false

/-! ### The invariant -/

/-- Since the last interrupted flow-control write the mode status group was read or, while that
group is not fresh, the airflow group. -/
def FlowRecord.ReportedSince (record : FlowRecord) (s : RoomCoordinator) : Prop :=
  record.readSince .flowControl = true ∨
    (groupFresh s.clock s.state .flowControl = false ∧ record.readSince .flow = true)

/-- **What the marker stands for**, while it is there and once it is gone. -/
structure FlowInvariant (s : RoomCoordinator) (record : FlowRecord) : Prop where
  recorded : ∀ group, Recorded (s.groupHealth group)
  /-- A group that was not read has the health it had when the marker was set, or lost it. -/
  marked : ∀ baselines ∈ s.uncertainFlow,
    (record.readSince .flowControl = false →
        Unread baselines.1 (s.groupHealth .flowControl)) ∧
      (record.readSince .flow = false → Unread baselines.2 (s.groupHealth .flow))
  settled : s.uncertainFlow = none → record.interrupted = true →
    s.data.isSome = true ∧ record.ReportedSince s
  /-- Where only the status map was read, the airflow has failed to be read. -/
  failed : record.readSince .flowControl = true → record.readSince .flow = false →
    Unread emptyReadHealth (s.groupHealth .flow)

variable {record : FlowRecord}

/-- A fresh group that is not at the health of the marker has been read since. -/
theorem readSince_of_unread {baseline : ReadHealth} (hdata : s.data = some state)
    (h : record.readSince group = false → Unread baseline (s.groupHealth group))
    (hsince : readSince clock state group baseline = true) : record.readSince group = true := by
  by_contra hnot
  have hhealth : s.groupHealth group = state.groupReadHealth group := by
    simp [RoomCoordinator.groupHealth, hdata]
  have hunread := h (Bool.eq_false_of_not_eq_true hnot)
  rw [hhealth] at hunread
  exact ne_of_readSince hsince (eq_of_unread hunread (groupFresh_of_readSince hsince))

/-- **A unit whose levels are certain has had them read** since the last interruption. -/
theorem FlowInvariant.certain (h : FlowInvariant s record)
    (hcertain : s.flowWriteUncertain = false) (hinterrupted : record.interrupted = true) :
    s.data.isSome = true ∧ record.ReportedSince s := by
  rcases hmark : s.uncertainFlow with _ | baselines
  · exact h.settled hmark hinterrupted
  · obtain ⟨hcontrol, hflow⟩ := h.marked baselines hmark
    rcases hdata : s.data with _ | state
    · simp [flowWriteUncertain, hmark, hdata] at hcertain
    · have hreported : levelsReportedSince s.clock state baselines = true := by
        simpa [flowWriteUncertain, hmark, hdata] using hcertain
      have hstate : s.state = state := by simp [RoomCoordinator.state, hdata]
      refine ⟨rfl, ?_⟩
      rw [FlowRecord.ReportedSince, hstate]
      rcases Bool.or_eq_true_iff.mp hreported with hsince | hsince
      · exact .inl (readSince_of_unread hdata hcontrol hsince)
      · obtain ⟨hstale, hsince⟩ := Bool.and_eq_true_iff.mp hsince
        exact .inr ⟨by simpa using hstale, readSince_of_unread hdata hflow hsince⟩

/-- **A unit whose levels are certain has had the group they come from read** since the last
interruption. -/
theorem FlowInvariant.levelsRead (h : FlowInvariant s record)
    (hcertain : s.flowWriteUncertain = false) : record.LevelsRead s := by
  intro hinterrupted
  obtain ⟨hdata, hreported⟩ := h.certain hcertain hinterrupted
  obtain ⟨state, hdata⟩ := Option.isSome_iff_exists.mp hdata
  have hstate : s.state = state := by simp [RoomCoordinator.state, hdata]
  refine ⟨fun group hgroup hfresh => ?_, hreported.imp id And.right⟩
  simp only [List.mem_cons, List.not_mem_nil, or_false] at hgroup
  rcases hgroup with rfl | rfl
  · exact hreported.resolve_right fun hstale => by
      rw [hfresh] at hstale
      cases hstale.1
  · rcases hreported with hcontrol | ⟨-, hflow⟩
    · -- An airflow that was not read with the map has failed, and is not fresh.
      by_contra hnot
      have hunread := h.failed hcontrol (Bool.eq_false_of_not_eq_true hnot)
      rw [hstate] at hfresh
      simp only [RoomCoordinator.groupHealth, hdata, Option.some_or, Option.getD_some] at hunread
      have hempty := eq_of_unread hunread hfresh
      simp [groupFresh, hempty, emptyReadHealth] at hfresh
    · exact hflow

/-- What was read since the interruption stays read, as long as no write is interrupted. -/
theorem FlowRecord.ReportedSince.step (h : record.ReportedSince s) (hstep : s.HealthStep label t)
    (hrecorded : ∀ group, Recorded (s.groupHealth group)) (hdata : s.data.isSome = true)
    (hnot : s.interrupts label = false) : (recordFlow s label record).ReportedSince t := by
  have hrecord : recordFlow s label record =
      { record with readSince := fun group => record.readSince group || label.reads group } := by
    simp [recordFlow, hnot]
  rw [hrecord, FlowRecord.ReportedSince]
  obtain ⟨state, hstate⟩ := Option.isSome_iff_exists.mp hdata
  obtain ⟨later, hlater⟩ := Option.isSome_iff_exists.mp (hstep.data hdata)
  have hs : s.state = state := by simp [RoomCoordinator.state, hstate]
  have ht : t.state = later := by simp [RoomCoordinator.state, hlater]
  dsimp only
  rcases h with hcontrol | ⟨hstale, hflow⟩
  · exact .inl (by rw [hcontrol, Bool.true_or])
  · by_cases hread : label.reads .flowControl = true
    · exact .inl (by rw [hread, Bool.or_true])
    · refine .inr ⟨?_, by rw [hflow, Bool.true_or]⟩
      have hunread := hstep.unread .flowControl (Bool.eq_false_of_not_eq_true hread)
      have hwas := hrecorded .flowControl
      simp only [RoomCoordinator.groupHealth, hstate, hlater, Option.some_or, Option.getD_some]
        at hunread hwas
      rw [ht]
      exact not_fresh_of_unread hunread hwas hstep.clock (hs ▸ hstale)

/-- A group that was not read before nor during a step is still unread. -/
theorem unread_recordFlow {baseline : ReadHealth} (hstep : s.HealthStep label t)
    (hnot : s.interrupts label = false)
    (h : record.readSince group = false → Unread baseline (s.groupHealth group))
    (hread : (recordFlow s label record).readSince group = false) :
    Unread baseline (t.groupHealth group) := by
  simp only [recordFlow, hnot, Bool.false_eq_true, if_false, Bool.or_eq_false_iff] at hread
  exact (h hread.1).trans (hstep.unread group hread.2)

/-- **The step lemma.** -/
theorem FlowInvariant.step (h : FlowInvariant s record) (hskips : SkipsRecorded (s, record) label)
    (hs : s.step label = some t) : FlowInvariant t (recordFlow s label record) := by
  have hstep := healthStep hs
  have hrecorded : ∀ group, Recorded (t.groupHealth group) :=
    fun group => (h.recorded group).readFrom (hstep.health group)
  rcases uncertainFlow_step hs with ⟨hinterrupts, hmark⟩ | ⟨hnot, hkept⟩
  · -- The baselines of the new marker are the health before the step.
    have hreads : label.reads = fun _ => false := by
      cases label <;> first | rfl | cases hinterrupts
    refine ⟨hrecorded, fun baselines hmem => ?_, fun hnone => ?_, fun hcontrol => ?_⟩
    · rw [hmark] at hmem
      cases hmem
      exact ⟨fun _ => hstep.unread _ (congrFun hreads _),
        fun _ => hstep.unread _ (congrFun hreads _)⟩
    · rw [hmark] at hnone
      cases hnone
    · simp [recordFlow, hinterrupts] at hcontrol
  · have hmarked : ∀ baselines ∈ s.uncertainFlow,
        ((recordFlow s label record).readSince .flowControl = false →
            Unread baselines.1 (t.groupHealth .flowControl)) ∧
          ((recordFlow s label record).readSince .flow = false →
            Unread baselines.2 (t.groupHealth .flow)) := fun baselines hmem =>
      ⟨unread_recordFlow hstep hnot (h.marked baselines hmem).1,
        unread_recordFlow hstep hnot (h.marked baselines hmem).2⟩
    have hinterrupted : (recordFlow s label record).interrupted = record.interrupted := by
      simp [recordFlow, hnot]
    refine ⟨hrecorded, fun baselines hmem => hmarked baselines ?_, fun hnone hsince => ?_,
      fun hcontrol hflow => ?_⟩
    · rcases hkept with hkept | hkept
      · exact hkept ▸ hmem
      · rw [hkept] at hmem
        simp only [settleUncertainFlow] at hmem
        split at hmem
        · exact hmem
        · cases hmem
    · have hcertain : s.flowWriteUncertain = false := by
        rcases hkept with hkept | hkept
        · simp [flowWriteUncertain, hkept.symm.trans hnone]
        · rw [hkept] at hnone
          simp only [settleUncertainFlow] at hnone
          split at hnone
          · simp [flowWriteUncertain, hnone]
          · rename_i hcertain
            exact Bool.eq_false_of_not_eq_true hcertain
      obtain ⟨hdata, hread⟩ := h.certain hcertain (hinterrupted ▸ hsince)
      exact ⟨hstep.data hdata, hread.step hstep h.recorded hdata hnot⟩
    · simp only [recordFlow, hnot, Bool.false_eq_true, if_false, Bool.or_eq_false_iff,
        Bool.or_eq_true] at hcontrol hflow
      by_cases hread : label.reads .flowControl = true
      · exact unread_of_airflow_missing hs hread hflow.2 hskips
      · exact (h.failed (hcontrol.resolve_right hread) hflow.1).trans (hstep.unread _ hflow.2)

end Steps

/-! ### Runs -/

/-- The invariant holds in every run. -/
theorem flowInvariant_of_reach {s : RoomCoordinator × FlowRecord}
    (h : Reach FlowStep SkipsRecorded FlowStart s) : FlowInvariant s.1 s.2 := by
  refine h.invariant (P := fun s => FlowInvariant s.1 s.2) ?_ ?_
  · rintro ⟨_, _⟩ ⟨⟨room, clock, rfl⟩, rfl⟩
    exact ⟨fun group => .inl (.inl rfl), by rintro _ ⟨⟩, by rintro _ ⟨⟩, by rintro ⟨⟩⟩
  · intro s label t hinv hskips hstep
    obtain ⟨hs, hrecord⟩ := recorded_eq_some.mp hstep
    rw [hrecord]
    exact FlowInvariant.step hinv hskips hs

/-- A query does not change the answer to the next one. -/
theorem flowWriteUncertain_settleUncertainFlow (s : RoomCoordinator) :
    s.settleUncertainFlow.flowWriteUncertain = s.flowWriteUncertain := by
  by_cases huncertain : s.flowWriteUncertain = true
  · have hsame : s.settleUncertainFlow = s := by simp [settleUncertainFlow, huncertain]
    rw [hsame]
  · have hnone : s.settleUncertainFlow.uncertainFlow = none := if_neg huncertain
    rw [flowWriteUncertain, hnone]
    exact (Bool.eq_false_of_not_eq_true huncertain).symm

/-- While the levels are uncertain, the commands that build on them are refused. -/
theorem prepare_of_flowWriteUncertain {s : RoomCoordinator} {command : Command}
    (huncertain : s.flowWriteUncertain = true) (hbuilds : command.buildsOnLevels = true) :
    ∃ u, s.prepare command = .refused (airflowUnknown s.room) u := by
  have hsettled : s.settleUncertainFlow.flowWriteUncertain = true := by
    rwa [flowWriteUncertain_settleUncertainFlow]
  cases command with
  | setDirectionLevel direction level =>
    exact ⟨_, by simp only [prepare, prepareSetDirectionLevel, hsettled, if_true]; rfl⟩
  | setOperationMode mode =>
    exact ⟨_, by simp only [prepare, prepareSetOperationMode, hsettled, if_true]; rfl⟩
  | _ => cases hbuilds

/-- **No command is planned from levels older than an interrupted write.** Whenever a
direction or an operating-mode command sends registers, the group its levels come from has
been read since the last interrupted flow-control write; otherwise it is refused with
`airflow_unknown`, and nothing is sent. -/
theorem levelsRead_of_reach {s : RoomCoordinator × FlowRecord}
    (h : Reach FlowStep SkipsRecorded FlowStart s) {command : Command}
    (hbuilds : command.buildsOnLevels = true) :
    (∀ u write, s.1.prepare command = .send u write → s.2.LevelsRead s.1) ∧
      (¬ s.2.LevelsRead s.1 →
        (∃ u, s.1.prepare command = .refused (airflowUnknown s.1.room) u) ∧
          ∀ outcome finished, s.1.writeOf (.command command outcome finished) = none) := by
  have hrefused : ¬ s.2.LevelsRead s.1 →
      ∃ u, s.1.prepare command = .refused (airflowUnknown s.1.room) u := by
    intro hnot
    refine prepare_of_flowWriteUncertain (Bool.eq_true_of_not_eq_false fun hcertain => ?_) hbuilds
    exact hnot ((flowInvariant_of_reach h).levelsRead hcertain)
  refine ⟨fun u write hsend => ?_, fun hnot => ?_⟩
  · by_contra hnot
    obtain ⟨v, hrefuse⟩ := hrefused hnot
    rw [hsend] at hrefuse
    cases hrefuse
  · obtain ⟨u, hrefuse⟩ := hrefused hnot
    exact ⟨⟨u, hrefuse⟩, fun outcome finished => by simp [writeOf, hrefuse]⟩

/-- Whether a command sends something. -/
def Preparation.sends : Preparation → Bool
  | .send _ _ => true
  | .refused _ _ | .done _ => false

instance (s : RoomCoordinator × FlowRecord) : DecidablePred (SkipsRecorded s) :=
  fun label => inferInstanceAs (Decidable (∀ _ ∈ label.reply, _ → _ ∨ _ ∨ _))

/-- A reply with the airflow of a unit that refuses its status map. -/
def mapRefused : AirflowRead :=
  .blocks (.values ⟨45, 45⟩) (.failed "Illegal data address" false)

/-- A reply with the status map of a unit that refuses its airflow. -/
def airflowRefused : AirflowRead :=
  .blocks (.failed "Illegal data address" false) (.values ⟨modeManual, 82, 82⟩)

/-- A reply of a unit that refuses both. -/
def bothRefused : AirflowRead :=
  .blocks (.failed "Illegal data address" false) (.failed "Illegal data address" false)

/-- A unit is read, a fan command is cancelled while it is sent, and the unit is read again,
which finds its airflow only. -/
def readAfterInterruption : List Label :=
  [.poll (.airflow manualRead .failed) ⟨false, false⟩ (atSecond 1) (atSecond 1),
    .command (.setLevel 60) .cancelled (atSecond 2),
    .poll (.airflow mapRefused .failed) ⟨false, false⟩ (atSecond 11) (atSecond 11)]

theorem levelsRead_of_reach_readAgain :
    (∃ s, run FlowStep (readAfterInterruption.take 2) (sampleStart, {}) = some s ∧
      ∃ u, s.1.prepare (.setOperationMode .manual) = .refused (airflowUnknown s.1.room) u) ∧
    ∃ s, run FlowStep readAfterInterruption (sampleStart, {}) = some s ∧
      s.2.interrupted = true ∧ s.2.LevelsRead s.1 := by
  have hstart : Reach FlowStep SkipsRecorded FlowStart (sampleStart, {}) :=
    .start ⟨sampleStart_started, rfl⟩
  constructor
  · obtain ⟨s, hrun, hreach, hs⟩ := hstart.exists_of_run (readAfterInterruption.take 2)
      (fun s => s.2.interrupted && !s.2.readSince .flowControl && !s.2.readSince .flow)
      (by decide +kernel) (by decide +kernel)
    simp only [Bool.and_eq_true, Bool.not_eq_true'] at hs
    obtain ⟨⟨hinterrupted, hcontrol⟩, hflow⟩ := hs
    refine ⟨s, hrun, ((levelsRead_of_reach hreach rfl).2 fun hread => ?_).1⟩
    rcases (hread hinterrupted).2 with h | h
    · rw [hcontrol] at h
      cases h
    · rw [hflow] at h
      cases h
  · obtain ⟨s, hrun, hreach, hs⟩ := hstart.exists_of_run readAfterInterruption
      (fun s => s.2.interrupted && (s.1.prepare (.setDirectionLevel .supply 50)).sends)
      (by decide +kernel) (by decide +kernel)
    obtain ⟨hinterrupted, hsends⟩ := Bool.and_eq_true_iff.mp hs
    refine ⟨s, hrun, hinterrupted, ?_⟩
    rcases hprepare : s.1.prepare (.setDirectionLevel .supply 50) with _ | _ | ⟨u, write⟩
    · rw [hprepare] at hsends
      cases hsends
    · rw [hprepare] at hsends
      cases hsends
    · exact (levelsRead_of_reach hreach rfl).1 u write hprepare

/-- After the interruption the unit refuses its airflow; its status map is read, an entity asks
for the levels, and then the map is refused as well. -/
def mapReadOnce : List Label :=
  [.poll (.airflow manualRead .failed) ⟨false, false⟩ (atSecond 1) (atSecond 1),
    .command (.setLevel 60) .cancelled (atSecond 2),
    .poll (.airflow airflowRefused .failed) ⟨false, false⟩ (atSecond 11) (atSecond 11),
    .queryLevels,
    .poll (.airflow bothRefused .failed) ⟨false, false⟩ (atSecond 21) (atSecond 21)]

/-- **A command is sent without a read of the airflow**, although the status map is not fresh:
neither group is, and the unit reports no levels. -/
theorem levelsRead_refuted :
    ∃ s, run FlowStep mapReadOnce (sampleStart, {}) = some s ∧
      Reach FlowStep SkipsRecorded FlowStart s ∧
      (∃ u write, s.1.prepare (.setDirectionLevel .supply 50) = .send u write) ∧
      ¬ s.2.SourceRead s.1 := by
  have hstart : Reach FlowStep SkipsRecorded FlowStart (sampleStart, {}) :=
    .start ⟨sampleStart_started, rfl⟩
  obtain ⟨s, hrun, hreach, hs⟩ := hstart.exists_of_run mapReadOnce
    (fun s => s.2.interrupted && !s.2.readSince .flow &&
      !groupFresh s.1.clock s.1.state .flowControl &&
      (s.1.prepare (.setDirectionLevel .supply 50)).sends) (by decide +kernel) (by decide +kernel)
  simp only [Bool.and_eq_true, Bool.not_eq_true'] at hs
  obtain ⟨⟨⟨hinterrupted, hflow⟩, hstale⟩, hsends⟩ := hs
  refine ⟨s, hrun, hreach, ?_, fun h => ?_⟩
  · rcases hprepare : s.1.prepare (.setDirectionLevel .supply 50) with _ | _ | ⟨u, write⟩
    · rw [hprepare] at hsends
      cases hsends
    · rw [hprepare] at hsends
      cases hsends
    · exact ⟨u, write, rfl⟩
  · have hread := h hinterrupted
    rw [hstale, if_neg Bool.false_ne_true, hflow] at hread
    cases hread

end MeltemVentilation
