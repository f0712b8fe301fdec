import MeltemVentilation.AlikeRuns

/-!
# The operations of two coordinators at different wall-clock readings

Two coordinators of one unit are alike (`RoomCoordinator.Alike`) when they have polled the same
values, keep the same writes, pending values and markers, and every comparison with a stored
baseline comes out the same. Everything the entities read and everything a command decides
before it writes is then equal, and what the operations leave is alike again: the end of a
write, the judging of a state, and the read of one plan.

Only two things about a read have to be assumed, and both are assumed where they are used. The
first is what the wall times must tell apart (`Told`): a failed read from the health that an
open write was sent at, and a successful mode read from the last one before a fallback. The
second is what the source leaves to the wall clock, whether the last airflow write is still
recent; it decides if the exact target is read or carried forward.
-/

namespace MeltemVentilation

open ReadHealth (Attempted Since ModeSince)

namespace RoomCoordinator

/-! ### Alike coordinators -/

/-- What two coordinators have polled by `now`. -/
structure Polled (now : Monotonic) (s s' : RoomCoordinator) : Prop where
  room : s'.room = s.room
  clock : s'.clock.monotonic = s.clock.monotonic
  time : now ≤ s.clock.monotonic
  data : Option.Rel (RoomState.Alike now) s.data s'.data
  startup : Option.Rel (RoomState.Alike now) s.startup s'.startup
  phase : s'.phase = s.phase

/-- What two coordinators keep of their commands, while the groups have the healths `health`
and `health'`. -/
structure Marked (now : Monotonic) (health health' : ReadGroup → ReadHealth)
    (s s' : RoomCoordinator) : Prop where
  confirmations : WriteConfirmations.Alike now health health' s.confirmations s'.confirmations
  presets : Option.Rel (PendingValue.Alike now health health') s.optimisticPresets
    s'.optimisticPresets
  intensive : Option.Rel (PendingValue.Alike now health health') s.optimisticIntensive
    s'.optimisticIntensive
  levels : Option.Rel (PendingValue.Alike now health health') s.optimisticLevels
    s'.optimisticLevels
  uncertain : Option.Rel (fun marker marker' =>
      Since now (health .flowControl) (health' .flowControl) marker.1 marker'.1 ∧
        Since now (health .flow) (health' .flow) marker.2 marker'.2)
    s.uncertainFlow s'.uncertainFlow
  fallback : Option.Rel (fun fallback fallback' => fallback'.1 = fallback.1 ∧
      ModeSince now (health .flowControl) (health' .flowControl) fallback.2 fallback'.2)
    s.levelFallback s'.levelFallback

/-- **Two coordinators that differ in their wall times only**, in a way that no decision
sees. -/
structure Alike (now : Monotonic) (s s' : RoomCoordinator) : Prop extends Polled now s s' where
  marked : Marked now s.groupHealth s'.groupHealth s s'

section Views

variable {now later : Monotonic} {s s' : RoomCoordinator}
  {clock clock' : Clock}

theorem Polled.mono (h : Polled now s s') (hle : now ≤ later)
    (hlater : later ≤ s.clock.monotonic) : Polled later s s' where
  room := h.room
  clock := h.clock
  time := hlater
  data := rel_mono (fun _ _ halike => halike.mono hle) h.data
  startup := rel_mono (fun _ _ halike => halike.mono hle) h.startup
  phase := h.phase

theorem Polled.state (h : Polled now s s') : RoomState.Alike now s.state s'.state :=
  RoomState.Alike.getD h.data

theorem Polled.groupHealth (h : Polled now s s') (group : ReadGroup) :
    ReadHealth.Alike now (s.groupHealth group) (s'.groupHealth group) := by
  have hcurrent : Option.Rel (RoomState.Alike now) (s.data.or s.startup)
      (s'.data.or s'.startup) := by
    obtain ⟨hnone, hnone'⟩ | ⟨state, state', hsome, hsome', halike⟩ := rel_cases h.data
    · rw [hnone, hnone']
      exact h.startup
    · rw [hsome, hsome']
      exact .some halike
  exact (RoomState.Alike.getD hcurrent).health group

theorem groupHealth_of_data (s : RoomCoordinator) :
    ∀ state ∈ s.data, s.groupHealth = state.groupReadHealth := by
  rintro state hstate
  funext group
  rw [RoomCoordinator.groupHealth, Option.mem_def.mp hstate]
  rfl

/-! ### What the entities read -/

theorem levelsReportedSince_alike {state state' : RoomState}
    {baselines baselines' : ReadHealth × ReadHealth}
    (hstate : RoomState.Alike now state state')
    (hcontrol : Since now (state.groupReadHealth .flowControl) (state'.groupReadHealth .flowControl)
      baselines.1 baselines'.1)
    (hflow : Since now (state.groupReadHealth .flow) (state'.groupReadHealth .flow)
      baselines.2 baselines'.2)
    (hclock : clock'.monotonic = clock.monotonic) :
    levelsReportedSince clock' state' baselines' = levelsReportedSince clock state baselines := by
  unfold levelsReportedSince
  rw [readSince_alike (hstate.health .flowControl) hcontrol hclock,
    readSince_alike (hstate.health .flow) hflow hclock,
    groupFresh_alike (hstate.health .flowControl) hclock]

/-- **Whether the levels are uncertain does not depend on the wall clock.** -/
theorem Alike.flowWriteUncertain (h : Alike now s s') :
    s'.flowWriteUncertain = s.flowWriteUncertain := by
  have hhealth := s.groupHealth_of_data
  have hhealth' := s'.groupHealth_of_data
  have huncertain := h.marked.uncertain
  unfold RoomCoordinator.flowWriteUncertain
  obtain ⟨hnone, hnone'⟩ | ⟨state, state', hsome, hsome', hstate⟩ := rel_cases h.data
  · rw [hnone, hnone']
    obtain ⟨hmark, hmark'⟩ | ⟨marker, marker', hmark, hmark', -⟩ := rel_cases huncertain <;>
      rw [hmark, hmark']
    rfl
  · rw [hhealth _ hsome, hhealth' _ hsome'] at huncertain
    rw [hsome, hsome']
    obtain ⟨hmark, hmark'⟩ | ⟨marker, marker', hmark, hmark', hcontrol, hflow⟩ :=
      rel_cases huncertain <;> rw [hmark, hmark']
    simp only [Option.any_some, levelsReportedSince_alike hstate hcontrol hflow h.clock]

/-- **The fallback of the last fan write does not depend on the wall clock.** -/
theorem Alike.levelWriteFallback (h : Alike now s s') :
    s'.levelWriteFallback = s.levelWriteFallback := by
  have hhealth := s.groupHealth_of_data
  have hhealth' := s'.groupHealth_of_data
  have hfallback := h.marked.fallback
  unfold RoomCoordinator.levelWriteFallback
  obtain ⟨hmark, hmark'⟩ | ⟨fallback, fallback', hmark, hmark', hsame, hsince⟩ :=
    rel_cases hfallback <;> rw [hmark, hmark']
  obtain ⟨marker, baseline⟩ := fallback
  obtain ⟨marker', baseline'⟩ := fallback'
  obtain rfl : marker' = marker := hsame
  dsimp only
  obtain ⟨hnone, hnone'⟩ | ⟨state, state', hsome, hsome', hstate⟩ := rel_cases h.data
  · rw [hnone, hnone']
    rfl
  · rw [hhealth _ hsome, hhealth' _ hsome'] at hsince
    rw [hsome, hsome', Option.any_some, Option.any_some, modeReadSince_alike hstate hsince]

theorem Alike.optimisticPresetMode (h : Alike now s s') :
    s'.optimisticPresetMode = s.optimisticPresetMode := by
  have hconfirmed : (s'.data.bind (·.presetMode)) = s.data.bind (·.presetMode) := by
    obtain ⟨hnone, hnone'⟩ | ⟨state, state', hsome, hsome', ⟨healths, -⟩⟩ := rel_cases h.data
    · rw [hnone, hnone']
    · rw [hsome, hsome']
      rfl
  rw [RoomCoordinator.optimisticPresetMode, RoomCoordinator.optimisticPresetMode, hconfirmed]
  exact active_alike h.data s.groupHealth_of_data s'.groupHealth_of_data h.marked.presets h.clock

theorem Alike.optimisticIntensiveValue (h : Alike now s s') :
    s'.optimisticIntensiveValue = s.optimisticIntensiveValue := by
  have hconfirmed : (s'.data.bind (·.intensiveActive)) = s.data.bind (·.intensiveActive) := by
    obtain ⟨hnone, hnone'⟩ | ⟨state, state', hsome, hsome', ⟨healths, -⟩⟩ := rel_cases h.data
    · rw [hnone, hnone']
    · rw [hsome, hsome']
      rfl
  rw [RoomCoordinator.optimisticIntensiveValue, RoomCoordinator.optimisticIntensiveValue,
    hconfirmed]
  exact active_alike h.data s.groupHealth_of_data s'.groupHealth_of_data h.marked.intensive h.clock

theorem Alike.pendingLevels (h : Alike now s s') : s'.pendingLevels = s.pendingLevels := by
  have hconfirmed : (s'.data.bind fun state => (reportedLevels s'.clock state).1) =
      s.data.bind fun state => (reportedLevels s.clock state).1 := by
    obtain ⟨hnone, hnone'⟩ | ⟨state, state', hsome, hsome', hstate⟩ := rel_cases h.data
    · rw [hnone, hnone']
      rfl
    · rw [hsome, hsome', Option.bind_some, Option.bind_some, reportedLevels_alike hstate h.clock]
  rw [RoomCoordinator.pendingLevels, RoomCoordinator.pendingLevels, hconfirmed]
  exact active_alike h.data s.groupHealth_of_data s'.groupHealth_of_data h.marked.levels h.clock

theorem Alike.resolveLevels (h : Alike now s s') : s'.resolveLevels = s.resolveLevels := by
  have hreported : s'.data.map (reportedLevels s'.clock) = s.data.map (reportedLevels s.clock) := by
    obtain ⟨hnone, hnone'⟩ | ⟨state, state', hsome, hsome', hstate⟩ := rel_cases h.data
    · rw [hnone, hnone']
      rfl
    · rw [hsome, hsome', Option.map_some, Option.map_some, reportedLevels_alike hstate h.clock]
  unfold RoomCoordinator.resolveLevels
  rw [h.flowWriteUncertain, h.pendingLevels, hreported]

theorem Alike.directionLevels (h : Alike now s s') : s'.directionLevels = s.directionLevels := by
  unfold RoomCoordinator.directionLevels
  rw [get_alike h.marked.levels h.clock, h.resolveLevels]

end Views

/-! ### What a command decides before it writes -/

section Commands

variable {now : Monotonic} {s s' : RoomCoordinator}

theorem Alike.clearOverlay (h : Alike now s s') (key : WriteKey) :
    Alike now (s.clearOverlay key) (s'.clearOverlay key) := by
  have hpolled : Polled now (s.clearOverlay key) (s'.clearOverlay key) := by
    cases key <;> exact ⟨h.room, h.clock, h.time, h.data, h.startup, h.phase⟩
  refine ⟨hpolled, ?_⟩
  obtain ⟨hconfirmations, hpresets, hintensive, hlevels, huncertain, hfallback⟩ := h.marked
  cases key with
  | airflowLevels => exact ⟨hconfirmations, hpresets, hintensive, .none, huncertain, hfallback⟩
  | presetMode => exact ⟨hconfirmations, .none, hintensive, hlevels, huncertain, hfallback⟩
  | intensive => exact ⟨hconfirmations, hpresets, .none, hlevels, huncertain, hfallback⟩
  | operationMode | controlSetting => exact h.marked

theorem Alike.settleUncertainFlow (h : Alike now s s') :
    Alike now s.settleUncertainFlow s'.settleUncertainFlow := by
  refine ⟨⟨h.room, h.clock, h.time, h.data, h.startup, h.phase⟩, ?_⟩
  obtain ⟨hconfirmations, hpresets, hintensive, hlevels, huncertain, hfallback⟩ := h.marked
  refine ⟨hconfirmations, hpresets, hintensive, hlevels, ?_, hfallback⟩
  simp only [RoomCoordinator.settleUncertainFlow, h.flowWriteUncertain]
  split
  · exact huncertain
  · exact .none

/-- What two commands have come to before they write. -/
inductive PreparedAlike (now : Monotonic) : Preparation → Preparation → Prop
  | refused {t t' : RoomCoordinator} (error : CommandError) : Alike now t t' →
    PreparedAlike now (.refused error t) (.refused error t')
  | done {t t' : RoomCoordinator} : Alike now t t' → PreparedAlike now (.done t) (.done t')
  | send {t t' : RoomCoordinator} (write : PreparedWrite) : Alike now t t' →
    PreparedAlike now (.send t write) (.send t' write)

theorem Alike.prepareSetLevel (h : Alike now s s') (level : ℤ) :
    Alike now (s.prepareSetLevel level).1 (s'.prepareSetLevel level).1 := by
  unfold RoomCoordinator.prepareSetLevel
  dsimp only
  split
  · exact (h.clearOverlay _).clearOverlay _
  · exact h.clearOverlay _

theorem Alike.prepareSetDirectionLevel (h : Alike now s s') (direction : Direction) (level : ℤ) :
    PreparedAlike now (s.prepareSetDirectionLevel direction level)
      (s'.prepareSetDirectionLevel direction level) := by
  have h := h.settleUncertainFlow
  unfold RoomCoordinator.prepareSetDirectionLevel
  generalize s.settleUncertainFlow = t at h
  generalize s'.settleUncertainFlow = t' at h
  dsimp only
  rw [h.flowWriteUncertain, h.directionLevels, h.room, planDirectionWrite_alike h.state]
  split
  · exact .refused _ h
  · split
    · exact .refused _ h
    · exact .send _ (h.clearOverlay .presetMode)
    · exact .send _ (h.prepareSetLevel _)

theorem Alike.prepareSetOperationMode (h : Alike now s s') (operationMode : OperationMode) :
    PreparedAlike now (s.prepareSetOperationMode operationMode)
      (s'.prepareSetOperationMode operationMode) := by
  have h := h.settleUncertainFlow
  unfold RoomCoordinator.prepareSetOperationMode
  generalize s.settleUncertainFlow = t at h
  generalize s'.settleUncertainFlow = t' at h
  dsimp only
  rw [h.flowWriteUncertain, h.state.operationMode,
    groupFresh_alike (h.state.health .flowControl) h.clock, h.room, h.resolveLevels,
    modeWriteLevels_alike h.state]
  split
  · exact .refused _ h
  split
  · exact .done h
  generalize (if operationMode = .inactive then OperationMode.manual else operationMode) = mode
  split
  · exact .refused _ h
  refine .send _ (Alike.clearOverlay ?_ _)
  split
  · exact h.clearOverlay _
  · exact h

theorem Alike.prepareClearPresetMode (h : Alike now s s') :
    PreparedAlike now s.prepareClearPresetMode s'.prepareClearPresetMode := by
  unfold RoomCoordinator.prepareClearPresetMode
  rw [h.optimisticPresetMode, h.state.presetMode]
  split
  · exact .done (h.clearOverlay _)
  · exact .done (h.clearOverlay _)
  · rename_i preset _ _
    have hmode := h.prepareSetOperationMode (leavePresetMode preset)
    generalize s.prepareSetOperationMode (leavePresetMode preset) = prepared at hmode
    generalize s'.prepareSetOperationMode (leavePresetMode preset) = prepared' at hmode
    cases hmode with
    | refused error h => exact .refused _ h
    | done h => exact .done (h.clearOverlay _)
    | send write h => exact .send _ h

/-- **What a command decides before it writes does not depend on the wall clock.** -/
theorem Alike.prepare (h : Alike now s s') (command : Command) :
    PreparedAlike now (s.prepare command) (s'.prepare command) := by
  cases command with
  | setLevel level => exact .send _ (h.prepareSetLevel level)
  | setUnbalancedLevels supply extract => exact .send _ (h.clearOverlay .presetMode)
  | setDirectionLevel direction level => exact h.prepareSetDirectionLevel direction level
  | setOperationMode mode => exact h.prepareSetOperationMode mode
  | setPresetMode preset => exact .send _ (h.clearOverlay .airflowLevels)
  | clearPresetMode => exact h.prepareClearPresetMode
  | activateIntensive => exact .send _ h
  | deactivateIntensive => exact .send _ h
  | setControlSetting key value =>
    simp only [RoomCoordinator.prepare, h.room,
      h.marked.confirmations.checkControlLevelRange h.state]
    split
    · exact .refused _ h
    · exact .send _ h

end Commands

/-! ### The end of a write -/

section Writes

variable {now : Monotonic} {s s' : RoomCoordinator} {clock clock' : Clock}

theorem Marked.atClock {health health' : ReadGroup → ReadHealth}
    (h : Marked now health health' s s') (clock clock' : Clock) :
    Marked now health health' (s.atClock clock) (s'.atClock clock') := by
  obtain ⟨hconfirmations, hpresets, hintensive, hlevels, huncertain, hfallback⟩ := h
  exact ⟨hconfirmations, hpresets, hintensive, hlevels, huncertain, hfallback⟩

theorem Alike.atClock (h : Alike now s s') (hclock : clock'.monotonic = clock.monotonic)
    (hle : now ≤ clock.monotonic) : Alike now (s.atClock clock) (s'.atClock clock') :=
  ⟨⟨h.room, hclock, hle, h.data, h.startup, h.phase⟩, h.marked.atClock _ _⟩

/-- The phase and the table of writes are replaced. -/
theorem Alike.withWrites (h : Alike now s s') {confirmations confirmations' : WriteConfirmations}
    (hwrites : WriteConfirmations.Alike now s.groupHealth s'.groupHealth confirmations
      confirmations') (phase : Phase) :
    Alike now { s with confirmations := confirmations, phase := phase }
      { s' with confirmations := confirmations', phase := phase } := by
  refine ⟨⟨h.room, h.clock, h.time, h.data, h.startup, rfl⟩, ?_⟩
  obtain ⟨-, hpresets, hintensive, hlevels, huncertain, hfallback⟩ := h.marked
  exact ⟨hwrites, hpresets, hintensive, hlevels, huncertain, hfallback⟩

theorem Alike.foldl_clearOverlay (keys : List WriteKey) (h : Alike now s s') :
    Alike now (keys.foldl RoomCoordinator.clearOverlay s)
      (keys.foldl RoomCoordinator.clearOverlay s') := by
  induction keys generalizing s s' with
  | nil => exact h
  | cons key keys ih => exact ih (h.clearOverlay key)

theorem Alike.setOverlay (h : Alike now s s') (hclock : clock'.monotonic = clock.monotonic)
    (key : WriteKey) (value : WriteValue) :
    Alike now (s.setOverlay clock key value) (s'.setOverlay clock' key value) := by
  have hset : ∀ {T C : Type} (overlay : OverlayKind T C) (t : T),
      Option.Rel (PendingValue.Alike now s.groupHealth s'.groupHealth)
        (overlay.set clock s.data t) (overlay.set clock' s'.data t) := fun _ _ =>
    set_alike h.data s.groupHealth_of_data s'.groupHealth_of_data h.groupHealth hclock
  obtain ⟨hconfirmations, hpresets, hintensive, hlevels, huncertain, hfallback⟩ := h.marked
  unfold RoomCoordinator.setOverlay
  split
  · exact ⟨⟨h.room, h.clock, h.time, h.data, h.startup, h.phase⟩,
      hconfirmations, hpresets, hintensive, hset _ _, huncertain, hfallback⟩
  · exact ⟨⟨h.room, h.clock, h.time, h.data, h.startup, h.phase⟩,
      hconfirmations, hset _ _, hintensive, hlevels, huncertain, hfallback⟩
  · exact ⟨⟨h.room, h.clock, h.time, h.data, h.startup, h.phase⟩,
      hconfirmations, hpresets, hset _ _, hlevels, huncertain, hfallback⟩
  · exact h

theorem Alike.applyLevelFallback (h : Alike now s s')
    (fallback : Option (Option LevelWriteFallback)) :
    Alike now (s.applyLevelFallback fallback) (s'.applyLevelFallback fallback) := by
  obtain ⟨hconfirmations, hpresets, hintensive, hlevels, huncertain, -⟩ := h.marked
  cases fallback with
  | none => exact h
  | some fallback =>
    refine ⟨⟨h.room, h.clock, h.time, h.data, h.startup, h.phase⟩,
      hconfirmations, hpresets, hintensive, hlevels, huncertain, ?_⟩
    cases fallback with
    | none => exact .none
    | some marker => exact .some ⟨rfl, .refl (h.groupHealth .flowControl)⟩

/-- The health of the confirming group is a baseline that both runs compare alike. -/
theorem Alike.baseline (h : Alike now s s') (write : PreparedWrite) :
    Attempted now (s.groupHealth (writeGroup write.writeKey))
      (s'.groupHealth (writeGroup write.writeKey)) (s.baseline write) (s'.baseline write) :=
  .refl (h.groupHealth _)

theorem Alike.accept (h : Alike now s s') (write : PreparedWrite) :
    Alike now (s.accept write) (s'.accept write) := by
  have hwrites := (h.marked.confirmations.supersede write.writeKey).recordPending s.clock.wall
    s'.clock.wall write.confirmedExpected (h.baseline write)
  unfold RoomCoordinator.accept
  dsimp only
  rw [h.marked.confirmations.superseded]
  have hcleared := (h.withWrites hwrites (if write.readBack then .readBack write else .idle))
    |>.foldl_clearOverlay (s.confirmations.superseded write.writeKey)
  exact (hcleared.setOverlay h.clock _ _).applyLevelFallback _

theorem Alike.fail (h : Alike now s s') (write : PreparedWrite) (error : String) :
    Alike now (s.fail write error) (s'.fail write error) := by
  have hrecorded := h.marked.confirmations.recordPending s.clock.wall s'.clock.wall
    write.expectedValue (h.baseline write)
  have hwrites := hrecorded.setStatus .failed (some error) none fun confirmation hsome => by
      rw [WriteConfirmations.recordPending_self] at hsome
      cases hsome
      rfl
  have hcleared := h.clearOverlay write.writeKey
  have hhealth : ∀ t : RoomCoordinator, (t.clearOverlay write.writeKey).groupHealth =
      t.groupHealth := fun t => funext fun group => (quiet_clearOverlay t _).groupHealth group
  exact hcleared.withWrites (by rw [hhealth, hhealth]; exact hwrites) _

theorem Alike.cancel (h : Alike now s s') (write : PreparedWrite) :
    Alike now (s.cancel write) (s'.cancel write) := by
  have hwrites := ((h.marked.confirmations.supersede write.writeKey).recordPending s.clock.wall
    s'.clock.wall write.expectedValue (h.baseline write)).markUnconfirmed write.writeKey
      "Write was cancelled"
  obtain ⟨-, hpresets, hintensive, hlevels, huncertain, hfallback⟩ := h.marked
  unfold RoomCoordinator.cancel
  dsimp only
  split
  · rename_i hgroup
    refine ⟨⟨h.room, h.clock, h.time, h.data, h.startup, h.phase⟩,
      hwrites, .none, .none, .none, .some ⟨?_, .refl (h.groupHealth .flow)⟩, hfallback⟩
    have hbaseline := h.baseline write
    rw [hgroup] at hbaseline
    exact hbaseline.since
  · exact ⟨⟨h.room, h.clock, h.time, h.data, h.startup, h.phase⟩,
      hwrites, hpresets, hintensive, hlevels, huncertain, hfallback⟩

/-- **What a write leaves does not depend on the wall clock.** -/
theorem Alike.finishWrite (h : Alike now s s') (write : PreparedWrite) (outcome : WriteOutcome) :
    Alike now (s.finishWrite write outcome) (s'.finishWrite write outcome) := by
  unfold RoomCoordinator.finishWrite
  rw [h.room]
  split
  · exact h.accept write
  · exact h.fail write _
  · exact h.cancel write

end Writes

end RoomCoordinator

/-! ### What a reply makes of the groups -/

/-- What became of a block, without its values. -/
def BlockRead.outcome {α : Type} : BlockRead α → BlockRead Unit
  | .values _ => .values ()
  | .failed error timedOut => .failed error timedOut
  | .skipped => .skipped

/-- The error of a block that was not read, and whether it is that nothing came in time. -/
def BlockRead.failure? {α : Type} : BlockRead α → Option (String × Bool)
  | .failed error timedOut => some (error, timedOut)
  | .values _ | .skipped => none

/-- What a reply makes of the health of a group. -/
def PlanReply.groupRead (room : RoomConfig) : PlanReply → ReadGroup → BlockRead Unit
  | .airflow (.raised error) _, group =>
    if group ∈ airflowReadGroups ∧ room.supportsGroup group = true then .failed error false
    else .skipped
  | .airflow (.blocks flow _) _, .flow => flow.outcome
  | .airflow (.blocks _ mode) _, .flowControl => mode.outcome
  | .airflow (.blocks _ mode) _, .intensive => mode.outcome
  | .settings (.raised error), group =>
    if group ∈ [ReadGroup.controlSettings] ∧ room.supportsGroup group = true then
      .failed error false
    else .skipped
  | .settings (.block block), .controlSettings =>
    if room.supportsGroup .controlSettings then block.outcome else .skipped
  | _, _ => .skipped

section Replies

variable {now : Monotonic} {room : RoomConfig} {clock clock' : Clock}
  {previous previous' : RoomState}

theorem BlockRead.outcome_health {α : Type} (read : BlockRead α) (health : ReadHealth) :
    read.outcome.health clock health = read.health clock health := by
  cases read <;> rfl

theorem recordReadFailures_health {wall : WallTime} {error : String} {groups : List ReadGroup}
    (group : ReadGroup) :
    (recordReadFailures wall room error groups previous).groupReadHealth group =
      (if group ∈ groups ∧ room.supportsGroup group = true then BlockRead.failed error false
        else BlockRead.skipped : BlockRead Unit).health ⟨clock.monotonic, wall⟩
        (previous.groupReadHealth group) := by
  simp only [recordReadFailures]
  split <;> rfl

/-- **The health of a group after a reply** is that of the one block the reply has for it. -/
theorem PlanReply.state_health (reply : PlanReply) (group : ReadGroup) :
    (reply.state room clock previous).groupReadHealth group =
      (reply.groupRead room group).health clock (previous.groupReadHealth group) := by
  cases reply with
  | airflow read target =>
    cases read with
    | quarantined => rfl
    | raised error => exact recordReadFailures_health group
    | blocks flow mode =>
      cases group <;>
        simp only [PlanReply.groupRead, BlockRead.outcome_health] <;> rfl
  | settings read =>
    cases read with
    | quarantined => rfl
    | raised error => exact recordReadFailures_health group
    | block settings =>
      simp only [PlanReply.state, SettingsRead.apply]
      split
      · rename_i hsupports
        cases group <;> simp only [PlanReply.groupRead, hsupports, if_true,
          BlockRead.outcome_health] <;> rfl
      · rename_i hsupports
        cases group <;> simp only [PlanReply.groupRead, hsupports] <;> rfl

/-- The values that are decoded do not depend on the healths. -/
theorem applyModeRead_healths (state : RoomState) (healths : ReadGroup → ReadHealth)
    (block : Option ModeRead) :
    applyModeRead room { state with groupReadHealth := healths } block =
      { applyModeRead room state block with groupReadHealth := healths } := by
  unfold applyModeRead
  dsimp only
  split <;> rfl

theorem applyFlowRead_healths (state : RoomState) (healths : ReadGroup → ReadHealth)
    (flow : Option FlowRead) :
    applyFlowRead { state with groupReadHealth := healths } flow =
      { applyFlowRead state flow with groupReadHealth := healths } := by
  cases flow <;> rfl

/-- **The same replies make alike states of alike ones.** -/
theorem PlanReply.state_alike (room : RoomConfig) (reply : PlanReply)
    (h : RoomState.Alike now previous previous') (hclock : clock'.monotonic = clock.monotonic)
    (hle : now ≤ clock.monotonic) :
    RoomState.Alike clock.monotonic (reply.state room clock previous)
      (reply.state room clock' previous') := by
  refine .of ?_ fun group => ?_
  · obtain ⟨healths, -⟩ := h
    cases reply with
    | airflow read target =>
      cases read with
      | quarantined | raised => rfl
      | blocks flow mode =>
        simp only [PlanReply.state, AirflowRead.apply, applyFlowRead_healths, applyModeRead_healths]
    | settings read =>
      cases read with
      | quarantined | raised => rfl
      | block settings =>
        simp only [PlanReply.state, SettingsRead.apply]
        split
        · cases settings <;> rfl
        · rfl
  · rw [reply.state_health, reply.state_health]
    exact (h.health group).read _ hclock hle

end Replies

/-! ### Reads -/

namespace RoomCoordinator

/-- **What the wall time of a read has to tell apart.** A failed read of the group of an open
write leaves it at another health than the write was sent at, and a successful read of the mode
registers has another time than the last one before the fallback of a fan write. -/
structure Told (s : RoomCoordinator) (wall : WallTime) (reads : ReadGroup → BlockRead Unit)
    (health : ReadGroup → ReadHealth) : Prop where
  failures : ∀ key, ∀ confirmation ∈ s.confirmations.byKey key,
    confirmation.status.isFinal = false → ∀ failure ∈ (reads (writeGroup key)).failure?,
    (health (writeGroup key)).failed wall failure.1 failure.2 ≠ confirmation.baseline
  successes : ∀ fallback ∈ s.levelFallback, (reads .flowControl).read?.isSome = true →
    fallback.2.lastSuccessfulRead ≠ some wall

/-- A statement about all keys is checked key by key. -/
instance (p : WriteKey → Prop) [DecidablePred p] : Decidable (∀ key, p key) :=
  decidable_of_iff (p .airflowLevels ∧ p .operationMode ∧ p .presetMode ∧ p .intensive ∧
    ∀ setting, p (.controlSetting setting)) <| by
    constructor
    · rintro ⟨hlevels, hmode, hpreset, hintensive, hsetting⟩ key
      cases key
      · exact hlevels
      · exact hmode
      · exact hpreset
      · exact hintensive
      · exact hsetting _
    · exact fun h => ⟨h _, h _, h _, h _, fun _ => h _⟩

instance (s : RoomCoordinator) (wall : WallTime) (reads : ReadGroup → BlockRead Unit)
    (health : ReadGroup → ReadHealth) : Decidable (s.Told wall reads health) :=
  decidable_of_iff
    ((∀ key, ∀ confirmation ∈ s.confirmations.byKey key,
        confirmation.status.isFinal = false → ∀ failure ∈ (reads (writeGroup key)).failure?,
        (health (writeGroup key)).failed wall failure.1 failure.2 ≠ confirmation.baseline) ∧
      ∀ fallback ∈ s.levelFallback, (reads .flowControl).read?.isSome = true →
        fallback.2.lastSuccessfulRead ≠ some wall)
    ⟨fun h => ⟨h.1, h.2⟩, fun h => ⟨h.failures, h.successes⟩⟩

section Reads

variable {now later : Monotonic} {s s' t t' : RoomCoordinator} {clock clock' : Clock}
  {health health' k k' : ReadGroup → ReadHealth} {state state' : RoomState}
  {entry entry' : Option RoomState}

theorem Marked.rebase (h : Marked now health health' s s')
    (hattempted : ∀ key confirmation confirmation', s.confirmations.byKey key = some confirmation →
      s'.confirmations.byKey key = some confirmation' → confirmation.status.isFinal = false →
      confirmation'.status.isFinal = false →
      Attempted now (health (writeGroup key)) (health' (writeGroup key))
        confirmation.baseline confirmation'.baseline →
      Attempted later (k (writeGroup key)) (k' (writeGroup key))
        confirmation.baseline confirmation'.baseline)
    (hsince : ∀ group baseline baseline', Since now (health group) (health' group) baseline
      baseline' → Since later (k group) (k' group) baseline baseline')
    (hmode : ∀ fallback fallback', s.levelFallback = some fallback →
      s'.levelFallback = some fallback' →
      ModeSince now (health .flowControl) (health' .flowControl) fallback.2 fallback'.2 →
      ModeSince later (k .flowControl) (k' .flowControl) fallback.2 fallback'.2) :
    Marked later k k' s s' where
  confirmations := h.confirmations.rebase hattempted
  presets := rel_mono (fun _ _ halike => halike.rebase hsince) h.presets
  intensive := rel_mono (fun _ _ halike => halike.rebase hsince) h.intensive
  levels := rel_mono (fun _ _ halike => halike.rebase hsince) h.levels
  uncertain := rel_mono (fun _ _ halike => ⟨hsince _ _ _ halike.1, hsince _ _ _ halike.2⟩)
    h.uncertain
  fallback := by
    have hfallback := h.fallback
    obtain ⟨hnone, hnone'⟩ | ⟨fallback, fallback', hsome, hsome', hsame, halike⟩ :=
      rel_cases hfallback
    · rw [hnone, hnone']
      exact .none
    · rw [hsome, hsome']
      exact .some ⟨hsame, hmode _ _ hsome hsome' halike⟩

theorem Marked.mono (h : Marked now health health' s s') (hle : now ≤ later) :
    Marked later health health' s s' :=
  h.rebase (fun _ _ _ _ _ _ _ halike => halike.mono hle) (fun _ _ _ halike => halike.mono hle)
    (fun _ _ _ _ halike => halike.mono hle)

/-- The groups of a unit are forgotten in both runs. -/
theorem Marked.forgotten (h : Marked now health health' s s') :
    Marked now (fun _ => emptyReadHealth) (fun _ => emptyReadHealth) s s' :=
  h.rebase (fun _ _ _ _ _ _ _ halike => halike.alike.attempted)
    (fun _ _ _ halike => halike.alike.attempted.since)
    (fun _ _ _ _ halike => halike.alike.modeSince)

/-- **A read keeps every comparison**, if its wall times tell what they have to. -/
theorem Marked.read (h : Marked now health health' s s') {reads : ReadGroup → BlockRead Unit}
    (hlt : now < clock.monotonic) (hclock : clock'.monotonic = clock.monotonic)
    (htold : s.Told clock.wall reads health) (htold' : s'.Told clock'.wall reads health') :
    Marked clock.monotonic (fun group => (reads group).health clock (health group))
      (fun group => (reads group).health clock' (health' group)) s s' := by
  refine h.rebase (fun key confirmation confirmation' hsome hsome' hopen hopen' halike => ?_)
    (fun _ _ _ halike => halike.read hlt hclock)
    (fun fallback fallback' hsome hsome' halike => ?_)
  · refine halike.read hlt hclock fun error timedOut hfailed => ?_
    have hfailure : (error, timedOut) ∈ (reads (writeGroup key)).failure? := by
      rw [hfailed]
      rfl
    exact ⟨htold.failures _ _ hsome hopen _ hfailure, htold'.failures _ _ hsome' hopen' _ hfailure⟩
  · refine halike.read hlt.le fun hread => ?_
    have hvalues : (reads .flowControl).read?.isSome = true := by
      rw [hread]
      rfl
    exact ⟨htold.successes _ hsome hvalues, htold'.successes _ hsome' hvalues⟩

/-- **A state judges the writes and the pending values of both runs alike.** -/
theorem Marked.confirmPendingWrites (hstate : RoomState.Alike now state state')
    (hread : Marked now state.groupReadHealth state'.groupReadHealth s s')
    (h : Marked now k k' s s') (hclock : s'.clock.monotonic = s.clock.monotonic) :
    Marked now k k' (s.confirmPendingWrites state) (s'.confirmPendingWrites state') where
  confirmations := WriteConfirmations.Alike.confirm hstate hread.confirmations h.confirmations _ _
  presets := by
    simp only [RoomCoordinator.confirmPendingWrites, hstate.presetMode]
    exact settleIfRead_alike hstate hread.presets h.presets hclock
  intensive := by
    simp only [RoomCoordinator.confirmPendingWrites, hstate.intensiveActive]
    exact settleIfRead_alike hstate hread.intensive h.intensive hclock
  levels := by
    simp only [RoomCoordinator.confirmPendingWrites, reportedLevels_alike hstate hclock]
    exact settleIfRead_alike hstate hread.levels h.levels hclock
  uncertain := h.uncertain
  fallback := by
    have hfollows : (s'.levelFallback.any fun fallback => modeReadSince state' fallback.2) =
        s.levelFallback.any fun fallback => modeReadSince state fallback.2 :=
      rel_any (fun _ _ halike => modeReadSince_alike hstate halike.2) hread.fallback
    simp only [RoomCoordinator.confirmPendingWrites, hfollows]
    split
    · exact .none
    · exact h.fallback

/-! ### The entry of a unit after a read -/

/-- A state that differs from nothing known is kept as it was. -/
def keepEntry (entry : Option RoomState) (refreshed : RoomState) : Option RoomState :=
  if refreshed = entry.getD emptyRoomState then entry else some refreshed

theorem keepEntry_getD (entry : Option RoomState) (refreshed : RoomState) :
    (keepEntry entry refreshed).getD emptyRoomState = refreshed := by
  unfold keepEntry
  split
  · rename_i hsame
    exact hsame.symm
  · rfl

theorem eq_none_of_keepEntry {entry : Option RoomState} {refreshed : RoomState}
    (h : keepEntry entry refreshed = none) : entry = none := by
  unfold keepEntry at h
  split at h
  · exact h
  · cases h

theorem keepEntry_alike {refreshed refreshed' : RoomState}
    (hentry : Option.Rel (RoomState.Alike now) entry entry')
    (h : RoomState.Alike later refreshed refreshed') :
    Option.Rel (RoomState.Alike later) (keepEntry entry refreshed)
      (keepEntry entry' refreshed') := by
  have hsome : ∀ previous refreshed : RoomState,
      keepEntry (some previous) refreshed = some refreshed := by
    intro previous refreshed
    unfold keepEntry
    split
    · rename_i hsame
      rw [hsame]
      rfl
    · rfl
  cases hentry with
  | some _ =>
    rw [hsome, hsome]
    exact .some h
  | none =>
    simp only [keepEntry, Option.getD_none, ← h.eq_empty_iff]
    split
    · exact .none
    · exact .some h

/-- A poll starts from the healths that the groups have, or from nothing. -/
theorem pollEntry_health (s : RoomCoordinator) (others : Others) :
    ((s.pollEntry others).getD emptyRoomState).groupReadHealth = s.groupHealth ∨
      s.pollEntry others = none := by
  unfold pollEntry
  rcases hdata : s.data with _ | state
  · simp only [Option.isSome_none, Bool.false_or]
    split
    · exact .inr rfl
    · refine .inl (funext fun group => ?_)
      rw [RoomCoordinator.groupHealth, hdata, Option.none_or]
  · refine .inl (funext fun group => ?_)
    rw [RoomCoordinator.groupHealth, hdata]
    rfl

theorem Polled.pollEntry (h : Polled now s s') (others : Others) :
    Option.Rel (RoomState.Alike now) (s.pollEntry others) (s'.pollEntry others) := by
  have hknown : s'.data.isSome = s.data.isSome := by
    obtain ⟨hnone, hnone'⟩ | ⟨state, state', hsome, hsome', -⟩ := rel_cases h.data
    · rw [hnone, hnone']
    · rw [hsome, hsome']
      rfl
  unfold RoomCoordinator.pollEntry
  rw [hknown]
  split
  · exact h.data
  · exact h.startup

/-- The comparisons come out the same at the health that a read starts from. -/
theorem Alike.markedAt (h : Alike now s s') {entry entry' : Option RoomState}
    (hentry : Option.Rel (RoomState.Alike now) entry entry')
    (hhealth : (entry.getD emptyRoomState).groupReadHealth = s.groupHealth ∨ entry = none)
    (hhealth' : (entry'.getD emptyRoomState).groupReadHealth = s'.groupHealth ∨ entry' = none) :
    Marked now (entry.getD emptyRoomState).groupReadHealth
      (entry'.getD emptyRoomState).groupReadHealth s s' := by
  have hforgotten : entry = none → entry' = none →
      Marked now (entry.getD emptyRoomState).groupReadHealth
        (entry'.getD emptyRoomState).groupReadHealth s s' := by
    rintro rfl rfl
    exact h.marked.forgotten
  cases hentry with
  | none => exact hforgotten rfl rfl
  | some halike =>
    have hsame := hhealth.resolve_right (Option.some_ne_none _)
    have hsame' := hhealth'.resolve_right (Option.some_ne_none _)
    rw [hsame, hsame']
    exact h.marked

/-- The comparisons come out the same at the polled state. -/
theorem Alike.markedState (h : Alike now s s') :
    Marked now s.state.groupReadHealth s'.state.groupReadHealth s s' := by
  have hhealth : ∀ t : RoomCoordinator,
      (t.data.getD emptyRoomState).groupReadHealth = t.groupHealth ∨ t.data = none := by
    intro t
    rcases hdata : t.data with _ | state
    · exact .inr rfl
    · exact .inl (t.groupHealth_of_data _ hdata).symm
  exact h.markedAt h.data (hhealth s) (hhealth s')

/-- **The end of a poll does not depend on the wall clock.** -/
theorem finishPoll_alike {others : Others} (hpolled : Polled now s s')
    (hmarked : Marked now s.groupHealth s'.groupHealth s s')
    (hentry : Option.Rel (RoomState.Alike now) entry entry')
    (hread : Marked now (entry.getD emptyRoomState).groupReadHealth
      (entry'.getD emptyRoomState).groupReadHealth s s') :
    Alike now (s.finishPoll entry others) (s'.finishPoll entry' others) := by
  have hvalues : entry'.any (·.hasData) = entry.any (·.hasData) :=
    rel_any (fun _ _ halike => halike.hasData) hentry
  unfold RoomCoordinator.finishPoll
  rw [hvalues]
  split
  · cases hentry with
    | none =>
      obtain ⟨hconfirmations, hpresets, hintensive, hlevels, huncertain, hfallback⟩ := hread
      exact ⟨⟨hpolled.room, hpolled.clock, hpolled.time, .none, .none, hpolled.phase⟩,
        hconfirmations, hpresets, hintensive, hlevels, huncertain, hfallback⟩
    | some hstate =>
      obtain ⟨hconfirmations, hpresets, hintensive, hlevels, huncertain, hfallback⟩ :=
        hread.confirmPendingWrites hstate hread hpolled.clock
      exact ⟨⟨hpolled.room, hpolled.clock, hpolled.time, .some hstate, .none, hpolled.phase⟩,
        hconfirmations, hpresets, hintensive, hlevels, huncertain, hfallback⟩
  · refine ⟨⟨hpolled.room, hpolled.clock, hpolled.time, hpolled.data, hentry, hpolled.phase⟩, ?_⟩
    -- Without values nothing is judged; the current health is that of the data, if there is any.
    have hcurrent : Marked now ({ s with startup := entry } : RoomCoordinator).groupHealth
        ({ s' with startup := entry' } : RoomCoordinator).groupHealth s s' := by
      obtain ⟨hnone, hnone'⟩ | ⟨state, state', hsome, hsome', -⟩ := rel_cases hpolled.data
      · unfold RoomCoordinator.groupHealth
        simp only [hnone, hnone', Option.none_or]
        exact hread
      · have hsame := s.groupHealth_of_data _ hsome
        have hsame' := s'.groupHealth_of_data _ hsome'
        rw [hsame, hsame'] at hmarked
        unfold RoomCoordinator.groupHealth
        simp only [hsome, hsome', Option.some_or, Option.getD_some]
        exact hmarked
    obtain ⟨hconfirmations, hpresets, hintensive, hlevels, huncertain, hfallback⟩ := hcurrent
    exact ⟨hconfirmations, hpresets, hintensive, hlevels, huncertain, hfallback⟩

/-! ### The read of one plan -/

/-- Whether the read of a plan asks how old the last airflow write is: a base mode is read, and
register `41121` is to be read or its last value to be carried. -/
def asksRetention (s : RoomCoordinator) (previous : RoomState) (polled : Bool) :
    PlanReply → Bool
  | .airflow read _ => read.mayConfirm polled &&
      s.confirmations.asksRetention s.clock (read.apply s.room s.clock previous) previous
  | .settings _ => false

/-- Where a read asks for it, the last airflow write is recent in both runs or in neither. -/
def RecentAlike (s s' : RoomCoordinator) (previous : RoomState) (polled : Bool)
    (reply : PlanReply) : Prop :=
  s.asksRetention previous polled reply = true →
    s'.confirmations.hasRecentWrite s'.clock.wall .airflowLevels =
      s.confirmations.hasRecentWrite s.clock.wall .airflowLevels

variable {previous previous' : RoomState} {reply : PlanReply} {polled : Bool}

theorem readBalancedTarget_alike {target : TargetReply} (hroom : s'.room = s.room)
    (hclock : s'.clock.monotonic = s.clock.monotonic)
    (hwrites : WriteConfirmations.Alike now health health' s.confirmations s'.confirmations)
    (hstate : RoomState.Alike later state state')
    (hprevious : RoomState.Alike later previous previous')
    (hrecent : s.confirmations.asksRetention s.clock state previous = true →
      s'.confirmations.hasRecentWrite s'.clock.wall .airflowLevels =
        s.confirmations.hasRecentWrite s.clock.wall .airflowLevels) :
    WriteConfirmations.Alike now health health' (s.readBalancedTarget state previous target).1
        (s'.readBalancedTarget state' previous' target).1 ∧
      RoomState.Alike later (s.readBalancedTarget state previous target).2
        (s'.readBalancedTarget state' previous' target).2 := by
  obtain ⟨converged, readback, mustRead, hprepared, hprepared'⟩ :=
    WriteConfirmations.Alike.prepareBalancedTargetReadback hstate hprevious hwrites hclock hrecent
  unfold RoomCoordinator.readBalancedTarget
  rw [hprepared, hprepared', hroom]
  dsimp only
  have hwrites : WriteConfirmations.Alike now health health'
      { s.confirmations with balancedFlowConverged := converged }
      { s'.confirmations with balancedFlowConverged := converged } := ⟨hwrites.writes, rfl⟩
  split
  · split
    · exact ⟨hwrites, hstate.withReadback _⟩
    · exact ⟨hwrites, hstate.withReadback _⟩
  · exact ⟨hwrites, hstate.withReadback _⟩

theorem applyReply_alike (hpolled : Polled now s s')
    (hwrites : WriteConfirmations.Alike later health health' s.confirmations s'.confirmations)
    (hprevious : RoomState.Alike now previous previous')
    (hrecent : s.RecentAlike s' previous polled reply) :
    WriteConfirmations.Alike later health health' (s.applyReply previous polled reply).1
        (s'.applyReply previous' polled reply).1 ∧
      RoomState.Alike s.clock.monotonic (s.applyReply previous polled reply).2
        (s'.applyReply previous' polled reply).2 := by
  have hstate := reply.state_alike s.room hprevious hpolled.clock hpolled.time
  cases reply with
  | airflow read target =>
    simp only [RoomCoordinator.applyReply, hpolled.room]
    split
    · rename_i hmay
      refine readBalancedTarget_alike hpolled.room hpolled.clock hwrites hstate
        (hprevious.mono hpolled.time) fun hasks => hrecent ?_
      rw [RoomCoordinator.asksRetention, hmay, Bool.true_and]
      exact hasks
    · exact ⟨hwrites, hstate⟩
  | settings read =>
    simp only [RoomCoordinator.applyReply, hpolled.room]
    exact ⟨hwrites, hstate⟩

theorem applyReply_health (s : RoomCoordinator) (previous : RoomState) (polled : Bool)
    (reply : PlanReply) : (s.applyReply previous polled reply).2.groupReadHealth = fun group =>
      (reply.groupRead s.room group).health s.clock (previous.groupReadHealth group) := by
  obtain ⟨-, readback, hstate⟩ := s.applyReply_frame previous polled reply
  funext group
  rw [hstate]
  exact reply.state_health group

/-- The write table and the clock are replaced after a read. -/
theorem Marked.withRead {confirmations confirmations' : WriteConfirmations}
    (h : Marked now health health' s s') (finished finished' : Clock)
    (hwrites : WriteConfirmations.Alike now health health' confirmations confirmations') :
    Marked now health health' { s with confirmations := confirmations, clock := finished }
      { s' with confirmations := confirmations', clock := finished' } := by
  obtain ⟨-, hpresets, hintensive, hlevels, huncertain, hfallback⟩ := h
  exact ⟨hwrites, hpresets, hintensive, hlevels, huncertain, hfallback⟩

variable {others : Others} {finished finished' : Clock}

theorem Polled.withRead {confirmations confirmations' : WriteConfirmations}
    (h : Polled now s s') (hclock : finished'.monotonic = finished.monotonic)
    (hle : s.clock.monotonic ≤ finished.monotonic) :
    Polled s.clock.monotonic { s with confirmations := confirmations, clock := finished }
      { s' with confirmations := confirmations', clock := finished' } where
  room := h.room
  clock := hclock
  time := hle
  data := (h.mono h.time le_rfl).data
  startup := (h.mono h.time le_rfl).startup
  phase := h.phase

/-- The end of a readback, which judges the state before it keeps it. -/
theorem keepRead_alike {refreshed refreshed' : RoomState} (hpolled : Polled now s s')
    (hold : Marked now s.groupHealth s'.groupHealth s s')
    (hstate : RoomState.Alike now refreshed refreshed')
    (hnew : Marked now refreshed.groupReadHealth refreshed'.groupReadHealth s s') :
    Alike now { s.confirmPendingWrites refreshed with data := keepEntry s.data refreshed }
      { s'.confirmPendingWrites refreshed' with data := keepEntry s'.data refreshed' } := by
  have hkept := keepEntry_alike hpolled.data hstate
  have hgetD := keepEntry_getD s.data refreshed
  have hgetD' := keepEntry_getD s'.data refreshed'
  generalize ht : ({ s.confirmPendingWrites refreshed with
    data := keepEntry s.data refreshed } : RoomCoordinator) = t
  generalize ht' : ({ s'.confirmPendingWrites refreshed' with
    data := keepEntry s'.data refreshed' } : RoomCoordinator) = t'
  -- Without an entry the health is the old one, with one it is that of the state read.
  have hmarked : Marked now t.groupHealth t'.groupHealth s s' := by
    subst ht ht'
    unfold RoomCoordinator.groupHealth
    dsimp only
    obtain ⟨hnone, hnone'⟩ | ⟨state, state', hsome, hsome', -⟩ := rel_cases hkept
    · have hdata := eq_none_of_keepEntry hnone
      have hdata' := eq_none_of_keepEntry hnone'
      rw [hnone, hnone']
      unfold RoomCoordinator.groupHealth at hold
      rw [hdata, hdata'] at hold
      exact hold
    · rw [hsome, Option.getD_some] at hgetD
      rw [hsome', Option.getD_some] at hgetD'
      rw [hsome, hsome', hgetD, hgetD']
      exact hnew
  obtain ⟨hconfirmations, hpresets, hintensive, hlevels, huncertain, hfallback⟩ :=
    hnew.confirmPendingWrites hstate hmarked hpolled.clock
  subst ht ht'
  exact ⟨⟨hpolled.room, hpolled.clock, hpolled.time, hkept, hpolled.startup, hpolled.phase⟩,
    hconfirmations, hpresets, hintensive, hlevels, huncertain, hfallback⟩

theorem poll_eq (s : RoomCoordinator) (reply : PlanReply) (others : Others) (finished : Clock) :
    s.poll reply others finished =
      { s with
        confirmations := (s.applyReply ((s.pollEntry others).getD emptyRoomState) true reply).1
        clock := finished }.finishPoll
          (keepEntry (s.pollEntry others)
            (s.applyReply ((s.pollEntry others).getD emptyRoomState) true reply).2) others := rfl

theorem refreshAfterWrite_eq (s : RoomCoordinator) (reply : PlanReply) (finished : Clock) :
    s.refreshAfterWrite reply finished =
      { { s with
          confirmations := (s.applyReply s.state false reply).1
          clock := finished }.confirmPendingWrites (s.applyReply s.state false reply).2 with
        data := keepEntry s.data (s.applyReply s.state false reply).2 } := rfl

/-- **A poll with a job of the unit does not depend on the wall clock.** -/
theorem poll_alike (h : Alike now s s') (hlt : now < s.clock.monotonic)
    (hclock : finished'.monotonic = finished.monotonic)
    (hle : s.clock.monotonic ≤ finished.monotonic)
    (htold : s.Told s.clock.wall (reply.groupRead s.room)
      ((s.pollEntry others).getD emptyRoomState).groupReadHealth)
    (htold' : s'.Told s'.clock.wall (reply.groupRead s'.room)
      ((s'.pollEntry others).getD emptyRoomState).groupReadHealth)
    (hrecent : s.RecentAlike s' ((s.pollEntry others).getD emptyRoomState) true reply) :
    Alike s.clock.monotonic (s.poll reply others finished) (s'.poll reply others finished') := by
  have hentry := h.toPolled.pollEntry others
  have hprevious := RoomState.Alike.getD hentry
  have hold := h.marked.mono h.time
  have hnew := (h.markedAt hentry (s.pollEntry_health others) (s'.pollEntry_health others)).read
    hlt h.clock htold (h.room ▸ htold')
  have hreads := s.applyReply_health ((s.pollEntry others).getD emptyRoomState) true reply
  have hreads' := s'.applyReply_health ((s'.pollEntry others).getD emptyRoomState) true reply
  rw [h.room] at hreads'
  rw [← hreads, ← hreads'] at hnew
  obtain ⟨holdWrites, hrefreshed⟩ := applyReply_alike h.toPolled
    hold.confirmations hprevious hrecent
  obtain ⟨hnewWrites, -⟩ := applyReply_alike h.toPolled hnew.confirmations
    hprevious hrecent
  rw [poll_eq, poll_eq]
  refine finishPoll_alike (h.toPolled.withRead hclock hle) (hold.withRead _ _ holdWrites)
    (keepEntry_alike hentry hrefreshed) ?_
  rw [keepEntry_getD, keepEntry_getD]
  exact hnew.withRead _ _ hnewWrites

/-- **A readback does not depend on the wall clock.** -/
theorem refreshAfterWrite_alike (h : Alike now s s') (hlt : now < s.clock.monotonic)
    (hclock : finished'.monotonic = finished.monotonic)
    (hle : s.clock.monotonic ≤ finished.monotonic)
    (htold : s.Told s.clock.wall (reply.groupRead s.room) s.state.groupReadHealth)
    (htold' : s'.Told s'.clock.wall (reply.groupRead s'.room) s'.state.groupReadHealth)
    (hrecent : s.RecentAlike s' s.state false reply) :
    Alike s.clock.monotonic (s.refreshAfterWrite reply finished)
      (s'.refreshAfterWrite reply finished') := by
  have hprevious := RoomState.Alike.getD h.data
  have hold := h.marked.mono h.time
  have hnew := h.markedState.read hlt h.clock htold (h.room ▸ htold')
  have hreads := s.applyReply_health s.state false reply
  have hreads' := s'.applyReply_health s'.state false reply
  rw [h.room] at hreads'
  rw [← hreads, ← hreads'] at hnew
  obtain ⟨holdWrites, hrefreshed⟩ := applyReply_alike h.toPolled
    hold.confirmations hprevious hrecent
  obtain ⟨hnewWrites, -⟩ := applyReply_alike h.toPolled hnew.confirmations
    hprevious hrecent
  rw [refreshAfterWrite_eq, refreshAfterWrite_eq]
  exact keepRead_alike (h.toPolled.withRead hclock hle) (hold.withRead _ _ holdWrites) hrefreshed
    (hnew.withRead _ _ hnewWrites)

end Reads

end RoomCoordinator

end MeltemVentilation
