import MeltemVentilation.ModbusClient.Commands
import MeltemVentilation.ModbusClient.ReadRoom
import MeltemVentilation.Overlay

/-!
# The coordinator of one unit

The command, readback and poll paths of `MeltemDataUpdateCoordinator` in `coordinator.py`,
as a transition system over the record `RoomCoordinator`: the last polled state, the write
outcomes, the three overlays and the two markers of `RoomRuntime` that a fan command leaves.

Commands, readbacks and polls hold the gateway lock, so each of them is one step; only a
command that reads back gives two, the write and the read after it, because the pending
value is shown in between. The label of a step carries everything the code does not decide:
what the transport made of a write, the replies to a read, and the clock at the end. What may
happen while the lock is held – time, the expiry timers, the queries of the entities – is
a step of its own.

The coordinator keeps the states of all its units in one dictionary. The other units matter
for one thing, whether that dictionary is empty or without values, and a label says so where
the code asks (`Others`). A value or a read group that is not carried by `RoomState` counts as
one of the others.
-/

namespace MeltemVentilation

/-! ### Commands -/

/-- The command methods of the coordinator. -/
inductive Command where
  | setLevel (level : ℤ)
  | setUnbalancedLevels (supplyLevel extractLevel : ℤ)
  | setDirectionLevel (direction : Direction) (level : ℤ)
  | setOperationMode (operationMode : OperationMode)
  | setPresetMode (presetMode : PresetMode)
  | clearPresetMode
  | activateIntensive
  | deactivateIntensive
  | setControlSetting (settingKey : ControlSetting) (value : ℤ)
deriving DecidableEq, Repr

/-- The client method that a command calls. -/
inductive WriteCall where
  | mode (command : ModeCommand)
  | controlSetting (settingKey : ControlSetting) (value : ℤ)
deriving DecidableEq, Repr

/-- The error that a client method raises before it sends anything. -/
def WriteCall.encodeError (room : RoomConfig) : WriteCall → Option String
  | .mode command =>
    match command.writes room with
    | .ok _ => none
    | .error error => some error
  | .controlSetting _ _ => none

/-- What became of a write. -/
inductive WriteOutcome where
  | accepted
  | failed (error : String)
  | cancelled
deriving DecidableEq, Repr

/-- A write that a command hands to `_async_write_with_confirmation_locked`. -/
structure PreparedWrite where
  writeKey : WriteKey
  expectedValue : WriteValue
  call : WriteCall
  readBack : Bool := false
  /-- For a direction command, what `_apply_level_fallback` records after it. -/
  directionFallback : Option (Option LevelWriteFallback) := none
  /-- Whether the quick-mode overlay is cleared once the command is done. -/
  clearPreset : Bool := false
deriving DecidableEq, Repr

/-- `confirmed_expected`: the value a later readback is compared with, which is the stepped
value for a control setting. -/
def PreparedWrite.confirmedExpected (write : PreparedWrite) : WriteValue :=
  match write.call with
  | .controlSetting key value => .setting (normalizeControlSetting key value)
  | .mode _ => write.expectedValue

/-- The write of an operating mode with the levels it carries. -/
def operationModeWrite (operationMode : OperationMode) (levels : LevelPair) : PreparedWrite where
  writeKey := .operationMode
  expectedValue := .operationMode operationMode
  call := .mode (.writeOperatingMode operationMode (levels.1.getD 0) (levels.2.getD 0))
  readBack := true

/-- The operating mode that leaving a quick mode selects. -/
def leavePresetMode (preset : PresetMode) : OperationMode :=
  if preset = .extractOnly ∨ preset = .supplyOnly then .unbalanced else .manual

/-- The error of a command that needs levels nobody knows. -/
def airflowUnknown (room : RoomConfig) : CommandError :=
  ⟨"airflow_unknown", [("unit", room.name)]⟩

/-- The outcome of a write: a command without an encoding fails before anything is sent. -/
def PreparedWrite.outcome (write : PreparedWrite) (room : RoomConfig) (sent : WriteOutcome) :
    WriteOutcome :=
  match write.call.encodeError room with
  | some error => .failed error
  | none => sent

/-! ### The state -/

/-- What the coordinator does while it holds the gateway lock for a write. -/
inductive Phase where
  | idle
  /-- The write was accepted and is read back. -/
  | readBack (write : PreparedWrite)
  /-- The write failed and its group is refreshed. -/
  | failedRefresh (write : PreparedWrite)
deriving DecidableEq, Repr

/-- What the coordinator keeps for one unit. -/
structure RoomCoordinator where
  room : RoomConfig
  clock : Clock
  /-- The entry of `safe_data`. -/
  data : Option RoomState := none
  /-- The entry of `_startup_states`. -/
  startup : Option RoomState := none
  confirmations : WriteConfirmations := {}
  optimisticPresets : Option (PendingValue PresetMode) := none
  optimisticIntensive : Option (PendingValue Bool) := none
  optimisticLevels : Option (PendingValue (ℤ × ℤ)) := none
  /-- Mode-group and airflow-group health when a flow write was interrupted. -/
  uncertainFlow : Option (ReadHealth × ReadHealth) := none
  /-- Fallback of the last fan write and the mode-group health it was made at. -/
  levelFallback : Option (LevelWriteFallback × ReadHealth) := none
  phase : Phase := .idle

/-- What a command does before it writes: it is refused with an error, it is done without a
write, or it sends one. -/
inductive Preparation where
  | refused (error : CommandError) (s : RoomCoordinator)
  | done (s : RoomCoordinator)
  | send (s : RoomCoordinator) (write : PreparedWrite)

/-- The replies to the read of one plan. -/
inductive PlanReply where
  | airflow (read : AirflowRead) (target : TargetReply)
  | settings (read : SettingsRead)

/-- Whether a plan reads a group back, `_READBACK_PLANS`. -/
def PlanReply.readsBack : PlanReply → ReadGroup → Bool
  | .airflow _ _, .flowControl => true
  | .settings _, .controlSettings => true
  | _, _ => false

/-- Whether the exact target is asked for after an airflow read: after a poll if the airflow
was read, after the readback of a write whenever the read did not raise. -/
def AirflowRead.mayConfirm (read : AirflowRead) (polled : Bool) : Bool :=
  if polled then read.succeeded else !read.isRaised

/-- What is known about the other units where the dictionary of all states is asked:
whether it has an entry of another unit, and whether another value is known. -/
structure Others where
  listed : Bool
  haveData : Bool
deriving DecidableEq, Repr

/-- `_levels_reported_since`. -/
def levelsReportedSince (clock : Clock) (state : RoomState)
    (baselines : ReadHealth × ReadHealth) : Bool :=
  readSince clock state .flowControl baselines.1 ||
    (!groupFresh clock state .flowControl && readSince clock state .flow baselines.2)

namespace RoomCoordinator

/-- The state that a command falls back to before the first poll. -/
def state (s : RoomCoordinator) : RoomState := s.data.getD emptyRoomState

/-- `_group_health`: the current health of a group, the baseline for ordering a write. -/
def groupHealth (s : RoomCoordinator) (group : ReadGroup) : ReadHealth :=
  ((s.data.or s.startup).getD emptyRoomState).groupReadHealth group

/-! ### What the entities read -/

/-- `_flow_write_uncertain`, the answer. -/
def flowWriteUncertain (s : RoomCoordinator) : Bool :=
  match s.uncertainFlow with
  | none => false
  | some baselines => !s.data.any (levelsReportedSince s.clock · baselines)

/-- `_flow_write_uncertain`, the effect: a marker that is no longer true is dropped. -/
def settleUncertainFlow (s : RoomCoordinator) : RoomCoordinator :=
  { s with uncertainFlow := if s.flowWriteUncertain then s.uncertainFlow else none }

/-- `optimistic_preset_mode`. -/
def optimisticPresetMode (s : RoomCoordinator) : Option PresetMode :=
  presetOverlay.active s.clock s.optimisticPresets s.data (s.data.bind (·.presetMode))

/-- `optimistic_intensive`. -/
def optimisticIntensiveValue (s : RoomCoordinator) : Option Bool :=
  intensiveOverlay.active s.clock s.optimisticIntensive s.data
    (s.data.bind (·.intensiveActive))

/-- The pair of the airflow overlay while it is shown. -/
def pendingLevels (s : RoomCoordinator) : Option (ℤ × ℤ) :=
  levelsOverlay.active s.clock s.optimisticLevels s.data
    (s.data.bind fun state => (reportedLevels s.clock state).1)

/-- `_resolve_levels`: the effective supply/extract pair and where it comes from. -/
def resolveLevels (s : RoomCoordinator) : LevelPair × Option LevelSource :=
  if s.flowWriteUncertain then ((none, none), none)
  else
    match s.pendingLevels with
    | some pending => ((some pending.1, some pending.2), some .pending)
    | none =>
      match s.data.map (reportedLevels s.clock) with
      | some (reported, source) => (reported.getD (none, none), source)
      | none => ((none, none), none)

/-- `level_write_fallback`: the fallback of the last fan write until a mode readback
follows. -/
def levelWriteFallback (s : RoomCoordinator) : Option LevelWriteFallback :=
  match s.levelFallback with
  | none => none
  | some (marker, baseline) =>
    if s.data.any (modeReadSince · baseline) then none else some marker

/-! ### From a command to a write -/

/-- Overlay `clear`, for the overlay of one write key. -/
def clearOverlay (s : RoomCoordinator) : WriteKey → RoomCoordinator
  | .airflowLevels => { s with optimisticLevels := none }
  | .presetMode => { s with optimisticPresets := none }
  | .intensive => { s with optimisticIntensive := none }
  | .operationMode | .controlSetting _ => s

/-- Overlay `set`, for the overlay of one write key. -/
def setOverlay (s : RoomCoordinator) (clock : Clock) :
    WriteKey → WriteValue → RoomCoordinator
  | .airflowLevels, .levels supply extract =>
    { s with optimisticLevels := levelsOverlay.set clock s.data (supply, extract) }
  | .presetMode, .presetMode preset =>
    { s with optimisticPresets := presetOverlay.set clock s.data preset }
  | .intensive, .intensive active =>
    { s with optimisticIntensive := intensiveOverlay.set clock s.data active }
  | _, _ => s

/-- `_async_set_level_locked`. -/
def prepareSetLevel (s : RoomCoordinator) (level : ℤ) : RoomCoordinator × PreparedWrite :=
  let s := s.clearOverlay .presetMode
  let s := if level = 0 then s.clearOverlay .intensive else s
  (s, {
    writeKey := .airflowLevels
    expectedValue := .levels level level
    call := .mode (.writeLevel level) })

/-- `_async_set_unbalanced_levels_locked`. -/
def prepareSetUnbalancedLevels (s : RoomCoordinator) (supplyLevel extractLevel : ℤ) :
    RoomCoordinator × PreparedWrite :=
  (s.clearOverlay .presetMode, {
    writeKey := .airflowLevels
    expectedValue := .levels supplyLevel extractLevel
    call := .mode (.writeUnbalancedLevels supplyLevel extractLevel) })

/-- The levels that a direction command builds on: a pending pair counts even when a
readback has already reported it. -/
def directionLevels (s : RoomCoordinator) : LevelPair × Option LevelSource :=
  match levelsOverlay.get s.clock s.optimisticLevels none with
  | some pending => ((some pending.1, some pending.2), some .pending)
  | none => s.resolveLevels

/-- **`async_set_direction_level`**, up to the write. -/
def prepareSetDirectionLevel (s : RoomCoordinator) (direction : Direction) (level : ℤ) :
    Preparation :=
  let s := s.settleUncertainFlow
  if s.flowWriteUncertain then .refused (airflowUnknown s.room) s
  else
    let (levels, source) := s.directionLevels
    match planDirectionWrite s.room s.state levels source direction level with
    | .error error => .refused error s
    | .ok (.pair supply extract, fallback) =>
      let (s, write) := s.prepareSetUnbalancedLevels supply extract
      .send s { write with directionFallback := some fallback }
    | .ok (.balanced planned, fallback) =>
      let (s, write) := s.prepareSetLevel planned
      .send s { write with directionFallback := some fallback }

/-- **`_async_set_operation_mode_locked`**, up to the write. -/
def prepareSetOperationMode (s : RoomCoordinator) (operationMode : OperationMode) :
    Preparation :=
  let s := s.settleUncertainFlow
  if s.flowWriteUncertain then .refused (airflowUnknown s.room) s
  else if operationMode = .inactive ∧ (∃ m ∈ directOperationModes, s.state.operationMode = some m) ∧
      groupFresh s.clock s.state .flowControl = true then
    .done s
  else
    let operationMode := if operationMode = .inactive then .manual else operationMode
    let levels := modeWriteLevels s.state s.resolveLevels.1
    if levels.1 = none ∧ (operationMode = .manual ∨ operationMode = .unbalanced) then
      -- Guessing 0 here would stop the unit instead of changing its mode.
      .refused (airflowUnknown s.room) s
    else
      let s := if operationMode = .off then s.clearOverlay .intensive else s
      .send (s.clearOverlay .airflowLevels) (operationModeWrite operationMode levels)

/-- **`async_clear_preset_mode`**, up to the write. -/
def prepareClearPresetMode (s : RoomCoordinator) : Preparation :=
  match s.optimisticPresetMode.or s.state.presetMode with
  | none | some .inactive => .done (s.clearOverlay .presetMode)
  | some preset =>
    match s.prepareSetOperationMode (leavePresetMode preset) with
    | .send s write => .send s { write with clearPreset := true }
    | .done s => .done (s.clearOverlay .presetMode)
    | .refused error s => .refused error s

/-- What a command does up to its write. -/
def prepare (s : RoomCoordinator) : Command → Preparation
  | .setLevel level => .send (s.prepareSetLevel level).1 (s.prepareSetLevel level).2
  | .setUnbalancedLevels supplyLevel extractLevel =>
    .send (s.prepareSetUnbalancedLevels supplyLevel extractLevel).1
      (s.prepareSetUnbalancedLevels supplyLevel extractLevel).2
  | .setDirectionLevel direction level => s.prepareSetDirectionLevel direction level
  | .setOperationMode operationMode => s.prepareSetOperationMode operationMode
  | .setPresetMode presetMode =>
    .send (s.clearOverlay .airflowLevels) {
      writeKey := .presetMode
      expectedValue := .presetMode presetMode
      call := .mode (.writePresetMode presetMode)
      readBack := true }
  | .clearPresetMode => s.prepareClearPresetMode
  | .activateIntensive =>
    .send s {
      writeKey := .intensive
      expectedValue := .intensive true
      call := .mode (.writePresetMode .intensive)
      readBack := true }
  | .deactivateIntensive =>
    .send s {
      writeKey := .intensive
      expectedValue := .intensive false
      call := .mode .clearIntensive
      readBack := true }
  | .setControlSetting settingKey value =>
    match s.confirmations.checkControlLevelRange s.room s.state settingKey value with
    | some error => .refused error s
    | none =>
      .send s {
        writeKey := .controlSetting settingKey
        expectedValue := .setting value
        call := .controlSetting settingKey value
        readBack := true }

/-! ### The outcome of a write -/

/-- The health that a readback of a write must differ from. -/
def baseline (s : RoomCoordinator) (write : PreparedWrite) : ReadHealth :=
  s.groupHealth (writeGroup write.writeKey)

/-- `_apply_level_fallback`, for a direction command. -/
def applyLevelFallback (s : RoomCoordinator) :
    Option (Option LevelWriteFallback) → RoomCoordinator
  | none => s
  | some fallback =>
    { s with levelFallback := fallback.map fun marker => (marker, s.groupHealth .flowControl) }

/-- A write that the transport accepted. -/
def accept (s : RoomCoordinator) (write : PreparedWrite) : RoomCoordinator :=
  let superseded := s.confirmations.superseded write.writeKey
  let t := { s with
    confirmations := (s.confirmations.supersede write.writeKey).recordPending s.clock.wall
      write.writeKey write.confirmedExpected (s.baseline write)
    phase := if write.readBack then .readBack write else .idle }
  let t := superseded.foldl clearOverlay t
  (t.setOverlay s.clock write.writeKey write.expectedValue).applyLevelFallback
    write.directionFallback

/-- A write that failed. -/
def fail (s : RoomCoordinator) (write : PreparedWrite) (error : String) : RoomCoordinator :=
  { s.clearOverlay write.writeKey with
    confirmations := (s.confirmations.recordPending s.clock.wall write.writeKey
      write.expectedValue (s.baseline write)).setStatus write.writeKey .failed (some error)
    phase := .failedRefresh write }

/-- A write that was cancelled: it may or may not have reached the unit. -/
def cancel (s : RoomCoordinator) (write : PreparedWrite) : RoomCoordinator :=
  let t := { s with
    confirmations := ((s.confirmations.supersede write.writeKey).recordPending s.clock.wall
      write.writeKey write.expectedValue (s.baseline write)).markUnconfirmed write.writeKey
        "Write was cancelled" }
  if writeGroup write.writeKey = .flowControl then
    { t with
      uncertainFlow := some (s.baseline write, s.groupHealth .flow)
      optimisticLevels := none
      optimisticPresets := none
      optimisticIntensive := none }
  else t

/-- `_async_write_with_confirmation_locked`, up to the readback. -/
def finishWrite (s : RoomCoordinator) (write : PreparedWrite) (outcome : WriteOutcome) :
    RoomCoordinator :=
  match write.outcome s.room outcome with
  | .accepted => s.accept write
  | .failed error => s.fail write error
  | .cancelled => s.cancel write

/-! ### Reads -/

/-- `_confirm_pending_writes`, for the state of this unit. -/
def confirmPendingWrites (s : RoomCoordinator) (state : RoomState) : RoomCoordinator :=
  { s with
    confirmations := s.confirmations.confirm s.clock.wall state
    optimisticLevels := levelsOverlay.settleIfRead s.clock s.optimisticLevels state
      (reportedLevels s.clock state).1
    optimisticPresets := presetOverlay.settleIfRead s.clock s.optimisticPresets state
      state.presetMode
    optimisticIntensive := intensiveOverlay.settleIfRead s.clock s.optimisticIntensive state
      state.intensiveActive
    levelFallback :=
      if s.levelFallback.any fun fallback => modeReadSince state fallback.2 then none
      else s.levelFallback }

/-- `_read_balanced_target_if_pending`: the table and the state it leaves. -/
def readBalancedTarget (s : RoomCoordinator) (state previousState : RoomState)
    (target : TargetReply) : WriteConfirmations × RoomState :=
  let prepared := s.confirmations.prepareBalancedTargetReadback s.clock state previousState
  if prepared.mustRead then
    match target.airflow s.room with
    | some level =>
      (prepared.confirmations, { prepared.state with balancedTargetReadback := some level })
    | none => (prepared.confirmations, prepared.state)
  else (prepared.confirmations, prepared.state)

/-- The state after the read of one plan, with the table of writes. -/
def applyReply (s : RoomCoordinator) (previousState : RoomState) (polled : Bool) :
    PlanReply → WriteConfirmations × RoomState
  | .airflow read target =>
    let state := read.apply s.room s.clock previousState
    if read.mayConfirm polled then s.readBalancedTarget state previousState target
    else (s.confirmations, state)
  | .settings read => (s.confirmations, read.apply s.room s.clock previousState)

/-- `_async_refresh_room_after_write`. -/
def refreshAfterWrite (s : RoomCoordinator) (reply : PlanReply) (finished : Clock) :
    RoomCoordinator :=
  let (confirmations, refreshed) := s.applyReply s.state false reply
  let t := { s with confirmations := confirmations, clock := finished }
  { t.confirmPendingWrites refreshed with
    data := if refreshed = s.state then s.data else some refreshed }

/-- The entry that a poll starts from. -/
def pollEntry (s : RoomCoordinator) (others : Others) : Option RoomState :=
  if s.data.isSome || others.listed then s.data else s.startup

/-- The end of `_async_update_data`: without any value the states stay startup states. -/
def finishPoll (s : RoomCoordinator) (entry : Option RoomState) (others : Others) :
    RoomCoordinator :=
  if entry.any (·.hasData) || others.haveData then
    match entry with
    | some state => { s.confirmPendingWrites state with data := some state, startup := none }
    | none => { s with data := none, startup := none }
  else { s with startup := entry }

/-- `_async_update_data` with a job of this unit. -/
def poll (s : RoomCoordinator) (reply : PlanReply) (others : Others) (finished : Clock) :
    RoomCoordinator :=
  let entry := s.pollEntry others
  let (confirmations, refreshed) := s.applyReply (entry.getD emptyRoomState) true reply
  let t := { s with confirmations := confirmations, clock := finished }
  t.finishPoll (if refreshed = entry.getD emptyRoomState then entry else some refreshed) others

end RoomCoordinator

/-! ### Steps -/

open RoomCoordinator

/-- The three expiry timers. -/
inductive Overlay where
  | levels | presets | intensive
deriving DecidableEq, Repr

/-- The write key whose overlay this is. -/
def Overlay.writeKey : Overlay → WriteKey
  | .levels => .airflowLevels
  | .presets => .presetMode
  | .intensive => .intensive

/-- What can happen next. Each read has two times, that of the replies, which the health
records and which is later than the time before the read, and that of its end. -/
inductive Label where
  | elapse (clock : Clock)
  | expire (overlay : Overlay)
  /-- An entity asks for the levels. -/
  | queryLevels
  | command (command : Command) (outcome : WriteOutcome) (finished : Clock)
  | readBack (reply : PlanReply) (replied finished : Clock)
  | cancelReadBack
  | poll (reply : PlanReply) (others : Others) (replied finished : Clock)
  /-- A poll job of another unit, or of other read groups. -/
  | otherPoll (others : Others) (finished : Clock)
  /-- A readback of another unit. -/
  | otherReadBack (finished : Clock)

/-- A clock that does not run backwards; the wall clock may. -/
def Clock.le (clock later : Clock) : Bool := decide (clock.monotonic ≤ later.monotonic)

/-- A monotonic time that is really later. -/
def Clock.lt (clock later : Clock) : Bool := decide (clock.monotonic < later.monotonic)

/-- The coordinator at a later time. -/
def RoomCoordinator.atClock (s : RoomCoordinator) (clock : Clock) : RoomCoordinator :=
  { s with clock := clock }

/-- The end of a readback: a write it has not judged turns unconfirmed. -/
def RoomCoordinator.finishReadBack (s : RoomCoordinator) (write : PreparedWrite) :
    RoomCoordinator :=
  let t := { s with
    confirmations := s.confirmations.markUnconfirmed write.writeKey
      "No matching device readback was received"
    phase := .idle }
  if write.clearPreset then t.clearOverlay .presetMode else t

/-- **One step of the coordinator**, `none` where the label is not possible. -/
def RoomCoordinator.step (s : RoomCoordinator) : Label → Option RoomCoordinator
  | .elapse clock => if s.clock.le clock then some (s.atClock clock) else none
  | .expire overlay => some (s.clearOverlay overlay.writeKey)
  | .queryLevels => some s.settleUncertainFlow
  | .command command outcome finished =>
    if s.phase = .idle ∧ s.clock.le finished = true then
      match s.prepare command with
      | .refused _ t => some t
      | .done t => some t
      | .send t write => some ((t.atClock finished).finishWrite write outcome)
    else none
  | .readBack reply replied finished =>
    if s.clock.lt replied && replied.le finished then
      match s.phase with
      | .idle => none
      | .readBack write =>
        if reply.readsBack (writeGroup write.writeKey) then
          some (((s.atClock replied).refreshAfterWrite reply finished).finishReadBack write)
        else none
      | .failedRefresh write =>
        if reply.readsBack (writeGroup write.writeKey) then
          some { (s.atClock replied).refreshAfterWrite reply finished with phase := .idle }
        else none
    else none
  | .cancelReadBack => if s.phase = .idle then none else some { s with phase := .idle }
  | .poll reply others replied finished =>
    if s.phase = .idle ∧ s.clock.lt replied = true ∧ replied.le finished = true then
      some ((s.atClock replied).poll reply others finished)
    else none
  | .otherPoll others finished =>
    if s.phase = .idle ∧ s.clock.le finished = true then
      some ((s.atClock finished).finishPoll (s.pollEntry others) others)
    else none
  | .otherReadBack finished =>
    if s.phase = .idle ∧ s.clock.le finished = true then
      match s.data with
      | some state => some ((s.atClock finished).confirmPendingWrites state)
      | none => some (s.atClock finished)
    else none

/-- A coordinator that has not polled or written anything. -/
def RoomCoordinator.Started (s : RoomCoordinator) : Prop :=
  ∃ room clock, s = { room := room, clock := clock }

end MeltemVentilation
