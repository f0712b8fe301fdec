import MeltemVentilation.Coordinator
import MeltemVentilation.CommandCodec

/-!
# What a step of the coordinator can do

The inversion lemma of `RoomCoordinator.step`, so that no invariant has to look into the
command methods again. Whatever the label, a step is put together from few effects:

* `Quiet`: time passes, overlays are dropped, markers change; the polled state and the
  write outcomes stay (`RoomCoordinator.quiet_prepare`: everything a command does before it
  writes);
* `Judged`: a state, read again or not, is what the writes and the overlays are judged by;
* the end of a write: `accept`, `fail` or `cancel`, of a write of one of five kinds
  (`PreparedWrite.Planned`).

`ReadHealth.ReadFrom` says how the health of a read group may change from some time on. It is
what orders writes and reads without a clock: health that is not the baseline of a write,
and has no error, is that of a read made after the write.
-/

namespace MeltemVentilation

/-! ### How health changes -/

/-- How the health of a group may change from the time `since` on: not at all, by a failed
read, by a read that succeeded later than `since`, or by being forgotten. -/
def ReadHealth.ReadFrom (since : Monotonic) (health later : ReadHealth) : Prop :=
  later = health ∨ later = emptyReadHealth ∨ later.lastError ≠ none ∨
    ∃ read : Clock, since ≤ read.monotonic ∧ later = .succeeded read

namespace ReadHealth

variable {since since' : Monotonic} {health later latest : ReadHealth} {clock : Clock}

theorem ReadFrom.refl : ReadFrom since health health := .inl rfl

theorem ReadFrom.trans (h : ReadFrom since health later) (h' : ReadFrom since' later latest)
    (hle : since ≤ since') : ReadFrom since health latest := by
  rcases h' with rfl | h' | h' | ⟨read, hread, h'⟩
  · exact h
  · exact .inr (.inl h')
  · exact .inr (.inr (.inl h'))
  · exact .inr (.inr (.inr ⟨read, hle.trans hread, h'⟩))

theorem lastError_failed {error : String} {timedOut : Bool} :
    (health.failed clock.wall error timedOut).lastError ≠ none := by
  simp [failed]

theorem readFrom_failed {error : String} {timedOut : Bool} :
    ReadFrom since health (health.failed clock.wall error timedOut) :=
  .inr (.inr (.inl lastError_failed))

theorem readFrom_succeeded (h : since ≤ clock.monotonic) :
    ReadFrom since health (.succeeded clock) :=
  .inr (.inr (.inr ⟨clock, h, rfl⟩))

/-- **A group that was tried, has no error and is not at its old health was read since.** -/
theorem ReadFrom.succeeded (h : ReadFrom since health later) (hne : later ≠ health)
    (htried : later.lastAttempt ≠ none) (herror : later.lastError = none) :
    ∃ read : Clock, since ≤ read.monotonic ∧ later = .succeeded read := by
  rcases h with rfl | rfl | h | h
  · exact absurd rfl hne
  · exact absurd rfl htried
  · exact absurd herror h
  · exact h

end ReadHealth

open ReadHealth (ReadFrom)

theorem BlockRead.readFrom {α : Type} (read : BlockRead α) (clock : Clock)
    (previous : ReadHealth) :
    ReadFrom clock.monotonic previous (read.health clock previous) := by
  cases read with
  | values _ => exact ReadHealth.readFrom_succeeded (le_refl _)
  | failed error timedOut => exact ReadHealth.readFrom_failed
  | skipped => exact .refl

theorem recordReadFailures_readFrom {wall : WallTime} {room : RoomConfig} {error : String}
    {groups : List ReadGroup} (since : Monotonic) (state : RoomState) (group : ReadGroup) :
    ReadFrom since (state.groupReadHealth group)
      ((recordReadFailures wall room error groups state).groupReadHealth group) := by
  simp only [recordReadFailures]
  split
  · exact .inr (.inr (.inl (by simp [ReadHealth.failed])))
  · exact .refl

theorem AirflowRead.readFrom (room : RoomConfig) (clock : Clock) (previous : RoomState)
    (read : AirflowRead) (group : ReadGroup) :
    ReadFrom clock.monotonic (previous.groupReadHealth group)
      ((read.apply room clock previous).groupReadHealth group) := by
  cases read with
  | quarantined => exact .refl
  | raised error => exact recordReadFailures_readFrom _ _ _
  | blocks flow mode =>
    cases group <;> first | exact flow.readFrom _ _ | exact mode.readFrom _ _ | exact .refl

theorem SettingsRead.readFrom (room : RoomConfig) (clock : Clock) (previous : RoomState)
    (read : SettingsRead) (group : ReadGroup) :
    ReadFrom clock.monotonic (previous.groupReadHealth group)
      ((read.apply room clock previous).groupReadHealth group) := by
  cases read with
  | quarantined => exact .refl
  | raised error => exact recordReadFailures_readFrom _ _ _
  | block settings =>
    simp only [SettingsRead.apply]
    split
    · cases group <;> first | exact settings.readFrom _ _ | exact .refl
    · exact .refl

/-! ### The exact target changes nothing else -/

/-- Preparing the read of the exact target keeps the outcomes, and all of the state but the
exact target itself. -/
theorem prepareBalancedTargetReadback_frame (confirmations : WriteConfirmations)
    (clock : Clock) (state previous : RoomState) :
    (confirmations.prepareBalancedTargetReadback clock state previous).confirmations.byKey =
        confirmations.byKey ∧
      ∃ readback, (confirmations.prepareBalancedTargetReadback clock state previous).state =
        { state with balancedTargetReadback := readback } := by
  unfold WriteConfirmations.prepareBalancedTargetReadback
  split
  · exact ⟨rfl, state.balancedTargetReadback, rfl⟩
  · split
    · exact ⟨rfl, state.balancedTargetReadback, rfl⟩
    · split
      · exact ⟨rfl, state.balancedTargetReadback, rfl⟩
      · dsimp only
        split
        · exact ⟨rfl, _, rfl⟩
        · exact ⟨rfl, state.balancedTargetReadback, rfl⟩

theorem RoomCoordinator.readBalancedTarget_frame (s : RoomCoordinator)
    (state previous : RoomState) (target : TargetReply) :
    (s.readBalancedTarget state previous target).1.byKey = s.confirmations.byKey ∧
      ∃ readback, (s.readBalancedTarget state previous target).2 =
        { state with balancedTargetReadback := readback } := by
  obtain ⟨hbyKey, readback, hstate⟩ :=
    prepareBalancedTargetReadback_frame s.confirmations s.clock state previous
  unfold RoomCoordinator.readBalancedTarget
  dsimp only
  split
  · split
    · exact ⟨hbyKey, _, by rw [hstate]⟩
    · exact ⟨hbyKey, _, hstate⟩
  · exact ⟨hbyKey, _, hstate⟩

/-- The state that a reply gives, before the exact target is read. -/
def PlanReply.state (room : RoomConfig) (clock : Clock) (previous : RoomState) :
    PlanReply → RoomState
  | .airflow read _ => read.apply room clock previous
  | .settings read => read.apply room clock previous

theorem RoomCoordinator.applyReply_frame (s : RoomCoordinator) (previous : RoomState)
    (polled : Bool) (reply : PlanReply) :
    (s.applyReply previous polled reply).1.byKey = s.confirmations.byKey ∧
      ∃ readback, (s.applyReply previous polled reply).2 =
        { reply.state s.room s.clock previous with balancedTargetReadback := readback } := by
  cases reply with
  | airflow read target =>
    simp only [applyReply, PlanReply.state]
    split
    · exact s.readBalancedTarget_frame _ _ _
    · exact ⟨rfl, _, rfl⟩
  | settings read => exact ⟨rfl, (read.apply s.room s.clock previous).balancedTargetReadback, rfl⟩

theorem PlanReply.readFrom (room : RoomConfig) (clock : Clock) (previous : RoomState)
    (reply : PlanReply) (group : ReadGroup) :
    ReadFrom clock.monotonic (previous.groupReadHealth group)
      ((reply.state room clock previous).groupReadHealth group) := by
  cases reply with
  | airflow read target => exact read.readFrom _ _ _ _
  | settings read => exact read.readFrom _ _ _ _

/-! ### Quiet changes -/

namespace RoomCoordinator

/-- The overlays of `t` are overlays of `s`, or have been dropped. -/
structure OverlaysKept (s t : RoomCoordinator) : Prop where
  presets : t.optimisticPresets = s.optimisticPresets ∨ t.optimisticPresets = none
  intensive : t.optimisticIntensive = s.optimisticIntensive ∨ t.optimisticIntensive = none
  levels : t.optimisticLevels = s.optimisticLevels ∨ t.optimisticLevels = none

theorem OverlaysKept.refl (s : RoomCoordinator) : s.OverlaysKept s :=
  ⟨.inl rfl, .inl rfl, .inl rfl⟩

theorem OverlaysKept.trans {s t u : RoomCoordinator} (h : s.OverlaysKept t)
    (h' : t.OverlaysKept u) : s.OverlaysKept u where
  presets := h'.presets.elim (fun e => e ▸ h.presets) .inr
  intensive := h'.intensive.elim (fun e => e ▸ h.intensive) .inr
  levels := h'.levels.elim (fun e => e ▸ h.levels) .inr

/-- Time passes and pending values are dropped; what was polled and written stays. -/
structure Quiet (s t : RoomCoordinator) : Prop extends s.OverlaysKept t where
  room : t.room = s.room
  clock : s.clock.monotonic ≤ t.clock.monotonic
  data : t.data = s.data
  startup : t.startup = s.startup
  confirmations : t.confirmations = s.confirmations

variable {s t u : RoomCoordinator} {write : PreparedWrite} {reply : PlanReply}
  {command : Command} {outcome : WriteOutcome} {label : Label} {clock finished : Clock}

theorem Quiet.refl (s : RoomCoordinator) : s.Quiet s :=
  ⟨.refl s, rfl, le_refl _, rfl, rfl, rfl⟩

theorem Quiet.trans (h : s.Quiet t) (h' : t.Quiet u) : s.Quiet u where
  toOverlaysKept := h.toOverlaysKept.trans h'.toOverlaysKept
  room := h'.room.trans h.room
  clock := h.clock.trans h'.clock
  data := h'.data.trans h.data
  startup := h'.startup.trans h.startup
  confirmations := h'.confirmations.trans h.confirmations

theorem quiet_clearOverlay (s : RoomCoordinator) (key : WriteKey) :
    s.Quiet (s.clearOverlay key) := by
  cases key <;> exact ⟨⟨by simp [clearOverlay], by simp [clearOverlay], by simp [clearOverlay]⟩,
    rfl, le_refl _, rfl, rfl, rfl⟩

theorem quiet_settleUncertainFlow (s : RoomCoordinator) : s.Quiet s.settleUncertainFlow :=
  ⟨⟨.inl rfl, .inl rfl, .inl rfl⟩, rfl, le_refl _, rfl, rfl, rfl⟩

@[simp] theorem atClock_clock (s : RoomCoordinator) (clock : Clock) :
    (s.atClock clock).clock = clock := rfl

theorem quiet_atClock (h : s.clock.le clock = true) : s.Quiet (s.atClock clock) :=
  ⟨⟨.inl rfl, .inl rfl, .inl rfl⟩, rfl, of_decide_eq_true h, rfl, rfl, rfl⟩

theorem Quiet.atClock (h : s.Quiet t) (hle : s.clock.le finished = true) :
    s.Quiet (t.atClock finished) :=
  ⟨⟨h.presets, h.intensive, h.levels⟩, h.room, of_decide_eq_true hle, h.data, h.startup,
    h.confirmations⟩

theorem Quiet.groupHealth (h : s.Quiet t) (group : ReadGroup) :
    t.groupHealth group = s.groupHealth group := by
  simp only [RoomCoordinator.groupHealth, h.data, h.startup]

theorem Quiet.state (h : s.Quiet t) : t.state = s.state := by
  simp only [RoomCoordinator.state, h.data]

end RoomCoordinator

/-! ### The writes of the commands -/

/-- **The kinds of writes that the commands plan**: what is expected, what is sent, and
whether the write is read back. -/
inductive PreparedWrite.Planned : PreparedWrite → Prop
  | level (level : ℤ) (fallback : Option (Option LevelWriteFallback)) :
    Planned ⟨.airflowLevels, .levels level level, .mode (.writeLevel level), false, fallback, false⟩
  | unbalancedLevels (supply extract : ℤ) (fallback : Option (Option LevelWriteFallback)) :
    Planned ⟨.airflowLevels, .levels supply extract,
      .mode (.writeUnbalancedLevels supply extract), false, fallback, false⟩
  | operationMode (mode : OperationMode) (balanced extract : ℤ) (clearPreset : Bool) :
    mode ≠ .inactive → Planned ⟨.operationMode, .operationMode mode,
      .mode (.writeOperatingMode mode balanced extract), true, none, clearPreset⟩
  | presetMode (preset : PresetMode) :
    Planned ⟨.presetMode, .presetMode preset, .mode (.writePresetMode preset), true, none, false⟩
  | activateIntensive :
    Planned ⟨.intensive, .intensive true, .mode (.writePresetMode .intensive), true, none, false⟩
  | deactivateIntensive :
    Planned ⟨.intensive, .intensive false, .mode .clearIntensive, true, none, false⟩
  | controlSetting (key : ControlSetting) (value : ℤ) :
    Planned ⟨.controlSetting key, .setting value, .controlSetting key value, true, none, false⟩

/-- The replies of a step, and when they came. -/
def Label.reply : Label → Option (PlanReply × Clock)
  | .readBack reply replied _ | .poll reply _ replied _ => some (reply, replied)
  | _ => none

/-- What the preparation of a command may leave: a quiet change, and if a write is sent, one
of the planned kinds. -/
def Preparation.Sound (s : RoomCoordinator) : Preparation → Prop
  | .refused _ t | .done t => s.Quiet t
  | .send t write => s.Quiet t ∧ write.Planned

theorem Preparation.Sound.trans {s t : RoomCoordinator} {prepared : Preparation} (h : s.Quiet t)
    (h' : prepared.Sound t) : prepared.Sound s := by
  cases prepared with
  | refused error u => exact RoomCoordinator.Quiet.trans h h'
  | done u => exact RoomCoordinator.Quiet.trans h h'
  | send u write => exact ⟨h.trans h'.1, h'.2⟩

namespace RoomCoordinator

variable {s t u : RoomCoordinator} {write : PreparedWrite} {reply : PlanReply}
  {command : Command} {outcome : WriteOutcome} {label : Label} {clock finished : Clock}

theorem quiet_prepareSetLevel (s : RoomCoordinator) (level : ℤ) :
    s.Quiet (s.prepareSetLevel level).1 := by
  unfold prepareSetLevel
  dsimp only
  split
  · exact (quiet_clearOverlay s _).trans (quiet_clearOverlay _ _)
  · exact quiet_clearOverlay s _

theorem quiet_prepareSetUnbalancedLevels (s : RoomCoordinator) (supply extract : ℤ) :
    s.Quiet (s.prepareSetUnbalancedLevels supply extract).1 :=
  quiet_clearOverlay s .presetMode

theorem sound_prepareSetDirectionLevel (s : RoomCoordinator) (direction : Direction)
    (level : ℤ) : (s.prepareSetDirectionLevel direction level).Sound s := by
  refine Preparation.Sound.trans (quiet_settleUncertainFlow s) ?_
  unfold prepareSetDirectionLevel
  generalize s.settleUncertainFlow = t
  dsimp only
  split
  · exact Quiet.refl t
  · split
    · exact Quiet.refl t
    · exact ⟨quiet_prepareSetUnbalancedLevels t _ _, .unbalancedLevels _ _ _⟩
    · exact ⟨quiet_prepareSetLevel t _, .level _ _⟩

/-- What `prepareSetOperationMode` leaves of the overlays before it writes. -/
def leaveOverlays (s : RoomCoordinator) (mode : OperationMode) : RoomCoordinator :=
  (if mode = .off then s.clearOverlay .intensive else s).clearOverlay .airflowLevels

theorem quiet_leaveOverlays (s : RoomCoordinator) (mode : OperationMode) :
    s.Quiet (s.leaveOverlays mode) := by
  unfold leaveOverlays
  split
  · exact (quiet_clearOverlay s _).trans (quiet_clearOverlay _ _)
  · exact quiet_clearOverlay s _

/-- **What an operating-mode command does**: it is refused, it is done, or it sends the mode
with the levels it keeps. -/
theorem prepareSetOperationMode_cases (s : RoomCoordinator) (mode : OperationMode) :
    (∃ error, s.prepareSetOperationMode mode = .refused error s.settleUncertainFlow) ∨
      s.prepareSetOperationMode mode = .done s.settleUncertainFlow ∨
      ∃ sent, sent ≠ .inactive ∧ (mode ≠ .inactive → sent = mode) ∧
        s.settleUncertainFlow.flowWriteUncertain = false ∧
        s.prepareSetOperationMode mode =
          .send (s.settleUncertainFlow.leaveOverlays sent)
            (operationModeWrite sent (modeWriteLevels s.settleUncertainFlow.state
              s.settleUncertainFlow.resolveLevels.1)) := by
  unfold prepareSetOperationMode
  generalize s.settleUncertainFlow = t
  dsimp only
  by_cases huncertain : t.flowWriteUncertain = true
  · exact .inl ⟨_, by rw [if_pos huncertain]⟩
  rw [if_neg huncertain]
  split
  · exact .inr (.inl rfl)
  by_cases hlevels : (modeWriteLevels t.state t.resolveLevels.1).1 = none ∧
      ((if mode = .inactive then OperationMode.manual else mode) = .manual ∨
        (if mode = .inactive then OperationMode.manual else mode) = .unbalanced)
  · exact .inl ⟨_, by rw [if_pos hlevels]⟩
  · rw [if_neg hlevels]
    refine .inr (.inr ⟨if mode = .inactive then .manual else mode, ?_, ?_,
      Bool.eq_false_iff.mpr huncertain, rfl⟩)
    · split
      · decide
      · assumption
    · exact fun hne => if_neg hne

theorem sound_prepareSetOperationMode (s : RoomCoordinator) (mode : OperationMode) :
    (s.prepareSetOperationMode mode).Sound s := by
  have hquiet := quiet_settleUncertainFlow s
  rcases s.prepareSetOperationMode_cases mode with ⟨error, h⟩ | h | ⟨sent, hne, -, -, h⟩ <;>
    rw [h]
  · exact hquiet
  · exact hquiet
  · exact ⟨hquiet.trans (quiet_leaveOverlays _ _), .operationMode _ _ _ _ hne⟩

/-- What leaving a quick mode does: nothing but dropping the overlay, or what the
operating-mode command does. -/
theorem prepareClearPresetMode_cases (s : RoomCoordinator) :
    s.prepareClearPresetMode = .done (s.clearOverlay .presetMode) ∨
      ∃ preset, s.optimisticPresetMode.or s.state.presetMode = some preset ∧
        ((∃ error t, s.prepareSetOperationMode (leavePresetMode preset) = .refused error t ∧
            s.prepareClearPresetMode = .refused error t) ∨
          (∃ t, s.prepareSetOperationMode (leavePresetMode preset) = .done t ∧
            s.prepareClearPresetMode = .done (t.clearOverlay .presetMode)) ∨
          ∃ t write, s.prepareSetOperationMode (leavePresetMode preset) = .send t write ∧
            s.prepareClearPresetMode = .send t { write with clearPreset := true }) := by
  unfold prepareClearPresetMode
  split
  · exact .inl rfl
  · exact .inl rfl
  · rename_i preset _ heq
    refine .inr ⟨preset, heq, ?_⟩
    rcases h : s.prepareSetOperationMode (leavePresetMode preset) with ⟨error, t⟩ | t | ⟨t, write⟩
    · exact .inl ⟨error, t, rfl, rfl⟩
    · exact .inr (.inl ⟨t, rfl, rfl⟩)
    · exact .inr (.inr ⟨t, write, rfl, rfl⟩)

theorem sound_prepareClearPresetMode (s : RoomCoordinator) :
    s.prepareClearPresetMode.Sound s := by
  rcases s.prepareClearPresetMode_cases with h | ⟨preset, -, ⟨error, t, hmode, h⟩ |
    ⟨t, hmode, h⟩ | ⟨t, write, hmode, h⟩⟩ <;> rw [h]
  · exact quiet_clearOverlay s _
  all_goals
    have hsound := s.sound_prepareSetOperationMode (leavePresetMode preset)
    have hcases := s.prepareSetOperationMode_cases (leavePresetMode preset)
    rw [hmode] at hsound hcases
  · exact hsound
  · exact Quiet.trans hsound (quiet_clearOverlay t _)
  · obtain ⟨error, he⟩ | he | ⟨sent, hne, -, -, he⟩ := hcases
    · cases he
    · cases he
    · cases he
      exact ⟨hsound.1, .operationMode _ _ _ _ hne⟩

/-- **What a command does before it writes is quiet**, and the write it sends is planned. -/
theorem sound_prepare (s : RoomCoordinator) (command : Command) :
    (s.prepare command).Sound s := by
  cases command with
  | setLevel level => exact ⟨quiet_prepareSetLevel s level, .level _ _⟩
  | setUnbalancedLevels supply extract =>
    exact ⟨quiet_prepareSetUnbalancedLevels s _ _, .unbalancedLevels _ _ _⟩
  | setDirectionLevel direction level => exact s.sound_prepareSetDirectionLevel direction level
  | setOperationMode mode => exact s.sound_prepareSetOperationMode mode
  | setPresetMode preset => exact ⟨quiet_clearOverlay s _, .presetMode _⟩
  | clearPresetMode => exact s.sound_prepareClearPresetMode
  | activateIntensive => exact ⟨.refl s, .activateIntensive⟩
  | deactivateIntensive => exact ⟨.refl s, .deactivateIntensive⟩
  | setControlSetting key value =>
    simp only [prepare]
    split
    · exact Quiet.refl s
    · exact ⟨.refl s, .controlSetting _ _⟩

/-- **Which write a command sends, and in which state**, with the checks it has passed. -/
inductive Sends (s : RoomCoordinator) : Command → RoomCoordinator → PreparedWrite → Prop
  | level (level : ℤ) :
    Sends s (.setLevel level) (s.prepareSetLevel level).1 (s.prepareSetLevel level).2
  | unbalancedLevels (supply extract : ℤ) :
    Sends s (.setUnbalancedLevels supply extract)
      (s.prepareSetUnbalancedLevels supply extract).1
      (s.prepareSetUnbalancedLevels supply extract).2
  | directionBalanced (direction : Direction) (level planned : ℤ)
    (fallback : Option LevelWriteFallback) :
    s.settleUncertainFlow.flowWriteUncertain = false →
    planDirectionWrite s.room s.state s.settleUncertainFlow.directionLevels.1
      s.settleUncertainFlow.directionLevels.2 direction level =
        .ok (.balanced planned, fallback) →
    Sends s (.setDirectionLevel direction level) (s.settleUncertainFlow.prepareSetLevel planned).1
      { (s.settleUncertainFlow.prepareSetLevel planned).2 with
        directionFallback := some fallback }
  | directionPair (direction : Direction) (level supply extract : ℤ)
    (fallback : Option LevelWriteFallback) :
    s.settleUncertainFlow.flowWriteUncertain = false →
    planDirectionWrite s.room s.state s.settleUncertainFlow.directionLevels.1
      s.settleUncertainFlow.directionLevels.2 direction level =
        .ok (.pair supply extract, fallback) →
    Sends s (.setDirectionLevel direction level)
      (s.settleUncertainFlow.prepareSetUnbalancedLevels supply extract).1
      { (s.settleUncertainFlow.prepareSetUnbalancedLevels supply extract).2 with
        directionFallback := some fallback }
  | operationMode (mode sent : OperationMode) :
    sent ≠ .inactive → (mode ≠ .inactive → sent = mode) →
    s.settleUncertainFlow.flowWriteUncertain = false →
    Sends s (.setOperationMode mode) (s.settleUncertainFlow.leaveOverlays sent)
      (operationModeWrite sent (modeWriteLevels s.settleUncertainFlow.state
        s.settleUncertainFlow.resolveLevels.1))
  | presetMode (preset : PresetMode) :
    Sends s (.setPresetMode preset) (s.clearOverlay .airflowLevels)
      ⟨.presetMode, .presetMode preset, .mode (.writePresetMode preset), true, none, false⟩
  | clearPresetMode (preset : PresetMode) (t : RoomCoordinator) (write : PreparedWrite) :
    s.optimisticPresetMode.or s.state.presetMode = some preset →
    Sends s (.setOperationMode (leavePresetMode preset)) t write →
    Sends s .clearPresetMode t { write with clearPreset := true }
  | activateIntensive :
    Sends s .activateIntensive s
      ⟨.intensive, .intensive true, .mode (.writePresetMode .intensive), true, none, false⟩
  | deactivateIntensive :
    Sends s .deactivateIntensive s
      ⟨.intensive, .intensive false, .mode .clearIntensive, true, none, false⟩
  | controlSetting (key : ControlSetting) (value : ℤ) :
    s.confirmations.checkControlLevelRange s.room s.state key value = none →
    Sends s (.setControlSetting key value) s
      ⟨.controlSetting key, .setting value, .controlSetting key value, true, none, false⟩

theorem sends_prepareSetOperationMode {mode : OperationMode}
    (h : s.prepareSetOperationMode mode = .send u write) :
    s.Sends (.setOperationMode mode) u write := by
  rcases s.prepareSetOperationMode_cases mode with ⟨error, he⟩ | he |
    ⟨sent, hne, hmode, hcertain, he⟩
  all_goals
    rw [he] at h
    cases h
  exact .operationMode mode sent hne hmode hcertain

/-- **The inversion of a command that sends a write.** -/
theorem sends_of_prepare (h : s.prepare command = .send u write) : s.Sends command u write := by
  cases command with
  | setLevel level =>
    cases h
    exact .level level
  | setUnbalancedLevels supply extract =>
    cases h
    exact .unbalancedLevels supply extract
  | setDirectionLevel direction level =>
    -- The plan is refused, a pair of levels, or one level for both directions.
    simp only [prepare, prepareSetDirectionLevel] at h
    split at h
    · cases h
    · rename_i hcertain
      split at h
      · cases h
      · rename_i hplan
        cases h
        exact .directionPair direction level _ _ _ (Bool.eq_false_iff.mpr hcertain) hplan
      · rename_i hplan
        cases h
        exact .directionBalanced direction level _ _ (Bool.eq_false_iff.mpr hcertain) hplan
  | setOperationMode mode => exact sends_prepareSetOperationMode h
  | setPresetMode preset =>
    cases h
    exact .presetMode preset
  | clearPresetMode =>
    -- Leaving a preset is the operation mode write it asks for, and refused or done with it.
    rcases s.prepareClearPresetMode_cases with he | ⟨preset, hpreset, ⟨error, t, hmode, he⟩ |
      ⟨t, hmode, he⟩ | ⟨t, inner, hmode, he⟩⟩
    all_goals
      rw [prepare, he] at h
      cases h
    exact .clearPresetMode preset _ inner hpreset (sends_prepareSetOperationMode hmode)
  | activateIntensive =>
    cases h
    exact .activateIntensive
  | deactivateIntensive =>
    cases h
    exact .deactivateIntensive
  | setControlSetting key value =>
    simp only [prepare] at h
    split at h
    · cases h
    · rename_i hrange
      cases h
      exact .controlSetting key value hrange

/-! ### The end of a write -/

@[simp] theorem clearOverlay_room (key : WriteKey) : (s.clearOverlay key).room = s.room := by
  cases key <;> rfl

@[simp] theorem clearOverlay_clock (key : WriteKey) : (s.clearOverlay key).clock = s.clock := by
  cases key <;> rfl

@[simp] theorem clearOverlay_data (key : WriteKey) : (s.clearOverlay key).data = s.data := by
  cases key <;> rfl

@[simp] theorem clearOverlay_startup (key : WriteKey) :
    (s.clearOverlay key).startup = s.startup := by
  cases key <;> rfl

@[simp] theorem clearOverlay_confirmations (key : WriteKey) :
    (s.clearOverlay key).confirmations = s.confirmations := by
  cases key <;> rfl

theorem clearOverlay_levels (key : WriteKey) : (s.clearOverlay key).optimisticLevels =
    if key = .airflowLevels then none else s.optimisticLevels := by
  cases key <;> rfl

theorem clearOverlay_presets (key : WriteKey) : (s.clearOverlay key).optimisticPresets =
    if key = .presetMode then none else s.optimisticPresets := by
  cases key <;> rfl

theorem clearOverlay_intensive (key : WriteKey) : (s.clearOverlay key).optimisticIntensive =
    if key = .intensive then none else s.optimisticIntensive := by
  cases key <;> rfl

/-- Dropping overlays one after the other changes nothing else. -/
theorem foldl_clearOverlay (keys : List WriteKey) (s : RoomCoordinator) :
    (keys.foldl clearOverlay s).room = s.room ∧ (keys.foldl clearOverlay s).clock = s.clock ∧
      (keys.foldl clearOverlay s).data = s.data ∧
      (keys.foldl clearOverlay s).startup = s.startup ∧
      (keys.foldl clearOverlay s).confirmations = s.confirmations ∧
      (keys.foldl clearOverlay s).optimisticLevels =
        (if .airflowLevels ∈ keys then none else s.optimisticLevels) ∧
      (keys.foldl clearOverlay s).optimisticPresets =
        (if .presetMode ∈ keys then none else s.optimisticPresets) ∧
      (keys.foldl clearOverlay s).optimisticIntensive =
        (if .intensive ∈ keys then none else s.optimisticIntensive) := by
  induction keys generalizing s with
  | nil => exact ⟨rfl, rfl, rfl, rfl, rfl, rfl, rfl, rfl⟩
  | cons key keys ih =>
    obtain ⟨hroom, hclock, hdata, hstartup, hconf, hlevels, hpresets, hintensive⟩ :=
      ih (s.clearOverlay key)
    refine ⟨by simpa using hroom, by simpa using hclock, by simpa using hdata,
      by simpa using hstartup, by simpa using hconf, ?_, ?_, ?_⟩
    · rw [List.foldl_cons, hlevels, clearOverlay_levels]
      by_cases hkey : key = .airflowLevels <;> simp [hkey, eq_comm]
    · rw [List.foldl_cons, hpresets, clearOverlay_presets]
      by_cases hkey : key = .presetMode <;> simp [hkey, eq_comm]
    · rw [List.foldl_cons, hintensive, clearOverlay_intensive]
      by_cases hkey : key = .intensive <;> simp [hkey, eq_comm]

section Accept

variable (s : RoomCoordinator) (write : PreparedWrite)

/-- **What an accepted write does.** -/
theorem accept_frame :
    (s.accept write).room = s.room ∧ (s.accept write).clock = s.clock ∧
      (s.accept write).data = s.data ∧ (s.accept write).startup = s.startup ∧
      (s.accept write).confirmations = (s.confirmations.supersede write.writeKey).recordPending
        s.clock.wall write.writeKey write.confirmedExpected (s.baseline write) ∧
      (s.accept write).optimisticLevels =
        (match write.writeKey, write.expectedValue with
          | .airflowLevels, .levels supply extract =>
            levelsOverlay.set s.clock s.data (supply, extract)
          | _, _ => if .airflowLevels ∈ s.confirmations.superseded write.writeKey then none
            else s.optimisticLevels) ∧
      (s.accept write).optimisticPresets =
        (match write.writeKey, write.expectedValue with
          | .presetMode, .presetMode preset => presetOverlay.set s.clock s.data preset
          | _, _ => if .presetMode ∈ s.confirmations.superseded write.writeKey then none
            else s.optimisticPresets) ∧
      (s.accept write).optimisticIntensive =
        (match write.writeKey, write.expectedValue with
          | .intensive, .intensive active => intensiveOverlay.set s.clock s.data active
          | _, _ => s.optimisticIntensive) := by
  obtain ⟨hroom, hclock, hdata, hstartup, hconf, hlevels, hpresets, hintensive⟩ :=
    foldl_clearOverlay (s.confirmations.superseded write.writeKey) { s with
      confirmations := (s.confirmations.supersede write.writeKey).recordPending s.clock.wall
        write.writeKey write.confirmedExpected (s.baseline write)
      phase := if write.readBack then .readBack write else .idle }
  have hnot : WriteKey.intensive ∉ s.confirmations.superseded write.writeKey := by
    simp [WriteConfirmations.mem_superseded, baseModeWrites]
  rw [if_neg hnot] at hintensive
  unfold accept
  dsimp only
  generalize (s.confirmations.superseded write.writeKey).foldl clearOverlay _ = u at *
  unfold applyLevelFallback setOverlay
  refine ⟨?_, ?_, ?_, ?_, ?_, ?_, ?_, ?_⟩ <;> split <;> split <;> simp_all

/-- **What a failed write does.** -/
theorem fail_frame (error : String) :
    (s.fail write error).room = s.room ∧ (s.fail write error).clock = s.clock ∧
      (s.fail write error).data = s.data ∧ (s.fail write error).startup = s.startup ∧
      (s.fail write error).confirmations = (s.confirmations.recordPending s.clock.wall
        write.writeKey write.expectedValue (s.baseline write)).setStatus write.writeKey .failed
          (some error) ∧
      (s.fail write error).optimisticLevels =
        (if write.writeKey = .airflowLevels then none else s.optimisticLevels) ∧
      (s.fail write error).optimisticPresets =
        (if write.writeKey = .presetMode then none else s.optimisticPresets) ∧
      (s.fail write error).optimisticIntensive =
        (if write.writeKey = .intensive then none else s.optimisticIntensive) := by
  unfold fail
  exact ⟨clearOverlay_room _, clearOverlay_clock _, clearOverlay_data _, clearOverlay_startup _,
    rfl, clearOverlay_levels _, clearOverlay_presets _, clearOverlay_intensive _⟩

/-- **What a cancelled write does.** -/
theorem cancel_frame :
    (s.cancel write).room = s.room ∧ (s.cancel write).clock = s.clock ∧
      (s.cancel write).data = s.data ∧ (s.cancel write).startup = s.startup ∧
      (s.cancel write).confirmations = ((s.confirmations.supersede write.writeKey).recordPending
        s.clock.wall write.writeKey write.expectedValue (s.baseline write)).markUnconfirmed
          write.writeKey "Write was cancelled" ∧
      s.OverlaysKept (s.cancel write) ∧
      (writeGroup write.writeKey = .flowControl → (s.cancel write).optimisticLevels = none ∧
        (s.cancel write).optimisticPresets = none ∧
        (s.cancel write).optimisticIntensive = none) := by
  unfold cancel
  dsimp only
  split
  · exact ⟨rfl, rfl, rfl, rfl, rfl, ⟨.inr rfl, .inr rfl, .inr rfl⟩, fun _ => ⟨rfl, rfl, rfl⟩⟩
  · exact ⟨rfl, rfl, rfl, rfl, rfl, ⟨.inl rfl, .inl rfl, .inl rfl⟩, fun h => absurd h ‹_›⟩

/-- **What the end of a readback does.** -/
theorem finishReadBack_frame :
    (s.finishReadBack write).room = s.room ∧ (s.finishReadBack write).clock = s.clock ∧
      (s.finishReadBack write).data = s.data ∧ (s.finishReadBack write).startup = s.startup ∧
      (s.finishReadBack write).confirmations = s.confirmations.markUnconfirmed write.writeKey
        "No matching device readback was received" ∧
      s.OverlaysKept (s.finishReadBack write) := by
  unfold finishReadBack
  dsimp only
  split
  · exact ⟨rfl, rfl, rfl, rfl, rfl, ⟨.inr rfl, .inl rfl, .inl rfl⟩⟩
  · exact ⟨rfl, rfl, rfl, rfl, rfl, ⟨.inl rfl, .inl rfl, .inl rfl⟩⟩

end Accept

/-- The write of a step and what became of it. -/
def writeOf (s : RoomCoordinator) : Label → Option (PreparedWrite × WriteOutcome)
  | .command command outcome _ =>
    match s.prepare command with
    | .send _ write => some (write, write.outcome s.room outcome)
    | .refused _ _ | .done _ => none
  | _ => none

/-! ### Judging by a state -/

/-- A state from which a read may start: the polled one, or the startup one. -/
def Previous (s : RoomCoordinator) (state : RoomState) : Prop :=
  state = s.state ∨ (s.data = none ∧ s.startup = some state)

/-- The state that the replies of a step give, and when the step ends. -/
def readState (s : RoomCoordinator) : Label → Option (RoomState × Clock)
  | .readBack reply replied finished =>
    some (((s.atClock replied).applyReply s.state false reply).2, finished)
  | .poll reply others replied finished =>
    some (((s.atClock replied).applyReply ((s.pollEntry others).getD emptyRoomState) true
      reply).2, finished)
  | _ => none

/-- Where a judged state comes from: a step without replies judges by what was known before,
and a step with replies by what they make of it. -/
def Source (s : RoomCoordinator) (label : Label) (state : RoomState) (finished : Clock) : Prop :=
  (label.reply = none ∧ s.Previous state) ∨ (s.readState label = some (state, finished) ∧
    ∃ previous reply replied polled, s.Previous previous ∧
      label.reply = some (reply, replied) ∧ s.clock.monotonic < replied.monotonic ∧
      replied.monotonic ≤ finished.monotonic ∧
      state = ((s.atClock replied).applyReply previous polled reply).2)

/-- The writes and the overlays are judged by `state`, which is the polled state then. -/
structure Judged (s : RoomCoordinator) (label : Label) (state : RoomState)
    (t : RoomCoordinator) : Prop where
  room : t.room = s.room
  clock : s.clock.monotonic ≤ t.clock.monotonic
  source : s.Source label state t.clock
  data : t.data = some state ∨ (t.data = none ∧ s.data = none ∧ state = emptyRoomState)
  startup : t.startup = none ∨ t.startup = s.startup
  byKey : t.confirmations.byKey = (s.confirmations.confirm t.clock.wall state).byKey
  levels : t.optimisticLevels = levelsOverlay.settleIfRead t.clock s.optimisticLevels state
    (reportedLevels t.clock state).1
  presets : t.optimisticPresets = presetOverlay.settleIfRead t.clock s.optimisticPresets state
    state.presetMode
  intensive : t.optimisticIntensive = intensiveOverlay.settleIfRead t.clock
    s.optimisticIntensive state state.intensiveActive
  stateHealth : ∀ group, ReadFrom s.clock.monotonic (s.groupHealth group)
    (state.groupReadHealth group)
  health : ∀ group, ReadFrom s.clock.monotonic (s.groupHealth group) (t.groupHealth group)

/-- A poll that leaves no value: only the startup state may change. -/
structure StartupOnly (s : RoomCoordinator) (label : Label) (t : RoomCoordinator) : Prop where
  room : t.room = s.room
  clock : s.clock.monotonic ≤ t.clock.monotonic
  data : t.data = s.data
  startup : ∀ state ∈ t.startup, state.hasData = false
  source : s.data.isSome → ∃ state ∈ t.startup, s.Source label state t.clock
  startupSource : ∀ state ∈ t.startup, s.Source label state t.clock
  byKey : t.confirmations.byKey = s.confirmations.byKey
  levels : t.optimisticLevels = s.optimisticLevels
  presets : t.optimisticPresets = s.optimisticPresets
  intensive : t.optimisticIntensive = s.optimisticIntensive
  health : ∀ group, ReadFrom s.clock.monotonic (s.groupHealth group) (t.groupHealth group)

/-- A step that judges by a state leaves it as the polled state. -/
theorem Judged.state_eq {state : RoomState} (h : s.Judged label state t) : t.state = state := by
  rcases h.data with hdata | ⟨hdata, -, rfl⟩ <;> simp [RoomCoordinator.state, hdata]

theorem StartupOnly.state_eq (h : s.StartupOnly label t) : t.state = s.state := by
  simp only [RoomCoordinator.state, h.data]

theorem previous_state (s : RoomCoordinator) : s.Previous s.state := .inl rfl

theorem previous_pollEntry (s : RoomCoordinator) (others : Others) :
    s.Previous ((s.pollEntry others).getD emptyRoomState) := by
  unfold pollEntry
  split
  · exact .inl rfl
  · rename_i h
    have hdata : s.data = none := by
      cases hd : s.data <;> simp_all
    rcases hstartup : s.startup with _ | startup
    · exact .inl (by simp [RoomCoordinator.state, hdata])
    · exact .inr ⟨hdata, hstartup⟩

/-- The health that a read starts from is the current one, or it has been forgotten. -/
theorem Previous.readFrom {state : RoomState} (h : s.Previous state) (since : Monotonic)
    (group : ReadGroup) :
    ReadFrom since (s.groupHealth group) (state.groupReadHealth group) := by
  rcases h with rfl | ⟨hdata, hstartup⟩
  · rcases hdata : s.data with _ | data
    · exact .inr (.inl (by simp [RoomCoordinator.state, hdata, emptyRoomState]))
    · exact .inl (by simp [RoomCoordinator.state, RoomCoordinator.groupHealth, hdata])
  · exact .inl (by simp [RoomCoordinator.groupHealth, hdata, hstartup])

theorem readFrom_applyReply {previous : RoomState} {polled : Bool} {replied : Clock}
    (h : s.Previous previous) (hle : s.clock.monotonic ≤ replied.monotonic)
    (group : ReadGroup) :
    ReadFrom s.clock.monotonic (s.groupHealth group)
      (((s.atClock replied).applyReply previous polled reply).2.groupReadHealth group) := by
  obtain ⟨-, readback, hstate⟩ := (s.atClock replied).applyReply_frame previous polled reply
  rw [hstate]
  exact (h.readFrom s.clock.monotonic group).trans (reply.readFrom _ _ _ _) hle

theorem Source.readFrom {state : RoomState} (h : s.Source label state finished)
    (group : ReadGroup) :
    ReadFrom s.clock.monotonic (s.groupHealth group) (state.groupReadHealth group) := by
  rcases h with ⟨-, h⟩ | ⟨-, previous, reply, replied, polled, h, -, hle, -, rfl⟩
  · exact h.readFrom _ _
  · exact readFrom_applyReply h hle.le group

/-- The end of a poll judges by the entry, if that gives any value. -/
theorem finishPoll_cases {entry : Option RoomState} {others : Others} {u : RoomCoordinator}
    (hroom : u.room = s.room) (hclock : s.clock.monotonic ≤ u.clock.monotonic)
    (hdata : u.data = s.data)
    (hbyKey : u.confirmations.byKey = s.confirmations.byKey)
    (hlevels : u.optimisticLevels = s.optimisticLevels)
    (hpresets : u.optimisticPresets = s.optimisticPresets)
    (hintensive : u.optimisticIntensive = s.optimisticIntensive)
    (hsource : ∀ state ∈ entry, s.Source label state u.clock)
    (hnone : entry = none → s.data = none) :
    (∃ state, s.Judged label state (u.finishPoll entry others)) ∨
      s.StartupOnly label (u.finishPoll entry others) := by
  have hhealth : ∀ state ∈ entry, ∀ group, ReadFrom s.clock.monotonic (s.groupHealth group)
      (state.groupReadHealth group) := fun state hmem => (hsource state hmem).readFrom
  unfold finishPoll
  split
  · -- Without any entry the poll succeeds with nothing to judge.
    rcases entry with _ | state
    · refine .inr ⟨hroom, hclock, (hnone rfl).symm, by rintro _ ⟨⟩, by simp [hnone rfl],
        by rintro _ ⟨⟩, hbyKey, hlevels, hpresets, hintensive, ?_⟩
      exact fun group => .inr (.inl rfl)
    · refine .inl ⟨state, hroom, hclock, hsource state rfl, .inl rfl, .inl rfl, ?_, ?_, ?_, ?_, ?_,
        ?_⟩
      · simp only [confirmPendingWrites, WriteConfirmations.confirm, hbyKey]
      · simp only [confirmPendingWrites, hlevels]
      · simp only [confirmPendingWrites, hpresets]
      · simp only [confirmPendingWrites, hintensive]
      · exact hhealth state rfl
      · exact hhealth state rfl
  · -- Nobody has values: the entries become start-up entries and nothing is judged.
    rename_i hvalues
    refine .inr ⟨hroom, hclock, hdata, ?_, fun hsome => ?_, hsource, hbyKey, hlevels, hpresets,
      hintensive, fun group => ?_⟩
    · intro state hmem
      obtain rfl : entry = some state := hmem
      simp_all
    · rcases entry with _ | state
      · rw [hnone rfl] at hsome
        cases hsome
      · exact ⟨state, rfl, hsource state rfl⟩
    · rcases hd : s.data with _ | data
      · rcases entry with _ | state
        · exact .inr (.inl (by simp [RoomCoordinator.groupHealth, hdata, hd, emptyRoomState]))
        · have := hhealth state rfl group
          simpa [RoomCoordinator.groupHealth, hdata, hd] using this
      · exact .inl (by simp [RoomCoordinator.groupHealth, hdata, hd])

/-- A readback judges by the state it gives. -/
theorem judged_refreshAfterWrite {replied : Clock} (hlt : s.clock.lt replied = true)
    (hle' : replied.le finished = true) :
    ∃ state, s.Judged (.readBack reply replied finished) state
      ((s.atClock replied).refreshAfterWrite reply finished) := by
  have hreplied : s.clock.monotonic < replied.monotonic := of_decide_eq_true hlt
  have hfinished : replied.monotonic ≤ finished.monotonic := of_decide_eq_true hle'
  have hstate : (s.atClock replied).state = s.state := rfl
  have hsource : s.Source (.readBack reply replied finished)
      ((s.atClock replied).applyReply s.state false reply).2 finished :=
    .inr ⟨rfl, s.state, reply, replied, false, s.previous_state, rfl, hreplied, hfinished, rfl⟩
  have hbyKey := ((s.atClock replied).applyReply_frame s.state false reply).1
  refine ⟨_, rfl, hreplied.le.trans hfinished, hsource, ?_, .inr rfl, ?_, rfl, rfl, rfl,
    hsource.readFrom, ?_⟩
  · unfold refreshAfterWrite
    rw [hstate]
    dsimp only
    split
    · -- A reply that changes nothing leaves the entry, or its absence, as it was.
      rename_i hsame
      rcases hd : s.data with _ | data
      · exact .inr ⟨hd, rfl, by rw [hsame]; simp [RoomCoordinator.state, hd]⟩
      · refine .inl ?_
        rw [hsame]
        simp [RoomCoordinator.state, RoomCoordinator.atClock, hd]
    · exact .inl rfl
  · unfold refreshAfterWrite
    rw [hstate]
    simp only [confirmPendingWrites, WriteConfirmations.confirm, hbyKey]
    rfl
  · intro group
    unfold refreshAfterWrite
    rw [hstate]
    dsimp only
    split
    · exact .refl
    · exact hsource.readFrom group

theorem pollEntry_none {others : Others} (h : s.pollEntry others = none) : s.data = none := by
  unfold pollEntry at h
  split at h
  · exact h
  · cases hd : s.data <;> simp_all

/-- A poll judges by the state it gives, if that has any value. -/
theorem poll_cases {replied : Clock} {others : Others} (hlt : s.clock.lt replied = true)
    (hle' : replied.le finished = true) :
    (∃ state, s.Judged (.poll reply others replied finished) state
        ((s.atClock replied).poll reply others finished)) ∨
      s.StartupOnly (.poll reply others replied finished)
        ((s.atClock replied).poll reply others finished) := by
  have hreplied : s.clock.monotonic < replied.monotonic := of_decide_eq_true hlt
  have hfinished : replied.monotonic ≤ finished.monotonic := of_decide_eq_true hle'
  have hprevious := s.previous_pollEntry others
  have hbyKey := ((s.atClock replied).applyReply_frame
    ((s.pollEntry others).getD emptyRoomState) true reply).1
  -- A reply that changes nothing keeps the entry, which then is the state that was read.
  have hentry : ∀ entry, (if ((s.atClock replied).applyReply
      ((s.pollEntry others).getD emptyRoomState) true reply).2 =
        (s.pollEntry others).getD emptyRoomState then s.pollEntry others
      else some ((s.atClock replied).applyReply
        ((s.pollEntry others).getD emptyRoomState) true reply).2) = entry →
      (∀ state ∈ entry, s.Source (.poll reply others replied finished) state finished) ∧
        (entry = none → s.data = none) := by
    have hread : s.Source (.poll reply others replied finished) ((s.atClock replied).applyReply
        ((s.pollEntry others).getD emptyRoomState) true reply).2 finished :=
      .inr ⟨rfl, _, reply, replied, true, hprevious, rfl, hreplied, hfinished, rfl⟩
    rintro entry rfl
    split
    · rename_i hsame
      refine ⟨fun state hmem => ?_, pollEntry_none⟩
      rw [hsame, hmem] at hread
      exact hread
    · refine ⟨?_, by rintro ⟨⟩⟩
      rintro _ ⟨⟩
      exact hread
  exact finishPoll_cases rfl (hreplied.le.trans hfinished) rfl hbyKey rfl rfl rfl
    (hentry _ rfl).1 (hentry _ rfl).2

/-- **The inversion of a step.** A step writes, or it is quiet, judges by a state, judges by
a state at the end of a readback, or is a poll that leaves no value. -/
theorem step_cases (h : s.step label = some t) :
    (∃ command outcome finished u write, label = .command command outcome finished ∧
      s.clock.le finished = true ∧ s.prepare command = .send u write ∧
      s.writeOf label = some (write, write.outcome s.room outcome) ∧
      t = (u.atClock finished).finishWrite write outcome) ∨
    (s.writeOf label = none ∧
      ((label.reply = none ∧ s.Quiet t) ∨ (∃ state, s.Judged label state t) ∨
        (∃ state u write, s.Judged label state u ∧ s.phase = .readBack write ∧
          t = u.finishReadBack write) ∨
        s.StartupOnly label t)) := by
  cases label with
  | elapse clock =>
    obtain ⟨hle, rfl⟩ : s.clock.le clock = true ∧ s.atClock clock = t := by
      simpa [step] using h
    exact .inr ⟨rfl, .inl ⟨rfl, quiet_atClock hle⟩⟩
  | expire overlay =>
    obtain rfl : s.clearOverlay overlay.writeKey = t := by simpa [step] using h
    exact .inr ⟨rfl, .inl ⟨rfl, quiet_clearOverlay s _⟩⟩
  | queryLevels =>
    obtain rfl : s.settleUncertainFlow = t := by simpa [step] using h
    exact .inr ⟨rfl, .inl ⟨rfl, quiet_settleUncertainFlow s⟩⟩
  | command command outcome finished =>
    obtain ⟨⟨hphase, hle⟩, h⟩ := Option.ite_none_right_eq_some.mp h
    have hsound := s.sound_prepare command
    rcases hprepare : s.prepare command with ⟨error, u⟩ | u | ⟨u, write⟩
    all_goals
      rw [hprepare] at h hsound
      cases h
    · exact .inr ⟨by simp [writeOf, hprepare], .inl ⟨rfl, hsound⟩⟩
    · exact .inr ⟨by simp [writeOf, hprepare], .inl ⟨rfl, hsound⟩⟩
    · exact .inl ⟨command, outcome, finished, u, write, rfl, hle, hprepare,
        by simp [writeOf, hprepare], rfl⟩
  | readBack reply replied finished =>
    obtain ⟨hle, h⟩ := Option.ite_none_right_eq_some.mp h
    obtain ⟨hle, hle'⟩ := Bool.and_eq_true_iff.mp hle
    obtain ⟨state, hjudged⟩ : ∃ state, s.Judged (.readBack reply replied finished) state
        ((s.atClock replied).refreshAfterWrite reply finished) :=
      judged_refreshAfterWrite hle hle'
    refine .inr ⟨rfl, .inr ?_⟩
    -- The reply is judged either way; only an accepted write still has its read-back to finish.
    rcases hphase : s.phase with _ | write | write
    all_goals simp only [hphase] at h
    · cases h
    · obtain ⟨-, h⟩ := Option.ite_none_right_eq_some.mp h
      cases h
      exact .inr (.inl ⟨state, _, write, hjudged, rfl, rfl⟩)
    · obtain ⟨-, h⟩ := Option.ite_none_right_eq_some.mp h
      cases h
      exact .inl ⟨state, { hjudged with }⟩
  | cancelReadBack =>
    obtain ⟨-, h⟩ := Option.ite_none_left_eq_some.mp h
    cases h
    exact .inr ⟨rfl, .inl ⟨rfl, ⟨.inl rfl, .inl rfl, .inl rfl⟩, rfl, le_refl _, rfl, rfl, rfl⟩⟩
  | poll reply others replied finished =>
    obtain ⟨⟨hphase, hle, hle'⟩, h⟩ := Option.ite_none_right_eq_some.mp h
    cases h
    refine .inr ⟨rfl, .inr ?_⟩
    rcases poll_cases hle hle' with hjudged | hstartup
    · exact .inl hjudged
    · exact .inr (.inr hstartup)
  | otherPoll others finished =>
    obtain ⟨⟨hphase, hle⟩, h⟩ := Option.ite_none_right_eq_some.mp h
    cases h
    have hsource : ∀ state ∈ s.pollEntry others,
        s.Source (.otherPoll others finished) state finished := by
      intro state hmem
      have := s.previous_pollEntry others
      rw [hmem] at this
      exact .inl ⟨rfl, this⟩
    refine .inr ⟨rfl, .inr ?_⟩
    have hjudges : (∃ state, s.Judged (.otherPoll others finished) state
        ((s.atClock finished).finishPoll (s.pollEntry others) others)) ∨
          s.StartupOnly (.otherPoll others finished)
            ((s.atClock finished).finishPoll (s.pollEntry others) others) :=
      finishPoll_cases rfl (of_decide_eq_true hle) rfl rfl rfl rfl rfl hsource pollEntry_none
    rcases hjudges with hjudged | hstartup
    · exact .inl hjudged
    · exact .inr (.inr hstartup)
  | otherReadBack finished =>
    obtain ⟨⟨hphase, hle⟩, h⟩ := Option.ite_none_right_eq_some.mp h
    refine .inr ⟨rfl, ?_⟩
    rcases hd : s.data with _ | state
    all_goals
      simp only [hd] at h
      cases h
    · -- Without an entry the read-back of another unit has nothing to judge here.
      exact .inl ⟨rfl, quiet_atClock hle⟩
    · have hstate : s.state = state := by simp [RoomCoordinator.state, hd]
      have hprevious : s.Previous state := .inl hstate.symm
      have hclock : s.clock.monotonic ≤ finished.monotonic := of_decide_eq_true hle
      exact .inr (.inl ⟨state, rfl, hclock, .inl ⟨rfl, hprevious⟩, .inl hd, .inr rfl, rfl, rfl,
        rfl, rfl, hprevious.readFrom _, fun group => .refl⟩)

end RoomCoordinator

end MeltemVentilation
