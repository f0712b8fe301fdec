import MeltemVentilation.BaseWrites

/-!
# The range of the sensor-control levels

The humidity and the CO2 control of a unit each have a minimum and a maximum level, in two
registers that are written one at a time. Before a write, the coordinator checks the new
bound against what it believes of the other one: the value of the last accepted or cancelled
write of that bound while it has not been read back, and the cached value otherwise
(`WriteConfirmations.checkedBound`). The unit itself checks nothing.

Here the coordinator runs against the registers of a unit (`ControlSystem`): a label says in
addition whether a write whose reply was not received took effect, and the replies to a
settings read are the values stored. The belief is right except after three kinds of events,
which the record of a run keeps as a doubt about the bound (`recordDoubt`):

* a write that failed, although it took effect;
* a write that failed and took no effect, but replaced the outcome of an accepted one that
  had not been read back;
* a write that was cancelled and took no effect.

A doubt ends with the next successful settings read, or when the bound is written and
acknowledged. As long as no write takes effect while the opposite bound is in doubt, the
stored minimum never exceeds the stored maximum (`controlRange_of_reach`). Without that
condition it can (`controlRange_refuted`): the outcome `failed` counts as not written.
-/

namespace MeltemVentilation

open RoomCoordinator Transition

/-! ### The unit and the coordinator -/

/-- A coordinator with the control-setting registers of its unit. -/
structure ControlSystem where
  coordinator : RoomCoordinator
  stored : ControlSetting → ℤ

/-- A label of the coordinator, and whether a write without a reply took effect. -/
structure ControlLabel where
  label : Label
  tookEffect : Bool

/-- The values of a successful settings read. -/
def PlanReply.settingsRead : PlanReply → Option (ControlSetting → ℤ)
  | .settings (.block (.values values)) => some values
  | _ => none

/-- The settings that a step reads. -/
def Label.settingsRead (label : Label) : Option (ControlSetting → ℤ) :=
  label.reply.bind fun reply => reply.1.settingsRead

/-- The control setting that a write sends, with its value. -/
def PreparedWrite.setting (write : PreparedWrite) : Option (ControlSetting × ℤ) :=
  match write.call with
  | .controlSetting key value => some (key, value)
  | .mode _ => none

namespace ControlSystem

/-- The registers after a step: an acknowledged write is stored, and so is a lost one that
took effect. -/
def storedAfter (s : ControlSystem) (label : ControlLabel) : ControlSetting → ℤ :=
  match s.coordinator.writeOf label.label with
  | some (write, outcome) =>
    match write.setting with
    | some (key, value) =>
      if outcome = .accepted ∨ label.tookEffect = true then
        Function.update s.stored key (normalizeControlSetting key value)
      else s.stored
    | none => s.stored
  | none => s.stored

/-- One step: what a settings read answers is what the registers hold. -/
def step (s : ControlSystem) (label : ControlLabel) : Option ControlSystem :=
  if ∀ settings ∈ label.label.settingsRead, settings = s.stored then
    (s.coordinator.step label.label).map fun t => ⟨t, s.storedAfter label⟩
  else none

end ControlSystem

/-- Whether a bound is in doubt after a write of it, by what became of the write, whether it
took effect, and whether the bound was unread or in doubt before. -/
def WriteOutcome.leavesDoubt (tookEffect unread doubted : Bool) : WriteOutcome → Bool
  | .accepted => false
  | .failed _ => tookEffect || unread || doubted
  | .cancelled => !tookEffect

/-- The record of a run: which bounds are in doubt. -/
def recordDoubt (s : ControlSystem) (label : ControlLabel) (doubt : ControlSetting → Bool) :
    ControlSetting → Bool :=
  match s.coordinator.writeOf label.label with
  | some (write, outcome) =>
    match write.setting with
    | some (key, _) =>
      Function.update doubt key <| outcome.leavesDoubt label.tookEffect
        (s.coordinator.confirmations.unconfirmedControlSetting key).isSome (doubt key)
    | none => doubt
  | none => if label.label.settingsRead.isSome then fun _ => false else doubt

/-- The system with the doubts on record. -/
abbrev ControlStep := recorded ControlSystem.step recordDoubt

/-- The stored minimum of each sensor control of the unit is at most its maximum. -/
def ControlRangeValid (s : ControlSystem) : Prop :=
  ∀ range ∈ controlLevelRanges, range.1.inProfile s.coordinator.room.profile = true →
    s.stored range.1 ≤ s.stored range.2

/-- A run starts with the settings of the profile read, a valid pair, and no write of a setting. -/
structure ControlStart (s : ControlSystem × (ControlSetting → Bool)) : Prop where
  cached : ∃ data, s.1.coordinator.data = some data ∧
    ∀ key, key.inProfile s.1.coordinator.room.profile = true →
      data.controlSetting key = some (s.1.stored key)
  read : ∃ read : Clock, s.1.coordinator.state.groupReadHealth .controlSettings =
    .succeeded read ∧ read.monotonic ≤ s.1.coordinator.clock.monotonic
  unwritten : ∀ key, s.1.coordinator.confirmations.byKey (.controlSetting key) = none
  valid : ControlRangeValid s.1
  noDoubt : s.2 = fun _ => false

/-- No write of a bound takes effect while the opposite bound is in doubt. -/
def OppositeKnown (s : ControlSystem × (ControlSetting → Bool)) (label : ControlLabel) : Prop :=
  ∀ written ∈ s.1.coordinator.writeOf label.label, ∀ setting ∈ written.1.setting,
    written.2 = .accepted ∨ label.tookEffect = true →
    ∀ range ∈ controlLevelRanges, range.1.inProfile s.1.coordinator.room.profile = true →
      (setting.1 = range.1 → s.2 range.2 = false) ∧ (setting.1 = range.2 → s.2 range.1 = false)

instance (s : ControlSystem × (ControlSetting → Bool)) : DecidablePred (OppositeKnown s) :=
  fun label => inferInstanceAs (Decidable (∀ written ∈ s.1.coordinator.writeOf label.label, _))

/-! ### Rounding keeps the order of the two bounds -/

/-- A minimum that is at most a value is at most that value as a maximum, and the other way
around, whatever the rounding does. -/
theorem normalizeControlSetting_le {range : ControlSetting × ControlSetting}
    (hrange : range ∈ controlLevelRanges) (value bound : ℤ) :
    (normalizeControlSetting range.1 value ≤ bound →
        normalizeControlSetting range.1 value ≤ normalizeControlSetting range.2 bound) ∧
      (bound ≤ normalizeControlSetting range.2 value →
        normalizeControlSetting range.1 bound ≤ normalizeControlSetting range.2 value) := by
  simp only [controlLevelRanges, List.mem_cons, List.not_mem_nil, or_false] at hrange
  rcases hrange with rfl | rfl <;>
    simp only [normalizeControlSetting, controlSettingLimits] <;> omega

/-! ### What the coordinator believes of a setting -/

section Belief

variable {confirmations later : WriteConfirmations} {key : ControlSetting} {state : RoomState}
  {wall : WallTime} {confirmation : WriteConfirmation}

/-- A status in which the requested value counts, not the cached one. -/
def WriteStatus.unread (status : WriteStatus) : Bool :=
  status = .pending || status = .unconfirmed

/-- A state that judges a write of a setting: the settings were read since the write. -/
structure JudgesSetting (state : RoomState) (key : ControlSetting) (baseline : ReadHealth) :
    Prop where
  tried : (state.groupReadHealth .controlSettings).lastAttempt ≠ none
  newer : state.groupReadHealth .controlSettings ≠ baseline
  noError : (state.groupReadHealth .controlSettings).lastError = none
  value : (state.controlSetting key).isSome

theorem JudgesSetting.congr {later : RoomState} {baseline : ReadHealth}
    (h : JudgesSetting later key baseline)
    (hvalues : later.controlSetting = state.controlSetting)
    (hhealth : later.groupReadHealth .controlSettings = state.groupReadHealth .controlSettings) :
    JudgesSetting state key baseline where
  tried := hhealth ▸ h.tried
  newer := hhealth ▸ h.newer
  noError := hhealth ▸ h.noError
  value := hvalues ▸ h.value

theorem unconfirmedControlSetting_congr
    (h : later.byKey (.controlSetting key) = confirmations.byKey (.controlSetting key)) :
    later.unconfirmedControlSetting key = confirmations.unconfirmedControlSetting key := by
  simp only [WriteConfirmations.unconfirmedControlSetting, h]

/-- The believed value of a setting with a write of it on record. -/
theorem unconfirmedControlSetting_of_byKey {value : ℤ}
    (h : confirmations.byKey (.controlSetting key) = some confirmation)
    (hvalue : confirmation.expectedValue = .setting value) :
    confirmations.unconfirmedControlSetting key =
      if confirmation.status.unread then some value else none := by
  simp [WriteConfirmations.unconfirmedControlSetting, h, hvalue, WriteStatus.unread]

/-- **A readback leaves a write of a setting unread exactly if it does not judge it.** -/
theorem unread_confirmOne :
    (WriteConfirmations.confirmOne wall state (.controlSetting key) confirmation).1.status.unread =
        true ↔
      confirmation.status.unread = true ∧ ¬ JudgesSetting state key confirmation.baseline := by
  rw [confirmOne_status]
  rcases hchecked : checkedConfirmation state (.controlSetting key) confirmation with _ | checked
  · refine ⟨fun hunread => ⟨hunread, fun hjudges => ?_⟩, fun h => h.1⟩
    obtain ⟨value, hvalue⟩ := Option.isSome_iff_exists.mp hjudges.value
    have hopen : confirmation.status.isFinal = false := by
      cases hstatus : confirmation.status <;> simp_all [WriteStatus.unread, WriteStatus.isFinal]
    have hne : confirmation.status ≠ .confirmed ∧ confirmation.status ≠ .mismatch := by
      constructor <;> intro h <;> simp [h, WriteStatus.unread] at hunread
    simp only [checkedConfirmation, hopen, writeGroup, hjudges.tried, hjudges.newer,
      hjudges.noError, WriteKey.hiddenByIntensive, readbackValue, hvalue] at hchecked
    by_cases hmatch : valuesMatch (.controlSetting key) confirmation.expectedValue
        (.setting value) = true <;> simp [hmatch, hne] at hchecked
  · obtain ⟨-, hnewer, htried, -, -, -, -, ⟨hstatus, hpending, herror⟩ | ⟨herror, ⟨-, hhidden, -⟩ |
      ⟨-, actual, hactual, hstatus⟩⟩⟩ := checkedConfirmation_cases hchecked
    · simp only [Option.getD_some, hstatus, hpending]
      exact ⟨fun _ => ⟨rfl, fun h => herror h.noError⟩, fun _ => rfl⟩
    · cases hhidden
    · have hjudges : JudgesSetting state key confirmation.baseline := by
        refine ⟨htried, hnewer, herror, ?_⟩
        obtain ⟨value, hvalue, -⟩ := Option.map_eq_some_iff.mp hactual
        simp [hvalue]
      simp only [Option.getD_some, hstatus, hjudges, not_true_eq_false, and_false, iff_false]
      split <;> decide

end Belief

/-! ### What a step reads of the settings -/

/-- What a judging state says about the settings, compared with the state before: nothing
new, a failed read, or the values read after `since`. -/
inductive SettingsOf (room : RoomConfig) (label : Label) (since finished : Clock)
    (previous state : RoomState) : Prop
  | same : (label.settingsRead = none ∨ room.supportsGroup .controlSettings = false) →
      state.controlSetting = previous.controlSetting →
      state.groupReadHealth .controlSettings = previous.groupReadHealth .controlSettings →
      SettingsOf room label since finished previous state
  | failed : label.settingsRead = none → state.controlSetting = previous.controlSetting →
      (state.groupReadHealth .controlSettings).lastError ≠ none →
      (state.groupReadHealth .controlSettings).lastSuccessMonotonic =
        (previous.groupReadHealth .controlSettings).lastSuccessMonotonic →
      SettingsOf room label since finished previous state
  | read (settings : ControlSetting → ℤ) (read : Clock) : label.settingsRead = some settings →
      (∀ key, key.inProfile room.profile = true →
        state.controlSetting key = some (settings key)) →
      state.groupReadHealth .controlSettings = .succeeded read →
      since.monotonic < read.monotonic → read.monotonic ≤ finished.monotonic →
      SettingsOf room label since finished previous state

section Read

variable {s t : RoomCoordinator} {label : Label} {state : RoomState} {clock : Clock}
  {room : RoomConfig} {previous : RoomState}

theorem applyModeRead_controlSetting (block : Option ModeRead) :
    (applyModeRead room state block).controlSetting = state.controlSetting := by
  unfold applyModeRead
  dsimp only
  split <;> rfl

theorem applyFlowRead_controlSetting (flow : Option FlowRead) :
    (applyFlowRead state flow).controlSetting = state.controlSetting := by
  cases flow <;> rfl

/-- The airflow plan says nothing about the settings. -/
theorem AirflowRead.apply_settings (read : AirflowRead) :
    (read.apply room clock previous).controlSetting = previous.controlSetting ∧
      (read.apply room clock previous).groupReadHealth .controlSettings =
        previous.groupReadHealth .controlSettings := by
  cases read with
  | quarantined => exact ⟨rfl, rfl⟩
  | raised error => exact ⟨rfl, by simp [apply, recordReadFailures, airflowReadGroups]⟩
  | blocks flow mode =>
    exact ⟨(applyModeRead_controlSetting _).trans (applyFlowRead_controlSetting _), rfl⟩

/-- A setting of the profile is only there if the room has the group. -/
theorem supportsGroup_of_inProfile {key : ControlSetting}
    (h : key.inProfile room.profile = true) : room.supportsGroup .controlSettings = true := by
  cases key <;> simp_all [ControlSetting.inProfile, RoomConfig.supportsGroup]

/-- **What a reply says about the settings.** -/
theorem PlanReply.settingsOf {reply : PlanReply} {since replied finished : Clock}
    (hreply : label.reply = some (reply, replied)) (hlt : since.monotonic < replied.monotonic)
    (hle : replied.monotonic ≤ finished.monotonic) :
    SettingsOf room label since finished previous (reply.state room replied previous) := by
  have hsettings : label.settingsRead = reply.settingsRead := by
    rw [Label.settingsRead, hreply, Option.bind_some]
  -- A profile without the settings leaves them alone whatever the reply is.
  by_cases hsupports : room.supportsGroup .controlSettings = true
  · cases reply with
    | airflow read target =>
      exact .same (.inl hsettings) read.apply_settings.1 read.apply_settings.2
    | settings read =>
      cases read with
      | quarantined => exact .same (.inl hsettings) rfl rfl
      | raised error =>
        refine .failed hsettings rfl ?_ ?_ <;>
          simp [PlanReply.state, SettingsRead.apply, recordReadFailures, hsupports,
            ReadHealth.failed]
      | block settings =>
        simp only [PlanReply.state, SettingsRead.apply, hsupports, if_true]
        cases settings with
        | values values =>
          refine .read values replied hsettings ?_ rfl hlt hle
          intro key hkey
          simp [BlockRead.read?, applySettings, hkey]
        | failed error timedOut => exact .failed hsettings rfl ReadHealth.lastError_failed rfl
        | skipped => exact .same (.inl hsettings) rfl rfl
  · have hunsupported := Bool.eq_false_iff.mpr hsupports
    cases reply with
    | airflow read target =>
      exact .same (.inr hunsupported) read.apply_settings.1 read.apply_settings.2
    | settings read =>
      refine .same (.inr hunsupported) ?_ ?_ <;>
        cases read <;>
          simp [PlanReply.state, SettingsRead.apply, recordReadFailures, hsupports]

/-- **What a judging state says about the settings**, once there is a polled state. -/
theorem RoomCoordinator.Source.settingsOf (h : s.Source label state clock)
    (hdata : s.data.isSome) : SettingsOf s.room label s.clock clock s.state state := by
  have hprevious : ∀ previous, s.Previous previous → previous = s.state := by
    rintro previous (rfl | ⟨hnone, -⟩)
    · rfl
    · rw [hnone] at hdata
      cases hdata
  rcases h with ⟨hnone, hkept⟩ |
    ⟨-, previous, reply, replied, polled, hprev, hreply, hlt, hle, rfl⟩
  · rw [hprevious _ hkept]
    exact .same (.inl (by simp [Label.settingsRead, hnone])) rfl rfl
  · rw [hprevious _ hprev]
    obtain ⟨-, readback, hstate⟩ := (s.atClock replied).applyReply_frame s.state polled reply
    rw [hstate]
    have hsettings : SettingsOf s.room label s.clock clock s.state
        (reply.state s.room replied s.state) := PlanReply.settingsOf hreply hlt hle
    cases hsettings with
    | same hlabel hvalues hhealth => exact .same hlabel hvalues hhealth
    | failed hlabel hvalues herror hlast => exact .failed hlabel hvalues herror hlast
    | read settings read hread hvalues hhealth hnewer hfinished =>
      exact .read settings read hread hvalues hhealth hnewer hfinished

end Read

/-! ### What a command writes of the settings -/

/-- The write of a control setting. -/
abbrev settingWrite (key : ControlSetting) (value : ℤ) : PreparedWrite :=
  ⟨.controlSetting key, .setting value, .controlSetting key value, true, none, false⟩

/-- A command writes a setting, after the range check, or nothing of the settings. -/
theorem RoomCoordinator.Sends.setting_cases {s u : RoomCoordinator} {command : Command}
    {write : PreparedWrite} (h : s.Sends command u write) :
    (∃ key value, s.confirmations.checkControlLevelRange s.room s.state key value = none ∧
        u = s ∧ write = settingWrite key value) ∨
      (write.setting = none ∧ ∀ key, write.writeKey ≠ .controlSetting key) := by
  cases h with
  | controlSetting key value hcheck => exact .inl ⟨key, value, hcheck, rfl, rfl⟩
  | clearPresetMode preset t write hpreset hmode =>
    cases hmode
    exact .inr ⟨rfl, by rintro key ⟨⟩⟩
  | _ => exact .inr ⟨rfl, by rintro key ⟨⟩⟩

/-- **The range check**: what it compares the new bound with. -/
theorem le_of_checkControlLevelRange {confirmations : WriteConfirmations} {room : RoomConfig}
    {state : RoomState} {key : ControlSetting} {value : ℤ}
    {range : ControlSetting × ControlSetting}
    (h : confirmations.checkControlLevelRange room state key value = none)
    (hrange : range ∈ controlLevelRanges) (bound : ℤ) :
    (key = range.1 → confirmations.checkedBound state range.2 = some bound →
        normalizeControlSetting range.1 value ≤ bound) ∧
      (key = range.2 → confirmations.checkedBound state range.1 = some bound →
        bound ≤ normalizeControlSetting range.2 value) := by
  have hcheck := List.findSome?_eq_none_iff.mp h range hrange
  have hne : range.2 ≠ range.1 := by
    simp only [controlLevelRanges, List.mem_cons, List.not_mem_nil, or_false] at hrange
    rcases hrange with rfl | rfl <;> decide
  constructor
  · rintro rfl hbound
    by_contra hlt
    simp [WriteConfirmations.checkRange, hbound, not_le.mp hlt] at hcheck
  · rintro rfl hbound
    by_contra hlt
    simp [WriteConfirmations.checkRange, hbound, hne, not_le.mp hlt] at hcheck

/-! ### The invariant -/

namespace ControlSystem

/-- **The invariant.** Unless a bound is in doubt, the value that the range check takes for
it is the one stored in the unit, up to the rounding of a request (`known`). -/
structure RangeInvariant (s : ControlSystem) (doubt : ControlSetting → Bool) : Prop where
  polled : s.coordinator.data.isSome
  valid : ControlRangeValid s
  known : ∀ key, key.inProfile s.coordinator.room.profile = true → doubt key = false →
    ∃ bound, s.coordinator.confirmations.checkedBound s.coordinator.state key = some bound ∧
      (s.stored key = bound ∨ s.stored key = normalizeControlSetting key bound)
  requested : ∀ key confirmation,
    s.coordinator.confirmations.byKey (.controlSetting key) = some confirmation →
      ∃ value, confirmation.expectedValue = .setting value
  unjudged : ∀ key confirmation,
    s.coordinator.confirmations.byKey (.controlSetting key) = some confirmation →
      confirmation.status.unread = true →
        ¬ JudgesSetting s.coordinator.state key confirmation.baseline
  baselines : ∀ key confirmation,
    s.coordinator.confirmations.byKey (.controlSetting key) = some confirmation →
      ∀ stamp ∈ confirmation.baseline.lastSuccessMonotonic, stamp ≤ s.coordinator.clock.monotonic
  stamps : ∀ stamp ∈ (s.coordinator.state.groupReadHealth .controlSettings).lastSuccessMonotonic,
    stamp ≤ s.coordinator.clock.monotonic

variable {s : ControlSystem} {t : RoomCoordinator} {label : Label} {state : RoomState}
  {write : PreparedWrite} {doubt doubt' : ControlSetting → Bool} {key : ControlSetting}
  {value : ℤ}

/-- The outcomes of the setting writes ask for the same, and as many of them are unread. -/
def SameOutcomes (earlier later : WriteConfirmations) : Prop :=
  ∀ key, ∃ f : WriteConfirmation → WriteConfirmation,
    later.byKey (.controlSetting key) = (earlier.byKey (.controlSetting key)).map f ∧
      ∀ confirmation ∈ earlier.byKey (.controlSetting key),
        (f confirmation).expectedValue = confirmation.expectedValue ∧
          (f confirmation).baseline = confirmation.baseline ∧
          (f confirmation).status.unread = confirmation.status.unread

theorem SameOutcomes.of_byKey {earlier later : WriteConfirmations}
    (h : ∀ key, later.byKey (.controlSetting key) = earlier.byKey (.controlSetting key)) :
    SameOutcomes earlier later :=
  fun key => ⟨id, by rw [h, Option.map_id_fun, id], fun _ _ => ⟨rfl, rfl, rfl⟩⟩

/-- A write that is marked unconfirmed is as unread as before. -/
theorem sameOutcomes_markUnconfirmed (confirmations : WriteConfirmations) (writeKey : WriteKey)
    (error : String) :
    SameOutcomes confirmations (confirmations.markUnconfirmed writeKey error) := by
  intro key
  by_cases hkey : .controlSetting key = writeKey
  · subst hkey
    refine ⟨_, WriteConfirmations.markUnconfirmed_self, fun confirmation _ => ?_⟩
    split
    · rename_i hpending
      exact ⟨rfl, rfl, by rw [hpending]; rfl⟩
    · exact ⟨rfl, rfl, rfl⟩
  · exact ⟨id, by rw [WriteConfirmations.markUnconfirmed_of_ne hkey, Option.map_id_fun, id],
      fun _ _ => ⟨rfl, rfl, rfl⟩⟩

theorem SameOutcomes.unconfirmedControlSetting {earlier later : WriteConfirmations}
    (h : SameOutcomes earlier later) (key : ControlSetting) :
    later.unconfirmedControlSetting key = earlier.unconfirmedControlSetting key := by
  obtain ⟨f, hmap, hf⟩ := h key
  rcases hearlier : earlier.byKey (.controlSetting key) with _ | confirmation
  · rw [hearlier] at hmap
    simp only [WriteConfirmations.unconfirmedControlSetting, hmap, hearlier, Option.map_none]
  · obtain ⟨hexpected, -, hunread⟩ := hf confirmation hearlier
    rw [hearlier] at hmap
    simp only [WriteStatus.unread, ← Bool.decide_or, decide_eq_decide] at hunread
    simp only [WriteConfirmations.unconfirmedControlSetting, hmap, hearlier, Option.map_some,
      hexpected]
    simp only [hunread]

/-- **What says nothing new of the settings keeps the invariant.** -/
theorem RangeInvariant.keep (h : RangeInvariant s doubt) (hroom : t.room = s.coordinator.room)
    (hclock : s.coordinator.clock.monotonic ≤ t.clock.monotonic) (hdata : t.data.isSome)
    (hvalues : t.state.controlSetting = s.coordinator.state.controlSetting)
    (hhealth : t.state.groupReadHealth .controlSettings =
        s.coordinator.state.groupReadHealth .controlSettings ∨
      ((t.state.groupReadHealth .controlSettings).lastError ≠ none ∧
        (t.state.groupReadHealth .controlSettings).lastSuccessMonotonic =
          (s.coordinator.state.groupReadHealth .controlSettings).lastSuccessMonotonic))
    (houtcomes : SameOutcomes s.coordinator.confirmations t.confirmations) :
    RangeInvariant ⟨t, s.stored⟩ doubt := by
  -- Each confirmation after the step is one from before with the same request and baseline.
  have hcases : ∀ key confirmation, t.confirmations.byKey (.controlSetting key) =
      some confirmation → ∃ previous,
        s.coordinator.confirmations.byKey (.controlSetting key) = some previous ∧
          confirmation.expectedValue = previous.expectedValue ∧
          confirmation.baseline = previous.baseline ∧
          confirmation.status.unread = previous.status.unread := by
    intro key confirmation hconf
    obtain ⟨f, hmap, hf⟩ := houtcomes key
    rw [hmap] at hconf
    obtain ⟨previous, hprevious, rfl⟩ := Option.map_eq_some_iff.mp hconf
    exact ⟨previous, hprevious, hf previous hprevious⟩
  refine ⟨hdata, ?_, ?_, ?_, ?_, ?_, ?_⟩
  · intro range hrange hprofile
    exact h.valid range hrange (hroom ▸ hprofile)
  · intro key hprofile hdoubt
    obtain ⟨bound, hbound, hstored⟩ := h.known key (hroom ▸ hprofile) hdoubt
    refine ⟨bound, ?_, hstored⟩
    simpa only [WriteConfirmations.checkedBound, houtcomes.unconfirmedControlSetting, hvalues]
      using hbound
  · intro key confirmation hconf
    obtain ⟨previous, hprevious, hexpected, -, -⟩ := hcases key confirmation hconf
    exact hexpected ▸ h.requested key previous hprevious
  · intro key confirmation hconf hunread hjudges
    -- Values and health decide the judgement: both are kept, or the read of the group failed.
    obtain ⟨previous, hprevious, -, hbaseline, hsame⟩ := hcases key confirmation hconf
    rcases hhealth with hhealth | ⟨herror, -⟩
    · exact h.unjudged key previous hprevious (hsame ▸ hunread)
        (hbaseline ▸ hjudges.congr hvalues hhealth)
    · exact herror hjudges.noError
  · intro key confirmation hconf stamp hstamp
    obtain ⟨previous, hprevious, -, hbaseline, -⟩ := hcases key confirmation hconf
    exact (h.baselines key previous hprevious stamp (hbaseline ▸ hstamp)).trans hclock
  · intro stamp hstamp
    have hlast : (t.state.groupReadHealth .controlSettings).lastSuccessMonotonic =
        (s.coordinator.state.groupReadHealth .controlSettings).lastSuccessMonotonic := by
      rcases hhealth with hhealth | ⟨-, hlast⟩
      · rw [hhealth]
      · exact hlast
    exact (h.stamps stamp (hlast ▸ hstamp)).trans hclock

theorem RangeInvariant.quiet (h : RangeInvariant s doubt) (hquiet : s.coordinator.Quiet t) :
    RangeInvariant ⟨t, s.stored⟩ doubt :=
  h.keep hquiet.room hquiet.clock (hquiet.data ▸ h.polled) (by rw [hquiet.state])
    (.inl (by rw [hquiet.state])) (.of_byKey fun _ => by rw [hquiet.confirmations])

/-- A poll that leaves no value has read no setting. -/
theorem RangeInvariant.startupOnly (h : RangeInvariant s doubt)
    (hstartup : s.coordinator.StartupOnly label t) :
    RangeInvariant ⟨t, s.stored⟩
      (if label.settingsRead.isSome then fun _ => false else doubt) := by
  have hstate : t.state = s.coordinator.state := by
    simp only [RoomCoordinator.state, hstartup.data]
  have hkept : RangeInvariant ⟨t, s.stored⟩ doubt :=
    h.keep hstartup.room hstartup.clock (hstartup.data ▸ h.polled) (by rw [hstate])
      (.inl (by rw [hstate])) (.of_byKey fun _ => by rw [hstartup.byKey])
  obtain ⟨state, hmem, hsource⟩ := hstartup.source h.polled
  have hnone := hstartup.startup state hmem
  -- A read of the settings would give a start-up entry values, which it never has.
  have hno : (∃ key, (key : ControlSetting).inProfile t.room.profile = true) →
      label.settingsRead = none := by
    rintro ⟨key, hprofile⟩
    rw [hstartup.room] at hprofile
    cases hsource.settingsOf h.polled with
    | same hlabel =>
      refine hlabel.resolve_right fun hunsupported => ?_
      rw [supportsGroup_of_inProfile hprofile] at hunsupported
      cases hunsupported
    | failed hlabel => exact hlabel
    | read settings read hlabel hvalues =>
      have hvalue := hvalues key hprofile
      have hdata : state.hasData = true := by
        simp only [RoomState.hasData, Bool.or_eq_true, decide_eq_true_eq]
        exact .inr ⟨key, by rw [hvalue]; rfl⟩
      rw [hnone] at hdata
      cases hdata
  refine { hkept with known := fun key hprofile hsure => ?_ }
  rw [hno ⟨key, hprofile⟩] at hsure
  exact hkept.known key hprofile hsure

theorem RangeInvariant.finishReadBack (h : RangeInvariant ⟨t, s.stored⟩ doubt) :
    RangeInvariant ⟨t.finishReadBack write, s.stored⟩ doubt := by
  obtain ⟨hroom, hclock, hdata, -, hconf, -⟩ := t.finishReadBack_frame write
  have hstate : (t.finishReadBack write).state = t.state := by
    simp only [RoomCoordinator.state, hdata]
  refine h.keep hroom (le_of_eq (by rw [hclock])) (hdata ▸ h.polled) (by rw [hstate])
    (.inl (by rw [hstate])) ?_
  rw [hconf]
  exact sameOutcomes_markUnconfirmed _ _ _

/-- **Judging keeps the invariant**, and a settings read ends every doubt. -/
theorem RangeInvariant.judge (h : RangeInvariant s doubt)
    (hstored : ∀ settings ∈ label.settingsRead, settings = s.stored)
    (hjudged : s.coordinator.Judged label state t) :
    RangeInvariant ⟨t, s.stored⟩
      (if label.settingsRead.isSome then fun _ => false else doubt) := by
  have hdata : t.data = some state := by
    rcases hjudged.data with hdata | ⟨-, hnone, -⟩
    · exact hdata
    · have := h.polled
      rw [hnone] at this
      cases this
  have hstate : t.state = state := by simp only [RoomCoordinator.state, hdata, Option.getD_some]
  have hpolled : t.data.isSome := by rw [hdata]; rfl
  have hconf : ∀ key, t.confirmations.byKey (.controlSetting key) =
      (s.coordinator.confirmations.byKey (.controlSetting key)).map fun confirmation =>
        (WriteConfirmations.confirmOne t.clock.wall state (.controlSetting key)
          confirmation).1 := fun key => congrFun hjudged.byKey (.controlSetting key)
  -- A confirmation that nothing judges comes out of the check as it went in.
  have hsame : (∀ key confirmation,
      s.coordinator.confirmations.byKey (.controlSetting key) = some confirmation →
        confirmation.status.unread = true → ¬ JudgesSetting state key confirmation.baseline) →
      SameOutcomes s.coordinator.confirmations t.confirmations := by
    refine fun hunjudged key => ⟨_, hconf key, fun confirmation hmem => ?_⟩
    refine ⟨confirmOne_expectedValue.1, confirmOne_expectedValue.2, ?_⟩
    rw [Bool.eq_iff_iff, unread_confirmOne]
    exact and_iff_left_of_imp (hunjudged key confirmation hmem)
  cases hjudged.source.settingsOf h.polled with
  | same hlabel hvalues hhealth =>
    have hkept : RangeInvariant ⟨t, s.stored⟩ doubt := by
      refine h.keep hjudged.room hjudged.clock hpolled (hstate ▸ hvalues) (.inl (hstate ▸ hhealth))
        (hsame fun key confirmation hmem hunread hjudges => ?_)
      exact h.unjudged key confirmation hmem hunread (hjudges.congr hvalues hhealth)
    rcases hlabel with hnone | hunsupported
    · rw [hnone]
      exact hkept
    · -- A profile without the group has no key the invariant speaks of.
      refine { hkept with known := fun key hprofile _ => ?_ }
      have hsupported := supportsGroup_of_inProfile hprofile
      rw [hjudged.room, hunsupported] at hsupported
      cases hsupported
  | failed hlabel hvalues herror hlast =>
    rw [hlabel]
    refine h.keep hjudged.room hjudged.clock hpolled (hstate ▸ hvalues)
      (.inr (hstate ▸ ⟨herror, hlast⟩)) (hsame fun _ _ _ _ hjudges => herror hjudges.noError)
  | read settings read hlabel hvalues hhealth hnewer hfinished =>
    obtain rfl : settings = s.stored := hstored settings hlabel
    have hcases : ∀ key confirmation, t.confirmations.byKey (.controlSetting key) =
        some confirmation → ∃ previous,
          s.coordinator.confirmations.byKey (.controlSetting key) = some previous ∧
            (WriteConfirmations.confirmOne t.clock.wall state (.controlSetting key)
              previous).1 = confirmation := by
      intro key confirmation hmem
      rw [hconf] at hmem
      exact Option.map_eq_some_iff.mp hmem
    -- A baseline is never newer than the clock, so this read judges every open confirmation.
    have hnewer : ∀ key previous,
        s.coordinator.confirmations.byKey (.controlSetting key) = some previous →
          ReadHealth.succeeded read ≠ previous.baseline := by
      intro key previous hprevious heq
      have hold := h.baselines key previous hprevious read.monotonic (heq ▸ rfl)
      exact absurd hold (not_le.mpr hnewer)
    refine ⟨hpolled, ?_, ?_, ?_, ?_, ?_, ?_⟩
    · intro range hrange hprofile
      exact h.valid range hrange (hjudged.room ▸ hprofile)
    · intro key hprofile _
      -- The value shown is the stored one, and no unread confirmation is left to override it.
      have hvalue : state.controlSetting key = some (s.stored key) :=
        hvalues key (hjudged.room ▸ hprofile)
      refine ⟨s.stored key, ?_, .inl rfl⟩
      suffices hnone : t.confirmations.unconfirmedControlSetting key = none by
        rw [WriteConfirmations.checkedBound, hnone, hstate, hvalue, Option.none_or]
      rcases hmem : t.confirmations.byKey (.controlSetting key) with _ | confirmation
      · simp only [WriteConfirmations.unconfirmedControlSetting, hmem]
      obtain ⟨previous, hprevious, rfl⟩ := hcases key confirmation hmem
      obtain ⟨value, hexpected⟩ := h.requested key previous hprevious
      rw [unconfirmedControlSetting_of_byKey hmem (confirmOne_expectedValue.1.trans hexpected),
        if_neg]
      rw [unread_confirmOne]
      refine fun hunread => hunread.2 ⟨?_, ?_, ?_, ?_⟩
      · simp [hhealth, ReadHealth.succeeded]
      · rw [hhealth]
        exact hnewer key previous hprevious
      · rw [hhealth]
        rfl
      · rw [hvalue]
        rfl
    · intro key confirmation hmem
      obtain ⟨previous, hprevious, rfl⟩ := hcases key confirmation hmem
      rw [confirmOne_expectedValue.1]
      exact h.requested key previous hprevious
    · intro key confirmation hmem hunread
      obtain ⟨previous, hprevious, rfl⟩ := hcases key confirmation hmem
      rw [unread_confirmOne] at hunread
      rw [hstate, confirmOne_expectedValue.2]
      exact hunread.2
    · intro key confirmation hmem stamp hstamp
      obtain ⟨previous, hprevious, rfl⟩ := hcases key confirmation hmem
      rw [confirmOne_expectedValue.2] at hstamp
      exact (h.baselines key previous hprevious stamp hstamp).trans hjudged.clock
    · intro stamp hstamp
      rw [hstate, hhealth] at hstamp
      cases hstamp
      exact hfinished

/-! ### Writes -/

/-- **The outcome of a write of another value says nothing of the settings.** -/
theorem RangeInvariant.keep_write (h : RangeInvariant s doubt)
    (hroom : t.room = s.coordinator.room) (hclock : t.clock = s.coordinator.clock)
    (hdata : t.data = s.coordinator.data)
    (hconf : ∀ key, t.confirmations.byKey (.controlSetting key) =
      s.coordinator.confirmations.byKey (.controlSetting key)) :
    RangeInvariant ⟨t, s.stored⟩ doubt := by
  have hstate : t.state = s.coordinator.state := by simp only [RoomCoordinator.state, hdata]
  exact h.keep hroom (le_of_eq (by rw [hclock])) (hdata ▸ h.polled) (by rw [hstate])
    (.inl (by rw [hstate])) (.of_byKey hconf)

/-- **The outcome of a write of a setting** keeps the invariant, if the range stays valid and
the bound that is written is believed to have its new value, or is in doubt. -/
theorem RangeInvariant.updated {stored : ControlSetting → ℤ} {confirmation : WriteConfirmation}
    (h : RangeInvariant s doubt)
    (hroom : t.room = s.coordinator.room) (hclock : t.clock = s.coordinator.clock)
    (hdata : t.data = s.coordinator.data)
    (hother : ∀ other, other ≠ key → t.confirmations.byKey (.controlSetting other) =
      s.coordinator.confirmations.byKey (.controlSetting other))
    (hself : t.confirmations.byKey (.controlSetting key) = some confirmation)
    (hexpected : confirmation.expectedValue = .setting value)
    (hbaseline : confirmation.baseline = s.coordinator.groupHealth .controlSettings)
    (hstored : ∀ other, other ≠ key → stored other = s.stored other)
    (hdoubt : ∀ other, other ≠ key → doubt' other = doubt other)
    (hvalid : ControlRangeValid ⟨s.coordinator, stored⟩)
    (hknown : key.inProfile s.coordinator.room.profile = true → doubt' key = false →
      ∃ bound, t.confirmations.checkedBound s.coordinator.state key = some bound ∧
        (stored key = bound ∨ stored key = normalizeControlSetting key bound)) :
    RangeInvariant ⟨t, stored⟩ doubt' := by
  have hstate : t.state = s.coordinator.state := by simp only [RoomCoordinator.state, hdata]
  have hhealth : s.coordinator.groupHealth .controlSettings =
      s.coordinator.state.groupReadHealth .controlSettings := by
    obtain ⟨data, hsome⟩ := Option.isSome_iff_exists.mp h.polled
    simp [RoomCoordinator.groupHealth, RoomCoordinator.state, hsome]
  -- Only `key` changes: each clause is the new write at `key` and the old clause elsewhere.
  refine ⟨hdata ▸ h.polled, ?_, fun other hprofile hsure => ?_, fun other later hmem => ?_,
    fun other later hmem hunread => ?_, fun other later hmem => ?_, ?_⟩
  · intro range hrange hprofile
    exact hvalid range hrange (hroom ▸ hprofile)
  · rw [hstate]
    by_cases hkey : other = key
    · subst hkey
      exact hknown (hroom ▸ hprofile) hsure
    · obtain ⟨bound, hbound, hvalue⟩ := h.known other (hroom ▸ hprofile) (hdoubt other hkey ▸ hsure)
      refine ⟨bound, ?_, by simpa only [hstored other hkey] using hvalue⟩
      rwa [WriteConfirmations.checkedBound, unconfirmedControlSetting_congr (hother other hkey)]
  · by_cases hkey : other = key
    · subst hkey
      rw [hself] at hmem
      cases hmem
      exact ⟨value, hexpected⟩
    · exact h.requested other later (hother other hkey ▸ hmem)
  · rw [hstate]
    by_cases hkey : other = key
    · subst hkey
      rw [hself] at hmem
      cases hmem
      exact fun hjudges => hjudges.newer (hhealth ▸ hbaseline.symm)
    · exact h.unjudged other later (hother other hkey ▸ hmem) hunread
  · rw [hclock]
    by_cases hkey : other = key
    · subst hkey
      rw [hself] at hmem
      cases hmem
      rw [hbaseline, hhealth]
      exact h.stamps
    · exact h.baselines other later (hother other hkey ▸ hmem)
  · rw [hstate, hclock]
    exact h.stamps

/-- **A checked write keeps the range valid**, if the opposite bound is not in doubt. -/
theorem RangeInvariant.valid_update (h : RangeInvariant s doubt)
    (hcheck : s.coordinator.confirmations.checkControlLevelRange s.coordinator.room
      s.coordinator.state key value = none)
    (hok : ∀ range ∈ controlLevelRanges, range.1.inProfile s.coordinator.room.profile = true →
      (key = range.1 → doubt range.2 = false) ∧ (key = range.2 → doubt range.1 = false)) :
    ControlRangeValid ⟨s.coordinator,
      Function.update s.stored key (normalizeControlSetting key value)⟩ := by
  intro range hrange hprofile
  have hne : range.1 ≠ range.2 := by
    simp only [controlLevelRanges, List.mem_cons, List.not_mem_nil, or_false] at hrange
    rcases hrange with rfl | rfl <;> decide
  have hprofile' : range.2.inProfile s.coordinator.room.profile = true := by
    simp only [controlLevelRanges, List.mem_cons, List.not_mem_nil, or_false] at hrange
    rcases hrange with rfl | rfl <;> exact hprofile
  have hle := le_of_checkControlLevelRange hcheck hrange
  have hround := normalizeControlSetting_le hrange
  by_cases hmin : key = range.1
  · -- The bound the write was checked against is the stored one, or rounds to it.
    obtain ⟨bound, hbound, hstored⟩ :=
      h.known range.2 hprofile' ((hok range hrange hprofile).1 hmin)
    have hbelow := (hle bound).1 hmin hbound
    subst hmin
    simp only [Function.update_self, Function.update_of_ne hne.symm]
    rcases hstored with hstored | hstored <;> rw [hstored]
    · exact hbelow
    · exact (hround value bound).1 hbelow
  · by_cases hmax : key = range.2
    · obtain ⟨bound, hbound, hstored⟩ :=
        h.known range.1 hprofile ((hok range hrange hprofile).2 hmax)
      have habove := (hle bound).2 hmax hbound
      subst hmax
      simp only [Function.update_self, Function.update_of_ne hne]
      rcases hstored with hstored | hstored <;> rw [hstored]
      · exact habove
      · exact (hround value bound).2 habove
    · simp only [Function.update_of_ne (Ne.symm hmin), Function.update_of_ne (Ne.symm hmax)]
      exact h.valid range hrange hprofile

/-- **A checked write of a setting keeps the invariant**, whatever becomes of it. -/
theorem RangeInvariant.finishSettingWrite (h : RangeInvariant s doubt)
    (hcheck : s.coordinator.confirmations.checkControlLevelRange s.coordinator.room
      s.coordinator.state key value = none)
    {outcome : WriteOutcome} {tookEffect : Bool}
    (hok : outcome = .accepted ∨ tookEffect = true →
      ∀ range ∈ controlLevelRanges, range.1.inProfile s.coordinator.room.profile = true →
        (key = range.1 → doubt range.2 = false) ∧ (key = range.2 → doubt range.1 = false)) :
    RangeInvariant ⟨s.coordinator.finishWrite (settingWrite key value) outcome,
        if outcome = .accepted ∨ tookEffect = true then
          Function.update s.stored key (normalizeControlSetting key value)
        else s.stored⟩
      (Function.update doubt key <| outcome.leavesDoubt tookEffect
        (s.coordinator.confirmations.unconfirmedControlSetting key).isSome (doubt key)) := by
  have hvalid : ControlRangeValid ⟨s.coordinator,
      if outcome = .accepted ∨ tookEffect = true then
        Function.update s.stored key (normalizeControlSetting key value)
      else s.stored⟩ := by
    split
    · rename_i heffect
      exact h.valid_update hcheck (hok heffect)
    · exact h.valid
  have hstored : ∀ other, other ≠ key → (if outcome = .accepted ∨ tookEffect = true then
      Function.update s.stored key (normalizeControlSetting key value)
      else s.stored) other = s.stored other := by
    intro other hne
    split
    · exact Function.update_of_ne hne _ _
    · rfl
  have hdoubt : ∀ b other, other ≠ key → Function.update doubt key b other = doubt other :=
    fun b other hne => Function.update_of_ne hne _ _
  have hnotBase : ∀ other, WriteKey.controlSetting other ∉ baseModeWrites := by
    simp [baseModeWrites]
  cases outcome with
  | accepted =>
    obtain ⟨hroom, hclock, hdata, -, hconf, -⟩ :=
      s.coordinator.accept_frame (settingWrite key value)
    have hself := congrArg (fun c => c.byKey (.controlSetting key)) hconf
    simp only [WriteConfirmations.recordPending_self] at hself
    change RangeInvariant ⟨s.coordinator.accept (settingWrite key value), _⟩ _
    refine h.updated hroom hclock hdata (fun other hne => ?_) hself rfl rfl hstored (hdoubt _)
      hvalid fun _ _ => ⟨normalizeControlSetting key value, ?_, .inl ?_⟩
    · rw [hconf, WriteConfirmations.recordPending_of_ne (by simpa using hne),
        WriteConfirmations.supersede_of_notMem (.inl (hnotBase other))]
    · rw [WriteConfirmations.checkedBound,
        unconfirmedControlSetting_of_byKey hself rfl]
      rfl
    · simp
  | failed error =>
    obtain ⟨hroom, hclock, hdata, -, hconf, -⟩ :=
      s.coordinator.fail_frame (settingWrite key value) error
    have hself := congrArg (fun c => c.byKey (.controlSetting key)) hconf
    simp only [WriteConfirmations.setStatus_self WriteConfirmations.recordPending_self] at hself
    change RangeInvariant ⟨s.coordinator.fail (settingWrite key value) error, _⟩ _
    refine h.updated hroom hclock hdata (fun other hne => ?_) hself rfl rfl hstored (hdoubt _)
      hvalid fun hprofile hsure => ?_
    · rw [hconf, WriteConfirmations.setStatus_of_ne (by simpa using hne),
        WriteConfirmations.recordPending_of_ne (by simpa using hne)]
    · -- A failed write counts as not written, so the cached value has to be right.
      simp only [Function.update_self, WriteOutcome.leavesDoubt, Bool.or_eq_false_iff] at hsure
      obtain ⟨⟨hno, hread⟩, hdoubted⟩ := hsure
      obtain ⟨bound, hbound, hvalue⟩ := h.known key hprofile hdoubted
      refine ⟨bound, ?_, by simpa [hno] using hvalue⟩
      rw [Option.isSome_eq_false_iff, Option.isNone_iff_eq_none] at hread
      rw [WriteConfirmations.checkedBound, hread] at hbound
      rw [WriteConfirmations.checkedBound, unconfirmedControlSetting_of_byKey hself rfl]
      exact hbound
  | cancelled =>
    obtain ⟨hroom, hclock, hdata, -, hconf, -⟩ :=
      s.coordinator.cancel_frame (settingWrite key value)
    have hself := congrArg (fun c => c.byKey (.controlSetting key)) hconf
    simp only [WriteConfirmations.markUnconfirmed_self, WriteConfirmations.recordPending_self,
      Option.map_some, if_true] at hself
    change RangeInvariant ⟨s.coordinator.cancel (settingWrite key value), _⟩ _
    refine h.updated hroom hclock hdata (fun other hne => ?_) hself rfl rfl hstored (hdoubt _)
      hvalid fun _ hsure => ⟨value, ?_, .inr ?_⟩
    · rw [hconf, WriteConfirmations.markUnconfirmed_of_ne (by simpa using hne),
        WriteConfirmations.recordPending_of_ne (by simpa using hne),
        WriteConfirmations.supersede_of_notMem (.inl (hnotBase other))]
    · rw [WriteConfirmations.checkedBound, unconfirmedControlSetting_of_byKey hself rfl]
      rfl
    · -- Without doubt the interrupted write took effect, as the unit rounds it.
      simp only [Function.update_self, WriteOutcome.leavesDoubt, Bool.not_eq_false'] at hsure
      simp [hsure]

/-- **A write of another value keeps the invariant.** -/
theorem RangeInvariant.finishOtherWrite (h : RangeInvariant s doubt)
    (hother : ∀ key, write.writeKey ≠ .controlSetting key) (outcome : WriteOutcome) :
    RangeInvariant ⟨s.coordinator.finishWrite write outcome, s.stored⟩ doubt := by
  have hne : ∀ key, WriteKey.controlSetting key ≠ write.writeKey := fun key => (hother key).symm
  have hnotBase : ∀ key, WriteKey.controlSetting key ∉ baseModeWrites := by
    simp [baseModeWrites]
  unfold RoomCoordinator.finishWrite
  split
  · obtain ⟨hroom, hclock, hdata, -, hconf, -⟩ := s.coordinator.accept_frame write
    refine h.keep_write hroom hclock hdata fun key => ?_
    rw [hconf, WriteConfirmations.recordPending_of_ne (hne key),
      WriteConfirmations.supersede_of_notMem (.inl (hnotBase key))]
  · rename_i error _
    obtain ⟨hroom, hclock, hdata, -, hconf, -⟩ := s.coordinator.fail_frame write error
    refine h.keep_write hroom hclock hdata fun key => ?_
    rw [hconf, WriteConfirmations.setStatus_of_ne (hne key),
      WriteConfirmations.recordPending_of_ne (hne key)]
  · obtain ⟨hroom, hclock, hdata, -, hconf, -⟩ := s.coordinator.cancel_frame write
    refine h.keep_write hroom hclock hdata fun key => ?_
    rw [hconf, WriteConfirmations.markUnconfirmed_of_ne (hne key),
      WriteConfirmations.recordPending_of_ne (hne key),
      WriteConfirmations.supersede_of_notMem (.inl (hnotBase key))]

/-- **Every step keeps the invariant**, unless a write takes effect while the opposite bound
is in doubt. -/
theorem RangeInvariant.step {u : ControlSystem} {label : ControlLabel}
    (h : RangeInvariant s doubt) (hok : OppositeKnown (s, doubt) label)
    (hstep : s.step label = some u) : RangeInvariant u (recordDoubt s label doubt) := by
  obtain ⟨hsettings, hstep⟩ := Option.ite_none_right_eq_some.mp hstep
  obtain ⟨t, ht, rfl⟩ := Option.map_eq_some_iff.mp hstep
  rcases s.coordinator.step_cases ht with ⟨command, outcome, finished, prepared, write, hlabel,
    hle, hprepare, hwrite, rfl⟩ | ⟨hwrite, hcases⟩
  · -- Preparing a command is quiet, so only its write can move a bound.
    have hquiet : s.coordinator.Quiet (prepared.atClock finished) := by
      have hsound := s.coordinator.sound_prepare command
      rw [hprepare] at hsound
      exact hsound.1.atClock hle
    have hu := h.quiet hquiet
    rcases (s.coordinator.sends_of_prepare hprepare).setting_cases with
      ⟨key, value, hcheck, rfl, rfl⟩ | ⟨hsetting, hkey⟩
    · have hstored : s.storedAfter label =
          if outcome = .accepted ∨ label.tookEffect = true then
            Function.update s.stored key (normalizeControlSetting key value)
          else s.stored := by
        simp only [storedAfter, hwrite]
        rfl
      have hdoubt : recordDoubt s label doubt = Function.update doubt key
          (outcome.leavesDoubt label.tookEffect
            (s.coordinator.confirmations.unconfirmedControlSetting key).isSome (doubt key)) := by
        simp only [recordDoubt, hwrite]
        rfl
      rw [hstored, hdoubt]
      exact hu.finishSettingWrite hcheck (hok _ hwrite (key, value) rfl)
    · have hstored : s.storedAfter label = s.stored := by
        simp only [storedAfter, hwrite, hsetting]
      have hdoubt : recordDoubt s label doubt = doubt := by
        simp only [recordDoubt, hwrite, hsetting]
      rw [hstored, hdoubt]
      exact hu.finishOtherWrite hkey outcome
  · -- Nothing is written: only a read of the settings ends a doubt.
    have hstored : s.storedAfter label = s.stored := by simp only [storedAfter, hwrite]
    have hdoubt : recordDoubt s label doubt =
        if label.label.settingsRead.isSome then fun _ => false else doubt := by
      simp only [recordDoubt, hwrite]
    rw [hstored, hdoubt]
    rcases hcases with ⟨hreply, hquiet⟩ | ⟨state, hjudged⟩ |
      ⟨state, v, write, hjudged, -, rfl⟩ | hstartup
    · rw [Label.settingsRead, hreply]
      exact h.quiet hquiet
    · exact h.judge hsettings hjudged
    · exact (h.judge hsettings hjudged).finishReadBack
    · exact h.startupOnly hstartup

end ControlSystem

/-! ### Runs -/

theorem ControlStart.rangeInvariant {s : ControlSystem × (ControlSetting → Bool)}
    (h : ControlStart s) : s.1.RangeInvariant s.2 := by
  obtain ⟨data, hdata, hcached⟩ := h.cached
  obtain ⟨read, hread, hle⟩ := h.read
  have hstate : s.1.coordinator.state = data := by simp [RoomCoordinator.state, hdata]
  have hunwritten : ∀ key confirmation,
      s.1.coordinator.confirmations.byKey (.controlSetting key) ≠ some confirmation := by
    intro key confirmation hmem
    rw [h.unwritten] at hmem
    cases hmem
  refine ⟨by rw [hdata]; rfl, h.valid, fun key hprofile _ => ?_,
    fun key confirmation hmem => absurd hmem (hunwritten key confirmation),
    fun key confirmation hmem => absurd hmem (hunwritten key confirmation),
    fun key confirmation hmem => absurd hmem (hunwritten key confirmation), ?_⟩
  · refine ⟨s.1.stored key, ?_, .inl rfl⟩
    simp [WriteConfirmations.checkedBound, WriteConfirmations.unconfirmedControlSetting,
      h.unwritten, hstate, hcached key hprofile]
  · intro stamp hstamp
    rw [hread] at hstamp
    cases hstamp
    exact hle

/-- **The stored range stays valid**, in every run in which no write takes effect while the
opposite bound is in doubt. -/
theorem controlRange_of_reach {s : ControlSystem × (ControlSetting → Bool)}
    (h : Reach ControlStep OppositeKnown ControlStart s) : ControlRangeValid s.1 := by
  have hinvariant : s.1.RangeInvariant s.2 := by
    refine h.invariant (P := fun s => ControlSystem.RangeInvariant s.1 s.2)
      (fun _ => ControlStart.rangeInvariant) ?_
    intro s label t hinv hok hstep
    obtain ⟨hs, hrecord⟩ := recorded_eq_some.mp hstep
    rw [hrecord]
    exact hinv.step hok hs
  exact hinvariant.valid

/-- The settings of the unit of a test run. -/
def sampleSettings : ControlSetting → ℤ
  | .humidityStartingPoint => 60
  | .humidityMinLevel => 20
  | .humidityMaxLevel => 60
  | .co2StartingPoint => 800
  | .co2MinLevel => 20
  | .co2MaxLevel => 60

/-- The unit of a test run, which has a humidity sensor only, with its settings read at 1 s. -/
def sampleControl : ControlSystem where
  coordinator := {
    room := { sampleRoom with profile := .sF }
    clock := atSecond 1
    data := some <| { emptyRoomState with
      controlSetting := fun key =>
        if key.inProfile .sF then some (sampleSettings key) else none }.withReadHealth
          .controlSettings (.succeeded (atSecond 1)) }
  stored := sampleSettings

theorem controlStart_sampleControl : ControlStart (sampleControl, fun _ => false) where
  cached := ⟨_, rfl, fun _ hprofile => if_pos hprofile⟩
  read := ⟨atSecond 1, rfl, le_refl _⟩
  unwritten _ := rfl
  valid range hrange _ := by
    have hpairs : ∀ range ∈ controlLevelRanges,
        sampleSettings range.1 ≤ sampleSettings range.2 := by
      decide
    exact hpairs range hrange
  noDoubt := rfl

/-- The maximum is lowered and read back, and then the minimum is raised to it. -/
def boundsReadBack : List ControlLabel :=
  [⟨.command (.setControlSetting .humidityMaxLevel 40) .accepted (atSecond 2), true⟩,
    ⟨.readBack (.settings (.block (.values (Function.update sampleSettings .humidityMaxLevel 40))))
      (atSecond 3) (atSecond 3), false⟩,
    ⟨.command (.setControlSetting .humidityMinLevel 40) .accepted (atSecond 4), true⟩]

theorem controlRange_of_reach_boundsReadBack :
    ∃ s, run ControlStep boundsReadBack (sampleControl, fun _ => false) = some s ∧
      s.1.stored .humidityMinLevel = 40 ∧ ControlRangeValid s.1 := by
  have hstart : Reach ControlStep OppositeKnown ControlStart (sampleControl, fun _ => false) :=
    .start controlStart_sampleControl
  obtain ⟨s, hrun, hreach, hs⟩ := hstart.exists_of_run boundsReadBack
    (fun s => s.1.stored .humidityMinLevel = 40) (by decide +kernel) (by decide +kernel)
  exact ⟨s, hrun, of_decide_eq_true hs, controlRange_of_reach hreach⟩

/-- A lower maximum is written, its reply and the refresh after it are lost, and then the
minimum is raised above it. -/
def minimumAboveLostMaximum : List ControlLabel :=
  [⟨.command (.setControlSetting .humidityMaxLevel 30) (.failed "Request timed out")
      (atSecond 2), true⟩,
    ⟨.readBack (.settings (.raised "Request timed out")) (atSecond 3) (atSecond 3), false⟩,
    ⟨.command (.setControlSetting .humidityMinLevel 50) .accepted (atSecond 4), true⟩]

/-- **A minimum above the maximum**: in this run the unit holds 50 and 30 percent. -/
theorem controlRange_refuted :
    ∃ s, run ControlStep minimumAboveLostMaximum (sampleControl, fun _ => false) = some s ∧
      Reach ControlStep (fun _ _ => True) ControlStart s ∧ ¬ ControlRangeValid s.1 := by
  have hstart : Reach ControlStep (fun _ _ => True) ControlStart
      (sampleControl, fun _ => false) := .start controlStart_sampleControl
  obtain ⟨s, hrun, hreach, hs⟩ := hstart.exists_of_run minimumAboveLostMaximum
    (fun s => s.1.stored .humidityMinLevel = 50 ∧ s.1.stored .humidityMaxLevel = 30 ∧
      s.1.coordinator.room.profile = .sF) (by decide +kernel) (by decide +kernel)
  obtain ⟨hmin, hmax, hprofile⟩ := of_decide_eq_true hs
  refine ⟨s, hrun, hreach, fun h => ?_⟩
  have hle := h (.humidityMinLevel, .humidityMaxLevel) (by decide) (by rw [hprofile]; rfl)
  simp only [hmin, hmax] at hle
  omega

end MeltemVentilation
