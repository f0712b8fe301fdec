import MeltemVentilation.BaseWrites
import MeltemVentilation.ExactTarget
import MeltemVentilation.Settled
import MeltemVentilation.SimulatedUnit

/-!
# Writes that the unit has followed

A unit that executes every accepted command, at once and exactly, should never show a value
that a write did not ask for. The coordinator with its simulated unit (`UnitSystem`) is the
test of that: whatever is read or missed, no outcome should be `mismatch`.

Three kinds of reads of the status map go wrong, and the condition `UnitSystem.JudgesFairly`
excludes them. Its first two parts are about the commands that have been accepted: what the last
one that started or ended the override asked for is on record (`UnitSystem.RequestedStep`).

* An intensive write is open although a later command has ended or started the override: a
  quick mode and switching off end it, and they do not supersede an intensive write.
* A quick-mode write is open and the override was started last, by a later command or by the
  write itself: it hides the base mode, and the quick mode known from before the write is another
  one. Or the write asked for intensive as a quick mode, the override has been ended since, and
  the unit shows the quick mode of its base again.
* An airflow write is too old to be confirmed and still open, and the exact target that is
  carried forward is not what it asked for.

Everything else is shown to be harmless by one invariant (`UnitSystem.Fair`): the unit holds
what each open base-mode write asks for (`MockUnit.Follows`), since the next base-mode command
supersedes it, and a state that has judged an open write says nothing about it, since
otherwise the outcome would be final or a mismatch.
-/

namespace MeltemVentilation

open ReadHealth (Unread)
open RoomCoordinator Transition

/-! ### Refuted writes -/

/-- Whether a state judges a write whose group had the health `baseline` when it was sent:
the group was read since, and the value is not hidden. -/
structure Judges (state : RoomState) (writeKey : WriteKey) (baseline : ReadHealth) : Prop where
  tried : (state.groupReadHealth (writeGroup writeKey)).lastAttempt ≠ none
  newer : state.groupReadHealth (writeGroup writeKey) ≠ baseline
  noError : (state.groupReadHealth (writeGroup writeKey)).lastError = none
  visible : ¬ (writeKey.hiddenByIntensive = true ∧ state.intensiveActive = some true)

/-- Whether a state refutes a write of `expected`. -/
structure Refutes (state : RoomState) (writeKey : WriteKey) (baseline : ReadHealth)
    (expected : WriteValue) : Prop extends Judges state writeKey baseline where
  value : ∃ actual, readbackValue state writeKey = some actual ∧
    valuesMatch writeKey expected actual = false

/-- A value matches itself. -/
@[simp] theorem valuesMatch_self (writeKey : WriteKey) (value : WriteValue) :
    valuesMatch writeKey value value = true := by
  unfold valuesMatch
  split
  · simp [levelsReached, levelReached, levelConfirmTolerance]
  · simp

section Refutes

variable {state : RoomState} {writeKey : WriteKey} {confirmation : WriteConfirmation}
  {wall : WallTime}

/-- **A write is mismatched by a readback only if the readback refutes it.** -/
theorem refutes_of_mismatch
    (h : (WriteConfirmations.confirmOne wall state writeKey confirmation).1.status = .mismatch)
    (hbefore : confirmation.status ≠ .mismatch) :
    confirmation.status.isFinal = false ∧
      Refutes state writeKey confirmation.baseline confirmation.expectedValue := by
  rw [confirmOne_status] at h
  rcases hchecked : checkedConfirmation state writeKey confirmation with _ | checked
  · rw [hchecked] at h
    exact absurd h hbefore
  · rw [hchecked, Option.getD_some] at h
    obtain ⟨hopen, hnewer, htried, -, -, -, -, ⟨hstatus, -⟩ | ⟨herror, ⟨hstatus, -⟩ |
      ⟨hvisible, actual, hactual, hstatus⟩⟩⟩ := checkedConfirmation_cases hchecked
    · rw [hstatus] at h
      cases h
    · rw [hstatus] at h
      cases h
    · refine ⟨hopen, ⟨htried, hnewer, herror, hvisible⟩, actual, hactual, ?_⟩
      rw [hstatus] at h
      split at h
      · cases h
      · exact Bool.eq_false_iff.mpr ‹_›

/-- **A state that has judged an open write says nothing about it**, unless it refutes it. -/
theorem readbackValue_of_judged (hopen : confirmation.status.isFinal = false)
    (hmismatch : confirmation.status ≠ .mismatch)
    (hjudged : checkedConfirmation state writeKey confirmation = none)
    (hjudges : Judges state writeKey confirmation.baseline) :
    readbackValue state writeKey = none := by
  rcases checkedConfirmation_eq_none.mp hjudged with hfinal | hnone | hsame | ⟨hfailed, -⟩ |
    ⟨-, hvalue⟩
  · rw [hopen] at hfinal
    cases hfinal
  · exact absurd hnone hjudges.tried
  · exact absurd hsame hjudges.newer
  · exact absurd hjudges.noError hfailed
  · rw [if_neg hjudges.visible] at hvalue
    by_contra hsome
    obtain ⟨actual, hactual⟩ := Option.ne_none_iff_exists'.mp hsome
    have hstatus := (hvalue actual hactual).2
    split at hstatus
    · rw [hstatus] at hopen
      cases hopen
    · exact hmismatch hstatus

/-- A state with the health and the visibility of another judges what that judges. -/
theorem Judges.of_unread {previous : RoomState} {baseline : ReadHealth}
    (h : Judges state writeKey baseline)
    (hsame : state.intensiveActive = previous.intensiveActive)
    (hunread : Unread (previous.groupReadHealth (writeGroup writeKey))
      (state.groupReadHealth (writeGroup writeKey))) : Judges previous writeKey baseline := by
  obtain ⟨htried, hnewer, herror, hvisible⟩ := h
  rcases hunread with heq | hforgotten | hfailed
  · rw [heq] at htried hnewer herror
    rw [hsame] at hvisible
    exact ⟨htried, hnewer, herror, hvisible⟩
  · rw [hforgotten] at htried
    exact absurd rfl htried
  · exact absurd herror hfailed

/-- A state that judges an airflow write reports a balanced mode only if that write was
balanced. -/
def BalancedIfRead (state : RoomState) (confirmation : WriteConfirmation) : Prop :=
  Judges state .airflowLevels confirmation.baseline →
    state.operationMode = some .manual ∨ state.operationMode = some .off →
      ∃ level, confirmation.expectedValue = .levels level level

end Refutes

/-- The targets of an unbalanced mode are the two target registers. -/
theorem targetLevels_of_unbalanced {state : RoomState}
    (h : state.operationMode = some .unbalanced) :
    targetLevels state false = (state.targetLevel, state.extractTargetLevel) := by
  simp [targetLevels, h]

/-! ### Reads without the status map -/

/-- A state whose base mode is that of `previous`, as it is without a read of the status map:
the exact target may be gone, and the targets may be derived from the measured airflow. -/
structure SameBase (previous state : RoomState) : Prop where
  operationMode : state.operationMode = previous.operationMode
  presetMode : state.presetMode = previous.presetMode
  intensiveActive : state.intensiveActive = previous.intensiveActive
  targets : state.operationMode = some .unbalanced →
    state.targetLevel = previous.targetLevel ∧
      state.extractTargetLevel = previous.extractTargetLevel
  readback : ∀ level ∈ state.balancedTargetReadback, level ∈ previous.balancedTargetReadback

theorem SameBase.refl (state : RoomState) : SameBase state state :=
  ⟨rfl, rfl, rfl, fun _ => ⟨rfl, rfl⟩, fun _ h => h⟩

/-- The absence of a status map keeps the base mode. -/
theorem sameBase_applyModeRead (room : RoomConfig) (state : RoomState) :
    SameBase state (applyModeRead room state none) := by
  refine ⟨rfl, rfl, rfl, fun h => ?_, by rintro _ ⟨⟩⟩
  have hmode : state.operationMode = some .unbalanced := h
  simp [applyModeRead, decodeTargets, hmode]

/-- **A reply without the status map keeps the base mode.** -/
theorem PlanReply.sameBase {room : RoomConfig} {clock : Clock} {previous : RoomState}
    {reply : PlanReply} (h : reply.reads .flowControl = false) :
    SameBase previous (reply.state room clock previous) := by
  rcases reply with ⟨_ | error | ⟨flow, mode⟩, target⟩ | ⟨_ | error | read⟩
  · exact .refl _
  · exact ⟨rfl, rfl, rfl, fun _ => ⟨rfl, rfl⟩, fun _ h => h⟩
  · have hmode : mode.read? = none := by
      simpa [PlanReply.reads, Option.isSome_eq_false_iff] using h
    have happlied := sameBase_applyModeRead room (applyFlowRead previous flow.read?)
    have hflow : SameBase previous (applyFlowRead previous flow.read?) := by
      cases flow.read? <;> exact ⟨rfl, rfl, rfl, fun _ => ⟨rfl, rfl⟩, fun _ h => h⟩
    simp only [PlanReply.state, AirflowRead.apply, hmode]
    refine ⟨happlied.operationMode.trans hflow.operationMode,
      happlied.presetMode.trans hflow.presetMode,
      happlied.intensiveActive.trans hflow.intensiveActive, fun hunbalanced => ?_,
      fun level hlevel => hflow.readback level (happlied.readback level hlevel)⟩
    have hbefore := happlied.targets hunbalanced
    have hafter := hflow.targets (happlied.operationMode ▸ hunbalanced)
    exact ⟨hbefore.1.trans hafter.1, hbefore.2.trans hafter.2⟩
  · exact .refl _
  · exact ⟨rfl, rfl, rfl, fun _ => ⟨rfl, rfl⟩, fun _ h => h⟩
  · simp only [PlanReply.state, SettingsRead.apply]
    split
    · cases read.read? <;> exact ⟨rfl, rfl, rfl, fun _ => ⟨rfl, rfl⟩, fun _ h => h⟩
    · exact .refl _

/-- **What a state says although its base mode said nothing**: the exact target of a balanced
airflow. -/
theorem readbackValue_of_sameBase {previous state : RoomState} {readback : Option ℤ}
    {key : WriteKey} {actual : WriteValue} (hsame : SameBase previous state)
    (hgroup : writeGroup key = .flowControl) (hnone : readbackValue previous key = none)
    (hactual : readbackValue { state with balancedTargetReadback := readback } key =
      some actual) :
    key = .airflowLevels ∧ (previous.operationMode = some .manual ∨
        previous.operationMode = some .off) ∧ previous.balancedTargetReadback = none ∧
      ∃ level, readback = some level ∧ actual = .levels level level := by
  obtain ⟨hmode, hpreset, hintensive, htargets, -⟩ := hsame
  -- Every value but the exact target is the one from before the read.
  cases key with
  | controlSetting key => cases hgroup
  | operationMode =>
    rw [show readbackValue { state with balancedTargetReadback := readback } .operationMode =
      state.operationMode.map .operationMode from rfl, hmode] at hactual
    exact absurd (hnone.symm.trans hactual) (by simp)
  | presetMode =>
    rw [show readbackValue { state with balancedTargetReadback := readback } .presetMode =
      state.presetMode.map .presetMode from rfl, hpreset] at hactual
    exact absurd (hnone.symm.trans hactual) (by simp)
  | intensive =>
    rw [show readbackValue { state with balancedTargetReadback := readback } .intensive =
      state.intensiveActive.map .intensive from rfl, hintensive] at hactual
    exact absurd (hnone.symm.trans hactual) (by simp)
  | airflowLevels =>
    simp only [readbackValue, hmode] at hactual hnone
    rcases hprevious : previous.operationMode with _ | mode
    · simp [hprevious] at hactual
    · have hbalanced : mode = .manual ∨ mode = .off →
          previous.balancedTargetReadback = none ∧
            ∃ level, readback = some level ∧ actual = .levels level level := by
        intro hm
        rw [hprevious] at hactual hnone
        rcases hm with rfl | rfl
        all_goals
          obtain ⟨level, hlevel, rfl⟩ := Option.map_eq_some_iff.mp hactual
          exact ⟨Option.map_eq_none_iff.mp hnone, level, hlevel, rfl⟩
      cases mode with
      | manual => exact ⟨rfl, .inl rfl, hbalanced (.inl rfl)⟩
      | off => exact ⟨rfl, .inr rfl, hbalanced (.inr rfl)⟩
      | unbalanced =>
        obtain ⟨hsupply, hextract⟩ := htargets (hmode.trans hprevious)
        simp only [hprevious, targetLevels, Bool.false_eq_true, if_false, hsupply,
          hextract] at hactual hnone
        exact absurd (hnone.symm.trans hactual) (by simp)
      | inactive | humidityControl | co2Control | automatic => simp [hprevious] at hactual

/-! ### What the unit holds -/

/-- The unit holds what an open write asks for. A control setting is not a mode command, and
what is asked of the override may change without superseding the write. -/
inductive MockUnit.Follows (room : RoomConfig) (unit : MockUnit) : WriteKey → WriteValue → Prop
  | airflowLevels {base : BaseMode} {supply extract : ℤ} :
    unit.HoldsBase room base → base.InRange room → base.targets = some (supply, extract) →
      Follows room unit .airflowLevels (.levels supply extract)
  | operationMode {base : BaseMode} :
    unit.HoldsBase room base → base.InRange room →
      Follows room unit .operationMode (.operationMode base.operationMode)
  | presetMode {preset : PresetMode} :
    (preset ≠ .intensive → ∃ base, unit.HoldsBase room base ∧ base.InRange room ∧
      base.presetMode = some preset) → Follows room unit .presetMode (.presetMode preset)
  | intensive (active : Bool) : Follows room unit .intensive (.intensive active)

theorem MockUnit.Follows.writeGroup {room : RoomConfig} {unit : MockUnit} {key : WriteKey}
    {expected : WriteValue} (h : unit.Follows room key expected) :
    MeltemVentilation.writeGroup key = .flowControl := by
  cases h <;> rfl

section Follows

variable {room : RoomConfig} {unit : MockUnit} {key : WriteKey} {expected : WriteValue}
  {write : PreparedWrite} {command : ModeCommand}

/-- A command without a base mode leaves the base mode alone. -/
theorem MockUnit.HoldsBase.execute {base : BaseMode} (h : unit.HoldsBase room base)
    (hunit : unit.Genuine room) (hnone : command.baseMode = none) :
    (unit.execute room command).HoldsBase room base := by
  have hholds : unit.Holds room (some base) unit.runsIntensive := by
    refine ⟨rfl, ?_, ?_⟩
    all_goals rintro _ ⟨⟩
    · exact h
    · exact hunit.status
  have hafter := hholds.execute command
  rw [hnone] at hafter
  exact hafter.holdsBase base rfl

/-- The unit holds the base mode of a command it has executed. -/
theorem MockUnit.holdsBase_execute {base : BaseMode} (unit : MockUnit)
    (hbase : command.baseMode = some base) : (unit.execute room command).HoldsBase room base := by
  have hholds : unit.Holds room none unit.runsIntensive :=
    ⟨rfl, by rintro _ ⟨⟩, by rintro _ ⟨⟩⟩
  have hafter := hholds.execute command
  rw [hbase] at hafter
  exact hafter.holdsBase base rfl

/-- A unit follows a base command it has executed. -/
theorem follows_of_baseMode {base : BaseMode} (unit : MockUnit)
    (hbase : command.baseMode = some base) (hrange : command.InRange room) :
    (unit.execute room command).HoldsBase room base ∧ base.InRange room :=
  ⟨unit.holdsBase_execute hbase, hrange.baseMode hbase⟩

/-- **A unit that executes the command of a planned write follows the write.** -/
theorem PreparedWrite.Planned.follows (h : write.Planned) (unit : MockUnit)
    (hmode : ∀ key, write.writeKey ≠ .controlSetting key)
    (hencoded : write.call.encodeError room = none)
    (hrange : ∀ sent ∈ write.modeCommand, sent.InRange room) :
    ∃ command, write.modeCommand = some command ∧
      (unit.execute room command).Follows room write.writeKey write.confirmedExpected ∧
      (write.writeKey ∉ baseModeWrites → command.baseMode = none) := by
  cases h with
  | level level fallback =>
    refine ⟨_, rfl, ?_, fun hnot => absurd (by simp [baseModeWrites]) hnot⟩
    obtain ⟨hholds, hin⟩ :=
      follows_of_baseMode unit (show (ModeCommand.writeLevel level).baseMode = _ from rfl)
        (hrange _ rfl)
    refine .airflowLevels hholds hin ?_
    -- Level 0 switches the unit off, and both directions of that are at 0.
    by_cases hlevel : level = 0 <;> simp [hlevel, BaseMode.targets]
  | unbalancedLevels supply extract fallback =>
    refine ⟨_, rfl, ?_, fun hnot => absurd (by simp [baseModeWrites]) hnot⟩
    obtain ⟨hholds, hin⟩ := follows_of_baseMode unit
      (show (ModeCommand.writeUnbalancedLevels supply extract).baseMode = _ from rfl)
        (hrange _ rfl)
    exact .airflowLevels hholds hin rfl
  | operationMode mode balanced extract clearPreset hne =>
    refine ⟨_, rfl, ?_, fun hnot => absurd (by simp [baseModeWrites]) hnot⟩
    obtain ⟨base, hbase, hsame⟩ : ∃ base,
        (ModeCommand.writeOperatingMode mode balanced extract).baseMode = some base ∧
          base.operationMode = mode := by
      cases mode <;> first | exact absurd rfl hne | exact ⟨_, rfl, rfl⟩
    obtain ⟨hholds, hin⟩ := follows_of_baseMode unit hbase (hrange _ rfl)
    have hfollows := MockUnit.Follows.operationMode hholds hin
    rwa [hsame] at hfollows
  | presetMode preset =>
    -- The intensive preset sets no base mode, so it promises none.
    refine ⟨_, rfl, .presetMode fun hne => ?_, fun hnot => absurd (by simp [baseModeWrites]) hnot⟩
    obtain ⟨base, hbase, hsame⟩ : ∃ base,
        (ModeCommand.writePresetMode preset).baseMode = some base ∧
          base.presetMode = some preset := by
      cases preset <;> first | exact absurd rfl hne | exact ⟨_, rfl, rfl⟩ | cases hencoded
    obtain ⟨hholds, hin⟩ := follows_of_baseMode unit hbase (hrange _ rfl)
    exact ⟨base, hholds, hin, hsame⟩
  | activateIntensive => exact ⟨_, rfl, .intensive true, fun _ => rfl⟩
  | deactivateIntensive => exact ⟨_, rfl, .intensive false, fun _ => rfl⟩
  | controlSetting key value => exact absurd rfl (hmode key)

/-- A command without a base mode keeps what the open writes ask for. -/
theorem MockUnit.Follows.execute (h : unit.Follows room key expected) (hunit : unit.Genuine room)
    (hnone : command.baseMode = none) : (unit.execute room command).Follows room key expected := by
  cases h with
  | airflowLevels hbase hrange htargets =>
    exact .airflowLevels (hbase.execute hunit hnone) hrange htargets
  | operationMode hbase hrange => exact .operationMode (hbase.execute hunit hnone) hrange
  | presetMode h =>
    refine .presetMode fun hne => ?_
    obtain ⟨base, hbase, hrange, hpreset⟩ := h hne
    exact ⟨base, hbase.execute hunit hnone, hrange, hpreset⟩
  | intensive active => exact .intensive active

/-- The register `41121` of a unit that holds targets answers with the supply target. -/
theorem MockUnit.HoldsBase.answersTarget {base : BaseMode} {supply extract level : ℤ}
    {target : TargetReply} (h : unit.HoldsBase room base) (hrange : base.InRange room)
    (htargets : base.targets = some (supply, extract))
    (hanswers : unit.answersTarget target = true) (hlevel : level ∈ target.airflow room) :
    level = supply := by
  obtain ⟨hsupply, -⟩ := hrange _ htargets
  cases target with
  | failed => cases hlevel
  | value raw =>
    obtain ⟨-, hlevel⟩ := Option.ite_none_right_eq_some.mp hlevel
    cases hlevel
    obtain rfl : raw = unit.set .currentLevel := by
      simpa [MockUnit.answersTarget] using hanswers
    have hregister : unit.set .currentLevel = scaleAirflowToRaw room supply := by
      cases base with
      | off =>
        cases htargets
        rw [scaleAirflowToRaw_zero]
        exact h (.currentLevel, 0) (by simp [BaseMode.registers])
      | manual level =>
        cases htargets
        exact h (.currentLevel, scaleAirflowToRaw room supply) (by simp [BaseMode.registers])
      | unbalanced supply extract =>
        cases htargets
        exact h (.currentLevel, scaleAirflowToRaw room supply) (by simp [BaseMode.registers])
      | sensor | quick => cases htargets
    rw [hregister, scaleRawLevelToAirflow_scaleAirflowToRaw hsupply]

/-- The quick mode that the status map of a unit shows. -/
def MockUnit.shownPresetMode (unit : MockUnit) : Option PresetMode :=
  decodePresetMode (some (decodeSensorSubcode unit.status)) none

/-- The quick mode that a read of the status map leaves: the one the unit shows, or the one
known before where the override hides it. -/
def MockUnit.presetModeLeft (unit : MockUnit) (previous : RoomState) : Option PresetMode :=
  if unit.runsIntensive then previous.presetMode else unit.shownPresetMode

/-- **What a read of the status map makes of a genuine unit.** -/
theorem MockUnit.Genuine.applyModeRead (hunit : unit.Genuine room) (state : RoomState) :
    (applyModeRead room state (some unit.status)).intensiveActive = some unit.runsIntensive ∧
      (MeltemVentilation.applyModeRead room state (some unit.status)).presetMode =
        unit.presetModeLeft state ∧
      (unit.runsIntensive = false → ∀ base, unit.HoldsBase room base → base.InRange room →
        (MeltemVentilation.applyModeRead room state (some unit.status)).ShowsBase base) := by
  refine ⟨hunit.intensiveActive state, ?_, fun hrun base hbase hrange => ?_⟩
  · have hreports := hunit.reportsIntensive
    rw [← decodeSensorSubcode_reportsIntensive] at hreports
    unfold MockUnit.presetModeLeft MockUnit.shownPresetMode MeltemVentilation.applyModeRead
    rcases hrun : unit.runsIntensive with _ | _ <;> rw [hrun] at hreports <;>
      simp [hreports, decodePresetMode]
  · rw [hunit.status, hbase.status hrun]
    exact (applyModeRead_status state hrange).2

end Follows

/-! ### The reads that judge fairly -/

namespace UnitSystem

/-- The coordinator with its unit, and what the last accepted command that started or ended the
override asked for. -/
abbrev RequestedStep := recorded UnitSystem.step fun x => recordRequest x.coordinator

/-- A run starts before the first poll and the first command, with a unit in any state. -/
def RequestedStart (x : UnitSystem × Option Bool) : Prop := x.1.Started ∧ x.2 = none

/-- **Whether a step judges fairly**, after the commands that have been accepted so far. If a
step reads the status map,

* the last command that started or ended the override asked for what an open intensive write
  asks for;
* over an open quick-mode write, the quick mode known from before is the one it asks for unless
  the override was ended last, and where it asks for intensive, the unit shows no quick mode
  unless the override was started last;
* the exact target that is carried forward is one that an open airflow write asks for. -/
def JudgesFairly (x : UnitSystem × Option Bool) (label : Label) : Prop :=
  label.reads .flowControl = true →
    (∀ confirmation ∈ x.1.coordinator.confirmations.byKey .intensive,
      confirmation.status.isFinal = false →
        x.2.map WriteValue.intensive = some confirmation.expectedValue) ∧
    (∀ confirmation ∈ x.1.coordinator.confirmations.byKey .presetMode,
      confirmation.status.isFinal = false →
        (x.2 ≠ some false → ∀ preset ∈ x.1.coordinator.state.presetMode,
          confirmation.expectedValue = .presetMode preset) ∧
        (x.2 ≠ some true → confirmation.expectedValue = .presetMode .intensive →
          x.1.unit.shownPresetMode = none)) ∧
    (x.1.unit.runsIntensive = false → x.1.coordinator.keepsExactTarget label = true →
      ∀ confirmation ∈ x.1.coordinator.confirmations.byKey .airflowLevels,
        confirmation.status.isFinal = false →
          ∀ readback ∈ x.1.coordinator.state.balancedTargetReadback,
            valuesMatch .airflowLevels confirmation.expectedValue
              (.levels readback readback) = true)

instance (x : UnitSystem × Option Bool) : DecidablePred (JudgesFairly x) :=
  fun _ => inferInstanceAs (Decidable (_ → _ ∧ _ ∧ _))

/-- Whether a step is one of the run that is considered: a command is accepted, it is not a
control setting, and its levels are levels of the unit. -/
def CommandsAccepted (x : UnitSystem) : Label → Prop
  | .command (.setControlSetting _ _) _ _ => False
  | .command command outcome _ => outcome = .accepted ∧ command.InRange x.coordinator.room
  | _ => True

/-- The override of the unit is as it was last asked for. -/
def Requested (x : UnitSystem) (requested : Option Bool) : Prop :=
  ∀ active ∈ requested, x.unit.runsIntensive = active

/-- No write has the outcome `mismatch`. -/
def NoMismatch (x : UnitSystem) : Prop :=
  ∀ key, ∀ confirmation ∈ x.coordinator.confirmations.byKey key, confirmation.status ≠ .mismatch

/-- **The invariant of fair runs.** -/
structure Fair (x : UnitSystem) : Prop where
  inRange : x.InRange
  settled : x.coordinator.Settled
  noMismatch : x.NoMismatch
  /-- The unit holds what the open writes ask for. -/
  follows : ∀ key confirmation, x.coordinator.confirmations.Open key confirmation →
    x.unit.Follows x.coordinator.room key confirmation.expectedValue
  /-- A balanced mode that judges an open airflow write was asked for by it. -/
  balanced : ∀ confirmation, x.coordinator.confirmations.Open .airflowLevels confirmation →
    BalancedIfRead x.coordinator.state confirmation

/-! ### No step refutes an open write -/

section Judge

variable {x y : UnitSystem} {requested : Option Bool} {label : Label}
  {state previous : RoomState} {finished : Clock} {key : WriteKey}
  {confirmation : WriteConfirmation}

/-- **The record of the requests is true of the unit.** -/
theorem Requested.step (h : x.Requested requested) (hstep : x.step label = some y) :
    y.Requested (recordRequest x.coordinator label requested) := by
  obtain ⟨-, hunit, -⟩ := step_eq_some hstep
  have hexecute : ∀ command, (x.unit.execute x.coordinator.room command).runsIntensive =
      command.requestsIntensive.getD x.unit.runsIntensive := fun command =>
    ((⟨rfl, by rintro _ ⟨⟩, by rintro _ ⟨⟩⟩ : x.unit.Holds x.coordinator.room none
      x.unit.runsIntensive).execute command).runsIntensive
  intro active hactive
  rw [hunit]
  rcases hwrite : x.coordinator.writeOf label with _ | ⟨write, outcome⟩
  · rw [unitAfter_of_writeOf_none hwrite]
    simp only [recordRequest, hwrite] at hactive
    exact h active hactive
  simp only [unitAfter, hwrite]
  simp only [recordRequest, hwrite] at hactive
  cases outcome with
  | accepted =>
    rcases hcall : write.call with command | ⟨key, value⟩
    · simp only [PreparedWrite.requestsIntensive, hcall] at hactive
      simp only [PreparedWrite.modeCommand, hcall, hexecute]
      rcases hasked : command.requestsIntensive with _ | asked <;> rw [hasked] at hactive
      · exact h active hactive
      · exact Option.some.inj hactive
    · simp only [PreparedWrite.requestsIntensive, hcall, Option.none_or] at hactive
      simp only [PreparedWrite.modeCommand, hcall]
      exact h active hactive
  | failed error => exact h active hactive
  | cancelled => exact h active hactive

/-- Where the exact target after a reply comes from: the state before, or register `41121`. -/
theorem applyReply_readback (s : RoomCoordinator) (previous : RoomState) (polled : Bool)
    (reply : PlanReply) :
    ∀ level ∈ (s.applyReply previous polled reply).2.balancedTargetReadback,
      level ∈ previous.balancedTargetReadback ∨
        level ∈ (reply.state s.room s.clock previous).balancedTargetReadback ∨
        ∃ read target, reply = .airflow read target ∧ level ∈ target.airflow s.room := by
  intro level hlevel
  cases reply with
  | settings read => exact .inr (.inl hlevel)
  | airflow read target =>
    simp only [RoomCoordinator.applyReply] at hlevel
    split at hlevel
    · rcases s.readBalancedTarget_readback _ _ _ level hlevel with hkept | hcarried | hread
      · exact .inr (.inl hkept)
      · exact .inl hcarried
      · exact .inr (.inr ⟨read, target, rfl, hread⟩)
    · exact .inr (.inl hlevel)

/-- A reply of the unit answers for register `41121` as the unit does. -/
theorem answersTarget_of_answers {unit : MockUnit} {read : AirflowRead} {target : TargetReply}
    (h : unit.answers (.airflow read target) = true) : unit.answersTarget target = true := by
  cases read with
  | quarantined | raised error => exact h
  | blocks flow mode =>
    simp only [MockUnit.answers, Bool.and_eq_true] at h
    exact h.2

/-- A state that a read starts from is the polled one, or it has no values. -/
theorem data_or_not_hasData {s : RoomCoordinator} (hprevious : s.Previous previous)
    (hstartup : ∀ state ∈ s.startup, state.hasData = false) :
    s.data = some previous ∨ previous.hasData = false := by
  rcases hprevious with rfl | ⟨-, hmem⟩
  · rcases hdata : s.data with _ | data
    · refine .inr ?_
      rw [RoomCoordinator.state, hdata]
      rfl
    · exact .inl (by simp [RoomCoordinator.state, hdata])
  · exact .inr (hstartup previous hmem)

/-- **A state known before says nothing about an open write** that it judges. -/
theorem Fair.readbackValue_previous (h : x.Fair) (hprevious : x.coordinator.Previous previous)
    (hopen : x.coordinator.confirmations.Open key confirmation)
    (hjudges : Judges previous key confirmation.baseline) : readbackValue previous key = none := by
  rcases data_or_not_hasData hprevious h.settled.startup with hdata | hdata
  · exact readbackValue_of_judged hopen.2 (h.noMismatch key confirmation hopen.1)
      (h.settled.statuses previous hdata key confirmation hopen.1) hjudges
  · exact readbackValue_of_not_hasData hdata

/-- A state known before reports a balanced mode only after a balanced write. -/
theorem Fair.balanced_previous (h : x.Fair) (hprevious : x.coordinator.Previous previous)
    (hopen : x.coordinator.confirmations.Open .airflowLevels confirmation) :
    BalancedIfRead previous confirmation := by
  intro hjudges hmode
  rcases data_or_not_hasData hprevious h.settled.startup with hdata | hdata
  · have hpolled : x.coordinator.state = previous := by simp [RoomCoordinator.state, hdata]
    exact h.balanced confirmation hopen (hpolled ▸ hjudges) (hpolled ▸ hmode)
  · have hnothing : readbackValue previous .operationMode = none :=
      readbackValue_of_not_hasData hdata
    rcases hmode with hmode | hmode <;> simp [readbackValue, hmode] at hnothing

/-- **A reply without the status map does not refute an open write**: only the exact target
may be new, and the unit holds it. -/
theorem Fair.not_refutes_of_unread (h : x.Fair) {reply : PlanReply} {replied : Clock}
    {polled : Bool} (hprevious : x.coordinator.Previous previous)
    (hreads : reply.reads .flowControl = false) (hanswers : x.unit.answers reply = true)
    (hopen : x.coordinator.confirmations.Open key confirmation) :
    ¬ Refutes ((x.coordinator.atClock replied).applyReply previous polled reply).2 key
        confirmation.baseline confirmation.expectedValue ∧
      (key = .airflowLevels → BalancedIfRead
        ((x.coordinator.atClock replied).applyReply previous polled reply).2 confirmation) := by
  have hfollows := h.follows key confirmation hopen
  have hgroup : writeGroup key = .flowControl := hfollows.writeGroup
  obtain ⟨-, readback, hstate⟩ :=
    (x.coordinator.atClock replied).applyReply_frame previous polled reply
  have hlevels := applyReply_readback (x.coordinator.atClock replied) previous polled reply
  have hsame : SameBase previous (reply.state x.coordinator.room replied previous) :=
    PlanReply.sameBase hreads
  rw [hstate] at hlevels ⊢
  have hbefore : ∀ {readback}, Judges { reply.state x.coordinator.room replied previous with
      balancedTargetReadback := readback } key confirmation.baseline →
        Judges previous key confirmation.baseline := by
    intro readback hjudges
    refine hjudges.of_unread hsame.intensiveActive ?_
    rw [hgroup]
    exact PlanReply.unread hreads
  refine ⟨?_, ?_⟩
  swap
  · rintro rfl hjudges hmode
    exact h.balanced_previous hprevious hopen (hbefore hjudges)
      (hsame.operationMode ▸ hmode)
  -- What judges the write now and did not before is an exact target of balanced levels.
  rintro ⟨hjudges, actual, hactual, hvalue⟩
  have hnone := h.readbackValue_previous hprevious hopen (hbefore hjudges)
  obtain ⟨rfl, hmode, hnoreadback, level, hlevel, rfl⟩ :=
    readbackValue_of_sameBase hsame hgroup hnone hactual
  obtain ⟨expected, hexpected⟩ := h.balanced_previous hprevious hopen (hbefore hjudges) hmode
  rw [hexpected] at hfollows hvalue
  cases hfollows with
  | airflowLevels hbase hrange htargets =>
    rcases hlevels level hlevel with hprevious | hreply | ⟨read, target, rfl, htarget⟩
    · rw [hnoreadback] at hprevious
      cases hprevious
    · have hkept := hsame.readback level hreply
      rw [hnoreadback] at hkept
      cases hkept
    · obtain rfl := hbase.answersTarget hrange htargets (answersTarget_of_answers hanswers) htarget
      rw [valuesMatch_self] at hvalue
      cases hvalue

/-- The exact target that a step reads is what register `41121` answers. -/
theorem mem_exactTargetRead {s : RoomCoordinator} {level : ℤ}
    (h : level ∈ s.exactTargetRead label) :
    ∃ read target replied, label.reply = some (.airflow read target, replied) ∧
      level ∈ target.airflow s.room := by
  unfold RoomCoordinator.exactTargetRead at h
  split at h
  · rename_i previous polled read target replied hinput
    obtain ⟨-, h⟩ := Option.ite_none_right_eq_some.mp h
    refine ⟨read, target, replied, ?_, h⟩
    cases label with
    | readBack | poll =>
      cases hinput
      rfl
    | _ => cases hinput
  · cases h

/-- **A read of the status map shows what the unit holds**, up to the exact target. -/
theorem Fair.shown (h : x.Fair) (hstate : x.coordinator.readState label = some (state, finished))
    (hreads : label.reads .flowControl = true)
    (hanswers : ∀ reply replied, label.reply = some (reply, replied) →
      x.unit.answers reply = true) :
    state.intensiveActive = some x.unit.runsIntensive ∧
      state.presetMode = x.unit.presetModeLeft x.coordinator.state ∧
      (x.unit.runsIntensive = false → ∀ base, x.unit.HoldsBase x.coordinator.room base →
        base.InRange x.coordinator.room → state.operationMode = some base.operationMode ∧
          state.presetMode = base.presetMode ∧
          (state.operationMode = some .unbalanced → ∀ levels ∈ base.targets,
            targetLevels state false = (some levels.1, some levels.2))) := by
  obtain ⟨previous, polled, reply, replied, -, hreply, hprevious, -, rfl⟩ :=
    readState_eq_some hstate
  obtain ⟨-, readback, hframe⟩ :=
    (x.coordinator.atClock replied).applyReply_frame previous polled reply
  -- A start-up entry without values shows no preset mode, as the state without data does.
  have hpreset : previous.presetMode = x.coordinator.state.presetMode := by
    rcases data_or_not_hasData hprevious h.settled.startup with hdata | hdata
    · simp [RoomCoordinator.state, hdata]
    · rcases hprevious with rfl | ⟨hnone, -⟩
      · rfl
      · have hnothing : readbackValue previous .presetMode = none :=
          readbackValue_of_not_hasData hdata
        have hpreset : previous.presetMode = none := by simpa [readbackValue] using hnothing
        rw [hpreset, RoomCoordinator.state, hnone]
        rfl
  simp only [Label.reads, hreply, Option.any_some] at hreads
  have hanswers := hanswers reply replied hreply
  rcases reply with ⟨_ | error | ⟨flow, block | _ | _⟩, target⟩ | _ | _ | read
  all_goals try cases hreads
  obtain rfl : block = x.unit.status := by
    simp only [MockUnit.answers, BlockRead.read?, Bool.and_eq_true] at hanswers
    simpa using hanswers.1.2
  obtain ⟨hintensive, hpresetMode, hbase⟩ :=
    h.inRange.genuine.applyModeRead (applyFlowRead previous flow.read?)
  have hflow : (applyFlowRead previous flow.read?).presetMode = previous.presetMode := by
    cases flow <;> rfl
  rw [hframe]
  refine ⟨hintensive, ?_, fun hrun base hholds hrange => ?_⟩
  · refine hpresetMode.trans ?_
    rw [MockUnit.presetModeLeft, MockUnit.presetModeLeft, hflow, hpreset]
  · obtain ⟨hmode, hshown, -, htargets⟩ := hbase hrun base hholds hrange
    refine ⟨hmode, hshown, fun hunbalanced levels hlevels => ?_⟩
    have hread : (MeltemVentilation.applyModeRead x.coordinator.room
      (applyFlowRead previous flow.read?) (some x.unit.status)).operationMode =
        some .unbalanced := hunbalanced
    rw [targetLevels_of_unbalanced hunbalanced]
    exact (targetLevels_of_unbalanced hread).symm.trans (htargets levels hlevels)

/-- **The quick mode that a fair read leaves** is the one that an open quick-mode write asks for. -/
theorem Fair.presetMode_asked (h : x.Fair) (hrequested : x.Requested requested)
    (hfair : JudgesFairly (x, requested) label)
    (hstate : x.coordinator.readState label = some (state, finished))
    (hreads : label.reads .flowControl = true)
    (hanswers : ∀ reply replied, label.reply = some (reply, replied) →
      x.unit.answers reply = true)
    (hopen : x.coordinator.confirmations.Open .presetMode confirmation) {asked preset : PresetMode}
    (hexpected : confirmation.expectedValue = .presetMode asked)
    (hleft : state.presetMode = some preset) : asked = preset := by
  obtain ⟨-, hpreset, hshown⟩ := h.shown hstate hreads hanswers
  obtain ⟨hknown, hnone⟩ := (hfair hreads).2.1 confirmation hopen.1 hopen.2
  have hfollows := h.follows _ confirmation hopen
  have hbase : asked ≠ .intensive → ∃ base, x.unit.HoldsBase x.coordinator.room base ∧
      base.InRange x.coordinator.room ∧ base.presetMode = some asked := by
    rw [hexpected] at hfollows
    cases hfollows with
    | presetMode hbase => exact hbase
  rcases hrun : x.unit.runsIntensive with _ | _
  · by_cases hasked : asked = .intensive
    · -- An intensive quick mode that has been ended: the unit shows none.
      have hstarted : requested ≠ some true := fun hstarted => by
        rw [hrequested true hstarted] at hrun
        cases hrun
      rw [hpreset, MockUnit.presetModeLeft, hrun, hnone hstarted (hasked ▸ hexpected)] at hleft
      cases hleft
    · obtain ⟨base, hholds, hrange, hshows⟩ := hbase hasked
      rw [(hshown hrun base hholds hrange).2.1, hshows] at hleft
      exact Option.some.inj hleft
  · -- The override hides the quick mode, and the one known before is the one asked for.
    have hended : requested ≠ some false := fun hended => by
      rw [hrequested false hended] at hrun
      cases hrun
    rw [hpreset, MockUnit.presetModeLeft, hrun] at hleft
    rw [hknown hended preset hleft] at hexpected
    cases hexpected
    rfl

/-- **The exact target behind a fair read** matches an open balanced write: it is one kept, which
the condition vouches for, or the one that the unit has just given. -/
theorem Fair.exactTarget_asked (h : x.Fair) (hfair : JudgesFairly (x, requested) label)
    (hstate : x.coordinator.readState label = some (state, finished))
    (hreads : label.reads .flowControl = true)
    (hanswers : ∀ reply replied, label.reply = some (reply, replied) →
      x.unit.answers reply = true)
    (hopen : x.coordinator.confirmations.Open .airflowLevels confirmation)
    (hrun : x.unit.runsIntensive = false) {base : BaseMode} {asked level : ℤ}
    (hholds : x.unit.HoldsBase x.coordinator.room base) (hrange : base.InRange x.coordinator.room)
    (htargets : base.targets = some (asked, asked))
    (hexpected : confirmation.expectedValue = .levels asked asked)
    (hlevel : state.balancedTargetReadback = some level) :
    valuesMatch .airflowLevels (.levels asked asked) (.levels level level) = true := by
  rcases readState_exact hreads hstate h.settled.startup with ⟨hkeeps, -, hkept⟩ | ⟨-, hread⟩
  · rw [← hexpected]
    exact (hfair hreads).2.2 hrun hkeeps confirmation hopen.1 hopen.2 level (hkept ▸ hlevel)
  · obtain ⟨read, target, replied, hreply, htarget⟩ := mem_exactTargetRead (hread ▸ hlevel)
    obtain rfl := hholds.answersTarget hrange htargets
      (answersTarget_of_answers (hanswers _ replied hreply)) htarget
    exact valuesMatch_self _ _

/-- **A fair read of the status map refutes no open write**, and it reports a balanced mode
only after a balanced write. -/
theorem Fair.not_refutes_of_read (h : x.Fair) (hrequested : x.Requested requested)
    (hfair : JudgesFairly (x, requested) label)
    (hstate : x.coordinator.readState label = some (state, finished))
    (hreads : label.reads .flowControl = true)
    (hanswers : ∀ reply replied, label.reply = some (reply, replied) →
      x.unit.answers reply = true)
    (hopen : x.coordinator.confirmations.Open key confirmation) :
    ¬ Refutes state key confirmation.baseline confirmation.expectedValue ∧
      (key = .airflowLevels → BalancedIfRead state confirmation) := by
  obtain ⟨hintensive, -, hshown⟩ := h.shown hstate hreads hanswers
  -- A unit that runs intensive hides the keys of the base mode from the judgement.
  have hvisible : Judges state key confirmation.baseline → key.hiddenByIntensive = true →
      x.unit.runsIntensive = false := by
    intro hjudges hhidden
    rw [Bool.eq_false_iff]
    intro hrun
    exact hjudges.visible ⟨hhidden, by rw [hintensive, hrun]⟩
  have hfollows := h.follows key confirmation hopen
  generalize hexpected : confirmation.expectedValue = expected at hfollows ⊢
  cases hfollows with
  | intensive active =>
    refine ⟨?_, by rintro ⟨⟩⟩
    rintro ⟨hjudges, actual, hactual, hvalue⟩
    obtain ⟨asked, hasked, hsame⟩ :=
      Option.map_eq_some_iff.mp ((hfair hreads).1 confirmation hopen.1 hopen.2)
    rw [← hrequested asked hasked, hexpected] at hsame
    obtain rfl : WriteValue.intensive x.unit.runsIntensive = actual := by
      simpa [readbackValue, hintensive] using hactual
    rw [hsame, valuesMatch_self] at hvalue
    cases hvalue
  | presetMode =>
    refine ⟨?_, by rintro ⟨⟩⟩
    rintro ⟨hjudges, actual, hactual, hvalue⟩
    obtain ⟨preset, hleft, rfl⟩ := Option.map_eq_some_iff.mp hactual
    obtain rfl := h.presetMode_asked hrequested hfair hstate hreads hanswers hopen hexpected hleft
    rw [valuesMatch_self] at hvalue
    cases hvalue
  | operationMode hholds hrange =>
    refine ⟨?_, by rintro ⟨⟩⟩
    rintro ⟨hjudges, actual, hactual, hvalue⟩
    obtain ⟨hmode, -⟩ := hshown (hvisible hjudges rfl) _ hholds hrange
    simp only [readbackValue, hmode, Option.map_some, Option.some.injEq] at hactual
    rw [← hactual, valuesMatch_self] at hvalue
    cases hvalue
  | @airflowLevels base supply extract hholds hrange htargets =>
    have hbalanced : state.operationMode = some .manual ∨ state.operationMode = some .off →
        state.operationMode = some base.operationMode → supply = extract := by
      intro hmode hbase
      rw [hbase] at hmode
      cases base with
      | off | manual level =>
        cases htargets
        rfl
      | unbalanced => simp [BaseMode.operationMode] at hmode
      | sensor | quick => cases htargets
    refine ⟨?_, fun _ hjudges hmode => ?_⟩
    · rintro ⟨hjudges, actual, hactual, hvalue⟩
      have hrun := hvisible hjudges rfl
      obtain ⟨hmode, -, hlevels⟩ := hshown hrun base hholds hrange
      cases base with
      | off | manual level =>
        cases htargets
        simp only [readbackValue, hmode, BaseMode.operationMode] at hactual
        obtain ⟨level, hlevel, rfl⟩ := Option.map_eq_some_iff.mp hactual
        rw [h.exactTarget_asked hfair hstate hreads hanswers hopen hrun hholds hrange rfl hexpected
          hlevel] at hvalue
        cases hvalue
      | unbalanced =>
        have hunbalanced := hlevels hmode _ rfl
        cases htargets
        simp only [readbackValue, hmode, BaseMode.operationMode, hunbalanced,
          Option.some.injEq] at hactual
        rw [← hactual, valuesMatch_self] at hvalue
        cases hvalue
      | sensor | quick => cases htargets
    · obtain ⟨hbase, -⟩ := hshown (hvisible hjudges rfl) base hholds hrange
      obtain rfl := hbalanced hmode hbase
      exact ⟨supply, hexpected⟩

/-- **No state that a fair step judges by refutes an open write.** -/
theorem Fair.not_refutes (h : x.Fair) (hrequested : x.Requested requested)
    (hfair : JudgesFairly (x, requested) label)
    (hanswers : ∀ reply replied, label.reply = some (reply, replied) →
      x.unit.answers reply = true)
    (hsource : x.coordinator.Source label state finished)
    (hopen : x.coordinator.confirmations.Open key confirmation) :
    ¬ Refutes state key confirmation.baseline confirmation.expectedValue ∧
      (key = .airflowLevels → BalancedIfRead state confirmation) := by
  rcases hsource with ⟨-, hprevious⟩ | ⟨hstate, previous, reply, replied, polled, hprevious,
    hreply, -, -, rfl⟩
  · refine ⟨?_, ?_⟩
    · rintro ⟨hjudges, actual, hactual, -⟩
      rw [h.readbackValue_previous hprevious hopen hjudges] at hactual
      cases hactual
    · rintro rfl
      exact h.balanced_previous hprevious hopen
  · rcases hreads : label.reads .flowControl with _ | _
    · rw [Label.reads, hreply] at hreads
      exact h.not_refutes_of_unread hprevious hreads (hanswers reply replied hreply) hopen
    · exact h.not_refutes_of_read hrequested hfair hstate hreads hanswers hopen

end Judge

/-! ### The steps keep the invariant -/

section Steps

variable {x y : UnitSystem} {requested : Option Bool} {label : Label} {state : RoomState}
  {t : RoomCoordinator} {write : PreparedWrite}

/-- A step that judges nothing and executes nothing: what is open was open before. -/
theorem Fair.keep (h : x.Fair) (hinRange : y.InRange) (hsettled : y.coordinator.Settled)
    (hunit : y.unit = x.unit) (hroom : y.coordinator.room = x.coordinator.room)
    (hstate : y.coordinator.state = x.coordinator.state) (hmismatch : y.NoMismatch)
    (hopen : ∀ key confirmation, y.coordinator.confirmations.Open key confirmation →
      ∃ previous, x.coordinator.confirmations.Open key previous ∧
        confirmation.expectedValue = previous.expectedValue ∧
        confirmation.baseline = previous.baseline) : y.Fair where
  inRange := hinRange
  settled := hsettled
  noMismatch := hmismatch
  follows key confirmation hc := by
    obtain ⟨previous, hprevious, hexpected, -⟩ := hopen key confirmation hc
    rw [hunit, hroom, hexpected]
    exact h.follows key previous hprevious
  balanced confirmation hc := by
    obtain ⟨previous, hprevious, hexpected, hbaseline⟩ := hopen _ confirmation hc
    rw [BalancedIfRead, hstate, hexpected, hbaseline]
    exact h.balanced previous hprevious

/-- **A fair step that judges keeps the invariant.** -/
theorem Fair.judge (h : x.Fair) (hrequested : x.Requested requested)
    (hfair : JudgesFairly (x, requested) label)
    (hanswers : ∀ reply replied, label.reply = some (reply, replied) →
      x.unit.answers reply = true)
    (hjudged : x.coordinator.Judged label state t) (hinRange : t.LevelsInRange) :
    Fair ⟨t, x.unit⟩ where
  inRange := ⟨hjudged.room ▸ h.inRange.genuine, hinRange⟩
  settled := h.settled.judge hjudged
  noMismatch key confirmation hmem := by
    have hmem : t.confirmations.byKey key = some confirmation := hmem
    rw [hjudged.byKey] at hmem
    obtain ⟨previous, hprevious, rfl⟩ := Option.map_eq_some_iff.mp hmem
    intro hmismatch
    obtain ⟨hopen, hrefutes⟩ :=
      refutes_of_mismatch hmismatch (h.noMismatch key previous hprevious)
    exact (h.not_refutes hrequested hfair hanswers hjudged.source ⟨hprevious, hopen⟩).1 hrefutes
  follows key confirmation hc := by
    obtain ⟨previous, hprevious, hexpected, -⟩ := open_of_confirm hjudged.byKey hc
    rw [hexpected]
    exact hjudged.room ▸ h.follows key previous hprevious
  balanced confirmation hc := by
    obtain ⟨previous, hprevious, hexpected, hbaseline, -⟩ := open_of_confirm hjudged.byKey hc
    have hstate := hjudged.state_eq
    rw [BalancedIfRead, hexpected, hbaseline]
    show Judges t.state _ _ → t.state.operationMode = _ ∨ t.state.operationMode = _ → _
    rw [hstate]
    exact (h.not_refutes hrequested hfair hanswers hjudged.source hprevious).2 rfl

/-- The end of a readback keeps the invariant. -/
theorem Fair.finishReadBack (h : x.Fair) (write : PreparedWrite)
    (hinRange : (x.coordinator.finishReadBack write).LevelsInRange) :
    Fair ⟨x.coordinator.finishReadBack write, x.unit⟩ := by
  obtain ⟨hroom, -, hdata, -, hconfirmations, -⟩ := finishReadBack_frame x.coordinator write
  refine h.keep (y := ⟨_, _⟩) ⟨hroom ▸ h.inRange.genuine, hinRange⟩ h.settled.finishReadBack rfl
    hroom (by simp [RoomCoordinator.state, hdata]) ?_ ?_
  · intro key confirmation hmem
    have hmem : (x.coordinator.finishReadBack write).confirmations.byKey key =
      some confirmation := hmem
    rw [hconfirmations] at hmem
    by_cases hkey : key = write.writeKey
    · subst hkey
      rw [WriteConfirmations.markUnconfirmed_self] at hmem
      obtain ⟨previous, hprevious, rfl⟩ := Option.map_eq_some_iff.mp hmem
      split
      · simp
      · exact h.noMismatch _ previous hprevious
    · rw [WriteConfirmations.markUnconfirmed_of_ne hkey] at hmem
      exact h.noMismatch key confirmation hmem
  · intro key confirmation hc
    have hc : (x.coordinator.finishReadBack write).confirmations.Open key confirmation := hc
    rw [hconfirmations] at hc
    exact open_markUnconfirmed.1 hc

/-- **A failed write keeps the invariant**: its outcome is final. -/
theorem Fair.fail (h : x.Fair) (error : String)
    (hinRange : (x.coordinator.fail write error).LevelsInRange) :
    Fair ⟨x.coordinator.fail write error, x.unit⟩ := by
  obtain ⟨hroom, -, hdata, -⟩ := fail_frame x.coordinator write error
  refine h.keep (y := ⟨_, _⟩) ⟨hroom ▸ h.inRange.genuine, hinRange⟩ (h.settled.fail error) rfl
    hroom (by simp [RoomCoordinator.state, hdata]) ?_ ?_
  · intro key confirmation hmem
    rcases byKey_fail hmem with hfailed | hbefore
    · rw [hfailed]
      simp
    · exact h.noMismatch key confirmation hbefore
  · rintro key confirmation ⟨hmem, hopen⟩
    rcases byKey_fail hmem with hfailed | hbefore
    · rw [hfailed] at hopen
      cases hopen
    · exact ⟨confirmation, ⟨hbefore, hopen⟩, rfl, rfl⟩

/-- **An accepted write keeps the invariant**: the unit follows it, and the open writes that
it does not supersede are not touched by its command. -/
theorem Fair.accept (h : x.Fair) (hplanned : write.Planned)
    (hmode : ∀ key, write.writeKey ≠ .controlSetting key)
    (hencoded : write.call.encodeError x.coordinator.room = none)
    (hrange : ∀ sent ∈ write.modeCommand, sent.InRange x.coordinator.room)
    (hinRange : (x.coordinator.accept write).LevelsInRange) :
    ∃ command, write.modeCommand = some command ∧
      Fair ⟨x.coordinator.accept write, x.unit.execute x.coordinator.room command⟩ := by
  obtain ⟨hroom, -, hdata, -, hconfirmations, -⟩ := accept_frame x.coordinator write
  obtain ⟨command, hcommand, hfollows, hbase⟩ :=
    hplanned.follows x.unit hmode hencoded hrange
  have hstate : (x.coordinator.accept write).state = x.coordinator.state := by
    simp [RoomCoordinator.state, hdata]
  refine ⟨command, hcommand, ⟨hroom ▸ h.inRange.genuine.execute command, hinRange⟩,
    h.settled.accept, ?_, ?_, ?_⟩
  · intro key confirmation hmem
    have hmem : (x.coordinator.accept write).confirmations.byKey key = some confirmation := hmem
    rw [hconfirmations] at hmem
    by_cases hkey : key = write.writeKey
    · subst hkey
      rw [WriteConfirmations.recordPending_self] at hmem
      cases hmem
      simp
    · rw [WriteConfirmations.recordPending_of_ne hkey] at hmem
      simp only [WriteConfirmations.supersede] at hmem
      split at hmem
      · obtain ⟨previous, -, rfl⟩ := Option.map_eq_some_iff.mp hmem
        simp
      · exact h.noMismatch key confirmation hmem
  · intro key confirmation hc
    have hc : (x.coordinator.accept write).confirmations.Open key confirmation := hc
    rw [hconfirmations] at hc
    show (x.unit.execute _ command).Follows (x.coordinator.accept write).room key _
    rw [hroom]
    -- The write accepted now follows the command; any other still open concerns what it leaves.
    rcases open_of_record hc with ⟨rfl, hexpected, -⟩ | ⟨-, hopen, hnot⟩
    · rwa [hexpected]
    · have hbefore := h.follows key confirmation hopen
      by_cases hkey : key ∈ baseModeWrites
      · exact hbefore.execute h.inRange.genuine (hbase (hnot hkey))
      · generalize confirmation.expectedValue = expected at hbefore ⊢
        cases hbefore with
        | intensive active => exact .intensive active
        | airflowLevels | operationMode | presetMode => exact absurd (by decide) hkey
  · intro confirmation hc
    have hc : (x.coordinator.accept write).confirmations.Open .airflowLevels confirmation := hc
    rw [hconfirmations] at hc
    show BalancedIfRead (x.coordinator.accept write).state confirmation
    rw [hstate]
    rcases open_of_record hc with ⟨hkey, -, hbaseline⟩ | ⟨-, hopen, -⟩
    · -- The baseline of the new write is the present health, which therefore cannot judge it.
      rintro ⟨htried, hnewer, -⟩ -
      rw [hbaseline, RoomCoordinator.baseline, ← hkey] at hnewer
      rcases hd : x.coordinator.data with _ | data
      · simp [RoomCoordinator.state, hd, emptyRoomState, emptyReadHealth] at htried
      · simp [RoomCoordinator.state, RoomCoordinator.groupHealth, hd] at hnewer
    · exact h.balanced confirmation hopen

/-- Only the command for a control setting writes one. -/
theorem writeKey_ne_of_sends {s u : RoomCoordinator} {command : Command}
    (h : s.Sends command u write) (hcommand : ∀ key value, command ≠ .setControlSetting key value)
    (key : ControlSetting) : write.writeKey ≠ .controlSetting key := by
  induction h with
  | clearPresetMode preset t write hpreset hsends ih => exact ih (by simp)
  | controlSetting setting value hrange => exact absurd rfl (hcommand setting value)
  | _ => simp [prepareSetLevel, prepareSetUnbalancedLevels, operationModeWrite]

/-- **Every fair step of accepted commands keeps the invariant.** -/
theorem Fair.step (h : x.Fair) (hrequested : x.Requested requested)
    (hcommands : x.CommandsAccepted label) (hfair : JudgesFairly (x, requested) label)
    (hstep : x.step label = some y) : y.Fair := by
  obtain ⟨hcoordinator, hunit, hanswers⟩ := step_eq_some hstep
  have hlabel : label.InRange x.coordinator.room := by
    cases label with
    | command command outcome finished =>
      cases command <;> first | exact hcommands.2 | exact trivial
    | _ => trivial
  obtain ⟨hinRange, hroom⟩ := h.inRange.step hlabel hstep
  have hsettled := settled_step h.settled hcoordinator
  obtain ⟨s, unit⟩ := y
  dsimp only at hcoordinator hunit hinRange hroom hsettled
  rcases x.coordinator.step_cases hcoordinator with ⟨command, outcome, finished, u, write, rfl,
    hle, hprepare, hwrite, rfl⟩ | ⟨hwrite, hcases⟩
  · obtain ⟨hquiet, hplanned⟩ : x.coordinator.Quiet u ∧ write.Planned := by
      have hsound := x.coordinator.sound_prepare command
      rwa [hprepare] at hsound
    have hkept := hquiet.atClock hle
    have hu : Fair ⟨u.atClock finished, x.unit⟩ :=
      h.keep (y := ⟨u.atClock finished, x.unit⟩)
        ⟨hkept.room ▸ h.inRange.genuine, h.inRange.levels.quiet hkept⟩
        (h.settled.quiet hkept) rfl hkept.room hkept.state
        (fun key c hc => h.noMismatch key c (hkept.confirmations ▸ hc))
        fun key c hc => ⟨c, hkept.confirmations ▸ hc, rfl, rfl⟩
    obtain ⟨rfl, hsetting⟩ : outcome = .accepted ∧
        ∀ key value, command ≠ .setControlSetting key value := by
      cases command <;> first | exact ⟨hcommands.1, by simp⟩ | exact hcommands.elim
    have hmode := writeKey_ne_of_sends (sends_of_prepare hprepare) hsetting
    -- A call that cannot be encoded fails before it reaches the unit.
    rcases hencoded : write.call.encodeError x.coordinator.room with _ | error
    · have haccepted : write.outcome x.coordinator.room .accepted = .accepted := by
        simp [PreparedWrite.outcome, hencoded]
      have hfinish : (u.atClock finished).finishWrite write .accepted =
          (u.atClock finished).accept write := by
        rw [RoomCoordinator.finishWrite, hkept.room, haccepted]
      rw [hfinish] at hinRange ⊢
      obtain ⟨command, hcommand, hfair⟩ := hu.accept hplanned hmode
        (hkept.room.symm ▸ hencoded)
        (fun sent hsent => hkept.room.symm ▸
          (sends_of_prepare hprepare).inRange h.inRange.levels hlabel hsent) hinRange.levels
      have hexecuted : unit = x.unit.execute x.coordinator.room command := by
        rw [hunit, unitAfter, hwrite, haccepted]
        simp only [hcommand]
      rw [hexecuted, ← hkept.room]
      exact hfair
    · have hfailed : write.outcome x.coordinator.room .accepted = .failed error := by
        simp [PreparedWrite.outcome, hencoded]
      have hfinish : (u.atClock finished).finishWrite write .accepted =
          (u.atClock finished).fail write error := by
        rw [RoomCoordinator.finishWrite, hkept.room, hfailed]
      rw [hfinish] at hinRange ⊢
      have hidle : unit = x.unit := by
        rw [hunit, unitAfter, hwrite, hfailed]
      rw [hidle]
      exact hu.fail error hinRange.levels
  · rw [unitAfter_of_writeOf_none hwrite] at hunit
    subst hunit
    rcases hcases with ⟨-, hquiet⟩ | ⟨state, hjudged⟩ | ⟨state, u, write, hjudged, -, rfl⟩ |
      hstartup
    · exact h.keep hinRange hsettled rfl hroom hquiet.state
        (fun key c hc => h.noMismatch key c (hquiet.confirmations ▸ hc))
        fun key c hc => ⟨c, hquiet.confirmations ▸ hc, rfl, rfl⟩
    · exact h.judge hrequested hfair hanswers hjudged hinRange.levels
    · refine Fair.finishReadBack (x := ⟨u, x.unit⟩) ?_ write hinRange.levels
      exact h.judge hrequested hfair hanswers hjudged
        (h.inRange.levels.judged (h.inRange.levels.source h.inRange.genuine hanswers
          hjudged.source) hjudged)
    · refine h.keep hinRange hsettled rfl hroom ?_ ?_ ?_
      · simp [RoomCoordinator.state, hstartup.data]
      · exact fun key c hc => h.noMismatch key c (hstartup.byKey ▸ hc)
      · exact fun key c hc => ⟨c, hc.of_byKey (by rw [hstartup.byKey]), rfl, rfl⟩

end Steps

/-! ### Runs -/

/-- A step of the run that is considered: commands are accepted, and reads judge fairly. -/
def FairStep (x : UnitSystem × Option Bool) (label : Label) : Prop :=
  x.1.CommandsAccepted label ∧ JudgesFairly x label

/-- **No write is mismatched**, in every run of accepted commands on a unit that follows them,
whatever is read and missed, as long as its reads judge fairly. -/
theorem noMismatch_of_reach {x : UnitSystem × Option Bool}
    (h : Reach RequestedStep FairStep RequestedStart x) : x.1.NoMismatch := by
  have hfair : x.1.Fair ∧ x.1.Requested x.2 := by
    refine h.invariant (P := fun x : UnitSystem × Option Bool =>
      x.1.Fair ∧ x.1.Requested x.2) ?_ ?_
    · rintro ⟨⟨s, unit⟩, requested⟩ ⟨hstart, rfl⟩
      have hinRange := hstart.inRange
      have hsettled := settled_of_started hstart.1
      obtain ⟨⟨room, clock, rfl⟩, -⟩ := hstart
      refine ⟨⟨hinRange, hsettled, ?_, ?_, ?_⟩, ?_⟩
      · rintro key confirmation ⟨⟩
      · rintro key confirmation ⟨⟨⟩, -⟩
      · rintro confirmation ⟨⟨⟩, -⟩
      · rintro active ⟨⟩
    · rintro ⟨x, requested⟩ label ⟨y, after⟩ ⟨hfair, hrequested⟩ hok hstep
      obtain ⟨hstep, rfl⟩ := recorded_eq_some.mp hstep
      exact ⟨hfair.step hrequested hok.1 hok.2 hstep, hrequested.step hstep⟩
  exact hfair.1.noMismatch

end UnitSystem

/-! ### The failing run -/

/-- A complete reply of a unit to an airflow read. -/
def MockUnit.reply (unit : MockUnit) : PlanReply :=
  .airflow (.blocks (.values ⟨unit.extractAirFlow, unit.supplyAirFlow⟩) (.values unit.status))
    (.value (unit.set .currentLevel))

/-- The reply of a new unit that has executed some commands. -/
def replyAfter (commands : List ModeCommand) : PlanReply :=
  ((newUnit .sFc).executeAll sampleRoom commands).reply

/-- The reply to a read on a lost link. -/
def lostReply : PlanReply := .airflow (.raised "Request timed out") .failed

namespace UnitSystem

/-- A new unit before the first poll. -/
def sampleUnit : UnitSystem := ⟨sampleStart, newUnit .sFc⟩

theorem sampleUnit_started : sampleUnit.Started :=
  ⟨sampleStart_started, newUnit_genuine sampleRoom⟩

instance (x : UnitSystem) : DecidablePred x.CommandsAccepted
  | .command (.setControlSetting _ _) _ _ => isFalse id
  | .command (.setLevel _) _ _ | .command (.setUnbalancedLevels _ _) _ _
  | .command (.setDirectionLevel _ _) _ _ | .command (.setOperationMode _) _ _
  | .command (.setPresetMode _) _ _ | .command .clearPresetMode _ _
  | .command .activateIntensive _ _ | .command .deactivateIntensive _ _ =>
    inferInstanceAs (Decidable (_ ∧ _))
  | .elapse _ | .expire _ | .queryLevels | .readBack _ _ _ | .cancelReadBack
  | .poll _ _ _ _ | .otherPoll _ _ | .otherReadBack _ => isTrue trivial

instance (x : UnitSystem × Option Bool) : DecidablePred (FairStep x) :=
  fun _ => inferInstanceAs (Decidable (_ ∧ _))

/-- An airflow is set and the poll after it is lost, so that the unit is not read for some
seconds; it is judged when an override that is started next has ended. -/
def levelUnderIntensive : List Label :=
  [.command (.setLevel 60) .accepted (atSecond 1),
    .poll lostReply ⟨false, false⟩ (atSecond 2) (atSecond 2),
    .command .activateIntensive .accepted (atSecond 5),
    .readBack (replyAfter [.writeLevel 60, .writePresetMode .intensive]) (atSecond 8)
      (atSecond 8),
    .command .deactivateIntensive .accepted (atSecond 9),
    .readBack (replyAfter [.writeLevel 60, .writePresetMode .intensive, .clearIntensive])
      (atSecond 12) (atSecond 12)]

theorem noMismatch_of_reach_levelUnderIntensive :
    ∃ x, run RequestedStep levelUnderIntensive (sampleUnit, none) = some x ∧
      ((x.1.coordinator.confirmations.byKey .airflowLevels).any fun confirmation =>
        confirmation.status = .confirmed) = true ∧ x.1.NoMismatch := by
  have hstart : Reach RequestedStep FairStep RequestedStart (sampleUnit, none) :=
    .start ⟨sampleUnit_started, rfl⟩
  obtain ⟨x, hrun, hreach, hx⟩ := hstart.exists_of_run levelUnderIntensive
    (fun x => (x.1.coordinator.confirmations.byKey .airflowLevels).any fun confirmation =>
      confirmation.status = .confirmed) (by decide +kernel) (by decide +kernel)
  exact ⟨x, hrun, hx, noMismatch_of_reach hreach⟩

/-- A quick mode is confirmed, the readback of a second one is lost, and then intensive is
activated and read back, when the unit is read again. -/
def presetUnderIntensive : List Label :=
  [.command (.setPresetMode .medium) .accepted (atSecond 1),
    .readBack (replyAfter [.writePresetMode .medium]) (atSecond 4) (atSecond 4),
    .command (.setPresetMode .low) .accepted (atSecond 5),
    .readBack lostReply (atSecond 8) (atSecond 8),
    .command .activateIntensive .accepted (atSecond 11),
    .readBack (replyAfter [.writePresetMode .medium, .writePresetMode .low,
      .writePresetMode .intensive]) (atSecond 14) (atSecond 14)]

/-- **A write that the unit has followed is mismatched**: the override hides the quick mode,
and the one that was known before the write is compared with it. -/
theorem noMismatch_refuted :
    ∃ x, run RequestedStep presetUnderIntensive (sampleUnit, none) = some x ∧
      Reach RequestedStep (fun y label => y.1.CommandsAccepted label) RequestedStart x ∧
      ¬ x.1.NoMismatch := by
  have hstart : Reach RequestedStep (fun y label => y.1.CommandsAccepted label) RequestedStart
      (sampleUnit, none) := .start ⟨sampleUnit_started, rfl⟩
  obtain ⟨x, hrun, hreach, hx⟩ := hstart.exists_of_run presetUnderIntensive
    (fun x => (x.1.coordinator.confirmations.byKey .presetMode).any fun confirmation =>
      confirmation.status = .mismatch) (by decide +kernel) (by decide +kernel)
  refine ⟨x, hrun, hreach, fun h => ?_⟩
  obtain ⟨confirmation, hmem, hstatus⟩ := (Option.any_eq_true _ _).mp hx
  exact h .presetMode confirmation hmem (of_decide_eq_true hstatus)

end UnitSystem

end MeltemVentilation
