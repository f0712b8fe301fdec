import MeltemVentilation.FalseMismatch
import MeltemVentilation.SwitchOff

/-!
# What a direction command sends for the other direction

A command for one direction of the airflow is sent as a pair, so the other direction has to
be rebuilt: from the pending pair while that is on display, and else from what the state
reports, the targets of the status map or the measured airflow. On a unit that executes
what it acknowledges (`UnitSystem`) the rebuilt level should be the one that was commanded
last.

The record of a run, `FanRecord`, holds for each direction the level of the last accepted command
for it and what the commands for the other direction have left of that level since, the pair of
the last accepted fan write and, for each of the two sources in the state, whether all of it was
read since. A source can be older than that write in three ways: nothing was read since, the
status map was read while intensive hid the base mode and the old targets were kept, or an old
exact target was carried forward. It can also be read since and still say nothing about the pair:
the airflow measured while intensive runs. The condition `CurrentLevels` asks that the source in
use is none of these. A level that was commanded is also lost bit by bit: a level close to that of
the other direction is sent as one balanced level, and a measured pair that is nearly balanced as
its mean. The condition `LevelLeft` asks that these merges have not moved it beyond the tolerance.

Under both the other direction is kept in every run (`oppositeKept_of_reach`). Without the first a
unit that was set to 60/39 is sent 39/20, and without the second one whose extract air was set to
40 is sent 60/44 (`oppositeKept_refuted`).
-/

namespace MeltemVentilation

open RoomCoordinator Transition

/-! ### A unit that holds a pair -/

section Unit

variable {room : RoomConfig} {unit : MockUnit} {command : ModeCommand}

/-- The airflow of a commanded level is that level. -/
theorem airflowOfRaw_scale {level : ℤ} (h : LevelInRange room level) (quickModes : Bool) :
    airflowOfRaw (scaleAirflowToRaw room level) (profileMaxAirflow room.profile) quickModes =
      level := by
  have hle := scaleAirflowToRaw_le room level
  have hround := scaleRawLevelToAirflow_scaleAirflowToRaw h
  generalize scaleAirflowToRaw room level = raw at hle hround
  have hquick : (if quickModes then quickModeAirflow raw else none) = none := by
    split
    · unfold quickModeAirflow
      split <;> first | rfl | omega
    · rfl
  rw [airflowOfRaw, hquick]
  dsimp only
  rw [if_pos hle]
  exact hround

/-- The unit holds a pair of levels as its base mode. -/
def MockUnit.HoldsPair (room : RoomConfig) (unit : MockUnit) (pair : ℤ × ℤ) : Prop :=
  ∃ base, unit.HoldsBase room base ∧ base.InRange room ∧ base.targets = some pair

/-- A unit without intensive runs at the pair that it holds. -/
theorem MockUnit.HoldsPair.modeUpdates {pair : ℤ × ℤ} (h : unit.HoldsPair room pair)
    (hprofile : unit.profile = room.profile) (hrun : unit.runsIntensive = false) :
    unit.modeUpdates.2 = some (pair.2, pair.1) := by
  obtain ⟨base, hbase, hrange, htargets⟩ := h
  obtain ⟨hsupply, hextract⟩ := hrange pair htargets
  have hairflow : ∀ quickModes, airflowOfRaw (scaleAirflowToRaw room pair.1)
      (profileMaxAirflow room.profile) quickModes = pair.1 := airflowOfRaw_scale hsupply
  have hairflow' : ∀ quickModes, airflowOfRaw (scaleAirflowToRaw room pair.2)
      (profileMaxAirflow room.profile) quickModes = pair.2 := airflowOfRaw_scale hextract
  cases base with
  | off | manual | unbalanced =>
    cases htargets
    simp_all [HoldsBase, BaseMode.registers, MockUnit.modeUpdates, modeSensorControl, modeOff,
      modeUnbalanced, modeManual]
  | sensor | quick => cases htargets

/-- A unit that runs as it was told: applying its registers again changes nothing. -/
def MockUnit.Applied (unit : MockUnit) : Prop := unit.commit = unit

theorem MockUnit.applied_commit (unit : MockUnit) : unit.commit.Applied := by
  have hsame : unit.commit.modeUpdates = unit.modeUpdates := rfl
  unfold Applied
  rw [commit, hsame]
  rcases hupdates : unit.modeUpdates.2 with _ | flows <;> simp [commit, hupdates]

theorem MockUnit.Applied.execute (h : unit.Applied) (command : ModeCommand) :
    (unit.execute room command).Applied := by
  unfold MockUnit.execute
  split
  · exact MockUnit.applied_commit _
  · exact h

/-- A unit that has executed a command with an encoding runs as it was told. -/
theorem MockUnit.applied_execute (unit : MockUnit)
    (hencoded : (WriteCall.mode command).encodeError room = none) :
    (unit.execute room command).Applied := by
  unfold MockUnit.execute
  rcases hwrites : command.writes room with error | writes
  · simp [WriteCall.encodeError, hwrites] at hencoded
  · exact MockUnit.applied_commit _

/-- The airflow of a unit without intensive is the pair that it holds. -/
theorem MockUnit.HoldsPair.airflow {pair : ℤ × ℤ} (h : unit.HoldsPair room pair)
    (happlied : unit.Applied) (hprofile : unit.profile = room.profile)
    (hrun : unit.runsIntensive = false) :
    unit.supplyAirFlow = pair.1 ∧ unit.extractAirFlow = pair.2 := by
  have hupdates := h.modeUpdates hprofile hrun
  refine ⟨?_, ?_⟩ <;> rw [← happlied, MockUnit.commit, hupdates] <;> rfl

end Unit

/-! ### What a plan keeps of the other direction -/

section Plan

variable {room : RoomConfig} {state : RoomState} {levels : LevelPair}
  {source : Option LevelSource} {direction : Direction}

/-- The level of the other direction in a complete pair. -/
def Direction.opposite (direction : Direction) (pair : ℤ × ℤ) : ℤ :=
  match direction with
  | .supply => pair.2
  | .extract => pair.1

/-- The other direction. -/
def Direction.other : Direction → Direction
  | .supply => .extract
  | .extract => .supply

/-- The level of a direction in a pair. -/
def Direction.level (direction : Direction) (pair : ℤ × ℤ) : ℤ := direction.other.opposite pair

@[simp] theorem Direction.level_other (direction : Direction) (pair : ℤ × ℤ) :
    direction.other.level pair = direction.opposite pair := by
  cases direction <;> rfl

theorem Direction.eq_other_of_ne {direction other : Direction} (h : direction ≠ other) :
    other = direction.other := by
  cases direction <;> cases other <;> first | rfl | exact absurd rfl h

@[simp] theorem oppositeLevel_some (direction : Direction) (pair : ℤ × ℤ) :
    oppositeLevel direction (some pair.1, some pair.2) = some (direction.opposite pair) := by
  cases direction <;> rfl

/-- **A pair that is planned**: the other direction was known, and the unit not off. -/
theorem planDirectionWrite_pair {level supply extract : ℤ} {fallback : Option LevelWriteFallback}
    (h : planDirectionWrite room state levels source direction level =
      .ok (.pair supply extract, fallback)) :
    ∃ other, oppositeLevel direction levels = some other ∧
      plannedOperationMode state levels source ≠ some .off ∧
      direction.opposite (supply, extract) = plannedOpposite levels source other ∧
      direction.level (supply, extract) = level ∧ supply ≠ extract := by
  unfold planDirectionWrite at h
  rcases hother : oppositeLevel direction levels with _ | other
  · rw [hother] at h
    dsimp only at h
    split at h <;> cases h
  · rw [hother] at h
    dsimp only at h
    split at h
    · cases h
    · rename_i hpair
      have hapart : level ≠ plannedOpposite levels source other := by
        intro hsame
        exact hpair (.inl (by simp [levelsBalanced, ← hsame]))
      refine ⟨other, rfl, fun hoff => hpair (.inr (.inl hoff)), ?_⟩
      cases direction
      · cases h
        exact ⟨rfl, rfl, hapart⟩
      · cases h
        exact ⟨rfl, rfl, hapart.symm⟩

/-- A plan for one balanced level has the level of the command. -/
theorem planDirectionWrite_balanced {level planned : ℤ} {fallback : Option LevelWriteFallback}
    (h : planDirectionWrite room state levels source direction level =
      .ok (.balanced planned, fallback)) : planned = level := by
  unfold planDirectionWrite at h
  rcases hother : oppositeLevel direction levels with _ | other
  · rw [hother] at h
    dsimp only at h
    split at h
    · cases h
    · cases h
      rfl
  · rw [hother] at h
    dsimp only at h
    split at h
    · cases h
      rfl
    · cases direction <;> cases h

/-- **What a plan sends of the other direction**: its level, or the mean of a measured pair that is
nearly balanced. -/
theorem plannedOpposite_eq (direction : Direction) (pair : ℤ × ℤ) (source : Option LevelSource) :
    plannedOpposite (some pair.1, some pair.2) source (direction.opposite pair) =
      if source = some .measured ∧ |pair.1 - pair.2| ≤ levelConfirmTolerance then
        HalfEven.round (pair.1 + pair.2) 2
      else direction.opposite pair := by
  unfold plannedOpposite
  split
  · rename_i heq
    cases heq
    simp
  · rename_i hother
    rw [if_neg]
    rintro ⟨rfl, -⟩
    exact hother _ _ rfl rfl

/-- Without pending levels, a plan starts from the known operating mode. -/
theorem plannedOperationMode_of_ne_pending (h : source ≠ some .pending) :
    plannedOperationMode state levels source = state.operationMode := by
  unfold plannedOperationMode
  split
  · exact absurd rfl h
  · rfl

end Plan

/-! ### The targets after a read -/

/-- The targets of a state are a complete pair, and no quick mode is known. -/
structure RoomState.HasTargets (state : RoomState) (pair : ℤ × ℤ) : Prop where
  presetMode : state.presetMode = none
  targets : targetLevels state false = (some pair.1, some pair.2)

/-- A state runs one level for both directions: it is not off, unbalanced or controlled by
a sensor. -/
def RoomState.RunsBalanced (state : RoomState) : Prop :=
  state.operationMode ≠ some .off ∧ state.operationMode ≠ some .unbalanced ∧
    ∀ mode ∈ sensorOperationModes, state.operationMode ≠ some mode

section Targets

variable {room : RoomConfig} {unit : MockUnit} {s : RoomCoordinator} {pair : ℤ × ℤ}
  {previous state : RoomState} {readback : Option ℤ} {reply : PlanReply} {clock : Clock}
  {polled : Bool}

/-- **Where the targets of a state are kept**, by its operating mode. -/
theorem hasTargets_iff : state.HasTargets pair ↔ state.presetMode = none ∧
    ((state.operationMode = some .off ∧ pair = (0, 0)) ∨
      (state.operationMode = some .unbalanced ∧ state.targetLevel = some pair.1 ∧
        state.extractTargetLevel = some pair.2) ∨
      (state.RunsBalanced ∧ pair.2 = pair.1 ∧
        state.balancedTargetReadback.or state.targetLevel = some pair.1)) := by
  obtain ⟨supply, extract⟩ := pair
  refine ⟨fun ⟨hpreset, h⟩ => ⟨hpreset, ?_⟩, fun ⟨hpreset, h⟩ => ⟨hpreset, ?_⟩⟩
  · unfold targetLevels at h
    unfold RoomState.RunsBalanced
    split at h
    · exact .inl ⟨‹_›, by simpa [eq_comm] using h⟩
    · exact .inr (.inl ⟨‹_›, by simpa using h⟩)
    · cases h
    · cases h
    · cases h
    · rename_i hoff hunbalanced hhumidity hco2 hautomatic
      -- The last branch of `target_levels`: neither off, unbalanced nor a sensor mode.
      refine .inr (.inr ⟨⟨hoff, hunbalanced, ?_⟩, ?_⟩)
      · simp only [sensorOperationModes, List.mem_cons, List.not_mem_nil, or_false]
        rintro mode (rfl | rfl | rfl) <;> assumption
      · simp only [hpreset, Option.bind_none, Option.isSome_none, Bool.false_and,
          Bool.false_eq_true, if_false] at h
        split at h
        · rename_i level hlevel
          cases h
          exact ⟨rfl, hlevel⟩
        · cases h
  · rcases h with ⟨hmode, hpair⟩ | ⟨hmode, hsupply, hextract⟩ | ⟨⟨hoff, hunbalanced, hsensor⟩,
      hsame, hlevel⟩
    · cases hpair
      simp [targetLevels, hmode]
    · simp [targetLevels, hmode, hsupply, hextract]
    · unfold targetLevels
      dsimp only at hsame hlevel
      split
      · exact absurd ‹_› hoff
      · exact absurd ‹_› hunbalanced
      · exact absurd ‹_› (hsensor .humidityControl (by decide))
      · exact absurd ‹_› (hsensor .co2Control (by decide))
      · exact absurd ‹_› (hsensor .automatic (by decide))
      · simp [hpreset, hlevel, hsame]

/-- The targets are the same whether or not the airflow is fresh. -/
theorem RoomState.HasTargets.targetLevels (h : state.HasTargets pair) (airflowIsFresh : Bool) :
    MeltemVentilation.targetLevels state airflowIsFresh = (some pair.1, some pair.2) := by
  cases airflowIsFresh
  · exact h.targets
  · exact targetLevels_of_complete h.targets

/-- A state without values has no targets. -/
theorem not_hasTargets_of_not_hasData (h : state.hasData = false) : ¬ state.HasTargets pair := by
  have hnone := RoomState.noValues h
  intro htargets
  rcases (hasTargets_iff.mp htargets).2 with ⟨hoff, -⟩ | ⟨hunbalanced, -⟩ | ⟨-, -, hlevel⟩
  · rw [hnone.operationMode] at hoff
    cases hoff
  · rw [hnone.operationMode] at hunbalanced
    cases hunbalanced
  · simp [hnone.balancedTargetReadback, hnone.targetLevel] at hlevel

/-- A state whose mode is that of `previous`: an unbalanced pair is kept with it, and its exact
target is that of `previous`, if there is one. -/
structure KeepsMode (previous state : RoomState) : Prop where
  operationMode : state.operationMode = previous.operationMode
  presetMode : state.presetMode = previous.presetMode
  targets : state.operationMode = some .unbalanced →
    state.targetLevel = previous.targetLevel ∧
      state.extractTargetLevel = previous.extractTargetLevel
  readback : ∀ level ∈ state.balancedTargetReadback, level ∈ previous.balancedTargetReadback

/-- **What has to be kept of the targets**: the mode, and the level of a balanced mode, by the
exact target or by the target of the status map. -/
theorem RoomState.HasTargets.keep (h : previous.HasTargets pair)
    (hmode : KeepsMode previous state)
    (hexact : state.RunsBalanced → ∀ level ∈ readback,
      level ∈ previous.balancedTargetReadback ∨ level = pair.1)
    (hknown : state.RunsBalanced → readback = none → pair.2 = pair.1 →
      previous.balancedTargetReadback.or previous.targetLevel = some pair.1 →
      state.targetLevel = some pair.1) :
    RoomState.HasTargets { state with balancedTargetReadback := readback } pair := by
  obtain ⟨hpreset, hcases⟩ := hasTargets_iff.mp h
  refine hasTargets_iff.mpr ⟨hmode.presetMode.trans hpreset, ?_⟩
  rcases hcases with ⟨hoff, hpair⟩ | ⟨hunbalanced, hsupply, hextract⟩ | ⟨hbalanced, hsame, hlevel⟩
  · exact .inl ⟨hmode.operationMode.trans hoff, hpair⟩
  · have hunbalanced' := hmode.operationMode.trans hunbalanced
    obtain ⟨htarget, htarget'⟩ := hmode.targets hunbalanced'
    exact .inr (.inl ⟨hunbalanced', htarget.trans hsupply, htarget'.trans hextract⟩)
  · have hbalanced' : state.RunsBalanced := by
      unfold RoomState.RunsBalanced
      rw [hmode.operationMode]
      exact hbalanced
    refine .inr (.inr ⟨hbalanced', hsame, ?_⟩)
    show readback.or state.targetLevel = some pair.1
    rcases readback with _ | level
    · exact hknown hbalanced' rfl hsame hlevel
    · rcases hexact hbalanced' level rfl with hprevious | rfl
      · rw [Option.mem_def.mp hprevious] at hlevel
        exact hlevel
      · rfl

/-- An exact target that a read does not leave, it has not found. -/
theorem applyReply_readback_none
    (h : (s.applyReply previous polled reply).2.balancedTargetReadback = none) :
    (reply.state s.room s.clock previous).balancedTargetReadback = none := by
  -- Preparing the readback may fill in an exact target but never drops one.
  have hprepared : ∀ state, (s.confirmations.prepareBalancedTargetReadback s.clock state
      previous).state.balancedTargetReadback = none → state.balancedTargetReadback = none := by
    intro state hnone
    unfold WriteConfirmations.prepareBalancedTargetReadback at hnone
    split at hnone
    · exact hnone
    · split at hnone
      · exact hnone
      · split at hnone
        · exact hnone
        · dsimp only at hnone
          split at hnone
          · cases hnone
          · exact hnone
  cases reply with
  | settings read => exact h
  | airflow read target =>
    simp only [RoomCoordinator.applyReply] at h
    split at h
    · unfold RoomCoordinator.readBalancedTarget at h
      dsimp only at h
      split at h
      · split at h
        · cases h
        · exact hprepared _ h
      · exact hprepared _ h
    · exact h

end Targets

/-! ### The record of a run -/

/-- The level that was commanded last for one direction. -/
structure AskedLevel where
  level : ℤ
  /-- What the commands for the other direction have left of it since; `none` once they sent a
  pair that was not built on current levels. -/
  left : Option ℤ
deriving DecidableEq

/-- What a run says about the levels commanded last: for each direction, the level of the last
accepted command for it; the pair of the last accepted fan write; and whether the targets and the
airflow in the state are read since that write, from a unit that did not hide them. -/
structure FanRecord where
  supply : Option AskedLevel := none
  extract : Option AskedLevel := none
  commanded : Option (ℤ × ℤ) := none
  targetsCurrent : Bool := false
  airflowCurrent : Bool := false
deriving DecidableEq

/-- The level that was commanded last for a direction. -/
def FanRecord.asked (record : FanRecord) : Direction → Option AskedLevel
  | .supply => record.supply
  | .extract => record.extract

/-- Whether the targets of a state without a status map are derived from its airflow: the
blocks of the airflow plan were read, but not that one. -/
def PlanReply.derivesTargets : PlanReply → Bool
  | .airflow (.blocks _ mode) _ => mode.read?.isNone
  | _ => false

/-- The pair of an accepted fan write. -/
def acceptedPair : Option (PreparedWrite × WriteOutcome) → Option (ℤ × ℤ)
  | some (write, .accepted) =>
    match write.writeKey, write.expectedValue with
    | .airflowLevels, .levels supply extract => some (supply, extract)
    | _, _ => none
  | _ => none

namespace UnitSystem

/-- Whether the airflow of the state is current after a step: measured without intensive, or
current before and not measured again. -/
def airflowStays (x : UnitSystem) (label : Label) (record : FanRecord) : Bool :=
  if label.reads .flow then !x.unit.runsIntensive else record.airflowCurrent

/-- Whether the targets of the state are current after a step. A status map that shows the base
mode makes them current unless an exact target from before is carried forward, a map that
hides the base mode leaves them alone, and without a map they are derived from the airflow,
but for an exact target that is read, an unbalanced pair and the zeros of a unit that is
off. -/
def targetsStay (x : UnitSystem) (label : Label) (record : FanRecord) : Bool :=
  if label.reads .flowControl && !x.unit.runsIntensive then
    record.targetsCurrent || !x.coordinator.keepsExactTarget label
  else if label.reply.any (·.1.derivesTargets) then
    record.targetsCurrent && (x.airflowStays label record ||
      (x.coordinator.exactTargetRead label).isSome ||
      x.coordinator.state.operationMode = some .unbalanced ||
      x.coordinator.state.operationMode = some .off)
  else record.targetsCurrent

end UnitSystem

/-- **Whether a command for one direction builds on current levels.** After a fan write, with
no pending pair on display, a unit that is not known to be off and a reported level of the
other direction, the source of that level is current: the targets while the status map is
fresh, and else the airflow. -/
def CurrentLevels (x : UnitSystem × FanRecord) (direction : Direction) : Prop :=
  x.2.commanded ≠ none →
    levelsOverlay.get x.1.coordinator.clock x.1.coordinator.optimisticLevels none = none →
    x.1.coordinator.state.operationMode ≠ some .off →
    (((reportedLevels x.1.coordinator.clock x.1.coordinator.state).1.bind
      (oppositeLevel direction)).isSome) = true →
    (if groupFresh x.1.coordinator.clock x.1.coordinator.state .flowControl = true ∧
        x.1.coordinator.state.operationMode ≠ none then x.2.targetsCurrent
      else x.2.airflowCurrent) = true

instance (x : UnitSystem × FanRecord) : DecidablePred (CurrentLevels x) :=
  fun _ => inferInstanceAs (Decidable (_ → _ → _ → _ → _))

/-- The level that a command sends for the other direction of a pair that it finds measured and
nearly balanced: their mean. -/
def mergedMeasured (x : UnitSystem × FanRecord) : Option ℤ :=
  if x.1.coordinator.settleUncertainFlow.directionLevels.2 = some .measured then
    (x.2.commanded.filter fun pair => |pair.1 - pair.2| ≤ levelConfirmTolerance).map fun pair =>
      HalfEven.round (pair.1 + pair.2) 2
  else none

/-- What a pair for one direction leaves of the level that was commanded for the other one. -/
def leftByPair (x : UnitSystem × FanRecord) (direction : Direction) (asked : AskedLevel) :
    Option ℤ :=
  if CurrentLevels x direction then asked.left.map (mergedMeasured x).getD else none

/-- The level commanded last for a direction, after an accepted fan write. One balanced level
replaces that of the other direction. -/
def askedAfter (x : UnitSystem) (label : Label) (record : FanRecord) (pair : ℤ × ℤ)
    (direction : Direction) : Option AskedLevel :=
  match label with
  | .command (.setDirectionLevel set level) _ _ =>
    if set = direction then some ⟨level, some level⟩
    else
      (record.asked direction).map fun asked =>
        { asked with
          left := if pair.1 = pair.2 then some level else leftByPair (x, record) set asked }
  | _ => record.asked direction

/-- The record after a step. -/
def recordFan (x : UnitSystem) (label : Label) (record : FanRecord) : FanRecord :=
  match acceptedPair (x.coordinator.writeOf label) with
  | some pair =>
    { supply := askedAfter x label record pair .supply
      extract := askedAfter x label record pair .extract
      commanded := some pair }
  | none =>
    { record with
      targetsCurrent := x.targetsStay label record
      airflowCurrent := x.airflowStays label record }

/-- The coordinator and its unit, with the fan writes and the reads on record. -/
abbrev FanStep := recorded UnitSystem.step recordFan

/-- A run starts before the first poll and the first command, with the unit in any state. -/
def FanStart (x : UnitSystem × FanRecord) : Prop := x.1.Started ∧ x.2 = {}

/-- The steps that are considered: commands for one direction, with a level of the unit, and
for intensive, whatever becomes of them; and all that is not a command. -/
def FanLabel (x : UnitSystem × FanRecord) : Label → Prop
  | .command (.setDirectionLevel _ level) _ _ => LevelInRange x.1.coordinator.room level
  | .command .activateIntensive _ _ | .command .deactivateIntensive _ _ => True
  | .command _ _ _ => False
  | _ => True

instance (x : UnitSystem × FanRecord) : DecidablePred (FanLabel x)
  | .command (.setDirectionLevel _ level) _ _ =>
    inferInstanceAs (Decidable (LevelInRange x.1.coordinator.room level))
  | .command .activateIntensive _ _ | .command .deactivateIntensive _ _ => isTrue trivial
  | .command (.setLevel _) _ _ | .command (.setUnbalancedLevels _ _) _ _
  | .command (.setOperationMode _) _ _ | .command (.setPresetMode _) _ _
  | .command .clearPresetMode _ _ | .command (.setControlSetting _ _) _ _ => isFalse id
  | .elapse _ | .expire _ | .queryLevels | .readBack _ _ _ | .cancelReadBack
  | .poll _ _ _ _ | .otherPoll _ _ | .otherReadBack _ => isTrue trivial

/-- The pair that a command for one direction sends, if it sends one and falls back on
nothing. -/
def RoomCoordinator.sentPair (s : RoomCoordinator) (direction : Direction) (level : ℤ) :
    Option (ℤ × ℤ) :=
  match s.prepare (.setDirectionLevel direction level) with
  | .send _ write =>
    match write.call, write.directionFallback with
    | .mode (.writeUnbalancedLevels supply extract), some none => some (supply, extract)
    | _, _ => none
  | .refused _ _ | .done _ => none

/-- **Whether a command for one direction keeps the other one**: in the pair that it sends,
that is within the tolerance of the level commanded last for it. -/
def OppositeKept (x : UnitSystem × FanRecord) (direction : Direction) (level : ℤ) : Prop :=
  ∀ sent ∈ x.1.coordinator.sentPair direction level, ∀ asked ∈ x.2.asked direction.other,
    |direction.opposite sent - asked.level| ≤ levelConfirmTolerance

instance (x : UnitSystem × FanRecord) (direction : Direction) :
    DecidablePred (OppositeKept x direction) :=
  fun _ => inferInstanceAs (Decidable (∀ _ ∈ _, ∀ _ ∈ _, _))

/-- **Whether merges have left the other direction what was commanded for it**, up to the
tolerance, with the mean that a pair would be sent with now. -/
def LevelLeft (x : UnitSystem × FanRecord) (direction : Direction) : Prop :=
  ∀ asked ∈ x.2.asked direction.other, asked.left.any (fun left =>
    |(mergedMeasured x).getD left - asked.level| ≤ levelConfirmTolerance) = true

instance (x : UnitSystem × FanRecord) : DecidablePred (LevelLeft x) :=
  fun _ => inferInstanceAs (Decidable (∀ _ ∈ _, _))

/-! ### What is current -/

/-- What the record says of a state is true. -/
structure FanRecord.Current (record : FanRecord) (state : RoomState) : Prop where
  targets : record.targetsCurrent = true → ∀ pair ∈ record.commanded, state.HasTargets pair
  airflow : record.airflowCurrent = true → ∀ pair ∈ record.commanded,
    state.supplyAirFlow = some pair.1 ∧ state.extractAirFlow = some pair.2

/-- **The invariant of a run**: the unit holds the pair commanded last and runs as it was
told, that pair is the only one that may be pending, what is left of the level of a direction is
in that pair, and the record is true of the state. -/
structure Tracked (x : UnitSystem × FanRecord) : Prop where
  inRange : x.1.InRange
  startup : ∀ state ∈ x.1.coordinator.startup, state.hasData = false
  holds : ∀ pair ∈ x.2.commanded, x.1.unit.HoldsPair x.1.coordinator.room pair ∧ x.1.unit.Applied
  pending : ∀ pending ∈ x.1.coordinator.optimisticLevels, x.2.commanded = some pending.value
  left : ∀ direction, ∀ asked ∈ x.2.asked direction, ∃ pair ∈ x.2.commanded,
    ∀ left ∈ asked.left, direction.level pair = left
  current : x.2.Current x.1.coordinator.state

section Reads

variable {x : UnitSystem} {record : FanRecord} {label : Label} {previous state : RoomState}
  {finished : Clock} {room : RoomConfig} {reply : PlanReply} {pair : ℤ × ℤ} {clock : Clock}
  {polled : Bool} {s : RoomCoordinator} {unit : MockUnit}

/-- A state without values has nothing that could be current: what is true of one is true of
any other. -/
theorem FanRecord.Current.of_not_hasData (h : record.Current state)
    (hdata : state.hasData = false) (other : RoomState) : record.Current other := by
  refine ⟨fun htargets pair hpair => ?_, fun hairflow pair hpair => ?_⟩
  · exact absurd (h.targets htargets pair hpair) (not_hasTargets_of_not_hasData hdata)
  · obtain ⟨hsupply, -⟩ := h.airflow hairflow pair hpair
    simp [(RoomState.noValues hdata).supplyAirFlow] at hsupply

/-- What is true of the polled state is true of any state that a read starts from. -/
theorem FanRecord.Current.of_previous (h : record.Current s.state)
    (hprevious : s.Previous previous) : record.Current previous := by
  rcases hprevious with rfl | ⟨hdata, -⟩
  · exact h
  · refine h.of_not_hasData ?_ previous
    rw [RoomCoordinator.state, hdata]
    rfl

/-- A read starts from the polled state if that has targets. -/
theorem eq_state_of_hasTargets (h : s.state.HasTargets pair) (hprevious : s.Previous previous) :
    previous = s.state := by
  rcases hprevious with rfl | ⟨hdata, -⟩
  · rfl
  · refine absurd h (not_hasTargets_of_not_hasData ?_)
    rw [RoomCoordinator.state, hdata]
    rfl

/-- What a reply makes of the airflow: that of the unit, or it stays. -/
theorem airflow_applyReply (s : RoomCoordinator) (previous : RoomState) (polled : Bool)
    (hanswers : unit.answers reply = true) :
    ((s.applyReply previous polled reply).2.supplyAirFlow,
      (s.applyReply previous polled reply).2.extractAirFlow) =
      if reply.reads .flow then (some unit.supplyAirFlow, some unit.extractAirFlow)
      else (previous.supplyAirFlow, previous.extractAirFlow) := by
  obtain ⟨-, readback, hframe⟩ := s.applyReply_frame previous polled reply
  -- The status map says nothing of the measured airflow.
  have hmap : ∀ (state : RoomState) (mode : Option ModeRead),
      ((applyModeRead s.room state mode).supplyAirFlow,
        (applyModeRead s.room state mode).extractAirFlow) =
          (state.supplyAirFlow, state.extractAirFlow) := by
    intro state mode
    unfold applyModeRead
    dsimp only
    split <;> rfl
  rw [hframe]
  rcases reply with ⟨_ | error | ⟨flow, mode⟩, target⟩ | ⟨_ | error | read⟩
  · rfl
  · rfl
  · refine (hmap (applyFlowRead previous flow.read?) mode.read?).trans ?_
    rcases hread : flow.read? with _ | read
    · simp [PlanReply.reads, hread, applyFlowRead]
    · obtain rfl : read = ⟨unit.extractAirFlow, unit.supplyAirFlow⟩ := by
        simp only [MockUnit.answers, hread, Bool.and_eq_true] at hanswers
        simpa using hanswers.1.1
      simp [PlanReply.reads, hread, applyFlowRead]
  · rfl
  · rfl
  · simp only [PlanReply.state, PlanReply.reads, SettingsRead.apply]
    split
    · cases read.read? <;> rfl
    · rfl

/-- Without a status map, a balanced target is derived from the airflow. -/
theorem targetLevel_applyModeRead_none (room : RoomConfig)
    (hmode : state.operationMode ≠ some .unbalanced) :
    (applyModeRead room state none).targetLevel =
      deriveBalancedAirflow state.extractAirFlow state.supplyAirFlow := by
  show (decodeTargets room state state.operationMode none).1 = _
  unfold decodeTargets
  split
  · exact absurd ‹_› hmode
  · rfl
  · rfl
  · rfl

/-- A state whose targets are those of `previous`. -/
structure KeepsTargets (previous state : RoomState) : Prop extends KeepsMode previous state where
  targetLevel : state.targetLevel = previous.targetLevel
  sameReadback : state.balancedTargetReadback = previous.balancedTargetReadback

/-- **A reply keeps the targets** unless it derives them, or the status map is read and shows
the base mode. -/
theorem keepsTargets_reply (hunit : unit.Genuine room) (hanswers : unit.answers reply = true)
    (hhidden : (reply.reads .flowControl && !unit.runsIntensive) = false)
    (hkept : reply.derivesTargets = false) :
    KeepsTargets previous (reply.state room clock previous) := by
  rcases reply with ⟨_ | error | ⟨flow, mode⟩, target⟩ | ⟨_ | error | read⟩
  · exact ⟨⟨rfl, rfl, fun _ => ⟨rfl, rfl⟩, fun _ h => h⟩, rfl, rfl⟩
  · exact ⟨⟨rfl, rfl, fun _ => ⟨rfl, rfl⟩, fun _ h => h⟩, rfl, rfl⟩
  · obtain ⟨block, hblock⟩ : ∃ block, mode.read? = some block := by
      rw [← Option.isSome_iff_exists]
      simpa [PlanReply.derivesTargets] using hkept
    obtain rfl : block = unit.status := by
      simp only [MockUnit.answers, hblock, Bool.and_eq_true] at hanswers
      simpa using hanswers.1.2
    have hrun : unit.runsIntensive = true := by
      simpa [PlanReply.reads, hblock] using hhidden
    have hreports : modeStatusReportsIntensive (decodeSensorSubcode unit.status) = true := by
      rw [decodeSensorSubcode_reportsIntensive, hunit.reportsIntensive, hrun]
    simp only [PlanReply.state, AirflowRead.apply, applyModeRead, hblock, Option.map_some,
      Option.any_some, hreports, if_true]
    cases flow.read? <;> exact ⟨⟨rfl, rfl, fun _ => ⟨rfl, rfl⟩, fun _ h => h⟩, rfl, rfl⟩
  · exact ⟨⟨rfl, rfl, fun _ => ⟨rfl, rfl⟩, fun _ h => h⟩, rfl, rfl⟩
  · exact ⟨⟨rfl, rfl, fun _ => ⟨rfl, rfl⟩, fun _ h => h⟩, rfl, rfl⟩
  · simp only [PlanReply.state, SettingsRead.apply]
    split
    · cases read.read? <;> exact ⟨⟨rfl, rfl, fun _ => ⟨rfl, rfl⟩, fun _ h => h⟩, rfl, rfl⟩
    · exact ⟨⟨rfl, rfl, fun _ => ⟨rfl, rfl⟩, fun _ h => h⟩, rfl, rfl⟩

/-- **A reply that derives the targets** keeps the mode. -/
theorem keepsMode_reply (room : RoomConfig) (clock : Clock) (previous : RoomState)
    (hderived : reply.derivesTargets = true) :
    KeepsMode previous (reply.state room clock previous) ∧
      (previous.operationMode ≠ some .unbalanced →
        (reply.state room clock previous).targetLevel = deriveBalancedAirflow
          (reply.state room clock previous).extractAirFlow
          (reply.state room clock previous).supplyAirFlow) := by
  have hread : reply.reads .flowControl = false := by
    rcases reply with ⟨_ | error | ⟨flow, mode⟩, target⟩ | read
    · rfl
    · rfl
    · simpa [PlanReply.derivesTargets, PlanReply.reads] using hderived
    · cases hderived
  obtain ⟨hmode, hpreset, -, htargets, hreadback⟩ :
      SameBase previous (reply.state room clock previous) := PlanReply.sameBase hread
  refine ⟨⟨hmode, hpreset, htargets, hreadback⟩, fun hbalanced => ?_⟩
  rcases reply with ⟨_ | error | ⟨flow, mode⟩, target⟩ | read
  · cases hderived
  · cases hderived
  · have hnone : mode.read? = none := by simpa [PlanReply.derivesTargets] using hderived
    have hflow : (applyFlowRead previous flow.read?).operationMode = previous.operationMode := by
      cases flow.read? <;> rfl
    simp only [PlanReply.state, AirflowRead.apply, hnone]
    exact targetLevel_applyModeRead_none room (hflow ▸ hbalanced)
  · cases hderived

/-- Register `41121` of a unit that holds a pair answers with its supply level. -/
theorem MockUnit.HoldsPair.answersTarget {target : TargetReply} {level : ℤ}
    (h : unit.HoldsPair room pair) (hanswers : unit.answersTarget target = true)
    (hlevel : level ∈ target.airflow room) : level = pair.1 := by
  obtain ⟨base, hbase, hrange, htargets⟩ := h
  exact hbase.answersTarget hrange htargets hanswers hlevel

/-- The exact target that a step reads is left in the state. -/
theorem readback_of_exactTargetRead {replied : Clock} {level : ℤ}
    (hinput : s.readInput label = some (previous, polled, reply, replied))
    (h : s.exactTargetRead label = some level) :
    ((s.atClock replied).applyReply previous polled reply).2.balancedTargetReadback =
      some level := by
  unfold RoomCoordinator.exactTargetRead at h
  rw [hinput] at h
  cases reply with
  | settings read => cases h
  | airflow read target =>
    obtain ⟨hmust, htarget⟩ := Option.ite_none_right_eq_some.mp h
    obtain ⟨hmay, hmust⟩ := Bool.and_eq_true_iff.mp hmust
    simp only [RoomCoordinator.applyReply, if_pos hmay]
    unfold RoomCoordinator.readBalancedTarget
    simp only [RoomCoordinator.atClock, hmust, if_true, htarget]

/-- A step that keeps the exact target of a base mode it shows keeps the operating mode. -/
theorem operationMode_of_keepsExactTarget {replied : Clock}
    (hinput : s.readInput label = some (previous, polled, reply, replied))
    (hvisible : (reply.state s.room replied previous).intensiveActive ≠ some true)
    (h : s.keepsExactTarget label = true) :
    (reply.state s.room replied previous).operationMode = previous.operationMode := by
  unfold RoomCoordinator.keepsExactTarget at h
  rw [hinput] at h
  cases reply with
  | settings read => cases h
  | airflow read target =>
    obtain hactive | hcarry := Bool.or_eq_true_iff.mp h
    · exact absurd (of_decide_eq_true hactive) hvisible
    · obtain ⟨-, hcarry⟩ := Bool.and_eq_true_iff.mp hcarry
      unfold WriteConfirmations.carriesExactTarget at hcarry
      obtain ⟨-, hcarry⟩ := Bool.and_eq_true_iff.mp hcarry
      obtain ⟨readback, -, hsame⟩ := (Option.any_eq_true _ _).mp hcarry
      simp only [Bool.and_eq_true, decide_eq_true_eq] at hsame
      exact hsame.1.1.1

end Reads

/-! ### A read keeps the record true -/

section Record

variable {x y : UnitSystem × FanRecord} {label : Label} {previous state : RoomState}
  {finished replied : Clock} {reply : PlanReply} {pair : ℤ × ℤ} {polled : Bool}

/-- The exact target of a balanced state with targets is one of them. -/
theorem RoomState.HasTargets.readback {level : ℤ} (h : state.HasTargets pair)
    (hbalanced : state.RunsBalanced) (hlevel : level ∈ state.balancedTargetReadback) :
    level = pair.1 := by
  rcases (hasTargets_iff.mp h).2 with ⟨hoff, -⟩ | ⟨hunbalanced, -⟩ | ⟨-, -, hexact⟩
  · exact absurd hoff hbalanced.1
  · exact absurd hunbalanced hbalanced.2.1
  · rw [Option.mem_def.mp hlevel] at hexact
    exact Option.some.inj hexact

/-- **The airflow stays current** in a read. -/
theorem Tracked.airflow_read (h : Tracked x) (polled : Bool)
    (hreply : label.reply = some (reply, replied)) (hanswers : x.1.unit.answers reply = true)
    (hprevious : x.1.coordinator.Previous previous)
    (hcurrent : x.1.airflowStays label x.2 = true) (hpair : pair ∈ x.2.commanded) :
    ((x.1.coordinator.atClock replied).applyReply previous polled reply).2.supplyAirFlow =
        some pair.1 ∧
      ((x.1.coordinator.atClock replied).applyReply previous polled reply).2.extractAirFlow =
        some pair.2 := by
  obtain ⟨hholds, happlied⟩ := h.holds pair hpair
  have hflows := airflow_applyReply (x.1.coordinator.atClock replied) previous polled hanswers
  rw [← Prod.mk.injEq, hflows]
  have hreads : label.reads .flow = reply.reads .flow := by simp [Label.reads, hreply]
  unfold UnitSystem.airflowStays at hcurrent
  rw [hreads] at hcurrent
  split
  · rename_i hread
    rw [if_pos hread, Bool.not_eq_true'] at hcurrent
    obtain ⟨hsupply, hextract⟩ := hholds.airflow happlied h.inRange.genuine.profile hcurrent
    rw [hsupply, hextract]
  · rename_i hread
    rw [if_neg hread] at hcurrent
    obtain ⟨hsupply, hextract⟩ := (h.current.of_previous hprevious).airflow hcurrent pair hpair
    rw [hsupply, hextract]

/-- Where the exact target after a read comes from: the state before, what the reply keeps of
it, or the unit. -/
theorem Tracked.readback_read (h : Tracked x) (previous : RoomState) (replied : Clock)
    (polled : Bool) (hanswers : x.1.unit.answers reply = true) (hpair : pair ∈ x.2.commanded) :
    ∀ level ∈ ((x.1.coordinator.atClock replied).applyReply previous polled
        reply).2.balancedTargetReadback,
      level ∈ previous.balancedTargetReadback ∨
        level ∈ (reply.state x.1.coordinator.room replied
          previous).balancedTargetReadback ∨ level = pair.1 := by
  intro level hlevel
  rcases UnitSystem.applyReply_readback (x.1.coordinator.atClock replied) previous polled reply
    level hlevel with hprevious | hreply | ⟨read, target, rfl, htarget⟩
  · exact .inl hprevious
  · exact .inr (.inl hreply)
  · exact .inr (.inr ((h.holds pair hpair).1.answersTarget
      (UnitSystem.answersTarget_of_answers hanswers) htarget))

/-- **A read that keeps the mode keeps current targets**, if it keeps the level of a balanced
mode. -/
theorem Tracked.targets_mono (h : Tracked x) (hanswers : x.1.unit.answers reply = true)
    (hpair : pair ∈ x.2.commanded) (hbefore : previous.HasTargets pair)
    (hkeeps : KeepsMode previous (reply.state x.1.coordinator.room replied previous))
    (hknown : (reply.state x.1.coordinator.room replied previous).RunsBalanced →
      ((x.1.coordinator.atClock replied).applyReply previous polled
        reply).2.balancedTargetReadback = none → pair.2 = pair.1 →
      previous.balancedTargetReadback.or previous.targetLevel = some pair.1 →
      (reply.state x.1.coordinator.room replied previous).targetLevel = some pair.1) :
    ((x.1.coordinator.atClock replied).applyReply previous polled reply).2.HasTargets pair := by
  have hsources := h.readback_read previous replied polled hanswers hpair
  obtain ⟨-, readback, hframe⟩ :=
    (x.1.coordinator.atClock replied).applyReply_frame previous polled reply
  rw [hframe] at hsources hknown ⊢
  refine hbefore.keep hkeeps (fun _ level hlevel => ?_) hknown
  rcases hsources level hlevel with hprevious | hreply | hpair
  · exact .inl hprevious
  · exact .inl (hkeeps.readback level hreply)
  · exact .inr hpair

/-- A reply that keeps the targets keeps current ones. -/
theorem Tracked.targets_kept (h : Tracked x) (hanswers : x.1.unit.answers reply = true)
    (hhidden : (reply.reads .flowControl && !x.1.unit.runsIntensive) = false)
    (hkept : reply.derivesTargets = false) (hpair : pair ∈ x.2.commanded)
    (hbefore : previous.HasTargets pair) :
    ((x.1.coordinator.atClock replied).applyReply previous polled reply).2.HasTargets pair := by
  have hkeeps : KeepsTargets previous (reply.state x.1.coordinator.room replied previous) :=
    keepsTargets_reply h.inRange.genuine hanswers hhidden hkept
  refine h.targets_mono hanswers hpair hbefore hkeeps.toKeepsMode fun _ hgone _ hexact => ?_
  have hnone := hkeeps.sameReadback.symm.trans (applyReply_readback_none hgone)
  rw [hnone, Option.none_or] at hexact
  exact hkeeps.targetLevel.trans hexact

/-- One level for both directions is what is derived from it. -/
theorem deriveBalancedAirflow_self (level : ℤ) :
    deriveBalancedAirflow (some level) (some level) = some level := by
  have hmean : HalfEven.round (level + level) 2 = level := by
    rw [← two_mul]
    exact HalfEven.round_mul_left (by norm_num) level
  simp [deriveBalancedAirflow, hmean]

/-- **Targets that are derived from a current airflow are current**, and so is an exact target
that is read, an unbalanced pair and the zeros of a unit that is off. -/
theorem Tracked.targets_derived (h : Tracked x) (hanswers : x.1.unit.answers reply = true)
    (hinput : x.1.coordinator.readInput label = some (previous, polled, reply, replied))
    (hreply : label.reply = some (reply, replied))
    (hprevious : x.1.coordinator.Previous previous) (hderived : reply.derivesTargets = true)
    (hcurrent : (x.1.airflowStays label x.2 || (x.1.coordinator.exactTargetRead label).isSome ||
      previous.operationMode = some .unbalanced || previous.operationMode = some .off) = true)
    (hpair : pair ∈ x.2.commanded) (hbefore : previous.HasTargets pair) :
    ((x.1.coordinator.atClock replied).applyReply previous polled reply).2.HasTargets pair := by
  obtain ⟨hkeeps, htarget⟩ := keepsMode_reply x.1.coordinator.room replied previous hderived
  refine h.targets_mono hanswers hpair hbefore hkeeps fun hbalanced hgone hsame _ => ?_
  have hmode : previous.operationMode ≠ some .off ∧ previous.operationMode ≠ some .unbalanced := by
    rw [← hkeeps.operationMode]
    exact ⟨hbalanced.1, hbalanced.2.1⟩
  simp only [hmode.1, hmode.2, decide_false, Bool.or_false, Bool.or_eq_true] at hcurrent
  rcases hcurrent with hairflow | hread
  · obtain ⟨hsupply, hextract⟩ :=
      h.airflow_read polled hreply hanswers hprevious hairflow hpair
    obtain ⟨-, readback, hframe⟩ :=
      (x.1.coordinator.atClock replied).applyReply_frame previous polled reply
    rw [hframe] at hsupply hextract
    have hlevels : (reply.state x.1.coordinator.room replied previous).supplyAirFlow =
        some pair.1 ∧ (reply.state x.1.coordinator.room replied previous).extractAirFlow =
          some pair.2 := ⟨hsupply, hextract⟩
    rw [htarget hmode.2, hlevels.1, hlevels.2, hsame]
    exact deriveBalancedAirflow_self pair.1
  · obtain ⟨level, hlevel⟩ := Option.isSome_iff_exists.mp hread
    rw [readback_of_exactTargetRead hinput hlevel] at hgone
    cases hgone

/-- What a status map that shows the base mode says of a unit that holds a pair. -/
theorem hasTargets_of_shown {room : RoomConfig} {unit : MockUnit} (previous : RoomState)
    (replied : Clock) (hunit : unit.Genuine room) (hholds : unit.HoldsPair room pair)
    (hanswers : unit.answers reply = true) (hread : reply.reads .flowControl = true)
    (hrun : unit.runsIntensive = false) :
    (reply.state room replied previous).HasTargets pair ∧
      (reply.state room replied previous).balancedTargetReadback = none ∧
      (reply.state room replied previous).intensiveActive = some false := by
  rcases reply with ⟨_ | error | ⟨flow, block | _ | _⟩, target⟩ | _ | _ | read
  all_goals try cases hread
  obtain rfl : block = unit.status := by
    simp only [MockUnit.answers, BlockRead.read?, Bool.and_eq_true] at hanswers
    simpa using hanswers.1.2
  obtain ⟨base, hbase, hrange, htargets⟩ := hholds
  obtain ⟨hintensive, -, hshows⟩ := hunit.applyModeRead (applyFlowRead previous flow.read?)
  have hshown := hshows hrun base hbase hrange
  have hpreset : base.presetMode = none := by
    cases base with
    | quick => cases htargets
    | off | manual | unbalanced | sensor => rfl
  rw [hrun] at hintensive
  refine ⟨⟨hshown.presetMode.trans hpreset, hshown.targetLevels pair htargets⟩, ?_, hintensive⟩
  rcases applyModeRead_exact room (applyFlowRead previous flow.read?) unit.status with
    ⟨hactive, -⟩ | ⟨-, hnone⟩
  · rw [hintensive] at hactive
    cases hactive
  · exact hnone

/-- **A status map that shows the base mode makes the targets current**, unless an exact target
from before is carried forward. -/
theorem Tracked.targets_shown (h : Tracked x) (hanswers : x.1.unit.answers reply = true)
    (hstate : x.1.coordinator.readState label =
      some (((x.1.coordinator.atClock replied).applyReply previous polled reply).2, finished))
    (hinput : x.1.coordinator.readInput label = some (previous, polled, reply, replied))
    (hreply : label.reply = some (reply, replied))
    (hprevious : x.1.coordinator.Previous previous)
    (hread : reply.reads .flowControl = true) (hrun : x.1.unit.runsIntensive = false)
    (hcurrent : (x.2.targetsCurrent || !x.1.coordinator.keepsExactTarget label) = true)
    (hpair : pair ∈ x.2.commanded) :
    ((x.1.coordinator.atClock replied).applyReply previous polled reply).2.HasTargets pair := by
  obtain ⟨hholds, -⟩ := h.holds pair hpair
  obtain ⟨hshown, hcleared, hvisible⟩ :=
    hasTargets_of_shown previous replied h.inRange.genuine hholds hanswers hread hrun
  have hreads : label.reads .flowControl = true := by simpa [Label.reads, hreply] using hread
  have hsources := readState_exact hreads hstate h.startup
  obtain ⟨-, readback, hframe⟩ :=
    (x.1.coordinator.atClock replied).applyReply_frame previous polled reply
  rw [hframe] at hsources ⊢
  refine hshown.keep ⟨rfl, rfl, fun _ => ⟨rfl, rfl⟩, fun _ h => h⟩
    (fun hbalanced level hlevel => .inr ?_) fun _ _ _ hexact => ?_
  · rcases hsources with ⟨hkeeps, -, hsame⟩ | ⟨-, hread⟩
    · -- A carried exact target is that of the state before, in the same mode.
      rw [hkeeps, Bool.not_true, Bool.or_false] at hcurrent
      have hbefore := h.current.targets hcurrent pair hpair
      obtain rfl := eq_state_of_hasTargets hbefore hprevious
      have hmode : (reply.state x.1.coordinator.room replied
          x.1.coordinator.state).operationMode = x.1.coordinator.state.operationMode :=
        operationMode_of_keepsExactTarget hinput (by rw [hvisible]; simp) hkeeps
      refine hbefore.readback ?_ (hsame ▸ hlevel)
      unfold RoomState.RunsBalanced at hbalanced ⊢
      rwa [← hmode]
    · obtain ⟨read, target, _, hreply', htarget⟩ :=
        UnitSystem.mem_exactTargetRead (hread.symm.trans hlevel)
      obtain rfl : reply = .airflow read target := by
        rw [hreply] at hreply'
        exact congrArg Prod.fst (Option.some.inj hreply')
      exact hholds.answersTarget (UnitSystem.answersTarget_of_answers hanswers) htarget
  · have hnone : (reply.state x.1.coordinator.room replied
        previous).balancedTargetReadback = none := hcleared
    rwa [hnone, Option.none_or] at hexact

/-- The record after a step without a write. -/
theorem recordFan_of_writeOf_none {x : UnitSystem} (h : x.coordinator.writeOf label = none)
    (record : FanRecord) : recordFan x label record =
      { record with
        targetsCurrent := x.targetsStay label record
        airflowCurrent := x.airflowStays label record } := by
  rw [recordFan, h]
  rfl

/-- **A read keeps the record true.** -/
theorem Tracked.current_read (h : Tracked x)
    (hstate : x.1.coordinator.readState label = some (state, finished))
    (hanswers : ∀ reply replied, label.reply = some (reply, replied) →
      x.1.unit.answers reply = true) :
    (recordFan x.1 label x.2).Current state := by
  obtain ⟨previous, polled, reply, replied, hinput, hreply, hprevious, hwrite, rfl⟩ :=
    readState_eq_some hstate
  have hanswered := hanswers reply replied hreply
  rw [recordFan_of_writeOf_none hwrite]
  refine ⟨fun hcurrent pair hpair => ?_, fun hcurrent pair hpair =>
    h.airflow_read polled hreply hanswered hprevious hcurrent hpair⟩
  have hreads : label.reads .flowControl = reply.reads .flowControl := by
    simp [Label.reads, hreply]
  have hderives : (label.reply.any (·.1.derivesTargets)) = reply.derivesTargets := by
    simp [hreply]
  unfold UnitSystem.targetsStay at hcurrent
  rw [hreads, hderives] at hcurrent
  -- Either the map was read and shows the targets, or they are derived, or they stay.
  rcases hshown : reply.reads .flowControl && !x.1.unit.runsIntensive with _ | _
  · rw [if_neg (by simp [hshown])] at hcurrent
    rcases hderived : reply.derivesTargets with _ | _
    · rw [if_neg (by simp [hderived])] at hcurrent
      have hbefore := h.current.targets hcurrent pair hpair
      obtain rfl := eq_state_of_hasTargets hbefore hprevious
      exact h.targets_kept hanswered hshown hderived hpair hbefore
    · rw [if_pos hderived] at hcurrent
      obtain ⟨htargets, hcurrent⟩ := Bool.and_eq_true_iff.mp hcurrent
      have hbefore := h.current.targets htargets pair hpair
      obtain rfl := eq_state_of_hasTargets hbefore hprevious
      exact h.targets_derived hanswered hinput hreply hprevious hderived hcurrent hpair hbefore
  · rw [if_pos hshown] at hcurrent
    obtain ⟨hread, hrun⟩ := Bool.and_eq_true_iff.mp hshown
    exact h.targets_shown hanswered hstate hinput hreply hprevious hread (by simpa using hrun)
      hcurrent hpair

end Record

/-! ### The steps keep the invariant -/

section Steps

variable {x y : UnitSystem × FanRecord} {s t : RoomCoordinator} {label : Label}
  {previous state : RoomState} {reply : PlanReply} {polled : Bool} {write : PreparedWrite}

/-- A reply with the airflow or the status map gives values. -/
theorem hasData_of_reads (h : reply.reads .flow = true ∨ reply.reads .flowControl = true) :
    (s.applyReply previous polled reply).2.hasData = true := by
  obtain ⟨-, readback, hframe⟩ := s.applyReply_frame previous polled reply
  rw [hframe]
  rcases reply with ⟨_ | error | ⟨flow, mode⟩, target⟩ | read
  · simp [PlanReply.reads] at h
  · simp [PlanReply.reads] at h
  swap
  · cases read <;> simp [PlanReply.reads] at h
  have hmap : ∀ (state : RoomState) (read : Option ModeRead), state.supplyAirFlow.isSome = true ∨
      read.isSome = true → (applyModeRead s.room state read).supplyAirFlow.isSome = true ∨
        (applyModeRead s.room state read).intensiveActive.isSome = true := by
    rintro state read (hairflow | hread)
    · refine .inl ?_
      unfold applyModeRead
      dsimp only
      split <;> exact hairflow
    · obtain ⟨block, rfl⟩ := Option.isSome_iff_exists.mp hread
      rcases applyModeRead_exact s.room state block with ⟨hactive, -⟩ | ⟨hactive, -⟩ <;>
        exact .inr (by rw [hactive]; rfl)
  have hsome := hmap (applyFlowRead previous flow.read?) mode.read? (h.imp_left fun hflow => by
    obtain ⟨read, hread⟩ := Option.isSome_iff_exists.mp hflow
    rw [hread]
    rfl)
  simp only [RoomState.hasData, PlanReply.state, AirflowRead.apply, Bool.or_eq_true]
  rcases hsome with hairflow | hactive
  · simp [hairflow]
  · simp [hactive]

/-- **A step that leaves only a startup state reads neither the airflow nor the status map.** -/
theorem not_reads_of_startupOnly (h : s.step label = some t) (honly : s.StartupOnly label t) :
    label.reads .flow = false ∧ label.reads .flowControl = false := by
  -- A read of the group leaves a state with values, which a start-up entry never has.
  suffices hnot : ¬ (label.reads .flow = true ∨ label.reads .flowControl = true) by
    simpa [not_or] using hnot
  intro hreads
  cases label with
  | readBack reply replied finished =>
    have hdata : ((s.atClock replied).applyReply s.state false reply).2.hasData = true :=
      hasData_of_reads (by simpa [Label.reads, Label.reply] using hreads)
    have hkept : t.data = ((s.atClock replied).refreshAfterWrite reply finished).data := by
      obtain ⟨-, h⟩ := Option.ite_none_right_eq_some.mp h
      rcases hphase : s.phase with _ | write | write
      all_goals simp only [hphase] at h
      · cases h
      all_goals
        obtain ⟨-, h⟩ := Option.ite_none_right_eq_some.mp h
        cases h
      · exact (finishReadBack_frame _ write).2.2.1
      · rfl
    have hsame : ((s.atClock replied).applyReply s.state false reply).2 = s.state := by
      by_contra hne
      have hread : ((s.atClock replied).refreshAfterWrite reply finished).data =
          some ((s.atClock replied).applyReply s.state false reply).2 := if_neg hne
      have hread' : s.data = some ((s.atClock replied).applyReply s.state false reply).2 :=
        honly.data.symm.trans (hkept.trans hread)
      refine hne ?_
      show _ = s.data.getD emptyRoomState
      rw [hread']
      rfl
    have hsome : s.data.isSome = true := by
      rw [hsame] at hdata
      rcases hd : s.data with _ | data
      · rw [RoomCoordinator.state, hd] at hdata
        cases hdata
      · rfl
    obtain ⟨state, hmem, ⟨hnone, -⟩ | ⟨hstate, -⟩⟩ := honly.source hsome
    · cases hnone
    · cases hstate
      rw [honly.startup _ hmem] at hdata
      cases hdata
  | poll reply others replied finished =>
    have hdata : ((s.atClock replied).applyReply ((s.pollEntry others).getD emptyRoomState) true
        reply).2.hasData = true :=
      hasData_of_reads (by simpa [Label.reads, Label.reply] using hreads)
    obtain ⟨-, h⟩ := Option.ite_none_right_eq_some.mp h
    cases h
    obtain ⟨state, hentry, hvalues⟩ : ∃ state : RoomState,
        (if ((s.atClock replied).applyReply ((s.pollEntry others).getD emptyRoomState) true
            reply).2 = (s.pollEntry others).getD emptyRoomState then s.pollEntry others
          else some ((s.atClock replied).applyReply ((s.pollEntry others).getD emptyRoomState) true
            reply).2) = some state ∧ state.hasData = true := by
      split
      · rename_i hsame
        rw [hsame] at hdata
        rcases hentry : s.pollEntry others with _ | state
        · rw [hentry] at hdata
          cases hdata
        · rw [hentry] at hdata
          exact ⟨state, rfl, hdata⟩
      · exact ⟨_, rfl, hdata⟩
    have hpoll : ((s.atClock replied).poll reply others finished).data = some state ∧
        ((s.atClock replied).poll reply others finished).startup = none := by
      unfold RoomCoordinator.poll RoomCoordinator.finishPoll
      dsimp only
      rw [show (s.atClock replied).pollEntry others = s.pollEntry others from rfl, hentry]
      simp [hvalues]
    obtain ⟨startup, hmem, -⟩ := honly.source (by rw [← honly.data, hpoll.1]; rfl)
    rw [hpoll.2] at hmem
    cases hmem
  | _ => simp [Label.reads, Label.reply] at hreads

/-- A step without a reply does not make anything current or stale. -/
theorem recordFan_of_reply_none {x : UnitSystem} (hreply : label.reply = none)
    (hwrite : acceptedPair (x.coordinator.writeOf label) = none) (record : FanRecord) :
    recordFan x label record = record := by
  rw [recordFan, hwrite]
  simp [UnitSystem.targetsStay, UnitSystem.airflowStays, Label.reads, hreply]

/-- A step that commands no pair keeps the invariant, if the unit holds what it held and no
other pair is pending. -/
theorem Tracked.keep (h : Tracked x) (hinRange : y.1.InRange)
    (hstartup : ∀ state ∈ y.1.coordinator.startup, state.hasData = false)
    (hcommanded : y.2.commanded = x.2.commanded) (hasked : y.2.asked = x.2.asked)
    (hholds : ∀ pair ∈ x.2.commanded,
      y.1.unit.HoldsPair y.1.coordinator.room pair ∧ y.1.unit.Applied)
    (hpending : ∀ pending ∈ y.1.coordinator.optimisticLevels,
      pending ∈ x.1.coordinator.optimisticLevels)
    (hcurrent : y.2.Current y.1.coordinator.state) : Tracked y where
  inRange := hinRange
  startup := hstartup
  holds pair hpair := hholds pair (hcommanded ▸ hpair)
  pending pending hmem := hcommanded.trans (h.pending pending (hpending pending hmem))
  left := by rw [hcommanded, hasked]; exact h.left
  current := hcurrent

/-- A judging step keeps the record true. -/
theorem Tracked.current_source {finished : Clock} (h : Tracked x)
    (hanswers : ∀ reply replied, label.reply = some (reply, replied) →
      x.1.unit.answers reply = true)
    (hwrite : x.1.coordinator.writeOf label = none)
    (hsource : x.1.coordinator.Source label state finished) :
    (recordFan x.1 label x.2).Current state := by
  rcases hsource with ⟨hreply, hprevious⟩ | ⟨hstate, -⟩
  · rw [recordFan_of_reply_none hreply (by rw [hwrite]; rfl)]
    exact h.current.of_previous hprevious
  · exact h.current_read hstate hanswers

/-- A step that reads neither the airflow nor the status map makes nothing current. -/
theorem FanRecord.Current.of_unread {x : UnitSystem} {record : FanRecord}
    (h : record.Current state)
    (hwrite : x.coordinator.writeOf label = none) (hflow : label.reads .flow = false)
    (hmap : label.reads .flowControl = false) : (recordFan x label record).Current state := by
  rw [recordFan_of_writeOf_none hwrite]
  refine ⟨fun htargets => h.targets ?_, fun hairflow => h.airflow ?_⟩
  · simp only [UnitSystem.targetsStay, hmap, Bool.false_and, Bool.false_eq_true, if_false]
      at htargets
    split at htargets
    · exact (Bool.and_eq_true_iff.mp htargets).1
    · exact htargets
  · simpa only [UnitSystem.airflowStays, hflow, Bool.false_eq_true, if_false] using hairflow

/-- **A step without a write keeps the invariant.** -/
theorem Tracked.read (h : Tracked x) (hinRange : y.1.InRange)
    (hroom : y.1.coordinator.room = x.1.coordinator.room)
    (hstep : x.1.coordinator.step label = some y.1.coordinator)
    (hanswers : ∀ reply replied, label.reply = some (reply, replied) →
      x.1.unit.answers reply = true)
    (hunit : y.1.unit = x.1.unit) (hrecord : y.2 = recordFan x.1 label x.2)
    (hwrite : x.1.coordinator.writeOf label = none)
    (hcases : (label.reply = none ∧ x.1.coordinator.Quiet y.1.coordinator) ∨
      (∃ state, x.1.coordinator.Judged label state y.1.coordinator) ∨
      (∃ state u write, x.1.coordinator.Judged label state u ∧
        x.1.coordinator.phase = .readBack write ∧ y.1.coordinator = u.finishReadBack write) ∨
      x.1.coordinator.StartupOnly label y.1.coordinator) : Tracked y := by
  have hcommanded : y.2.commanded = x.2.commanded := by
    rw [hrecord, recordFan_of_writeOf_none hwrite]
  have hasked : y.2.asked = x.2.asked := by
    rw [hrecord, recordFan_of_writeOf_none hwrite]
    rfl
  have hholds : ∀ pair ∈ x.2.commanded,
      y.1.unit.HoldsPair y.1.coordinator.room pair ∧ y.1.unit.Applied := by
    rw [hunit, hroom]
    exact h.holds
  -- A judged read drops at most a pending pair and shows what its source showed.
  have hjudge : ∀ {state u}, x.1.coordinator.Judged label state u →
      (∀ pending ∈ u.optimisticLevels, pending ∈ x.1.coordinator.optimisticLevels) ∧
        y.2.Current u.state := by
    intro state u hjudged
    refine ⟨fun pending hpending => ?_, ?_⟩
    · rw [hjudged.levels] at hpending
      exact (OverlayKind.settleIfRead_eq_some.mp hpending).1
    · rw [hrecord, hjudged.state_eq]
      exact h.current_source hanswers hwrite hjudged.source
  refine h.keep hinRange (startup_step hstep h.startup) hcommanded hasked hholds ?_ ?_
  · rcases hcases with ⟨-, hquiet⟩ | ⟨state, hjudged⟩ | ⟨state, u, write, hjudged, -, heq⟩ |
      hstartup
    · exact fun pending => mem_of_eq_or_none hquiet.levels
    · exact (hjudge hjudged).1
    · intro pending hpending
      rw [heq] at hpending
      exact (hjudge hjudged).1 pending
        (mem_of_eq_or_none (finishReadBack_frame u write).2.2.2.2.2.levels hpending)
    · intro pending hpending
      rwa [hstartup.levels] at hpending
  · rcases hcases with ⟨hreply, hquiet⟩ | ⟨state, hjudged⟩ | ⟨state, u, write, hjudged, -, heq⟩ |
      hstartup
    · rw [hrecord, recordFan_of_reply_none hreply (by rw [hwrite]; rfl), hquiet.state]
      exact h.current
    · exact (hjudge hjudged).2
    · have hstate : y.1.coordinator.state = u.state := by
        rw [heq, RoomCoordinator.state, (finishReadBack_frame u write).2.2.1]
        rfl
      rw [hstate]
      exact (hjudge hjudged).2
    · have hstate : y.1.coordinator.state = x.1.coordinator.state := by
        simp only [RoomCoordinator.state, hstartup.data]
      obtain ⟨hflow, hmap⟩ := not_reads_of_startupOnly hstep hstartup
      rw [hrecord, hstate]
      exact h.current.of_unread hwrite hflow hmap

end Steps

/-! ### What a command finds -/

section Found

variable {x : UnitSystem × FanRecord} {direction : Direction} {level : ℤ}

/-- **A current source reports the pair commanded last**, if it reports the other direction. -/
theorem Tracked.reported (h : Tracked x) {pair : ℤ × ℤ} (hpair : pair ∈ x.2.commanded)
    (hknown : (reportedLevels x.1.coordinator.clock x.1.coordinator.state).1 ≠ none)
    (hcurrent : (if groupFresh x.1.coordinator.clock x.1.coordinator.state .flowControl = true ∧
        x.1.coordinator.state.operationMode ≠ none then x.2.targetsCurrent
      else x.2.airflowCurrent) = true) :
    (reportedLevels x.1.coordinator.clock x.1.coordinator.state).1 =
      some (some pair.1, some pair.2) := by
  rw [reportedLevels_fst] at hknown ⊢
  have hreported : reportedPair x.1.coordinator.clock x.1.coordinator.state =
      (some pair.1, some pair.2) := by
    unfold reportedPair at hknown ⊢
    split
    · rename_i hmap
      rw [if_pos hmap] at hcurrent
      exact (h.current.targets hcurrent pair hpair).targetLevels _
    · rename_i hmap
      rw [if_neg hmap] at hcurrent
      obtain ⟨hsupply, hextract⟩ := h.current.airflow hcurrent pair hpair
      split
      · rw [hsupply, hextract]
      · rename_i hflow
        rw [if_neg hmap, if_neg hflow] at hknown
        exact absurd rfl hknown
  rw [hreported]
  rfl

/-- **A pair that is built on current levels** keeps the other direction of the pair that was sent
last, or merges a measured one. -/
theorem Tracked.opposite_planned (h : Tracked x) (hcurrent : CurrentLevels x direction)
    {pair : ℤ × ℤ} (hpair : pair ∈ x.2.commanded) {supply extract : ℤ}
    {fallback : Option LevelWriteFallback}
    (hplan : planDirectionWrite x.1.coordinator.room x.1.coordinator.state
      x.1.coordinator.settleUncertainFlow.directionLevels.1
      x.1.coordinator.settleUncertainFlow.directionLevels.2 direction level =
        .ok (.pair supply extract, fallback)) :
    direction.opposite (supply, extract) =
      (mergedMeasured x).getD (direction.opposite pair) := by
  obtain ⟨other, hother, hmode, hopposite, -⟩ := planDirectionWrite_pair hplan
  -- The plan keeps the opposite level it was given, so that has to be the commanded one.
  suffices hlevels : x.1.coordinator.settleUncertainFlow.directionLevels.1 =
      (some pair.1, some pair.2) by
    rw [hlevels, oppositeLevel_some, Option.some.injEq] at hother
    rw [hopposite, hlevels, ← hother, plannedOpposite_eq, mergedMeasured, Option.mem_def.mp hpair]
    by_cases hmeasured :
        x.1.coordinator.settleUncertainFlow.directionLevels.2 = some .measured
    · by_cases hclose : |pair.1 - pair.2| ≤ levelConfirmTolerance
      · simp [hmeasured, hclose, Option.filter]
      · simp [hmeasured, hclose, Option.filter]
    · simp [hmeasured]
  rcases x.1.coordinator.settleUncertainFlow.directionLevels_cases with
    ⟨sentSupply, sentExtract, hshown, hlevels⟩ | ⟨hnone, hunknown | hlevels⟩
  · obtain ⟨pending, hpending, hvalue, -⟩ := OverlayKind.get_eq_some hshown
    have hcommanded := h.pending pending hpending
    rw [Option.mem_def.mp hpair, Option.some.injEq, hvalue] at hcommanded
    rw [hlevels, hcommanded]
  · rw [hunknown] at hother
    cases direction <;> cases hother
  · rw [hlevels] at hother hmode ⊢
    dsimp only at hother hmode ⊢
    have hstate : x.1.coordinator.settleUncertainFlow.state = x.1.coordinator.state := rfl
    have hclock : x.1.coordinator.settleUncertainFlow.clock = x.1.coordinator.clock := rfl
    rw [hstate, hclock] at hother hmode ⊢
    rw [plannedOperationMode_of_ne_pending reportedLevels_snd] at hmode
    obtain ⟨reported, hreported⟩ : ∃ reported,
        (reportedLevels x.1.coordinator.clock x.1.coordinator.state).1 = some reported := by
      by_contra hunknown
      rw [Option.eq_none_iff_forall_ne_some.mpr fun reported heq => hunknown ⟨reported, heq⟩]
        at hother
      cases direction <;> cases hother
    have hknown : (((reportedLevels x.1.coordinator.clock x.1.coordinator.state).1.bind
        (oppositeLevel direction)).isSome) = true := by
      rw [hreported, Option.getD_some] at hother
      rw [hreported, Option.bind_some, hother]
      rfl
    rw [h.reported hpair (by rw [hreported]; simp)
      (hcurrent (by rw [Option.mem_def.mp hpair]; simp) hnone hmode hknown)]
    rfl

end Found

/-! ### The commands -/

section Commands

variable {x y : UnitSystem × FanRecord} {label : Label} {write : PreparedWrite}
  {u : RoomCoordinator} {command : Command} {outcome : WriteOutcome} {finished : Clock}

/-- The commands that are considered write the airflow or intensive. -/
theorem writeKey_of_sends {s : RoomCoordinator} (h : s.Sends command u write)
    (hlabel : FanLabel x (.command command outcome finished)) :
    write.writeKey = .airflowLevels ∨ write.writeKey = .intensive := by
  cases h with
  | directionBalanced | directionPair => exact .inl rfl
  | activateIntensive | deactivateIntensive => exact .inr rfl
  | _ => exact hlabel.elim

/-- An accepted write has an encoding, and it was accepted by the transport. -/
theorem outcome_eq_accepted {room : RoomConfig} (h : write.outcome room outcome = .accepted) :
    write.call.encodeError room = none := by
  unfold PreparedWrite.outcome at h
  split at h
  · cases h
  · assumption

/-- A mode write is confirmed by what it shows as pending. -/
theorem confirmedExpected_of_modeCommand {sent : ModeCommand}
    (h : write.modeCommand = some sent) : write.confirmedExpected = write.expectedValue := by
  unfold PreparedWrite.modeCommand at h
  unfold PreparedWrite.confirmedExpected
  split at h
  · rename_i hcall
    rw [hcall]
  · cases h

/-- The pending pair after the end of a write: that of the write, or the one before, or
none. -/
theorem optimisticLevels_finishWrite (s : RoomCoordinator) (write : PreparedWrite)
    (sent : WriteOutcome) :
    ∀ pending ∈ (s.finishWrite write sent).optimisticLevels,
      acceptedPair (some (write, write.outcome s.room sent)) = some pending.value ∨
        (acceptedPair (some (write, write.outcome s.room sent)) = none ∧
          pending ∈ s.optimisticLevels) := by
  intro pending hpending
  unfold RoomCoordinator.finishWrite at hpending
  split at hpending
  · rename_i haccepted
    rw [(accept_frame s write).2.2.2.2.2.1] at hpending
    rw [haccepted]
    split at hpending
    · rename_i supply extract hkey hexpected
      cases hpending
      exact .inl (by simp [acceptedPair, hkey, hexpected])
    · rename_i hother
      split at hpending
      · cases hpending
      · refine .inr ⟨?_, hpending⟩
        simp only [acceptedPair]
  · rename_i error hfailed
    rw [(fail_frame s write error).2.2.2.2.2.1] at hpending
    split at hpending
    · cases hpending
    · exact .inr ⟨by rw [hfailed]; rfl, hpending⟩
  · rename_i hcancelled
    exact .inr ⟨by rw [hcancelled]; rfl,
      mem_of_eq_or_none (cancel_frame s write).2.2.2.2.2.1.levels hpending⟩

/-- The end of a write keeps the polled state. -/
theorem state_finishWrite {s : RoomCoordinator} {sent : WriteOutcome} :
    (s.finishWrite write sent).state = s.state := by
  obtain ⟨-, hdata, -⟩ := finishWrite_frame s write sent
  simp only [RoomCoordinator.state, hdata]

/-- **What a unit holds after a command that is considered**: the pair of an accepted fan
write, and what it held before if there is none. -/
theorem Tracked.holds_write (h : Tracked x)
    (hsent : x.1.coordinator.Sends command u write)
    (hlabel : FanLabel x (.command command outcome finished))
    (hplanned : write.Planned)
    (hrange : ∀ sent ∈ write.modeCommand, sent.InRange x.1.coordinator.room)
    (hwrite : x.1.coordinator.writeOf label =
      some (write, write.outcome x.1.coordinator.room outcome)) :
    ∀ pair ∈ (recordFan x.1 label x.2).commanded,
      (x.1.unitAfter label).HoldsPair x.1.coordinator.room pair ∧
        (x.1.unitAfter label).Applied := by
  have hkey := writeKey_of_sends hsent hlabel
  -- Unless the write is accepted neither the unit nor the commanded pair changes.
  have hidle : acceptedPair (x.1.coordinator.writeOf label) = none →
      x.1.unitAfter label = x.1.unit → ∀ pair ∈ (recordFan x.1 label x.2).commanded,
        (x.1.unitAfter label).HoldsPair x.1.coordinator.room pair ∧
          (x.1.unitAfter label).Applied := by
    intro hnone hunit
    rw [recordFan, hnone, hunit]
    exact h.holds
  rcases houtcome : write.outcome x.1.coordinator.room outcome with _ | error | _
  swap
  · exact hidle (by rw [hwrite, houtcome]; rfl) (by rw [UnitSystem.unitAfter, hwrite, houtcome])
  swap
  · exact hidle (by rw [hwrite, houtcome]; rfl) (by rw [UnitSystem.unitAfter, hwrite, houtcome])
  have hencoded := outcome_eq_accepted houtcome
  have hmode : ∀ key, write.writeKey ≠ .controlSetting key := by
    intro key
    rcases hkey with hkey | hkey <;> simp [hkey]
  obtain ⟨sent, hcommand, hfollows, hbase⟩ := hplanned.follows x.1.unit hmode hencoded hrange
  have hunit : x.1.unitAfter label = x.1.unit.execute x.1.coordinator.room sent := by
    rw [UnitSystem.unitAfter, hwrite, houtcome]
    simp only [hcommand]
  rw [confirmedExpected_of_modeCommand hcommand] at hfollows
  rw [recordFan, hwrite, houtcome, hunit]
  rcases hkey with hkey | hkey
  · rw [hkey] at hfollows
    have hcall : write.call = .mode sent := by
      unfold PreparedWrite.modeCommand at hcommand
      split at hcommand
      · cases hcommand
        assumption
      · cases hcommand
    rcases hexpected : write.expectedValue with ⟨supply, extract⟩ | _ | _ | _ | _
    all_goals
      rw [hexpected] at hfollows
      cases hfollows
    rename_i base hholds hrange htargets
    intro pair hpair
    obtain rfl : (supply, extract) = pair := by
      simpa [acceptedPair, hkey, hexpected] using hpair
    exact ⟨⟨base, hholds, hrange, htargets⟩, x.1.unit.applied_execute (hcall ▸ hencoded)⟩
  · have hnone : acceptedPair (some (write, .accepted)) = none := by
      simp [acceptedPair, hkey]
    rw [hnone]
    intro pair hpair
    obtain ⟨⟨base, hholds, hrange, htargets⟩, happlied⟩ := h.holds pair hpair
    -- An intensive write leaves the base mode, and with it the pair, as it was.
    have hquiet : sent.baseMode = none := hbase (by simp [hkey, baseModeWrites])
    exact ⟨⟨base, hholds.execute h.inRange.genuine hquiet, hrange, htargets⟩,
      happlied.execute sent⟩

/-- The accepted pair of a command that is considered is that of a plan. -/
theorem plan_of_acceptedPair {pair : ℤ × ℤ} (hsent : x.1.coordinator.Sends command u write)
    (hlabel : FanLabel x (.command command outcome finished))
    (hpair : acceptedPair (some (write, .accepted)) = some pair) :
    ∃ direction level planned fallback, command = .setDirectionLevel direction level ∧
      planDirectionWrite x.1.coordinator.room x.1.coordinator.state
        x.1.coordinator.settleUncertainFlow.directionLevels.1
        x.1.coordinator.settleUncertainFlow.directionLevels.2 direction level =
          .ok (planned, fallback) ∧
      (planned = .pair pair.1 pair.2 ∨ planned = .balanced pair.1 ∧ pair.1 = pair.2) := by
  cases hsent with
  | directionBalanced direction level planned fallback _ hplan =>
    cases hpair
    exact ⟨direction, level, _, fallback, rfl, hplan, .inr ⟨rfl, rfl⟩⟩
  | directionPair direction level supply extract fallback _ hplan =>
    cases hpair
    exact ⟨direction, level, _, fallback, rfl, hplan, .inl rfl⟩
  | activateIntensive | deactivateIntensive => cases hpair
  | _ => exact hlabel.elim

/-- **What is left of a level is what the unit was sent for it last.** -/
theorem Tracked.left_write (h : Tracked x) (hsent : x.1.coordinator.Sends command u write)
    (hlabel : FanLabel x (.command command outcome finished))
    (hwrite : x.1.coordinator.writeOf (.command command outcome finished) =
      some (write, write.outcome x.1.coordinator.room outcome)) :
    ∀ direction, ∀ asked ∈ (recordFan x.1 (.command command outcome finished) x.2).asked direction,
      ∃ pair ∈ (recordFan x.1 (.command command outcome finished) x.2).commanded,
        ∀ left ∈ asked.left, direction.level pair = left := by
  rcases haccepted : acceptedPair (x.1.coordinator.writeOf
    (.command command outcome finished)) with _ | pair
  · rw [recordFan, haccepted]
    exact h.left
  have houtcome : acceptedPair (some (write, .accepted)) = some pair := by
    rw [hwrite] at haccepted
    rcases hsent' : write.outcome x.1.coordinator.room outcome with _ | error | _
    · rwa [hsent'] at haccepted
    all_goals
      rw [hsent'] at haccepted
      cases haccepted
  obtain ⟨set, level, planned, fallback, rfl, hplan, hkind⟩ :=
    plan_of_acceptedPair hsent hlabel houtcome
  have hafter : ∀ direction, (recordFan x.1 (.command (.setDirectionLevel set level) outcome
      finished) x.2).asked direction = askedAfter x.1 (.command (.setDirectionLevel set level)
        outcome finished) x.2 pair direction := by
    intro direction
    rw [recordFan, haccepted]
    cases direction <;> rfl
  have hcommanded : (recordFan x.1 (.command (.setDirectionLevel set level) outcome
      finished) x.2).commanded = some pair := by
    rw [recordFan, haccepted]
  intro direction asked hasked
  rw [hafter, askedAfter] at hasked
  refine ⟨pair, hcommanded, fun left hleft => ?_⟩
  -- One balanced level is that of the command, for both directions.
  have hbalanced : planned = .balanced pair.1 ∧ pair.1 = pair.2 →
      ∀ direction : Direction, direction.level pair = level := by
    rintro ⟨rfl, hsame⟩ direction
    rw [← planDirectionWrite_balanced hplan]
    cases direction
    · rfl
    · exact hsame.symm
  by_cases hset : set = direction
  · rw [if_pos hset] at hasked
    cases hasked
    cases hleft
    rcases hkind with rfl | hkind
    · obtain ⟨-, -, -, -, hlevel, -⟩ := planDirectionWrite_pair hplan
      exact hset ▸ hlevel
    · exact hbalanced hkind direction
  · rw [if_neg hset] at hasked
    obtain ⟨before, hbefore, rfl⟩ := Option.map_eq_some_iff.mp hasked
    rcases hkind with rfl | hkind
    · obtain ⟨-, -, -, -, -, hapart⟩ := planDirectionWrite_pair hplan
      rw [if_neg hapart] at hleft
      obtain ⟨hcurrent, hleft⟩ := Option.ite_none_right_eq_some.mp hleft
      obtain ⟨kept, hkept, rfl⟩ := Option.map_eq_some_iff.mp hleft
      obtain ⟨commanded, hmem, hheld⟩ := h.left direction before hbefore
      have hopposite := h.opposite_planned hcurrent hmem hplan
      rw [Direction.eq_other_of_ne hset, Direction.level_other] at hheld ⊢
      rw [hopposite, hheld kept hkept]
    · rw [if_pos hkind.2] at hleft
      cases hleft
      exact hbalanced hkind direction

/-- **Every step that is considered keeps the invariant.** -/
theorem Tracked.step (h : Tracked x) (hlabel : FanLabel x label)
    (hstep : FanStep x label = some y) : Tracked y := by
  obtain ⟨hstep, hrecord⟩ := recorded_eq_some.mp hstep
  obtain ⟨hcoordinator, hunit, hanswers⟩ := UnitSystem.step_eq_some hstep
  have hin : label.InRange x.1.coordinator.room := by
    cases label with
    | command command outcome finished =>
      cases command <;> first | exact hlabel | exact trivial | exact hlabel.elim
    | _ => trivial
  obtain ⟨hinRange, hroom⟩ := h.inRange.step hin hstep
  rcases x.1.coordinator.step_cases hcoordinator with ⟨command, outcome, finished, u, write, rfl,
    hle, hprepare, hwrite, heq⟩ | ⟨hwrite, hcases⟩
  · obtain ⟨hquiet, hplanned⟩ : x.1.coordinator.Quiet u ∧ write.Planned := by
      have hsound := x.1.coordinator.sound_prepare command
      rwa [hprepare] at hsound
    have hkept := hquiet.atClock hle
    have hsent := sends_of_prepare hprepare
    have hrange : ∀ sent ∈ write.modeCommand, sent.InRange x.1.coordinator.room :=
      fun sent hmem => hsent.inRange h.inRange.levels hin hmem
    have hpending := optimisticLevels_finishWrite (u.atClock finished) write outcome
    rw [hkept.room, ← hwrite, ← heq] at hpending
    refine ⟨hinRange, startup_step hcoordinator h.startup, ?_, ?_, ?_, ?_⟩
    · rw [hrecord, hunit, hroom]
      exact h.holds_write hsent hlabel hplanned hrange hwrite
    · -- The pending pair is the one just accepted, or it was pending before.
      intro pending hmem
      rw [hrecord, recordFan]
      rcases hpending pending hmem with hpair | ⟨hnone, hmem⟩
      · rw [hpair]
      · rw [hnone]
        exact h.pending pending (mem_of_eq_or_none hkept.levels hmem)
    · rw [hrecord]
      exact h.left_write hsent hlabel hwrite
    · have hstate : y.1.coordinator.state = x.1.coordinator.state := by
        rw [heq, state_finishWrite, hkept.state]
      rw [hrecord, hstate]
      rcases hpair : acceptedPair (x.1.coordinator.writeOf
        (.command command outcome finished)) with _ | pair
      · rw [recordFan_of_reply_none rfl hpair]
        exact h.current
      · rw [recordFan, hpair]
        exact ⟨by rintro ⟨⟩, by rintro ⟨⟩⟩
  · rw [UnitSystem.unitAfter_of_writeOf_none hwrite] at hunit
    exact h.read hinRange hroom hcoordinator hanswers hunit hrecord hwrite hcases

end Commands

/-! ### Runs -/

section Runs

variable {x : UnitSystem × FanRecord} {direction : Direction} {level : ℤ}

theorem Tracked.of_start (h : FanStart x) : Tracked x := by
  obtain ⟨x, record⟩ := x
  obtain ⟨hstart, rfl⟩ := h
  have hinRange := hstart.inRange
  obtain ⟨⟨room, clock, hs⟩, -⟩ := hstart
  dsimp only at hs
  refine ⟨hinRange, ?_, ?_, ?_, ?_, ⟨?_, ?_⟩⟩
  · rw [hs]
    rintro _ ⟨⟩
  · rintro _ ⟨⟩
  · rw [hs]
    rintro _ ⟨⟩
  · rintro (_ | _) _ ⟨⟩
  · rintro ⟨⟩
  · rintro ⟨⟩

/-- A pair that is sent was planned. -/
theorem planned_of_sentPair {s : RoomCoordinator} {supply extract : ℤ}
    (h : (supply, extract) ∈ s.sentPair direction level) :
    ∃ fallback, planDirectionWrite s.room s.state s.settleUncertainFlow.directionLevels.1
      s.settleUncertainFlow.directionLevels.2 direction level =
        .ok (.pair supply extract, fallback) := by
  simp only [RoomCoordinator.sentPair, Option.mem_def] at h
  split at h
  · rename_i u write hprepare
    split at h
    · rename_i hcall hfallback
      cases h
      cases sends_of_prepare hprepare with
      | directionBalanced => cases hcall
      | directionPair _ _ _ _ fallback _ hplan =>
        cases hcall
        exact ⟨fallback, hplan⟩
    · cases h
  · cases h
  · cases h

/-- **The other direction is kept** by a command that builds on current levels, as far as merges
have left it. -/
theorem Tracked.oppositeKept (h : Tracked x) (hcurrent : CurrentLevels x direction)
    (hleft : LevelLeft x direction) : OppositeKept x direction level := by
  rintro ⟨supply, extract⟩ hsent asked hasked
  obtain ⟨fallback, hplan⟩ := planned_of_sentPair hsent
  obtain ⟨pair, hpair, hheld⟩ := h.left _ asked hasked
  obtain ⟨left, hmem, hclose⟩ := (Option.any_eq_true _ _).mp (hleft asked hasked)
  have hopposite : direction.opposite (supply, extract) = (mergedMeasured x).getD left := by
    rw [h.opposite_planned hcurrent hpair hplan, ← hheld left hmem, Direction.level_other]
  rw [hopposite]
  exact of_decide_eq_true hclose

/-- **No accepted fan command is undone by the next one**, as long as that builds on current
levels and merges have left what was commanded: in every run, a command for one direction that
sends a pair without a fallback sends the other direction as it was commanded last, up to the
tolerance. -/
theorem oppositeKept_of_reach (h : Reach FanStep FanLabel FanStart x)
    (hcurrent : CurrentLevels x direction) (hleft : LevelLeft x direction) :
    OppositeKept x direction level :=
  (h.invariant (fun _ => Tracked.of_start) fun _ _ _ htracked hlabel hstep =>
    htracked.step hlabel hstep).oppositeKept hcurrent hleft

end Runs

/-! ### The failing run -/

section Sample

open UnitSystem

theorem sampleUnit_fanStart : FanStart (sampleUnit, {}) := ⟨sampleUnit_started, rfl⟩

/-- Supply is set to 60 m³/h on a unit that runs balanced at 39, and read back. -/
def supplyReadBack : List Label :=
  [.poll (replyAfter []) ⟨false, false⟩ (atSecond 1) (atSecond 1),
    .command (.setDirectionLevel .supply 60) .accepted (atSecond 2),
    .poll (replyAfter [.writeUnbalancedLevels 60 39]) ⟨false, false⟩ (atSecond 11) (atSecond 11),
    .command .activateIntensive .accepted (atSecond 12),
    .readBack (replyAfter [.writeUnbalancedLevels 60 39, .writePresetMode .intensive])
      (atSecond 15) (atSecond 15), .expire .levels]

theorem oppositeKept_of_reach_supplyReadBack :
    ∃ x, run FanStep supplyReadBack (sampleUnit, {}) = some x ∧
      x.2.supply = some ⟨60, some 60⟩ ∧
      x.1.coordinator.sentPair .extract 20 = some (60, 20) ∧ OppositeKept x .extract 20 := by
  have hstart : Reach FanStep FanLabel FanStart (sampleUnit, {}) := .start sampleUnit_fanStart
  obtain ⟨x, hrun, hreach, hx⟩ := hstart.exists_of_run supplyReadBack
    (fun x => x.2.supply = some ⟨60, some 60⟩ ∧
      x.1.coordinator.sentPair .extract 20 = some (60, 20) ∧ CurrentLevels x .extract ∧
      LevelLeft x .extract)
    (by decide +kernel) (by decide +kernel)
  obtain ⟨hasked, hsent, hcurrent, hleft⟩ := of_decide_eq_true hx
  exact ⟨x, hrun, hasked, hsent, oppositeKept_of_reach hreach hcurrent hleft⟩

/-- Supply is set to 60 m³/h, and intensive is activated before that is read back. The pending
pair expires while intensive runs. -/
def supplyUnderIntensive : List Label :=
  [.poll (replyAfter []) ⟨false, false⟩ (atSecond 1) (atSecond 1),
    .command (.setDirectionLevel .supply 60) .accepted (atSecond 2),
    .command .activateIntensive .accepted (atSecond 3),
    .readBack (replyAfter [.writeUnbalancedLevels 60 39, .writePresetMode .intensive])
      (atSecond 6) (atSecond 6),
    .elapse (atSecond 17), .expire .levels]

/-- Extract is set to 40 m³/h, and supply to 41, 42, 43 and 44 one after the other. Each of these is
sent as one balanced level. -/
def supplyStepByStep : List Label :=
  [.poll (replyAfter []) ⟨false, false⟩ (atSecond 1) (atSecond 1),
    .command (.setDirectionLevel .extract 40) .accepted (atSecond 2),
    .command (.setDirectionLevel .supply 41) .accepted (atSecond 3),
    .command (.setDirectionLevel .supply 42) .accepted (atSecond 4),
    .command (.setDirectionLevel .supply 43) .accepted (atSecond 5),
    .command (.setDirectionLevel .supply 44) .accepted (atSecond 6)]

/-- **Commands that undo the ones before them.** In the first run the status map hides the base
mode, so the targets from before the first command are taken for those of the unit, and 60/39
becomes 39/20. In the second every merge moves the extract air by one, and 40 becomes 44. -/
theorem oppositeKept_refuted :
    (∃ x, run FanStep supplyUnderIntensive (sampleUnit, {}) = some x ∧
      Reach FanStep FanLabel FanStart x ∧ ¬ OppositeKept x .extract 20) ∧
    ∃ x, run FanStep supplyStepByStep (sampleUnit, {}) = some x ∧
      Reach FanStep FanLabel FanStart x ∧ CurrentLevels x .supply ∧
        x.1.coordinator.sentPair .supply 60 = some (60, 44) ∧ ¬ OppositeKept x .supply 60 := by
  have hstart : Reach FanStep FanLabel FanStart (sampleUnit, {}) := .start sampleUnit_fanStart
  refine ⟨?_, ?_⟩
  · obtain ⟨x, hrun, hreach, hx⟩ := hstart.exists_of_run supplyUnderIntensive
      (fun x => ¬ OppositeKept x .extract 20) (by decide +kernel) (by decide +kernel)
    exact ⟨x, hrun, hreach, of_decide_eq_true hx⟩
  · obtain ⟨x, hrun, hreach, hx⟩ := hstart.exists_of_run supplyStepByStep
      (fun x => CurrentLevels x .supply ∧
        x.1.coordinator.sentPair .supply 60 = some (60, 44) ∧ ¬ OppositeKept x .supply 60)
      (by decide +kernel) (by decide +kernel)
    exact ⟨x, hrun, hreach, of_decide_eq_true hx⟩

end Sample

end MeltemVentilation
