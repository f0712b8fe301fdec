import MeltemVentilation.CoordinatorSteps
import MeltemVentilation.Lib.Transition

/-!
# The coordinator and a simulated unit

The coordinator coupled with the unit of `MockModel`: the unit executes each command that the
transport accepts, at once and exactly, and answers each read with what it shows. What may
still go wrong is the reading – every block may fail or be skipped, the unit may be
quarantined, the link may be lost – and the timing.

Two invariants come with the coupling, whatever the commands. The unit is `MockUnit.Genuine`:
it shows what its set registers ask for, and that is intensive exactly when the shadow
registers say so. And every level that the coordinator knows, by a read or by a command, is a
level of the unit (`RoomCoordinator.LevelsInRange`), so that every command it sends is one the
unit can follow (`RoomCoordinator.Sends.inRange`).
-/

namespace MeltemVentilation

open RoomCoordinator Transition

variable {room : RoomConfig} {unit : MockUnit}

/-! ### A unit that shows what it was told -/

/-- A unit as the simulation keeps it: the status map shows what the set registers ask for,
the airflow is in range, and the base registers do not look like an intensive override
themselves. -/
structure MockUnit.Genuine (room : RoomConfig) (unit : MockUnit) : Prop where
  profile : unit.profile = room.profile
  status : unit.status = unit.modeUpdates.1
  unmasked : modeStatusReportsIntensive
    ⟨unit.set .mode, unit.set .currentLevel, unit.set .currentLevel⟩ = false
  extractAirFlow : LevelInRange room unit.extractAirFlow
  supplyAirFlow : LevelInRange room unit.supplyAirFlow

/-! ### Levels of the unit -/

theorem levelInRange_zero : LevelInRange room 0 := ⟨le_refl 0, (profileMaxAirflow_pos _).le⟩

theorem levelInRange_scaleRawLevelToAirflow {rawLevel : ℕ} (h : rawLevel ≤ 200) :
    LevelInRange room (scaleRawLevelToAirflow room rawLevel) := by
  have hmax := profileMaxAirflow_pos room.profile
  have hraw : (0 : ℤ) ≤ rawLevel ∧ (rawLevel : ℤ) ≤ 200 := by omega
  refine ⟨HalfEven.le_round (by norm_num) ?_, HalfEven.round_le (by norm_num) ?_⟩
  · simpa using mul_nonneg hraw.1 hmax.le
  · exact mul_le_mul_of_nonneg_right hraw.2 hmax.le

/-- Whatever a unit is told, its airflow is in range. -/
theorem levelInRange_airflowOfRaw (room : RoomConfig) (rawLevel : ℕ) (quickModes : Bool) :
    LevelInRange room (airflowOfRaw rawLevel (profileMaxAirflow room.profile) quickModes) := by
  have hmax := profileMaxAirflow_pos room.profile
  unfold airflowOfRaw
  split
  · rename_i airflow hquick
    have hpos : 0 ≤ airflow := by
      split at hquick
      · unfold quickModeAirflow at hquick
        split at hquick <;> simp only [Option.some.injEq, reduceCtorEq] at hquick <;> omega
      · cases hquick
    exact ⟨le_min hpos hmax.le, min_le_right _ _⟩
  · split
    · exact levelInRange_scaleRawLevelToAirflow ‹_›
    · simp only [appUnbalancedPresetBase]
      exact ⟨le_min (by omega) hmax.le, min_le_right _ _⟩

/-- The airflow that a unit is set to is in range. -/
theorem MockUnit.levelInRange_modeUpdates (hprofile : unit.profile = room.profile)
    {extract supply : ℤ} (h : unit.modeUpdates.2 = some (extract, supply)) :
    LevelInRange room extract ∧ LevelInRange room supply := by
  have hairflow := levelInRange_airflowOfRaw room
  unfold MockUnit.modeUpdates at h
  rw [hprofile] at h
  dsimp only at h
  split at h
  · cases h
    exact ⟨hairflow _ _, hairflow _ _⟩
  · split at h
    · cases h
    · split at h
      · cases h
        exact ⟨levelInRange_zero, levelInRange_zero⟩
      · split at h <;> cases h <;> exact ⟨hairflow _ _, hairflow _ _⟩

/-- Committing keeps the airflow in range. -/
theorem MockUnit.levelInRange_commit (hprofile : unit.profile = room.profile)
    (hextract : LevelInRange room unit.extractAirFlow)
    (hsupply : LevelInRange room unit.supplyAirFlow) :
    LevelInRange room unit.commit.extractAirFlow ∧
      LevelInRange room unit.commit.supplyAirFlow := by
  unfold MockUnit.commit
  rcases h : unit.modeUpdates.2 with _ | flows
  · exact ⟨hextract, hsupply⟩
  · exact MockUnit.levelInRange_modeUpdates hprofile h

/-- Writes change the set registers only. -/
theorem MockUnit.foldl_write (writes : List (ModeRegister × ℕ)) (unit : MockUnit) :
    writes.foldl MockUnit.write unit =
      { unit with set := (writes.foldl MockUnit.write unit).set } := by
  induction writes generalizing unit with
  | nil => rfl
  | cons write writes ih =>
    rw [List.foldl_cons, ih]
    rfl

/-- The registers of a base mode do not look like an intensive override. -/
theorem MockUnit.HoldsBase.unmasked {base : BaseMode} (h : unit.HoldsBase room base) :
    modeStatusReportsIntensive
      ⟨unit.set .mode, unit.set .currentLevel, unit.set .currentLevel⟩ = false := by
  have hlevel := scaleAirflowToRaw_ne_intensive room
  cases base with
  | quick preset rawCode hcode hne =>
    have hcode' : rawCode ≠ presetModeCodeIntensive := by
      rintro rfl
      cases preset <;> simp [presetModeToRawCode, presetModeCodeIntensive] at hcode hne
    simp_all [HoldsBase, BaseMode.registers, modeStatusReportsIntensive, modeManual]
  | off | manual | unbalanced | sensor =>
    simp_all [HoldsBase, BaseMode.registers, modeStatusReportsIntensive, modeManual, modeOff,
      modeUnbalanced, modeSensorControl]

/-- The shadow writes leave the base registers alone. -/
theorem MockUnit.set_foldl_shadowWrites (request : Option Bool) {register : ModeRegister}
    (h : register ≠ .presetMode ∧ register ≠ .presetValue) :
    ((ModeCommand.shadowWrites request).foldl MockUnit.write unit).set register =
      unit.set register := by
  match request with
  | none => rfl
  | some true | some false =>
    simp [ModeCommand.shadowWrites, clearIntensiveWrites, MockUnit.write, Function.update, h]

/-- **A command keeps a unit genuine.** -/
theorem MockUnit.Genuine.execute (h : unit.Genuine room) (command : ModeCommand) :
    (unit.execute room command).Genuine room := by
  unfold MockUnit.execute
  rcases hwrites : command.writes room with error | writes
  · exact h
  · dsimp only
    have hfold := MockUnit.foldl_write writes unit
    have hrange : LevelInRange room (writes.foldl MockUnit.write unit).commit.extractAirFlow ∧
        LevelInRange room (writes.foldl MockUnit.write unit).commit.supplyAirFlow := by
      refine MockUnit.levelInRange_commit ?_ ?_ ?_ <;> rw [hfold]
      · exact h.profile
      · exact h.extractAirFlow
      · exact h.supplyAirFlow
    refine ⟨by rw [hfold]; exact h.profile, rfl, ?_, hrange.1, hrange.2⟩
    show modeStatusReportsIntensive ⟨(writes.foldl MockUnit.write unit).set .mode, _, _⟩ = false
    -- Only a command for the base mode writes the mode; intensive writes the shadow registers.
    rcases hbase : command.baseMode with _ | base
    · rcases ModeCommand.writes_of_requestsIntensive room hbase with
        ⟨active, -, hshadow⟩ | ⟨-, error, herror⟩
      · rw [hwrites] at hshadow
        cases hshadow
        show modeStatusReportsIntensive ⟨_,
          ((ModeCommand.shadowWrites (some active)).foldl MockUnit.write unit).set .currentLevel,
          ((ModeCommand.shadowWrites (some active)).foldl MockUnit.write unit).set
            .currentLevel⟩ = false
        rw [MockUnit.set_foldl_shadowWrites _ (by decide),
          MockUnit.set_foldl_shadowWrites _ (by decide)]
        exact h.unmasked
      · rw [hwrites] at herror
        cases herror
    · rw [ModeCommand.writes_of_baseMode hbase] at hwrites
      cases hwrites
      rw [List.foldl_append]
      exact (MockUnit.holdsBase_foldl _ base).unmasked

theorem decodeSensorSubcode_reportsIntensive (block : ModeRead) :
    modeStatusReportsIntensive (decodeSensorSubcode block) = modeStatusReportsIntensive block := by
  unfold decodeSensorSubcode
  split
  · rename_i hmode
    simp [modeStatusReportsIntensive, hmode, modeSensorControl, modeManual]
  · rfl

/-- **A genuine unit shows intensive exactly when the shadow registers ask for it.** -/
theorem MockUnit.Genuine.reportsIntensive (h : unit.Genuine room) :
    modeStatusReportsIntensive unit.status = unit.runsIntensive := by
  rw [h.status]
  by_cases hrun : unit.runsIntensive = true
  · rw [MockUnit.modeUpdates_of_runsIntensive hrun, hrun]
    rfl
  · have hunmasked := h.unmasked
    rw [Bool.not_eq_true] at hrun
    rw [hrun]
    unfold MockUnit.modeUpdates
    simp only [hrun, Bool.false_eq_true, if_false]
    split
    · rename_i hmode
      simp [modeStatusReportsIntensive, hmode, modeSensorControl, modeManual]
    · split
      · exact hunmasked
      · split
        · rename_i hmode
          simp [modeStatusReportsIntensive, hmode, modeUnbalanced, modeManual]
        · exact hunmasked

/-- A status read of a genuine unit says whether it runs intensive. -/
theorem MockUnit.Genuine.intensiveActive (h : unit.Genuine room) (state : RoomState) :
    (applyModeRead room state (some unit.status)).intensiveActive = some unit.runsIntensive := by
  have hreports := h.reportsIntensive
  rw [← decodeSensorSubcode_reportsIntensive] at hreports
  unfold applyModeRead
  rcases hrun : unit.runsIntensive with _ | _ <;> rw [hrun] at hreports <;> simp [hreports]

/-- A new unit is genuine. -/
theorem newUnit_genuine (room : RoomConfig) : (newUnit room.profile).Genuine room := by
  have hairflow : LevelInRange room 40 := by
    constructor
    · norm_num
    · cases room.profile <;> decide
  exact ⟨rfl, rfl, rfl, hairflow, hairflow⟩

/-! ### Known levels are levels of the unit -/

/-- The mean of two levels, rounded, is a level. -/
theorem levelInRange_mean {level other : ℤ} (h : LevelInRange room level)
    (h' : LevelInRange room other) : LevelInRange room (HalfEven.round (level + other) 2) := by
  obtain ⟨hlow, hhigh⟩ := h
  obtain ⟨hlow', hhigh'⟩ := h'
  exact ⟨HalfEven.le_round (by norm_num) (by omega), HalfEven.round_le (by norm_num) (by omega)⟩

theorem levelInRange_decodeTargetLevel (rawLevel : Option ℕ) :
    ∀ level ∈ decodeTargetLevel room rawLevel, LevelInRange room level := by
  intro level h
  rcases rawLevel with _ | rawLevel
  · cases h
  · simp only [decodeTargetLevel, Option.mem_def] at h
    split at h
    · cases h
      exact levelInRange_scaleRawLevelToAirflow ‹_›
    · obtain ⟨hle, h⟩ := Option.ite_none_right_eq_some.mp h
      cases h
      simp only [appUnbalancedPresetBase] at hle ⊢
      exact ⟨by omega, hle⟩

/-- A pair of levels that may be unknown, each a level of the unit where it is known. -/
structure LevelPair.InRange (room : RoomConfig) (levels : LevelPair) : Prop where
  supply : ∀ level ∈ levels.1, LevelInRange room level
  extract : ∀ level ∈ levels.2, LevelInRange room level

/-- Every level of a state is a level of the unit. -/
structure RoomState.LevelsInRange (room : RoomConfig) (state : RoomState) : Prop where
  airflow : LevelPair.InRange room (state.supplyAirFlow, state.extractAirFlow)
  targets : LevelPair.InRange room (state.targetLevel, state.extractTargetLevel)
  readback : ∀ level ∈ state.balancedTargetReadback, LevelInRange room level

section Known

variable {state : RoomState} {levels other : LevelPair} {level : Option ℤ}

theorem LevelPair.InRange.unknown : LevelPair.InRange room (none, none) :=
  ⟨by rintro _ ⟨⟩, by rintro _ ⟨⟩⟩

/-- The first known of two levels. -/
theorem levelInRange_or {first second : Option ℤ} (h : ∀ level ∈ first, LevelInRange room level)
    (h' : ∀ level ∈ second, LevelInRange room level) :
    ∀ level ∈ first.or second, LevelInRange room level := by
  cases first with
  | none => simpa using h'
  | some level => simpa using h

theorem LevelPair.InRange.or (h : levels.InRange room) (h' : other.InRange room) :
    LevelPair.InRange room (levels.1.or other.1, levels.2.or other.2) :=
  ⟨levelInRange_or h.supply h'.supply, levelInRange_or h.extract h'.extract⟩

theorem levelsInRange_empty : emptyRoomState.LevelsInRange room :=
  ⟨.unknown, .unknown, by rintro _ ⟨⟩⟩

theorem levelInRange_deriveBalancedAirflow (h : levels.InRange room) :
    ∀ level ∈ deriveBalancedAirflow levels.2 levels.1, LevelInRange room level := by
  intro level hlevel
  obtain ⟨supply | supply, extract | extract⟩ := levels
  · cases hlevel
  · exact h.extract level hlevel
  · exact h.supply level hlevel
  · obtain ⟨-, hlevel⟩ := Option.ite_none_right_eq_some.mp hlevel
    cases hlevel
    exact levelInRange_mean (h.extract extract rfl) (h.supply supply rfl)

theorem levelsInRange_decodeTargets (h : state.LevelsInRange room)
    (operationMode : Option OperationMode) (block : Option ModeRead) :
    LevelPair.InRange room (decodeTargets room state operationMode block) := by
  have hderived := levelInRange_deriveBalancedAirflow h.airflow
  unfold decodeTargets
  split
  · cases block with
    | none => exact h.targets
    | some block =>
      exact ⟨levelInRange_decodeTargetLevel (some block.currentLevel),
        levelInRange_decodeTargetLevel (some block.extractTargetLevel)⟩
  · exact ⟨levelInRange_or (levelInRange_decodeTargetLevel _) hderived, by rintro _ ⟨⟩⟩
  · exact ⟨levelInRange_or (levelInRange_decodeTargetLevel _) hderived, by rintro _ ⟨⟩⟩
  · exact ⟨hderived, by rintro _ ⟨⟩⟩

/-- **Decoding keeps the levels in range**, whatever the status map says. -/
theorem RoomState.LevelsInRange.applyModeRead (h : state.LevelsInRange room)
    (block : Option ModeRead) :
    (MeltemVentilation.applyModeRead room state block).LevelsInRange room := by
  unfold MeltemVentilation.applyModeRead
  dsimp only
  split
  · exact ⟨h.airflow, h.targets, h.readback⟩
  · exact ⟨h.airflow, levelsInRange_decodeTargets h _ _, by rintro _ ⟨⟩⟩

/-- Levels are reported in range. -/
theorem levelsInRange_targetLevels (h : state.LevelsInRange room) (airflowIsFresh : Bool) :
    (targetLevels state airflowIsFresh).InRange room := by
  obtain ⟨hairflow, htargets, hreadback⟩ := h
  have hzero : ∀ level ∈ some (0 : ℤ), LevelInRange room level := by
    rintro _ ⟨⟩
    exact levelInRange_zero
  unfold targetLevels
  split
  · exact ⟨hzero, hzero⟩
  · split
    · exact htargets.or hairflow
    · exact htargets
  · split
    · exact hairflow
    · exact .unknown
  · split
    · exact hairflow
    · exact .unknown
  · split
    · exact hairflow
    · exact .unknown
  · dsimp only
    split
    · rename_i level hcommon
      have hlevel : LevelInRange room level := by
        refine levelInRange_or hreadback (fun level hlevel => ?_) level hcommon
        split at hlevel
        · cases hlevel
        · exact htargets.supply level hlevel
      refine ⟨?_, ?_⟩
      all_goals
        rintro _ ⟨⟩
        exact hlevel
    · split
      · exact ⟨levelInRange_or hairflow.supply hairflow.extract,
          levelInRange_or hairflow.extract hairflow.supply⟩
      · exact .unknown

theorem levelsInRange_reportedLevels (h : state.LevelsInRange room) {clock : Clock}
    (hreported : (reportedLevels clock state).1 = some levels) : levels.InRange room := by
  rw [reportedLevels_fst] at hreported
  obtain ⟨-, hreported⟩ := Option.ite_none_left_eq_some.mp hreported
  cases hreported
  unfold reportedPair
  split
  · exact levelsInRange_targetLevels h _
  · split
    · exact h.airflow
    · exact .unknown

theorem levelInRange_modeWriteLevels (h : state.LevelsInRange room)
    (hlevels : levels.InRange room) :
    LevelPair.InRange room (modeWriteLevels state levels) := by
  have hbalanced := levelInRange_or hlevels.supply
    (levelInRange_or h.targets.supply (levelInRange_or h.airflow.supply h.airflow.extract))
  exact ⟨hbalanced, levelInRange_or hlevels.extract
    (levelInRange_or h.targets.extract (levelInRange_or h.airflow.extract hbalanced))⟩

/-- The levels of a planned write are those of the command and of the unit. -/
theorem levelInRange_planDirectionWrite {source : Option LevelSource} {direction : Direction}
    {level : ℤ} {planned : PlannedWrite} {fallback : Option LevelWriteFallback}
    (hlevels : levels.InRange room) (hlevel : LevelInRange room level)
    (h : planDirectionWrite room state levels source direction level = .ok (planned, fallback)) :
    match planned with
    | .balanced planned => LevelInRange room planned
    | .pair supply extract => LevelInRange room supply ∧ LevelInRange room extract := by
  unfold planDirectionWrite at h
  split at h
  · split at h
    · cases h
    · cases h
      exact hlevel
  · rename_i other hknown
    have hother : LevelInRange room other := by
      cases direction
      · exact hlevels.extract other hknown
      · exact hlevels.supply other hknown
    -- The opposite level is a known one or the mean of the two known ones.
    have hopposite : LevelInRange room (plannedOpposite levels source other) := by
      unfold plannedOpposite
      split
      · split
        · exact levelInRange_mean (hlevels.supply _ rfl) (hlevels.extract _ rfl)
        · exact hother
      · exact hother
    dsimp only at h
    split at h
    · cases h
      exact hlevel
    · cases direction <;> cases h
      · exact ⟨hlevel, hopposite⟩
      · exact ⟨hopposite, hlevel⟩

end Known

/-! ### The coordinator with its unit -/

/-- A coordinator and the unit it controls. -/
structure UnitSystem where
  coordinator : RoomCoordinator
  unit : MockUnit

/-- Whether register `41121` of the unit may be answered so. -/
def MockUnit.answersTarget (unit : MockUnit) : TargetReply → Bool
  | .failed => true
  | .value raw => raw = unit.set .currentLevel

/-- Whether the replies to a read are those of the unit: a block that is read has the values
of the unit, and any block may fail or be skipped. -/
def MockUnit.answers (unit : MockUnit) : PlanReply → Bool
  | .airflow (.blocks flow mode) target =>
    flow.read?.all (· = ⟨unit.extractAirFlow, unit.supplyAirFlow⟩) &&
      mode.read?.all (· = unit.status) && unit.answersTarget target
  | .airflow .quarantined target | .airflow (.raised _) target => unit.answersTarget target
  | .settings _ => true

/-- The mode command of a write. -/
def PreparedWrite.modeCommand (write : PreparedWrite) : Option ModeCommand :=
  match write.call with
  | .mode command => some command
  | .controlSetting _ _ => none

namespace UnitSystem

/-- The unit after a step: it has executed the command that the transport acknowledged. -/
def unitAfter (x : UnitSystem) (label : Label) : MockUnit :=
  match x.coordinator.writeOf label with
  | some (write, .accepted) =>
    match write.modeCommand with
    | some command => x.unit.execute x.coordinator.room command
    | none => x.unit
  | _ => x.unit

/-- **One step of the coordinator with its unit**: a read is answered by the unit, and an
acknowledged command is executed by it. -/
def step (x : UnitSystem) (label : Label) : Option UnitSystem :=
  if label.reply.all (fun reply => x.unit.answers reply.1) then
    (x.coordinator.step label).map fun t => ⟨t, x.unitAfter label⟩
  else none

/-- A coordinator that has not polled or written anything, of a unit in any state. -/
def Started (x : UnitSystem) : Prop :=
  x.coordinator.Started ∧ x.unit.Genuine x.coordinator.room

theorem step_eq_some {x y : UnitSystem} {label : Label} (h : x.step label = some y) :
    x.coordinator.step label = some y.coordinator ∧ y.unit = x.unitAfter label ∧
      ∀ reply replied, label.reply = some (reply, replied) → x.unit.answers reply = true := by
  obtain ⟨hanswers, h⟩ := Option.ite_none_right_eq_some.mp h
  obtain ⟨t, ht, rfl⟩ := Option.map_eq_some_iff.mp h
  refine ⟨ht, rfl, fun reply replied hreply => ?_⟩
  simpa [hreply] using hanswers

/-- A step that sends nothing leaves the unit alone. -/
theorem unitAfter_of_writeOf_none {x : UnitSystem} {label : Label}
    (h : x.coordinator.writeOf label = none) : x.unitAfter label = x.unit := by
  rw [unitAfter, h]

end UnitSystem

/-! ### What is read is in range -/

namespace RoomCoordinator

variable {s t u : RoomCoordinator} {label : Label} {state previous : RoomState}
  {write : PreparedWrite} {command : Command} {finished : Clock}

/-- Every level that the coordinator knows is a level of the unit. -/
structure LevelsInRange (s : RoomCoordinator) : Prop where
  data : ∀ state ∈ s.data, state.LevelsInRange s.room
  startup : ∀ state ∈ s.startup, state.LevelsInRange s.room
  pending : ∀ pending ∈ s.optimisticLevels,
    LevelInRange s.room pending.value.1 ∧ LevelInRange s.room pending.value.2

theorem LevelsInRange.polled (h : s.LevelsInRange) : s.state.LevelsInRange s.room := by
  rw [RoomCoordinator.state]
  rcases hdata : s.data with _ | state
  · exact levelsInRange_empty
  · exact h.data state hdata

theorem LevelsInRange.of_previous (h : s.LevelsInRange) (hprevious : s.Previous previous) :
    previous.LevelsInRange s.room := by
  rcases hprevious with rfl | ⟨-, hstartup⟩
  · exact h.polled
  · exact h.startup previous hstartup

theorem LevelsInRange.quiet (h : s.LevelsInRange) (hquiet : s.Quiet t) : t.LevelsInRange := by
  refine ⟨?_, ?_, ?_⟩ <;> rw [hquiet.room]
  · rw [hquiet.data]
    exact h.data
  · rw [hquiet.startup]
    exact h.startup
  · rcases hquiet.levels with hsame | hnone
    · rw [hsame]
      exact h.pending
    · rw [hnone]
      rintro _ ⟨⟩

/-- Where the exact target of a read comes from: it is kept, or register `41121` was read. -/
theorem readBalancedTarget_readback (s : RoomCoordinator) (state previous : RoomState)
    (target : TargetReply) :
    ∀ level ∈ (s.readBalancedTarget state previous target).2.balancedTargetReadback,
      level ∈ state.balancedTargetReadback ∨ level ∈ previous.balancedTargetReadback ∨
        level ∈ target.airflow s.room := by
  intro level hlevel
  unfold readBalancedTarget WriteConfirmations.prepareBalancedTargetReadback at hlevel
  split at hlevel
  · exact .inl hlevel
  · split at hlevel
    · rcases htarget : target.airflow s.room with _ | read
      · simp only [htarget] at hlevel
        exact .inl hlevel
      · simp only [htarget] at hlevel
        exact .inr (.inr hlevel)
    · split at hlevel
      · exact .inl hlevel
      · dsimp only at hlevel
        split at hlevel
        · rename_i hprevious _
          exact .inr (.inl (hprevious ▸ hlevel))
        · exact .inl hlevel

theorem levelsInRange_airflowRead {unit : MockUnit} {flow : BlockRead FlowRead}
    {mode : BlockRead ModeRead} (hunit : unit.Genuine room) (h : previous.LevelsInRange room)
    (hflow : flow.read?.all (· = ⟨unit.extractAirFlow, unit.supplyAirFlow⟩) = true)
    (clock : Clock) :
    ((AirflowRead.blocks flow mode).apply room clock previous).LevelsInRange room := by
  have happlied : (applyFlowRead previous flow.read?).LevelsInRange room := by
    rcases hread : flow.read? with _ | read
    · exact h
    · rw [hread] at hflow
      obtain rfl : read = ⟨unit.extractAirFlow, unit.supplyAirFlow⟩ := by simpa using hflow
      refine ⟨⟨?_, ?_⟩, h.targets, h.readback⟩
      all_goals rintro _ ⟨⟩
      · exact hunit.supplyAirFlow
      · exact hunit.extractAirFlow
  obtain ⟨hairflow, htargets, hreadback⟩ := happlied.applyModeRead mode.read?
  exact ⟨hairflow, htargets, hreadback⟩

/-- **What a read makes of the answers of the unit is in range.** -/
theorem LevelsInRange.applyReply {unit : MockUnit} {polled : Bool} {reply : PlanReply}
    (hunit : unit.Genuine s.room) (h : previous.LevelsInRange s.room)
    (hanswers : unit.answers reply = true) :
    (s.applyReply previous polled reply).2.LevelsInRange s.room := by
  have htarget : ∀ target : TargetReply, ∀ level ∈ target.airflow s.room,
      LevelInRange s.room level := by
    intro target level hlevel
    cases target with
    | failed => cases hlevel
    | value raw =>
      obtain ⟨hraw, hlevel⟩ := Option.ite_none_right_eq_some.mp hlevel
      cases hlevel
      exact levelInRange_scaleRawLevelToAirflow hraw
  cases reply with
  | settings read =>
    cases read with
    | quarantined => exact h
    | raised error => exact ⟨h.airflow, h.targets, h.readback⟩
    | block settings =>
      simp only [RoomCoordinator.applyReply, SettingsRead.apply]
      split
      · cases settings <;> exact ⟨h.airflow, h.targets, h.readback⟩
      · exact h
  | airflow read target =>
    have hread : (read.apply s.room s.clock previous).LevelsInRange s.room := by
      cases read with
      | quarantined => exact h
      | raised error => exact ⟨h.airflow, h.targets, h.readback⟩
      | blocks flow mode =>
        simp only [MockUnit.answers, Bool.and_eq_true] at hanswers
        exact levelsInRange_airflowRead hunit h hanswers.1.1 s.clock
    simp only [RoomCoordinator.applyReply]
    split
    · obtain ⟨-, readback, hstate⟩ :=
        s.readBalancedTarget_frame (read.apply s.room s.clock previous) previous target
      have hlevels :=
        s.readBalancedTarget_readback (read.apply s.room s.clock previous) previous target
      rw [hstate] at hlevels ⊢
      refine ⟨hread.airflow, hread.targets, fun level hlevel => ?_⟩
      -- The exact target is the one of the state, the carried one or the one just read.
      rcases hlevels level hlevel with hkept | hprevious | hnew
      · exact hread.readback level hkept
      · exact h.readback level hprevious
      · exact htarget target level hnew
    · exact hread

/-- A state that a step judges by is in range. -/
theorem LevelsInRange.source {unit : MockUnit} (h : s.LevelsInRange)
    (hunit : unit.Genuine s.room)
    (hanswers : ∀ reply replied, label.reply = some (reply, replied) →
      unit.answers reply = true)
    (hsource : s.Source label state finished) : state.LevelsInRange s.room := by
  rcases hsource with ⟨-, hprevious⟩ | ⟨-, previous, reply, replied, polled, hprevious, hreply,
    -, -, rfl⟩
  · exact h.of_previous hprevious
  · exact LevelsInRange.applyReply (s := s.atClock replied) hunit (h.of_previous hprevious)
      (hanswers reply replied hreply)

theorem inRange_of_get {pair : ℤ × ℤ} {confirmed : Option LevelPair} (h : s.LevelsInRange)
    (hget : levelsOverlay.get s.clock s.optimisticLevels confirmed = some pair) :
    LevelPair.InRange s.room (some pair.1, some pair.2) := by
  obtain ⟨pending, hpending, rfl, -⟩ := OverlayKind.get_eq_some hget
  obtain ⟨hsupply, hextract⟩ := h.pending pending hpending
  refine ⟨?_, ?_⟩
  all_goals rintro _ ⟨⟩
  · exact hsupply
  · exact hextract

theorem LevelsInRange.resolved (h : s.LevelsInRange) : s.resolveLevels.1.InRange s.room := by
  unfold resolveLevels
  split
  · exact .unknown
  · split
    · exact inRange_of_get h ‹_›
    · split
      · rename_i reported source hreported
        obtain ⟨state, hstate, hlevels⟩ := Option.map_eq_some_iff.mp hreported
        rcases reported with _ | reported
        · exact .unknown
        · exact levelsInRange_reportedLevels (h.data state hstate) (congrArg Prod.fst hlevels)
      · exact .unknown

theorem LevelsInRange.direction (h : s.LevelsInRange) : s.directionLevels.1.InRange s.room := by
  unfold directionLevels
  split
  · exact inRange_of_get h ‹_›
  · exact h.resolved

end RoomCoordinator

/-! ### What is sent is in range -/

/-- The levels that a command asks for are levels of the unit. -/
def Command.InRange (room : RoomConfig) : Command → Prop
  | .setLevel level | .setDirectionLevel _ level => LevelInRange room level
  | .setUnbalancedLevels supplyLevel extractLevel =>
    LevelInRange room supplyLevel ∧ LevelInRange room extractLevel
  | .setOperationMode _ | .setPresetMode _ | .clearPresetMode | .activateIntensive
  | .deactivateIntensive | .setControlSetting _ _ => True

instance (room : RoomConfig) (level : ℤ) : Decidable (LevelInRange room level) :=
  inferInstanceAs (Decidable (_ ∧ _))

instance (room : RoomConfig) : DecidablePred (Command.InRange room)
  | .setLevel level | .setDirectionLevel _ level =>
    inferInstanceAs (Decidable (LevelInRange room level))
  | .setUnbalancedLevels _ _ => inferInstanceAs (Decidable (_ ∧ _))
  | .setOperationMode _ | .setPresetMode _ | .clearPresetMode | .activateIntensive
  | .deactivateIntensive | .setControlSetting _ _ => isTrue trivial

namespace RoomCoordinator

variable {s t u : RoomCoordinator} {label : Label} {write : PreparedWrite} {command : Command}
  {sent : ModeCommand} {finished : Clock}

/-- **A command in range sends a command in range.** -/
theorem Sends.inRange (h : s.Sends command u write) (hs : s.LevelsInRange)
    (hcommand : command.InRange s.room) (hsent : write.modeCommand = some sent) :
    sent.InRange s.room := by
  have hsettled : s.settleUncertainFlow.LevelsInRange := hs.quiet (quiet_settleUncertainFlow s)
  induction h with
  | level level | directionBalanced direction level planned fallback hcertain hplan =>
    cases hsent
    first
      | exact hcommand
      | exact levelInRange_planDirectionWrite hsettled.direction hcommand hplan
  | unbalancedLevels supply extract =>
    cases hsent
    exact hcommand
  | directionPair direction level supply extract fallback hcertain hplan =>
    cases hsent
    exact levelInRange_planDirectionWrite hsettled.direction hcommand hplan
  | operationMode mode sent hne hmode hcertain =>
    cases hsent
    have hlevels := levelInRange_modeWriteLevels hsettled.polled hsettled.resolved
    have hgetD : ∀ level : Option ℤ, (∀ l ∈ level, LevelInRange s.room l) →
        LevelInRange s.room (level.getD 0) := by
      intro level hlevel
      cases level with
      | none => exact levelInRange_zero
      | some level => exact hlevel level rfl
    exact ⟨hgetD _ hlevels.supply, hgetD _ hlevels.extract⟩
  | presetMode preset =>
    cases hsent
    trivial
  | clearPresetMode preset t write hpreset hsends ih => exact ih trivial hsent
  | activateIntensive | deactivateIntensive =>
    cases hsent
    trivial
  | controlSetting key value hrange => cases hsent

/-! ### The steps keep the levels in range -/

/-- The levels that an airflow write shows as pending are those it sends. -/
theorem inRange_of_planned {supply extract : ℤ} (hplanned : write.Planned)
    (hexpected : write.expectedValue = .levels supply extract)
    (hsent : ∀ sent ∈ write.modeCommand, sent.InRange s.room) :
    LevelInRange s.room supply ∧ LevelInRange s.room extract := by
  cases hplanned <;> cases hexpected
  · exact ⟨hsent _ rfl, hsent _ rfl⟩
  · exact hsent _ rfl

/-- The end of a write keeps the levels in range. -/
theorem LevelsInRange.finishWrite (h : s.LevelsInRange) (hplanned : write.Planned)
    (hsent : ∀ sent ∈ write.modeCommand, sent.InRange s.room) (outcome : WriteOutcome) :
    (s.finishWrite write outcome).LevelsInRange ∧
      (s.finishWrite write outcome).room = s.room := by
  -- No outcome changes the states; it is the pending pair that has to be in range.
  have hkeep : ∀ t : RoomCoordinator, t.room = s.room → t.data = s.data → t.startup = s.startup →
      (∀ pending ∈ t.optimisticLevels,
        LevelInRange s.room pending.value.1 ∧ LevelInRange s.room pending.value.2) →
      t.LevelsInRange ∧ t.room = s.room := by
    intro t hroom hdata hstartup hpending
    refine ⟨⟨?_, ?_, ?_⟩, hroom⟩ <;> rw [hroom]
    · rw [hdata]
      exact h.data
    · rw [hstartup]
      exact h.startup
    · exact hpending
  have hnone : ∀ pending ∈ (none : Option (PendingValue (ℤ × ℤ))),
      LevelInRange s.room pending.value.1 ∧ LevelInRange s.room pending.value.2 := by
    rintro _ ⟨⟩
  unfold RoomCoordinator.finishWrite
  split
  · obtain ⟨hroom, -, hdata, hstartup, -, hlevels, -⟩ := accept_frame s write
    refine hkeep _ hroom hdata hstartup ?_
    rw [hlevels]
    split
    · rename_i supply extract hkey hexpected
      rintro pending ⟨⟩
      exact inRange_of_planned hplanned hexpected hsent
    · split
      · exact hnone
      · exact h.pending
  · rename_i error _
    obtain ⟨hroom, -, hdata, hstartup, -, hlevels, -⟩ := fail_frame s write error
    refine hkeep _ hroom hdata hstartup ?_
    rw [hlevels]
    split
    · exact hnone
    · exact h.pending
  · obtain ⟨hroom, -, hdata, hstartup, -, hkept, -⟩ := cancel_frame s write
    refine hkeep _ hroom hdata hstartup ?_
    rcases hkept.levels with hsame | hdropped
    · rw [hsame]
      exact h.pending
    · rw [hdropped]
      exact hnone

/-- A judging state that is in range keeps the levels in range. -/
theorem LevelsInRange.judged {state : RoomState} (h : s.LevelsInRange)
    (hstate : state.LevelsInRange s.room) (hjudged : s.Judged label state t) :
    t.LevelsInRange := by
  refine ⟨?_, ?_, ?_⟩ <;> rw [hjudged.room]
  · rcases hjudged.data with hdata | ⟨hdata, -⟩ <;> rw [hdata]
    · rintro _ ⟨⟩
      exact hstate
    · rintro _ ⟨⟩
  · rcases hjudged.startup with hstartup | hstartup <;> rw [hstartup]
    · rintro _ ⟨⟩
    · exact h.startup
  · intro pending hpending
    rw [hjudged.levels] at hpending
    exact h.pending pending (OverlayKind.settleIfRead_eq_some.mp hpending).1

end RoomCoordinator

/-- The levels of the command of a step are levels of the unit. -/
def Label.InRange (room : RoomConfig) : Label → Prop
  | .command asked _ _ => asked.InRange room
  | _ => True

instance (room : RoomConfig) : DecidablePred (Label.InRange room)
  | .command asked _ _ => inferInstanceAs (Decidable (asked.InRange room))
  | .elapse _ | .expire _ | .queryLevels | .readBack _ _ _ | .cancelReadBack
  | .poll _ _ _ _ | .otherPoll _ _ | .otherReadBack _ => isTrue trivial

namespace UnitSystem

/-- **The unit is genuine, and every known level is one of its levels.** -/
structure InRange (x : UnitSystem) : Prop where
  genuine : x.unit.Genuine x.coordinator.room
  levels : x.coordinator.LevelsInRange

variable {x y : UnitSystem} {label : Label}

theorem Started.inRange (h : x.Started) : x.InRange := by
  obtain ⟨⟨room, clock, hs⟩, hgenuine⟩ := h
  refine ⟨hgenuine, ?_⟩
  rw [hs]
  refine ⟨?_, ?_, ?_⟩ <;> rintro _ ⟨⟩

/-- Whatever is sent, the unit stays genuine. -/
theorem genuine_unitAfter {room : RoomConfig} (hroom : x.coordinator.room = room)
    (h : x.unit.Genuine room) (label : Label) : (x.unitAfter label).Genuine room := by
  unfold unitAfter
  split
  · split
    · rw [hroom]
      exact h.execute _
    · exact h
  · exact h

/-- **Every step keeps the levels in range.** -/
theorem InRange.step (h : x.InRange) (hlabel : label.InRange x.coordinator.room)
    (hstep : x.step label = some y) : y.InRange ∧ y.coordinator.room = x.coordinator.room := by
  obtain ⟨hcoordinator, hunit, hanswers⟩ := step_eq_some hstep
  suffices hlevels : y.coordinator.LevelsInRange ∧ y.coordinator.room = x.coordinator.room by
    refine ⟨⟨?_, hlevels.1⟩, hlevels.2⟩
    rw [hunit, hlevels.2]
    exact genuine_unitAfter rfl h.genuine label
  -- The unit answers with levels in range, and a judged read shows no others.
  have hjudge : ∀ {state t}, x.coordinator.Judged label state t →
      t.LevelsInRange ∧ t.room = x.coordinator.room := fun hjudged =>
    ⟨h.levels.judged (h.levels.source h.genuine hanswers hjudged.source) hjudged, hjudged.room⟩
  rcases x.coordinator.step_cases hcoordinator with ⟨command, outcome, finished, u, write, rfl,
    hle, hprepare, hwrite, heq⟩ | ⟨hwrite, ⟨-, hquiet⟩ | ⟨state, hjudged⟩ |
      ⟨state, u, write, hjudged, -, heq⟩ | hstartup⟩
  · obtain ⟨hquiet, hplanned⟩ : x.coordinator.Quiet u ∧ write.Planned := by
      have hsound := x.coordinator.sound_prepare command
      rwa [hprepare] at hsound
    have hu := h.levels.quiet (hquiet.atClock hle)
    have hroom : (u.atClock finished).room = x.coordinator.room := hquiet.room
    have hsent : ∀ sent ∈ write.modeCommand, sent.InRange (u.atClock finished).room := by
      intro sent hsent
      rw [hroom]
      exact (sends_of_prepare hprepare).inRange h.levels hlabel hsent
    rw [heq, ← hroom]
    exact hu.finishWrite hplanned hsent outcome
  · exact ⟨h.levels.quiet hquiet, hquiet.room⟩
  · exact hjudge hjudged
  · obtain ⟨hlevels, hroom⟩ := hjudge hjudged
    obtain ⟨hroom', -, hdata, hstartup, -, hkept⟩ := finishReadBack_frame u write
    rw [heq]
    refine ⟨⟨?_, ?_, ?_⟩, hroom'.trans hroom⟩ <;> rw [hroom']
    · rw [hdata]
      exact hlevels.data
    · rw [hstartup]
      exact hlevels.startup
    · rcases hkept.levels with hsame | hnone
      · rw [hsame]
        exact hlevels.pending
      · rw [hnone]
        rintro _ ⟨⟩
  · refine ⟨⟨?_, ?_, ?_⟩, hstartup.room⟩ <;> rw [hstartup.room]
    · rw [hstartup.data]
      exact h.levels.data
    · exact fun state hstate =>
        h.levels.source h.genuine hanswers (hstartup.startupSource state hstate)
    · rw [hstartup.levels]
      exact h.levels.pending

end UnitSystem

end MeltemVentilation
