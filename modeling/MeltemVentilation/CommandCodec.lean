import MeltemVentilation.Levels
import MeltemVentilation.MockModel

/-!
# What the unit shows after a run of mode commands

The encoder of `ModeCodec`, the simulated unit of `MockModel` and the decoder
`applyModeRead` use three encodings of the same thing. This file puts one abstract state
under the three: a *base mode* `BaseMode`, which is what a base command asks for, and a flag
that says whether intensive is requested.

* `ModeCommand.writes_of_baseMode` and `ModeCommand.writes_of_requestsIntensive` factor the
  encoder through it: a base command writes the registers of its base mode
  (`BaseMode.registers`), in front of them possibly the two shadow registers, and nothing
  else writes base registers.
* `MockUnit.Holds` relates a unit to the abstract state, and one command keeps the relation
  (`MockUnit.Holds.execute`).
* `applyModeRead_of_holds` reads the abstract state back out of the status map, exactly:
  the two roundings of a level cancel (`scaleRawLevelToAirflow_scaleAirflowToRaw`).

The base mode is not lost while intensive runs, although the status map does not show it: it
stays in the set registers, and the unit shows it again once the override is cleared.
-/

namespace MeltemVentilation

variable {room : RoomConfig} {unit : MockUnit} {command : ModeCommand}

/-! ### The round trip of a level -/

theorem profileMaxAirflow_pos (profile : Profile) : 0 < profileMaxAirflow profile := by
  cases profile <;> decide

theorem profileMaxAirflow_le (profile : Profile) : profileMaxAirflow profile ≤ 100 := by
  cases profile <;> decide

/-- Whether a level can be commanded: between 0 and the profile maximum. -/
def LevelInRange (room : RoomConfig) (level : ℤ) : Prop :=
  0 ≤ level ∧ level ≤ profileMaxAirflow room.profile

/-- The clamp of the encoder does nothing to a level in range. -/
theorem scaleAirflowToRaw_cast {level : ℤ} (h : LevelInRange room level) :
    (scaleAirflowToRaw room level : ℤ) =
      HalfEven.round (level * 200) (profileMaxAirflow room.profile) := by
  have hpos := profileMaxAirflow_pos room.profile
  have hclose := HalfEven.two_mul_abs_le (n := level * 200) hpos
  obtain ⟨h0, hmax⟩ := h
  set scale := profileMaxAirflow room.profile
  set raw := HalfEven.round (level * 200) scale
  have hlow := (abs_le.mp (Int.le_ediv_of_mul_le two_pos (by omega) :
    |scale * raw - level * 200| ≤ scale / 2)).1
  have hhigh := (abs_le.mp (Int.le_ediv_of_mul_le two_pos (by omega) :
    |scale * raw - level * 200| ≤ scale / 2)).2
  have hraw : 0 ≤ raw := by
    by_contra hneg
    have : scale * raw ≤ scale * (-1) := mul_le_mul_of_nonneg_left (by omega) hpos.le
    omega
  have hraw' : raw ≤ 200 := by
    by_contra hgt
    have : scale * 201 ≤ scale * raw := mul_le_mul_of_nonneg_left (by omega) hpos.le
    omega
  have hclamp : max 0 (min 200 raw) = raw := by omega
  rw [scaleAirflowToRaw, hclamp, Int.toNat_of_nonneg hraw]

theorem scaleAirflowToRaw_le (room : RoomConfig) (level : ℤ) :
    scaleAirflowToRaw room level ≤ 200 := by
  unfold scaleAirflowToRaw
  omega

/-- **Decoding a commanded level gives it back exactly.** One raw step is at least half a
m³/h, so the rounding of the encoder errs by less than half a m³/h. -/
theorem scaleRawLevelToAirflow_scaleAirflowToRaw {level : ℤ} (h : LevelInRange room level) :
    scaleRawLevelToAirflow room (scaleAirflowToRaw room level) = level := by
  have hpos := profileMaxAirflow_pos room.profile
  have hle := profileMaxAirflow_le room.profile
  have hclose := HalfEven.two_mul_abs_le (n := level * 200) hpos
  refine HalfEven.eq_of_close (by norm_num) ?_
  rw [scaleAirflowToRaw_cast h, mul_comm 200, mul_comm (HalfEven.round _ _), abs_sub_comm]
  omega

theorem scaleAirflowToRaw_zero : scaleAirflowToRaw room 0 = 0 := by
  have h : LevelInRange room 0 := ⟨le_refl 0, (profileMaxAirflow_pos _).le⟩
  have := HalfEven.round_mul_left (profileMaxAirflow_pos room.profile) 0
  rw [← Int.natCast_inj, scaleAirflowToRaw_cast h]
  simpa using this

/-! ### The abstract state -/

/-- What a base command asks for. A sensor or quick mode comes with its raw code, so that
only modes with an encoding are base modes. -/
inductive BaseMode where
  | off
  | manual (level : ℤ)
  | unbalanced (supply extract : ℤ)
  | sensor (mode : OperationMode) (value : ℕ) (h : sensorModeToRawValue mode = some value)
  | quick (preset : PresetMode) (rawCode : ℕ)
      (h : presetModeToRawCode preset = some rawCode) (hne : preset ≠ .intensive)
deriving DecidableEq

namespace BaseMode

/-- The operating mode that the unit then reports. -/
def operationMode : BaseMode → OperationMode
  | .off => .off
  | .manual _ | .quick _ _ _ _ => .manual
  | .unbalanced _ _ => .unbalanced
  | .sensor mode _ _ => mode

/-- The supply and extract targets, for the base modes that carry them. -/
def targets : BaseMode → Option (ℤ × ℤ)
  | .off => some (0, 0)
  | .manual level => some (level, level)
  | .unbalanced supply extract => some (supply, extract)
  | .sensor _ _ _ | .quick _ _ _ _ => none

/-- The quick mode. -/
def presetMode : BaseMode → Option PresetMode
  | .quick preset _ _ _ => some preset
  | .off | .manual _ | .unbalanced _ _ | .sensor _ _ _ => none

/-- The base registers and what they hold in a base mode. -/
def registers (room : RoomConfig) : BaseMode → List (ModeRegister × ℕ)
  | .off => [(.mode, modeOff), (.currentLevel, 0)]
  | .manual level => [(.mode, modeManual), (.currentLevel, scaleAirflowToRaw room level)]
  | .unbalanced supply extract =>
    [(.mode, modeUnbalanced), (.currentLevel, scaleAirflowToRaw room supply),
      (.extractTargetLevel, scaleAirflowToRaw room extract)]
  | .sensor _ value _ => [(.mode, modeSensorControl), (.currentLevel, value)]
  | .quick _ rawCode _ _ => [(.mode, modeManual), (.currentLevel, rawCode)]

/-- The targets are levels of the unit. -/
def InRange (room : RoomConfig) (base : BaseMode) : Prop :=
  ∀ levels ∈ base.targets, LevelInRange room levels.1 ∧ LevelInRange room levels.2

end BaseMode

namespace ModeCommand

/-- The base mode a base command asks for; `none` for the other commands. -/
def baseMode : ModeCommand → Option BaseMode
  | .writeLevel level => some (if level = 0 then .off else .manual level)
  | .writeUnbalancedLevels supply extract => some (.unbalanced supply extract)
  | .writeOperatingMode .off _ _ => some .off
  | .writeOperatingMode .manual balanced _ => some (.manual balanced)
  | .writeOperatingMode .unbalanced balanced extract => some (.unbalanced balanced extract)
  | .writeOperatingMode .humidityControl _ _ => some (.sensor .humidityControl 112 rfl)
  | .writeOperatingMode .co2Control _ _ => some (.sensor .co2Control 144 rfl)
  | .writeOperatingMode .automatic _ _ => some (.sensor .automatic 16 rfl)
  | .writeOperatingMode .inactive _ _ => none
  | .writePresetMode .low => some (.quick .low 228 rfl (by decide))
  | .writePresetMode .medium => some (.quick .medium 229 rfl (by decide))
  | .writePresetMode .high => some (.quick .high 230 rfl (by decide))
  | .writePresetMode _ => none
  | .clearIntensive => none

/-- What a command asks of the intensive override: to run, to end, or nothing. -/
def requestsIntensive : ModeCommand → Option Bool
  | .writePresetMode .intensive => some true
  | .writePresetMode .low | .writePresetMode .medium | .writePresetMode .high
  | .writeOperatingMode .off _ _ | .clearIntensive => some false
  | .writeLevel level => if level = 0 then some false else none
  | .writeUnbalancedLevels _ _ | .writeOperatingMode _ _ _ | .writePresetMode _ => none

/-- The levels of a command are levels of the unit. -/
def InRange (room : RoomConfig) : ModeCommand → Prop
  | .writeLevel level => LevelInRange room level
  | .writeUnbalancedLevels supply extract =>
    LevelInRange room supply ∧ LevelInRange room extract
  | .writeOperatingMode _ balanced extract =>
    LevelInRange room balanced ∧ LevelInRange room extract
  | .writePresetMode _ | .clearIntensive => True

/-- The writes of the shadow registers for a request. -/
def shadowWrites : Option Bool → List (ModeRegister × ℕ)
  | some true => [(.presetMode, modeManual), (.presetValue, presetModeCodeIntensive)]
  | some false => clearIntensiveWrites
  | none => []

/-- **The encoder of a base command**: the shadow registers it clears, then the registers of
its base mode. -/
theorem writes_of_baseMode {base : BaseMode} (h : command.baseMode = some base) :
    command.writes room =
      .ok (shadowWrites command.requestsIntensive ++ base.registers room) := by
  cases command with
  | writeLevel level =>
    by_cases hlevel : level = 0
    · obtain rfl : BaseMode.off = base := by simpa [baseMode, hlevel] using h
      simp [writes, writeLevelWrites, requestsIntensive, shadowWrites, BaseMode.registers,
        hlevel, scaleAirflowToRaw_zero]
    · obtain rfl : BaseMode.manual level = base := by simpa [baseMode, hlevel] using h
      simp [writes, writeLevelWrites, requestsIntensive, shadowWrites, BaseMode.registers,
        hlevel]
  | writeUnbalancedLevels supply extract => cases h; rfl
  | writeOperatingMode mode balanced extract => cases mode <;> cases h <;> rfl
  | writePresetMode preset => cases preset <;> cases h <;> rfl
  | clearIntensive => cases h

/-- **The encoder of the other commands**: only the shadow registers, or an error. -/
theorem writes_of_requestsIntensive (room : RoomConfig) (h : command.baseMode = none) :
    (∃ active, command.requestsIntensive = some active ∧
        command.writes room = .ok (shadowWrites (some active))) ∨
      (command.requestsIntensive = none ∧ ∃ error, command.writes room = .error error) := by
  cases command with
  | writeLevel level => cases h
  | writeUnbalancedLevels supply extract => cases h
  | writeOperatingMode mode balanced extract =>
    cases mode <;> first | exact .inr ⟨rfl, _, rfl⟩ | cases h
  | writePresetMode preset =>
    cases preset <;>
      first | exact .inr ⟨rfl, _, rfl⟩ | exact .inl ⟨_, rfl, rfl⟩ | cases h
  | clearIntensive => exact .inl ⟨false, rfl, rfl⟩

/-- A command in range asks for a base mode in range. -/
theorem InRange.baseMode {base : BaseMode} (hrange : command.InRange room)
    (h : command.baseMode = some base) : base.InRange room := by
  have h0 : LevelInRange room 0 := ⟨le_refl 0, (profileMaxAirflow_pos _).le⟩
  cases command with
  | writeLevel level =>
    by_cases hlevel : level = 0
    · obtain rfl : BaseMode.off = base := by simpa [ModeCommand.baseMode, hlevel] using h
      rintro _ ⟨⟩
      exact ⟨h0, h0⟩
    · obtain rfl : BaseMode.manual level = base := by
        simpa [ModeCommand.baseMode, hlevel] using h
      rintro _ ⟨⟩
      exact ⟨hrange, hrange⟩
  | writeUnbalancedLevels supply extract =>
    cases h
    rintro _ ⟨⟩
    exact hrange
  | writeOperatingMode mode balanced extract =>
    cases mode <;> cases h <;> rintro _ ⟨⟩
    · exact ⟨h0, h0⟩
    · exact ⟨hrange.1, hrange.1⟩
    · exact hrange
  | writePresetMode preset => cases preset <;> cases h <;> rintro _ ⟨⟩
  | clearIntensive => cases h

end ModeCommand

/-! ### The unit holds the abstract state -/

/-- The registers of a base mode hold its values. -/
def MockUnit.HoldsBase (room : RoomConfig) (unit : MockUnit) (base : BaseMode) : Prop :=
  ∀ write ∈ base.registers room, unit.set write.1 = write.2

/-- A unit that has executed commands: its status map shows its set registers, these hold
the base mode `base`, if there has been a base command, and the shadow registers ask for
intensive exactly when `intensive` says so. -/
structure MockUnit.Holds (room : RoomConfig) (unit : MockUnit) (base : Option BaseMode)
    (intensive : Bool) : Prop where
  runsIntensive : unit.runsIntensive = intensive
  holdsBase : ∀ b ∈ base, unit.HoldsBase room b
  status : ∀ b ∈ base, unit.status = unit.modeUpdates.1

theorem MockUnit.runsIntensive_commit (unit : MockUnit) :
    unit.commit.runsIntensive = unit.runsIntensive := rfl

/-- The registers of a base mode can be written one after the other. -/
theorem MockUnit.holdsBase_foldl (unit : MockUnit) (base : BaseMode) :
    ((base.registers room).foldl MockUnit.write unit).HoldsBase room base := by
  cases base <;> simp [HoldsBase, BaseMode.registers, MockUnit.write, Function.update]

/-- The base registers are not shadow registers, and the other way around. -/
theorem MockUnit.runsIntensive_foldl_registers (unit : MockUnit) (base : BaseMode) :
    ((base.registers room).foldl MockUnit.write unit).runsIntensive = unit.runsIntensive := by
  cases base <;> simp [runsIntensive, BaseMode.registers, MockUnit.write, Function.update]

theorem MockUnit.holdsBase_foldl_shadowWrites {base : BaseMode}
    (h : unit.HoldsBase room base) (request : Option Bool) :
    ((ModeCommand.shadowWrites request).foldl MockUnit.write unit).HoldsBase room base := by
  intro write hwrite
  have hne : write.1 ≠ .presetMode ∧ write.1 ≠ .presetValue := by
    cases base <;> simp [BaseMode.registers] at hwrite <;> rcases hwrite with rfl | rfl | rfl <;>
      simp
  rw [← h write hwrite]
  match request with
  | none => rfl
  | some true | some false =>
    simp [ModeCommand.shadowWrites, clearIntensiveWrites, MockUnit.write, Function.update, hne]

theorem MockUnit.runsIntensive_foldl_shadowWrites (unit : MockUnit) (request : Option Bool) :
    ((ModeCommand.shadowWrites request).foldl MockUnit.write unit).runsIntensive =
      request.getD unit.runsIntensive := by
  match request with
  | none => rfl
  | some true | some false => rfl

/-- **One command keeps the relation**: the abstract state takes over what the command
asks for, and keeps the rest. -/
theorem MockUnit.Holds.execute {base : Option BaseMode} {intensive : Bool}
    (h : unit.Holds room base intensive) (command : ModeCommand) :
    (unit.execute room command).Holds room (command.baseMode.or base)
      (command.requestsIntensive.getD intensive) := by
  rcases hbase : command.baseMode with _ | commanded
  · rcases ModeCommand.writes_of_requestsIntensive room hbase with
      ⟨active, hactive, hwrites⟩ | ⟨hnone, error, hwrites⟩
    · simp only [MockUnit.execute, hwrites, hactive, Option.none_or, Option.getD_some]
      refine ⟨?_, fun b hb => ?_, fun b hb => rfl⟩
      · exact runsIntensive_foldl_shadowWrites unit (some active)
      · exact holdsBase_foldl_shadowWrites (h.holdsBase b hb) _
    · simpa [MockUnit.execute, hwrites, hnone] using h
  · simp only [MockUnit.execute, ModeCommand.writes_of_baseMode hbase, List.foldl_append]
    refine ⟨?_, ?_, fun b hb => rfl⟩
    · rw [runsIntensive_commit, runsIntensive_foldl_registers,
        runsIntensive_foldl_shadowWrites, h.runsIntensive]
    · rintro b ⟨⟩
      exact holdsBase_foldl _ _

/-! ### The decoder reads the abstract state back -/

/-- The status map of a unit in a base mode. -/
def BaseMode.status (room : RoomConfig) : BaseMode → ModeRead
  | .off => ⟨modeOff, 0, 0⟩
  | .manual level =>
    ⟨modeManual, scaleAirflowToRaw room level, scaleAirflowToRaw room level⟩
  | .unbalanced supply extract =>
    ⟨modeUnbalanced, scaleAirflowToRaw room supply, scaleAirflowToRaw room extract⟩
  | .sensor _ value _ => ⟨modeSensorControl, value ||| 0x20, value ||| 0x20⟩
  | .quick _ rawCode _ _ => ⟨modeManual, rawCode, rawCode⟩

/-- A unit without intensive shows its base mode. -/
theorem MockUnit.HoldsBase.status {base : BaseMode} (h : unit.HoldsBase room base)
    (hrun : unit.runsIntensive = false) : unit.modeUpdates.1 = base.status room := by
  cases base <;>
    simp_all [HoldsBase, BaseMode.registers, BaseMode.status, MockUnit.modeUpdates,
      modeSensorControl, modeOff, modeUnbalanced, modeManual]

/-- A unit with intensive shows that, whatever its base registers hold. -/
theorem MockUnit.modeUpdates_of_runsIntensive (hrun : unit.runsIntensive = true) :
    unit.modeUpdates.1 = ⟨modeManual, presetModeCodeIntensive, presetModeCodeIntensive⟩ := by
  simp [MockUnit.modeUpdates, hrun]

/-- A state that shows a base mode. -/
structure RoomState.ShowsBase (state : RoomState) (base : BaseMode) : Prop where
  operationMode : state.operationMode = some base.operationMode
  presetMode : state.presetMode = base.presetMode
  targetLevel : ∀ levels ∈ base.targets, state.targetLevel = some levels.1
  targetLevels : ∀ levels ∈ base.targets,
    targetLevels state false = (some levels.1, some levels.2)

theorem rawCodeToPresetMode_of_code {preset : PresetMode} {rawCode : ℕ}
    (h : presetModeToRawCode preset = some rawCode) :
    rawCodeToPresetMode rawCode = some preset := by
  cases preset <;> cases h <;> rfl

/-- A scaled level is not a quick-mode code. -/
theorem rawCodeToPresetMode_scale (room : RoomConfig) (level : ℤ) :
    rawCodeToPresetMode (scaleAirflowToRaw room level) = none := by
  have hle := scaleAirflowToRaw_le room level
  generalize scaleAirflowToRaw room level = raw at hle
  unfold rawCodeToPresetMode
  split <;> first | rfl | omega

theorem decodeTargetLevel_scale {level : ℤ} (h : LevelInRange room level) :
    decodeTargetLevel room (some (scaleAirflowToRaw room level)) = some level := by
  simp [decodeTargetLevel, scaleAirflowToRaw_le, scaleRawLevelToAirflow_scaleAirflowToRaw h]

/-- A manual or unbalanced target in range does not look like intensive. -/
theorem scaleAirflowToRaw_ne_intensive (room : RoomConfig) (level : ℤ) :
    scaleAirflowToRaw room level ≠ presetModeCodeIntensive := by
  have := scaleAirflowToRaw_le room level
  simp only [presetModeCodeIntensive]
  omega

/-- **A status read of a base mode gives the base mode**, whatever was known before. -/
theorem applyModeRead_status (state : RoomState) {base : BaseMode} (h : base.InRange room) :
    (applyModeRead room state (some (base.status room))).intensiveActive = some false ∧
      (applyModeRead room state (some (base.status room))).ShowsBase base := by
  cases base with
  | off =>
    -- The level words of a unit that is off are zero, which has to decode to level 0.
    have hzero : decodeTargetLevel room (some (scaleAirflowToRaw room 0)) = some 0 :=
      decodeTargetLevel_scale (h _ rfl).1
    rw [scaleAirflowToRaw_zero] at hzero
    refine ⟨rfl, rfl, rfl, ?_, ?_⟩
    · rintro _ ⟨⟩
      simp [applyModeRead, BaseMode.status, decodeSensorSubcode, modeStatusReportsIntensive,
        decodeOperationMode, decodeTargets, modeOff, modeSensorControl, modeManual, hzero]
    · rintro _ ⟨⟩
      rfl
  | manual level =>
    -- A level has another code than intensive, so the map is not taken for a boosted unit.
    have hne := scaleAirflowToRaw_ne_intensive room level
    have hlevel := decodeTargetLevel_scale (h _ rfl).1
    have hpreset := rawCodeToPresetMode_scale room level
    refine ⟨?_, ?_, ?_, ?_, ?_⟩
    all_goals try rintro _ ⟨⟩
    all_goals
      simp [applyModeRead, BaseMode.status, decodeSensorSubcode, modeStatusReportsIntensive,
        decodeOperationMode, decodeTargets, decodePresetMode, targetLevels, modeOff,
        modeSensorControl, modeManual, modeUnbalanced, BaseMode.operationMode,
        BaseMode.presetMode, hne, hlevel, hpreset]
  | unbalanced supply extract =>
    have hsupply := decodeTargetLevel_scale (h _ rfl).1
    have hextract := decodeTargetLevel_scale (h _ rfl).2
    -- Scaled levels stay below the base of the presets, so neither word is taken for one.
    have hle := (scaleAirflowToRaw_le room supply).not_gt
    have hle' := (scaleAirflowToRaw_le room extract).not_gt
    refine ⟨?_, ?_, ?_, ?_, ?_⟩
    all_goals try rintro _ ⟨⟩
    all_goals
      simp [applyModeRead, BaseMode.status, decodeSensorSubcode, modeStatusReportsIntensive,
        decodeOperationMode, decodeTargets, decodePresetMode, targetLevels, modeOff,
        modeSensorControl, modeManual, modeUnbalanced, BaseMode.operationMode,
        BaseMode.presetMode, appUnbalancedPresetBase, hle, hle', hsupply, hextract]
  | sensor mode value hvalue =>
    -- A sensor mode is told by its subcode and shows neither targets nor a preset.
    cases mode <;> cases hvalue <;> exact ⟨rfl, rfl, rfl, by rintro _ ⟨⟩, by rintro _ ⟨⟩⟩
  | quick preset rawCode hcode hne =>
    have hpreset := rawCodeToPresetMode_of_code hcode
    have hcode' : rawCode ≠ presetModeCodeIntensive := by
      rintro rfl
      cases preset <;> simp [presetModeToRawCode, presetModeCodeIntensive] at hcode hne
    refine ⟨?_, ?_, ?_, by rintro _ ⟨⟩, by rintro _ ⟨⟩⟩
    all_goals
      simp [applyModeRead, BaseMode.status, decodeSensorSubcode, modeStatusReportsIntensive,
        decodeOperationMode, decodePresetMode, modeOff, modeSensorControl, modeManual,
        modeUnbalanced, BaseMode.operationMode, BaseMode.presetMode, hcode', hpreset]

/-- **A status read of a unit shows its abstract state.** -/
theorem MockUnit.Holds.applyModeRead {base : BaseMode} {intensive : Bool}
    (h : unit.Holds room (some base) intensive) (hrange : base.InRange room)
    (state : RoomState) :
    (applyModeRead room state (some unit.status)).intensiveActive = some intensive ∧
      (intensive = false →
        (MeltemVentilation.applyModeRead room state (some unit.status)).ShowsBase base) := by
  rw [h.status base rfl]
  cases intensive with
  | true =>
    rw [modeUpdates_of_runsIntensive h.runsIntensive]
    exact ⟨rfl, by rintro ⟨⟩⟩
  | false =>
    rw [(h.holdsBase base rfl).status h.runsIntensive]
    have hread := applyModeRead_status state hrange
    exact ⟨hread.1, fun _ => hread.2⟩

/-! ### Runs of commands -/

/-- A unit after a list of commands. -/
def MockUnit.executeAll (room : RoomConfig) (unit : MockUnit) (commands : List ModeCommand) :
    MockUnit :=
  commands.foldl (fun unit command => unit.execute room command) unit

/-- The base mode of the last base command. -/
def lastBaseMode (commands : List ModeCommand) : Option BaseMode :=
  commands.reverse.findSome? ModeCommand.baseMode

/-- What the last command that wrote the shadow registers asked of intensive. -/
def lastIntensiveRequest (commands : List ModeCommand) : Option Bool :=
  commands.reverse.findSome? ModeCommand.requestsIntensive

/-- **The relation holds along a run**, from a unit in any state. -/
theorem MockUnit.holds_executeAll (room : RoomConfig) (unit : MockUnit)
    (commands : List ModeCommand) :
    (unit.executeAll room commands).Holds room (lastBaseMode commands)
      ((lastIntensiveRequest commands).getD unit.runsIntensive) := by
  induction commands using List.reverseRecOn with
  | nil => exact ⟨rfl, by rintro _ ⟨⟩, by rintro _ ⟨⟩⟩
  | append_singleton commands command ih =>
    have h := ih.execute command
    have hbase : lastBaseMode (commands ++ [command]) =
        command.baseMode.or (lastBaseMode commands) := by
      cases hb : command.baseMode <;> simp [lastBaseMode, hb]
    have hrequest : (lastIntensiveRequest (commands ++ [command])).getD unit.runsIntensive =
        command.requestsIntensive.getD
          ((lastIntensiveRequest commands).getD unit.runsIntensive) := by
      cases hr : command.requestsIntensive <;> simp [lastIntensiveRequest, hr]
    rw [hbase, hrequest]
    simpa [executeAll] using h

/-- The last base mode of commands in range is in range. -/
theorem inRange_of_lastBaseMode {commands : List ModeCommand} {base : BaseMode}
    (hrange : ∀ command ∈ commands, command.InRange room)
    (h : lastBaseMode commands = some base) : base.InRange room := by
  obtain ⟨command, hmem, hbase⟩ := List.exists_of_findSome?_eq_some h
  exact (hrange command (List.mem_reverse.mp hmem)).baseMode hbase

/-- A run that starts with a base command has a last base command. -/
theorem exists_lastBaseMode {first : ModeCommand} (h : first.baseMode.isSome)
    (rest : List ModeCommand) : ∃ base, lastBaseMode (first :: rest) = some base := by
  obtain ⟨base, hbase⟩ := Option.isSome_iff_exists.mp h
  rw [← Option.isSome_iff_exists, lastBaseMode, List.findSome?_isSome_iff]
  exact ⟨first, by simp, by simp [hbase]⟩

/-- **Encoder, unit and decoder agree.** After every run of mode commands on a new unit that
starts with a base command, a status read reports intensive exactly when the last command
that wrote the shadow registers activated it, and otherwise the operating mode, the quick
mode and the exact targets of the last base command. -/
theorem applyModeRead_executeAll (room : RoomConfig) (first : ModeCommand)
    (rest : List ModeCommand) (state : RoomState) (hfirst : first.baseMode.isSome)
    (hrange : ∀ command ∈ first :: rest, command.InRange room) :
    let unit := (newUnit room.profile).executeAll room (first :: rest)
    let read := applyModeRead room state (some unit.status)
    (read.intensiveActive = some true ↔ lastIntensiveRequest (first :: rest) = some true) ∧
      (read.intensiveActive ≠ some true →
        ∃ base, lastBaseMode (first :: rest) = some base ∧ read.ShowsBase base) := by
  obtain ⟨base, hbase⟩ := exists_lastBaseMode hfirst rest
  have h := MockUnit.holds_executeAll room (newUnit room.profile) (first :: rest)
  have hstart : (newUnit room.profile).runsIntensive = false := rfl
  rw [hbase, hstart] at h
  obtain ⟨hactive, hshows⟩ := h.applyModeRead (inRange_of_lastBaseMode hrange hbase) state
  refine ⟨?_, fun hne => ⟨base, hbase, hshows ?_⟩⟩
  · rw [hactive]
    cases lastIntensiveRequest (first :: rest) <;> simp
  · rw [hactive] at hne
    simpa using hne

/-- A unit of the first model series, as a test room. -/
def sampleRoom : RoomConfig := ⟨"slave_2", "Living room", .sFc, 2⟩

theorem applyModeRead_executeAll_hidden :
    let commands := [ModeCommand.writeUnbalancedLevels 30 50, .writePresetMode .intensive]
    let unit := (newUnit .sFc).executeAll sampleRoom commands
    let read := applyModeRead sampleRoom emptyRoomState (some unit.status)
    (read.intensiveActive = some true ↔ lastIntensiveRequest commands = some true) ∧
      (read.intensiveActive ≠ some true →
        ∃ base, lastBaseMode commands = some base ∧ read.ShowsBase base) :=
  applyModeRead_executeAll sampleRoom (.writeUnbalancedLevels 30 50)
    [.writePresetMode .intensive] emptyRoomState rfl
    (by simp [ModeCommand.InRange, LevelInRange, sampleRoom, profileMaxAirflow])

end MeltemVentilation
