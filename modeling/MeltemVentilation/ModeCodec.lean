import MeltemVentilation.Lib.Rounding
import MeltemVentilation.Models

/-!
# Mode commands and the mode status map

The pure functions of `mode_codec.py`: the register writes of a mode or quick-mode command,
the scaling between m³/h and the raw `0..200` of the set registers, and the decoding of the
read-only status map `41100..41102`.

The decoder `applyModeRead` has one branch that everything about the intensive override
goes back to: a status map that reports intensive hides the base mode, so the last known
mode, targets and quick mode stay in the state and only `intensiveActive` is set.
-/

namespace MeltemVentilation

/-- The name of an operating mode in the source. -/
def OperationMode.value : OperationMode → String
  | .inactive => "inactive"
  | .off => "off"
  | .manual => "manual"
  | .unbalanced => "unbalanced"
  | .humidityControl => "humidity_control"
  | .co2Control => "co2_control"
  | .automatic => "automatic"

/-- The name of a quick mode in the source. -/
def PresetMode.value : PresetMode → String
  | .inactive => "inactive"
  | .low => "low"
  | .medium => "medium"
  | .high => "high"
  | .intensive => "intensive"
  | .extractOnly => "extract_only"
  | .supplyOnly => "supply_only"

/-! ### Scaling -/

/-- `scale_airflow_to_raw`: the raw target of an airflow, clamped to `0..200`. -/
def scaleAirflowToRaw (room : RoomConfig) (level : ℤ) : ℕ :=
  (max 0 (min 200 (HalfEven.round (level * 200) (profileMaxAirflow room.profile)))).toNat

/-- `scale_raw_level_to_airflow`. -/
def scaleRawLevelToAirflow (room : RoomConfig) (rawLevel : ℕ) : ℤ :=
  HalfEven.round (rawLevel * profileMaxAirflow room.profile) 200

/-! ### Encoding -/

/-- Register writes in the order they are sent, or the text of the error raised instead. -/
abbrev ModeWrites := Except String (List (ModeRegister × ℕ))

/-- `CLEAR_INTENSIVE`: zero in both shadow registers ends a running override. -/
def clearIntensiveWrites : List (ModeRegister × ℕ) := [(.presetMode, 0), (.presetValue, 0)]

/-- `operating_mode_writes`. -/
def operatingModeWrites (room : RoomConfig) (operationMode : OperationMode)
    (balancedLevel extractLevel : ℤ) : ModeWrites :=
  let balanced := (ModeRegister.currentLevel, scaleAirflowToRaw room balancedLevel)
  match operationMode with
  | .off => .ok (clearIntensiveWrites ++ [(.mode, modeOff), (.currentLevel, 0)])
  | .manual => .ok [(.mode, modeManual), balanced]
  | .unbalanced =>
    .ok [(.mode, modeUnbalanced), balanced,
      (.extractTargetLevel, scaleAirflowToRaw room extractLevel)]
  | mode =>
    match sensorModeToRawValue mode with
    | none =>
      .error s!"Unsupported operating mode '{mode.value}' for room {room.key}"
    | some sensorControlValue =>
      .ok [(.mode, modeSensorControl), (.currentLevel, sensorControlValue)]

/-- `preset_mode_writes`. -/
def presetModeWrites (room : RoomConfig) (presetMode : PresetMode) : ModeWrites :=
  match presetModeToRawCode presetMode with
  | none => .error s!"Unsupported preset mode '{presetMode.value}' for room {room.key}"
  | some rawCode =>
    if presetMode = .intensive then
      .ok [(.presetMode, modeManual), (.presetValue, rawCode)]
    else
      .ok (clearIntensiveWrites ++ [(.mode, modeManual), (.currentLevel, rawCode)])

/-! ### Decoding -/

/-- Raw values of the status map `41100..41102`. -/
structure ModeRead where
  mode : ℕ
  currentLevel : ℕ
  extractTargetLevel : ℕ
deriving DecidableEq, Repr

/-- `derive_balanced_airflow`: one shared airflow when supply and extract match closely. -/
def deriveBalancedAirflow (extractAirFlow supplyAirFlow : Option ℤ) : Option ℤ :=
  match extractAirFlow, supplyAirFlow with
  | none, supply => supply
  | extract, none => extract
  | some extract, some supply =>
    if |extract - supply| ≤ 1 then some (HalfEven.round (extract + supply) 2) else none

/-- `_decode_target_level`: a raw `0..200` target, or an app preset `200 + airflow / 10`. -/
def decodeTargetLevel (room : RoomConfig) : Option ℕ → Option ℤ
  | none => none
  | some rawLevel =>
    if rawLevel ≤ 200 then
      some (scaleRawLevelToAirflow room rawLevel)
    else
      let airflow : ℤ := ((rawLevel : ℤ) - appUnbalancedPresetBase) * 10
      if airflow ≤ profileMaxAirflow room.profile then some airflow else none

/-- `_decode_operation_mode`. -/
def decodeOperationMode (modeValue currentValue : ℕ) : Option OperationMode :=
  if modeValue = modeSensorControl then rawValueToSensorMode currentValue
  else if modeValue = modeOff then some .off
  else if modeValue = modeManual then some .manual
  else if modeValue = modeUnbalanced then some .unbalanced
  else none

/-- `_decode_preset_mode`: the base quick mode of a status read without intensive. -/
def decodePresetMode (block : Option ModeRead) (previousPresetMode : Option PresetMode) :
    Option PresetMode :=
  match block with
  | none => previousPresetMode
  | some b =>
    if b.mode = modeUnbalanced ∧ b.currentLevel = 0 ∧
        appUnbalancedPresetBase < b.extractTargetLevel then
      some .extractOnly
    else if b.mode = modeUnbalanced ∧ b.extractTargetLevel = 0 ∧
        appUnbalancedPresetBase < b.currentLevel then
      some .supplyOnly
    else if b.mode ≠ modeManual then none
    else rawCodeToPresetMode b.currentLevel

/-- `_mode_status_reports_intensive`. -/
def modeStatusReportsIntensive (block : ModeRead) : Bool :=
  (block.mode = modeManual && block.currentLevel = presetModeCodeIntensive) ||
    (block.mode = 0 && block.currentLevel = 0)

/-- The sensor subcode of a status read, mapped to the value written for it. -/
def decodeSensorSubcode (block : ModeRead) : ModeRead :=
  if block.mode = modeSensorControl then
    { block with
      currentLevel := (modeStatusSensorModeToRawValue block.currentLevel).getD
        block.currentLevel }
  else block

/-- The supply and the extract target that a status read (or its absence) leaves. -/
def decodeTargets (room : RoomConfig) (state : RoomState)
    (operationMode : Option OperationMode) (block : Option ModeRead) : Option ℤ × Option ℤ :=
  match operationMode with
  | some .unbalanced =>
    match block with
    | some b =>
      (decodeTargetLevel room (some b.currentLevel),
        decodeTargetLevel room (some b.extractTargetLevel))
    | none => (state.targetLevel, state.extractTargetLevel)
  | some .off | some .manual =>
    -- The measured airflow lags after a write, so a plausible target of the map wins.
    ((decodeTargetLevel room (block.map (·.currentLevel))).or
      (deriveBalancedAirflow state.extractAirFlow state.supplyAirFlow), none)
  | _ => (deriveBalancedAirflow state.extractAirFlow state.supplyAirFlow, none)

/-- **`apply_mode_read`**: apply a decoded status read (or its absence) to the state. -/
def applyModeRead (room : RoomConfig) (state : RoomState) (block : Option ModeRead) :
    RoomState :=
  let rawStatus := match block with
    | some b => some (b.mode, b.currentLevel, b.extractTargetLevel)
    | none => state.modeStatusRaw
  let block := block.map decodeSensorSubcode
  if block.any modeStatusReportsIntensive then
    { state with intensiveActive := some true, modeStatusRaw := rawStatus }
  else
    let operationMode := match block with
      | some b => decodeOperationMode b.mode b.currentLevel
      | none => state.operationMode
    { state with
      operationMode := operationMode
      targetLevel := (decodeTargets room state operationMode block).1
      balancedTargetReadback := none
      extractTargetLevel := (decodeTargets room state operationMode block).2
      presetMode := decodePresetMode block state.presetMode
      intensiveActive := if block.isNone then state.intensiveActive else some false
      modeStatusRaw := rawStatus }

end MeltemVentilation
