import Mathlib.Data.Fintype.Pi

/-!
# Fixed facts of the integration

The constants, modes and codes of `const.py`, as far as the functions of this development
read them: scheduler and link timing, the unit profiles with their maximum airflow, the
operating and quick modes with the raw codes the unit uses for them, the read groups, and
the control settings with their limits.

A string constant of the source that is one of a fixed family of names – a profile, a mode,
a read group, a control setting – is a constructor of an inductive type here. Monotonic
times are natural numbers of nanoseconds and wall-clock times are integers of microseconds,
so that a wall clock may jump while the monotonic one does not.
-/

namespace MeltemVentilation

/-! ### Times -/

/-- A reading of the monotonic clock, in nanoseconds. -/
abbrev Monotonic := ℕ

/-- A reading of the UTC wall clock, in microseconds; it may jump either way. -/
abbrev WallTime := ℤ

/-- What both clocks read at one moment. -/
structure Clock where
  /-- `time.monotonic()`. -/
  monotonic : Monotonic
  /-- `dt_util.utcnow()`. -/
  wall : WallTime
deriving DecidableEq, Repr

/-- A number of seconds on the monotonic clock. -/
def seconds (n : ℕ) : Monotonic := n * 1000000000

/-- A number of seconds on the wall clock. -/
def wallSeconds (n : ℕ) : WallTime := n * 1000000

/-- Age limit of the measured airflow. -/
def airflowStaleAfterSeconds : ℕ := 30

/-- Number of failed reads from which a group counts as failing. -/
def readFailureThreshold : ℕ := 3

/-- A pending write turns unconfirmed after this time. -/
def writeConfirmationTimeoutSeconds : ℕ := 30

/-- Older write outcomes no longer flag the data health and are no longer re-read. -/
def writeHealthRetentionSeconds : ℕ := 600

/-- How long a pending airflow pair is displayed. -/
def targetOptimisticSeconds : ℕ := 15

/-- How long a pending quick mode or intensive override is displayed. -/
def presetOptimisticSeconds : ℕ := 15

/-- `TRANSPORT_READ_RECOVERY_SECONDS`: how long a unit is not read after an unanswered read. -/
def transportReadRecoverySeconds : ℕ := 5

/-! ### Unit profiles -/

/-- The supported unit families, `MODEL_PROFILES`. -/
inductive Profile where
  | sPlain | sF | sFc | iiPlain | iiF | iiFc | iiFcVoc
deriving DecidableEq, Repr

/-- `profile_max_airflow`: the maximum airflow of a unit, in m³/h. -/
def profileMaxAirflow : Profile → ℤ
  | .sPlain | .sF | .sFc => 97
  | .iiPlain | .iiF | .iiFc | .iiFcVoc => 100

/-- Membership in `HUMIDITY_PROFILES`. -/
def Profile.hasHumidity : Profile → Bool
  | .sF | .sFc | .iiF | .iiFc | .iiFcVoc => true
  | .sPlain | .iiPlain => false

/-- Membership in `CO2_PROFILES`. -/
def Profile.hasCo2 : Profile → Bool
  | .sFc | .iiFc | .iiFcVoc => true
  | .sPlain | .sF | .iiPlain | .iiF => false

/-! ### Operating and quick modes -/

/-- The operating modes; `inactive` is only ever requested, never decoded. -/
inductive OperationMode where
  | inactive | off | manual | unbalanced | humidityControl | co2Control | automatic
deriving DecidableEq, Repr

/-- `DIRECT_OPERATION_MODES`: the modes in which the user sets the airflow directly. -/
def directOperationModes : List OperationMode := [.off, .manual, .unbalanced]

/-- `SENSOR_OPERATION_MODES`. -/
def sensorOperationModes : List OperationMode := [.humidityControl, .co2Control, .automatic]

/-- The quick modes; `extractOnly` and `supplyOnly` are decoded but no longer selectable. -/
inductive PresetMode where
  | inactive | low | medium | high | intensive | extractOnly | supplyOnly
deriving DecidableEq, Repr

/-- `PRESET_MODE_CODE_INTENSIVE`. -/
def presetModeCodeIntensive : ℕ := 227

/-- `PRESET_MODE_TO_RAW_CODE`. -/
def presetModeToRawCode : PresetMode → Option ℕ
  | .low => some 228
  | .medium => some 229
  | .high => some 230
  | .intensive => some presetModeCodeIntensive
  | .inactive | .extractOnly | .supplyOnly => none

/-- `RAW_CODE_TO_PRESET_MODE`, the inverse table. -/
def rawCodeToPresetMode : ℕ → Option PresetMode
  | 228 => some .low
  | 229 => some .medium
  | 230 => some .high
  | 227 => some .intensive
  | _ => none

/-- `APP_UNBALANCED_PRESET_BASE`: app presets are `200 + airflow / 10`. -/
def appUnbalancedPresetBase : ℕ := 200

/-- The mode numbers of registers `41100` and `41120`. -/
def modeOff : ℕ := 1
/-- `MODE_SENSOR_CONTROL`. -/
def modeSensorControl : ℕ := 2
/-- `MODE_MANUAL`. -/
def modeManual : ℕ := 3
/-- `MODE_UNBALANCED`. -/
def modeUnbalanced : ℕ := 4

/-- `SENSOR_MODE_TO_RAW_VALUE`: the selectors written for the sensor modes. -/
def sensorModeToRawValue : OperationMode → Option ℕ
  | .humidityControl => some 112
  | .co2Control => some 144
  | .automatic => some 16
  | .inactive | .off | .manual | .unbalanced => none

/-- `RAW_VALUE_TO_SENSOR_MODE`, the inverse table. -/
def rawValueToSensorMode : ℕ → Option OperationMode
  | 112 => some .humidityControl
  | 144 => some .co2Control
  | 16 => some .automatic
  | _ => none

/-- `MODE_STATUS_SENSOR_MODE_TO_RAW_VALUE`: the read-side sensor subcodes. -/
def modeStatusSensorModeToRawValue : ℕ → Option ℕ
  | 48 => some 16
  | 80 => some 16
  | 112 => some 112
  | 144 => some 144
  | 176 => some 144
  | 208 => some 144
  | _ => none

/-- The two directions of a fan command. -/
inductive Direction where
  | supply | extract
deriving DecidableEq, Repr

/-- Where the airflow shown by a fan entity comes from. -/
inductive LevelSource where
  | pending | target | measured
deriving DecidableEq, Repr

/-- How a fan write filled in what the unit did not report. -/
inductive LevelWriteFallback where
  | balanced | unknownMode
deriving DecidableEq, Repr

/-! ### Registers, read groups and control settings -/

/-- The write-side mode registers `41120..41124`, by their field names. -/
inductive ModeRegister where
  | mode | currentLevel | extractTargetLevel | presetMode | presetValue
deriving DecidableEq, Repr

/-- The read-health groups, the keys of `READ_GROUP_ENTITY_KEYS`. -/
inductive ReadGroup where
  | flow | flowControl | intensive | status | temperature | airQuality | filter | hours
  | fanHours | rfLastSeen | rfSignal | deviceFault | valueError | controlSettings
deriving DecidableEq, Repr

instance : Fintype ReadGroup where
  elems := {.flow, .flowControl, .intensive, .status, .temperature, .airQuality, .filter,
    .hours, .fanHours, .rfLastSeen, .rfSignal, .deviceFault, .valueError, .controlSettings}
  complete g := by cases g <;> simp

/-- `READ_GROUP_INTERVAL_SECONDS`: how often the job of a group runs. -/
def readGroupIntervalSeconds : ReadGroup → ℕ
  | .flow | .flowControl | .intensive => 10
  | .status | .temperature | .airQuality | .rfLastSeen | .rfSignal | .deviceFault
  | .valueError => 60
  | .filter | .hours | .fanHours | .controlSettings => 3600

/-- The control settings, the keys of `CONTROL_SETTING_REGISTERS`. -/
inductive ControlSetting where
  | humidityStartingPoint | humidityMinLevel | humidityMaxLevel
  | co2StartingPoint | co2MinLevel | co2MaxLevel
deriving DecidableEq, Repr

instance : Fintype ControlSetting where
  elems := {.humidityStartingPoint, .humidityMinLevel, .humidityMaxLevel,
    .co2StartingPoint, .co2MinLevel, .co2MaxLevel}
  complete k := by cases k <;> simp

/-- Minimum, maximum and step of one control setting. -/
structure SettingLimits where
  minimum : ℤ
  maximum : ℤ
  step : ℤ
deriving DecidableEq, Repr

/-- `CONTROL_SETTING_LIMITS`. -/
def controlSettingLimits : ControlSetting → SettingLimits
  | .humidityStartingPoint => ⟨40, 80, 1⟩
  | .humidityMinLevel => ⟨0, 100, 10⟩
  | .humidityMaxLevel => ⟨10, 100, 10⟩
  | .co2StartingPoint => ⟨500, 1200, 1⟩
  | .co2MinLevel => ⟨0, 100, 10⟩
  | .co2MaxLevel => ⟨10, 100, 10⟩

/-- `CONTROL_LEVEL_RANGES`: the minimum and the maximum level of each sensor control. -/
def controlLevelRanges : List (ControlSetting × ControlSetting) :=
  [(.humidityMinLevel, .humidityMaxLevel), (.co2MinLevel, .co2MaxLevel)]

/-- The profiles that carry a control setting: the humidity profiles for the keys starting
with `humidity_`, the CO2 profiles for the others. -/
def ControlSetting.inProfile : ControlSetting → Profile → Bool
  | .humidityStartingPoint, p | .humidityMinLevel, p | .humidityMaxLevel, p => p.hasHumidity
  | .co2StartingPoint, p | .co2MinLevel, p | .co2MaxLevel, p => p.hasCo2

end MeltemVentilation
