import MeltemVentilation.ModeCodec

/-!
# The mode commands of the client

The five methods of `MeltemModbusClient` that write mode registers, each reduced to the
register writes it sends in front of `APPLY`. A command whose mode or quick mode has no
encoding raises before anything is sent, so its writes are an error text.
-/

namespace MeltemVentilation

/-- The mode commands of the client. -/
inductive ModeCommand where
  | writeLevel (level : ℤ)
  | writeUnbalancedLevels (supplyLevel extractLevel : ℤ)
  | writeOperatingMode (operationMode : OperationMode) (balancedLevel extractLevel : ℤ)
  | writePresetMode (presetMode : PresetMode)
  | clearIntensive
deriving DecidableEq, Repr

/-- `write_level`: off or manual mode and the target level. -/
def writeLevelWrites (room : RoomConfig) (level : ℤ) : List (ModeRegister × ℕ) :=
  (if level = 0 then clearIntensiveWrites else []) ++
    [(.mode, if level = 0 then modeOff else modeManual),
      (.currentLevel, scaleAirflowToRaw room level)]

/-- `write_unbalanced_levels`: unbalanced mode with separate levels. -/
def writeUnbalancedLevelsWrites (room : RoomConfig) (supplyLevel extractLevel : ℤ) :
    List (ModeRegister × ℕ) :=
  [(.mode, modeUnbalanced), (.currentLevel, scaleAirflowToRaw room supplyLevel),
    (.extractTargetLevel, scaleAirflowToRaw room extractLevel)]

/-- The register writes of a command, in the order they are sent. -/
def ModeCommand.writes (room : RoomConfig) : ModeCommand → ModeWrites
  | .writeLevel level => .ok (writeLevelWrites room level)
  | .writeUnbalancedLevels supplyLevel extractLevel =>
    .ok (writeUnbalancedLevelsWrites room supplyLevel extractLevel)
  | .writeOperatingMode operationMode balancedLevel extractLevel =>
    operatingModeWrites room operationMode balancedLevel extractLevel
  | .writePresetMode presetMode => presetModeWrites room presetMode
  | .clearIntensive => .ok clearIntensiveWrites

end MeltemVentilation
