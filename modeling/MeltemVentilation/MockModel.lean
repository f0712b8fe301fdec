import MeltemVentilation.ModbusClient.Commands

/-!
# The mode registers of a simulated unit

The part of `tools/_mock_model.py` that executes mode commands: the set registers
`41120..41124`, and what `APPLY` makes of them in the status map `41100..41102` and in the
measured airflow `41020/41021` (`MockGatewayModel._mode_updates`), without a settle delay.

Intensive runs for as long as the two shadow registers ask for it, whatever the base
registers say; `MockUnit.commit` then shows intensive in the status map, and the base mode
stays in the set registers only.
-/

namespace MeltemVentilation

/-- The mode registers of one simulated unit. -/
@[ext] structure MockUnit where
  profile : Profile
  /-- The set registers `41120..41124`. -/
  set : ModeRegister → ℕ
  /-- The status map `41100..41102`. -/
  status : ModeRead
  /-- Registers `41020` and `41021`. -/
  extractAirFlow : ℤ
  supplyAirFlow : ℤ

/-- `QUICK_MODE_AIRFLOW`. -/
def quickModeAirflow : ℕ → Option ℤ
  | 228 => some 20
  | 229 => some 30
  | 230 => some 60
  | 227 => some 80
  | _ => none

/-- `_airflow`: the airflow of a raw target, quick-mode code, or app preset value. -/
def airflowOfRaw (rawLevel : ℕ) (maxAirflow : ℤ) (quickModes : Bool) : ℤ :=
  match if quickModes then quickModeAirflow rawLevel else none with
  | some airflow => min airflow maxAirflow
  | none =>
    if rawLevel ≤ 200 then HalfEven.round (rawLevel * maxAirflow) 200
    else min (((rawLevel : ℤ) - appUnbalancedPresetBase) * 10) maxAirflow

/-- Whether the shadow registers ask for intensive. -/
def MockUnit.runsIntensive (unit : MockUnit) : Bool :=
  unit.set .presetMode = modeManual && unit.set .presetValue = presetModeCodeIntensive

/-- `_mode_updates`: the status map, and the extract and supply airflow unless unchanged. -/
def MockUnit.modeUpdates (unit : MockUnit) : ModeRead × Option (ℤ × ℤ) :=
  let mode := unit.set .mode
  let level := unit.set .currentLevel
  let extract := unit.set .extractTargetLevel
  let maxAirflow := profileMaxAirflow unit.profile
  -- Intensive keeps running until both shadow registers are cleared.
  if unit.runsIntensive then
    let airflow := airflowOfRaw presetModeCodeIntensive maxAirflow true
    (⟨modeManual, presetModeCodeIntensive, presetModeCodeIntensive⟩, some (airflow, airflow))
  else if mode = modeSensorControl then
    (⟨mode, level ||| 0x20, level ||| 0x20⟩, none)
  else if mode = modeOff then
    (⟨mode, level, level⟩, some (0, 0))
  else if mode = modeUnbalanced then
    (⟨mode, level, extract⟩,
      some (airflowOfRaw extract maxAirflow false, airflowOfRaw level maxAirflow false))
  else
    let airflow := airflowOfRaw level maxAirflow true
    (⟨mode, level, level⟩, some (airflow, airflow))

/-- `write` of one set register. -/
def MockUnit.write (unit : MockUnit) (write : ModeRegister × ℕ) : MockUnit :=
  { unit with set := Function.update unit.set write.1 write.2 }

/-- `_commit` without a settle delay: `APPLY` activates the set registers. -/
def MockUnit.commit (unit : MockUnit) : MockUnit :=
  { unit with
    status := unit.modeUpdates.1
    extractAirFlow := (unit.modeUpdates.2.map (·.1)).getD unit.extractAirFlow
    supplyAirFlow := (unit.modeUpdates.2.map (·.2)).getD unit.supplyAirFlow }

/-- A command executed by the unit: its writes register by register, then `APPLY`. A command
without an encoding raises before anything is sent. -/
def MockUnit.execute (unit : MockUnit) (room : RoomConfig) (command : ModeCommand) : MockUnit :=
  match command.writes room with
  | .ok writes => (writes.foldl MockUnit.write unit).commit
  | .error _ => unit

/-- `unit_registers`: the mode registers of a new unit, manual mode at 40 m³/h. -/
def newUnit (profile : Profile) : MockUnit where
  profile := profile
  set
    | .mode => modeManual
    | .currentLevel => 80
    | .extractTargetLevel => 80
    | .presetMode => 0
    | .presetValue => 0
  status := ⟨modeManual, 80, 80⟩
  extractAirFlow := 40
  supplyAirFlow := 40

end MeltemVentilation
