import MeltemVentilation.ReadHealth
import MeltemVentilation.ModeCodec

/-!
# What a room read makes of its replies

`MeltemModbusClient.read_room` for the two refresh plans that judge writes: the airflow plan
(measured airflow and status map) and the control-settings plan. What the unit, the link and
the backoff tables do to a read is the input of this file, one `BlockRead` for each register
block; what is modelled is which value fields and which `ReadHealth` records the client
makes of it.

The three outcomes of a block are those of the source: its values, an error, or no attempt
at all because the block is backed off or quarantined. A read of a whole room may also be
skipped by the quarantine of its unit, and a lost link makes `read_room` raise, so that the
coordinator records the failure (`recordReadFailures`).
-/

namespace MeltemVentilation

/-- What became of the read of one register block. -/
inductive BlockRead (α : Type) where
  | values (read : α)
  | failed (error : String) (timedOut : Bool)
  | skipped

/-- The values of a block, if it was read. -/
def BlockRead.read? {α : Type} : BlockRead α → Option α
  | .values read => some read
  | .failed _ _ | .skipped => none

/-- `_updated_read_health` for one group whose block was due. -/
def BlockRead.health {α : Type} (clock : Clock) (previous : ReadHealth) :
    BlockRead α → ReadHealth
  | .values _ => .succeeded clock
  | .failed error timedOut => previous.failed clock.wall error timedOut
  | .skipped => previous

/-- Registers `41020` and `41021`. -/
structure FlowRead where
  extractAirFlow : ℤ
  supplyAirFlow : ℤ
deriving DecidableEq, Repr

/-- The outcome of `read_room` with the airflow plan. -/
inductive AirflowRead where
  /-- The unit is quarantined: nothing is read. -/
  | quarantined
  /-- The link is lost: `read_room` raises. -/
  | raised (error : String)
  | blocks (flow : BlockRead FlowRead) (mode : BlockRead ModeRead)

/-- The read groups of the airflow plan. -/
def airflowReadGroups : List ReadGroup := [.flow, .flowControl, .intensive]

/-- `_fresh_values` for the airflow block. -/
def applyFlowRead (state : RoomState) : Option FlowRead → RoomState
  | some flow =>
    { state with
      extractAirFlow := some flow.extractAirFlow
      supplyAirFlow := some flow.supplyAirFlow }
  | none => state

/-- **`read_room` with the airflow plan**, and `record_read_failures` where it raises. -/
def AirflowRead.apply (room : RoomConfig) (clock : Clock) (previous : RoomState) :
    AirflowRead → RoomState
  | .quarantined => previous
  | .raised error => recordReadFailures clock.wall room error airflowReadGroups previous
  | .blocks flow mode =>
    { applyModeRead room (applyFlowRead previous flow.read?) mode.read? with
      groupReadHealth := fun group =>
        match group with
        | .flow => flow.health clock (previous.groupReadHealth .flow)
        | .flowControl => mode.health clock (previous.groupReadHealth .flowControl)
        | .intensive => mode.health clock (previous.groupReadHealth .intensive)
        | group => previous.groupReadHealth group }

/-- Whether the client raised. -/
def AirflowRead.isRaised : AirflowRead → Bool
  | .raised _ => true
  | .quarantined | .blocks _ _ => false

/-- `job_read_succeeded` for the airflow plan, whose outcome is decided by the flow group. -/
def AirflowRead.succeeded : AirflowRead → Bool
  | .blocks (.values _) _ => true
  | .quarantined | .raised _ | .blocks _ _ => false

/-- The outcome of `read_room` with the control-settings plan. -/
inductive SettingsRead where
  | quarantined
  | raised (error : String)
  | block (settings : BlockRead (ControlSetting → ℤ))

/-- `_fresh_values` for the control settings: the settings of the profile. -/
def applySettings (room : RoomConfig) (state : RoomState) :
    Option (ControlSetting → ℤ) → RoomState
  | some settings =>
    { state with
      controlSetting := fun key =>
        if key.inProfile room.profile then some (settings key) else state.controlSetting key }
  | none => state

/-- **`read_room` with the control-settings plan.** -/
def SettingsRead.apply (room : RoomConfig) (clock : Clock) (previous : RoomState) :
    SettingsRead → RoomState
  | .quarantined => previous
  | .raised error => recordReadFailures clock.wall room error [.controlSettings] previous
  | .block settings =>
    if room.supportsGroup .controlSettings then
      { applySettings room previous settings.read? with
        groupReadHealth := fun group =>
          match group with
          | .controlSettings =>
            settings.health clock (previous.groupReadHealth .controlSettings)
          | group => previous.groupReadHealth group }
    else previous

/-- The reply to a read of set register `41121`; a register without a raw airflow target is
answered, but carries no value. -/
inductive TargetReply where
  | failed
  | value (raw : ℕ)
deriving DecidableEq, Repr

/-- `read_balanced_target_readback`: the exact set-side airflow target. -/
def TargetReply.airflow (room : RoomConfig) : TargetReply → Option ℤ
  | .failed => none
  | .value raw => if raw ≤ 200 then some (scaleRawLevelToAirflow room raw) else none

end MeltemVentilation
