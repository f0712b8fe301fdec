import MeltemVentilation.Const

/-!
# The data the coordinator, the client and the entities share

The records of `models.py`: the freshness of a read group, the polled state of a unit, and
the outcome of a write. `RoomState` carries the value fields of the groups `flow`,
`flow_control`, `intensive` and `control_settings`, which are the ones that commands write
and that confirmations and pending displays are judged by.

The tuple `group_read_health` of the source is read through `read_health_for` only, which
answers `EMPTY_READ_HEALTH` for an absent group, so it is a total function here.
-/

namespace MeltemVentilation

/-! ### Rooms -/

/-- Configuration of one unit, as far as the modelled functions read it. -/
structure RoomConfig where
  key : String
  name : String
  profile : Profile
  slave : ℕ
deriving DecidableEq, Repr

/-- `room.supports_any(READ_GROUP_ENTITY_KEYS[group])` for a room built from its profile:
only the air-quality and the control-setting entities depend on the profile. -/
def RoomConfig.supportsGroup (room : RoomConfig) : ReadGroup → Bool
  | .airQuality | .controlSettings => room.profile.hasHumidity || room.profile.hasCo2
  | _ => true

/-! ### Read health -/

/-- Freshness and failure state of one polled data group. -/
structure ReadHealth where
  lastAttempt : Option WallTime := none
  lastSuccessfulRead : Option WallTime := none
  consecutiveFailures : ℕ := 0
  lastError : Option String := none
  lastErrorTimedOut : Bool := false
  lastSuccessMonotonic : Option Monotonic := none
deriving DecidableEq, Repr

/-- `EMPTY_READ_HEALTH`. -/
def emptyReadHealth : ReadHealth := {}

/-- The health after one more failed read. -/
def ReadHealth.failed (h : ReadHealth) (attemptedAt : WallTime) (error : String)
    (timedOut : Bool) : ReadHealth where
  lastAttempt := some attemptedAt
  lastSuccessfulRead := h.lastSuccessfulRead
  consecutiveFailures := min (h.consecutiveFailures + 1) readFailureThreshold
  lastError := some error
  lastErrorTimedOut := timedOut
  lastSuccessMonotonic := h.lastSuccessMonotonic

/-- The health that `_updated_read_health` records for a successful read. -/
def ReadHealth.succeeded (clock : Clock) : ReadHealth where
  lastAttempt := some clock.wall
  lastSuccessfulRead := some clock.wall
  lastSuccessMonotonic := some clock.monotonic

/-! ### The polled state of a unit -/

/-- The polled state of one unit. -/
structure RoomState where
  extractAirFlow : Option ℤ := none
  supplyAirFlow : Option ℤ := none
  operationMode : Option OperationMode := none
  presetMode : Option PresetMode := none
  intensiveActive : Option Bool := none
  modeStatusRaw : Option (ℕ × ℕ × ℕ) := none
  targetLevel : Option ℤ := none
  balancedTargetReadback : Option ℤ := none
  extractTargetLevel : Option ℤ := none
  controlSetting : ControlSetting → Option ℤ := fun _ => none
  groupReadHealth : ReadGroup → ReadHealth := fun _ => emptyReadHealth
deriving DecidableEq

/-- `EMPTY_ROOM_STATE`. -/
def emptyRoomState : RoomState := {}

/-- `has_data`, over the value fields carried here. -/
def RoomState.hasData (state : RoomState) : Bool :=
  state.extractAirFlow.isSome || state.supplyAirFlow.isSome || state.operationMode.isSome ||
    state.presetMode.isSome || state.intensiveActive.isSome || state.targetLevel.isSome ||
    state.balancedTargetReadback.isSome || state.extractTargetLevel.isSome ||
    decide (∃ k, (state.controlSetting k).isSome)

/-- A state whose value fields are all empty. -/
structure RoomState.NoValues (state : RoomState) : Prop where
  extractAirFlow : state.extractAirFlow = none
  supplyAirFlow : state.supplyAirFlow = none
  operationMode : state.operationMode = none
  presetMode : state.presetMode = none
  intensiveActive : state.intensiveActive = none
  targetLevel : state.targetLevel = none
  balancedTargetReadback : state.balancedTargetReadback = none
  extractTargetLevel : state.extractTargetLevel = none
  controlSetting : ∀ key, state.controlSetting key = none

theorem RoomState.noValues {state : RoomState} (h : state.hasData = false) : state.NoValues := by
  simp only [hasData, Bool.or_eq_false_iff, Option.isSome_eq_false_iff, Option.isNone_iff_eq_none,
    decide_eq_false_iff_not, not_exists, Bool.not_eq_true] at h
  obtain ⟨⟨⟨⟨⟨⟨⟨⟨hextract, hsupply⟩, hmode⟩, hpreset⟩, hintensive⟩, htarget⟩, hreadback⟩,
    htargetExtract⟩, hsettings⟩ := h
  exact ⟨hextract, hsupply, hmode, hpreset, hintensive, htarget, hreadback, htargetExtract,
    hsettings⟩

/-- A copy with the health of one group replaced. -/
def RoomState.withReadHealth (state : RoomState) (group : ReadGroup) (health : ReadHealth) :
    RoomState :=
  { state with groupReadHealth := Function.update state.groupReadHealth group health }

@[simp] theorem RoomState.withReadHealth_health (state : RoomState) (group : ReadGroup)
    (health : ReadHealth) : (state.withReadHealth group health).groupReadHealth =
      Function.update state.groupReadHealth group health := rfl

/-! ### Writes -/

/-- The key under which the last outcome of a write is kept. -/
inductive WriteKey where
  | airflowLevels | operationMode | presetMode | intensive
  | controlSetting (key : ControlSetting)
deriving DecidableEq, Repr

/-- The value a write asks for, or a readback reports. -/
inductive WriteValue where
  | levels (supply extract : ℤ)
  | operationMode (mode : OperationMode)
  | presetMode (preset : PresetMode)
  | intensive (active : Bool)
  | setting (value : ℤ)
deriving DecidableEq, Repr

/-- The outcome of one write as judged by the readbacks after it. -/
inductive WriteStatus where
  | pending | confirmed | mismatch | unconfirmed | unverifiable | failed | superseded
deriving DecidableEq, Repr

/-- The outcome of one requested write and its device readback. -/
structure WriteConfirmation where
  expectedValue : WriteValue
  startedAt : WallTime
  status : WriteStatus := .pending
  actualValue : Option WriteValue := none
  lastError : Option String := none
  issueCounted : Bool := false
  /-- Health of the confirming group when the write was sent. -/
  baseline : ReadHealth := emptyReadHealth
deriving DecidableEq, Repr

end MeltemVentilation
