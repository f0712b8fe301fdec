import Mathlib.Data.Finset.Lattice.Basic
import MeltemVentilation.ModbusClient.ReadBackoff
import MeltemVentilation.ModbusClient.ReadRoom
import MeltemVentilation.ModbusClient.RefreshPlan

/-!
# One read of a room, block by block

`MeltemModbusClient.read_room` for every plan: which blocks are requested, what each of them
answers, and what is made of the answers: the new values, the health of the read groups
and the outcome of the job. The answers themselves (`RoomReplies`) are input. The device
library polls the requested blocks and reports each of them as updated or failed, unless it
raises.

Four functions of the source collect errors and skips in one record, `ReadJob`: the poll of
the due blocks, the decoding of their values, the read of the mode status map, and, before
any of them, the recovery pause of the unit. They are four functions here too, and the
health is computed from the record at the end (`updatedReadHealth`).

The polled state carries all value fields that are read as they are, besides the ones of the
mode status map. The absolute humidity, which is derived from two of them in floating point,
is left out.
-/

namespace MeltemVentilation

/-! ### Values -/

/-- A value field of the polled state. -/
inductive FieldValue where
  | number (value : ℤ)
  | real (value : ℚ)
  | flag (value : Bool)
deriving DecidableEq, Repr

/-- What a block holds for one field: a register, or a float of two registers. -/
inductive Reading where
  | register (value : ℕ)
  | float (value : ℚ)
  /-- A float that is not finite, with the text Python prints for it. -/
  | notFinite (repr : String)
deriving DecidableEq, Repr

/-- `PLAUSIBLE_RANGES`. -/
def plausibleRange : RoomField → Option (ℕ × ℕ)
  | .humidityExtractAir | .humiditySupplyAir => some (0, 100)
  | .co2ExtractAir | .co2SupplyAir => some (250, 10000)
  | .vocExtractAir | .vocSupplyAir => some (0, 10000)
  | _ => none

/-- The value of a register field; `none` where the register says that there is none. -/
def registerValue (field : RoomField) (value : ℕ) : Option FieldValue :=
  match field with
  | .rfSignalStrength =>
    some (.number (if 0x8000 ≤ value then (value : ℤ) - 0x10000 else value))
  | .deviceFault => if value = 0xFFFF then none else some (.flag (value ≠ 0))
  | .valueErrorStatus => if value = 0 ∨ value = 1 then some (.flag (value ≠ 0)) else none
  | .errorStatus | .filterChangeDue | .frostProtectionActive | .rfCommStatus =>
    some (.flag (value ≠ 0))
  | _ => some (.number value)

/-- What `_fresh_values` makes of one field of a block that was updated. -/
inductive FieldOutcome where
  /-- No finite value: the read group fails. -/
  | invalid (repr : String)
  /-- A hardware sentinel: the sensor reports nothing. -/
  | missing
  | value (value : Option FieldValue)
deriving DecidableEq, Repr

/-- `_fresh_values`, for one field. -/
def decodeReading (field : RoomField) : Option Reading → FieldOutcome
  | none => .invalid "None"
  | some (.notFinite repr) => .invalid repr
  | some (.float value) => .value (some (.real value))
  | some (.register value) =>
    match plausibleRange field with
    | some (low, high) =>
      if low ≤ value ∧ value ≤ high then .value (some (.number value)) else .missing
    | none => .value (registerValue field value)

/-- The name of a field in the source. -/
def RoomField.name : RoomField → String
  | .extractAirFlow => "extract_air_flow"
  | .supplyAirFlow => "supply_air_flow"
  | .exhaustTemperature => "exhaust_temperature"
  | .outdoorAirTemperature => "outdoor_air_temperature"
  | .extractAirTemperature => "extract_air_temperature"
  | .supplyAirTemperature => "supply_air_temperature"
  | .humidityExtractAir => "humidity_extract_air"
  | .co2ExtractAir => "co2_extract_air"
  | .vocExtractAir => "voc_extract_air"
  | .co2SupplyAir => "co2_supply_air"
  | .humiditySupplyAir => "humidity_supply_air"
  | .vocSupplyAir => "voc_supply_air"
  | .errorStatus => "error_status"
  | .frostProtectionActive => "frost_protection_active"
  | .filterChangeDue => "filter_change_due"
  | .daysUntilFilterChange => "days_until_filter_change"
  | .operatingHours => "operating_hours"
  | .fanMotorHours => "fan_motor_hours"
  | .softwareVersion => "software_version"
  | .controlSetting .humidityStartingPoint => "humidity_starting_point"
  | .controlSetting .humidityMinLevel => "humidity_min_level"
  | .controlSetting .humidityMaxLevel => "humidity_max_level"
  | .controlSetting .co2StartingPoint => "co2_starting_point"
  | .controlSetting .co2MinLevel => "co2_min_level"
  | .controlSetting .co2MaxLevel => "co2_max_level"
  | .rfCommStatus => "rf_comm_status"
  | .deviceFault => "device_fault"
  | .valueErrorStatus => "value_error_status"
  | .rfLastSeenAgeSeconds => "rf_last_seen_age_seconds"
  | .rfSignalStrength => "rf_signal_strength"

/-! ### The polled state -/

/-- The polled state of one unit, with all the value fields that are read as they are. -/
structure UnitState where
  value : RoomField → Option FieldValue := fun _ => none
  operationMode : Option OperationMode := none
  presetMode : Option PresetMode := none
  intensiveActive : Option Bool := none
  modeStatusRaw : Option (ℕ × ℕ × ℕ) := none
  targetLevel : Option ℤ := none
  balancedTargetReadback : Option ℤ := none
  extractTargetLevel : Option ℤ := none
  groupReadHealth : ReadGroup → ReadHealth := fun _ => emptyReadHealth
deriving DecidableEq

/-- A value that is a number. -/
def FieldValue.number? : FieldValue → Option ℤ
  | .number value => some value
  | .real _ | .flag _ => none

/-- The part of the polled state that commands and confirmations look at. -/
def UnitState.roomState (state : UnitState) : RoomState where
  extractAirFlow := (state.value .extractAirFlow).bind (·.number?)
  supplyAirFlow := (state.value .supplyAirFlow).bind (·.number?)
  operationMode := state.operationMode
  presetMode := state.presetMode
  intensiveActive := state.intensiveActive
  modeStatusRaw := state.modeStatusRaw
  targetLevel := state.targetLevel
  balancedTargetReadback := state.balancedTargetReadback
  extractTargetLevel := state.extractTargetLevel
  controlSetting := fun key => (state.value (.controlSetting key)).bind (·.number?)
  groupReadHealth := state.groupReadHealth

/-- `has_data`: whether any value has been read yet. -/
def UnitState.hasData (state : UnitState) : Bool :=
  roomFields.any (fun field => (state.value field).isSome) || state.operationMode.isSome ||
    state.presetMode.isSome || state.intensiveActive.isSome || state.targetLevel.isSome ||
    state.balancedTargetReadback.isSome || state.extractTargetLevel.isSome

/-- `apply_mode_read` on the whole polled state. -/
def UnitState.applyModeRead (room : RoomConfig) (state : UnitState) (block : Option ModeRead) :
    UnitState :=
  let decoded := MeltemVentilation.applyModeRead room state.roomState block
  { state with
    operationMode := decoded.operationMode
    presetMode := decoded.presetMode
    intensiveActive := decoded.intensiveActive
    modeStatusRaw := decoded.modeStatusRaw
    targetLevel := decoded.targetLevel
    balancedTargetReadback := decoded.balancedTargetReadback
    extractTargetLevel := decoded.extractTargetLevel }

/-! ### What the device library reports -/

/-- The errors of a read that are told apart. -/
inductive ReadErrorKind where
  | timeout | protocol
  /-- `ReadQuarantinedError`, a protocol error: the read was not sent. -/
  | quarantined
  /-- `AcknowledgeError`, an exception response. -/
  | acknowledge
  | exception
  | other
deriving DecidableEq, Repr

/-- Membership in `NO_ANSWER_ERRORS`. -/
def ReadErrorKind.noAnswer : ReadErrorKind → Bool
  | .timeout | .protocol | .quarantined => true
  | .acknowledge | .exception | .other => false

/-- Whether an error is a `ModbusExceptionError`. -/
def ReadErrorKind.isException : ReadErrorKind → Bool
  | .acknowledge | .exception => true
  | .timeout | .protocol | .quarantined | .other => false

/-- The error of one read. -/
structure ReadError where
  kind : ReadErrorKind
  text : String
deriving DecidableEq, Repr

/-- The fields of a block. -/
abbrev ComponentValues := RoomField → Option Reading

/-- What `async_poll` reports of one requested block. -/
inductive ComponentOutcome where
  | updated (values : ComponentValues)
  | failed (error : ReadError)

/-- What `async_poll` does. -/
inductive PollReply where
  /-- It raises `ModbusConnectionError`. -/
  | connectionLost (text : String)
  /-- It raises one of `NO_ANSWER_ERRORS`. -/
  | noAnswer (error : ReadError)
  /-- It raises another `ModbusError`. -/
  | raised (text : String)
  | report (outcome : Component → ComponentOutcome)

/-- What the read of the mode status map does. -/
inductive ModeReply where
  | values (block : ModeRead)
  | connectionLost (text : String)
  | failed (error : ReadError)

/-- What the outside decides about one read. -/
structure RoomReplies where
  /-- `read_delayed`: the recovery pause of the unit is active. -/
  readDelayed : Bool
  /-- When the due blocks are requested. -/
  pollStarted : Monotonic
  poll : PollReply
  /-- When the mode status map is requested. -/
  modeStarted : Monotonic
  mode : ModeReply
  /-- Whether any request got a valid response. -/
  answered : Bool
  finished : Clock

/-! ### The job -/

/-- `_ReadJob`: what one read collects. Its field `had_answer` is `RoomReplies.answered`. -/
structure ReadJob where
  errors : ReadGroup → Option String := fun _ => none
  skippedGroups : Finset ReadGroup := ∅
  timeouts : Finset ReadGroup := ∅
  silentError : Option ReadError := none
  attemptedGroups : Finset ReadGroup := ∅
  valueGroups : Finset ReadGroup := ∅
  unitSuccessGroups : Finset ReadGroup := ∅
  missingSensorValues : Finset RoomField := ∅
  sensorValues : Finset RoomField := ∅

namespace ReadJob

/-- `skip`. -/
def skip (job : ReadJob) (groups : List ReadGroup) : ReadJob :=
  { job with skippedGroups := job.skippedGroups ∪ groups.toFinset }

/-- `record_error`: keep the first error of each affected group. -/
def recordError (job : ReadJob) (groups : List ReadGroup) (text : String)
    (noAnswer : Bool := false) : ReadJob :=
  { job with
    errors := fun group =>
      (job.errors group).or (if group ∈ groups then some text else none)
    timeouts := if noAnswer then job.timeouts ∪ groups.toFinset else job.timeouts }

/-- The groups a request is sent for. -/
def attempt (job : ReadJob) (groups : List ReadGroup) : ReadJob :=
  { job with attemptedGroups := job.attemptedGroups ∪ groups.toFinset }

/-- The groups with a block that the unit itself answered. -/
def unitSuccess (job : ReadJob) (groups : List ReadGroup) : ReadJob :=
  { job with unitSuccessGroups := job.unitSuccessGroups ∪ groups.toFinset }

/-- A read without a valid answer makes the unit count as silent. -/
def silence (job : ReadJob) (error : ReadError) : ReadJob :=
  if error.kind.noAnswer then { job with silentError := some error } else job

end ReadJob

/-! ### The client -/

/-- What the client keeps for the reads of one unit. -/
structure RoomClient where
  port : String
  shutDown : Bool := false
  componentBackoff : ReadBackoff Component := {}
  modeBackoff : ReadBackoff Unit := {}

/-- An error that leaves `read_room`: a lost link, or another Modbus error. -/
structure GatewayError where
  connection : Bool
  message : String
deriving DecidableEq, Repr

/-- `_gateway_operation` on a lost link. -/
def RoomClient.lostGateway (client : RoomClient) (room : RoomConfig) (text : String) :
    GatewayError :=
  ⟨true, s!"Lost the Meltem gateway on {client.port} while reading room {room.key}: {text}"⟩

/-- `_gateway_operation` on another Modbus error. -/
def modbusError (room : RoomConfig) (text : String) : GatewayError :=
  ⟨false, s!"Modbus error while reading room {room.key}: {text}"⟩

/-- The blocks that were updated, with their fields. -/
abbrev Updated := Component → Option ComponentValues

/-- One round of the loop over the report in `_poll`. -/
def recordOutcome (started : Monotonic) (outcome : Component → ComponentOutcome)
    (done : RoomClient × ReadJob) (read : DueRead) : RoomClient × ReadJob :=
  let (client, job) := done
  let (component, groups) := read
  let cleared := { client with componentBackoff := client.componentBackoff.clear component }
  match outcome component with
  | .updated _ => (cleared, if component.isBridgeRf then job else job.unitSuccess groups)
  | .failed error =>
    if error.kind = .quarantined then (client, job.skip groups)
    else
      let job := (job.recordError groups error.text error.kind.noAnswer).silence error
      if error.kind = .acknowledge ∨
          (component.isOptionalDiagnostic = true ∧ error.kind.isException = true) then
        ({ client with
          componentBackoff := client.componentBackoff.markFailure componentReadBackoff component
            started }, job)
      else (cleared, job)

/-- Forget the failures of all requested blocks. -/
def RoomClient.clearAll (client : RoomClient) (reads : List DueRead) : RoomClient :=
  { client with
    componentBackoff := reads.foldl (fun backoff read => backoff.clear read.1)
      client.componentBackoff }

/-- The reads that are not backed off. -/
def RoomClient.activeReads (client : RoomClient) (started : Monotonic) (reads : List DueRead) :
    List DueRead :=
  reads.filter fun read => !client.componentBackoff.isActive started read.1

/-- The job after the backed-off reads are skipped. -/
def RoomClient.skipBackedOff (client : RoomClient) (started : Monotonic)
    (reads : List DueRead) (job : ReadJob) : ReadJob :=
  reads.foldl (fun job read =>
    if client.componentBackoff.isActive started read.1 then job.skip read.2 else job) job

/-- **`_poll`**: read the due blocks and record failures per health group. -/
def RoomClient.poll (client : RoomClient) (room : RoomConfig) (replies : RoomReplies)
    (reads : List DueRead) (job : ReadJob) :
    RoomClient × Except GatewayError (ReadJob × Updated) :=
  let active := client.activeReads replies.pollStarted reads
  let job := client.skipBackedOff replies.pollStarted reads job
  let client := { client with
    componentBackoff := reads.foldl (fun backoff read => backoff.expire replies.pollStarted read.1)
      client.componentBackoff }
  if active = [] then (client, .ok (job, fun _ => none))
  else
    let job := active.foldl (fun job read => job.attempt read.2) job
    match replies.poll with
    | .connectionLost text => (client.clearAll active, .error (client.lostGateway room text))
    | .raised text => (client, .error (modbusError room text))
    | .noAnswer error =>
      let job := active.foldl (fun job read => job.recordError read.2 error.text true)
        { job with silentError := some error }
      (client.clearAll active, .ok (job, fun _ => none))
    | .report outcome =>
      let (client, job) := active.foldl (recordOutcome replies.pollStarted outcome) (client, job)
      (client, .ok (job, fun component =>
        if active.any (·.1 = component) then
          match outcome component with
          | .updated values => some values
          | .failed _ => none
        else none))

/-- What `_fresh_values` makes of one due field; `none` where its block was not updated. -/
def fieldOutcome (room : RoomConfig) (updated : Updated) (field : RoomField) :
    Option FieldOutcome :=
  (updated (fieldRead room field).component).map fun values => decodeReading field (values field)

/-- One round of the loop of `_fresh_values`, as far as the job goes. -/
def recordField (room : RoomConfig) (updated : Updated) (job : ReadJob) (field : RoomField) :
    ReadJob :=
  let source := fieldRead room field
  match fieldOutcome room updated field with
  | none => job
  | some (.invalid repr) =>
    job.recordError [source.group] s!"Invalid {field.name} readback: {repr}"
  | some .missing => { job with missingSensorValues := insert field job.missingSensorValues }
  | some (.value value) =>
    { job with
      sensorValues :=
        if (plausibleRange field).isSome then insert field job.sensorValues else job.sensorValues
      valueGroups :=
        if value.isSome && !source.component.isBridgeRf then insert source.group job.valueGroups
        else job.valueGroups }

/-- **`_fresh_values`**, the job. -/
def recordFields (room : RoomConfig) (plan : RefreshPlan) (updated : Updated) (job : ReadJob) :
    ReadJob :=
  (roomFields.filter (isDue room plan)).foldl (recordField room updated) job

/-- **`_fresh_values`**, the values: a due field of an updated block, unless it is invalid. -/
def freshValue (room : RoomConfig) (plan : RefreshPlan) (updated : Updated)
    (previous : RoomField → Option FieldValue) (field : RoomField) : Option FieldValue :=
  if isDue room plan field then
    match fieldOutcome room updated field with
    | none | some (.invalid _) => previous field
    | some .missing => none
    | some (.value value) => value
  else previous field

/-- `_MODE_GROUPS`. -/
def modeGroups : List ReadGroup := [.flowControl, .intensive]

/-- **`_read_mode_block`**. Every profile has one of the entities of the status map. -/
def RoomClient.readModeBlock (client : RoomClient) (room : RoomConfig) (replies : RoomReplies)
    (job : ReadJob) : RoomClient × Except GatewayError (ReadJob × Option ModeRead) :=
  if client.modeBackoff.isActive replies.modeStarted () then
    (client, .ok (job.skip modeGroups, none))
  else
    let client := { client with
      modeBackoff := client.modeBackoff.expire replies.modeStarted () }
    match job.silentError with
    | some error =>
      (client, .ok (job.recordError modeGroups error.text error.kind.noAnswer, none))
    | none =>
      let job := job.attempt modeGroups
      match replies.mode with
      | .connectionLost text => (client, .error (client.lostGateway room text))
      | .failed error =>
        let client :=
          if error.kind.isException then
            { client with
              modeBackoff := client.modeBackoff.markFailure optionalReadBackoff ()
                replies.modeStarted }
          else client
        (client,
          .ok ((job.silence error).recordError modeGroups error.text error.kind.noAnswer, none))
      | .values block =>
        ({ client with modeBackoff := client.modeBackoff.clear () },
          .ok (job.unitSuccess modeGroups, some block))

/-! ### The result -/

/-- `ReadJobOutcome`: what one room read sent, and how each group of its plan fared. -/
structure ReadJobOutcome where
  attemptedGroups : Finset ReadGroup := ∅
  recordedGroups : Finset ReadGroup := ∅
  errors : ReadGroup → Option String := fun _ => none
  answered : Bool := false
  valueGroups : Finset ReadGroup := ∅
  unitSuccessGroups : Finset ReadGroup := ∅
  missingSensorValues : Finset RoomField := ∅
  sensorValues : Finset RoomField := ∅

/-- `RoomRead`: the state after one room read and what that read did. -/
structure RoomRead where
  state : UnitState
  outcome : ReadJobOutcome

/-- The groups of a plan that a room has. -/
def plannedGroups (room : RoomConfig) (plan : RefreshPlan) : Finset ReadGroup :=
  (plan.readGroups.filter fun group => room.supportsGroup group).toFinset

/-- The groups whose health a read records. -/
def recordedGroups (room : RoomConfig) (plan : RefreshPlan) (job : ReadJob) : Finset ReadGroup :=
  (plannedGroups room plan).filter fun group =>
    (job.errors group).isSome ∨ group ∉ job.skippedGroups

/-- **`_updated_read_health`**. -/
def updatedReadHealth (room : RoomConfig) (plan : RefreshPlan) (job : ReadJob) (clock : Clock)
    (previous : ReadGroup → ReadHealth) (group : ReadGroup) : ReadHealth :=
  if group ∈ plannedGroups room plan then
    match job.errors group with
    | some error => (previous group).failed clock.wall error (group ∈ job.timeouts)
    | none => if group ∈ job.skippedGroups then previous group else .succeeded clock
  else previous group

/-- The result that `read_room` builds from the job. -/
def roomRead (room : RoomConfig) (plan : RefreshPlan) (previous : UnitState)
    (replies : RoomReplies) (job : ReadJob) (state : UnitState) : RoomRead where
  state := { state with
    groupReadHealth := updatedReadHealth room plan job replies.finished previous.groupReadHealth }
  outcome := {
    attemptedGroups := job.attemptedGroups ∩ plannedGroups room plan
    recordedGroups := recordedGroups room plan job
    errors := fun group => if group ∈ recordedGroups room plan job then job.errors group else none
    answered := replies.answered
    valueGroups := job.valueGroups ∩ plannedGroups room plan
    unitSuccessGroups := job.unitSuccessGroups ∩ plannedGroups room plan
    missingSensorValues := job.missingSensorValues
    sensorValues := job.sensorValues }

/-- **`read_room`**: read all due state of one room and report what the read did. -/
def RoomClient.readRoom (client : RoomClient) (room : RoomConfig) (previous : UnitState)
    (plan : RefreshPlan) (replies : RoomReplies) :
    RoomClient × Except GatewayError RoomRead :=
  if client.shutDown then
    (client, .error ⟨true, s!"Meltem gateway client on {client.port} was shut down"⟩)
  else if replies.readDelayed then
    (client,
      .ok (roomRead room plan previous replies (({} : ReadJob).skip plan.readGroups) previous))
  else
    match client.poll room replies (dueReads (dueFields room plan)) {} with
    | (client, .error error) => (client, .error error)
    | (client, .ok (job, updated)) =>
      let job := recordFields room plan updated job
      let state := { previous with value := freshValue room plan updated previous.value }
      if plan.refreshAirflow then
        match client.readModeBlock room replies job with
        | (client, .error error) => (client, .error error)
        | (client, .ok (job, block)) =>
          (client, .ok (roomRead room plan previous replies job (state.applyModeRead room block)))
      else (client, .ok (roomRead room plan previous replies job state))

end MeltemVentilation
