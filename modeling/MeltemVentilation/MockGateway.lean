import MeltemVentilation.Lib.Dict
import MeltemVentilation.Lib.Transition
import MeltemVentilation.MockModel
import MeltemVentilation.ModbusClient.RefreshPlan
import MeltemVentilation.PreviewMigration
import Mathlib.Order.Interval.Finset.Nat

/-!
# The simulated gateway

`MockGatewayModel` of `tools/_mock_model.py`: the registers of a gateway and of its units, and
the calls that change them. The devices are a dictionary by address, in which the gateway has
the address 1. A unit keeps its registers when it is no longer paired; the gateway lists the
paired units in the order in which they were paired.

Left out are the warm-up and the silent units, which only change how requests are answered,
and the count of the writes. Where a call raises, nothing has been changed, except that a
change by the app has dropped a write that was settling (`MockGatewayModel.appChange`).
-/

namespace MeltemVentilation

/-! ### Errors -/

/-- What the calls raise, a `ValueError`. -/
inductive MockError where
  /-- `unknown profile …; choose from …`. -/
  | unknownProfile (profile : String)
  /-- `unit addresses must be between 2 and 16`. -/
  | unitAddress
  /-- `no unit … is configured`. -/
  | noUnit (address : ℕ)
  /-- `this needs a unit address, not the gateway`. -/
  | needsUnit
  /-- `registers and values must be between 0 and 65535`. -/
  | registerRange
  /-- `expected off, low, medium, high, intensive, or an airflow in m3/h, not …`. -/
  | notAnAirflow (text : String)
  /-- `the airflow must be between 0 and … m3/h`. -/
  | airflowRange (maxAirflow : ℤ)

/-! ### Registers -/

/-- The registers of a device, by number. -/
abbrev Registers := Dict ℕ ℕ

/-- `GATEWAY_ADDRESS`. -/
def gatewayAddress : ℕ := 1

/-- `SET_REGISTERS`, from `REGISTER_MODE` to `REGISTER_PRESET_VALUE`. -/
def setRegisters : List ℕ := List.range' 41120 5

/-- `REGISTER_APPLY`. -/
def registerApply : ℕ := 41132

/-- `REGISTER_GATEWAY_NUMBER_OF_NODES`. -/
def registerNumberOfNodes : ℕ := 43901

/-- `REGISTER_GATEWAY_NODE_ADDRESS_1`. -/
def registerNodeAddress1 : ℕ := 43902

/-- `REGISTER_GATEWAY_UTC_CLOCK`. -/
def registerUtcClock : ℕ := 41015

/-- `REGISTER_GATEWAY_UPTIME`. -/
def registerUptime : ℕ := 41019

/-- `UNIT_READABLE_RANGES`. -/
def unitReadableRanges : List (ℕ × ℕ) :=
  [(40000, 40022), (40024, 40033), (40041, 40041), (40050, 40051), (40071, 40071),
    (40100, 40104), (40109, 40110), (40120, 40120), (40200, 40209), (41000, 41034),
    (41100, 41113), (42000, 42009)]

/-- `GATEWAY_READABLE_RANGES`. -/
def gatewayReadableRanges : List (ℕ × ℕ) :=
  [(41012, 41016), (41019, 41020), (42100, 42105), (43901, 43917)]

/-- `in_ranges`. -/
def inRanges (register : ℕ) (ranges : List (ℕ × ℕ)) : Bool :=
  ranges.any fun (first, last) => first ≤ register ∧ register ≤ last

/-- `word_swapped_u32`; a float is given by the bits of its single precision. -/
def wordSwappedU32 (address value : ℕ) : List (ℕ × ℕ) :=
  [(address, value % 65536), (address + 1, value / 65536 % 65536)]

/-- The registers of some ranges, all zero. -/
def zeroRegisters (ranges : List (ℕ × ℕ)) : List (ℕ × ℕ) :=
  ranges.flatMap fun (first, last) => (List.range' first (last + 1 - first)).map fun r => (r, 0)

/-- The key of a profile in `PROFILE_METADATA`. -/
def Profile.text : Profile → String
  | .sPlain => "s_plain"
  | .sF => "s_f"
  | .sFc => "s_fc"
  | .iiPlain => "ii_plain"
  | .iiF => "ii_f"
  | .iiFc => "ii_fc"
  | .iiFcVoc => "ii_fc_voc"

/-- The profiles, in the order of `PROFILE_METADATA`. -/
def allProfiles : List Profile := [.sPlain, .sF, .sFc, .iiPlain, .iiF, .iiFc, .iiFcVoc]

/-- What `unit_registers` sets after the zeros, in order: 21.5, 8, 19 and 17.5 degrees are given
by their bits. -/
def unitValues (profile : Profile) (appSetupCode : ℕ) : List (ℕ × ℕ) :=
  let productId := match profile with
    | .sPlain | .sF | .sFc => 116819
    | .iiPlain | .iiF | .iiFc | .iiFcVoc => 116852
  wordSwappedU32 40002 productId ++
  [(40000, appSetupCode), (40001, 0),
    (41006, if profile.hasHumidity then 48 else 239),
    (41011, if profile.hasHumidity then 44 else 239),
    (41007, if profile.hasCo2 then 720 else 32767),
    (41013, if profile.hasVoc then 360 else 32767),
    (41008, if profile.hasVoc then 340 else 32767),
    (41012, if profile.hasVoc then 650 else 32767)] ++
  wordSwappedU32 41000 0x41AC0000 ++ wordSwappedU32 41002 0x41000000 ++
  wordSwappedU32 41004 0x41980000 ++ wordSwappedU32 41009 0x418C0000 ++
  wordSwappedU32 41030 12345 ++ wordSwappedU32 41032 6789 ++
  [(41027, 120), (41020, 40), (41021, 40), (42000, 55), (42001, 20), (42002, 60), (42003, 800),
    (42004, 30), (42005, 50), (42007, 60), (42008, 1), (42009, 15), (41015, 0xBFF8), (41019, 31),
    (41113, 425), (42006, 12), (41100, modeManual), (41101, 80), (41102, 80),
    (41120, modeManual), (41121, 80), (41122, 80), (41123, 0), (41124, 0), (registerApply, 0)]

/-- `unit_registers`. -/
@[irreducible] def unitRegisters (profile : Profile) (appSetupCode : ℕ) : Registers :=
  Dict.update (Dict.update ∅ (zeroRegisters unitReadableRanges)) (unitValues profile appSetupCode)

/-- What `gateway_registers` sets after the zeros: the loads are 18.5 and 12.25 percent. -/
def gatewayValues : List (ℕ × ℕ) :=
  [(41012, 0x0200), (41013, 0), (41014, 1), (42100, 75), (42101, 147)] ++
  wordSwappedU32 42102 0x41940000 ++ wordSwappedU32 42104 0x41440000

/-- `gateway_registers`. -/
@[irreducible] def gatewayRegisters : Registers :=
  Dict.update (Dict.update ∅ (zeroRegisters gatewayReadableRanges)) gatewayValues

/-! ### Devices -/

/-- `_Device`; the gateway has no profile. -/
structure MockDevice where
  profile : Option Profile
  registers : Registers
  readableRanges : List (ℕ × ℕ)
  readableExtra : Finset ℕ := ∅
  refused : Finset ℕ := ∅
  written : Finset ℕ := ∅
  /-- A write that settles: when, and what it will change. -/
  pending : Option (Monotonic × List (ℕ × ℕ)) := none

/-- `_status`, with the extract and supply airflow unless they stay. -/
def statusUpdates (status : ModeRead) (airflow : Option (ℤ × ℤ)) : List (ℕ × ℕ) :=
  [(41100, status.mode), (41101, status.currentLevel), (41102, status.extractTargetLevel)] ++
    match airflow with
    | some (extract, supply) => [(41020, extract.toNat), (41021, supply.toNat)]
    | none => []

namespace MockDevice

variable (device : MockDevice)

/-- `readable`. -/
def readable (register : ℕ) : Bool :=
  inRanges register device.readableRanges || register ∈ device.readableExtra ||
    (device.profile.isSome && register ∈ setRegisters)

/-- `_settle`. -/
def settle (now : Monotonic) : MockDevice :=
  match device.pending with
  | none => device
  | some (due, updates) =>
    if due ≤ now then
      { device with registers := Dict.update device.registers updates, pending := none }
    else device

/-- `registers.get(register, default)`. -/
def value (register default : ℕ) : ℕ := (device.registers.lookup register).getD default

/-- The mode registers of a unit, with the defaults of those that are missing. -/
def modeUnit (profile : Profile) : MockUnit where
  profile := profile
  set
    | .mode => device.value 41120 modeManual
    | .currentLevel => device.value 41121 0
    | .extractTargetLevel => device.value 41122 (device.value 41121 0)
    | .presetMode => device.value 41123 0
    | .presetValue => device.value 41124 0
  status := ⟨device.value 41100 0, device.value 41101 0, device.value 41102 0⟩
  extractAirFlow := device.value 41020 0
  supplyAirFlow := device.value 41021 0

/-- `_mode_updates`. -/
def modeUpdates (profile : Profile) : List (ℕ × ℕ) :=
  let updates := (device.modeUnit profile).modeUpdates
  statusUpdates updates.1 updates.2

/-- `_commit`, which only units get to. -/
def commit (settleSeconds now : Monotonic) : MockDevice :=
  match device.profile with
  | none => device
  | some profile =>
    if settleSeconds = 0 then
      { device with
        registers := Dict.update device.registers (device.modeUpdates profile), pending := none }
    else { device with pending := some (now + settleSeconds, device.modeUpdates profile) }

/-- Set a register, which can be read from then on. -/
def setValue (register value : ℕ) : MockDevice :=
  { device with
    registers := device.registers.insert register value
    readableExtra :=
      if device.readable register then device.readableExtra
      else insert register device.readableExtra }

end MockDevice

/-- `validate_profile`. -/
def validateProfile (profile : String) : Except MockError Profile :=
  match allProfiles.find? (·.text = profile) with
  | some found => .ok found
  | none => .error (.unknownProfile profile)

/-- `validate_unit_address`. -/
def validateUnitAddress (address : ℤ) : Except MockError ℕ :=
  if 2 ≤ address ∧ address ≤ 16 then .ok address.toNat else .error .unitAddress

/-- `_new_unit`. -/
def newMockUnit (address : ℕ) (profile : Profile) : MockDevice where
  profile := some profile
  registers := unitRegisters profile (0xA000 + address)
  readableRanges := unitReadableRanges

/-! ### The gateway and its units -/

/-- `MockGatewayModel`. -/
structure MockGatewayModel where
  settleSeconds : Monotonic
  clockOffset : ℤ := 0
  /-- `_devices`. -/
  devices : Dict ℕ MockDevice
  /-- The paired units, in the order in which they were paired. -/
  paired : List ℕ
  boot : Monotonic
  uptimeAtBoot : ℕ := 12345

/-- What the list of the units shows. -/
def nodeList (paired : List ℕ) : List (ℕ × ℕ) :=
  (registerNumberOfNodes, paired.length) ::
    (List.range 16).map fun index => (registerNodeAddress1 + index, paired.getD index 0)

namespace MockGatewayModel

variable (s : MockGatewayModel)

/-- `_device`. -/
def device (address : ℕ) : Except MockError MockDevice :=
  match s.devices.lookup address with
  | some device => .ok device
  | none => .error (.noUnit address)

/-- `_unit`, with its profile. -/
def unit (address : ℕ) : Except MockError (MockDevice × Profile) := do
  let device ← s.device address
  match device.profile with
  | some profile => return (device, profile)
  | none => throw .needsUnit

/-- A device is changed. -/
def setDevice (address : ℕ) (device : MockDevice) : MockGatewayModel :=
  { s with devices := s.devices.insert address device }

/-- The registers of the gateway are updated. -/
def updateGateway (entries : List (ℕ × ℕ)) : MockGatewayModel :=
  match s.devices.lookup gatewayAddress with
  | some gateway => s.setDevice gatewayAddress
      { gateway with registers := Dict.update gateway.registers entries }
  | none => s

/-- `_sync_node_list`. -/
def syncNodeList : MockGatewayModel := s.updateGateway (nodeList s.paired)

/-- What the clock and the uptime show. -/
def clockEntries (now : Monotonic) (wallSeconds : ℤ) : List (ℕ × ℕ) :=
  wordSwappedU32 registerUptime (s.uptimeAtBoot + (now - s.boot) / seconds 1) ++
    wordSwappedU32 registerUtcClock ((wallSeconds + s.clockOffset) % 4294967296).toNat

/-- `_refresh_gateway_clock`. -/
def refreshGatewayClock (now : Monotonic) (wallSeconds : ℤ) : MockGatewayModel :=
  s.updateGateway (s.clockEntries now wallSeconds)

/-- A unit is new, unless it is known with that profile. -/
def addUnit (address : ℕ) (profile : Profile) : MockGatewayModel :=
  if (s.devices.lookup address).any (·.profile = some profile) then s
  else s.setDevice address (newMockUnit address profile)

/-- A unit is listed, once. -/
def listUnit (address : ℕ) : MockGatewayModel :=
  if address ∈ s.paired then s else { s with paired := s.paired ++ [address] }

/-- What `pair` does with a valid address and profile. -/
def pairUnit (address : ℕ) (profile : Profile) : MockGatewayModel :=
  ((s.addUnit address profile).listUnit address).syncNodeList

/-- `pair`. -/
def pair (address : ℤ) (profile : String) : Except MockError MockGatewayModel := do
  let address ← validateUnitAddress address
  let profile ← validateProfile profile
  return s.pairUnit address profile

/-- `unpair`. -/
def unpair (address : ℕ) : Except MockError MockGatewayModel := do
  let _ ← s.unit address
  return { s with paired := s.paired.erase address }.syncNodeList

/-- `set_register`. -/
def setRegister (now : Monotonic) (address : ℕ) (register value : ℤ) :
    Except MockError MockGatewayModel := do
  if ¬(0 ≤ register ∧ register ≤ 0xFFFF ∧ 0 ≤ value ∧ value ≤ 0xFFFF) then throw .registerRange
  let device ← s.device address
  return s.setDevice address ((device.settle now).setValue register.toNat value.toNat)

/-- `refuse`, for the registers from the first to the last one. -/
def refuse (address first last : ℕ) (refused : Bool) : Except MockError MockGatewayModel := do
  let device ← s.device address
  let registers := Finset.Icc first last
  return s.setDevice address { device with
    refused := if refused then device.refused ∪ registers else device.refused \ registers }

/-- `write`, with the exception code of a refusal. -/
def write (now : Monotonic) (address register value : ℕ) :
    Except MockError (Option ℕ × MockGatewayModel) := do
  let device ← s.device address
  if device.profile.isNone ∨ register ∈ device.refused then return (some 2, s)
  let device := device.settle now
  let device := { device with
    registers := device.registers.insert register value
    written := if register ∈ setRegisters then insert register device.written
      else device.written }
  let device := if register = registerApply ∧ value = 0 then device.commit s.settleSeconds now
    else device
  return (none, s.setDevice address device)

/-- `_parse_airflow`. -/
def parseAirflow (text : String) (maxAirflow : ℤ) : Except MockError ℤ :=
  match parseInt text with
  | none => .error (.notAnAirflow text)
  | some airflow =>
    if 0 ≤ airflow ∧ airflow ≤ maxAirflow then .ok airflow else .error (.airflowRange maxAirflow)

/-- `QUICK_MODE_CODES`. -/
def quickModeCodes : List (String × ℕ) := [("low", 228), ("medium", 229), ("high", 230)]

/-- What the app shows after a change: off, intensive, a quick mode or an airflow. -/
def appUpdates (profile : Profile) (supply : String) (extract : Option String) :
    Except MockError (List (ℕ × ℕ)) := do
  let maxAirflow := profileMaxAirflow profile
  if supply = "off" then return statusUpdates ⟨modeOff, 0, 0⟩ (some (0, 0))
  else if supply = "intensive" then
    let airflow := airflowOfRaw presetModeCodeIntensive maxAirflow true
    return statusUpdates ⟨0, 0, 0⟩ (some (airflow, airflow))
  else
    match quickModeCodes.lookup supply with
    | some code =>
      let airflow := airflowOfRaw code maxAirflow true
      return statusUpdates ⟨modeManual, code, code⟩ (some (airflow, airflow))
    | none =>
      let supplyAirflow ← parseAirflow supply maxAirflow
      let extractAirflow ← match extract with
        | none => pure supplyAirflow
        | some extract => parseAirflow extract maxAirflow
      let supplyRaw := (HalfEven.round (supplyAirflow * 200) maxAirflow).toNat
      let extractRaw := (HalfEven.round (extractAirflow * 200) maxAirflow).toNat
      let mode := if supplyRaw = extractRaw then modeManual else modeUnbalanced
      return statusUpdates ⟨mode, supplyRaw, extractRaw⟩ (some (extractAirflow, supplyAirflow))

/-- `app_change`, with what is left where it raises. -/
def appChange (address : ℕ) (supply : String) (extract : Option String) :
    Except MockError Unit × MockGatewayModel :=
  match s.unit address with
  | .error error => (.error error, s)
  | .ok (device, profile) =>
    let device := { device with pending := none }
    match appUpdates profile supply extract with
    | .error error => (.error error, s.setDevice address device)
    | .ok updates => (.ok (), s.setDevice address
        { device with registers := Dict.update device.registers updates })

end MockGatewayModel

/-! ### Runs -/

/-- The calls that change registers. The words of a write are those of its frame, and what is
refused has been checked by `parse_register_range`. -/
inductive MockCall where
  | write (address : ℕ) (register value : UInt16)
  | setRegister (address : ℕ) (register value : ℤ)
  | refuse (address : ℕ) (first last : UInt16) (refused : Bool)
  | pair (address : ℤ) (profile : String)
  | unpair (address : ℕ)
  | appChange (address : ℕ) (supply : String) (extract : Option String)

namespace MockGatewayModel

/-- What a call at a time leaves, also where it raises. -/
def perform (s : MockGatewayModel) (now : Monotonic) : MockCall → MockGatewayModel
  | .write address register value =>
    ((s.write now address register.toNat value.toNat).toOption.map (·.2)).getD s
  | .setRegister address register value =>
    (s.setRegister now address register value).toOption.getD s
  | .refuse address first last refused =>
    (s.refuse address first.toNat last.toNat refused).toOption.getD s
  | .pair address profile => (s.pair address profile).toOption.getD s
  | .unpair address => (s.unpair address).toOption.getD s
  | .appChange address supply extract => (s.appChange address supply extract).2

/-- One call, as a step. -/
def step (s : MockGatewayModel) (call : Monotonic × MockCall) : Option MockGatewayModel :=
  some (s.perform call.1 call.2)

/-- The gateway of a new model, before it lists the units. -/
def newGateway : MockDevice :=
  ⟨none, gatewayRegisters, gatewayReadableRanges, ∅, ∅, ∅, none⟩

/-- One unit of a new model. -/
def newDevice (devices : Dict ℕ MockDevice) (unit : ℤ × String) :
    Except MockError (Dict ℕ MockDevice) := do
  let profile ← validateProfile unit.2
  let address ← validateUnitAddress unit.1
  return devices.insert address (newMockUnit address profile)

/-- `MockGatewayModel.__init__`: the units by address, with their profiles, and whether the
gateway lists none of them. -/
def new (units : Dict ℤ String) (noUnits : Bool) (settleSeconds boot : Monotonic) :
    Except MockError MockGatewayModel := do
  let devices ← units.items.foldlM newDevice (Finmap.singleton gatewayAddress newGateway)
  let paired := if noUnits then [] else units.items.map fun unit => unit.1.toNat
  return syncNodeList
    { settleSeconds := settleSeconds, devices := devices, paired := paired, boot := boot }

/-- A model as it is constructed. -/
def Constructed (s : MockGatewayModel) : Prop :=
  ∃ units noUnits settleSeconds boot, new units noUnits settleSeconds boot = .ok s

/-- The models that the calls reach, in any order and at any times. -/
abbrev Reached (s : MockGatewayModel) : Prop :=
  Transition.Reach step (fun _ _ => True) Constructed s

/-- No write is settling. -/
def Idle (s : MockGatewayModel) : Prop :=
  ∀ address device, s.devices.lookup address = some device → device.pending = none

end MockGatewayModel

end MeltemVentilation
