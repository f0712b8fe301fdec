import MeltemVentilation.Const
import MeltemVentilation.Lib.FirstFree

/-!
# Rooms from a scan of the gateway

The functions of `flow_helpers.py` that turn the units found on a gateway into room entries:
`match_existing_rooms` finds out which of them are known already, by setup code and then by
address, and `build_rooms_from_profiles` makes an entry for each, with the key and the name
of the known room or new ones.

A dictionary from addresses is the list of its pairs in insertion order. A room is a record
of the values that are read here; of the values that may be missing in it, only those are
optional that a stored unit can be without.
-/

namespace MeltemVentilation

open FirstFree

/-! ### Values -/

/-- A room entry, or the data of a stored unit with its title as the name. -/
structure UnitRoom where
  key : String
  name : String
  slave : ℕ
  profile : Profile
  preview : Option String := none
  productId : Option ℤ := none
  appSetupCode : Option String := none
  nameIsDeviceName : Bool := false
deriving DecidableEq, Repr

/-- `UnitProbeResult`, what the setup-time probe collects of a unit. -/
structure UnitProbeResult where
  preview : Option String := none
  productId : Option ℤ := none
  appSetupCode : Option String := none
deriving DecidableEq, Repr

/-- The operator `or` on a text that may be missing: an empty text counts as missing. -/
def orElse (text other : Option String) : Option String :=
  match text with
  | some "" | none => other
  | some text => some text

/-! ### Matching -/

section Matching

variable (slaves : List ℕ) (probes : List (ℕ × UnitProbeResult))
  (existing : List (ℕ × UnitRoom))

/-- The setup code that was probed at an address. -/
def probedCode (slave : ℕ) : Option String :=
  (probes.lookup slave).bind (·.appSetupCode)

/-- `probed_codes`: how often a code was probed at the discovered addresses. -/
def probedCount (code : String) : ℕ :=
  slaves.countP fun slave => probedCode probes slave = some code

/-- `stored_codes`: how often a code is stored. -/
def storedCount (code : String) : ℕ :=
  existing.countP fun entry => entry.2.appSetupCode = some code

/-- The stored room, with its old address, that the setup code of a unit belongs to, if the
code is unique among the units found and among the stored ones. -/
def codeMatch (slave : ℕ) : Option (ℕ × UnitRoom) :=
  (probedCode probes slave).bind fun code =>
    if probedCount slaves probes code = 1 ∧ storedCount existing code = 1 then
      existing.find? fun entry => entry.2.appSetupCode = some code
    else none

/-- **`match_existing_rooms`**: the units that their setup codes identify, and then those
at an address whose room no unit has claimed. -/
def matchExistingRooms : List (ℕ × UnitRoom) :=
  let matched := slaves.filterMap fun slave =>
    (codeMatch slaves probes existing slave).map fun entry => (slave, entry)
  let claimed := matched.map fun entry => entry.2.1
  (matched.map fun entry => (entry.1, { entry.2.2 with slave := entry.1 })) ++
    slaves.filterMap fun slave =>
      if slave ∉ matched.map Prod.fst ∧ slave ∉ claimed then
        (existing.lookup slave).map fun room => (slave, { room with slave := slave })
      else none

end Matching

/-! ### Building -/

/-- `profile_label`. -/
def profileLabel : Profile → String
  | .sPlain => "M-WRG-S"
  | .sF => "M-WRG-S (-F)"
  | .sFc => "M-WRG-S (-FC)"
  | .iiPlain => "M-WRG-II"
  | .iiF => "M-WRG-II (-F)"
  | .iiFc => "M-WRG-II (-FC)"
  | .iiFcVoc => "M-WRG-II (O/VOC-AUL)"

/-- The `n`-th key that is tried for a room: the preferred one, then one with a suffix. -/
def suffixedKey (preferred : String) : ℕ → String
  | 0 => preferred
  | n + 1 => preferred ++ "_" ++ toString (n + 2)

/-- The `n`-th name that is tried for a room. -/
def suffixedName (base : String) : ℕ → String
  | 0 => base
  | n + 1 => base ++ " (" ++ toString (n + 2) ++ ")"

/-- `default_room_name`. -/
def defaultRoomName (profile : Profile) (appSetupCode : Option String)
    (usedNames : List String) : String :=
  let family := ((profileLabel profile).splitOn " (").headD ""
  let base := "Meltem " ++ family
  let base := match orElse appSetupCode none with
    | some code => base ++ " (" ++ code ++ ")"
    | none => base
  firstFree (suffixedName base) usedNames

/-- The key that a new unit prefers. -/
def slaveKey (slave : ℕ) : String := "slave_" ++ toString slave

/-- `_retained_app_setup_code`: the stored code of a unit that was not probed, unless another
unit now has it. -/
def retainedAppSetupCode (room : Option UnitRoom) (probedCodes : List String) :
    Option String :=
  (room.bind (·.appSetupCode)).filter (· ∉ probedCodes)

section Building

variable (selectedProfiles : ℕ → Profile) (probes : List (ℕ × UnitProbeResult))
  (matched : List (ℕ × UnitRoom))

/-- The key of the room of one unit: that of a known room is only given up to one built
before, and a new one keeps off all of them. -/
def roomKey (usedRoomKeys : List String) (slave : ℕ) : String :=
  match matched.lookup slave with
  | some room =>
    firstFree (suffixedKey (if room.key = "" then slaveKey slave else room.key)) usedRoomKeys
  | none =>
    firstFree (suffixedKey (slaveKey slave)) (usedRoomKeys ++ matched.map (·.2.key))

/-- The body of the loop of `build_rooms_from_profiles`. -/
def buildRoom (usedRoomKeys usedNames : List String) (slave : ℕ) : UnitRoom :=
  let room := matched.lookup slave
  let probe := probes.lookup slave
  let appSetupCode := ((probe.bind (·.appSetupCode)).or
    (retainedAppSetupCode room (probes.filterMap (·.2.appSetupCode))))
  let name := orElse (room.map (·.name)) none
  { key := roomKey matched usedRoomKeys slave
    name := name.getD (defaultRoomName (selectedProfiles slave) appSetupCode usedNames)
    slave := slave
    profile := selectedProfiles slave
    preview := orElse (probe.bind (·.preview)) (room.bind (·.preview))
    productId := (probe.bind (·.productId)).or (room.bind (·.productId))
    appSetupCode := appSetupCode
    nameIsDeviceName := name.isNone || room.any (·.nameIsDeviceName) }

/-- The loop of `build_rooms_from_profiles`. -/
def buildRooms : List ℕ → List String → List String → List UnitRoom
  | [], _, _ => []
  | slave :: slaves, usedRoomKeys, usedNames =>
    let room := buildRoom selectedProfiles probes matched usedRoomKeys usedNames slave
    room :: buildRooms slaves (room.key :: usedRoomKeys) (room.name :: usedNames)

end Building

/-- **`build_rooms_from_profiles`**: the room entries for the units found. -/
def buildRoomsFromProfiles (slaves : List ℕ) (selectedProfiles : ℕ → Profile)
    (probes : List (ℕ × UnitProbeResult)) (existing : List (ℕ × UnitRoom)) : List UnitRoom :=
  let matched := matchExistingRooms slaves probes existing
  buildRooms selectedProfiles probes matched slaves [] (matched.map (·.2.name))

end MeltemVentilation
