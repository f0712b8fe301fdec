import MeltemVentilation.PreviewMigration
import MeltemVentilation.StoredUnits
import Mathlib.Data.Finset.Sort
import Mathlib.Data.Prod.Lex
import Mathlib.Data.String.Basic

/-!
# The devices of the units

`_room_configs` and `_async_sync_devices` of `__init__.py`. The device of a unit is known by the
key of the unit and, where there is one, by its setup code, so that a unit that has got another
address is found again by its code. Home Assistant adds all identifiers of a unit to the device
that has one of them. Two units would become one device if an identifier of one of them were
held by the device of the other, which the keys alone exclude; the codes may have moved in the
meantime, or be stored for several units.

A code that is stored for several units is used for none of them (`roomConfigs`). The devices
of units that are gone are removed, and the other ones lose the codes that are not theirs any
more (`syncDevices`). The theorem `syncDevices_separate` says that this is enough, whatever the
registry has held before: afterwards each device has identifiers of one unit only
(`OfOneUnit`), and adding the units, in any order and any number of times, keeps it so.

A unit is stored with a key that is told from the other identifiers and with a code that is not
empty (`Storable`). That is no restriction: the keys and codes that a rescan stores are such
(`storable_buildRoomsFromProfiles`), and the migration takes no other codes.

The registry is kept by Home Assistant. Its calls are the parameter `DeviceApi`, of which only
what is documented of them is used (`DeviceApi.Documented`).
-/

namespace MeltemVentilation

open FirstFree Transition

/-! ### Identifiers -/

/-- A domain and a text. -/
abbrev Identifier := String × String

/-- `DOMAIN`. -/
def domain : String := "meltem_ventilation"

/-- `APP_SETUP_CODE_IDENTIFIER_PREFIX`. -/
def appSetupCodeIdentifierPrefix : String := "app_setup_code:"

/-- `gateway_identifiers`. -/
def gatewayIdentifiers (entryId : String) : Finset Identifier := {(domain, entryId)}

/-- `room_identifiers`. -/
def roomIdentifiers (room : UnitRoom) : Finset Identifier :=
  match room.appSetupCode with
  | none => {(domain, room.key)}
  | some code => {(domain, room.key), (domain, appSetupCodeIdentifierPrefix ++ code)}

/-- A text that may be the key of a unit: not the id of the entry, by which the gateway is
known, and not the identifier of a code. -/
def IsUnitKey (entryId key : String) : Prop :=
  key ≠ entryId ∧ startsWith appSetupCodeIdentifierPrefix key = false

instance (entryId key : String) : Decidable (IsUnitKey entryId key) :=
  inferInstanceAs (Decidable (_ ∧ _))

/-! ### The configured units -/

section Rooms

variable {Id : Type}

/-- `ambiguous`: the keys of the units whose code is stored for several units. -/
def ambiguousKeys (rooms : List UnitRoom) : List String :=
  let codeCount code := rooms.countP (·.appSetupCode = some code)
  (rooms.filter fun room =>
    room.appSetupCode.any fun code => code ≠ "" ∧ 1 < codeCount code).map (·.key)

/-- **`_room_configs`**: a code that is stored for several units identifies none of them. -/
def roomConfigs (subentries : List (StoredSubentry Id)) : List UnitRoom :=
  let rooms := (unitSubentries subentries).map (·.room)
  let ambiguous := ambiguousKeys rooms
  if ambiguous = [] then rooms
  else rooms.map fun room =>
    if room.key ∈ ambiguous then { room with appSetupCode := none } else room

end Rooms

/-! ### The registry -/

/-- A device, as the registry has it. -/
structure DeviceEntry (Id : Type) where
  id : Id
  identifiers : Finset Identifier
deriving DecidableEq

/-- The calls for the devices of one configuration entry; `none` where a call raises. -/
structure DeviceApi (Id Store : Type) where
  /-- `async_entries_for_config_entry`. -/
  devices : Store → List (DeviceEntry Id)
  /-- `async_get_or_create`, with the identifiers. -/
  getOrCreate : Store → Finset Identifier → Option Store
  /-- `async_remove_device`. -/
  removeDevice : Store → Id → Option Store
  /-- `async_update_device`, with `new_identifiers`. -/
  updateIdentifiers : Store → Id → Finset Identifier → Option Store
  /-- The order in which a set is iterated over. -/
  iterate : Finset Identifier → List Identifier

/-- **What is documented of the calls**: each does what it says if its device exists and no
other one has one of the identifiers that it sets. -/
structure DeviceApi.Documented {Id Store : Type} (api : DeviceApi Id Store) : Prop where
  ids : ∀ s, ((api.devices s).map (·.id)).Nodup
  mem_iterate : ∀ identifiers i, i ∈ api.iterate identifiers ↔ i ∈ identifiers
  remove : ∀ s, ∀ device ∈ api.devices s, ∃ t, api.removeDevice s device.id = some t ∧
    ∀ d, d ∈ api.devices t ↔ d ∈ api.devices s ∧ d.id ≠ device.id
  update : ∀ s, ∀ device ∈ api.devices s, ∀ identifiers,
    (∀ other ∈ api.devices s, other.id ≠ device.id → Disjoint other.identifiers identifiers) →
    ∃ t, api.updateIdentifiers s device.id identifiers = some t ∧
      ∀ d, d ∈ api.devices t ↔
        d = ⟨device.id, identifiers⟩ ∨ d ∈ api.devices s ∧ d.id ≠ device.id
  /-- A device that has one of the identifiers gets the other ones. -/
  merge : ∀ s, ∀ device ∈ api.devices s, ∀ identifiers,
    ¬Disjoint device.identifiers identifiers →
    (∀ other ∈ api.devices s, other.id ≠ device.id → Disjoint other.identifiers identifiers) →
    ∃ t, api.getOrCreate s identifiers = some t ∧
      ∀ d, d ∈ api.devices t ↔ d = ⟨device.id, device.identifiers ∪ identifiers⟩ ∨
        d ∈ api.devices s ∧ d.id ≠ device.id
  /-- If no device has one of them, there is a new one. -/
  create : ∀ s identifiers, (∀ other ∈ api.devices s, Disjoint other.identifiers identifiers) →
    ∃ t id, api.getOrCreate s identifiers = some t ∧ (∀ other ∈ api.devices s, other.id ≠ id) ∧
      ∀ d, d ∈ api.devices t ↔ d = ⟨id, identifiers⟩ ∨ d ∈ api.devices s

/-- No identifier is held by two devices. -/
def DistinctIdentifiers {Id : Type} (devices : List (DeviceEntry Id)) : Prop :=
  ∀ d ∈ devices, ∀ d' ∈ devices, d.id ≠ d'.id → Disjoint d.identifiers d'.identifiers

instance {Id : Type} [DecidableEq Id] (devices : List (DeviceEntry Id)) :
    Decidable (DistinctIdentifiers devices) :=
  inferInstanceAs (Decidable (∀ d ∈ devices, ∀ d' ∈ devices,
    d.id ≠ d'.id → Disjoint d.identifiers d'.identifiers))

/-! ### Aligning the devices -/

section Sync

variable {Id Store : Type} (api : DeviceApi Id Store) (entryId : String) (rooms : List UnitRoom)

/-- `configured`: the identifiers that keep a device. -/
def configuredIdentifiers : Finset Identifier :=
  (rooms.map fun room => (domain, room.key)).toFinset ∪ gatewayIdentifiers entryId

/-- `room_key`: a key of a configured unit that the device has, if there is one. -/
def roomKeyOf (device : DeviceEntry Id) : Option String :=
  ((api.iterate device.identifiers).find? fun i =>
    i.1 = domain ∧ i.2 ∈ rooms.map (·.key)).map Prod.snd

/-- `stale`: the identifiers of codes that the unit does not report any more. -/
def staleIdentifiers (expected : Finset Identifier) (device : DeviceEntry Id) :
    Finset Identifier :=
  device.identifiers.filter fun i =>
    i.1 = domain ∧ startsWith appSetupCodeIdentifierPrefix i.2 ∧ i ∉ expected

/-- One round of the loop of `_async_sync_devices`. The identifiers that are expected of a key
are those of the last unit that has it. -/
def syncDevice (s : Store) (device : DeviceEntry Id) : Option Store :=
  if Disjoint device.identifiers (configuredIdentifiers entryId rooms) then
    api.removeDevice s device.id
  else
    match roomKeyOf api rooms device with
    | none => some s
    | some key =>
      let expected := ((rooms.reverse.find? (·.key = key)).map roomIdentifiers).getD ∅
      let stale := staleIdentifiers expected device
      if stale = ∅ then some s
      else api.updateIdentifiers s device.id (device.identifiers \ stale)

/-- **`_async_sync_devices`**: the loop is over the devices that there are when it begins. -/
def syncDevices (s : Store) : Option Store :=
  (api.getOrCreate s (gatewayIdentifiers entryId)).bind fun s =>
    (api.devices s).foldlM (syncDevice api entryId rooms) s

end Sync

/-! ### Codes of the configured units -/

section Codes

variable {Id : Type} {subentries : List (StoredSubentry Id)} {room other : UnitRoom}

/-- The units that are configured are the stored ones, some of them without their codes. -/
theorem of_mem_roomConfigs (h : room ∈ roomConfigs subentries) :
    ∃ subentry ∈ subentries, room.key = subentry.room.key ∧
      ∀ code, room.appSetupCode = some code → subentry.room.appSetupCode = some code := by
  have hstored : ∀ room ∈ (unitSubentries subentries).map (·.room),
      ∃ subentry ∈ subentries, subentry.room = room := by
    intro room hroom
    obtain ⟨subentry, hmem, rfl⟩ := List.mem_map.mp hroom
    exact ⟨subentry, List.mem_mergeSort.mp hmem, rfl⟩
  simp only [roomConfigs] at h
  split at h
  · obtain ⟨subentry, hmem, rfl⟩ := hstored room h
    exact ⟨subentry, hmem, rfl, fun _ => id⟩
  · obtain ⟨stored, hmem, rfl⟩ := List.mem_map.mp h
    obtain ⟨subentry, hsub, rfl⟩ := hstored stored hmem
    refine ⟨subentry, hsub, ?_, ?_⟩
    · split <;> rfl
    · intro code hcode
      split at hcode
      · cases hcode
      · exact hcode

/-- The keys of the configured units are those of the stored ones. -/
theorem map_key_roomConfigs (subentries : List (StoredSubentry Id)) :
    (roomConfigs subentries).map (·.key) = (unitSubentries subentries).map (·.room.key) := by
  simp only [roomConfigs]
  split
  · simp
  · rw [List.map_map, List.map_map]
    apply List.map_congr_left
    intro subentry _
    simp only [Function.comp_apply]
    split <;> rfl

theorem nodup_key_roomConfigs (hkeys : (subentries.map (·.room.key)).Nodup) :
    ((roomConfigs subentries).map (·.key)).Nodup := by
  rw [map_key_roomConfigs]
  exact ((List.mergeSort_perm _ _).map _).nodup_iff.mpr hkeys

/-- A unit that keeps its code is stored so, and is not one of the ambiguous ones. -/
theorem of_code_roomConfigs (h : room ∈ roomConfigs subentries) {code : String}
    (hcode : room.appSetupCode = some code) :
    room ∈ (unitSubentries subentries).map (·.room) ∧
      room.key ∉ ambiguousKeys ((unitSubentries subentries).map (·.room)) := by
  simp only [roomConfigs] at h
  split at h
  · rename_i hnone
    exact ⟨h, by simp [hnone]⟩
  · obtain ⟨stored, hmem, rfl⟩ := List.mem_map.mp h
    split at hcode
    · cases hcode
    · rename_i hkey
      rw [if_neg hkey]
      exact ⟨hmem, hkey⟩

/-- Two members of a list that pass a test are counted as two. -/
theorem one_lt_countP {α : Type} {p : α → Bool} {l : List α} {a b : α} (ha : a ∈ l) (hb : b ∈ l)
    (hne : a ≠ b) (hpa : p a = true) (hpb : p b = true) : 1 < l.countP p := by
  have hmema : a ∈ l.filter p := List.mem_filter.mpr ⟨ha, hpa⟩
  have hmemb : b ∈ l.filter p := List.mem_filter.mpr ⟨hb, hpb⟩
  rw [List.countP_eq_length_filter]
  by_contra hle
  match hfilter : l.filter p with
  | [] => simp [hfilter] at hmema
  | [c] =>
    rw [hfilter, List.mem_singleton] at hmema hmemb
    exact hne (hmema.trans hmemb.symm)
  | _ :: _ :: _ => simp [hfilter] at hle

/-- **A code that a unit keeps is no other unit's**: a code that is stored twice is counted. -/
theorem code_unique (hcodes : ∀ subentry ∈ subentries, subentry.room.appSetupCode ≠ some "")
    {code : String} (hroom : room ∈ roomConfigs subentries)
    (hother : other ∈ roomConfigs subentries) (hcode : room.appSetupCode = some code)
    (hcode' : other.appSetupCode = some code) : room = other := by
  obtain ⟨hmem, hkey⟩ := of_code_roomConfigs hroom hcode
  obtain ⟨hmem', -⟩ := of_code_roomConfigs hother hcode'
  by_contra hne
  apply hkey
  rw [ambiguousKeys, List.mem_map]
  refine ⟨room, List.mem_filter.mpr ⟨hmem, ?_⟩, rfl⟩
  have htwice := one_lt_countP (p := fun room => decide (room.appSetupCode = some code)) hmem hmem'
    hne (decide_eq_true hcode) (decide_eq_true hcode')
  have hnonempty : code ≠ "" := by
    rintro rfl
    obtain ⟨subentry, hsub, -, hstored⟩ := of_mem_roomConfigs hroom
    exact hcodes subentry hsub (hstored "" hcode)
  rw [hcode, Option.any_some, decide_eq_true_eq]
  exact ⟨hnonempty, htwice⟩

end Codes

/-! ### Identifiers of different units -/

/-- **The identifiers of the units do not meet**, nor the one of the gateway. -/
structure SeparateIdentifiers (entryId : String) (rooms : List UnitRoom) : Prop where
  entry : startsWith appSetupCodeIdentifierPrefix entryId = false
  unitKey : ∀ room ∈ rooms, IsUnitKey entryId room.key
  keys : ∀ room ∈ rooms, ∀ other ∈ rooms, room.key = other.key → room = other
  codes : ∀ room ∈ rooms, ∀ other ∈ rooms, ∀ code, room.appSetupCode = some code →
    other.appSetupCode = some code → room = other

/-- The device has identifiers of one unit only, or it is the gateway. -/
def OfOneUnit {Id : Type} (entryId : String) (rooms : List UnitRoom) (device : DeviceEntry Id) :
    Prop :=
  ((domain, entryId) ∈ device.identifiers ∧
    ∀ key, (domain, key) ∈ device.identifiers → key = entryId) ∨
  ∃ room ∈ rooms, (domain, room.key) ∈ device.identifiers ∧
    ∀ key, (domain, key) ∈ device.identifiers → (domain, key) ∈ roomIdentifiers room

/-- **What the registry may hold before**: the device of the gateway has only its own
identifier, and no device has the keys of two units. It may have any codes. -/
structure Registered {Id : Type} (entryId : String) (device : DeviceEntry Id) : Prop where
  gateway : (domain, entryId) ∈ device.identifiers →
    ∀ key, (domain, key) ∈ device.identifiers → key = entryId
  oneKey : ∀ key key', IsUnitKey entryId key → IsUnitKey entryId key' →
    (domain, key) ∈ device.identifiers → (domain, key') ∈ device.identifiers → key = key'

section Identifiers

variable {Id : Type} {entryId : String} {rooms : List UnitRoom} {room other : UnitRoom}
  {device : DeviceEntry Id} {key : String}

theorem mem_roomIdentifiers : (domain, key) ∈ roomIdentifiers room ↔
    key = room.key ∨
      ∃ code, room.appSetupCode = some code ∧ key = appSetupCodeIdentifierPrefix ++ code := by
  unfold roomIdentifiers
  cases room.appSetupCode <;> simp

theorem domain_of_mem_roomIdentifiers {i : Identifier} (h : i ∈ roomIdentifiers room) :
    i = (domain, i.2) := by
  unfold roomIdentifiers at h
  cases hcode : room.appSetupCode with
  | none =>
    rw [hcode] at h
    obtain rfl := Finset.mem_singleton.mp h
    rfl
  | some code =>
    rw [hcode] at h
    rcases Finset.mem_insert.mp h with rfl | h
    · rfl
    · obtain rfl := Finset.mem_singleton.mp h
      rfl

theorem key_mem_roomIdentifiers (room : UnitRoom) :
    (domain, room.key) ∈ roomIdentifiers room := mem_roomIdentifiers.mpr (.inl rfl)

/-- The identifier of a code is told from a key. -/
theorem startsWith_code (code : String) : startsWith appSetupCodeIdentifierPrefix
    (appSetupCodeIdentifierPrefix ++ code) = true := (removePrefix_append _ code).1

theorem code_injective {code code' : String}
    (h : appSetupCodeIdentifierPrefix ++ code = appSetupCodeIdentifierPrefix ++ code') :
    code = code' := by
  rw [← (removePrefix_append appSetupCodeIdentifierPrefix code).2, h,
    (removePrefix_append appSetupCodeIdentifierPrefix code').2]

/-- **An identifier is one unit's only.** -/
theorem SeparateIdentifiers.eq_of_mem (h : SeparateIdentifiers entryId rooms)
    (hroom : room ∈ rooms) (hother : other ∈ rooms) (hkey : (domain, key) ∈ roomIdentifiers room)
    (hkey' : (domain, key) ∈ roomIdentifiers other) : room = other := by
  rcases mem_roomIdentifiers.mp hkey with rfl | ⟨code, hcode, rfl⟩
  · rcases mem_roomIdentifiers.mp hkey' with hsame | ⟨code, -, hsame⟩
    · exact h.keys room hroom other hother hsame
    · have hunit := (h.unitKey room hroom).2
      rw [hsame, startsWith_code] at hunit
      cases hunit
  · rcases mem_roomIdentifiers.mp hkey' with hsame | ⟨code', hcode', hsame⟩
    · have hunit := (h.unitKey other hother).2
      rw [← hsame, startsWith_code] at hunit
      cases hunit
    · obtain rfl := code_injective hsame
      exact h.codes room hroom other hother code hcode hcode'

/-- The identifier of the gateway is no unit's. -/
theorem SeparateIdentifiers.entry_notMem (h : SeparateIdentifiers entryId rooms)
    (hroom : room ∈ rooms) : (domain, entryId) ∉ roomIdentifiers room := by
  intro hmem
  rcases mem_roomIdentifiers.mp hmem with hsame | ⟨code, -, hsame⟩
  · exact (h.unitKey room hroom).1 hsame.symm
  · have hentry := h.entry
    rw [hsame, startsWith_code] at hentry
    cases hentry

/-- **Who has an identifier of a unit is its device.** -/
theorem OfOneUnit.mem_iff (h : SeparateIdentifiers entryId rooms)
    (hdevice : OfOneUnit entryId rooms device) (hroom : room ∈ rooms)
    (hmeet : ¬Disjoint device.identifiers (roomIdentifiers room)) :
    (domain, room.key) ∈ device.identifiers ∧
      ∀ key, (domain, key) ∈ device.identifiers → (domain, key) ∈ roomIdentifiers room := by
  obtain ⟨i, hi, hiroom⟩ := Finset.not_disjoint_iff.mp hmeet
  have hdomain := domain_of_mem_roomIdentifiers hiroom
  rw [hdomain] at hi hiroom
  rcases hdevice with ⟨-, hgateway⟩ | ⟨owner, howner, hkey, hall⟩
  · rw [hgateway _ hi] at hiroom
    exact absurd hiroom (h.entry_notMem hroom)
  · obtain rfl := h.eq_of_mem howner hroom (hall _ hi) hiroom
    exact ⟨hkey, hall⟩

end Identifiers

/-! ### One round, and the loop -/

section Loop

variable {Id Store : Type} {api : DeviceApi Id Store} {entryId : String} {rooms : List UnitRoom}
  {s : Store} {device : DeviceEntry Id}

/-- The key that is found is one that the device has. -/
theorem roomKeyOf_eq_some (hapi : api.Documented) {key : String}
    (h : roomKeyOf api rooms device = some key) :
    (domain, key) ∈ device.identifiers ∧ key ∈ rooms.map (·.key) := by
  obtain ⟨i, hfind, rfl⟩ := Option.map_eq_some_iff.mp h
  have hmem := (hapi.mem_iterate _ _).mp (List.mem_of_find?_eq_some hfind)
  have htest := List.find?_some hfind
  rw [decide_eq_true_eq] at htest
  exact ⟨htest.1 ▸ hmem, htest.2⟩

/-- If none is found, the device has the key of no configured unit. -/
theorem roomKeyOf_eq_none (hapi : api.Documented) (h : roomKeyOf api rooms device = none) :
    ∀ room ∈ rooms, (domain, room.key) ∉ device.identifiers := by
  intro room hroom hmem
  have hfind := List.find?_eq_none.mp (Option.map_eq_none_iff.mp h) _
    ((hapi.mem_iterate _ _).mpr hmem)
  exact hfind (decide_eq_true ⟨rfl, List.mem_map_of_mem hroom⟩)

/-- What is expected of the key of a unit are the identifiers of the unit. -/
theorem expected_eq (h : SeparateIdentifiers entryId rooms) {room : UnitRoom}
    (hroom : room ∈ rooms) :
    ((rooms.reverse.find? (·.key = room.key)).map roomIdentifiers).getD ∅ =
      roomIdentifiers room := by
  obtain ⟨found, hfound⟩ : ∃ found, rooms.reverse.find? (·.key = room.key) = some found :=
    Option.isSome_iff_exists.mp
      (List.find?_isSome.mpr ⟨room, List.mem_reverse.mpr hroom, by simp⟩)
  obtain rfl : found = room := h.keys found
    (List.mem_reverse.mp (List.mem_of_find?_eq_some hfound)) room hroom
    (by simpa using List.find?_some hfound)
  simp [hfound]

/-- **Without its stale codes, a device has identifiers of its unit only.** -/
theorem sdiff_stale (h : SeparateIdentifiers entryId rooms) (hdevice : Registered entryId device)
    {room : UnitRoom} (hroom : room ∈ rooms) (hkey : (domain, room.key) ∈ device.identifiers) :
    (domain, room.key) ∈ device.identifiers \ staleIdentifiers (roomIdentifiers room) device ∧
      ∀ key, (domain, key) ∈ device.identifiers \ staleIdentifiers (roomIdentifiers room) device →
        (domain, key) ∈ roomIdentifiers room := by
  have hunit := h.unitKey room hroom
  refine ⟨?_, fun key hmem => ?_⟩
  · rw [Finset.mem_sdiff]
    refine ⟨hkey, fun hstale => ?_⟩
    exact (Finset.mem_filter.mp hstale).2.2.2 (key_mem_roomIdentifiers room)
  · obtain ⟨hmem, hkept⟩ := Finset.mem_sdiff.mp hmem
    by_contra hother
    -- What is not expected would be stale, the id of the entry or a second key.
    have hcode : startsWith appSetupCodeIdentifierPrefix key = false := by
      by_contra hstarts
      exact hkept (Finset.mem_filter.mpr ⟨hmem, rfl, by simpa using hstarts, hother⟩)
    by_cases hentry : key = entryId
    · subst hentry
      exact hunit.1 (hdevice.gateway hmem room.key hkey)
    · have hsame := hdevice.oneKey key room.key ⟨hentry, hcode⟩ hunit hmem hkey
      exact hother (hsame ▸ key_mem_roomIdentifiers room)

/-- **One round** removes the device or leaves it with identifiers of one unit, and does nothing
else. -/
theorem syncDevice_spec (hapi : api.Documented) (h : SeparateIdentifiers entryId rooms)
    (hdistinct : DistinctIdentifiers (api.devices s)) (hmem : device ∈ api.devices s)
    (hdevice : Registered entryId device) :
    ∃ t, syncDevice api entryId rooms s device = some t ∧
      (∀ d ∈ api.devices s, d.id ≠ device.id → d ∈ api.devices t) ∧
      ∀ d ∈ api.devices t, (d ∈ api.devices s ∧ d.id ≠ device.id) ∨
        (d.id = device.id ∧ d.identifiers ⊆ device.identifiers ∧ OfOneUnit entryId rooms d) := by
  -- A device that stays as it is.
  have hkept : OfOneUnit entryId rooms device → ∀ d ∈ api.devices s,
      (d ∈ api.devices s ∧ d.id ≠ device.id) ∨
        (d.id = device.id ∧ d.identifiers ⊆ device.identifiers ∧ OfOneUnit entryId rooms d) := by
    intro hone d hd
    by_cases hid : d.id = device.id
    · obtain rfl := List.inj_on_of_nodup_map (hapi.ids s) hd hmem hid
      exact .inr ⟨rfl, subset_rfl, hone⟩
    · exact .inl ⟨hd, hid⟩
  unfold syncDevice
  by_cases hconfigured : Disjoint device.identifiers (configuredIdentifiers entryId rooms)
  · obtain ⟨t, hremove, hdevices⟩ := hapi.remove s device hmem
    rw [if_pos hconfigured]
    exact ⟨t, hremove, fun d hd hid => (hdevices d).mpr ⟨hd, hid⟩,
      fun d hd => .inl ((hdevices d).mp hd)⟩
  · rw [if_neg hconfigured]
    cases hfound : roomKeyOf api rooms device with
    | none =>
      -- What keeps the device is the identifier of the gateway.
      have hnone := roomKeyOf_eq_none hapi hfound
      have hentry : (domain, entryId) ∈ device.identifiers := by
        obtain ⟨i, hi, hiconf⟩ := Finset.not_disjoint_iff.mp hconfigured
        rcases Finset.mem_union.mp hiconf with hkeys | hgateway
        · obtain ⟨room, hroom, rfl⟩ := List.mem_map.mp (List.mem_toFinset.mp hkeys)
          exact absurd hi (hnone room hroom)
        · exact Finset.mem_singleton.mp hgateway ▸ hi
      exact ⟨s, rfl, fun d hd _ => hd, hkept (.inl ⟨hentry, hdevice.gateway hentry⟩)⟩
    | some key =>
      obtain ⟨hkey, hkeys⟩ := roomKeyOf_eq_some hapi hfound
      obtain ⟨room, hroom, rfl⟩ := List.mem_map.mp hkeys
      obtain ⟨hown, hall⟩ := sdiff_stale h hdevice hroom hkey
      simp only [expected_eq h hroom]
      split
      · rename_i hstale
        rw [hstale, Finset.sdiff_empty] at hall
        exact ⟨s, rfl, fun d hd _ => hd, hkept (.inr ⟨room, hroom, hkey, hall⟩)⟩
      · obtain ⟨t, hupdate, hdevices⟩ := hapi.update s device hmem
          (device.identifiers \ staleIdentifiers (roomIdentifiers room) device)
          fun other hother hid => (hdistinct other hother device hmem hid).mono_right
            Finset.sdiff_subset
        refine ⟨t, hupdate, fun d hd hid => (hdevices d).mpr (.inr ⟨hd, hid⟩), fun d hd => ?_⟩
        rcases (hdevices d).mp hd with rfl | hother
        · exact .inr ⟨rfl, Finset.sdiff_subset, .inr ⟨room, hroom, hown, hall⟩⟩
        · exact .inl hother

/-- A round that only takes identifiers away leaves no identifier with two devices. -/
theorem DistinctIdentifiers.of_subset {devices devices' : List (DeviceEntry Id)}
    (h : DistinctIdentifiers devices)
    (hsub : ∀ d' ∈ devices', ∃ d ∈ devices, d.id = d'.id ∧ d'.identifiers ⊆ d.identifiers) :
    DistinctIdentifiers devices' := by
  intro d hd d' hd' hid
  obtain ⟨e, he, hide, hsube⟩ := hsub d hd
  obtain ⟨e', he', hide', hsube'⟩ := hsub d' hd'
  exact (h e he e' he' (by rwa [hide, hide'])).mono hsube hsube'

/-- **The loop** leaves every device with identifiers of one unit. -/
theorem foldlM_syncDevice (hapi : api.Documented) (h : SeparateIdentifiers entryId rooms)
    (todo : List (DeviceEntry Id)) (hnodup : (todo.map (·.id)).Nodup) (s : Store)
    (hdistinct : DistinctIdentifiers (api.devices s))
    (htodo : ∀ d ∈ todo, d ∈ api.devices s ∧ Registered entryId d)
    (hdone : ∀ d ∈ api.devices s, d ∈ todo ∨ OfOneUnit entryId rooms d) :
    ∃ t, todo.foldlM (syncDevice api entryId rooms) s = some t ∧
      DistinctIdentifiers (api.devices t) ∧
      ∀ d ∈ api.devices t, OfOneUnit entryId rooms d := by
  -- Each device is moved to one unit before the next; those done are never touched again.
  induction todo generalizing s with
  | nil =>
    exact ⟨s, rfl, hdistinct, fun d hd => (hdone d hd).resolve_left (List.not_mem_nil)⟩
  | cons device todo ih =>
    obtain ⟨hmem, hdevice⟩ := htodo device List.mem_cons_self
    obtain ⟨hid, hnodup⟩ := List.nodup_cons.mp hnodup
    obtain ⟨t, ht, hothers, hdevices⟩ := syncDevice_spec hapi h hdistinct hmem hdevice
    have hdistinct' : DistinctIdentifiers (api.devices t) := by
      refine hdistinct.of_subset fun d hd => ?_
      rcases hdevices d hd with ⟨hold, -⟩ | ⟨hsame, hsub, -⟩
      · exact ⟨d, hold, rfl, subset_rfl⟩
      · exact ⟨device, hmem, hsame.symm, hsub⟩
    have htodo' : ∀ d ∈ todo, d ∈ api.devices t ∧ Registered entryId d := by
      intro d hd
      obtain ⟨hold, hregistered⟩ := htodo d (List.mem_cons_of_mem _ hd)
      refine ⟨hothers d hold fun hsame => ?_, hregistered⟩
      exact hid (List.mem_map.mpr ⟨d, hd, hsame⟩)
    have hdone' : ∀ d ∈ api.devices t, d ∈ todo ∨ OfOneUnit entryId rooms d := by
      intro d hd
      rcases hdevices d hd with ⟨hold, hne⟩ | ⟨-, -, hone⟩
      · rcases hdone d hold with hlater | hone
        · rcases List.mem_cons.mp hlater with rfl | hlater
          · exact absurd rfl hne
          · exact .inl hlater
        · exact .inr hone
      · exact .inr hone
    obtain ⟨u, hu, hresult⟩ := ih hnodup t hdistinct' htodo' hdone'
    exact ⟨u, by rw [List.foldlM_cons, ht]; exact hu, hresult⟩

end Loop

/-! ### Adding devices -/

section Adding

variable {Id Store : Type} {api : DeviceApi Id Store} {entryId : String} {rooms : List UnitRoom}
  {s : Store}

/-- **Adding identifiers** of which no two devices have one: a device has them all afterwards,
with what it had before, and the other devices have none of them. -/
theorem getOrCreate_spec (hapi : api.Documented) (hdistinct : DistinctIdentifiers (api.devices s))
    (identifiers : Finset Identifier)
    (hone : ∀ d ∈ api.devices s, ∀ d' ∈ api.devices s, ¬Disjoint d.identifiers identifiers →
      ¬Disjoint d'.identifiers identifiers → d.id = d'.id) :
    ∃ t, api.getOrCreate s identifiers = some t ∧ DistinctIdentifiers (api.devices t) ∧
      ∀ d ∈ api.devices t, d ∈ api.devices s ∨ d.identifiers = identifiers ∨
        ∃ e ∈ api.devices s, ¬Disjoint e.identifiers identifiers ∧
          d.identifiers = e.identifiers ∪ identifiers := by
  by_cases hmeet : ∃ e ∈ api.devices s, ¬Disjoint e.identifiers identifiers
  · obtain ⟨e, he, hmeet⟩ := hmeet
    have hothers : ∀ other ∈ api.devices s, other.id ≠ e.id →
        Disjoint other.identifiers identifiers := by
      intro other hother hid
      by_contra hmeet'
      exact hid (hone other hother e he hmeet' hmeet)
    obtain ⟨t, ht, hdevices⟩ := hapi.merge s e he identifiers hmeet hothers
    -- The device that has grown meets no other one.
    have hgrown : ∀ d ∈ api.devices s, d.id ≠ e.id →
        Disjoint d.identifiers (e.identifiers ∪ identifiers) := by
      intro d hd hid
      exact Finset.disjoint_union_right.mpr ⟨hdistinct d hd e he hid, hothers d hd hid⟩
    refine ⟨t, ht, ?_, fun d hd => ?_⟩
    · intro d hd d' hd' hid
      rcases (hdevices d).mp hd with rfl | ⟨hold, hne⟩
      · rcases (hdevices d').mp hd' with rfl | ⟨hold', hne'⟩
        · exact absurd rfl hid
        · exact (hgrown d' hold' hne').symm
      · rcases (hdevices d').mp hd' with rfl | ⟨hold', hne'⟩
        · exact hgrown d hold hne
        · exact hdistinct d hold d' hold' hid
    · rcases (hdevices d).mp hd with rfl | ⟨hold, -⟩
      · exact .inr (.inr ⟨e, he, hmeet, rfl⟩)
      · exact .inl hold
  · have hnone : ∀ other ∈ api.devices s, Disjoint other.identifiers identifiers := by
      intro other hother
      by_contra hmeet'
      exact hmeet ⟨other, hother, hmeet'⟩
    obtain ⟨t, id, ht, -, hdevices⟩ := hapi.create s identifiers hnone
    refine ⟨t, ht, ?_, fun d hd => ?_⟩
    · intro d hd d' hd' hid
      rcases (hdevices d).mp hd with rfl | hold
      · rcases (hdevices d').mp hd' with rfl | hold'
        · exact absurd rfl hid
        · exact (hnone d' hold').symm
      · rcases (hdevices d').mp hd' with rfl | hold'
        · exact hnone d hold
        · exact hdistinct d hold d' hold' hid
    · rcases (hdevices d).mp hd with rfl | hold
      · exact .inr (.inl rfl)
      · exact .inl hold

/-- **The gateway is registered first**, which the devices of the units do not notice. -/
theorem register_gateway (hapi : api.Documented) (hdistinct : DistinctIdentifiers (api.devices s))
    (hregistered : ∀ d ∈ api.devices s, Registered entryId d) :
    ∃ t, api.getOrCreate s (gatewayIdentifiers entryId) = some t ∧
      DistinctIdentifiers (api.devices t) ∧ ∀ d ∈ api.devices t, Registered entryId d := by
  have hmeet : ∀ d : DeviceEntry Id, ¬Disjoint d.identifiers (gatewayIdentifiers entryId) ↔
      (domain, entryId) ∈ d.identifiers := by
    simp [gatewayIdentifiers]
  obtain ⟨t, ht, hdistinct', hdevices⟩ := getOrCreate_spec hapi hdistinct
    (gatewayIdentifiers entryId) fun d hd d' hd' hmem hmem' => by
      by_contra hid
      exact Finset.disjoint_left.mp (hdistinct d hd d' hd' hid) ((hmeet d).mp hmem)
        ((hmeet d').mp hmem')
  refine ⟨t, ht, hdistinct', fun d hd => ?_⟩
  rcases hdevices d hd with hold | hnew | ⟨e, he, hmem, hsame⟩
  · exact hregistered d hold
  · -- A new device has no key of a unit.
    have hall : ∀ key, (domain, key) ∈ d.identifiers → key = entryId := by
      intro key hkey
      simpa [hnew, gatewayIdentifiers] using hkey
    exact ⟨fun _ => hall, fun key _ hunit _ hkey _ => absurd (hall key hkey) hunit.1⟩
  · have hkept : d.identifiers = e.identifiers := by
      rw [hsame]
      exact Finset.union_eq_left.mpr (Finset.singleton_subset_iff.mpr ((hmeet e).mp hmem))
    obtain ⟨hgateway, honeKey⟩ := hregistered e he
    exact ⟨by rwa [hkept], by rwa [hkept]⟩

/-- **Adding a unit** keeps the devices apart: only its own device, if there is one, has an
identifier of it. -/
theorem add_unit (hapi : api.Documented) (h : SeparateIdentifiers entryId rooms)
    (hdistinct : DistinctIdentifiers (api.devices s))
    (hunits : ∀ d ∈ api.devices s, OfOneUnit entryId rooms d) {room : UnitRoom}
    (hroom : room ∈ rooms) :
    ∃ t, api.getOrCreate s (roomIdentifiers room) = some t ∧
      DistinctIdentifiers (api.devices t) ∧
      ∀ d ∈ api.devices t, OfOneUnit entryId rooms d := by
  obtain ⟨t, ht, hdistinct', hdevices⟩ := getOrCreate_spec hapi hdistinct (roomIdentifiers room)
    fun d hd d' hd' hmeet hmeet' => by
      by_contra hid
      exact Finset.disjoint_left.mp (hdistinct d hd d' hd' hid)
        ((hunits d hd).mem_iff h hroom hmeet).1 ((hunits d' hd').mem_iff h hroom hmeet').1
  refine ⟨t, ht, hdistinct', fun d hd => ?_⟩
  rcases hdevices d hd with hold | hnew | ⟨e, he, hmeet, hsame⟩
  · exact hunits d hold
  · refine .inr ⟨room, hroom, ?_, fun key hkey => ?_⟩
    · rw [hnew]
      exact key_mem_roomIdentifiers room
    · rwa [hnew] at hkey
  · obtain ⟨hkey, hall⟩ := (hunits e he).mem_iff h hroom hmeet
    refine .inr ⟨room, hroom, ?_, fun key hmem => ?_⟩
    · rw [hsame]
      exact Finset.mem_union_left _ hkey
    · rw [hsame] at hmem
      exact (Finset.mem_union.mp hmem).elim (hall key) id

/-- **A device of one unit** has the codes of that unit only. -/
theorem OfOneUnit.code (h : SeparateIdentifiers entryId rooms) {device : DeviceEntry Id}
    (hdevice : OfOneUnit entryId rooms device) {room : UnitRoom} (hroom : room ∈ rooms)
    (hkey : (domain, room.key) ∈ device.identifiers) {code : String}
    (hcode : (domain, appSetupCodeIdentifierPrefix ++ code) ∈ device.identifiers) :
    room.appSetupCode = some code := by
  have hmeet : ¬Disjoint device.identifiers (roomIdentifiers room) :=
    Finset.not_disjoint_iff.mpr ⟨_, hkey, key_mem_roomIdentifiers room⟩
  have hall := (hdevice.mem_iff h hroom hmeet).2
  rcases mem_roomIdentifiers.mp (hall _ hcode) with hsame | ⟨code', hcode', hsame⟩
  · have hunit := (h.unitKey room hroom).2
    rw [← hsame, startsWith_code] at hunit
    cases hunit
  · rwa [code_injective hsame]

/-- The units added one after the other, each any number of times and in any order. -/
def AddedUnits (api : DeviceApi Id Store) (rooms : List UnitRoom) (s : Store) : Store → Prop :=
  Reach (fun s room => api.getOrCreate s (roomIdentifiers room)) (fun _ room => room ∈ rooms)
    fun t => t = s

end Adding

/-! ### What is stored -/

/-- A unit as it is stored: its key is told from the other identifiers, and its code, if it has
one, is not empty. -/
def Storable (entryId : String) (room : UnitRoom) : Prop :=
  IsUnitKey entryId room.key ∧ room.appSetupCode ≠ some ""

section Storable

variable {entryId : String} {room : UnitRoom}

/-- What follows a preferred key is made of digits and underscores. -/
theorem colon_notMem_keySuffix (n : ℕ) : ':' ∉ keySuffix n := by
  cases n with
  | zero => simp [keySuffix]
  | succ n =>
    have htext : (toString (n + 2)).toList = Nat.toDigits 10 (n + 2) := by
      simp [Nat.toString_eq_repr]
    rw [keySuffix, htext, List.mem_cons, not_or]
    refine ⟨by decide, fun hcolon => ?_⟩
    have hdigit := Nat.isDigit_of_mem_toDigits (by decide) (by decide) hcolon
    revert hdigit
    decide

/-- A suffix makes no key the identifier of a code, nor the id of an entry, which has no
underscore. -/
theorem isUnitKey_suffixedKey (hentry : '_' ∉ entryId.toList) {preferred : String}
    (h : IsUnitKey entryId preferred) (n : ℕ) : IsUnitKey entryId (suffixedKey preferred n) := by
  refine ⟨?_, ?_⟩
  · cases n with
    | zero => exact h.1
    | succ n =>
      rintro rfl
      apply hentry
      rw [toList_suffixedKey, keySuffix]
      simp
  · by_contra hstarts
    have hprefix : appSetupCodeIdentifierPrefix.toList <+: preferred.toList ++ keySuffix n := by
      rw [← toList_suffixedKey]
      exact List.isPrefixOf_iff_prefix.mp (by simpa [startsWith] using hstarts)
    have hnot : ¬appSetupCodeIdentifierPrefix.toList <+: preferred.toList := by
      intro hstarts
      have hkey := h.2
      rw [startsWith, List.isPrefixOf_iff_prefix.mpr hstarts] at hkey
      cases hkey
    rcases List.prefix_or_prefix_of_prefix hprefix (List.prefix_append _ _) with hshort | hlong
    · exact hnot hshort
    · -- The colon, which ends the prefix, would be in the suffix.
      obtain ⟨rest, hrest⟩ := hlong
      obtain ⟨after, hafter⟩ := hprefix
      rw [← hrest, List.append_assoc] at hafter
      have hsuffix : rest ++ after = keySuffix n := List.append_cancel_left hafter
      have hne : rest ≠ [] := by
        rintro rfl
        exact hnot (by rw [← hrest, List.append_nil])
      have hlast : rest.getLast hne = ':' := by
        have hend : (preferred.toList ++ rest).getLast? = some ':' := by
          rw [hrest]
          decide
        rw [List.getLast?_append_of_ne_nil _ hne, List.getLast?_eq_some_getLast hne] at hend
        exact Option.some.inj hend
      apply colon_notMem_keySuffix n
      rw [← hsuffix]
      exact List.mem_append_left _ (hlast ▸ List.getLast_mem hne)

/-- The key that a new unit prefers is one. -/
theorem isUnitKey_slaveKey (hentry : '_' ∉ entryId.toList) (slave : ℕ) :
    IsUnitKey entryId (slaveKey slave) := by
  refine ⟨?_, ?_⟩
  · rintro rfl
    exact hentry (by simp [toList_slaveKey])
  · rw [startsWith, toList_slaveKey]
    rfl

/-- Nor does it make one out of the key that a unit is given while others are taken. -/
theorem isUnitKey_firstFree (hentry : '_' ∉ entryId.toList) {preferred : String}
    (taken : List String) (h : IsUnitKey entryId preferred) :
    IsUnitKey entryId (firstFree (suffixedKey preferred) taken) := by
  obtain ⟨n, hn, -⟩ := firstFree_spec (suffixedKey_injective preferred) taken
  rw [hn]
  exact isUnitKey_suffixedKey hentry h n

/-- The empty code has not the format of a code. -/
theorem ne_empty_of_isAppSetupCode {code : String} (h : isAppSetupCode code = true) :
    code ≠ "" := by
  rintro rfl
  revert h
  decide

/-- **What is stored after a rescan may be stored**: the keys are old ones or made for the
units, and the codes are old ones or reported by them. -/
theorem storable_buildRoomsFromProfiles (hentry : '_' ∉ entryId.toList) {slaves : List ℕ}
    {selectedProfiles : ℕ → Profile} {probes : List (ℕ × UnitProbeResult)}
    {existing : List (ℕ × UnitRoom)} (hexisting : Functional existing)
    (hprobes : ∀ slave code, probedCode probes slave = some code → isAppSetupCode code = true)
    (hstored : ∀ entry ∈ existing, Storable entryId entry.2)
    (h : room ∈ buildRoomsFromProfiles slaves selectedProfiles probes existing) :
    Storable entryId room := by
  obtain ⟨slave, -, used, names, rfl⟩ := exists_buildRoom_of_mem h
  set matched := matchExistingRooms slaves probes existing with hmatched
  have hroom : ∀ room, matched.lookup slave = some room → Storable entryId room := by
    intro room hlookup
    obtain ⟨entry, hentry, -, rfl⟩ := exists_takenOver hexisting
      (functional_matchExistingRooms.lookup_eq_some_iff.mp hlookup)
    exact hstored entry hentry
  refine ⟨?_, ?_⟩
  · change IsUnitKey entryId (roomKey matched used slave)
    unfold roomKey
    split
    · rename_i room hlookup
      apply isUnitKey_firstFree hentry
      split
      · exact isUnitKey_slaveKey hentry slave
      · exact (hroom room hlookup).1
    · exact isUnitKey_firstFree hentry _ (isUnitKey_slaveKey hentry slave)
  · change (probedCode probes slave).or (retainedAppSetupCode (matched.lookup slave)
      (probes.filterMap (·.2.appSetupCode))) ≠ some ""
    cases hprobed : probedCode probes slave with
    | some code =>
      rw [Option.some_or, ne_eq, Option.some_inj]
      exact ne_empty_of_isAppSetupCode (hprobes slave code hprobed)
    | none =>
      rw [Option.none_or, retainedAppSetupCode]
      intro hempty
      obtain ⟨hcode, -⟩ := Option.filter_eq_some_iff.mp hempty
      obtain ⟨room, hlookup, hcode⟩ := Option.bind_eq_some_iff.mp hcode
      exact (hroom room hlookup).2 hcode

/-- **And so may a unit that is added**, with the code it has reported. -/
theorem storable_newUnitRoom (hentry : '_' ∉ entryId.toList) {slave : ℕ} {profile : Profile}
    {probe : Option UnitProbeResult} {existing : List UnitRoom}
    (hprobe : ∀ code, probe.bind (·.appSetupCode) = some code → isAppSetupCode code = true) :
    Storable entryId (newUnitRoom slave profile probe existing) :=
  ⟨isUnitKey_firstFree hentry _ (isUnitKey_slaveKey hentry slave),
    fun hempty => ne_empty_of_isAppSetupCode (hprobe _ hempty) rfl⟩

end Storable

/-! ### The result -/

section Result

variable {Id : Type} {entryId : String} {subentries : List (StoredSubentry Id)}

/-- **The configured units have separate identifiers.** -/
theorem separateIdentifiers_roomConfigs
    (hentry : startsWith appSetupCodeIdentifierPrefix entryId = false)
    (hkeys : (subentries.map (·.room.key)).Nodup)
    (hunits : ∀ subentry ∈ subentries, Storable entryId subentry.room) :
    SeparateIdentifiers entryId (roomConfigs subentries) where
  entry := hentry
  unitKey room hroom := by
    obtain ⟨subentry, hmem, hkey, -⟩ := of_mem_roomConfigs hroom
    rw [hkey]
    exact (hunits subentry hmem).1
  keys room hroom other hother hsame :=
    List.inj_on_of_nodup_map (nodup_key_roomConfigs hkeys) hroom hother hsame
  codes room hroom other hother _ hcode hcode' :=
    code_unique (fun subentry hmem => (hunits subentry hmem).2) hroom hother hcode hcode'

/-- **Setup codes never glue the devices of two units together.** The units are stored under
distinct keys, and the registry holds any devices: of configured units, of units that are gone
or have moved, with any codes, each with the key of one unit at most, and the gateway's.

Then the codes of the configured units are distinct. The devices that are left after
`_async_sync_devices` are those of configured units and the gateway's, and a unit's device has
no code but its own. When the units are added after that, in any order, no identifier of one of
them is held by the device of another one. -/
theorem syncDevices_separate {Store : Type} {api : DeviceApi Id Store} (hapi : api.Documented)
    (hentry : startsWith appSetupCodeIdentifierPrefix entryId = false)
    (hkeys : (subentries.map (·.room.key)).Nodup)
    (hunits : ∀ subentry ∈ subentries, Storable entryId subentry.room) {s : Store}
    (hdistinct : DistinctIdentifiers (api.devices s))
    (hregistered : ∀ d ∈ api.devices s, Registered entryId d) :
    let rooms := roomConfigs subentries
    rooms.Pairwise (fun room other =>
      ∀ code, room.appSetupCode = some code → other.appSetupCode ≠ some code) ∧
    ∃ t, syncDevices api entryId rooms s = some t ∧
      (∀ d ∈ api.devices t, (domain, entryId) ∈ d.identifiers ∨
        ∃ room ∈ rooms, (domain, room.key) ∈ d.identifiers) ∧
      (∀ d ∈ api.devices t, ∀ room ∈ rooms, (domain, room.key) ∈ d.identifiers →
        ∀ code, (domain, appSetupCodeIdentifierPrefix ++ code) ∈ d.identifiers →
          room.appSetupCode = some code) ∧
      ∀ u, AddedUnits api rooms t u → ∀ room ∈ rooms,
        (∃ v, api.getOrCreate u (roomIdentifiers room) = some v) ∧
        ∀ d ∈ api.devices u, ¬Disjoint d.identifiers (roomIdentifiers room) →
          (domain, room.key) ∈ d.identifiers ∧
          ∀ other ∈ rooms, (domain, other.key) ∈ d.identifiers → other = room := by
  intro rooms
  have hseparate : SeparateIdentifiers entryId rooms :=
    separateIdentifiers_roomConfigs hentry hkeys hunits
  have hnodup : (rooms.map (·.key)).Nodup := nodup_key_roomConfigs hkeys
  obtain ⟨s', hs', hdistinct', hregistered'⟩ := register_gateway hapi hdistinct hregistered
  obtain ⟨t, ht, hdistinctt, hdevices⟩ := foldlM_syncDevice hapi hseparate (api.devices s')
    (hapi.ids s') s' hdistinct' (fun d hd => ⟨hd, hregistered' d hd⟩) (fun d hd => .inl hd)
  refine ⟨?_, t, ?_, ?_, ?_, ?_⟩
  · -- Two units with one code would be the same unit, in two places of the list.
    refine (List.pairwise_map.mp hnodup).imp_of_mem fun {room other} hroom hother hne code => ?_
    intro hcode hcode'
    exact hne (congrArg (·.key) (hseparate.codes room hroom other hother code hcode hcode'))
  · rw [syncDevices, hs', Option.bind_some, ht]
  · intro d hd
    rcases hdevices d hd with ⟨hgateway, -⟩ | ⟨room, hroom, hkey, -⟩
    · exact .inl hgateway
    · exact .inr ⟨room, hroom, hkey⟩
  · intro d hd room hroom hkey code hcode
    exact (hdevices d hd).code hseparate hroom hkey hcode
  · intro u hu
    -- The invariant of the run: the devices stay apart.
    obtain ⟨hdistinctu, hunitsu⟩ := hu.invariant
      (P := fun u => DistinctIdentifiers (api.devices u) ∧
        ∀ d ∈ api.devices u, OfOneUnit entryId rooms d)
      (by rintro _ rfl; exact ⟨hdistinctt, hdevices⟩)
      (fun v room w hv hroom hstep => by
        obtain ⟨w', hw', hkept⟩ := add_unit hapi hseparate hv.1 hv.2 hroom
        obtain rfl := Option.some.inj (hstep.symm.trans hw')
        exact hkept)
    intro room hroom
    obtain ⟨v, hv, -⟩ := add_unit hapi hseparate hdistinctu hunitsu hroom
    refine ⟨⟨v, hv⟩, fun d hd hmeet => ?_⟩
    obtain ⟨hkey, hall⟩ := (hunitsu d hd).mem_iff hseparate hroom hmeet
    refine ⟨hkey, fun other hother hkey' => ?_⟩
    exact hseparate.eq_of_mem hother hroom (key_mem_roomIdentifiers other) (hall _ hkey')

end Result

/-! ### A registry -/

/-- A registry: devices with distinct ids. -/
abbrev DeviceList := { devices : List (DeviceEntry ℕ) // (devices.map (·.id)).Nodup }

namespace DeviceList

variable (s : DeviceList)

/-- Replace the identifiers of a device. -/
def replace (id : ℕ) (identifiers : Finset Identifier) : DeviceList :=
  ⟨s.1.map fun d => if d.id = id then ⟨id, identifiers⟩ else d, by
    have hids : (s.1.map fun d => if d.id = id then ⟨id, identifiers⟩ else d).map (·.id) =
        s.1.map (·.id) := by
      rw [List.map_map]
      apply List.map_congr_left
      intro d _
      simp only [Function.comp_apply]
      split
      · rename_i hid
        exact hid.symm
      · rfl
    rw [hids]
    exact s.2⟩

/-- Add a device, with the first free number as its id. -/
def add (identifiers : Finset Identifier) : DeviceList :=
  ⟨⟨firstFree id (s.1.map (·.id)), identifiers⟩ :: s.1, by
    rw [List.map_cons, List.nodup_cons]
    exact ⟨firstFree_notMem Function.injective_id _, s.2⟩⟩

/-- Remove a device. -/
def remove (id : ℕ) : DeviceList :=
  ⟨s.1.filter (·.id ≠ id), s.2.sublist (List.filter_sublist.map _)⟩

/-- Another device has one of the identifiers. -/
def Taken (id : ℕ) (identifiers : Finset Identifier) : Prop :=
  ∃ d ∈ s.1, d.id ≠ id ∧ ¬Disjoint d.identifiers identifiers

instance (id : ℕ) (identifiers : Finset Identifier) : Decidable (s.Taken id identifiers) :=
  inferInstanceAs (Decidable (∃ d ∈ s.1, _))

/-- The calls: they raise where an identifier would be held by two devices. -/
def api : DeviceApi ℕ DeviceList where
  devices s := s.1
  getOrCreate s identifiers :=
    match s.1.find? fun d => ¬Disjoint d.identifiers identifiers with
    | none => some (s.add identifiers)
    | some d =>
      if s.Taken d.id identifiers then none
      else some (s.replace d.id (d.identifiers ∪ identifiers))
  removeDevice s id := if id ∈ s.1.map (·.id) then some (s.remove id) else none
  updateIdentifiers s id identifiers :=
    if id ∈ s.1.map (·.id) ∧ ¬s.Taken id identifiers then some (s.replace id identifiers)
    else none
  iterate identifiers :=
    ((identifiers.map toLex.toEmbedding).sort (· ≤ ·)).map ofLex

variable {s} {device : DeviceEntry ℕ} {identifiers : Finset Identifier}

theorem mem_replace (h : device ∈ s.1) (d : DeviceEntry ℕ) :
    d ∈ (s.replace device.id identifiers).1 ↔
      d = ⟨device.id, identifiers⟩ ∨ d ∈ s.1 ∧ d.id ≠ device.id := by
  simp only [replace, List.mem_map]
  constructor
  · rintro ⟨e, he, rfl⟩
    split
    · exact .inl rfl
    · rename_i hid
      exact .inr ⟨he, hid⟩
  · rintro (rfl | ⟨hd, hid⟩)
    · exact ⟨device, h, if_pos rfl⟩
    · exact ⟨d, hd, if_neg hid⟩

theorem not_taken {id : ℕ}
    (h : ∀ other ∈ s.1, other.id ≠ id → Disjoint other.identifiers identifiers) :
    ¬s.Taken id identifiers := by
  rintro ⟨other, hother, hid, hmeet⟩
  exact hmeet (h other hother hid)

theorem api_documented : api.Documented where
  ids s := s.2
  mem_iterate identifiers i := by
    simp [api]
  remove s device hmem := by
    refine ⟨s.remove device.id, if_pos (List.mem_map_of_mem hmem), fun d => ?_⟩
    simp [api, remove]
  update s device hmem identifiers hfree :=
    ⟨s.replace device.id identifiers, if_pos ⟨List.mem_map_of_mem hmem, not_taken hfree⟩,
      mem_replace hmem⟩
  merge s device hmem identifiers hmeet hfree := by
    obtain ⟨found, hfound⟩ : ∃ found,
        s.1.find? (fun d => ¬Disjoint d.identifiers identifiers) = some found :=
      Option.isSome_iff_exists.mp (List.find?_isSome.mpr ⟨device, hmem, decide_eq_true hmeet⟩)
    have hin := List.mem_of_find?_eq_some hfound
    obtain rfl : found = device := by
      refine List.inj_on_of_nodup_map s.2 hin hmem ?_
      by_contra hid
      have htest := List.find?_some hfound
      exact of_decide_eq_true htest (hfree found hin hid)
    refine ⟨s.replace found.id (found.identifiers ∪ identifiers), ?_, mem_replace hin⟩
    simp only [api, hfound]
    exact if_neg (not_taken hfree)
  create s identifiers hfree := by
    have hnone : s.1.find? (fun d => ¬Disjoint d.identifiers identifiers) = none :=
      List.find?_eq_none.mpr fun d hd htest => of_decide_eq_true htest (hfree d hd)
    refine ⟨s.add identifiers, firstFree id (s.1.map (·.id)), ?_, ?_, fun d => List.mem_cons⟩
    · simp only [api, hnone]
    · intro other hother hid
      exact firstFree_notMem Function.injective_id (s.1.map (·.id))
        (hid ▸ List.mem_map_of_mem hother)

end DeviceList

/-- The device of a unit, with a code that it has had. -/
def unitDevice (id : ℕ) (key code : String) : DeviceEntry ℕ :=
  ⟨id, {(domain, key), (domain, appSetupCodeIdentifierPrefix ++ code)}⟩

theorem registered_unitDevice {entryId : String}
    (hentry : startsWith appSetupCodeIdentifierPrefix entryId = false) (id : ℕ) {key : String}
    (hkey : IsUnitKey entryId key) (code : String) :
    Registered entryId (unitDevice id key code) := by
  have hmem : ∀ key', (domain, key') ∈ (unitDevice id key code).identifiers →
      key' = key ∨ startsWith appSetupCodeIdentifierPrefix key' = true := by
    intro key' h
    rcases Finset.mem_insert.mp h with h | h
    · exact .inl (Prod.mk.inj h).2
    · rw [(Prod.mk.inj (Finset.mem_singleton.mp h)).2]
      exact .inr (startsWith_code code)
  refine ⟨fun h => ?_, fun a b ha hb hina hinb => ?_⟩
  · rcases hmem entryId h with hsame | hstarts
    · exact absurd hsame.symm hkey.1
    · rw [hentry] at hstarts
      cases hstarts
  · have honly : ∀ c, IsUnitKey entryId c → (domain, c) ∈ (unitDevice id key code).identifiers →
        c = key := by
      intro c hc hin
      refine (hmem c hin).resolve_right fun hstarts => ?_
      rw [hc.2] at hstarts
      cases hstarts
    rw [honly a ha hina, honly b hb hinb]

/-- Two units that have swapped their addresses, as a rescan has stored them. -/
def swappedUnits : List (StoredSubentry ℕ) :=
  [{ room := { storedRoom "slave_2" 2 with appSetupCode := some "R0000BB" }
     uniqueId := some "2"
     id := 0 },
    { room := { storedRoom "slave_3" 3 with appSetupCode := some "R0000AA" }
      uniqueId := some "3"
      id := 1 }]

/-- Their devices, with the codes of before, and that of a unit that is gone. -/
def swappedDevices : DeviceList :=
  ⟨[unitDevice 0 "slave_2" "R0000AA", unitDevice 1 "slave_3" "R0000BB",
    unitDevice 2 "slave_9" "R0000CC"], by decide⟩

/-- **The swapped units**: their devices lose the codes, which are then added to the other
ones. -/
theorem syncDevices_separate_swapped :
    ∃ t, syncDevices DeviceList.api "01JQ" (roomConfigs swappedUnits) swappedDevices = some t ∧
      ∀ d ∈ t.1, ∀ room ∈ roomConfigs swappedUnits, (domain, room.key) ∈ d.identifiers →
        ∀ code, (domain, appSetupCodeIdentifierPrefix ++ code) ∈ d.identifiers →
          room.appSetupCode = some code := by
  have hentry : startsWith appSetupCodeIdentifierPrefix "01JQ" = false := by decide
  have hkeys : (swappedUnits.map (·.room.key)).Nodup := by decide
  have hunits : ∀ subentry ∈ swappedUnits, Storable "01JQ" subentry.room := by
    intro subentry hmem
    rcases List.mem_cons.mp hmem with rfl | hmem
    · exact ⟨by decide, by decide⟩
    · obtain rfl := List.mem_singleton.mp hmem
      exact ⟨by decide, by decide⟩
  have hdistinct : DistinctIdentifiers swappedDevices.1 := by decide
  have hregistered : ∀ d ∈ swappedDevices.1, Registered "01JQ" d := by
    intro d hd
    simp only [swappedDevices, List.mem_cons, List.not_mem_nil, or_false] at hd
    rcases hd with rfl | rfl | rfl <;> exact registered_unitDevice hentry _ (by decide) _
  obtain ⟨-, t, ht, -, hcodes, -⟩ := syncDevices_separate DeviceList.api_documented hentry hkeys
    hunits (s := swappedDevices) hdistinct hregistered
  exact ⟨t, ht, hcodes⟩

end MeltemVentilation
