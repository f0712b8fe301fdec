import MeltemVentilation.EntityRegistry
import MeltemVentilation.RoomKeys

/-!
# The migration of older entries

`migration.py` brings a configuration entry of an older version to the current one, step by step.
Three of the steps give entities new unique ids, under which the integration will look for them:
the airflow diagnostic has become the data health, the entities of the units are scoped by their
entry when the units become subentries, and a key has been renamed. An entity that gets the wrong
id, or none, loses its name, its history and all the user has set, and another one is created in
its place. That this does not happen is shown for each step in `MigrationSteps`, and for all of
them in `MigratedEntries`.

What it needs are names that are told apart: a unique id is a key of a unit and a key of an entity
joined by an underscore, and both have underscores of their own (`ProperNames`). The keys of units
are a word, a number, and at most another number, and no key of an entity begins with a digit, so
that they are (`properNames_unitKeys`).

Left out are the devices of the units, which `async_update_device` moves along with them, and with
that what the entity registry does about the entities of a device that has been moved.
-/

namespace MeltemVentilation

/-! ### Unique ids -/

/-- `room_entity_unique_id`. -/
def roomEntityUniqueId (entryId roomKey entityKey : String) : String :=
  domain ++ "_" ++ entryId ++ "_" ++ roomKey ++ "_" ++ entityKey

/-- `legacy_room_entity_unique_id`. -/
def legacyRoomEntityUniqueId (roomKey entityKey : String) : String :=
  domain ++ "_" ++ roomKey ++ "_" ++ entityKey

/-- The keys of `ENTITY_PLATFORM_BY_KEY`. -/
def entityKeys : List String :=
  ["exhaust_temperature", "outdoor_air_temperature", "extract_air_temperature",
    "supply_air_temperature", "humidity_extract_air", "humidity_supply_air",
    "absolute_humidity_extract_air", "absolute_humidity_supply_air", "co2_extract_air",
    "co2_supply_air", "voc_extract_air", "voc_supply_air", "extract_air_flow", "supply_air_flow",
    "days_until_filter_change", "operating_hours", "fan_motor_hours", "rf_last_seen_age_seconds",
    "rf_signal_strength", "app_setup_code", "modbus_slave_id", "airflow_balance",
    "last_successful_update", "external_input_level", "external_input_on_delay",
    "external_input_run_on", "error_status", "frost_protection_active", "filter_change_due",
    "rf_comm_status", "device_fault", "value_error_status", "data_health", "connectivity",
    "supply_level", "extract_level", "humidity_starting_point", "humidity_min_level",
    "humidity_max_level", "co2_starting_point", "co2_min_level", "co2_max_level",
    "operation_mode", "preset_mode", "intensive"]

/-- `RENAMED_ENTITY_KEYS`. -/
def renamedEntityKeys : List (String × String) := [("rf_fault_status", "device_fault")]

/-- The keys of the entities that are moved to the subentry of their unit. -/
def movedEntityKeys : List String := entityKeys ++ renamedEntityKeys.map Prod.fst

/-- `text.endswith(ending)`. -/
def endsWith (ending text : String) : Bool := ending.toList.isSuffixOf text.toList

/-- `text.removesuffix(ending)`. -/
def removeSuffix (ending text : String) : String :=
  if endsWith ending text then
    String.ofList (text.toList.take (text.toList.length - ending.toList.length))
  else text

/-! ### The entry -/

/-- What the migration reads of a configuration entry. -/
structure MigratedEntry where
  entryId : String
  version : ℕ
  minorVersion : ℕ
  /-- `data["rooms"]`. -/
  rooms : Option (List StoredRoom)
  /-- `max_requests_per_second` in the data and in the options. -/
  dataRate : Option Json := none
  optionsRate : Option Json := none

/-- `str(room[field])`, for the texts and numbers that are there; `none` where it raises. -/
def roomText (room : StoredRoom) (field : String) : Option String :=
  match room field with
  | some (.str text) => some text
  | some (.int number) => some (toString number)
  | _ => none

/-- `UNIT_DATA_KEYS`. -/
def unitDataKeys : List String :=
  ["key", "slave", "profile", "preview", "product_id", "app_setup_code", "name_is_device_name"]

/-- `unit_data`, of a dictionary. -/
def storedUnitData (room : StoredRoom) : StoredRoom := fun field =>
  if field ∈ unitDataKeys then
    match room field with
    | some .null => none
    | value => value
  else none

namespace MigratedEntry

variable (entry : MigratedEntry)

/-- The step to 1.3: the request rate is an option now. -/
def moveRequestRate : MigratedEntry :=
  match entry.dataRate with
  | none => { entry with minorVersion := 3 }
  | some rate => { entry with
      dataRate := none, optionsRate := some (entry.optionsRate.getD rate), minorVersion := 3 }

/-- The step to 1.4; `none` where it raises. -/
def moveIdentity : Option MigratedEntry :=
  entry.rooms.map fun rooms =>
    { entry with rooms := some (rooms.map migrateRoomIdentityFields), minorVersion := 4 }

end MigratedEntry

section Steps

variable {Id Store : Type} (api : RegistryApi Id Store) (newId : ℕ → Id)

/-- The loop of `_async_migrate_data_health_entities`. -/
def dataHealthUpdates : List String → Dict String String → List (EntityUpdate Id)
  | [], _ => []
  | roomKey :: roomKeys, entities =>
    match entities.lookup (legacyRoomEntityUniqueId roomKey "airflow_data_stale") with
    | none => dataHealthUpdates roomKeys entities
    | some entityId =>
      let newUniqueId := legacyRoomEntityUniqueId roomKey "data_health"
      if newUniqueId ∈ entities then dataHealthUpdates roomKeys entities
      else ⟨entityId, newUniqueId, none⟩ ::
        dataHealthUpdates roomKeys (entities.insert newUniqueId entityId)

/-- **`_async_migrate_data_health_entities`.** -/
def migrateDataHealthEntities (entry : MigratedEntry) (s : Store) : Option Store := do
  let rooms ← entry.rooms
  let roomKeys ← rooms.mapM (roomText · "key")
  (dataHealthUpdates roomKeys (api.uniqueIds s entry.entryId)).foldlM api.updateEntity s

/-- The entities of one unit. -/
def unitUpdates (entryId : String) (entities : Dict String String) (roomKey : String)
    (subentryId : Id) : List (EntityUpdate Id) :=
  movedEntityKeys.filterMap fun entityKey =>
    (entities.lookup (legacyRoomEntityUniqueId roomKey entityKey)).map fun entityId =>
      ⟨entityId, roomEntityUniqueId entryId roomKey entityKey, some subentryId⟩

/-- The loop of `_async_migrate_units_to_subentries`, without its calls for the devices. -/
def addUnits (entryId : String) (entities : Dict String String) :
    ℕ → List (Option String) → List StoredRoom → Store → Option Store
  | _, _, [], s => some s
  | index, usedUniqueIds, room :: rooms, s => do
    let roomKey ← roomText room "key"
    let title ← roomText room "name"
    let slave ← roomText room "slave"
    let uniqueId := if some slave ∈ usedUniqueIds then none else some slave
    let s ← api.addSubentry s ⟨newId index, storedUnitData room, title, uniqueId⟩
    let s ← (unitUpdates entryId entities roomKey (newId index)).foldlM api.updateEntity s
    addUnits entryId entities (index + 1) (uniqueId :: usedUniqueIds) rooms s

/-- **`_async_migrate_units_to_subentries`.** -/
def migrateUnitsToSubentries (entry : MigratedEntry) (s : Store) :
    Option (MigratedEntry × Store) := do
  let s ← addUnits api newId entry.entryId (api.uniqueIds s entry.entryId) 0 []
    (entry.rooms.getD []) s
  return ({ entry with rooms := none, version := 2, minorVersion := 1 }, s)

/-- The loops of `_async_migrate_renamed_entity_keys`. -/
def renameUpdates : List String → List ((String × RegistryEntity Id) × (String × String)) →
    List (EntityUpdate Id)
  | _, [] => []
  | uniqueIds, ((entityId, entity), (oldKey, newKey)) :: rest =>
    let newUniqueId := removeSuffix ("_" ++ oldKey) entity.uniqueId ++ "_" ++ newKey
    if endsWith ("_" ++ oldKey) entity.uniqueId = false ∨ newUniqueId ∈ uniqueIds then
      renameUpdates uniqueIds rest
    else ⟨entityId, newUniqueId, none⟩ :: renameUpdates (newUniqueId :: uniqueIds) rest

/-- **`_async_migrate_renamed_entity_keys`.** -/
def migrateRenamedEntityKeys (entry : MigratedEntry) (s : Store) :
    Option (MigratedEntry × Store) := do
  let entities := api.entities s entry.entryId
  let s ← (renameUpdates (entities.map (·.2.uniqueId))
    (entities.flatMap fun entity => renamedEntityKeys.map fun key => (entity, key))).foldlM
      api.updateEntity s
  return ({ entry with minorVersion := 2 }, s)

/-- The steps for version 1. -/
def migrateFirstVersion (entry : MigratedEntry) (s : Store) : Option (MigratedEntry × Store) := do
  let s ← if entry.minorVersion < 2 then migrateDataHealthEntities api entry s else some s
  let entry := if entry.minorVersion < 3 then entry.moveRequestRate else entry
  let entry ← if entry.minorVersion < 4 then entry.moveIdentity else some entry
  migrateUnitsToSubentries api newId entry s

/-- **`async_migrate_entry`**, with what it returns; `none` where it raises. -/
def migrateEntry (entry : MigratedEntry) (s : Store) : Option (Bool × MigratedEntry × Store) :=
  if 2 < entry.version then some (false, entry, s)
  else do
    let (entry, s) ←
      if entry.version = 1 then migrateFirstVersion api newId entry s else some (entry, s)
    let (entry, s) ←
      if entry.minorVersion < 2 then migrateRenamedEntityKeys api entry s else some (entry, s)
    return (true, entry, s)

end Steps

/-! ### Names that are told apart -/

/-- The keys that the entities of a unit may have had. -/
def knownEntityKeys : List String := "airflow_data_stale" :: movedEntityKeys

/-- **The names are told apart**: a unique id gives away the unit and the key of its entity, and
whether it is scoped by the entry. -/
structure ProperNames (entryId : String) (roomKeys : List String) : Prop where
  legacy : ∀ roomKey ∈ roomKeys, ∀ roomKey' ∈ roomKeys, ∀ key ∈ knownEntityKeys,
    ∀ key' ∈ knownEntityKeys, legacyRoomEntityUniqueId roomKey key =
      legacyRoomEntityUniqueId roomKey' key' → roomKey = roomKey' ∧ key = key'
  entryScoped : ∀ roomKey ∈ roomKeys, ∀ roomKey' ∈ roomKeys, ∀ key ∈ knownEntityKeys,
    ∀ key' ∈ knownEntityKeys, legacyRoomEntityUniqueId roomKey key ≠
      roomEntityUniqueId entryId roomKey' key'

section Names

variable {entryId : String} {roomKeys : List String} {roomKey roomKey' key key' : String}

/-- A scoped id gives them away as well. -/
theorem ProperNames.entryScoped_inj (h : ProperNames entryId roomKeys) (hroom : roomKey ∈ roomKeys)
    (hroom' : roomKey' ∈ roomKeys) (hkey : key ∈ knownEntityKeys) (hkey' : key' ∈ knownEntityKeys)
    (heq : roomEntityUniqueId entryId roomKey key = roomEntityUniqueId entryId roomKey' key') :
    roomKey = roomKey' ∧ key = key' := by
  refine h.legacy roomKey hroom roomKey' hroom' key hkey key' hkey' ?_
  rw [← String.toList_inj] at heq ⊢
  simp only [roomEntityUniqueId, legacyRoomEntityUniqueId, String.toList_append,
    List.append_assoc, List.append_cancel_left_eq] at heq ⊢
  exact heq

/-- No key of an entity begins with a digit. -/
theorem head_knownEntityKeys (h : key ∈ knownEntityKeys) :
    ∃ c rest, key.toList = c :: rest ∧ c.isDigit = false := by
  have hall : ∀ key ∈ knownEntityKeys, key.toList.head?.map Char.isDigit = some false := by
    decide +kernel
  obtain ⟨c, hhead, hdigit⟩ := Option.map_eq_some_iff.mp (hall key h)
  obtain ⟨rest, hlist⟩ := List.head?_eq_some_iff.mp hhead
  exact ⟨c, rest, hlist, hdigit⟩

/-- A number begins with a digit. -/
theorem head_toString (n : ℕ) :
    ∃ c rest, (toString n).toList = c :: rest ∧ c.isDigit = true := by
  have hdigits : (toString n).toList = Nat.toDigits 10 n := by simp [Nat.toString_eq_repr]
  cases hlist : Nat.toDigits 10 n with
  | nil => exact absurd hlist Nat.toDigits_ne_nil
  | cons c rest =>
    refine ⟨c, rest, hdigits.trans hlist, ?_⟩
    exact Nat.isDigit_of_mem_toDigits (by decide) (by decide) (hlist ▸ List.mem_cons_self)

/-- The suffix of a key ends where the key of an entity begins. -/
theorem keySuffix_append_inj {n m : ℕ} {rest rest' : List Char}
    (hhead : ∀ c ∈ rest.head?, c.isDigit = false) (hhead' : ∀ c ∈ rest'.head?, c.isDigit = false)
    (h : keySuffix n ++ '_' :: rest = keySuffix m ++ '_' :: rest') : n = m ∧ rest = rest' := by
  cases n with
  | zero =>
    cases m with
    | zero => exact ⟨rfl, (List.cons.inj h).2⟩
    | succ m =>
      obtain ⟨c, digits, hdigits, hdigit⟩ := head_toString (m + 2)
      have hrest : rest = (toString (m + 2)).toList ++ '_' :: rest' := (List.cons.inj h).2
      rw [hdigits, List.cons_append] at hrest
      rw [hhead c (by rw [hrest]; rfl)] at hdigit
      cases hdigit
  | succ n =>
    cases m with
    | zero =>
      obtain ⟨c, digits, hdigits, hdigit⟩ := head_toString (n + 2)
      have hrest : (toString (n + 2)).toList ++ '_' :: rest = rest' := (List.cons.inj h).2
      rw [hdigits, List.cons_append] at hrest
      rw [hhead' c (by rw [← hrest]; rfl)] at hdigit
      cases hdigit
    | succ m =>
      have htails : (toString (n + 2)).toList ++ '_' :: rest =
          (toString (m + 2)).toList ++ '_' :: rest' := (List.cons.inj h).2
      obtain ⟨hnumber, hrest⟩ := toString_append_inj (by simp) (by simp) htails
      exact ⟨by omega, (List.cons.inj hrest).2⟩

theorem toList_legacyRoomEntityUniqueId (n m : ℕ) (key : String) :
    (legacyRoomEntityUniqueId (suffixedKey (slaveKey n) m) key).toList =
      (domain ++ "_slave_").toList ++
        ((toString n).toList ++ (keySuffix m ++ '_' :: key.toList)) := by
  simp [legacyRoomEntityUniqueId, toList_suffixedKey, toList_slaveKey]

/-- **The keys that the setup gives to units**, and an entry id without underscores, make proper
names. -/
theorem properNames_unitKeys (hunit : ∀ roomKey ∈ roomKeys, ∃ n m,
      roomKey = suffixedKey (slaveKey n) m) (hentry : '_' ∉ entryId.toList)
    (hslave : entryId ≠ "slave") : ProperNames entryId roomKeys where
  legacy roomKey hroom roomKey' hroom' key hkey key' hkey' heq := by
    obtain ⟨n, m, rfl⟩ := hunit roomKey hroom
    obtain ⟨n', m', rfl⟩ := hunit roomKey' hroom'
    obtain ⟨c, rest, hlist, hdigit⟩ := head_knownEntityKeys hkey
    obtain ⟨c', rest', hlist', hdigit'⟩ := head_knownEntityKeys hkey'
    rw [← String.toList_inj, toList_legacyRoomEntityUniqueId,
      toList_legacyRoomEntityUniqueId] at heq
    have hhead : ∀ (m : ℕ) (rest : List Char),
        ∀ c ∈ (keySuffix m ++ '_' :: rest).head?, c.isDigit = false := by
      intro m rest
      cases m <;> simp [keySuffix]
    obtain ⟨rfl, hsuffix⟩ := toString_append_inj (hhead _ _) (hhead _ _)
      (List.append_cancel_left heq)
    obtain ⟨rfl, hkeys⟩ := keySuffix_append_inj (by simp [hlist, hdigit])
      (by simp [hlist', hdigit']) hsuffix
    exact ⟨rfl, String.toList_inj.mp hkeys⟩
  entryScoped roomKey hroom roomKey' hroom' key hkey key' hkey' heq := by
    obtain ⟨n, m, rfl⟩ := hunit roomKey hroom
    obtain ⟨n', m', rfl⟩ := hunit roomKey' hroom'
    -- What stands before the first underscore is `slave`, and the entry id.
    have hlist := congrArg String.toList heq
    simp only [roomEntityUniqueId, legacyRoomEntityUniqueId, String.toList_append,
      List.append_assoc, List.append_cancel_left_eq, toList_suffixedKey, toList_slaveKey] at hlist
    have hword : ∀ {word rest : List Char}, '_' ∉ word →
        (word ++ '_' :: rest).takeWhile (· ≠ '_') = word := by
      intro word rest hword
      rw [List.takeWhile_append_of_pos fun c hc =>
        decide_eq_true (ne_of_mem_of_not_mem hc hword)]
      simp
    have hsame := congrArg (List.takeWhile (· ≠ '_')) hlist
    have hleft : ∀ rest : List Char, "slave_".toList ++ rest = "slave".toList ++ '_' :: rest :=
      fun _ => rfl
    rw [hleft, hword (by decide)] at hsame
    exact hslave (String.toList_inj.mp (hsame.trans (hword hentry)).symm)

theorem mem_knownEntityKeys (h : key ∈ movedEntityKeys) : key ∈ knownEntityKeys :=
  List.mem_cons_of_mem _ h

theorem dataHealth_mem : "data_health" ∈ movedEntityKeys := by decide

theorem airflowDataStale_notMem : "airflow_data_stale" ∉ movedEntityKeys := by decide

end Names

end MeltemVentilation
