import MeltemVentilation.MigrationSteps

/-!
# Entries after the migration

The steps of the migration together, for an entry of the first version with any minor version.

The units become subentries with all that is stored of them, and keep their order; the first one
with a Modbus address has it for a unique id (`migrateEntry_subentries`). For this the units have to
be told apart, and no call may raise (`Upgradable`): the ids of today must not be in use, nor may an
entity of another entry have an id that a step gives.

If moreover no unit has both the old and the new entity of a changed key, and only units have
entities with the ending that the last step looks for (`Migratable`), each entity of a unit has the
id that the integration uses now and belongs to the subentry of its unit, and all other entities
are as before (`migrateEntry_entities`).

Left out are the devices, which are moved to the subentries as well, and what Home Assistant does
to entities when their device is moved.
-/

namespace MeltemVentilation

/-! ### The whole migration -/

/-- **An entry of a first version**: units that can be told apart, entities that have different ids
and none of today yet, and no subentries. -/
structure FirstVersionEntry {Id Store : Type} (api : RegistryApi Id Store) (s : Store)
    (entry : MigratedEntry) (rooms : List StoredRoom) (roomKeys : List String) : Prop where
  version : entry.version = 1
  rooms_eq : entry.rooms = some rooms
  keys : rooms.mapM (roomText · "key") = some roomKeys
  texts : ∀ room ∈ rooms, (roomText room "name").isSome = true ∧
    (roomText room "slave").isSome = true
  nodup : roomKeys.Nodup
  names : ProperNames entry.entryId roomKeys
  distinct : api.Distinct s entry.entryId
  unscoped : ∀ roomKey ∈ roomKeys, ∀ key ∈ movedEntityKeys, ∀ entityId entity,
    api.entity s entityId = some entity →
    entity.uniqueId ≠ roomEntityUniqueId entry.entryId roomKey key
  subentries : api.subentries s = []

/-- **What an entry needs for its units to become subentries**: no entity of another entry has an
id that an entity of it gets in the steps to 1.2 and 2.2. -/
structure Upgradable {Id Store : Type} (api : RegistryApi Id Store) (s : Store)
    (entry : MigratedEntry) (rooms : List StoredRoom) (roomKeys : List String) : Prop extends
    FirstVersionEntry api s entry rooms roomKeys where
  foreignHealth : entry.minorVersion < 2 → ∀ roomKey ∈ roomKeys, ∀ entityId entity,
    api.entity s entityId = some entity → entity.configEntryId = entry.entryId →
    entity.uniqueId = legacyRoomEntityUniqueId roomKey "airflow_data_stale" →
    ∀ entityId' entity', api.entity s entityId' = some entity' →
      entity'.configEntryId ≠ entry.entryId →
      entity'.uniqueId ≠ legacyRoomEntityUniqueId roomKey "data_health"
  /-- The entities of units have another id in the step to 2.2. -/
  foreignFault : ∀ entityId entity, api.entity s entityId = some entity →
    entity.configEntryId = entry.entryId → endsWith "_rf_fault_status" entity.uniqueId = true →
    (∀ roomKey ∈ roomKeys,
      entity.uniqueId ≠ legacyRoomEntityUniqueId roomKey "rf_fault_status") →
    ∀ entityId' entity', api.entity s entityId' = some entity' →
      entity'.configEntryId ≠ entry.entryId →
      entity'.uniqueId ≠ removeSuffix "_rf_fault_status" entity.uniqueId ++ "_device_fault"

/-- **What an entry needs for its entities to be found**: for each changed key at most one of the
old and the new entity of a unit, and none that only seems to be one of a unit. -/
structure Migratable {Id Store : Type} (api : RegistryApi Id Store) (s : Store)
    (entry : MigratedEntry) (rooms : List StoredRoom) (roomKeys : List String) : Prop extends
    FirstVersionEntry api s entry rooms roomKeys where
  health : entry.minorVersion < 2 → ∀ roomKey ∈ roomKeys, ∀ entityId entity,
    api.entity s entityId = some entity → entity.configEntryId = entry.entryId →
    entity.uniqueId = legacyRoomEntityUniqueId roomKey "airflow_data_stale" →
    ∀ entityId' entity', api.entity s entityId' = some entity' →
      entity'.uniqueId ≠ legacyRoomEntityUniqueId roomKey "data_health"
  fault : ∀ roomKey ∈ roomKeys, ∀ entityId entity, api.entity s entityId = some entity →
    entity.configEntryId = entry.entryId →
    entity.uniqueId = legacyRoomEntityUniqueId roomKey "rf_fault_status" →
    ∀ entityId' entity', api.entity s entityId' = some entity' →
      entity'.uniqueId ≠ legacyRoomEntityUniqueId roomKey "device_fault"
  endings : ∀ entityId entity, api.entity s entityId = some entity →
    entity.configEntryId = entry.entryId → endsWith "_rf_fault_status" entity.uniqueId = true →
    ∃ roomKey ∈ roomKeys, entity.uniqueId = legacyRoomEntityUniqueId roomKey "rf_fault_status"

/-- The keys of the entities that are renamed. -/
def MigratedEntry.oldEntityKeys (entry : MigratedEntry) : List String :=
  if entry.minorVersion < 2 then knownEntityKeys else movedEntityKeys

/-- The rooms with their identity. -/
def MigratedEntry.identified (entry : MigratedEntry) (rooms : List StoredRoom) : List StoredRoom :=
  if entry.minorVersion < 4 then rooms.map migrateRoomIdentityFields else rooms

theorem migrateRoomIdentityFields_of_ne {field : String} (hid : field ≠ "product_id")
    (hcode : field ≠ "app_setup_code") (room : StoredRoom) :
    migrateRoomIdentityFields room field = room field := by
  have hpart : ∀ (migrated : StoredRoom) (part : String),
      migratePart migrated part field = migrated field := by
    intro migrated part
    by_cases hstart : (startsWith "ID " part && (migrated "product_id").isNone) = true
    · rw [migratePart, if_pos hstart]
      cases parseInt (removePrefix "ID " part) with
      | none => rfl
      | some productId => exact Function.update_of_ne hid _ _
    · rw [migratePart, if_neg hstart]
      split_ifs
      · dsimp only
        split_ifs
        · exact Function.update_of_ne hcode _ _
        · rfl
      · rfl
  have hparts : ∀ (parts : List String) (migrated : StoredRoom),
      parts.foldl migratePart migrated field = migrated field := by
    intro parts
    induction parts with
    | nil => exact fun _ => rfl
    | cons part parts ih => exact fun migrated => (ih _).trans (hpart migrated part)
  cases hpreview : room "preview" with
  | none => rw [migrateRoomIdentityFields, hpreview]
  | some preview =>
    cases preview with
    | str preview =>
      rw [migrateRoomIdentityFields, hpreview]
      exact hparts _ room
    | _ => rw [migrateRoomIdentityFields, hpreview]

theorem roomText_identified {field : String} (hid : field ≠ "product_id")
    (hcode : field ≠ "app_setup_code") (entry : MigratedEntry) (rooms : List StoredRoom) :
    (entry.identified rooms).map (roomText · field) = rooms.map (roomText · field) := by
  rw [MigratedEntry.identified]
  split
  · rw [List.map_map]
    refine List.map_congr_left fun room _ => ?_
    rw [Function.comp_apply, roomText, roomText, migrateRoomIdentityFields_of_ne hid hcode]
  · rfl

section Whole

variable {Id Store : Type} {api : RegistryApi Id Store} {newId : ℕ → Id} {s t : Store}
  {entry : MigratedEntry} {rooms : List StoredRoom} {roomKeys : List String}

theorem movedEntityKeys_subset {key : String} (hkey : key ∈ movedEntityKeys) :
    key ∈ entry.oldEntityKeys := by
  rw [MigratedEntry.oldEntityKeys]
  split
  · exact mem_knownEntityKeys hkey
  · exact hkey

theorem oldEntityKeys_subset {key : String} (hkey : key ∈ entry.oldEntityKeys) :
    key ∈ knownEntityKeys := by
  rw [MigratedEntry.oldEntityKeys] at hkey
  split at hkey
  · exact hkey
  · exact mem_knownEntityKeys hkey

theorem healthKey_mem {key : String} (hkey : key ∈ knownEntityKeys) :
    healthKey key ∈ movedEntityKeys := by
  rw [healthKey]
  split
  · exact dataHealth_mem
  · exact (List.mem_cons.mp hkey).resolve_left ‹_›

/-- **The step to 1.3**, if it is due. -/
def MigratedEntry.rateMoved (entry : MigratedEntry) : MigratedEntry :=
  if entry.minorVersion < 3 then entry.moveRequestRate else entry

theorem rateMoved_spec (entry : MigratedEntry) :
    entry.rateMoved.entryId = entry.entryId ∧ entry.rateMoved.rooms = entry.rooms ∧
      (entry.rateMoved.minorVersion < 4 ↔ entry.minorVersion < 4) ∧
      (entry.minorVersion < 3 → entry.rateMoved.dataRate = none ∧
        entry.rateMoved.optionsRate = entry.optionsRate.or entry.dataRate) := by
  rw [MigratedEntry.rateMoved]
  by_cases hminor : entry.minorVersion < 3
  · rw [if_pos hminor, MigratedEntry.moveRequestRate]
    have hless : entry.minorVersion < 4 := by omega
    cases hdata : entry.dataRate with
    | none => simp [hless]
    | some rate => cases entry.optionsRate <;> simp [hless]
  · rw [if_neg hminor]
    exact ⟨rfl, rfl, Iff.rfl, fun h => absurd h hminor⟩

/-- **The step to 1.4**, if it is due. -/
theorem identified_run (hrooms : entry.rooms = some rooms) : ∃ entry' : MigratedEntry,
    (if entry.rateMoved.minorVersion < 4 then entry.rateMoved.moveIdentity
      else some entry.rateMoved) = some entry' ∧
    entry'.entryId = entry.entryId ∧ entry'.rooms = some (entry.identified rooms) ∧
      entry'.dataRate = entry.rateMoved.dataRate ∧
      entry'.optionsRate = entry.rateMoved.optionsRate := by
  obtain ⟨hid, hsame, hminor, -⟩ := rateMoved_spec entry
  rw [MigratedEntry.identified, ← hid]
  by_cases hless : entry.minorVersion < 4
  · rw [if_pos (hminor.mpr hless), if_pos hless, MigratedEntry.moveIdentity, hsame, hrooms]
    exact ⟨_, rfl, rfl, rfl, rfl, rfl⟩
  · rw [if_neg (mt hminor.mp hless), if_neg hless]
    exact ⟨_, rfl, rfl, hsame.trans hrooms, rfl, rfl⟩

/-- The steps for version 1, one after the other. -/
theorem migrateFirstVersion_eq : migrateFirstVersion api newId entry s =
    (if entry.minorVersion < 2 then migrateDataHealthEntities api entry s else some s).bind
      fun s => (if entry.rateMoved.minorVersion < 4 then entry.rateMoved.moveIdentity
        else some entry.rateMoved).bind
          fun entry => migrateUnitsToSubentries api newId entry s := by
  have hrest : ∀ (entry : MigratedEntry) (s : Store),
      (if entry.minorVersion < 4 then
        entry.moveIdentity.bind fun entry => migrateUnitsToSubentries api newId entry s
      else (some entry).bind fun entry => migrateUnitsToSubentries api newId entry s) =
      (if entry.minorVersion < 4 then entry.moveIdentity else some entry).bind
        fun entry => migrateUnitsToSubentries api newId entry s := by
    intro entry s
    split <;> rfl
  simp only [← hrest]
  rw [migrateFirstVersion]
  split <;> rfl

/-- **The step to 1.2, if it is due.** -/
theorem Migratable.health_run (h : Migratable api s entry rooms roomKeys) (hapi : api.Documented) :
    ∃ t, (if entry.minorVersion < 2 then migrateDataHealthEntities api entry s else some s) =
        some t ∧ api.subentries t = [] ∧ api.Distinct t entry.entryId ∧
      NamesChanged api s t entry.entryId roomKeys entry.oldEntityKeys legacyRoomEntityUniqueId
        legacyRoomEntityUniqueId healthKey fun _ => none := by
  by_cases hminor : entry.minorVersion < 2
  · obtain ⟨t, hrun, hsubentries, hdistinct, hnames⟩ := migrateDataHealthEntities_run hapi
      h.rooms_eq h.keys h.nodup h.names h.distinct (h.health hminor)
    rw [if_pos hminor, MigratedEntry.oldEntityKeys, if_pos hminor]
    exact ⟨t, hrun, hsubentries.trans h.subentries, hdistinct, hnames⟩
  · rw [if_neg hminor, MigratedEntry.oldEntityKeys, if_neg hminor]
    refine ⟨s, rfl, h.subentries, h.distinct, ⟨?_, fun _ _ hentity _ => hentity, fun _ h => h⟩⟩
    intro roomKey hroom key hkey entityId entity hentity hown hname
    have hsame : healthKey key = key := by
      refine if_neg ?_
      rintro rfl
      exact airflowDataStale_notMem hkey
    rw [hsame, ← hname]
    exact hentity

/-- The rooms keep their keys. -/
theorem FirstVersionEntry.keys_identified (h : FirstVersionEntry api s entry rooms roomKeys) :
    (entry.identified rooms).mapM (roomText · "key") = some roomKeys := by
  have hsame : ∀ rooms : List StoredRoom,
      rooms.mapM (roomText · "key") = (rooms.map (roomText · "key")).mapM id := by
    intro rooms
    rw [List.mapM_map]
    rfl
  rw [hsame, roomText_identified (by decide) (by decide), ← hsame]
  exact h.keys

/-- They keep their names and addresses. -/
theorem FirstVersionEntry.texts_identified (h : FirstVersionEntry api s entry rooms roomKeys)
    {room : StoredRoom} (hroom : room ∈ entry.identified rooms) :
    (roomText room "name").isSome = true ∧ (roomText room "slave").isSome = true := by
  have hfield : ∀ field, field ≠ "product_id" → field ≠ "app_setup_code" →
      ∃ other ∈ rooms, roomText other field = roomText room field := by
    intro field hid hcode
    have hmem := List.mem_map_of_mem (f := (roomText · field)) hroom
    rw [roomText_identified hid hcode] at hmem
    exact List.mem_map.mp hmem
  obtain ⟨other, hother, hname⟩ := hfield "name" (by decide) (by decide)
  obtain ⟨other', hother', hslave⟩ := hfield "slave" (by decide) (by decide)
  rw [← hname, ← hslave]
  exact ⟨(h.texts other hother).1, (h.texts other' hother').2⟩

/-- The step to 1.2 gives no entity a name of today. -/
theorem Migratable.unscoped_health (h : Migratable api s entry rooms roomKeys)
    {subentry : String → Option Id}
    (hnames : NamesChanged api s t entry.entryId roomKeys entry.oldEntityKeys
      legacyRoomEntityUniqueId legacyRoomEntityUniqueId healthKey subentry) :
    ∀ roomKey ∈ roomKeys, ∀ key ∈ movedEntityKeys, ∀ entityId entity,
      api.entity t entityId = some entity →
      entity.uniqueId ≠ roomEntityUniqueId entry.entryId roomKey key := by
  intro roomKey hroom key hkey entityId entity hentity
  obtain ⟨roomKey', hroom', key', hkey', old, -, -, -, rfl⟩ | ⟨hsame, -⟩ :=
    hnames.entity_eq hentity
  · exact h.names.entryScoped roomKey' hroom' roomKey hroom _
      (mem_knownEntityKeys (healthKey_mem (oldEntityKeys_subset hkey'))) _
      (mem_knownEntityKeys hkey)
  · exact h.unscoped roomKey hroom key hkey entityId entity hsame

/-- **The steps for version 1** after the one to 1.2, which leaves the ids of the entities apart. -/
theorem FirstVersionEntry.firstVersion_run (h : FirstVersionEntry api s entry rooms roomKeys)
    (hapi : api.Documented) (hid : Function.Injective newId)
    (hhealth : (if entry.minorVersion < 2 then migrateDataHealthEntities api entry s else some s) =
      some t)
    (hsubentries : api.subentries t = []) (hdistinct : api.Distinct t entry.entryId)
    (hunscoped : ∀ roomKey ∈ roomKeys, ∀ key ∈ movedEntityKeys, ∀ entityId entity,
      api.entity t entityId = some entity →
      entity.uniqueId ≠ roomEntityUniqueId entry.entryId roomKey key) :
    ∃ u entry', migrateFirstVersion api newId entry s = some (entry', u) ∧
      entry'.entryId = entry.entryId ∧ entry'.version = 2 ∧ entry'.minorVersion = 1 ∧
      entry'.rooms = none ∧ (entry.minorVersion < 3 → entry'.dataRate = none ∧
        entry'.optionsRate = entry.optionsRate.or entry.dataRate) ∧
      api.Distinct u entry.entryId ∧
      NamesChanged api t u entry.entryId roomKeys movedEntityKeys legacyRoomEntityUniqueId
        (roomEntityUniqueId entry.entryId) id
        (fun roomKey => some (newId (roomKeys.idxOf roomKey))) ∧
      (api.subentries u).length = rooms.length ∧
      ∀ n room subentry, (entry.identified rooms)[n]? = some room →
        (api.subentries u)[n]? = some subentry →
        IsSubentryOf ((entry.identified rooms).take n) room subentry ∧ subentry.id = newId n := by
  obtain ⟨entry', hidentity, hentryId, hrooms, hdata, hoptions⟩ := identified_run h.rooms_eq
  rw [← hentryId] at hdistinct hunscoped ⊢
  obtain ⟨u, hrun, hdistinct', hnames, hlength, hall⟩ := migrateUnitsToSubentries_run hapi hid
    hrooms h.keys_identified h.nodup (fun _ hroom => h.texts_identified hroom)
    (hentryId ▸ h.names) hdistinct hunscoped hsubentries
  refine ⟨u, { entry' with rooms := none, version := 2, minorVersion := 1 }, ?_, rfl, rfl, rfl, rfl,
    fun hminor => ?_, hdistinct', hnames, ?_, hall⟩
  · rw [migrateFirstVersion_eq, hhealth, Option.bind_some, hidentity, Option.bind_some, hrun]
  · rw [hdata, hoptions]
    exact (rateMoved_spec entry).2.2.2 hminor
  · have hmap : ((entry.identified rooms).map (roomText · "name")).length =
        (rooms.map (roomText · "name")).length := by
      rw [roomText_identified (by decide) (by decide)]
    rwa [List.length_map, List.length_map, ← hlength] at hmap

/-- **The whole migration** is the steps for version 1 and the one to 2.2. -/
theorem migrateEntry_of_steps (hversion : entry.version = 1) {entry' entry'' : MigratedEntry}
    {u : Store} (hfirst : migrateFirstVersion api newId entry s = some (entry', t))
    (hminor : entry'.minorVersion = 1)
    (hrenamed : migrateRenamedEntityKeys api entry' t = some (entry'', u)) :
    migrateEntry api newId entry s = some (true, entry'', u) := by
  have hold : ¬ 2 < entry.version := by rw [hversion]; decide
  have hnew : entry'.minorVersion < 2 := by rw [hminor]; decide
  simp only [migrateEntry, if_neg hold, if_pos hversion, hfirst, Option.bind_eq_bind,
    Option.bind_some, if_pos hnew, hrenamed]
  rfl

/-! ### The units -/

/-- **The step to 1.2, if it is due**: the entities are as before, but for some of the entry that
have the id of the data health now. -/
theorem Upgradable.health_run (h : Upgradable api s entry rooms roomKeys) (hapi : api.Documented) :
    ∃ t, (if entry.minorVersion < 2 then migrateDataHealthEntities api entry s else some s) =
        some t ∧ api.subentries t = [] ∧ api.Distinct t entry.entryId ∧
      ∀ entityId entity, api.entity t entityId = some entity →
        api.entity s entityId = some entity ∨ entity.configEntryId = entry.entryId ∧
          ∃ roomKey ∈ roomKeys,
            entity.uniqueId = legacyRoomEntityUniqueId roomKey "data_health" := by
  by_cases hminor : entry.minorVersion < 2
  · obtain ⟨t, hrun, hsubentries, hdistinct, -, hdone⟩ := migrateDataHealthEntities_done hapi
      h.rooms_eq h.keys h.nodup h.names h.distinct (h.foreignHealth hminor)
    rw [if_pos hminor]
    refine ⟨t, hrun, hsubentries.trans h.subentries, hdistinct, fun entityId entity hentity => ?_⟩
    obtain ⟨-, hsame⟩ | ⟨update, hupdate, rfl, before, hbefore, rfl⟩ := hdone.entity_eq hentity
    · exact .inl hsame
    · obtain ⟨roomKey, hroom, hlookup, heq⟩ := mem_renamings.mp hupdate
      obtain ⟨old, hold, hown, -⟩ := (lookup_uniqueIds hapi h.distinct).mp hlookup
      obtain rfl := Option.some.inj (hold.symm.trans hbefore)
      exact .inr ⟨hown, roomKey, List.mem_of_mem_filter hroom, by rw [heq]; rfl⟩
  · rw [if_neg hminor]
    exact ⟨s, rfl, h.subentries, h.distinct, fun _ _ hentity => .inl hentity⟩

theorem not_endsWith_dataHealth (roomKey : String) :
    endsWith "_rf_fault_status" (legacyRoomEntityUniqueId roomKey "data_health") ≠ true := by
  intro h
  have hends : endsWith "_data_health" (legacyRoomEntityUniqueId roomKey "data_health") = true := by
    rw [legacyRoomEntityUniqueId, String.append_assoc]
    exact endsWith_append _ _
  simp only [endsWith, List.isSuffixOf_iff_suffix] at h hends
  exact absurd (List.suffix_or_suffix_of_suffix h hends) (by decide)

/-- The entity of a unit gets the id of its new key. -/
theorem removeSuffix_rfFaultStatus (entryId roomKey : String) :
    removeSuffix "_rf_fault_status" (roomEntityUniqueId entryId roomKey "rf_fault_status") ++
      "_device_fault" = roomEntityUniqueId entryId roomKey "device_fault" := by
  have hold : "_" ++ "rf_fault_status" = "_rf_fault_status" := by decide
  have hnew : "_" ++ "device_fault" = "_device_fault" := by decide
  rw [roomEntityUniqueId, roomEntityUniqueId, @String.append_assoc _ "_" "rf_fault_status", hold,
    removeSuffix_append, @String.append_assoc _ "_" "device_fault", hnew]

/-- **The migration loses no unit.** The entry is of the current version, and has a subentry for
each unit, in their order, with what was stored of the unit and its identity. -/
theorem migrateEntry_subentries (h : Upgradable api s entry rooms roomKeys) (hapi : api.Documented)
    (hid : Function.Injective newId) :
    ∃ t entry', migrateEntry api newId entry s = some (true, entry', t) ∧
      entry'.version = 2 ∧ entry'.minorVersion = 2 ∧ entry'.rooms = none ∧
      (entry.minorVersion < 3 → entry'.dataRate = none ∧
        entry'.optionsRate = entry.optionsRate.or entry.dataRate) ∧
      (api.subentries t).length = rooms.length ∧
      ∀ n room subentry, (entry.identified rooms)[n]? = some room →
        (api.subentries t)[n]? = some subentry →
        IsSubentryOf ((entry.identified rooms).take n) room subentry ∧ subentry.id = newId n := by
  obtain ⟨t, hhealth, hnone, hdistinct, hentities⟩ := h.health_run hapi
  have hunscoped : ∀ roomKey ∈ roomKeys, ∀ key ∈ movedEntityKeys, ∀ entityId entity,
      api.entity t entityId = some entity →
      entity.uniqueId ≠ roomEntityUniqueId entry.entryId roomKey key := by
    intro roomKey hroom key hkey entityId entity hentity
    obtain hsame | ⟨-, roomKey', hroom', hname⟩ := hentities entityId entity hentity
    · exact h.unscoped roomKey hroom key hkey entityId entity hsame
    · rw [hname]
      exact h.names.entryScoped roomKey' hroom' roomKey hroom _ (mem_knownEntityKeys dataHealth_mem)
        _ (mem_knownEntityKeys hkey)
  obtain ⟨u, entry', hfirst, hentryId, hversion, hminor, hrooms, hrate, -, hnames, hlength, hall⟩ :=
    h.firstVersion_run hapi hid hhealth hnone hdistinct hunscoped
  -- An entity of another entry is as at the start, and has no id of today.
  have hforeign : ∀ entityId entity, api.entity u entityId = some entity →
      entity.configEntryId ≠ entry.entryId → api.entity s entityId = some entity := by
    intro entityId entity hentity hother
    obtain ⟨roomKey, -, key, -, old, -, hown, -, rfl⟩ | ⟨hsame, -⟩ := hnames.entity_eq hentity
    · exact absurd hown hother
    · exact (hentities entityId entity hsame).resolve_right fun hown => hother hown.1
  obtain ⟨v, hrenamed, hsubentries⟩ := @migrateRenamedEntityKeys_done _ _ api u hapi entry' (by
      intro entityId entity hentity hown hends entityId' entity' hentity' hother
      rw [hentryId] at hown hother
      have hstart := hforeign entityId' entity' hentity' hother
      obtain ⟨roomKey, hroom, key, hkey, old, -, -, -, rfl⟩ | ⟨hsame, hnamed⟩ :=
        hnames.entity_eq hentity
      · obtain rfl := key_of_endsWith hkey hends
        dsimp only [id_eq]
        rw [removeSuffix_rfFaultStatus]
        exact h.unscoped roomKey hroom _ (by decide) entityId' entity' hstart
      · obtain hsame | ⟨-, roomKey, -, hname⟩ := hentities entityId entity hsame
        · exact h.foreignFault entityId entity hsame hown hends
            (fun roomKey hroom => hnamed hown roomKey hroom _ (by decide)) entityId' entity' hstart
            hother
        · exact absurd (hname ▸ hends) (not_endsWith_dataHealth roomKey))
  refine ⟨v, { entry' with minorVersion := 2 }, migrateEntry_of_steps h.version hfirst hminor
    hrenamed, hversion, rfl, hrooms, hrate, by rw [hsubentries, hlength], by rwa [hsubentries]⟩

/-! ### The entities -/

/-- An entity with a name of today has had the old one. -/
theorem Migratable.origin (h : Migratable api s entry rooms roomKeys)
    {subentry : String → Option Id}
    (hnames : NamesChanged api s t entry.entryId roomKeys entry.oldEntityKeys
      legacyRoomEntityUniqueId (roomEntityUniqueId entry.entryId) healthKey subentry)
    {roomKey key entityId : String} {entity : RegistryEntity Id} (hroom : roomKey ∈ roomKeys)
    (hkey : key ∈ movedEntityKeys) (hhealth : key ≠ "data_health")
    (hentity : api.entity t entityId = some entity)
    (hname : entity.uniqueId = roomEntityUniqueId entry.entryId roomKey key) :
    ∃ old, api.entity s entityId = some old ∧ old.configEntryId = entry.entryId ∧
      old.uniqueId = legacyRoomEntityUniqueId roomKey key := by
  obtain ⟨roomKey', hroom', key', hkey', old, hold, hown, hname', rfl⟩ | ⟨hsame, -⟩ :=
    hnames.entity_eq hentity
  · obtain ⟨rfl, heq⟩ := h.names.entryScoped_inj hroom' hroom
      (mem_knownEntityKeys (healthKey_mem (oldEntityKeys_subset hkey'))) (mem_knownEntityKeys hkey)
      hname
    have hkeys : key' = key := by
      by_cases hstale : key' = "airflow_data_stale"
      · rw [healthKey, if_pos hstale] at heq
        exact absurd heq.symm hhealth
      · rwa [healthKey, if_neg hstale] at heq
    exact ⟨old, hold, hown, hkeys ▸ hname'⟩
  · exact absurd hname (h.unscoped roomKey hroom key hkey entityId entity hsame)

section AfterUnits

variable (h : Migratable api s entry rooms roomKeys) {subentry : String → Option Id}
  (hnames : NamesChanged api s t entry.entryId roomKeys entry.oldEntityKeys
    legacyRoomEntityUniqueId (roomEntityUniqueId entry.entryId) healthKey subentry)

include h hnames

/-- No unit has both entities of the renamed key after the step to 2.1. -/
theorem Migratable.fault_units : ∀ roomKey ∈ roomKeys, ∀ entityId entity',
    api.entity t entityId = some entity' → entity'.configEntryId = entry.entryId →
    entity'.uniqueId = roomEntityUniqueId entry.entryId roomKey "rf_fault_status" →
    ∀ entityId' other, api.entity t entityId' = some other →
      other.uniqueId ≠ roomEntityUniqueId entry.entryId roomKey "device_fault" := by
  intro roomKey hroom entityId entity' hentity _ hname entityId' other hother hname'
  obtain ⟨old, hold, hown, hlegacy⟩ := h.origin hnames hroom (by decide) (by decide) hentity hname
  obtain ⟨old', hold', -, hlegacy'⟩ := h.origin hnames hroom (by decide) (by decide) hother hname'
  exact h.fault roomKey hroom entityId old hold hown hlegacy entityId' old' hold' hlegacy'

/-- Only entities of units have the ending after the step to 2.1. -/
theorem Migratable.endings_units : ∀ entityId entity', api.entity t entityId = some entity' →
    entity'.configEntryId = entry.entryId →
    endsWith "_rf_fault_status" entity'.uniqueId = true → ∃ roomKey ∈ roomKeys,
      entity'.uniqueId = roomEntityUniqueId entry.entryId roomKey "rf_fault_status" := by
  intro entityId entity' hentity hown hends
  obtain ⟨roomKey, hroom, key, hkey, old, -, -, -, rfl⟩ | ⟨hsame, hnamed⟩ :=
    hnames.entity_eq hentity
  · have hfaultKey := key_of_endsWith (healthKey_mem (oldEntityKeys_subset hkey)) hends
    exact ⟨roomKey, hroom, congrArg (roomEntityUniqueId entry.entryId roomKey) hfaultKey⟩
  · obtain ⟨roomKey, hroom, hname⟩ := h.endings entityId entity' hsame hown hends
    exact absurd hname (hnamed hown roomKey hroom _ (movedEntityKeys_subset (by decide)))

end AfterUnits

/-- **All steps together.** -/
theorem Migratable.run (h : Migratable api s entry rooms roomKeys) (hapi : api.Documented)
    (hid : Function.Injective newId) :
    ∃ t entry', migrateEntry api newId entry s = some (true, entry', t) ∧
      NamesChanged api s t entry.entryId roomKeys entry.oldEntityKeys legacyRoomEntityUniqueId
        (roomEntityUniqueId entry.entryId) (faultKey ∘ healthKey)
        (fun roomKey => some (newId (roomKeys.idxOf roomKey))) := by
  obtain ⟨t, hhealth, hsubentries, hdistinct, hnames⟩ := h.health_run hapi
  obtain ⟨u, entry', hfirst, hentryId, -, hminor, -, -, hdistinct', hnames', -⟩ :=
    h.firstVersion_run hapi hid hhealth hsubentries hdistinct (h.unscoped_health hnames)
  have hboth := hnames.trans hnames' (fun key hkey => healthKey_mem (oldEntityKeys_subset hkey))
    fun entityId entity _ _ hnamed roomKey hroom key hkey =>
      hnamed roomKey hroom key (movedEntityKeys_subset hkey)
  have hfault := h.fault_units hboth
  have hendings := h.endings_units hboth
  rw [← hentryId] at hfault hendings hdistinct' hboth ⊢
  obtain ⟨v, hrun, -, -, hrenamed⟩ := migrateRenamedEntityKeys_run hapi
    (hentryId ▸ h.names) hdistinct' hfault hendings
  refine ⟨v, { entry' with minorVersion := 2 }, migrateEntry_of_steps h.version hfirst hminor hrun,
    ?_⟩
  exact hboth.trans hrenamed (fun key hkey => healthKey_mem (oldEntityKeys_subset hkey))
    fun entityId entity' hentity _ _ roomKey hroom key hkey =>
      hentryId ▸ h.unscoped roomKey hroom key hkey entityId entity' hentity

/-- Each key has become one of the keys of today. -/
theorem currentKey_mem {key : String} (hkey : key ∈ knownEntityKeys) :
    faultKey (healthKey key) ∈ entityKeys := by
  have hall : ∀ key ∈ knownEntityKeys, faultKey (healthKey key) ∈ entityKeys := by decide +kernel
  exact hall key hkey

/-- **The migration loses no entity.** It does not raise; each entity of a unit has the name that
the integration looks for, and belongs to the subentry of its unit; all others are as before. -/
theorem migrateEntry_entities (h : Migratable api s entry rooms roomKeys) (hapi : api.Documented)
    (hid : Function.Injective newId) :
    ∃ t entry', migrateEntry api newId entry s = some (true, entry', t) ∧
      NamesChanged api s t entry.entryId roomKeys entry.oldEntityKeys legacyRoomEntityUniqueId
        (roomEntityUniqueId entry.entryId) (faultKey ∘ healthKey)
        (fun roomKey => some (newId (roomKeys.idxOf roomKey))) ∧
      ∀ key ∈ entry.oldEntityKeys, faultKey (healthKey key) ∈ entityKeys := by
  obtain ⟨t, entry', hrun, hnames⟩ := h.run hapi hid
  exact ⟨t, entry', hrun, hnames, fun key hkey => currentKey_mem (oldEntityKeys_subset hkey)⟩

end Whole

/-! ### An entry of the first version -/

/-- A unit as it was stored. -/
def firstRoom : StoredRoom := fun field =>
  if field = "key" then some (.str "slave_2") else
  if field = "name" then some (.str "Bath") else
  if field = "slave" then some (.int 2) else none

/-- The entry of the unit. -/
def firstEntry : MigratedEntry where
  entryId := "01J"
  version := 1
  minorVersion := 1
  rooms := some [firstRoom]

/-- Its airflow diagnostic. -/
def firstEntity : RegistryEntity ℕ where
  configEntryId := "01J"
  uniqueId := legacyRoomEntityUniqueId "slave_2" "airflow_data_stale"
  configSubentryId := none

/-- The registry with this entity. -/
def firstRegistry : AList (fun _ : String => RegistryEntity ℕ) × List (MigratedSubentry ℕ) :=
  (AList.singleton "binary_sensor.bath" firstEntity, [])

theorem entity_firstRegistry {entityId : String} {entity : RegistryEntity ℕ}
    (h : memoryRegistry.entity firstRegistry entityId = some entity) :
    entityId = "binary_sensor.bath" ∧ entity = firstEntity := by
  have hmem := AList.mem_lookup_iff.mp h
  obtain heq := List.mem_singleton.mp hmem
  cases heq
  exact ⟨rfl, rfl⟩

theorem firstEntry_migratable :
    Migratable memoryRegistry firstRegistry firstEntry [firstRoom] ["slave_2"] := by
  have hnames : ProperNames "01J" ["slave_2"] := by
    refine properNames_unitKeys (fun roomKey hroom => ⟨2, 0, ?_⟩) (by decide) (by decide)
    rw [List.mem_singleton.mp hroom]
    decide +kernel
  have hstale : "airflow_data_stale" ∈ knownEntityKeys := List.mem_cons_self
  have hroom : "slave_2" ∈ ["slave_2"] := List.mem_singleton.mpr rfl
  refine ⟨⟨rfl, rfl, by decide +kernel, ?_, List.nodup_singleton _, hnames, ?_, ?_, rfl⟩,
    ?_, ?_, ?_⟩
  · intro room hmem
    rw [List.mem_singleton.mp hmem]
    exact ⟨rfl, rfl⟩
  · intro entityId entityId' entity entity' hentity hentity' _ _ _
    rw [(entity_firstRegistry hentity).1, (entity_firstRegistry hentity').1]
  · intro roomKey hmem key hkey entityId entity hentity
    rw [(entity_firstRegistry hentity).2]
    exact hnames.entryScoped _ hroom roomKey hmem _ hstale key (mem_knownEntityKeys hkey)
  · intro _ roomKey hmem entityId entity _ _ _ entityId' entity' hentity' heq
    rw [(entity_firstRegistry hentity').2] at heq
    exact absurd (hnames.legacy _ hroom roomKey hmem _ hstale "data_health" (by decide) heq).2
      (by decide)
  · intro roomKey hmem entityId entity hentity _ heq
    rw [(entity_firstRegistry hentity).2] at heq
    exact absurd (hnames.legacy _ hroom roomKey hmem _ hstale "rf_fault_status" (by decide) heq).2
      (by decide)
  · intro entityId entity hentity _ hends
    rw [(entity_firstRegistry hentity).2] at hends
    exact absurd hends (by decide +kernel)

/-- The diagnostic of this unit. -/
theorem migrateEntry_entities_first :
    ∃ t entry', migrateEntry memoryRegistry id firstEntry firstRegistry = some (true, entry', t) ∧
      memoryRegistry.entity t "binary_sensor.bath" = some
        ⟨"01J", roomEntityUniqueId "01J" "slave_2" "data_health", some 0⟩ := by
  obtain ⟨t, entry', hrun, hnames, -⟩ := migrateEntry_entities firstEntry_migratable
    memoryRegistry_documented Function.injective_id
  refine ⟨t, entry', hrun, ?_⟩
  exact hnames.unit "slave_2" List.mem_cons_self "airflow_data_stale" List.mem_cons_self
    "binary_sensor.bath" firstEntity
    (AList.mem_lookup_iff.mpr (List.mem_singleton.mpr rfl)) rfl rfl

/-! ### An entry with two units -/

/-- A second unit with the address of the first one. -/
def secondRoom : StoredRoom := fun field =>
  if field = "key" then some (.str "slave_2_2") else
  if field = "name" then some (.str "Hall") else
  if field = "slave" then some (.int 2) else
  if field = "preview" then some (.str "ID 115000 | R-Code R12AB34") else none

/-- The entry of both units. -/
def secondEntry : MigratedEntry where
  entryId := "01J"
  version := 1
  minorVersion := 1
  rooms := some [firstRoom, secondRoom]
  dataRate := some (.int 2)

/-- The first unit has both its airflow diagnostic and its data health, and there is still an entity
of a unit that has been removed. -/
def secondEntities : List (Sigma fun _ : String => RegistryEntity ℕ) :=
  [⟨"binary_sensor.bath", firstEntity⟩,
    ⟨"binary_sensor.bath_2",
      { firstEntity with uniqueId := legacyRoomEntityUniqueId "slave_2" "data_health" }⟩,
    ⟨"binary_sensor.attic",
      { firstEntity with uniqueId := legacyRoomEntityUniqueId "slave_9" "rf_fault_status" }⟩]

/-- The registry with these entities. -/
def secondRegistry : AList (fun _ : String => RegistryEntity ℕ) × List (MigratedSubentry ℕ) :=
  (⟨secondEntities, by unfold List.NodupKeys; decide⟩, [])

theorem entity_secondRegistry {entityId : String} {entity : RegistryEntity ℕ}
    (h : memoryRegistry.entity secondRegistry entityId = some entity) :
    ⟨entityId, entity⟩ ∈ secondEntities :=
  AList.mem_lookup_iff.mp h

theorem secondEntry_upgradable : Upgradable memoryRegistry secondRegistry secondEntry
    [firstRoom, secondRoom] ["slave_2", "slave_2_2"] := by
  have hdistinct : ∀ entry ∈ secondEntities, ∀ other ∈ secondEntities,
      entry.2.uniqueId = other.2.uniqueId → entry.1 = other.1 := by decide +kernel
  have hunscoped : ∀ entry ∈ secondEntities, ∀ roomKey ∈ ["slave_2", "slave_2_2"],
      ∀ key ∈ movedEntityKeys, entry.2.uniqueId ≠ roomEntityUniqueId "01J" roomKey key := by
    decide +kernel
  have hown : ∀ entry ∈ secondEntities, entry.2.configEntryId = "01J" := by decide
  refine ⟨⟨rfl, rfl, by decide +kernel, ?_, by decide, ?_, ?_, ?_, rfl⟩, ?_, ?_⟩
  · intro room hmem
    simp only [List.mem_cons, List.not_mem_nil, or_false] at hmem
    rcases hmem with rfl | rfl <;> exact ⟨rfl, rfl⟩
  · refine properNames_unitKeys (fun roomKey hroom => ?_) (by decide) (by decide)
    simp only [List.mem_cons, List.not_mem_nil, or_false] at hroom
    rcases hroom with rfl | rfl
    · exact ⟨2, 0, by decide +kernel⟩
    · exact ⟨2, 1, by decide +kernel⟩
  · exact fun entityId entityId' entity entity' hentity hentity' _ _ heq =>
      hdistinct _ (entity_secondRegistry hentity) _ (entity_secondRegistry hentity') heq
  · exact fun roomKey hroom key hkey entityId entity hentity =>
      hunscoped _ (entity_secondRegistry hentity) roomKey hroom key hkey
  · intro _ roomKey _ entityId entity _ _ _ entityId' entity' hentity' hother
    exact absurd (hown _ (entity_secondRegistry hentity')) hother
  · intro entityId entity _ _ _ _ entityId' entity' hentity' hother
    exact absurd (hown _ (entity_secondRegistry hentity')) hother

/-- The subentries of these units: the second one has no unique id. -/
theorem migrateEntry_subentries_second :
    ∃ t entry' first second,
      migrateEntry memoryRegistry id secondEntry secondRegistry = some (true, entry', t) ∧
      entry'.optionsRate = some (.int 2) ∧ memoryRegistry.subentries t = [first, second] ∧
      first.title = "Bath" ∧ first.uniqueId = some "2" ∧
      second.data "app_setup_code" = some (.str "R12AB34") ∧ second.uniqueId = none := by
  obtain ⟨t, entry', hrun, -, -, -, hrate, hlength, hall⟩ := migrateEntry_subentries
    secondEntry_upgradable memoryRegistry_documented Function.injective_id
  obtain ⟨first, second, hsubentries⟩ := List.length_eq_two.mp hlength
  rw [hsubentries] at hall
  obtain ⟨⟨-, htitle, hfirst, -⟩, -⟩ := hall 0 _ first rfl rfl
  obtain ⟨⟨hdata, -, -, hlater⟩, -⟩ := hall 1 _ second rfl rfl
  have hcode : storedUnitData (migrateRoomIdentityFields secondRoom) "app_setup_code" =
      some (.str "R12AB34") := rfl
  refine ⟨t, entry', first, second, hrun, (hrate (by decide)).2, hsubentries,
    (Option.some.inj htitle).symm, ?_, hdata ▸ hcode, hlater ⟨_, List.mem_cons_self, rfl⟩⟩
  rw [hfirst fun other hother => (by cases hother)]
  decide +kernel

end MeltemVentilation
