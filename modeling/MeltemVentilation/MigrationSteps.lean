import MeltemVentilation.Migration

/-!
# The steps of the migration

What each of the three steps that rename entities does to the registry, in the same terms: an
entity of a unit, found by its name before, has its name after, and all other entities are as they
were (`NamesChanged`). One step after the other changes the names from the first ones to the last
(`NamesChanged.trans`).

* The step to 1.2, `migrateDataHealthEntities_run`: its loop keeps a dictionary of the names in use
  and skips what is taken; nothing is, so that it is a row of renamings (`dataHealthUpdates_eq`).
* The step to 2.1, `migrateUnitsToSubentries_run`: a subentry is added for each unit, and its
  entities are moved there, before the next unit comes (`addUnits_run`).
* The step to 2.2, `migrateRenamedEntityKeys_run`: it looks for a suffix rather than for names. No
  other key of a unit has that suffix (`key_of_endsWith`).
-/

namespace MeltemVentilation

/-! ### The data health -/

section DataHealth

variable {Id Store : Type} {api : RegistryApi Id Store} {s t : Store} {entryId : String}
  {roomKeys : List String}

/-- The units whose new name is not in use. -/
def unitsWithoutHealth (entities : Dict String String) (roomKeys : List String) : List String :=
  roomKeys.filter fun roomKey => legacyRoomEntityUniqueId roomKey "data_health" ∉ entities

/-- **The loop finds the stale entities by their names**, one for each unit, and passes over the
units whose new name is in use. -/
theorem dataHealthUpdates_eq (hnames : ProperNames entryId roomKeys) {rest : List String}
    (hrest : ∀ roomKey ∈ rest, roomKey ∈ roomKeys) (hnodup : rest.Nodup)
    (entities : Dict String String) :
    (dataHealthUpdates rest entities : List (EntityUpdate Id)) =
      renamings entities (legacyRoomEntityUniqueId · "airflow_data_stale")
        (legacyRoomEntityUniqueId · "data_health") (fun _ => none)
        (unitsWithoutHealth entities rest) := by
  induction rest generalizing entities with
  | nil => rfl
  | cons roomKey rest ih =>
    obtain ⟨hroom, hrest⟩ := List.forall_mem_cons.mp hrest
    obtain ⟨hfirst, hnodup⟩ := List.nodup_cons.mp hnodup
    have htail := ih hrest hnodup
    rw [unitsWithoutHealth, List.filter_cons, dataHealthUpdates]
    by_cases htaken : legacyRoomEntityUniqueId roomKey "data_health" ∈ entities
    · rw [if_neg (by simpa using htaken)]
      cases entities.lookup (legacyRoomEntityUniqueId roomKey "airflow_data_stale") with
      | none => exact htail entities
      | some entityId =>
        dsimp only
        rw [if_pos htaken]
        exact htail entities
    rw [if_pos (by simpa using htaken)]
    cases hlookup : entities.lookup (legacyRoomEntityUniqueId roomKey "airflow_data_stale") with
    | none =>
      dsimp only
      rw [htail, renamings, renamings, List.filterMap_cons_none]
      · rfl
      · rw [hlookup]
        rfl
    | some entityId =>
      have hstale : "airflow_data_stale" ∈ knownEntityKeys := List.mem_cons_self
      have hhealth : "data_health" ∈ knownEntityKeys := mem_knownEntityKeys dataHealth_mem
      -- The name that is added is neither looked up nor given a second time.
      have hlookups : ∀ other ∈ rest,
          (entities.insert (legacyRoomEntityUniqueId roomKey "data_health") entityId).lookup
            (legacyRoomEntityUniqueId other "airflow_data_stale") =
          entities.lookup (legacyRoomEntityUniqueId other "airflow_data_stale") := by
        intro other hother
        refine Finmap.lookup_insert_of_ne _ fun heq => ?_
        have hkeys := (hnames.legacy other (hrest other hother) roomKey hroom _ hstale _ hhealth
          heq).2
        exact absurd hkeys (by decide)
      have hunits : unitsWithoutHealth
          (entities.insert (legacyRoomEntityUniqueId roomKey "data_health") entityId) rest =
          unitsWithoutHealth entities rest := by
        refine List.filter_congr fun other hother => decide_eq_decide.mpr ?_
        rw [Finmap.mem_insert, not_or, and_iff_right]
        intro heq
        obtain ⟨rfl, -⟩ := hnames.legacy other (hrest other hother) roomKey hroom _ hhealth _
          hhealth heq
        exact hfirst hother
      dsimp only
      rw [if_neg htaken, htail, hunits, renamings, renamings,
        List.filterMap_cons_some (by rw [hlookup]; rfl)]
      refine congrArg _ (List.filterMap_congr fun other hother => ?_)
      rw [hlookups other (List.mem_of_mem_filter hother)]

end DataHealth

/-! ### A step of the migration -/

section Stage

variable {Id Store : Type} {api : RegistryApi Id Store} {s t u : Store} {entryId : String}
  {roomKeys keys keys' : List String} {before after last : String → String → String}
  {newKey newKey' : String → String} {subentry subentry' : String → Option Id}

/-- **The names change**: each entity of a unit that has one of the keys, by its name before, has
the name of its new key after, and all other entities are as they were. -/
structure NamesChanged (api : RegistryApi Id Store) (s t : Store) (entryId : String)
    (roomKeys keys : List String) (before after : String → String → String)
    (newKey : String → String) (subentry : String → Option Id) : Prop where
  unit : ∀ roomKey ∈ roomKeys, ∀ key ∈ keys, ∀ entityId entity,
    api.entity s entityId = some entity → entity.configEntryId = entryId →
    entity.uniqueId = before roomKey key → api.entity t entityId = some { entity with
      uniqueId := after roomKey (newKey key)
      configSubentryId := (subentry roomKey).or entity.configSubentryId }
  other : ∀ entityId entity, api.entity s entityId = some entity →
    (entity.configEntryId = entryId →
      ∀ roomKey ∈ roomKeys, ∀ key ∈ keys, entity.uniqueId ≠ before roomKey key) →
    api.entity t entityId = some entity
  none : ∀ entityId, api.entity s entityId = none → api.entity t entityId = none

/-- **Where an entity comes from.** -/
theorem NamesChanged.entity_eq (h : NamesChanged api s t entryId roomKeys keys before after newKey
      subentry) {entityId : String} {entity : RegistryEntity Id}
    (hentity : api.entity t entityId = some entity) :
    (∃ roomKey ∈ roomKeys, ∃ key ∈ keys, ∃ old, api.entity s entityId = some old ∧
      old.configEntryId = entryId ∧ old.uniqueId = before roomKey key ∧
      entity = { old with
        uniqueId := after roomKey (newKey key)
        configSubentryId := (subentry roomKey).or old.configSubentryId }) ∨
      api.entity s entityId = some entity ∧ (entity.configEntryId = entryId →
        ∀ roomKey ∈ roomKeys, ∀ key ∈ keys, entity.uniqueId ≠ before roomKey key) := by
  cases hold : api.entity s entityId with
  | none => exact absurd (hentity.symm.trans (h.none entityId hold)) (by simp)
  | some old =>
    by_cases hnamed : old.configEntryId = entryId →
        ∀ roomKey ∈ roomKeys, ∀ key ∈ keys, old.uniqueId ≠ before roomKey key
    · obtain rfl := Option.some.inj ((h.other entityId old hold hnamed).symm.trans hentity)
      exact .inr ⟨rfl, hnamed⟩
    · push Not at hnamed
      obtain ⟨hown, roomKey, hroom, key, hkey, hname⟩ := hnamed
      have hnew := h.unit roomKey hroom key hkey entityId old hold hown hname
      exact .inl ⟨roomKey, hroom, key, hkey, old, rfl, hown, hname,
        Option.some.inj (hentity.symm.trans hnew)⟩

/-- **One step after the other.** -/
theorem NamesChanged.trans
    (h : NamesChanged api s t entryId roomKeys keys before after newKey subentry)
    (h' : NamesChanged api t u entryId roomKeys keys' after last newKey' subentry')
    (hkeys : ∀ key ∈ keys, newKey key ∈ keys')
    (hother : ∀ entityId entity, api.entity s entityId = some entity →
      entity.configEntryId = entryId →
      (∀ roomKey ∈ roomKeys, ∀ key ∈ keys, entity.uniqueId ≠ before roomKey key) →
      ∀ roomKey ∈ roomKeys, ∀ key ∈ keys', entity.uniqueId ≠ after roomKey key) :
    NamesChanged api s u entryId roomKeys keys before last (newKey' ∘ newKey)
      fun roomKey => (subentry' roomKey).or (subentry roomKey) where
  unit roomKey hroom key hkey entityId entity hentity hown hname := by
    have hfirst := h.unit roomKey hroom key hkey entityId entity hentity hown hname
    rw [h'.unit roomKey hroom (newKey key) (hkeys key hkey) entityId _ hfirst hown rfl,
      Option.or_assoc]
    rfl
  other entityId entity hentity hnamed :=
    h'.other entityId entity (h.other entityId entity hentity hnamed) fun hown =>
      hother entityId entity hentity hown (hnamed hown)
  none entityId hnone := h'.none entityId (h.none entityId hnone)

/-- Nothing appears by updates. -/
theorem EntitiesUpdated.none {updates : List (EntityUpdate Id)}
    (hupdatable : EntitiesUpdatable api s updates) (h : EntitiesUpdated api s t updates)
    {entityId : String} (hnone : api.entity s entityId = none) : api.entity t entityId = none := by
  rw [h.other entityId fun update hupdate heq => ?_, hnone]
  have hfound := hupdatable.found update hupdate
  rw [heq, hnone] at hfound
  cases hfound

end Stage

/-- The step to 1.2 changes this key. -/
def healthKey (key : String) : String := if key = "airflow_data_stale" then "data_health" else key

section FirstVersion

variable {Id Store : Type} {api : RegistryApi Id Store} {newId : ℕ → Id} {s t : Store}
  {entry : MigratedEntry} {rooms : List StoredRoom} {roomKeys : List String}

/-- **The step to 1.2** raises only for a new name that an entity of another entry has: it gives
the new names that are not in use in the entry. -/
theorem migrateDataHealthEntities_done (hapi : api.Documented) (hrooms : entry.rooms = some rooms)
    (hroomKeys : rooms.mapM (roomText · "key") = some roomKeys) (hnodup : roomKeys.Nodup)
    (hnames : ProperNames entry.entryId roomKeys) (hdistinct : api.Distinct s entry.entryId)
    (hforeign : ∀ roomKey ∈ roomKeys, ∀ entityId entity, api.entity s entityId = some entity →
      entity.configEntryId = entry.entryId →
      entity.uniqueId = legacyRoomEntityUniqueId roomKey "airflow_data_stale" →
      ∀ entityId' entity', api.entity s entityId' = some entity' →
        entity'.configEntryId ≠ entry.entryId →
        entity'.uniqueId ≠ legacyRoomEntityUniqueId roomKey "data_health") :
    let updates := renamings (api.uniqueIds s entry.entryId)
      (legacyRoomEntityUniqueId · "airflow_data_stale")
      (legacyRoomEntityUniqueId · "data_health") (fun _ => (none : Option Id))
      (unitsWithoutHealth (api.uniqueIds s entry.entryId) roomKeys)
    ∃ t, migrateDataHealthEntities api entry s = some t ∧
      api.subentries t = api.subentries s ∧ api.Distinct t entry.entryId ∧
      EntitiesUpdatable api s updates ∧ EntitiesUpdated api s t updates := by
  intro updates
  have hstale : "airflow_data_stale" ∈ knownEntityKeys := List.mem_cons_self
  have hhealthKey : "data_health" ∈ knownEntityKeys := mem_knownEntityKeys dataHealth_mem
  have hroom : ∀ roomKey ∈ unitsWithoutHealth (api.uniqueIds s entry.entryId) roomKeys,
      roomKey ∈ roomKeys := fun roomKey hroom => List.mem_of_mem_filter hroom
  have hupdatable : EntitiesUpdatable api s updates := by
    refine updatable_renamings hapi hdistinct (hnodup.filter _)
      (fun roomKey hmem other hother heq => (hnames.legacy roomKey (hroom _ hmem) other
        (hroom _ hother) _ hstale _ hstale heq).1)
      (fun roomKey hmem other hother heq => (hnames.legacy roomKey (hroom _ hmem) other
        (hroom _ hother) _ hhealthKey _ hhealthKey heq).1) ?_
    intro roomKey hmem hsome entityId' entity' hentity' hname'
    obtain ⟨entityId, hlookup⟩ := Option.isSome_iff_exists.mp hsome
    obtain ⟨entity, hentity, hown, hname⟩ := (lookup_uniqueIds hapi hdistinct).mp hlookup
    by_cases hown' : entity'.configEntryId = entry.entryId
    · have hused : legacyRoomEntityUniqueId roomKey "data_health" ∈
          api.uniqueIds s entry.entryId := Finmap.mem_of_lookup_eq_some
        ((lookup_uniqueIds hapi hdistinct).mpr ⟨entity', hentity', hown', hname'⟩)
      exact of_decide_eq_true (List.mem_filter.mp hmem).2 hused
    · exact hforeign roomKey (hroom _ hmem) entityId entity hentity hown hname entityId' entity'
        hentity' hown' hname'
  obtain ⟨t, hrun, hsubentries, hdone⟩ := hupdatable.run hapi fun update hupdate id hid => by
    obtain ⟨_, _, _, heq⟩ := mem_renamings.mp hupdate
    rw [heq] at hid
    cases hid
  refine ⟨t, ?_, hsubentries, hupdatable.distinct hdone hdistinct, hupdatable, hdone⟩
  simp only [migrateDataHealthEntities, hrooms, hroomKeys, Option.bind_eq_bind, Option.bind_some,
    dataHealthUpdates_eq hnames (fun _ h => h) hnodup]
  exact hrun

/-- **The step to 1.2**, of units of which none has both the old and the new entity. -/
theorem migrateDataHealthEntities_run (hapi : api.Documented) (hrooms : entry.rooms = some rooms)
    (hroomKeys : rooms.mapM (roomText · "key") = some roomKeys) (hnodup : roomKeys.Nodup)
    (hnames : ProperNames entry.entryId roomKeys) (hdistinct : api.Distinct s entry.entryId)
    (hhealth : ∀ roomKey ∈ roomKeys, ∀ entityId entity, api.entity s entityId = some entity →
      entity.configEntryId = entry.entryId →
      entity.uniqueId = legacyRoomEntityUniqueId roomKey "airflow_data_stale" →
      ∀ entityId' entity', api.entity s entityId' = some entity' →
        entity'.uniqueId ≠ legacyRoomEntityUniqueId roomKey "data_health") :
    ∃ t, migrateDataHealthEntities api entry s = some t ∧
      api.subentries t = api.subentries s ∧ api.Distinct t entry.entryId ∧
      NamesChanged api s t entry.entryId roomKeys knownEntityKeys legacyRoomEntityUniqueId
        legacyRoomEntityUniqueId healthKey fun _ => none := by
  have hstale : "airflow_data_stale" ∈ knownEntityKeys := List.mem_cons_self
  obtain ⟨t, hrun, hsubentries, hdistinct', hupdatable, hdone⟩ :=
    migrateDataHealthEntities_done hapi hrooms hroomKeys hnodup hnames hdistinct
      fun roomKey hroom entityId entity hentity hown hname entityId' entity' hentity' _ =>
        hhealth roomKey hroom entityId entity hentity hown hname entityId' entity' hentity'
  refine ⟨t, hrun, hsubentries, hdistinct', ?_, ?_, fun _ hnone => hdone.none hupdatable hnone⟩
  · intro roomKey hroom key hkey entityId entity hentity hown hname
    by_cases heq : key = "airflow_data_stale"
    · subst heq
      refine hdone.renamed hapi hdistinct (List.mem_filter.mpr ⟨hroom, decide_eq_true ?_⟩) hentity
        hown hname
      intro hused
      obtain ⟨entityId', hlookup⟩ := Finmap.mem_iff.mp hused
      obtain ⟨entity', hentity', -, hname'⟩ := (lookup_uniqueIds hapi hdistinct).mp hlookup
      exact hhealth roomKey hroom entityId entity hentity hown hname entityId' entity' hentity'
        hname'
    · rw [hdone.kept hapi hdistinct hentity fun _ other hother hname' => heq
        (hnames.legacy roomKey hroom other (List.mem_of_mem_filter hother) key hkey _ hstale
          (hname.symm.trans hname')).2, healthKey, if_neg heq, ← hname]
      rfl
  · intro entityId entity hentity hnamed
    exact hdone.kept hapi hdistinct hentity fun hown roomKey hroom =>
      hnamed hown roomKey (List.mem_of_mem_filter hroom) _ hstale

end FirstVersion

/-! ### The units become subentries -/

/-- The entities of the units, as the loop asks for them: the index of the unit, its key, and the
key of the entity. -/
def unitItems : ℕ → List String → List (ℕ × String × String)
  | _, [] => []
  | index, roomKey :: roomKeys =>
    movedEntityKeys.map (fun key => (index, roomKey, key)) ++ unitItems (index + 1) roomKeys

theorem mem_unitItems {item : ℕ × String × String} {index : ℕ} {roomKeys : List String} :
    item ∈ unitItems index roomKeys ↔
      ∃ n, item.1 = index + n ∧ roomKeys[n]? = some item.2.1 ∧ item.2.2 ∈ movedEntityKeys := by
  induction roomKeys generalizing index with
  | nil => simp [unitItems]
  | cons roomKey roomKeys ih =>
    rw [unitItems, List.mem_append, ih, List.mem_map]
    constructor
    · rintro (⟨key, hkey, rfl⟩ | ⟨n, hindex, hroom, hkey⟩)
      · exact ⟨0, rfl, rfl, hkey⟩
      · exact ⟨n + 1, by omega, hroom, hkey⟩
    · rintro ⟨n, hindex, hroom, hkey⟩
      cases n with
      | zero => exact .inl ⟨item.2.2, hkey, by
          rw [List.getElem?_cons_zero, Option.some.injEq] at hroom
          exact Prod.ext hindex.symm (Prod.ext hroom rfl)⟩
      | succ n => exact .inr ⟨n, by omega, hroom, hkey⟩

theorem nodup_movedEntityKeys : movedEntityKeys.Nodup := by decide +kernel

theorem nodup_unitItems (index : ℕ) (roomKeys : List String) :
    (unitItems index roomKeys).Nodup := by
  induction roomKeys generalizing index with
  | nil => exact List.nodup_nil
  | cons roomKey roomKeys ih =>
    refine List.Nodup.append (nodup_movedEntityKeys.map fun key key' heq => ?_) (ih (index + 1)) ?_
    · simpa using heq
    · intro item hitem hother
      obtain ⟨key, -, rfl⟩ := List.mem_map.mp hitem
      obtain ⟨n, hindex, -⟩ := mem_unitItems.mp hother
      have hindex : index = index + 1 + n := hindex
      omega

/-- The key of a unit says which one it is. -/
theorem unitItems_index {roomKeys : List String} (hnodup : roomKeys.Nodup)
    {item : ℕ × String × String} (hitem : item ∈ unitItems 0 roomKeys) :
    item.1 = roomKeys.idxOf item.2.1 ∧ item.2.1 ∈ roomKeys ∧ item.2.2 ∈ movedEntityKeys := by
  obtain ⟨n, hindex, hroom, hkey⟩ := mem_unitItems.mp hitem
  obtain ⟨hn, hroom⟩ := List.getElem?_eq_some_iff.mp hroom
  refine ⟨?_, hroom ▸ List.getElem_mem hn, hkey⟩
  rw [hindex, Nat.zero_add, ← hroom, hnodup.idxOf_getElem]

theorem mem_unitItems_idxOf {roomKeys : List String} {roomKey key : String}
    (hroom : roomKey ∈ roomKeys) (hkey : key ∈ movedEntityKeys) :
    (roomKeys.idxOf roomKey, roomKey, key) ∈ unitItems 0 roomKeys :=
  mem_unitItems.mpr ⟨roomKeys.idxOf roomKey, (Nat.zero_add _).symm,
    List.getElem?_idxOf hroom, hkey⟩

section Units

variable {Id Store : Type} {api : RegistryApi Id Store} {newId : ℕ → Id} {s t : Store}
  {entryId : String} {rooms : List StoredRoom} {roomKeys : List String}

/-- The renamings of the loop. -/
def unitRenamings (newId : ℕ → Id) (entryId : String) (entities : Dict String String) (index : ℕ)
    (roomKeys : List String) : List (EntityUpdate Id) :=
  renamings entities (fun item => legacyRoomEntityUniqueId item.2.1 item.2.2)
    (fun item => roomEntityUniqueId entryId item.2.1 item.2.2) (fun item => some (newId item.1))
    (unitItems index roomKeys)

theorem unitRenamings_cons (entities : Dict String String) (index : ℕ) (roomKey : String) :
    unitRenamings newId entryId entities index (roomKey :: roomKeys) =
      unitUpdates entryId entities roomKey (newId index) ++
        unitRenamings newId entryId entities (index + 1) roomKeys := by
  rw [unitRenamings, unitItems, renamings_append, renamings, List.filterMap_map]
  rfl

/-- The subentry of a unit, with its Modbus address for a unique id if no unit before it has the
same address. -/
structure IsSubentryOf (before : List StoredRoom) (room : StoredRoom)
    (subentry : MigratedSubentry Id) : Prop where
  data : subentry.data = storedUnitData room
  title : roomText room "name" = some subentry.title
  first : (∀ other ∈ before, roomText other "slave" ≠ roomText room "slave") →
    subentry.uniqueId = roomText room "slave"
  later : (∃ other ∈ before, roomText other "slave" = roomText room "slave") →
    subentry.uniqueId = none

/-- The unique id of a subentry, and those used before. -/
theorem some_mem_cons_uniqueId {used : List (Option String)} {slave other : String} :
    some other ∈ (if some slave ∈ used then none else some slave) :: used ↔
      other = slave ∨ some other ∈ used := by
  by_cases hmem : some slave ∈ used
  · rw [if_pos hmem, List.mem_cons, or_iff_right (by simp)]
    exact ⟨.inr, fun h => h.elim (fun heq => heq ▸ hmem) id⟩
  · rw [if_neg hmem, List.mem_cons, Option.some.injEq]

/-- The unique id of a subentry has not been used before. -/
theorem uniqueId_notMem {used : List (Option String)} {slave taken : String}
    (htaken : taken ∈ if some slave ∈ used then none else some slave) : some taken ∉ used := by
  intro hmem
  by_cases hslave : some slave ∈ used
  · rw [if_pos hslave] at htaken
    cases htaken
  · rw [if_neg hslave] at htaken
    obtain rfl := Option.some.inj htaken
    exact hslave hmem

/-- **The loop gives each unit a subentry**, with its entities; nothing raises. -/
theorem addUnits_run (hapi : api.Documented) (hid : Function.Injective newId)
    (entities : Dict String String) (index : ℕ) (used : List (Option String))
    (before : List StoredRoom) (hkeys : rooms.mapM (roomText · "key") = some roomKeys)
    (htexts : ∀ room ∈ rooms, (roomText room "name").isSome = true ∧
      (roomText room "slave").isSome = true)
    (hupdatable : EntitiesUpdatable api s
      (unitRenamings newId entryId entities index roomKeys))
    (hfresh : ∀ other ∈ api.subentries s, ∀ n ≥ index, other.id ≠ newId n)
    (hused : ∀ other ∈ api.subentries s, other.uniqueId ∈ none :: used)
    (hbefore : ∀ slave, some slave ∈ used ↔ ∃ other ∈ before, roomText other "slave" = some slave) :
    ∃ t added, addUnits api newId entryId entities index used rooms s = some t ∧
      EntitiesUpdated api s t (unitRenamings newId entryId entities index roomKeys) ∧
      api.subentries t = api.subentries s ++ added ∧ added.length = rooms.length ∧
      ∀ n room subentry, rooms[n]? = some room → added[n]? = some subentry →
        IsSubentryOf (before ++ rooms.take n) room subentry ∧ subentry.id = newId (index + n) := by
  induction rooms generalizing index used before s roomKeys with
  | nil =>
    obtain rfl : [] = roomKeys := by simpa using hkeys
    exact ⟨s, [], rfl, updated_nil fun _ => rfl, (List.append_nil _).symm, rfl, by simp⟩
  | cons room rooms ih =>
    obtain ⟨roomKey, hroomKey, keys, hrest, rfl⟩ : ∃ roomKey, roomText room "key" = some roomKey ∧
        ∃ keys, rooms.mapM (roomText · "key") = some keys ∧ roomKey :: keys = roomKeys := by
      simpa [List.mapM_cons, Option.bind_eq_some_iff] using hkeys
    obtain ⟨⟨htitle, hslave⟩, htexts⟩ := List.forall_mem_cons.mp htexts
    obtain ⟨title, htitle⟩ := Option.isSome_iff_exists.mp htitle
    obtain ⟨slave, hslave⟩ := Option.isSome_iff_exists.mp hslave
    rw [unitRenamings_cons] at hupdatable ⊢
    let uniqueId := if some slave ∈ used then none else some slave
    let new : MigratedSubentry Id := ⟨newId index, storedUnitData room, title, uniqueId⟩
    have hnew : ∀ other ∈ api.subentries s, other.id ≠ new.id ∧
        ∀ taken ∈ new.uniqueId, other.uniqueId ≠ some taken := by
      refine fun other hother => ⟨hfresh other hother index (Nat.le_refl _),
        fun taken htaken heq => ?_⟩
      have hmem := hused other hother
      rw [heq, List.mem_cons, or_iff_right (by simp)] at hmem
      exact uniqueId_notMem htaken hmem
    obtain ⟨s₁, s₂, hadd, hrun, hsubentries₂, hdone⟩ :=
      hupdatable.left.run_addSubentry hapi hnew fun update hupdate => by
        obtain ⟨key, -, hupdate⟩ := List.mem_filterMap.mp hupdate
        obtain ⟨entityId, -, rfl⟩ := Option.map_eq_some_iff.mp hupdate
        rfl
    have hall : ∀ other ∈ api.subentries s₂, other ∈ api.subentries s ∨ other = new := by
      intro other hother
      rw [hsubentries₂, List.mem_append, List.mem_singleton] at hother
      exact hother
    obtain ⟨t, added, hrest, hdone', hsubentries, hlength, hadded⟩ :=
      ih (index + 1) (uniqueId :: used) (before ++ [room]) hrest htexts (hupdatable.right hdone)
        (fun other hother n hn => (hall other hother).elim
          (fun hother => hfresh other hother n (Nat.le_of_succ_le hn))
          fun heq hids => by
            rw [heq] at hids
            exact absurd (hid hids) (Nat.ne_of_lt hn))
        (fun other hother => (hall other hother).elim
          (fun hother => by
            have hmem := hused other hother
            rw [List.mem_cons] at hmem ⊢
            exact hmem.imp_right (List.mem_cons_of_mem _))
          fun heq => heq ▸ List.mem_cons_of_mem _ List.mem_cons_self)
        (fun other => by
          rw [some_mem_cons_uniqueId, hbefore]
          simp only [List.mem_append, List.mem_singleton, or_and_right, exists_or, exists_eq_left,
            hslave, Option.some.injEq]
          exact ⟨fun h => h.symm.imp_right Eq.symm, fun h => h.symm.imp_left Eq.symm⟩)
    refine ⟨t, new :: added, ?_, hdone.append hdone' hupdatable.entityIds, ?_,
      by simp [hlength], ?_⟩
    · simp only [addUnits, hroomKey, htitle, hslave, Option.bind_eq_bind, Option.bind_some]
      rw [hadd, Option.bind_some, hrun, Option.bind_some]
      exact hrest
    · rw [hsubentries, hsubentries₂, List.append_assoc]
      rfl
    · intro n other subentry hother hsubentry
      cases n with
      | zero =>
        obtain rfl : room = other := by simpa using hother
        obtain rfl : new = subentry := by simpa using hsubentry
        rw [List.take_zero, List.append_nil]
        refine ⟨⟨rfl, htitle, fun hnone => ?_, fun hsome => ?_⟩, rfl⟩
        · rw [hslave] at hnone ⊢
          refine if_neg fun hmem => ?_
          obtain ⟨other, hother, heq⟩ := (hbefore slave).mp hmem
          exact hnone other hother heq
        · rw [hslave] at hsome
          exact if_pos ((hbefore slave).mpr hsome)
      | succ n =>
        have htail := hadded n other subentry (by simpa using hother) (by simpa using hsubentry)
        rw [List.append_assoc, List.singleton_append] at htail
        rw [List.take_succ_cons, show index + (n + 1) = index + 1 + n by omega]
        exact htail

/-- **The step to 2.1.** -/
theorem migrateUnitsToSubentries_run {entry : MigratedEntry} (hapi : api.Documented)
    (hid : Function.Injective newId) (hrooms : entry.rooms = some rooms)
    (hkeys : rooms.mapM (roomText · "key") = some roomKeys) (hnodup : roomKeys.Nodup)
    (htexts : ∀ room ∈ rooms, (roomText room "name").isSome = true ∧
      (roomText room "slave").isSome = true)
    (hnames : ProperNames entry.entryId roomKeys) (hdistinct : api.Distinct s entry.entryId)
    (hunscoped : ∀ roomKey ∈ roomKeys, ∀ key ∈ movedEntityKeys, ∀ entityId entity,
      api.entity s entityId = some entity →
      entity.uniqueId ≠ roomEntityUniqueId entry.entryId roomKey key)
    (hnone : api.subentries s = []) :
    ∃ t, migrateUnitsToSubentries api newId entry s =
        some ({ entry with rooms := none, version := 2, minorVersion := 1 }, t) ∧
      api.Distinct t entry.entryId ∧
      NamesChanged api s t entry.entryId roomKeys movedEntityKeys legacyRoomEntityUniqueId
        (roomEntityUniqueId entry.entryId) id
        (fun roomKey => some (newId (roomKeys.idxOf roomKey))) ∧
      (api.subentries t).length = rooms.length ∧
      ∀ n room subentry, rooms[n]? = some room → (api.subentries t)[n]? = some subentry →
        IsSubentryOf (rooms.take n) room subentry ∧ subentry.id = newId n := by
  have hinj : ∀ item ∈ unitItems 0 roomKeys, ∀ other ∈ unitItems 0 roomKeys,
      (item.2.1 = other.2.1 ∧ item.2.2 = other.2.2) → item = other := by
    rintro item hitem other hother ⟨hroom, hkey⟩
    refine Prod.ext ?_ (Prod.ext hroom hkey)
    rw [(unitItems_index hnodup hitem).1, (unitItems_index hnodup hother).1, hroom]
  have hupdatable : EntitiesUpdatable api s (unitRenamings newId entry.entryId
      (api.uniqueIds s entry.entryId) 0 roomKeys) := by
    refine updatable_renamings hapi hdistinct (nodup_unitItems 0 roomKeys) ?_ ?_ ?_
    · intro item hitem other hother heq
      obtain ⟨-, hroom, hkey⟩ := unitItems_index hnodup hitem
      obtain ⟨-, hroom', hkey'⟩ := unitItems_index hnodup hother
      exact hinj item hitem other hother (hnames.legacy _ hroom _ hroom' _
        (mem_knownEntityKeys hkey) _ (mem_knownEntityKeys hkey') heq)
    · intro item hitem other hother heq
      obtain ⟨-, hroom, hkey⟩ := unitItems_index hnodup hitem
      obtain ⟨-, hroom', hkey'⟩ := unitItems_index hnodup hother
      exact hinj item hitem other hother (hnames.entryScoped_inj hroom hroom'
        (mem_knownEntityKeys hkey) (mem_knownEntityKeys hkey') heq)
    · intro item hitem _
      obtain ⟨-, hroom, hkey⟩ := unitItems_index hnodup hitem
      exact hunscoped _ hroom _ hkey
  obtain ⟨t, added, hrun, hdone, hsubentries, hlength, hadded⟩ := addUnits_run hapi hid
    (api.uniqueIds s entry.entryId) 0 [] [] hkeys htexts hupdatable (by simp [hnone])
    (by simp [hnone]) (by simp)
  rw [hnone, List.nil_append] at hsubentries
  refine ⟨t, ?_, hupdatable.distinct hdone hdistinct, ⟨?_, ?_, ?_⟩,
    by rw [hsubentries, hlength], ?_⟩
  · rw [migrateUnitsToSubentries, hrooms, Option.getD_some, hrun]
    rfl
  · intro roomKey hroom key hkey entityId entity hentity hown hname
    have hnew := hdone.renamed hapi hdistinct (mem_unitItems_idxOf hroom hkey) hentity hown hname
    rw [hnew]
    rfl
  · intro entityId entity hentity hnamed
    refine hdone.kept hapi hdistinct hentity fun hown item hitem => ?_
    obtain ⟨-, hroom, hkey⟩ := unitItems_index hnodup hitem
    exact hnamed hown _ hroom _ hkey
  · intro entityId hmissing
    exact hdone.none hupdatable hmissing
  · intro n room subentry hroom hsubentry
    have hsub := hadded n room subentry hroom (by rwa [hsubentries] at hsubentry)
    rwa [List.nil_append, Nat.zero_add] at hsub

end Units

/-! ### A renamed key -/

/-- The step to 2.2 changes this key. -/
def faultKey (key : String) : String := if key = "rf_fault_status" then "device_fault" else key

theorem endsWith_append (start ending : String) : endsWith ending (start ++ ending) = true := by
  rw [endsWith, String.toList_append, List.isSuffixOf_iff_suffix]
  exact List.suffix_append _ _

theorem removeSuffix_append (start ending : String) :
    removeSuffix ending (start ++ ending) = start := by
  rw [removeSuffix, if_pos (endsWith_append start ending), String.toList_append, List.length_append,
    Nat.add_sub_cancel, List.take_left, String.ofList_toList]

/-- No other key has the ending. -/
theorem key_of_endsWith {entryId roomKey key : String} (hkey : key ∈ movedEntityKeys)
    (h : endsWith "_rf_fault_status" (roomEntityUniqueId entryId roomKey key) = true) :
    key = "rf_fault_status" := by
  have hends : endsWith ("_" ++ key) (roomEntityUniqueId entryId roomKey key) = true := by
    rw [roomEntityUniqueId, String.append_assoc]
    exact endsWith_append _ _
  have hkeys : ∀ key ∈ movedEntityKeys, endsWith "_rf_fault_status" ("_" ++ key) = true ∨
      endsWith ("_" ++ key) "_rf_fault_status" = true → key = "rf_fault_status" := by
    decide +kernel
  simp only [endsWith, List.isSuffixOf_iff_suffix] at h hends hkeys
  exact hkeys key hkey (List.suffix_or_suffix_of_suffix h hends)

section Renamed

variable {Id Store : Type} {api : RegistryApi Id Store} {s : Store} {roomKeys : List String}

/-- What the loop does with one entity. -/
def renamedUpdate (pair : (String × RegistryEntity Id) × (String × String)) :
    Option (EntityUpdate Id) :=
  if endsWith ("_" ++ pair.2.1) pair.1.2.uniqueId then
    some ⟨pair.1.1, removeSuffix ("_" ++ pair.2.1) pair.1.2.uniqueId ++ "_" ++ pair.2.2, none⟩
  else none

/-- **The loop renames entities with an old key**, to different names that have not been in use. -/
theorem renameUpdates_spec (uniqueIds : List String)
    (pairs : List ((String × RegistryEntity Id) × (String × String))) :
    (renameUpdates uniqueIds pairs).Sublist (pairs.filterMap renamedUpdate) ∧
      ((renameUpdates uniqueIds pairs).map (·.newUniqueId)).Nodup ∧
      ∀ update ∈ renameUpdates uniqueIds pairs, update.newUniqueId ∉ uniqueIds := by
  induction pairs generalizing uniqueIds with
  | nil => exact ⟨List.Sublist.refl _, List.nodup_nil, fun _ hmem => (by cases hmem)⟩
  | cons pair pairs ih =>
    obtain ⟨⟨entityId, entity⟩, oldKey, newKey⟩ := pair
    rw [renameUpdates]
    split
    · obtain ⟨hsub, hnodup, hnew⟩ := ih uniqueIds
      refine ⟨hsub.trans ?_, hnodup, hnew⟩
      exact List.Sublist.filterMap _ (List.sublist_cons_self _ _)
    · rename_i hboth
      obtain ⟨hends, hfree⟩ := not_or.mp hboth
      have hends : endsWith ("_" ++ oldKey) entity.uniqueId = true := by simpa using hends
      have hhead : renamedUpdate ((entityId, entity), (oldKey, newKey)) = some
          ⟨entityId, removeSuffix ("_" ++ oldKey) entity.uniqueId ++ "_" ++ newKey, none⟩ := by
        simp [renamedUpdate, hends]
      obtain ⟨hsub, hnodup, hnew⟩ := ih
        ((removeSuffix ("_" ++ oldKey) entity.uniqueId ++ "_" ++ newKey) :: uniqueIds)
      rw [List.filterMap_cons_some hhead]
      refine ⟨hsub.cons_cons _, List.nodup_cons.mpr ⟨fun hmem => ?_, hnodup⟩,
        List.forall_mem_cons.mpr ⟨hfree, fun update hupdate hmem => ?_⟩⟩
      · obtain ⟨update, hupdate, heq⟩ := List.mem_map.mp hmem
        exact hnew update hupdate (heq ▸ List.mem_cons_self)
      · exact hnew update hupdate (List.mem_cons_of_mem _ hmem)

/-- **The loop renames all entities with an old key** if the new names are not in use. -/
theorem renameUpdates_eq {uniqueIds : List String}
    {pairs : List ((String × RegistryEntity Id) × (String × String))}
    (hnew : ∀ update ∈ pairs.filterMap renamedUpdate, update.newUniqueId ∉ uniqueIds)
    (hnodup : ((pairs.filterMap renamedUpdate).map (·.newUniqueId)).Nodup) :
    renameUpdates uniqueIds pairs = pairs.filterMap renamedUpdate := by
  induction pairs generalizing uniqueIds with
  | nil => rfl
  | cons pair pairs ih =>
    obtain ⟨⟨entityId, entity⟩, oldKey, newKey⟩ := pair
    rw [renameUpdates]
    cases hends : endsWith ("_" ++ oldKey) entity.uniqueId with
    | false =>
      have hhead : renamedUpdate ((entityId, entity), (oldKey, newKey)) = none := by
        simp [renamedUpdate, hends]
      rw [List.filterMap_cons_none hhead] at hnew hnodup ⊢
      rw [if_pos (.inl rfl), ih hnew hnodup]
    | true =>
      have hhead : renamedUpdate ((entityId, entity), (oldKey, newKey)) = some
          ⟨entityId, removeSuffix ("_" ++ oldKey) entity.uniqueId ++ "_" ++ newKey, none⟩ := by
        simp [renamedUpdate, hends]
      rw [List.filterMap_cons_some hhead] at hnew hnodup ⊢
      obtain ⟨hfirst, hnew⟩ := List.forall_mem_cons.mp hnew
      obtain ⟨hother, hnodup⟩ := List.nodup_cons.mp hnodup
      rw [if_neg (by simpa using hfirst), ih (fun update hupdate hmem => ?_) hnodup]
      rcases List.mem_cons.mp hmem with heq | hmem
      · exact hother (List.mem_map.mpr ⟨update, hupdate, heq⟩)
      · exact hnew update hupdate hmem

/-- A unique id that ends in the old key gets the new one. -/
theorem renamedUpdate_of_eq {entryId roomKey oldKey newKey entityId : String}
    {entity : RegistryEntity Id} (h : entity.uniqueId = roomEntityUniqueId entryId roomKey oldKey) :
    renamedUpdate ((entityId, entity), (oldKey, newKey)) =
      some ⟨entityId, roomEntityUniqueId entryId roomKey newKey, none⟩ := by
  rw [roomEntityUniqueId, String.append_assoc] at h
  rw [renamedUpdate, h, if_pos (endsWith_append _ _), removeSuffix_append]
  rfl

theorem endsWith_of_renamedUpdate {pair : (String × RegistryEntity Id) × (String × String)}
    {update : EntityUpdate Id} (h : renamedUpdate pair = some update) :
    endsWith ("_" ++ pair.2.1) pair.1.2.uniqueId = true ∧ update.entityId = pair.1.1 := by
  rw [renamedUpdate] at h
  split at h
  · cases h
    exact ⟨‹_›, rfl⟩
  · cases h

/-- The updates of the step to 2.2. -/
def faultUpdates (api : RegistryApi Id Store) (s : Store) (entryId : String) :
    List (EntityUpdate Id) :=
  ((api.entities s entryId).map fun entity =>
    (entity, ("rf_fault_status", "device_fault"))).filterMap renamedUpdate

variable {entryId : String} (hapi : api.Documented)

include hapi

theorem nodup_faultUpdates : ((faultUpdates api s entryId).map (·.entityId)).Nodup := by
  have hnodup := hapi.nodup_entities s entryId
  rw [List.Nodup, List.pairwise_map] at hnodup
  rw [List.Nodup, faultUpdates, List.pairwise_map, List.pairwise_filterMap, List.pairwise_map]
  refine hnodup.imp fun {entity other} hne update hupdate update' hupdate' heq => hne ?_
  rw [(endsWith_of_renamedUpdate hupdate).2, (endsWith_of_renamedUpdate hupdate').2] at heq
  exact heq

/-- **Each update** gives the new key to an entity of a unit that has the old one. -/
theorem mem_faultUpdates (hendings : ∀ entityId entity, api.entity s entityId = some entity →
      entity.configEntryId = entryId →
      endsWith "_rf_fault_status" entity.uniqueId = true → ∃ roomKey ∈ roomKeys,
        entity.uniqueId = roomEntityUniqueId entryId roomKey "rf_fault_status")
    {update : EntityUpdate Id} : update ∈ faultUpdates api s entryId ↔
      ∃ roomKey ∈ roomKeys, ∃ entity, api.entity s update.entityId = some entity ∧
        entity.configEntryId = entryId ∧
        entity.uniqueId = roomEntityUniqueId entryId roomKey "rf_fault_status" ∧
        update = ⟨update.entityId, roomEntityUniqueId entryId roomKey "device_fault", none⟩ := by
  constructor
  · intro hupdate
    obtain ⟨pair, hpair, hsome⟩ := List.mem_filterMap.mp hupdate
    obtain ⟨⟨entityId, entity⟩, hentity, rfl⟩ := List.mem_map.mp hpair
    obtain ⟨hfound, hown⟩ := (hapi.mem_entities s entryId entityId entity).mp hentity
    obtain ⟨roomKey, hroom, hname⟩ := hendings entityId entity hfound hown
      (endsWith_of_renamedUpdate hsome).1
    rw [renamedUpdate_of_eq hname, Option.some.injEq] at hsome
    subst hsome
    exact ⟨roomKey, hroom, entity, hfound, hown, hname, rfl⟩
  · rintro ⟨roomKey, -, entity, hfound, hown, hname, heq⟩
    rw [heq]
    exact List.mem_filterMap.mpr ⟨_, List.mem_map.mpr ⟨(update.entityId, entity),
      (hapi.mem_entities s entryId update.entityId entity).mpr ⟨hfound, hown⟩, rfl⟩,
      renamedUpdate_of_eq hname⟩

/-- **The step to 2.2.** -/
theorem migrateRenamedEntityKeys_run {entry : MigratedEntry}
    (hnames : ProperNames entry.entryId roomKeys) (hdistinct : api.Distinct s entry.entryId)
    (hfault : ∀ roomKey ∈ roomKeys, ∀ entityId entity, api.entity s entityId = some entity →
      entity.configEntryId = entry.entryId →
      entity.uniqueId = roomEntityUniqueId entry.entryId roomKey "rf_fault_status" →
      ∀ entityId' entity', api.entity s entityId' = some entity' →
        entity'.uniqueId ≠ roomEntityUniqueId entry.entryId roomKey "device_fault")
    (hendings : ∀ entityId entity, api.entity s entityId = some entity →
      entity.configEntryId = entry.entryId →
      endsWith "_rf_fault_status" entity.uniqueId = true → ∃ roomKey ∈ roomKeys,
        entity.uniqueId = roomEntityUniqueId entry.entryId roomKey "rf_fault_status") :
    ∃ t, migrateRenamedEntityKeys api entry s = some ({ entry with minorVersion := 2 }, t) ∧
      api.subentries t = api.subentries s ∧ api.Distinct t entry.entryId ∧
      NamesChanged api s t entry.entryId roomKeys movedEntityKeys
        (roomEntityUniqueId entry.entryId) (roomEntityUniqueId entry.entryId) faultKey
        fun _ => none := by
  have hold : "rf_fault_status" ∈ knownEntityKeys := by decide
  have hnew : "device_fault" ∈ knownEntityKeys := by decide
  have hmem := @mem_faultUpdates _ _ api s roomKeys entry.entryId hapi hendings
  have hupdatable : EntitiesUpdatable api s (faultUpdates api s entry.entryId) := by
    constructor
    · exact nodup_faultUpdates hapi
    · rw [List.Nodup, List.pairwise_map]
      have hnodup : ((faultUpdates api s entry.entryId).map (·.entityId)).Nodup :=
        nodup_faultUpdates hapi
      rw [List.Nodup, List.pairwise_map] at hnodup
      refine hnodup.imp_of_mem fun {update other} hupdate hother hne heq => hne ?_
      obtain ⟨roomKey, hroom, entity, hentity, hown, hname, hupdate⟩ := hmem.mp hupdate
      obtain ⟨roomKey', hroom', entity', hentity', hown', hname', hother⟩ := hmem.mp hother
      rw [hupdate, hother] at heq
      obtain ⟨rfl, -⟩ := hnames.entryScoped_inj hroom hroom' hnew hnew heq
      exact hdistinct _ _ _ _ hentity hentity' hown hown' (hname.trans hname'.symm)
    · intro update hupdate
      obtain ⟨-, -, entity, hentity, -⟩ := hmem.mp hupdate
      rw [hentity]
      rfl
    · intro update hupdate entityId' entity' hentity'
      obtain ⟨roomKey, hroom, entity, hentity, hown, hname, heq⟩ := hmem.mp hupdate
      rw [heq]
      exact hfault roomKey hroom _ entity hentity hown hname entityId' entity' hentity'
  obtain ⟨t, hrun, hsubentries, hdone⟩ := hupdatable.run hapi fun update hupdate id hid => by
    obtain ⟨_, _, _, _, _, _, heq⟩ := hmem.mp hupdate
    rw [heq] at hid
    cases hid
  have hupdates : renameUpdates ((api.entities s entry.entryId).map (·.2.uniqueId))
      ((api.entities s entry.entryId).flatMap fun entity =>
        renamedEntityKeys.map fun key => (entity, key)) = faultUpdates api s entry.entryId := by
    have hflat : (api.entities s entry.entryId).flatMap
        (fun entity => renamedEntityKeys.map fun key => (entity, key)) =
        (api.entities s entry.entryId).map fun entity =>
          (entity, ("rf_fault_status", "device_fault")) :=
      List.flatMap_pure_eq_map _ _
    rw [hflat]
    refine renameUpdates_eq (fun update hupdate hused => ?_) hupdatable.uniqueIds
    obtain ⟨⟨entityId, entity⟩, hentity, heq⟩ := List.mem_map.mp hused
    exact hupdatable.free update hupdate entityId entity
      ((hapi.mem_entities s entry.entryId entityId entity).mp hentity).1 heq
  refine ⟨t, ?_, hsubentries, hupdatable.distinct hdone hdistinct, ⟨?_, ?_, ?_⟩⟩
  · rw [migrateRenamedEntityKeys, hupdates, hrun]
    rfl
  · intro roomKey hroom key hkey entityId entity hentity hown hname
    by_cases heq : key = "rf_fault_status"
    · subst heq
      rw [hdone.updated ⟨entityId, _, none⟩ (hmem.mpr ⟨roomKey, hroom, entity, hentity, hown, hname,
        rfl⟩), hentity]
      rfl
    · rw [hdone.other entityId fun update hupdate hid => heq ?_, hentity, faultKey, if_neg heq,
        ← hname]
      · rfl
      · obtain ⟨roomKey', hroom', entity', hentity', hown', hname', -⟩ := hmem.mp hupdate
        rw [hid, hentity] at hentity'
        obtain rfl := Option.some.inj hentity'
        exact (hnames.entryScoped_inj hroom hroom' (mem_knownEntityKeys hkey) hold
          (hname.symm.trans hname')).2
  · intro entityId entity hentity hnamed
    rw [hdone.other entityId fun update hupdate hid => ?_, hentity]
    obtain ⟨roomKey, hroom, entity', hentity', hown, hname, -⟩ := hmem.mp hupdate
    rw [hid, hentity] at hentity'
    obtain rfl := Option.some.inj hentity'
    exact hnamed hown roomKey hroom _ (by decide) hname
  · intro entityId hmissing
    exact hdone.none hupdatable hmissing

/-- **The step to 2.2 raises only for a new name that an entity of another entry has.** -/
theorem migrateRenamedEntityKeys_done {entry : MigratedEntry}
    (hforeign : ∀ entityId entity, api.entity s entityId = some entity →
      entity.configEntryId = entry.entryId →
      endsWith "_rf_fault_status" entity.uniqueId = true →
      ∀ entityId' entity', api.entity s entityId' = some entity' →
        entity'.configEntryId ≠ entry.entryId →
        entity'.uniqueId ≠ removeSuffix "_rf_fault_status" entity.uniqueId ++ "_device_fault") :
    ∃ t, migrateRenamedEntityKeys api entry s = some ({ entry with minorVersion := 2 }, t) ∧
      api.subentries t = api.subentries s := by
  have hflat : (api.entities s entry.entryId).flatMap
      (fun entity => renamedEntityKeys.map fun key => (entity, key)) =
      (api.entities s entry.entryId).map fun entity =>
        (entity, ("rf_fault_status", "device_fault")) :=
    List.flatMap_pure_eq_map _ _
  obtain ⟨hsub, hnodup, hnew⟩ := renameUpdates_spec
    ((api.entities s entry.entryId).map (·.2.uniqueId))
    ((api.entities s entry.entryId).map fun entity =>
      (entity, ("rf_fault_status", "device_fault")))
  have hmem : ∀ update ∈ faultUpdates api s entry.entryId, ∃ entity,
      api.entity s update.entityId = some entity ∧ entity.configEntryId = entry.entryId ∧
      endsWith "_rf_fault_status" entity.uniqueId = true ∧ update =
        ⟨update.entityId, removeSuffix "_rf_fault_status" entity.uniqueId ++ "_device_fault",
          none⟩ := by
    intro update hupdate
    obtain ⟨pair, hpair, hsome⟩ := List.mem_filterMap.mp hupdate
    obtain ⟨⟨entityId, entity⟩, hentity, rfl⟩ := List.mem_map.mp hpair
    obtain ⟨hfound, hown⟩ := (hapi.mem_entities s entry.entryId entityId entity).mp hentity
    have hends := (endsWith_of_renamedUpdate hsome).1
    rw [renamedUpdate, if_pos hends, Option.some.injEq] at hsome
    subst hsome
    refine ⟨entity, hfound, hown, hends, ?_⟩
    rw [String.append_assoc]
    rfl
  have hupdatable : EntitiesUpdatable api s
      (renameUpdates ((api.entities s entry.entryId).map (·.2.uniqueId))
        ((api.entities s entry.entryId).map fun entity =>
          (entity, ("rf_fault_status", "device_fault")))) := by
    refine ⟨(nodup_faultUpdates hapi).sublist (hsub.map _), hnodup, fun update hupdate => ?_,
      fun update hupdate entityId' entity' hentity' hname' => ?_⟩
    · obtain ⟨entity, hfound, -⟩ := hmem update (hsub.subset hupdate)
      rw [hfound]
      rfl
    · obtain ⟨entity, hfound, hown, hends, heq⟩ := hmem update (hsub.subset hupdate)
      by_cases hown' : entity'.configEntryId = entry.entryId
      · refine hnew update hupdate (List.mem_map.mpr ⟨(entityId', entity'), ?_, hname'⟩)
        exact (hapi.mem_entities s entry.entryId entityId' entity').mpr ⟨hentity', hown'⟩
      · rw [heq] at hname'
        exact hforeign _ entity hfound hown hends entityId' entity' hentity' hown' hname'
  obtain ⟨t, hrun, hsubentries, -⟩ := hupdatable.run hapi fun update hupdate id hid => by
    obtain ⟨entity, -, -, -, heq⟩ := hmem update (hsub.subset hupdate)
    rw [heq] at hid
    cases hid
  refine ⟨t, ?_, hsubentries⟩
  rw [migrateRenamedEntityKeys, hflat, hrun]
  rfl

end Renamed

end MeltemVentilation
