import Mathlib.Data.List.AList
import MeltemVentilation.DeviceSync
import MeltemVentilation.Lib.Dict

/-!
# Renaming entities one after the other

The entity registry of Home Assistant knows an entity of the integration by its unique id, and
keeps under an entity id of its own what the user has set for it. A migration gives entities new
unique ids, one call after the other, and each call raises if another entity has the new id at that
time. Here is what such a row of calls does, whatever their order (`EntitiesUpdatable.run`): if no
new id is in use before the first call, and no two of them are the same, then none of them raises,
each entity has its new id afterwards, and every other entity is as before. Entities that differ in
their ids still do (`EntitiesUpdatable.distinct`). Mostly a new id is a function of an old one,
which is how the entity is found (`renamings`).

The registry is kept by Home Assistant. Its calls are the parameter `RegistryApi`, of which only
what is documented of them is used (`RegistryApi.Documented`).
-/

namespace MeltemVentilation

/-! ### The registry -/

/-- An entity, as the registry has it. -/
structure RegistryEntity (Id : Type) where
  configEntryId : String
  uniqueId : String
  configSubentryId : Option Id
deriving DecidableEq

/-- What `async_update_entity` is asked for; the subentry stays if there is no other one. -/
structure EntityUpdate (Id : Type) where
  entityId : String
  newUniqueId : String
  configSubentryId : Option Id

/-- An entity with a change. -/
def EntityUpdate.apply {Id : Type} (update : EntityUpdate Id) (entity : RegistryEntity Id) :
    RegistryEntity Id :=
  { entity with
    uniqueId := update.newUniqueId
    configSubentryId := update.configSubentryId.or entity.configSubentryId }

/-- A subentry that a migration adds. -/
structure MigratedSubentry (Id : Type) where
  id : Id
  data : StoredRoom
  title : String
  uniqueId : Option String

/-- The calls for the entities, and for the subentries of one configuration entry; `none` where a
call raises. -/
structure RegistryApi (Id Store : Type) where
  /-- The entity with an entity id. -/
  entity : Store → String → Option (RegistryEntity Id)
  /-- `async_entries_for_config_entry`, with the entity ids. -/
  entities : Store → String → List (String × RegistryEntity Id)
  /-- `async_update_entity`. -/
  updateEntity : Store → EntityUpdate Id → Option Store
  subentries : Store → List (MigratedSubentry Id)
  /-- `async_add_subentry`. -/
  addSubentry : Store → MigratedSubentry Id → Option Store

/-- **What is documented of the calls**: an entity is updated if no entity has the new unique id and
its subentry is there, and a subentry is added if no other one has its unique id. -/
structure RegistryApi.Documented {Id Store : Type} (api : RegistryApi Id Store) : Prop where
  mem_entities : ∀ s entryId entityId entity, (entityId, entity) ∈ api.entities s entryId ↔
    api.entity s entityId = some entity ∧ entity.configEntryId = entryId
  nodup_entities : ∀ s entryId, ((api.entities s entryId).map Prod.fst).Nodup
  update : ∀ s update, (api.entity s update.entityId).isSome = true →
    (∀ entityId entity, api.entity s entityId = some entity →
      entity.uniqueId ≠ update.newUniqueId) →
    (∀ subentryId ∈ update.configSubentryId, subentryId ∈ (api.subentries s).map (·.id)) →
    ∃ t, api.updateEntity s update = some t ∧ api.subentries t = api.subentries s ∧
      ∀ entityId, api.entity t entityId =
        if entityId = update.entityId then (api.entity s entityId).map update.apply
        else api.entity s entityId
  add : ∀ s new, (∀ other ∈ api.subentries s, other.id ≠ new.id ∧
      ∀ uniqueId ∈ new.uniqueId, other.uniqueId ≠ some uniqueId) →
    ∃ t, api.addSubentry s new = some t ∧ api.subentries t = api.subentries s ++ [new] ∧
      ∀ entityId, api.entity t entityId = api.entity s entityId

/-! ### A registry in memory -/

/-- A registry that keeps the entities by entity id, and the subentries in the order in which they
were added. -/
def memoryRegistry :
    RegistryApi ℕ (AList (fun _ : String => RegistryEntity ℕ) × List (MigratedSubentry ℕ)) where
  entity s entityId := s.1.lookup entityId
  entities s entryId := (s.1.entries.map fun entry => (entry.1, entry.2)).filter
    fun entry => entry.2.configEntryId = entryId
  updateEntity s update :=
    match s.1.lookup update.entityId with
    | none => none
    | some entity =>
      if s.1.entries.any (fun entry => entry.2.uniqueId = update.newUniqueId) ∨
          ¬ update.configSubentryId.all (· ∈ s.2.map (·.id)) then none
      else some (s.1.insert update.entityId (update.apply entity), s.2)
  subentries s := s.2
  addSubentry s new :=
    if s.2.any fun other => other.id = new.id ∨
        new.uniqueId.any fun uniqueId => other.uniqueId = some uniqueId then none
    else some (s.1, s.2 ++ [new])

theorem memoryRegistry_documented : memoryRegistry.Documented where
  mem_entities s entryId entityId entity := by
    rw [memoryRegistry, List.mem_filter, List.mem_map, decide_eq_true_iff]
    refine and_congr_left fun _ => ⟨?_, fun h => ?_⟩
    · rintro ⟨entry, hentry, heq⟩
      cases heq
      exact AList.mem_lookup_iff.mpr hentry
    · exact ⟨⟨entityId, entity⟩, AList.mem_lookup_iff.mp h, rfl⟩
  nodup_entities s entryId := by
    have hkeys := s.1.nodupKeys
    rw [List.NodupKeys, List.keys] at hkeys
    refine List.Nodup.sublist ?_ hkeys
    have hsub := (List.filter_sublist (p := fun entry : String × RegistryEntity ℕ =>
      decide (entry.2.configEntryId = entryId))
      (l := s.1.entries.map fun entry => (entry.1, entry.2))).map Prod.fst
    rwa [List.map_map] at hsub
  update s update hfound hfree hthere := by
    obtain ⟨entity, hentity⟩ := Option.isSome_iff_exists.mp hfound
    have hlookup : s.1.lookup update.entityId = some entity := hentity
    have hnone : ¬ (s.1.entries.any (fun entry => entry.2.uniqueId = update.newUniqueId) ∨
        ¬ update.configSubentryId.all (· ∈ s.2.map (·.id))) := by
      rw [not_or, not_not]
      refine ⟨fun hany => ?_, ?_⟩
      · obtain ⟨entry, hentry, heq⟩ := List.any_eq_true.mp hany
        exact hfree entry.1 entry.2 (AList.mem_lookup_iff.mpr hentry) (of_decide_eq_true heq)
      · cases hid : update.configSubentryId with
        | none => rfl
        | some id => exact decide_eq_true (hthere id hid)
    refine ⟨(s.1.insert update.entityId (update.apply entity), s.2), ?_, rfl, fun entityId => ?_⟩
    · simp only [memoryRegistry, hlookup]
      exact if_neg hnone
    · change AList.lookup entityId (s.1.insert update.entityId (update.apply entity)) =
        if entityId = update.entityId then (s.1.lookup entityId).map update.apply
        else s.1.lookup entityId
      by_cases heq : entityId = update.entityId
      · rw [if_pos heq, heq, AList.lookup_insert, hlookup, Option.map_some]
      · rw [if_neg heq, AList.lookup_insert_ne heq]
  add s new hfree := by
    refine ⟨(s.1, s.2 ++ [new]), if_neg fun hany => ?_, rfl, fun _ => rfl⟩
    obtain ⟨other, hother, htaken⟩ := List.any_eq_true.mp hany
    obtain ⟨hid, huniqueId⟩ := hfree other hother
    rcases of_decide_eq_true htaken with heq | htaken
    · exact hid heq
    · obtain ⟨uniqueId, hnew, heq⟩ := (Option.any_eq_true _ _).mp htaken
      exact huniqueId uniqueId hnew (of_decide_eq_true heq)

/-- The entity ids of an entry by unique id. -/
def RegistryApi.uniqueIds {Id Store : Type} (api : RegistryApi Id Store) (s : Store)
    (entryId : String) : Dict String String :=
  Dict.update ∅ ((api.entities s entryId).map fun entry => (entry.2.uniqueId, entry.1))

section Updates

variable {Id Store : Type} {api : RegistryApi Id Store} {s t u : Store} {entryId : String}
  {updates updates' : List (EntityUpdate Id)}

/-- The entities of an entry differ in their unique ids. -/
def RegistryApi.Distinct (api : RegistryApi Id Store) (s : Store) (entryId : String) : Prop :=
  ∀ entityId entityId' entity entity', api.entity s entityId = some entity →
    api.entity s entityId' = some entity' → entity.configEntryId = entryId →
    entity'.configEntryId = entryId → entity.uniqueId = entity'.uniqueId → entityId = entityId'

/-- **An entity is found by its unique id.** -/
theorem lookup_uniqueIds (hapi : api.Documented) (h : api.Distinct s entryId)
    {uniqueId entityId : String} : (api.uniqueIds s entryId).lookup uniqueId = some entityId ↔
      ∃ entity, api.entity s entityId = some entity ∧ entity.configEntryId = entryId ∧
        entity.uniqueId = uniqueId := by
  have hnodup : (((api.entities s entryId).map fun entry =>
      (entry.2.uniqueId, entry.1)).map Prod.fst).Nodup := by
    rw [List.map_map]
    refine (hapi.nodup_entities s entryId).of_map.map_on fun entry hentry other hother heq => ?_
    obtain ⟨hfound, hown⟩ := (hapi.mem_entities s entryId entry.1 entry.2).mp hentry
    obtain ⟨hfound', hown'⟩ := (hapi.mem_entities s entryId other.1 other.2).mp hother
    have hid := h _ _ _ _ hfound hfound' hown hown' heq
    rw [hid] at hfound
    exact Prod.ext hid (Option.some.inj (hfound.symm.trans hfound'))
  have hlookup : ∀ entry ∈ api.entities s entryId,
      (api.uniqueIds s entryId).lookup entry.2.uniqueId = some entry.1 := fun entry hentry =>
    Dict.lookup_update_of_mem hnodup (List.mem_map.mpr ⟨entry, hentry, rfl⟩) ∅
  constructor
  · intro hfound
    have hmem : uniqueId ∈ ((api.entities s entryId).map fun entry =>
        (entry.2.uniqueId, entry.1)).map Prod.fst := by
      by_contra hnot
      rw [RegistryApi.uniqueIds, Dict.lookup_update_of_notMem hnot] at hfound
      cases hfound
    rw [List.map_map] at hmem
    obtain ⟨⟨entityId', entity⟩, hentry, rfl⟩ := List.mem_map.mp hmem
    obtain rfl := Option.some.inj ((hlookup _ hentry).symm.trans hfound)
    obtain ⟨hentity, hown⟩ := (hapi.mem_entities s entryId _ _).mp hentry
    exact ⟨entity, hentity, hown, rfl⟩
  · rintro ⟨entity, hentity, hown, rfl⟩
    exact hlookup (entityId, entity) ((hapi.mem_entities s entryId _ _).mpr ⟨hentity, hown⟩)

/-! ### Updates -/

/-- **The updates can be done** in any order. -/
structure EntitiesUpdatable (api : RegistryApi Id Store) (s : Store)
    (updates : List (EntityUpdate Id)) : Prop where
  entityIds : (updates.map (·.entityId)).Nodup
  uniqueIds : (updates.map (·.newUniqueId)).Nodup
  found : ∀ update ∈ updates, (api.entity s update.entityId).isSome = true
  free : ∀ update ∈ updates, ∀ entityId entity, api.entity s entityId = some entity →
    entity.uniqueId ≠ update.newUniqueId

/-- **The updates are done**, and nothing else is. -/
structure EntitiesUpdated (api : RegistryApi Id Store) (s t : Store)
    (updates : List (EntityUpdate Id)) : Prop where
  updated : ∀ update ∈ updates,
    api.entity t update.entityId = (api.entity s update.entityId).map update.apply
  other : ∀ entityId, (∀ update ∈ updates, update.entityId ≠ entityId) →
    api.entity t entityId = api.entity s entityId

/-- Nothing is to be done. -/
theorem updated_nil (h : ∀ entityId, api.entity t entityId = api.entity s entityId) :
    EntitiesUpdated api s t [] :=
  ⟨fun _ hmem => (by cases hmem), fun entityId _ => h entityId⟩

/-- **What an entity is afterwards**: as before, or with an update of its own. -/
theorem EntitiesUpdated.entity_eq (h : EntitiesUpdated api s t updates) {entityId : String}
    {entity : RegistryEntity Id} (ht : api.entity t entityId = some entity) :
    ((∀ update ∈ updates, update.entityId ≠ entityId) ∧ api.entity s entityId = some entity) ∨
      ∃ update ∈ updates, update.entityId = entityId ∧
        ∃ before, api.entity s entityId = some before ∧ entity = update.apply before := by
  by_cases hmem : ∃ update ∈ updates, update.entityId = entityId
  · obtain ⟨update, hupdate, rfl⟩ := hmem
    rw [h.updated update hupdate, Option.map_eq_some_iff] at ht
    obtain ⟨before, hbefore, rfl⟩ := ht
    exact .inr ⟨update, hupdate, rfl, before, hbefore, rfl⟩
  · have hnone : ∀ update ∈ updates, update.entityId ≠ entityId := fun update hupdate heq =>
      hmem ⟨update, hupdate, heq⟩
    exact .inl ⟨hnone, (h.other entityId hnone).symm.trans ht⟩

/-- Updates of different entities, one row after the other. -/
theorem EntitiesUpdated.append (h : EntitiesUpdated api s t updates)
    (h' : EntitiesUpdated api t u updates')
    (hnodup : ((updates ++ updates').map (·.entityId)).Nodup) :
    EntitiesUpdated api s u (updates ++ updates') := by
  rw [List.map_append, List.nodup_append] at hnodup
  have hapart : ∀ update ∈ updates, ∀ other ∈ updates', other.entityId ≠ update.entityId :=
    fun update hupdate other hother heq => hnodup.2.2 _ (List.mem_map_of_mem hupdate) _
      (List.mem_map_of_mem hother) heq.symm
  constructor
  · intro update hupdate
    rcases List.mem_append.mp hupdate with hupdate | hupdate
    · rw [h'.other _ (hapart update hupdate), h.updated update hupdate]
    · rw [h'.updated update hupdate,
        h.other _ fun other hother heq => hapart other hother update hupdate heq.symm]
  · intro entityId hother
    rw [h'.other entityId fun update hupdate => hother update (List.mem_append_right _ hupdate),
      h.other entityId fun update hupdate => hother update (List.mem_append_left _ hupdate)]

/-- The first ones of some updates can be done. -/
theorem EntitiesUpdatable.left (h : EntitiesUpdatable api s (updates ++ updates')) :
    EntitiesUpdatable api s updates where
  entityIds := (List.map_append ▸ h.entityIds).of_append_left
  uniqueIds := (List.map_append ▸ h.uniqueIds).of_append_left
  found update hupdate := h.found update (List.mem_append_left _ hupdate)
  free update hupdate := h.free update (List.mem_append_left _ hupdate)

/-- **The other ones can be done afterwards.** -/
theorem EntitiesUpdatable.right (h : EntitiesUpdatable api s (updates ++ updates'))
    (hdone : EntitiesUpdated api s t updates) : EntitiesUpdatable api t updates' where
  entityIds := (List.map_append ▸ h.entityIds).of_append_right
  uniqueIds := (List.map_append ▸ h.uniqueIds).of_append_right
  found update hupdate := by
    have hnodup := h.entityIds
    rw [List.map_append, List.nodup_append] at hnodup
    rw [hdone.other update.entityId fun other hother heq => hnodup.2.2 _
      (List.mem_map_of_mem hother) _ (List.mem_map_of_mem hupdate) heq]
    exact h.found update (List.mem_append_right _ hupdate)
  free update hupdate entityId entity hentity := by
    have hupdate' := List.mem_append_right updates hupdate
    obtain ⟨-, hbefore⟩ | ⟨other, hother, -, before, -, rfl⟩ := hdone.entity_eq hentity
    · exact h.free update hupdate' entityId entity hbefore
    · have hnodup := h.uniqueIds
      rw [List.map_append, List.nodup_append] at hnodup
      exact hnodup.2.2 _ (List.mem_map_of_mem hother) _ (List.mem_map_of_mem hupdate)

/-- **No update raises**, and all of them are done, if their subentries are there. -/
theorem EntitiesUpdatable.run (hapi : api.Documented) (h : EntitiesUpdatable api s updates)
    (hthere : ∀ update ∈ updates, ∀ subentryId ∈ update.configSubentryId,
      subentryId ∈ (api.subentries s).map (·.id)) :
    ∃ t, updates.foldlM api.updateEntity s = some t ∧ api.subentries t = api.subentries s ∧
      EntitiesUpdated api s t updates := by
  induction updates generalizing s with
  | nil => exact ⟨s, rfl, rfl, updated_nil fun _ => rfl⟩
  | cons update updates ih =>
    obtain ⟨hfirst, hrest⟩ := List.forall_mem_cons.mp hthere
    obtain ⟨t, hstep, hsubentries, hentity⟩ := hapi.update s update
      (h.found update List.mem_cons_self) (h.free update List.mem_cons_self) hfirst
    have hone : EntitiesUpdated api s t [update] := by
      constructor
      · intro other hother
        obtain rfl := List.mem_singleton.mp hother
        rw [hentity, if_pos rfl]
      · intro entityId hother
        rw [hentity, if_neg (hother update List.mem_cons_self).symm]
    have hall : EntitiesUpdatable api s ([update] ++ updates) := h
    obtain ⟨u, hrun, hsubentries', hupdated⟩ := ih (hall.right hone) (by rwa [hsubentries])
    refine ⟨u, ?_, hsubentries'.trans hsubentries, hone.append hupdated h.entityIds⟩
    rw [List.foldlM_cons, hstep]
    exact hrun

/-- **A subentry is added, and entities are moved to it.** -/
theorem EntitiesUpdatable.run_addSubentry (hapi : api.Documented)
    (h : EntitiesUpdatable api s updates) {new : MigratedSubentry Id}
    (hnew : ∀ other ∈ api.subentries s, other.id ≠ new.id ∧
      ∀ uniqueId ∈ new.uniqueId, other.uniqueId ≠ some uniqueId)
    (hthere : ∀ update ∈ updates, update.configSubentryId = some new.id) :
    ∃ t u, api.addSubentry s new = some t ∧ updates.foldlM api.updateEntity t = some u ∧
      api.subentries u = api.subentries s ++ [new] ∧ EntitiesUpdated api s u updates := by
  obtain ⟨t, hadd, hsubentries, hentity⟩ := hapi.add s new hnew
  have hsame := updated_nil hentity
  have hall : EntitiesUpdatable api s ([] ++ updates) := h
  have hupdatable := hall.right hsame
  obtain ⟨u, hrun, hsubentries', hdone⟩ := hupdatable.run hapi fun update hupdate id hid => by
    rw [hthere update hupdate, Option.mem_some_iff] at hid
    rw [hsubentries, List.map_append, ← hid]
    exact List.mem_append_right _ (List.mem_singleton.mpr rfl)
  exact ⟨t, u, hadd, hrun, hsubentries'.trans hsubentries, hsame.append hdone h.entityIds⟩

/-- **Entities that differ in their unique ids still do.** -/
theorem EntitiesUpdatable.distinct (h : EntitiesUpdatable api s updates)
    (hdone : EntitiesUpdated api s t updates) (hdistinct : api.Distinct s entryId) :
    api.Distinct t entryId := by
  intro entityId entityId' entity entity' hentity hentity' hown hown' heq
  obtain ⟨-, hbefore⟩ | ⟨update, hupdate, rfl, before, hbefore, rfl⟩ := hdone.entity_eq hentity
  · obtain ⟨-, hbefore'⟩ | ⟨update', hupdate', rfl, before', -, rfl⟩ := hdone.entity_eq hentity'
    · exact hdistinct _ _ _ _ hbefore hbefore' hown hown' heq
    · exact absurd heq (h.free update' hupdate' _ _ hbefore)
  · obtain ⟨-, hbefore'⟩ | ⟨update', hupdate', rfl, before', -, rfl⟩ := hdone.entity_eq hentity'
    · exact absurd heq.symm (h.free update hupdate _ _ hbefore')
    · exact congrArg (·.entityId)
        (List.inj_on_of_nodup_map h.uniqueIds hupdate hupdate' heq)

/-! ### Names for names -/

section Renamings

variable {Item : Type} {old new : Item → String} {subentry : Item → Option Id} {items : List Item}

/-- The updates that give the entities with the old names the new ones. -/
def renamings (entities : Dict String String) (old new : Item → String)
    (subentry : Item → Option Id) (items : List Item) : List (EntityUpdate Id) :=
  items.filterMap fun item =>
    (entities.lookup (old item)).map fun entityId => ⟨entityId, new item, subentry item⟩

theorem mem_renamings {entities : Dict String String} {update : EntityUpdate Id} :
    update ∈ renamings entities old new subentry items ↔ ∃ item ∈ items,
      entities.lookup (old item) = some update.entityId ∧
        update = ⟨update.entityId, new item, subentry item⟩ := by
  simp only [renamings, List.mem_filterMap, Option.map_eq_some_iff]
  constructor
  · rintro ⟨item, hitem, entityId, hlookup, rfl⟩
    exact ⟨item, hitem, hlookup, rfl⟩
  · rintro ⟨item, hitem, hlookup, heq⟩
    exact ⟨item, hitem, update.entityId, hlookup, heq.symm⟩

theorem renamings_append (entities : Dict String String) (items items' : List Item) :
    renamings entities old new subentry (items ++ items') =
      renamings entities old new subentry items ++ renamings entities old new subentry items' :=
  List.filterMap_append

variable (hapi : api.Documented) (hdistinct : api.Distinct s entryId)

include hapi hdistinct

/-- **The renamings can be done** if the names are different, and no new one is in use. -/
theorem updatable_renamings (hitems : items.Nodup)
    (hold : ∀ item ∈ items, ∀ other ∈ items, old item = old other → item = other)
    (hnew : ∀ item ∈ items, ∀ other ∈ items, new item = new other → item = other)
    (hfree : ∀ item ∈ items, ((api.uniqueIds s entryId).lookup (old item)).isSome = true →
      ∀ entityId entity, api.entity s entityId = some entity → entity.uniqueId ≠ new item) :
    EntitiesUpdatable api s (renamings (api.uniqueIds s entryId) old new subentry items) where
  entityIds := by
    rw [List.Nodup, List.pairwise_map, renamings, List.pairwise_filterMap]
    refine hitems.imp_of_mem fun {item other} hitem hother hne update hupdate update' hupdate'
      heq => ?_
    obtain ⟨entityId, hlookup, rfl⟩ := Option.map_eq_some_iff.mp hupdate
    obtain ⟨entityId', hlookup', rfl⟩ := Option.map_eq_some_iff.mp hupdate'
    obtain rfl : entityId = entityId' := heq
    obtain ⟨entity, hentity, -, hname⟩ := (lookup_uniqueIds hapi hdistinct).mp hlookup
    obtain ⟨entity', hentity', -, hname'⟩ := (lookup_uniqueIds hapi hdistinct).mp hlookup'
    obtain rfl := Option.some.inj (hentity.symm.trans hentity')
    exact hne (hold item hitem other hother (hname.symm.trans hname'))
  uniqueIds := by
    rw [List.Nodup, List.pairwise_map, renamings, List.pairwise_filterMap]
    refine hitems.imp_of_mem fun {item other} hitem hother hne update hupdate update' hupdate'
      heq => ?_
    obtain ⟨entityId, -, rfl⟩ := Option.map_eq_some_iff.mp hupdate
    obtain ⟨entityId', -, rfl⟩ := Option.map_eq_some_iff.mp hupdate'
    exact hne (hnew item hitem other hother heq)
  found update hupdate := by
    obtain ⟨item, -, hlookup, -⟩ := mem_renamings.mp hupdate
    obtain ⟨entity, hentity, -⟩ := (lookup_uniqueIds hapi hdistinct).mp hlookup
    rw [hentity]
    rfl
  free update hupdate entityId entity hentity := by
    obtain ⟨item, hitem, hlookup, heq⟩ := mem_renamings.mp hupdate
    rw [heq]
    exact hfree item hitem (by rw [hlookup]; rfl) entityId entity hentity

variable {entityId : String} {entity : RegistryEntity Id}

/-- **An entity with an old name** has the new one. -/
theorem EntitiesUpdated.renamed
    (h : EntitiesUpdated api s t (renamings (api.uniqueIds s entryId) old new subentry items))
    {item : Item} (hitem : item ∈ items) (hentity : api.entity s entityId = some entity)
    (hown : entity.configEntryId = entryId) (hname : entity.uniqueId = old item) :
    api.entity t entityId = some { entity with
      uniqueId := new item, configSubentryId := (subentry item).or entity.configSubentryId } := by
  have hlookup := (lookup_uniqueIds hapi hdistinct).mpr ⟨entity, hentity, hown, hname⟩
  have hupdate := h.updated ⟨entityId, new item, subentry item⟩
    (mem_renamings.mpr ⟨item, hitem, hlookup, rfl⟩)
  rw [hupdate, hentity]
  rfl

/-- **An entity without an old name** is as before. -/
theorem EntitiesUpdated.kept
    (h : EntitiesUpdated api s t (renamings (api.uniqueIds s entryId) old new subentry items))
    (hentity : api.entity s entityId = some entity)
    (hother : entity.configEntryId = entryId → ∀ item ∈ items, entity.uniqueId ≠ old item) :
    api.entity t entityId = some entity := by
  rw [h.other entityId fun update hupdate heq => ?_, hentity]
  obtain ⟨item, hitem, hlookup, -⟩ := mem_renamings.mp hupdate
  obtain ⟨entity', hentity', hown, hname⟩ := (lookup_uniqueIds hapi hdistinct).mp hlookup
  rw [heq, hentity] at hentity'
  obtain rfl := Option.some.inj hentity'
  exact hother hown item hitem hname

end Renamings

end Updates

end MeltemVentilation
