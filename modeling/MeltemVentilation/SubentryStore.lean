import MeltemVentilation.BuiltRooms
import MeltemVentilation.Lib.Transition

/-!
# Saving the units one operation after the other

What `_async_save_profiles` asks of the configuration entry, in order: it removes the
subentries that no room has the key of, takes the unique id from each kept one whose address
changes, and then adds or updates one subentry for each room. The unique id of a unit is its
address, and any two units may have changed theirs, so that an update in place could give two
of them the same for a moment. The theorem `saveOperations_distinct` says that this never
happens, and that the subentries are those of the rooms in the end. What is removed, updated and
added is what `saveProfiles` says (`saveProfiles_popStored`).

The subentries are kept by Home Assistant. Its calls are the parameter `SubentryApi`, of which
only what is documented is used (`SubentryApi.Documented`): in particular an update or an
addition may fail if its unique id is in use.
-/

namespace MeltemVentilation

open Transition

/-! ### The subentries of a configuration entry -/

/-- The data of a unit, without its name. -/
structure UnitData where
  key : String
  slave : ℕ
  profile : Profile
  preview : Option String
  productId : Option ℤ
  appSetupCode : Option String
  nameIsDeviceName : Bool
deriving DecidableEq, Repr

/-- `unit_data`. -/
def unitData (room : UnitRoom) : UnitData where
  key := room.key
  slave := room.slave
  profile := room.profile
  preview := room.preview
  productId := room.productId
  appSetupCode := room.appSetupCode
  nameIsDeviceName := room.nameIsDeviceName

/-- A unit subentry with its own id. -/
structure StoredSubentry (Id : Type) extends UnitSubentry where
  id : Id

/-- The calls for the subentries of one configuration entry; `none` where a call raises. -/
structure SubentryApi (Id Store : Type) where
  subentries : Store → List (StoredSubentry Id)
  /-- `async_remove_subentry`. -/
  removeSubentry : Store → Id → Option Store
  /-- `async_update_subentry`, with what it changes. -/
  updateSubentry : Store → Id → (UnitSubentry → UnitSubentry) → Option Store
  /-- `async_add_subentry`. -/
  addSubentry : Store → UnitSubentry → Option Store

/-- No two subentries have the same unique id; any number may have none. -/
def DistinctIds {Id : Type} (subentries : List (StoredSubentry Id)) : Prop :=
  subentries.Pairwise fun subentry other =>
    ∀ uniqueId, subentry.uniqueId = some uniqueId → other.uniqueId ≠ some uniqueId

/-- A subentry with a change. -/
def StoredSubentry.change {Id : Type} (subentry : StoredSubentry Id)
    (change : UnitSubentry → UnitSubentry) : StoredSubentry Id :=
  { change subentry.toUnitSubentry with id := subentry.id }

/-- **What is documented of the calls**: each does what it says if its subentry exists and no
other one has the unique id it sets. -/
structure SubentryApi.Documented {Id Store : Type} [DecidableEq Id]
    (api : SubentryApi Id Store) : Prop where
  ids : ∀ s, ((api.subentries s).map (·.id)).Nodup
  remove : ∀ s, ∀ subentry ∈ api.subentries s, ∃ t, api.removeSubentry s subentry.id = some t ∧
    api.subentries t = (api.subentries s).filter (·.id ≠ subentry.id)
  update : ∀ s change, ∀ subentry ∈ api.subentries s,
    (∀ other ∈ api.subentries s, other.id ≠ subentry.id →
      ∀ uniqueId ∈ (change subentry.toUnitSubentry).uniqueId, other.uniqueId ≠ some uniqueId) →
    ∃ t, api.updateSubentry s subentry.id change = some t ∧ api.subentries t =
      (api.subentries s).map fun other =>
        if other.id = subentry.id then other.change change else other
  add : ∀ s new, (∀ other ∈ api.subentries s,
      ∀ uniqueId ∈ new.uniqueId, other.uniqueId ≠ some uniqueId) →
    ∃ t id, api.addSubentry s new = some t ∧
      api.subentries t = api.subentries s ++ [{ new with id := id }]

/-! ### The operations of a rescan -/

/-- A call for one subentry. -/
inductive SubentryOperation (Id : Type) where
  | remove (id : Id)
  | update (id : Id) (change : UnitSubentry → UnitSubentry)
  | add (new : UnitSubentry)

/-- One call. -/
def SubentryApi.perform {Id Store : Type} (api : SubentryApi Id Store) (s : Store) :
    SubentryOperation Id → Option Store
  | .remove id => api.removeSubentry s id
  | .update id change => api.updateSubentry s id change
  | .add new => api.addSubentry s new

section Operations

variable {Id : Type}

/-- `unit_subentries`: the subentries by address. -/
def unitSubentries (subentries : List (StoredSubentry Id)) : List (StoredSubentry Id) :=
  subentries.mergeSort fun subentry other => subentry.room.slave ≤ other.room.slave

/-- The subentries that the rooms take out of the dictionary by key, one after the other, and
those that are left. -/
def popStored : List UnitRoom → List (StoredSubentry Id) →
    List (Option (StoredSubentry Id) × UnitRoom) × List (StoredSubentry Id)
  | [], subentries => ([], subentries)
  | room :: rooms, subentries =>
    let rest := popStored rooms (subentries.filter (·.room.key ≠ room.key))
    ((subentries.find? (·.room.key = room.key), room) :: rest.1, rest.2)

/-- The release of a unique id that changes, if it is one. -/
def releaseOperation (kept : Option (StoredSubentry Id) × UnitRoom) :
    Option (SubentryOperation Id) :=
  kept.1.bind fun subentry =>
    if subentry.uniqueId ≠ some (toString kept.2.slave) then
      some (.update subentry.id fun released => { released with uniqueId := none })
    else none

/-- A subentry is added for a room, or its own one updated. -/
def saveOperation (kept : Option (StoredSubentry Id) × UnitRoom) : SubentryOperation Id :=
  match kept.1 with
  | none => .add ⟨kept.2, some (toString kept.2.slave)⟩
  | some subentry => .update subentry.id (·.updatedBy kept.2)

/-- **The operations of `_async_save_profiles`**, in order. -/
def saveOperations (rooms : List UnitRoom) (subentries : List (StoredSubentry Id)) :
    List (SubentryOperation Id) :=
  let (kept, stale) := popStored rooms (unitSubentries subentries)
  stale.map (fun subentry => .remove subentry.id) ++ kept.filterMap releaseOperation ++
    kept.map saveOperation

end Operations

/-! ### Taking the subentries out by key -/

section Pop

variable {Id : Type} {rooms : List UnitRoom} {subentries : List (StoredSubentry Id)}

/-- **The subentry of each room is the one with its key**, and those left have the key of no
room. -/
theorem popStored_eq (hrooms : (rooms.map (·.key)).Nodup) : popStored rooms subentries =
    (rooms.map fun room => (subentries.find? (·.room.key = room.key), room),
      subentries.filter (·.room.key ∉ rooms.map (·.key))) := by
  induction rooms generalizing subentries with
  | nil => simp [popStored]
  | cons first rooms ih =>
    obtain ⟨hnot, hrooms⟩ := List.nodup_cons.mp hrooms
    rw [popStored, ih hrooms, List.map_cons]
    dsimp only
    rw [Prod.mk.injEq, List.cons.injEq]
    refine ⟨⟨rfl, List.map_congr_left fun room hroom => ?_⟩, ?_⟩
    · -- No later room has the key of the first one.
      have hne : room.key ≠ first.key := fun heq =>
        hnot (List.mem_map.mpr ⟨room, hroom, heq⟩)
      have hsame : (fun subentry : StoredSubentry Id =>
          decide (decide (subentry.room.key ≠ first.key) = true ∧
            decide (subentry.room.key = room.key) = true)) =
              fun subentry => decide (subentry.room.key = room.key) := by
        funext subentry
        by_cases hkey : subentry.room.key = room.key
        · simp [hkey, hne]
        · simp [hkey]
      rw [List.find?_filter, hsame]
    · rw [List.filter_filter]
      refine List.filter_congr fun subentry _ => Bool.eq_iff_iff.mpr ?_
      rw [Bool.and_eq_true, decide_eq_true_iff, decide_eq_true_iff, decide_eq_true_iff,
        List.map_cons, List.mem_cons, not_or, and_comm]

/-- The subentry of a room. -/
theorem mem_of_find {subentry : StoredSubentry Id} {room : UnitRoom}
    (h : subentries.find? (·.room.key = room.key) = some subentry) :
    subentry ∈ subentries ∧ subentry.room.key = room.key :=
  ⟨List.mem_of_find?_eq_some h, by simpa using List.find?_some h⟩

/-- Without the ids, these are the subentries that `saveProfiles` takes out. -/
theorem popStored_toUnitSubentry (rooms : List UnitRoom) (subentries : List (StoredSubentry Id)) :
    popSubentries rooms (subentries.map (·.toUnitSubentry)) =
      ((popStored rooms subentries).1.map fun pair => (pair.1.map (·.toUnitSubentry), pair.2),
        (popStored rooms subentries).2.map (·.toUnitSubentry)) := by
  induction rooms generalizing subentries with
  | nil => rfl
  | cons room rooms ih =>
    rw [popSubentries, popStored, List.filter_map, List.find?_map]
    dsimp only [Function.comp_def]
    rw [ih, List.map_cons]

/-- **The operations are those of `saveProfiles`**: the subentries that are removed, the ones that
are updated and the units that are added are the same. -/
theorem saveProfiles_popStored (slaves : List ℕ) (selectedProfiles : ℕ → Profile)
    (probes : List (ℕ × UnitProbeResult)) (subentries : List (StoredSubentry Id)) :
    let plain := subentries.map (·.toUnitSubentry)
    let popped := popStored (buildRoomsFromProfiles slaves selectedProfiles probes
      (rescannedRooms slaves probes plain)) subentries
    saveProfiles slaves selectedProfiles probes plain =
      { removed := popped.2.map (·.toUnitSubentry)
        updated := popped.1.filterMap fun kept => kept.1.map fun subentry =>
          (subentry.toUnitSubentry, (subentry.change (·.updatedBy kept.2)).toUnitSubentry)
        added := popped.1.filterMap fun kept =>
          if kept.1.isNone then some ⟨kept.2, some (toString kept.2.slave)⟩ else none } := by
  intro plain popped
  rw [saveProfiles, popStored_toUnitSubentry]
  simp only [List.filterMap_map, Function.comp_def, Option.map_map, Option.isNone_map]
  rfl

end Pop

/-! ### What each phase leaves -/

section Phases

variable {Id Store : Type} [DecidableEq Id] {api : SubentryApi Id Store} {s : Store}
  {rooms : List UnitRoom}

/-- The first phase removes the stale subentries. -/
theorem replays_remove (hapi : api.Documented) {stale : List (StoredSubentry Id)}
    (hids : (stale.map (·.id)).Nodup) (hmem : ∀ subentry ∈ stale, subentry ∈ api.subentries s)
    (hdistinct : DistinctIds (api.subentries s)) :
    Replays api.perform (fun t => DistinctIds (api.subentries t))
      (stale.map fun subentry => .remove subentry.id)
      (fun t => api.subentries t =
        (api.subentries s).filter (·.id ∉ stale.map (·.id))) s := by
  induction stale generalizing s with
  | nil => exact ⟨hdistinct, by simp⟩
  | cons first stale ih =>
    obtain ⟨hnot, hids⟩ := List.nodup_cons.mp hids
    obtain ⟨t, ht, hsubentries⟩ := hapi.remove s first (hmem first List.mem_cons_self)
    have hstill : ∀ subentry ∈ stale, subentry ∈ api.subentries t := by
      intro subentry hsub
      rw [hsubentries]
      refine List.mem_filter.mpr ⟨hmem subentry (List.mem_cons_of_mem _ hsub), ?_⟩
      rw [decide_eq_true_iff]
      exact fun heq => hnot (List.mem_map.mpr ⟨subentry, hsub, heq⟩)
    have hdistinct' : DistinctIds (api.subentries t) := by
      rw [hsubentries]
      exact List.Pairwise.filter _ hdistinct
    refine ⟨hdistinct, t, ht, (ih hids hstill hdistinct').mono fun u hu => ?_⟩
    rw [hu, hsubentries, List.filter_filter]
    refine List.filter_congr fun subentry _ => Bool.eq_iff_iff.mpr ?_
    rw [Bool.and_eq_true, decide_eq_true_iff, decide_eq_true_iff, decide_eq_true_iff,
      List.map_cons, List.mem_cons, not_or, and_comm]

/-! ### Releasing the unique ids that change -/

/-- A subentry without its unique id. -/
def StoredSubentry.released (subentry : StoredSubentry Id) : StoredSubentry Id :=
  subentry.change fun released => { released with uniqueId := none }

/-- The subentries of the second phase: those with one of the ids are released. -/
def releaseAll (ids : List Id) (subentries : List (StoredSubentry Id)) :
    List (StoredSubentry Id) :=
  subentries.map fun subentry => if subentry.id ∈ ids then subentry.released else subentry

/-- Fewer unique ids are distinct if all were. -/
theorem DistinctIds.releaseAll {subentries : List (StoredSubentry Id)}
    (h : DistinctIds subentries) (ids : List Id) :
    DistinctIds (MeltemVentilation.releaseAll ids subentries) := by
  have hkept : ∀ (subentry : StoredSubentry Id) uniqueId,
      (if subentry.id ∈ ids then subentry.released else subentry).uniqueId = some uniqueId →
        subentry.uniqueId = some uniqueId := by
    intro subentry uniqueId huid
    split at huid
    · cases huid
    · exact huid
  refine List.pairwise_map.mpr (h.imp fun {a b} hab uniqueId ha hb => ?_)
  exact hab uniqueId (hkept a uniqueId ha) (hkept b uniqueId hb)

/-- The second phase releases subentries with distinct ids. -/
theorem replays_release (hapi : api.Documented) {ids : List Id}
    (hmem : ∀ id ∈ ids, id ∈ (api.subentries s).map (·.id))
    (hdistinct : DistinctIds (api.subentries s)) :
    Replays api.perform (fun t => DistinctIds (api.subentries t))
      (ids.map fun id => .update id fun released => { released with uniqueId := none })
      (fun t => api.subentries t = releaseAll ids (api.subentries s)) s := by
  -- Releasing one subentry keeps every id, so the rest are still there to be released.
  induction ids generalizing s with
  | nil => exact ⟨hdistinct, by simp [releaseAll]⟩
  | cons first ids ih =>
    obtain ⟨subentry, hsub, rfl⟩ := List.mem_map.mp (hmem _ List.mem_cons_self)
    obtain ⟨t, ht, hsubentries⟩ := hapi.update s
      (fun released => { released with uniqueId := none }) subentry hsub (by rintro _ _ _ _ ⟨⟩)
    have hstep : api.subentries t = releaseAll [subentry.id] (api.subentries s) := by
      rw [hsubentries]
      simp [releaseAll, StoredSubentry.released]
    have hids : (api.subentries t).map (·.id) = (api.subentries s).map (·.id) := by
      rw [hstep, releaseAll, List.map_map]
      refine List.map_congr_left fun other _ => ?_
      simp only [Function.comp_apply]
      split <;> rfl
    refine ⟨hdistinct, t, ht, (ih ?_ ?_).mono fun u hu => ?_⟩
    · intro id hid
      rw [hids]
      exact hmem id (List.mem_cons_of_mem _ hid)
    · rw [hstep]
      exact hdistinct.releaseAll _
    · rw [hu, hstep, releaseAll, releaseAll, releaseAll, List.map_map]
      refine List.map_congr_left fun other _ => ?_
      simp only [Function.comp_apply, List.mem_cons]
      by_cases hfirst : other.id = subentry.id
      · simp [hfirst, StoredSubentry.released, StoredSubentry.change]
      · simp [hfirst]

/-! ### Adding and updating -/

/-- The subentries of the third phase: distinct keys, each the key of a room, whose address is
the unique id if there is one. -/
structure Placed (rooms : List UnitRoom) (subentries : List (StoredSubentry Id)) : Prop where
  keys : (subentries.map (·.room.key)).Nodup
  placed : ∀ subentry ∈ subentries, ∃ room ∈ rooms, subentry.room.key = room.key ∧
    ∀ uniqueId ∈ subentry.uniqueId, uniqueId = toString room.slave

/-- The subentry of a room is saved. -/
def Saved (subentries : List (StoredSubentry Id)) (room : UnitRoom) : Prop :=
  ∃ subentry ∈ subentries, subentry.uniqueId = some (toString room.slave) ∧
    unitData subentry.room = unitData room

/-- An address has one text. -/
theorem toString_slave_inj {a b : ℕ} (h : toString a = toString b) : a = b :=
  (toString_append_inj (by simp) (by simp) (congrArg (·.toList ++ []) h)).1

omit [DecidableEq Id] in
/-- **Placed subentries have distinct unique ids**: two with the same would be those of one
room. -/
theorem Placed.distinct {subentries : List (StoredSubentry Id)} (h : Placed rooms subentries)
    (hslaves : (rooms.map (·.slave)).Nodup) : DistinctIds subentries := by
  refine (List.pairwise_map.mp h.keys).imp_of_mem fun {a b} ha hb hne uniqueId huid huid' => ?_
  obtain ⟨room, hroom, hkey, haddress⟩ := h.placed a ha
  obtain ⟨room', hroom', hkey', haddress'⟩ := h.placed b hb
  have hslave : room.slave = room'.slave :=
    toString_slave_inj ((haddress uniqueId huid).symm.trans (haddress' uniqueId huid'))
  obtain rfl := List.inj_on_of_nodup_map hslaves hroom hroom' hslave
  exact hne (hkey.trans hkey'.symm)

/-- What is known of a room before its operation: its subentry is there, or none has its
key. -/
def Pending (subentries : List (StoredSubentry Id)) :
    Option (StoredSubentry Id) × UnitRoom → Prop
  | (none, room) => ∀ subentry ∈ subentries, subentry.room.key ≠ room.key
  | (some found, room) =>
    ∃ subentry ∈ subentries, subentry.id = found.id ∧ subentry.room.key = room.key

/-- What one operation of the third phase leaves. -/
structure SavedOne (rooms : List UnitRoom) (room : UnitRoom)
    (before after : List (StoredSubentry Id)) : Prop where
  placed : Placed rooms after
  saved : Saved after room
  kept : ∀ other : UnitRoom, other.key ≠ room.key → Saved before other → Saved after other
  pending : ∀ kept, kept.2.key ≠ room.key → Pending before kept → Pending after kept

omit [DecidableEq Id] in
/-- **An addition** puts a room without a subentry in its place. -/
theorem savedOne_add {subentries : List (StoredSubentry Id)} {room : UnitRoom} {id : Id}
    (h : Placed rooms subentries) (hroom : room ∈ rooms)
    (hnone : ∀ subentry ∈ subentries, subentry.room.key ≠ room.key) :
    SavedOne rooms room subentries
      (subentries ++ [{ room := room, uniqueId := some (toString room.slave), id := id }]) where
  placed := by
    refine ⟨?_, fun subentry hmem => ?_⟩
    · rw [List.map_append, List.nodup_append]
      refine ⟨h.keys, by simp, ?_⟩
      rintro key hkey _ hnew rfl
      obtain ⟨subentry, hsub, rfl⟩ := List.mem_map.mp hkey
      exact hnone subentry hsub (by simpa using hnew)
    · rcases List.mem_append.mp hmem with hold | hnew
      · exact h.placed subentry hold
      · obtain rfl := List.mem_singleton.mp hnew
        exact ⟨room, hroom, rfl, by rintro _ ⟨⟩; rfl⟩
  saved := ⟨_, List.mem_append_right _ List.mem_cons_self, rfl, rfl⟩
  kept other _ hsaved := by
    obtain ⟨subentry, hsub, hsame⟩ := hsaved
    exact ⟨subentry, List.mem_append_left _ hsub, hsame⟩
  pending := by
    rintro ⟨_ | found, other⟩ hne hpending
    · intro subentry hmem
      rcases List.mem_append.mp hmem with hold | hnew
      · exact hpending subentry hold
      · obtain rfl := List.mem_singleton.mp hnew
        exact fun heq => hne heq.symm
    · obtain ⟨subentry, hsub, hsame⟩ := hpending
      exact ⟨subentry, List.mem_append_left _ hsub, hsame⟩

/-- **An update** puts the subentry of a room in its place. -/
theorem savedOne_update {subentries : List (StoredSubentry Id)} {room : UnitRoom}
    {subentry : StoredSubentry Id} (h : Placed rooms subentries) (hroom : room ∈ rooms)
    (hids : (subentries.map (·.id)).Nodup) (hmem : subentry ∈ subentries)
    (hkey : subentry.room.key = room.key) :
    SavedOne rooms room subentries (subentries.map fun other =>
      if other.id = subentry.id then other.change (·.updatedBy room) else other) := by
  have hsame : ∀ other ∈ subentries, other.id = subentry.id → other = subentry :=
    fun other hother heq => List.inj_on_of_nodup_map hids hother hmem heq
  have hother : ∀ other ∈ subentries, other.room.key ≠ room.key → other ∈ subentries.map
      fun other => if other.id = subentry.id then other.change (·.updatedBy room) else other := by
    intro other hin hne
    refine List.mem_map.mpr ⟨other, hin, if_neg fun heq => hne ?_⟩
    rw [hsame other hin heq, hkey]
  refine ⟨⟨?_, ?_⟩, ?_, ?_, ?_⟩
  · have hkeys : (subentries.map fun other => if other.id = subentry.id then
        other.change (·.updatedBy room) else other).map (·.room.key) =
          subentries.map (·.room.key) := by
      rw [List.map_map]
      refine List.map_congr_left fun other hin => ?_
      simp only [Function.comp_apply]
      split
      · rw [hsame other hin ‹_›, hkey]
        rfl
      · rfl
    rw [hkeys]
    exact h.keys
  · intro other hin
    obtain ⟨before, hbefore, rfl⟩ := List.mem_map.mp hin
    split
    · exact ⟨room, hroom, rfl, by rintro _ ⟨⟩; rfl⟩
    · exact h.placed before hbefore
  · exact ⟨_, List.mem_map.mpr ⟨subentry, hmem, if_pos rfl⟩, rfl, rfl⟩
  · rintro other hne ⟨found, hfound, huid, hdata⟩
    have hfoundKey : found.room.key = other.key := congrArg UnitData.key hdata
    exact ⟨found, hother found hfound (hfoundKey ▸ hne), huid, hdata⟩
  · rintro ⟨_ | found, other⟩ hne hpending
    · intro after hin
      obtain ⟨before, hbefore, rfl⟩ := List.mem_map.mp hin
      split
      · exact fun heq => hne heq.symm
      · exact hpending before hbefore
    · obtain ⟨before, hbefore, hid, hbeforeKey⟩ := hpending
      exact ⟨before, hother before hbefore (hbeforeKey ▸ hne), hid, hbeforeKey⟩

/-- **One operation of the third phase** succeeds, and leaves its room saved. -/
theorem exists_savedOne (hapi : api.Documented) (hslaves : (rooms.map (·.slave)).Nodup)
    {kept : Option (StoredSubentry Id) × UnitRoom} (h : Placed rooms (api.subentries s))
    (hroom : kept.2 ∈ rooms) (hpending : Pending (api.subentries s) kept) :
    ∃ t, api.perform s (saveOperation kept) = some t ∧
      SavedOne rooms kept.2 (api.subentries s) (api.subentries t) := by
  -- The unique id is that of no other subentry, which would have the key of the room.
  have hfree : ∀ other ∈ api.subentries s, other.room.key ≠ kept.2.key →
      other.uniqueId ≠ some (toString kept.2.slave) := by
    intro other hother hne huid
    obtain ⟨room, hin, hkey, haddress⟩ := h.placed other hother
    have hslave : kept.2.slave = room.slave := toString_slave_inj (haddress _ huid)
    rw [List.inj_on_of_nodup_map hslaves hroom hin hslave] at hne
    exact hne hkey
  obtain ⟨_ | found, room⟩ := kept
  · obtain ⟨t, id, ht, hsubentries⟩ := hapi.add s ⟨room, some (toString room.slave)⟩ (by
      rintro other hother _ ⟨⟩
      exact hfree other hother (hpending other hother))
    refine ⟨t, ht, ?_⟩
    rw [hsubentries]
    exact savedOne_add h hroom hpending
  · obtain ⟨subentry, hmem, hid, hkey⟩ := hpending
    obtain ⟨t, ht, hsubentries⟩ := hapi.update s (·.updatedBy room) subentry hmem (by
      rintro other hother hne _ ⟨⟩
      refine hfree other hother fun heq => hne ?_
      rw [List.inj_on_of_nodup_map h.keys hother hmem (heq.trans hkey.symm)])
    refine ⟨t, by rw [← ht, hid]; rfl, ?_⟩
    rw [hsubentries]
    exact savedOne_update h hroom (hapi.ids s) hmem hkey

/-- **The third phase** adds or updates the subentry of each room. -/
theorem replays_save (hapi : api.Documented) (hslaves : (rooms.map (·.slave)).Nodup)
    {kept : List (Option (StoredSubentry Id) × UnitRoom)} (h : Placed rooms (api.subentries s))
    (hrooms : ∀ pair ∈ kept, pair.2 ∈ rooms) (hkeys : (kept.map (·.2.key)).Nodup)
    (hpending : ∀ pair ∈ kept, Pending (api.subentries s) pair) :
    Replays api.perform (fun t => DistinctIds (api.subentries t)) (kept.map saveOperation)
      (fun t => Placed rooms (api.subentries t) ∧
        (∀ room, room.key ∉ kept.map (·.2.key) → Saved (api.subentries s) room →
          Saved (api.subentries t) room) ∧
        ∀ pair ∈ kept, Saved (api.subentries t) pair.2) s := by
  induction kept generalizing s with
  | nil => exact ⟨h.distinct hslaves, h, fun _ _ hsaved => hsaved, by rintro _ ⟨⟩⟩
  | cons first kept ih =>
    obtain ⟨hnot, hkeys⟩ := List.nodup_cons.mp hkeys
    obtain ⟨t, ht, hone⟩ := exists_savedOne hapi hslaves h (hrooms first List.mem_cons_self)
      (hpending first List.mem_cons_self)
    have hne : ∀ pair ∈ kept, pair.2.key ≠ first.2.key := fun pair hpair heq =>
      hnot (List.mem_map.mpr ⟨pair, hpair, heq⟩)
    refine ⟨h.distinct hslaves, t, ht, ?_⟩
    refine (ih hone.placed (fun pair hpair => hrooms pair (List.mem_cons_of_mem _ hpair)) hkeys
      fun pair hpair => hone.pending pair (hne pair hpair)
        (hpending pair (List.mem_cons_of_mem _ hpair))).mono ?_
    rintro u ⟨hplaced, hkeptSaved, hsaved⟩
    refine ⟨hplaced, fun room hroom hbefore => ?_, fun pair hpair => ?_⟩
    · rw [List.map_cons, List.mem_cons, not_or] at hroom
      exact hkeptSaved room hroom.2 (hone.kept room hroom.1 hbefore)
    · rcases List.mem_cons.mp hpair with rfl | hpair
      · exact hkeptSaved _ hnot hone.saved
      · exact hsaved pair hpair

/-! ### Where the second phase starts, and the third -/

/-- The ids of the kept subentries whose unique id changes. -/
def releasedIds (kept : List (Option (StoredSubentry Id) × UnitRoom)) : List Id :=
  kept.filterMap fun pair => pair.1.bind fun subentry =>
    if subentry.uniqueId ≠ some (toString pair.2.slave) then some subentry.id else none

omit [DecidableEq Id] in
theorem filterMap_releaseOperation (kept : List (Option (StoredSubentry Id) × UnitRoom)) :
    kept.filterMap releaseOperation = (releasedIds kept).map fun id =>
      .update id fun released => { released with uniqueId := none } := by
  rw [releasedIds, List.map_filterMap]
  refine List.filterMap_congr fun pair _ => ?_
  obtain ⟨_ | subentry, room⟩ := pair
  · rfl
  · simp only [releaseOperation, Option.bind_some]
    split <;> rfl

omit [DecidableEq Id] in
theorem mem_releasedIds {kept : List (Option (StoredSubentry Id) × UnitRoom)}
    {subentry : StoredSubentry Id} {room : UnitRoom} (h : (some subentry, room) ∈ kept)
    (hne : subentry.uniqueId ≠ some (toString room.slave)) : subentry.id ∈ releasedIds kept :=
  List.mem_filterMap.mpr ⟨_, h, by rw [Option.bind_some, if_pos hne]⟩

theorem map_key_releaseAll (ids : List Id) (subentries : List (StoredSubentry Id)) :
    (releaseAll ids subentries).map (·.room.key) = subentries.map (·.room.key) := by
  rw [releaseAll, List.map_map]
  refine List.map_congr_left fun subentry _ => ?_
  simp only [Function.comp_apply]
  split <;> rfl

/-- The subentry of each room in a list. -/
def keptIn (subentries : List (StoredSubentry Id)) (rooms : List UnitRoom) :
    List (Option (StoredSubentry Id) × UnitRoom) :=
  rooms.map fun room => (subentries.find? (·.room.key = room.key), room)

section Released

variable {stored sorted remaining : List (StoredSubentry Id)}

omit [DecidableEq Id] in
/-- A stored subentry is the one kept of the room with its key. -/
theorem mem_keptIn (hkeys : (stored.map (·.room.key)).Nodup) (hsorted : sorted.Perm stored)
    {subentry : StoredSubentry Id} (hmem : subentry ∈ stored) {room : UnitRoom}
    (hroom : room ∈ rooms) (hkey : subentry.room.key = room.key) :
    (some subentry, room) ∈ keptIn sorted rooms := by
  refine List.mem_map.mpr ⟨room, hroom, ?_⟩
  obtain ⟨found, hfound⟩ : ∃ found, sorted.find? (·.room.key = room.key) = some found :=
    Option.isSome_iff_exists.mp (List.find?_isSome.mpr
      ⟨subentry, hsorted.mem_iff.mpr hmem, decide_eq_true hkey⟩)
  obtain ⟨hin, hfoundKey⟩ := mem_of_find hfound
  rw [hfound, List.inj_on_of_nodup_map hkeys (hsorted.mem_iff.mp hin) hmem
    (hfoundKey.trans hkey.symm)]

/-- **The second phase leaves placed subentries**: what has another unique id than its new
address has been released. -/
theorem placed_releaseAll (hkeys : (stored.map (·.room.key)).Nodup)
    (hsorted : sorted.Perm stored)
    (hremaining : remaining = stored.filter (·.room.key ∈ rooms.map (·.key))) :
    Placed rooms (releaseAll (releasedIds (keptIn sorted rooms)) remaining) := by
  subst hremaining
  refine ⟨?_, fun after hafter => ?_⟩
  · rw [map_key_releaseAll]
    exact hkeys.sublist (List.filter_sublist.map _)
  · obtain ⟨subentry, hsub, rfl⟩ := List.mem_map.mp hafter
    obtain ⟨hmem, hhas⟩ := List.mem_filter.mp hsub
    obtain ⟨room, hroom, hkey⟩ := List.mem_map.mp (of_decide_eq_true hhas)
    refine ⟨room, hroom, by split <;> exact hkey.symm, fun uniqueId huid => ?_⟩
    split at huid
    · cases huid
    · rename_i hnot
      by_contra hne
      refine hnot (mem_releasedIds (mem_keptIn hkeys hsorted hmem hroom hkey.symm) ?_)
      rw [show subentry.uniqueId = some uniqueId from huid]
      exact fun heq => hne (Option.some.inj heq)

/-- What is kept of a room is there when the third phase starts. -/
theorem pending_releaseAll (hsorted : sorted.Perm stored) {ids : List Id}
    (hremaining : remaining = stored.filter (·.room.key ∈ rooms.map (·.key)))
    {pair : Option (StoredSubentry Id) × UnitRoom} (hpair : pair ∈ keptIn sorted rooms) :
    Pending (releaseAll ids remaining) pair := by
  subst hremaining
  obtain ⟨room, hroom, rfl⟩ := List.mem_map.mp hpair
  cases hfind : sorted.find? (·.room.key = room.key) with
  | none =>
    intro after hafter
    obtain ⟨subentry, hsub, rfl⟩ := List.mem_map.mp hafter
    have hmem := hsorted.mem_iff.mpr (List.mem_filter.mp hsub).1
    have hne : subentry.room.key ≠ room.key := by
      simpa using List.find?_eq_none.mp hfind subentry hmem
    split <;> exact hne
  | some found =>
    obtain ⟨hin, hkey⟩ := mem_of_find hfind
    have hkept : found ∈ stored.filter (·.room.key ∈ rooms.map (·.key)) :=
      List.mem_filter.mpr ⟨hsorted.mem_iff.mp hin,
        decide_eq_true (List.mem_map.mpr ⟨room, hroom, hkey.symm⟩)⟩
    refine ⟨_, List.mem_map.mpr ⟨found, hkept, rfl⟩, ?_, ?_⟩ <;> split <;> first | rfl | exact hkey

end Released

/-! ### All operations -/

/-- What is stored of a subentry: its unique id and its data. -/
def storedData (subentry : StoredSubentry Id) : Option String × UnitData :=
  (subentry.uniqueId, unitData subentry.room)

omit [DecidableEq Id] in
/-- Placed subentries of which each room has one are those of the rooms. -/
theorem Placed.perm {subentries : List (StoredSubentry Id)} (h : Placed rooms subentries)
    (hkeys : (rooms.map (·.key)).Nodup) (hsaved : ∀ room ∈ rooms, Saved subentries room) :
    (subentries.map storedData).Perm
      (rooms.map fun room => (some (toString room.slave), unitData room)) := by
  have hnodup : (subentries.map storedData).Nodup :=
    List.Nodup.of_map (fun data => data.2.key) (by rw [List.map_map]; exact h.keys)
  have hnodupRooms : (rooms.map fun room => (some (toString room.slave), unitData room)).Nodup :=
    List.Nodup.of_map (fun data => data.2.key) (by rw [List.map_map]; exact hkeys)
  refine (List.perm_ext_iff_of_nodup hnodup hnodupRooms).mpr fun data => ?_
  constructor
  · intro hdata
    obtain ⟨subentry, hsub, rfl⟩ := List.mem_map.mp hdata
    obtain ⟨room, hroom, hkey, -⟩ := h.placed subentry hsub
    obtain ⟨found, hfound, huid, hsame⟩ := hsaved room hroom
    have hfoundKey : found.room.key = room.key := congrArg UnitData.key hsame
    obtain rfl := List.inj_on_of_nodup_map h.keys hfound hsub (hfoundKey.trans hkey.symm)
    exact List.mem_map.mpr ⟨room, hroom, by rw [storedData, huid, hsame]⟩
  · intro hdata
    obtain ⟨room, hroom, rfl⟩ := List.mem_map.mp hdata
    obtain ⟨found, hfound, huid, hsame⟩ := hsaved room hroom
    exact List.mem_map.mpr ⟨found, hfound, by rw [storedData, huid, hsame]⟩

/-- The three phases, one after the other. -/
theorem replays_saveOperations (hapi : api.Documented)
    (hkeys : ((api.subentries s).map (·.room.key)).Nodup)
    (hdistinct : DistinctIds (api.subentries s)) (hrooms : (rooms.map (·.key)).Nodup)
    (hslaves : (rooms.map (·.slave)).Nodup) :
    Replays api.perform (fun t => DistinctIds (api.subentries t))
      (saveOperations rooms (api.subentries s))
      (fun t => ((api.subentries t).map storedData).Perm
        (rooms.map fun room => (some (toString room.slave), unitData room))) s := by
  have hsorted : (unitSubentries (api.subentries s)).Perm (api.subentries s) :=
    List.mergeSort_perm _ _
  set sorted := unitSubentries (api.subentries s) with hsortedDef
  have hoperations : saveOperations rooms (api.subentries s) =
      (sorted.filter (·.room.key ∉ rooms.map (·.key))).map (fun subentry => .remove subentry.id) ++
        (keptIn sorted rooms).filterMap releaseOperation ++
          (keptIn sorted rooms).map saveOperation := by
    rw [saveOperations, ← hsortedDef, popStored_eq hrooms]
    rfl
  set stale := sorted.filter (·.room.key ∉ rooms.map (·.key))
  rw [hoperations, filterMap_releaseOperation, List.append_assoc]
  -- The first phase leaves the subentries with the key of a room.
  have hstaleMem : ∀ subentry ∈ stale, subentry ∈ api.subentries s := fun subentry hsub =>
    hsorted.mem_iff.mp (List.mem_filter.mp hsub).1
  have hstaleIds : (stale.map (·.id)).Nodup :=
    ((hsorted.map _).nodup_iff.mpr (hapi.ids s)).sublist (List.filter_sublist.map _)
  have hstale : (api.subentries s).filter (·.id ∉ stale.map (·.id)) =
      (api.subentries s).filter (·.room.key ∈ rooms.map (·.key)) := by
    refine List.filter_congr fun subentry hsub => Bool.eq_iff_iff.mpr ?_
    rw [decide_eq_true_iff, decide_eq_true_iff]
    constructor
    · intro hnot
      by_contra hkey
      exact hnot (List.mem_map.mpr ⟨subentry, List.mem_filter.mpr
        ⟨hsorted.mem_iff.mpr hsub, decide_eq_true hkey⟩, rfl⟩)
    · intro hkey hin
      obtain ⟨other, hother, hid⟩ := List.mem_map.mp hin
      obtain rfl := List.inj_on_of_nodup_map (hapi.ids s) (hstaleMem other hother) hsub hid
      exact of_decide_eq_true (List.mem_filter.mp hother).2 hkey
  refine (replays_remove hapi hstaleIds hstaleMem hdistinct).append fun t ht => ?_
  rw [hstale] at ht
  -- The second phase releases the unique ids that change.
  have hdistinctRemaining : DistinctIds (api.subentries t) := by
    rw [ht]
    exact List.Pairwise.filter _ hdistinct
  have hids : ∀ id ∈ releasedIds (keptIn sorted rooms),
      id ∈ (api.subentries t).map (·.id) := by
    intro id hid
    obtain ⟨pair, hpair, hreleased⟩ := List.mem_filterMap.mp hid
    obtain ⟨room, hroom, rfl⟩ := List.mem_map.mp hpair
    obtain ⟨subentry, hfind, hsome⟩ := Option.bind_eq_some_iff.mp hreleased
    obtain ⟨hin, hkey⟩ := mem_of_find hfind
    obtain rfl : subentry.id = id := by
      split at hsome
      · exact Option.some.inj hsome
      · cases hsome
    refine List.mem_map.mpr ⟨subentry, ?_, rfl⟩
    rw [ht]
    exact List.mem_filter.mpr ⟨hsorted.mem_iff.mp hin,
      decide_eq_true (List.mem_map.mpr ⟨room, hroom, hkey.symm⟩)⟩
  refine (replays_release hapi hids hdistinctRemaining).append fun u hu => ?_
  -- The third phase saves the rooms.
  have hkept : (keptIn sorted rooms).map (·.2) = rooms := by
    rw [keptIn, List.map_map]
    exact List.map_id _
  have hkeptKeys : (keptIn sorted rooms).map (·.2.key) = rooms.map (·.key) := by
    conv_rhs => rw [← hkept, List.map_map]
    rfl
  have hplaced : Placed rooms (api.subentries u) := by
    rw [hu]
    exact placed_releaseAll hkeys hsorted ht
  have hkeptRooms : ∀ pair ∈ keptIn sorted rooms, pair.2 ∈ rooms := by
    intro pair hpair
    rw [← hkept]
    exact List.mem_map_of_mem hpair
  have hpending : ∀ pair ∈ keptIn sorted rooms, Pending (api.subentries u) pair := by
    intro pair hpair
    rw [hu]
    exact pending_releaseAll hsorted ht hpair
  refine (replays_save hapi hslaves hplaced hkeptRooms (hkeptKeys ▸ hrooms) hpending).mono ?_
  rintro v ⟨hplacedEnd, -, hsaved⟩
  refine hplacedEnd.perm hrooms fun room hroom => ?_
  rw [← hkept] at hroom
  obtain ⟨pair, hpair, rfl⟩ := List.mem_map.mp hroom
  exact hsaved pair hpair

end Phases

/-! ### A rescan -/

/-- **No operation of a rescan gives two units one unique id**, and in the end the subentries
are those of the rooms, each with its address as its unique id. -/
theorem saveOperations_distinct {Id Store : Type} [DecidableEq Id] {api : SubentryApi Id Store}
    (hapi : api.Documented) {s : Store} (hkeys : ((api.subentries s).map (·.room.key)).Nodup)
    (hdistinct : DistinctIds (api.subentries s)) {slaves : List ℕ} (hslaves : slaves.Nodup)
    (selectedProfiles : ℕ → Profile) (probes : List (ℕ × UnitProbeResult))
    (existing : List (ℕ × UnitRoom)) :
    let rooms := buildRoomsFromProfiles slaves selectedProfiles probes existing
    let operations := saveOperations rooms (api.subentries s)
    (∀ n, ∃ t, run api.perform (operations.take n) s = some t ∧
      DistinctIds (api.subentries t)) ∧
    ∃ t, run api.perform operations s = some t ∧
      ((api.subentries t).map fun subentry => (subentry.uniqueId, unitData subentry.room)).Perm
        (rooms.map fun room => (some (toString room.slave), unitData room)) := by
  intro rooms operations
  have hrooms : (rooms.map (·.key)).Nodup := nodup_map_key_buildRooms.1
  have hbuilt : (rooms.map (·.slave)).Nodup := by
    rw [show rooms.map (·.slave) = slaves from map_slave_buildRooms]
    exact hslaves
  have hreplays := replays_saveOperations hapi hkeys hdistinct hrooms hbuilt
  exact ⟨hreplays.take, hreplays.finish⟩

/-! ### A store that behaves as documented -/

/-- The subentries of an entry, with different ids. -/
def SubentryList : Type := { entries : List (StoredSubentry ℕ) // (entries.map (·.id)).Nodup }

namespace SubentryList

variable (s : SubentryList)

/-- Remove the subentry with an id. -/
def remove (id : ℕ) : SubentryList :=
  ⟨s.1.filter (·.id ≠ id), s.2.sublist (List.filter_sublist.map _)⟩

/-- Change the subentry with an id. -/
def update (id : ℕ) (change : UnitSubentry → UnitSubentry) : SubentryList :=
  ⟨s.1.map fun other => if other.id = id then other.change change else other, by
    have hids : (s.1.map fun other => if other.id = id then other.change change else other).map
        (·.id) = s.1.map (·.id) := by
      rw [List.map_map]
      refine List.map_congr_left fun other _ => ?_
      simp only [Function.comp_apply]
      split <;> rfl
    rw [hids]
    exact s.2⟩

/-- Add a subentry, with the first free number as its id. -/
def add (new : UnitSubentry) : SubentryList :=
  ⟨s.1 ++ [{ new with id := FirstFree.firstFree id (s.1.map (·.id)) }], by
    rw [List.map_append, List.nodup_append]
    refine ⟨s.2, by simp, ?_⟩
    rintro id hid _ hnew rfl
    obtain rfl := List.mem_singleton.mp hnew
    exact FirstFree.firstFree_notMem Function.injective_id _ hid⟩

/-- The calls: an update or an addition raises if another subentry has the unique id. -/
def api : SubentryApi ℕ SubentryList where
  subentries s := s.1
  removeSubentry s id := if id ∈ s.1.map (·.id) then some (s.remove id) else none
  updateSubentry s id change :=
    (s.1.find? (·.id = id)).bind fun subentry =>
      if ∃ other ∈ s.1, other.id ≠ id ∧ other.uniqueId.isSome ∧
        other.uniqueId = (change subentry.toUnitSubentry).uniqueId then none
      else some (s.update id change)
  addSubentry s new :=
    if ∃ other ∈ s.1, other.uniqueId.isSome ∧ other.uniqueId = new.uniqueId then none
    else some (s.add new)

theorem api_documented : api.Documented where
  ids s := s.2
  remove s subentry hmem :=
    ⟨s.remove subentry.id, if_pos (List.mem_map.mpr ⟨subentry, hmem, rfl⟩), rfl⟩
  update s change subentry hmem hfree := by
    obtain ⟨found, hfound⟩ : ∃ found, s.1.find? (·.id = subentry.id) = some found :=
      Option.isSome_iff_exists.mp (List.find?_isSome.mpr ⟨subentry, hmem, by simp⟩)
    obtain rfl : found = subentry := List.inj_on_of_nodup_map s.2
      (List.mem_of_find?_eq_some hfound) hmem (by simpa using List.find?_some hfound)
    refine ⟨s.update found.id change, ?_, rfl⟩
    simp only [api, hfound, Option.bind_some]
    refine if_neg ?_
    rintro ⟨other, hother, hne, hsome, hsame⟩
    obtain ⟨uniqueId, huid⟩ := Option.isSome_iff_exists.mp hsome
    exact hfree other hother hne uniqueId (hsame ▸ huid) huid
  add s new hfree := by
    refine ⟨s.add new, _, if_neg ?_, rfl⟩
    rintro ⟨other, hother, hsome, hsame⟩
    obtain ⟨uniqueId, huid⟩ := Option.isSome_iff_exists.mp hsome
    exact hfree other hother uniqueId (hsame ▸ huid) huid

end SubentryList

/-- A stored unit that is known by its setup code. -/
def codedUnit (id slave : ℕ) (code : String) : StoredSubentry ℕ where
  room := { storedRoom code slave with appSetupCode := some code }
  uniqueId := some (toString slave)
  id := id

/-- Two units. -/
def twoUnits : SubentryList := ⟨[codedUnit 0 2 "R0000AA", codedUnit 1 3 "R0000BB"], by decide⟩

/-- **Two units that have swapped their addresses**: each one is given the unique id that the
other one had. -/
theorem saveOperations_distinct_swapped :
    let rooms := buildRoomsFromProfiles [2, 3] (fun _ => .sFc)
      [(2, { appSetupCode := some "R0000BB" }), (3, { appSetupCode := some "R0000AA" })]
      (unitRooms (twoUnits.1.map (·.toUnitSubentry)))
    let operations := saveOperations rooms twoUnits.1
    rooms.map (fun room => (room.slave, room.key)) = [(2, "R0000BB"), (3, "R0000AA")] ∧
    (∀ n, ∃ t, run SubentryList.api.perform (operations.take n) twoUnits = some t ∧
      DistinctIds t.1) ∧
    ∃ t, run SubentryList.api.perform operations twoUnits = some t ∧
      (t.1.map fun subentry => (subentry.uniqueId, unitData subentry.room)).Perm
        (rooms.map fun room => (some (toString room.slave), unitData room)) := by
  refine ⟨by decide +kernel, ?_⟩
  have hdistinct : DistinctIds (SubentryList.api.subentries twoUnits) :=
    List.pairwise_pair.mpr (by rintro _ ⟨⟩; decide)
  exact saveOperations_distinct SubentryList.api_documented (by decide) hdistinct (by decide)
    (fun _ => .sFc) _ _

end MeltemVentilation
