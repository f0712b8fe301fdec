import MeltemVentilation.SubentryStore

/-!
# The units of a gateway over time

The units of a gateway are stored with its setup, and are changed one by one afterwards: a unit is
added or removed, or gets another profile, and a rescan saves the units that the gateway has by
then. What other parts of the integration rest on is that two stored units never have the same key,
by which their device and their entities are known, nor the same address, and that the address is
the unique id, by which Home Assistant refuses the same unit twice (`WellStored`).

`units_wellStored` says that this always holds, whatever is done to the units and in whatever
order, and that no call raises on the way. The steps of a form are far apart in time: a rescan may
save what it has matched to the units of long ago (`UnitChange.saveProfiles`), and a unit that is
added may have been added by another form meanwhile. `units_kept` says that what is done to some
units leaves the other ones alone.

The forms are left out. The subentries are kept by Home Assistant, as in `SubentryStore`.
-/

namespace MeltemVentilation

open Transition FirstFree

/-! ### Changes -/

/-- **`new_unit`**: a unit that is added to an existing gateway. -/
def newUnitRoom (slave : ℕ) (profile : Profile) (probe : Option UnitProbeResult)
    (existing : List UnitRoom) : UnitRoom where
  key := firstFree (suffixedKey (slaveKey slave)) (existing.map (·.key))
  name := defaultRoomName profile (probe.bind (·.appSetupCode)) (existing.map (·.name))
  slave := slave
  profile := profile
  preview := probe.bind (·.preview)
  productId := probe.bind (·.productId)
  appSetupCode := probe.bind (·.appSetupCode)
  nameIsDeviceName := true

/-- A change of the units. -/
inductive UnitChange (Id : Type) where
  /-- `_create_unit`. -/
  | addUnit (slave : ℕ) (profile : Profile) (probe : Option UnitProbeResult)
  /-- The end of `async_step_reconfigure`. -/
  | selectProfile (id : Id) (profile : Profile)
  /-- The user removes a unit. -/
  | removeUnit (id : Id)
  /-- `_async_save_profiles`, with the stored rooms that the form began with. -/
  | saveProfiles (slaves : List ℕ) (selectedProfiles : ℕ → Profile)
    (probes : List (ℕ × UnitProbeResult)) (existing : List (ℕ × UnitRoom))

namespace UnitChange

variable {Id : Type}

/-- What a change asks of the configuration entry; nothing if a unit is there already. -/
def operations (subentries : List (StoredSubentry Id)) :
    UnitChange Id → List (SubentryOperation Id)
  | addUnit slave profile probe =>
    let existing := unitRooms (subentries.map (·.toUnitSubentry))
    if slave ∈ existing.map Prod.fst then []
    else [.add ⟨newUnitRoom slave profile probe (existing.map Prod.snd), some (toString slave)⟩]
  | selectProfile id profile => [.update id fun subentry =>
      { subentry with room := { subentry.room with profile := profile } }]
  | removeUnit id => [.remove id]
  | saveProfiles slaves selectedProfiles probes existing =>
    saveOperations (buildRoomsFromProfiles slaves selectedProfiles probes existing) subentries

/-- A form is about a unit that is there, and a discovery finds no address twice. -/
def Possible (subentries : List (StoredSubentry Id)) : UnitChange Id → Prop
  | addUnit _ _ _ => True
  | selectProfile id _ => id ∈ subentries.map (·.id)
  | removeUnit id => id ∈ subentries.map (·.id)
  | saveProfiles slaves _ _ _ => slaves.Nodup

/-- The change is not about a unit. -/
def Leaves (id : Id) : UnitChange Id → Prop
  | addUnit _ _ _ => True
  | selectProfile _ _ => True
  | removeUnit other => other ≠ id
  | saveProfiles _ _ _ _ => False

instance : ∀ (subentries : List (StoredSubentry Id)) [DecidableEq Id] (change : UnitChange Id),
    Decidable (change.Possible subentries)
  | _, _, addUnit _ _ _ => .isTrue trivial
  | subentries, _, selectProfile id _ => inferInstanceAs (Decidable (id ∈ subentries.map (·.id)))
  | subentries, _, removeUnit id => inferInstanceAs (Decidable (id ∈ subentries.map (·.id)))
  | _, _, saveProfiles slaves _ _ _ => inferInstanceAs (Decidable slaves.Nodup)

instance : ∀ [DecidableEq Id] (id : Id) (change : UnitChange Id), Decidable (change.Leaves id)
  | _, _, addUnit _ _ _ => .isTrue trivial
  | _, _, selectProfile _ _ => .isTrue trivial
  | _, id, removeUnit other => inferInstanceAs (Decidable (other ≠ id))
  | _, _, saveProfiles _ _ _ _ => .isFalse not_false

/-- The profile of a unit after a change that leaves it. -/
def profileAfter [DecidableEq Id] (id : Id) (profile : Profile) : UnitChange Id → Profile
  | selectProfile other selected => if other = id then selected else profile
  | _ => profile

/-- The profile of a unit after changes that leave it. -/
def selectedLast [DecidableEq Id] (id : Id) (profile : Profile) (changes : List (UnitChange Id)) :
    Profile :=
  changes.foldl (profileAfter id) profile

end UnitChange

section Units

variable {Id Store : Type} (api : SubentryApi Id Store)

/-- One change; `none` where a call raises. -/
def changeUnits (s : Store) (change : UnitChange Id) : Option Store :=
  run api.perform (change.operations (api.subentries s)) s

/-- **`_create_profiles`**: an entry that has just been set up. -/
def Created (s : Store) : Prop :=
  ∃ slaves selectedProfiles probes, slaves.Nodup ∧
    (api.subentries s).map (·.toUnitSubentry) =
      (buildRoomsFromProfiles slaves selectedProfiles probes []).map fun room =>
        ⟨room, some (toString room.slave)⟩

end Units

/-! ### What is stored -/

/-- **The units are well stored.** -/
structure WellStored {Id : Type} (subentries : List (StoredSubentry Id)) : Prop where
  keys : (subentries.map (·.room.key)).Nodup
  slaves : (subentries.map (·.room.slave)).Nodup
  uniqueIds : ∀ subentry ∈ subentries, subentry.uniqueId = some (toString subentry.room.slave)

section Stored

variable {Id : Type} {subentries : List (StoredSubentry Id)}

/-- No two of them have the same unique id. -/
theorem WellStored.distinct (h : WellStored subentries) : DistinctIds subentries := by
  refine (List.pairwise_map.mp h.slaves).imp_of_mem fun {a b} ha hb hne uniqueId huid huid' =>
    hne ?_
  rw [h.uniqueIds a ha] at huid
  rw [h.uniqueIds b hb, ← huid] at huid'
  exact (toString_slave_inj (Option.some.inj huid')).symm

/-- The rooms that a form finds. -/
theorem map_unitRooms (subentries : List (StoredSubentry Id)) :
    (unitRooms (subentries.map (·.toUnitSubentry))).map Prod.fst =
        subentries.map (·.room.slave) ∧
      (unitRooms (subentries.map (·.toUnitSubentry))).map Prod.snd = subentries.map (·.room) := by
  constructor
  · rw [unitRooms, List.map_map, List.map_map]
    rfl
  · rw [unitRooms, List.map_map, List.map_map]
    rfl

/-- Some of the units are well stored. -/
theorem WellStored.filter (h : WellStored subentries) (p : StoredSubentry Id → Bool) :
    WellStored (subentries.filter p) where
  keys := h.keys.sublist (List.filter_sublist.map _)
  slaves := h.slaves.sublist (List.filter_sublist.map _)
  uniqueIds subentry hmem := h.uniqueIds subentry (List.mem_filter.mp hmem).1

/-- **Another unit**, with a key and an address of its own. -/
theorem WellStored.append (h : WellStored subentries) {new : StoredSubentry Id}
    (hkey : new.room.key ∉ subentries.map (·.room.key))
    (hslave : new.room.slave ∉ subentries.map (·.room.slave))
    (huid : new.uniqueId = some (toString new.room.slave)) : WellStored (subentries ++ [new]) where
  keys := by
    rw [List.map_append, List.nodup_append]
    refine ⟨h.keys, List.nodup_singleton _, ?_⟩
    rintro key hmem _ hnew rfl
    obtain rfl : key = new.room.key := List.mem_singleton.mp hnew
    exact hkey hmem
  slaves := by
    rw [List.map_append, List.nodup_append]
    refine ⟨h.slaves, List.nodup_singleton _, ?_⟩
    rintro slave hmem _ hnew rfl
    obtain rfl : slave = new.room.slave := List.mem_singleton.mp hnew
    exact hslave hmem
  uniqueIds subentry hmem := by
    rcases List.mem_append.mp hmem with hmem | hmem
    · exact h.uniqueIds subentry hmem
    · rw [List.mem_singleton.mp hmem]
      exact huid

/-- Changes that leave the keys, the addresses and the unique ids. -/
theorem WellStored.map (h : WellStored subentries) {change : StoredSubentry Id → StoredSubentry Id}
    (hsame : ∀ subentry, (change subentry).room.key = subentry.room.key ∧
      (change subentry).room.slave = subentry.room.slave ∧
      (change subentry).uniqueId = subentry.uniqueId) : WellStored (subentries.map change) where
  keys := by
    have hkeys : (subentries.map change).map (·.room.key) = subentries.map (·.room.key) := by
      rw [List.map_map]
      exact List.map_congr_left fun subentry _ => (hsame subentry).1
    rw [hkeys]
    exact h.keys
  slaves := by
    have hslaves : (subentries.map change).map (·.room.slave) = subentries.map (·.room.slave) := by
      rw [List.map_map]
      exact List.map_congr_left fun subentry _ => (hsame subentry).2.1
    rw [hslaves]
    exact h.slaves
  uniqueIds subentry hmem := by
    obtain ⟨before, hbefore, rfl⟩ := List.mem_map.mp hmem
    rw [(hsame before).2.2, (hsame before).2.1]
    exact h.uniqueIds before hbefore

/-- The subentries of rooms with distinct keys and addresses. -/
theorem wellStored_of_perm {rooms : List UnitRoom} (hkeys : (rooms.map (·.key)).Nodup)
    (hslaves : (rooms.map (·.slave)).Nodup) (hperm : (subentries.map storedData).Perm
      (rooms.map fun room => (some (toString room.slave), unitData room))) :
    WellStored subentries where
  keys := by
    have hmap := hperm.map fun stored => stored.2.key
    rw [List.map_map, List.map_map] at hmap
    exact hmap.nodup_iff.mpr hkeys
  slaves := by
    have hmap := hperm.map fun stored => stored.2.slave
    rw [List.map_map, List.map_map] at hmap
    exact hmap.nodup_iff.mpr hslaves
  uniqueIds subentry hmem := by
    have hstored := hperm.mem_iff.mp (List.mem_map_of_mem hmem)
    obtain ⟨room, -, heq⟩ := List.mem_map.mp hstored
    have huid : some (toString room.slave) = subentry.uniqueId := congrArg Prod.fst heq
    have hslave : room.slave = subentry.room.slave :=
      congrArg (fun stored : Option String × UnitData => stored.2.slave) heq
    rw [← huid, hslave]

end Stored

/-! ### One change -/

section Change

variable {Id Store : Type} {api : SubentryApi Id Store} {s t : Store}

/-- **An entry that has just been set up.** -/
theorem Created.wellStored (h : Created api s) : WellStored (api.subentries s) := by
  obtain ⟨slaves, selectedProfiles, probes, hnodup, heq⟩ := h
  have hslaves :
      ((buildRoomsFromProfiles slaves selectedProfiles probes []).map (·.slave)).Nodup := by
    rw [show (buildRoomsFromProfiles slaves selectedProfiles probes []).map (·.slave) = slaves from
      map_slave_buildRooms]
    exact hnodup
  refine wellStored_of_perm nodup_map_key_buildRooms.1 hslaves (List.Perm.of_eq ?_)
  have hmap := congrArg (List.map fun subentry : UnitSubentry =>
    (subentry.uniqueId, unitData subentry.room)) heq
  rw [List.map_map, List.map_map] at hmap
  exact hmap

variable [DecidableEq Id] (hapi : api.Documented) (h : WellStored (api.subentries s))

include hapi h

/-- A unit can be added at an address without one. -/
theorem WellStored.addUnit_run {slave : ℕ} (hslave : slave ∉ (api.subentries s).map (·.room.slave))
    (room : UnitRoom) : ∃ t id, api.addSubentry s ⟨room, some (toString slave)⟩ = some t ∧
      api.subentries t = api.subentries s ++ [⟨⟨room, some (toString slave)⟩, id⟩] := by
  have hunused : ∀ other ∈ api.subentries s, ∀ uniqueId ∈ some (toString slave),
      other.uniqueId ≠ some uniqueId := by
    intro other hother uniqueId huid heq
    obtain rfl : toString slave = uniqueId := Option.some.inj huid
    rw [h.uniqueIds other hother, Option.some.injEq] at heq
    exact hslave (List.mem_map.mpr ⟨other, hother, toString_slave_inj heq⟩)
  exact hapi.add s ⟨room, some (toString slave)⟩ hunused

/-- The profile of a unit can be changed. -/
theorem WellStored.selectProfile_run {subentry : StoredSubentry Id}
    (hmem : subentry ∈ api.subentries s) (profile : Profile) :
    ∃ t, api.updateSubentry s subentry.id (fun subentry =>
        { subentry with room := { subentry.room with profile := profile } }) = some t ∧
      api.subentries t = (api.subentries s).map fun other => if other.id = subentry.id then
        { other with room := { other.room with profile := profile } } else other := by
  refine hapi.update s _ subentry hmem fun other hother hne uniqueId huid heq => ?_
  have huid : subentry.uniqueId = some uniqueId := huid
  rw [h.uniqueIds subentry hmem, ← heq, h.uniqueIds other hother, Option.some.injEq] at huid
  exact hne (congrArg (·.id)
    (List.inj_on_of_nodup_map h.slaves hother hmem (toString_slave_inj huid).symm))

/-- **One change**: no call raises, no two units have the same unique id on the way, and the units
are well stored in the end. -/
theorem WellStored.change {change : UnitChange Id}
    (hpossible : change.Possible (api.subentries s)) :
    Replays api.perform (fun t => DistinctIds (api.subentries t))
      (change.operations (api.subentries s)) (fun t => WellStored (api.subentries t)) s := by
  have hone : ∀ operation,
      (∃ t, api.perform s operation = some t ∧ WellStored (api.subentries t)) →
      Replays api.perform (fun t => DistinctIds (api.subentries t)) [operation]
        (fun t => WellStored (api.subentries t)) s := fun operation ⟨t, ht, hwell⟩ =>
    ⟨h.distinct, t, ht, hwell.distinct, hwell⟩
  cases change with
  | addUnit slave profile probe =>
    obtain ⟨hslaves, hrooms⟩ := map_unitRooms (api.subentries s)
    simp only [UnitChange.operations, hslaves, hrooms]
    by_cases hthere : slave ∈ (api.subentries s).map (·.room.slave)
    · rw [if_pos hthere]
      exact ⟨h.distinct, h⟩
    · rw [if_neg hthere]
      obtain ⟨t, id, ht, hsubentries⟩ := h.addUnit_run hapi hthere
        (newUnitRoom slave profile probe ((api.subentries s).map (·.room)))
      refine hone _ ⟨t, ht, ?_⟩
      have hfree := firstFree_notMem (suffixedKey_injective (slaveKey slave))
        (((api.subentries s).map (·.room)).map (·.key))
      rw [List.map_map] at hfree
      rw [hsubentries]
      exact h.append (by rw [newUnitRoom, List.map_map]; exact hfree) hthere rfl
  | selectProfile id profile =>
    obtain ⟨subentry, hmem, rfl⟩ := List.mem_map.mp hpossible
    obtain ⟨t, ht, hsubentries⟩ := h.selectProfile_run hapi hmem profile
    refine hone _ ⟨t, ht, ?_⟩
    rw [hsubentries]
    refine h.map fun other => ?_
    split <;> exact ⟨rfl, rfl, rfl⟩
  | removeUnit id =>
    obtain ⟨subentry, hmem, rfl⟩ := List.mem_map.mp hpossible
    obtain ⟨t, ht, hsubentries⟩ := hapi.remove s subentry hmem
    exact hone _ ⟨t, ht, by rw [hsubentries]; exact h.filter _⟩
  | saveProfiles slaves selectedProfiles probes existing =>
    have hslaves : ((buildRoomsFromProfiles slaves selectedProfiles probes existing).map
        (·.slave)).Nodup := by
      rw [show (buildRoomsFromProfiles slaves selectedProfiles probes existing).map (·.slave) =
        slaves from map_slave_buildRooms]
      exact hpossible
    exact (replays_saveOperations hapi h.keys h.distinct nodup_map_key_buildRooms.1 hslaves).mono
      fun t hperm => wellStored_of_perm nodup_map_key_buildRooms.1 hslaves hperm

/-- The units are well stored after it. -/
theorem WellStored.next {change : UnitChange Id} (hpossible : change.Possible (api.subentries s))
    (hstep : changeUnits api s change = some t) : WellStored (api.subentries t) := by
  obtain ⟨u, hrun, hwell⟩ := (h.change hapi hpossible).finish
  obtain rfl := Option.some.inj (hrun.symm.trans hstep)
  exact hwell

/-- **A change leaves a unit that it is not about**, and its profile is the one selected last. -/
theorem WellStored.kept {change : UnitChange Id} (hpossible : change.Possible (api.subentries s))
    (hstep : changeUnits api s change = some t) {subentry : StoredSubentry Id}
    (hleaves : change.Leaves subentry.id) (hmem : subentry ∈ api.subentries s) :
    { subentry with room := { subentry.room with
      profile := change.profileAfter subentry.id subentry.room.profile } } ∈ api.subentries t := by
  have hone : ∀ operation, run api.perform [operation] s = some t →
      api.perform s operation = some t := by
    intro operation hrun
    obtain ⟨u, hu, hend⟩ := Option.bind_eq_some_iff.mp hrun
    rw [hu]
    exact hend
  cases change with
  | addUnit slave profile probe =>
    simp only [changeUnits, UnitChange.operations, (map_unitRooms (api.subentries s)).1] at hstep
    by_cases hthere : slave ∈ (api.subentries s).map (·.room.slave)
    · rw [if_pos hthere] at hstep
      obtain rfl := Option.some.inj hstep
      exact hmem
    · rw [if_neg hthere] at hstep
      obtain ⟨u, id, hu, hsubentries⟩ := h.addUnit_run hapi hthere (newUnitRoom slave profile probe
        ((unitRooms ((api.subentries s).map (·.toUnitSubentry))).map Prod.snd))
      obtain rfl := Option.some.inj (hu.symm.trans (hone _ hstep))
      rw [hsubentries]
      exact List.mem_append_left _ hmem
  | selectProfile id profile =>
    obtain ⟨selected, hselected, rfl⟩ := List.mem_map.mp hpossible
    obtain ⟨u, hu, hsubentries⟩ := h.selectProfile_run hapi hselected profile
    obtain rfl := Option.some.inj (hu.symm.trans (hone _ hstep))
    rw [hsubentries]
    refine List.mem_map.mpr ⟨subentry, hmem, ?_⟩
    by_cases hid : subentry.id = selected.id
    · rw [if_pos hid, UnitChange.profileAfter, if_pos hid.symm]
    · rw [if_neg hid, UnitChange.profileAfter, if_neg (Ne.symm hid)]
  | removeUnit id =>
    obtain ⟨removed, hremoved, rfl⟩ := List.mem_map.mp hpossible
    obtain ⟨u, hu, hsubentries⟩ := hapi.remove s removed hremoved
    obtain rfl := Option.some.inj (hu.symm.trans (hone _ hstep))
    rw [hsubentries]
    exact List.mem_filter.mpr ⟨hmem, decide_eq_true (Ne.symm hleaves)⟩
  | saveProfiles slaves selectedProfiles probes existing => exact hleaves.elim

end Change

/-! ### All changes -/

section Changes

variable {Id Store : Type} [DecidableEq Id] {api : SubentryApi Id Store} {s t : Store}

/-- **The units are always well stored**, and every change can be carried out, with no two units
that have the same unique id on the way. -/
theorem units_wellStored (hapi : api.Documented) (h : Reach (changeUnits api)
      (fun s change => change.Possible (api.subentries s)) (Created api) s) :
    WellStored (api.subentries s) ∧
      ∀ change : UnitChange Id, change.Possible (api.subentries s) →
        (∃ t, changeUnits api s change = some t) ∧
        ∀ n, ∃ t, run api.perform ((change.operations (api.subentries s)).take n) s = some t ∧
          DistinctIds (api.subentries t) := by
  have hwell : WellStored (api.subentries s) :=
    h.invariant (P := fun s => WellStored (api.subentries s)) (fun _ => Created.wellStored)
      fun _ _ _ hwell hpossible hstep => hwell.next hapi hpossible hstep
  refine ⟨hwell, fun change hpossible => ?_⟩
  have hreplays := hwell.change hapi hpossible
  obtain ⟨t, hrun, -⟩ := hreplays.finish
  exact ⟨⟨t, hrun⟩, hreplays.take⟩

/-- **What is done to other units leaves a unit alone**: whatever is added, removed or given another
profile, it is still stored as it was, with the profile that has last been selected for it. -/
theorem units_kept (hapi : api.Documented) (h : WellStored (api.subentries s))
    {subentry : StoredSubentry Id} (hmem : subentry ∈ api.subentries s)
    {changes : List (UnitChange Id)}
    (hleaves : Along (changeUnits api) (fun s change => change.Possible (api.subentries s) ∧
      change.Leaves subentry.id) changes s) (hrun : run (changeUnits api) changes s = some t) :
    { subentry with room := { subentry.room with
      profile := UnitChange.selectedLast subentry.id subentry.room.profile changes } } ∈
        api.subentries t := by
  induction changes generalizing s subentry with
  | nil =>
    obtain rfl := Option.some.inj hrun
    exact hmem
  | cons change changes ih =>
    obtain ⟨⟨hpossible, hleave⟩, hrest⟩ := hleaves
    obtain ⟨u, hstep, hrun⟩ := Option.bind_eq_some_iff.mp hrun
    exact ih (h.next hapi hpossible hstep) (h.kept hapi hpossible hstep hleave hmem)
      (hrest u hstep) hrun

end Changes

/-! ### A gateway with two units -/

/-- Two units that have been set up with their gateway. -/
def createdUnits : SubentryList where
  val := (buildRoomsFromProfiles [2, 3] (fun _ => .sFc) [] []).zipIdx.map fun entry =>
    ⟨⟨entry.1, some (toString entry.1.slave)⟩, entry.2⟩
  property := by decide +kernel

theorem created_createdUnits : Created SubentryList.api createdUnits :=
  ⟨[2, 3], fun _ => .sFc, [], by decide, rfl⟩

/-- The first of them. -/
def createdUnit : StoredSubentry ℕ := createdUnits.1.head (List.cons_ne_nil _ _)

/-- A rescan that has found one of the two units, and a unit at another address. -/
def rescanOfCreated : UnitChange ℕ :=
  .saveProfiles [3, 5] (fun _ => .sFc) [] (unitRooms (createdUnits.1.map (·.toUnitSubentry)))

/-- **A rescan that began with earlier units**: a unit is added and a profile selected before it
saves, and units can be added and removed after it. -/
theorem units_wellStored_created : ∃ s t,
    run (changeUnits SubentryList.api) [.addUnit 4 .sFc none, .selectProfile 1 .iiF]
        createdUnits = some s ∧
      changeUnits SubentryList.api s rescanOfCreated = some t ∧
      WellStored (SubentryList.api.subentries t) ∧
      ∃ u, changeUnits SubentryList.api t (.addUnit 4 .sFc none) = some u := by
  obtain ⟨s, hrun, hreach, -⟩ := (Reach.start created_createdUnits :
      Reach (changeUnits SubentryList.api) (fun s change =>
        change.Possible (SubentryList.api.subentries s)) _ _).exists_of_run
    [.addUnit 4 .sFc none, .selectProfile 1 .iiF] (fun _ => true) (by decide +kernel)
    (by decide +kernel)
  have hpossible : rescanOfCreated.Possible (SubentryList.api.subentries s) := by
    change [3, 5].Nodup
    decide
  obtain ⟨t, hstep⟩ :=
    ((units_wellStored SubentryList.api_documented hreach).2 rescanOfCreated hpossible).1
  obtain ⟨hwell, hchange⟩ :=
    units_wellStored SubentryList.api_documented (hreach.next hpossible hstep)
  exact ⟨s, t, hrun, hstep, hwell, (hchange (.addUnit 4 .sFc none) trivial).1⟩

/-- The first unit is given other profiles, while the other one is removed and a third one is
added. -/
def selectedTwice : List (UnitChange ℕ) :=
  [.selectProfile 0 .sF, .addUnit 4 .iiFc none, .removeUnit 1, .selectProfile 0 .iiF]

theorem units_kept_created : ∃ t,
    run (changeUnits SubentryList.api) selectedTwice createdUnits = some t ∧
      { createdUnit with room := { createdUnit.room with profile := .iiF } } ∈
        SubentryList.api.subentries t := by
  have hmem : createdUnit ∈ SubentryList.api.subentries createdUnits := List.head_mem _
  have hleaves : Along (changeUnits SubentryList.api)
      (fun s change => change.Possible (SubentryList.api.subentries s) ∧
        change.Leaves createdUnit.id) selectedTwice createdUnits := by decide +kernel
  obtain ⟨t, hrun⟩ : ∃ t,
      run (changeUnits SubentryList.api) selectedTwice createdUnits = some t :=
    Option.isSome_iff_exists.mp (by decide +kernel)
  exact ⟨t, hrun, units_kept SubentryList.api_documented created_createdUnits.wellStored hmem
    hleaves hrun⟩

end MeltemVentilation
