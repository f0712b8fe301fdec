import MeltemVentilation.FlowHelpers

/-!
# Saving a rescan

The part of `options_flow.py` that a rescan of the gateway ends with: `_stale_subentries`
names the stored units that saving would remove, and `_async_save_profiles` removes them,
updates the units that were found again and adds the new ones. The units of a gateway are
subentries of its configuration entry, each with the address as its unique id.

Both are given the rooms that `match_existing_rooms` has assigned to the addresses found, in
place of all stored rooms, and `build_rooms_from_profiles` matches them once more.
-/

namespace MeltemVentilation

/-- A stored unit. -/
structure UnitSubentry where
  /-- The data, with the title as the name. -/
  room : UnitRoom
  uniqueId : Option String
deriving DecidableEq, Repr

/-- `unit_rooms`: the data of each stored unit by address. -/
def unitRooms (subentries : List UnitSubentry) : List (ℕ × UnitRoom) :=
  subentries.map fun subentry => (subentry.room.slave, subentry.room)

/-- What saving does to the subentries. -/
structure SavedProfiles where
  removed : List UnitSubentry
  /-- The subentries that were found again, before and after the update. -/
  updated : List (UnitSubentry × UnitSubentry)
  added : List UnitSubentry

/-- The subentries that the rooms take out of the dictionary by key, one after the other, and
those that are left. -/
def popSubentries : List UnitRoom → List UnitSubentry →
    List (Option UnitSubentry × UnitRoom) × List UnitSubentry
  | [], subentries => ([], subentries)
  | room :: rooms, subentries =>
    let rest := popSubentries rooms (subentries.filter (·.room.key ≠ room.key))
    ((subentries.find? (·.room.key = room.key), room) :: rest.1, rest.2)

/-- An update of a subentry by a room: its title stays. -/
def UnitSubentry.updatedBy (subentry : UnitSubentry) (room : UnitRoom) : UnitSubentry where
  room := { room with name := subentry.room.name }
  uniqueId := some (toString room.slave)

section Rescan

variable (slaves : List ℕ) (selectedProfiles : ℕ → Profile)
  (probes : List (ℕ × UnitProbeResult)) (subentries : List UnitSubentry)

/-- The rooms that `async_step_profiles` assigns to the addresses found. -/
def rescannedRooms : List (ℕ × UnitRoom) :=
  matchExistingRooms slaves probes (unitRooms subentries)

/-- **`_stale_subentries`**: the subentries that saving the rescan would remove. -/
def staleSubentries : List UnitSubentry :=
  let rooms := buildRoomsFromProfiles slaves selectedProfiles probes
    (rescannedRooms slaves probes subentries)
  subentries.filter (·.room.key ∉ rooms.map (·.key))

/-- **`_async_save_profiles`**: what it does to the subentries. -/
def saveProfiles : SavedProfiles :=
  let rooms := buildRoomsFromProfiles slaves selectedProfiles probes
    (rescannedRooms slaves probes subentries)
  let (kept, stale) := popSubentries rooms subentries
  { removed := stale
    updated := kept.filterMap fun (existing, room) =>
      existing.map fun subentry => (subentry, subentry.updatedBy room)
    added := kept.filterMap fun (existing, room) =>
      if existing.isNone then some ⟨room, some (toString room.slave)⟩ else none }

end Rescan

end MeltemVentilation
