import MeltemVentilation.Lib.Collect
import MeltemVentilation.Models

/-!
# Which registers a refresh plan reads

The read planning of `modbus_client.py` and the `RefreshPlan` of `models.py`. A plan selects
what is due in one tick; `dueField` says for every value field of a unit whether the plan
reads it, from which register block (`Component`), and which read group its outcome counts
for. Blocks and groups overlap in both directions: the group `temperature` is read from two
blocks, and the block `status` counts for the groups `status` and `filter`.

The fields of this file are those that are read as they are; what the mode status map and
the absolute humidity are decoded to is not among them.
-/

namespace MeltemVentilation

/-! ### Profiles -/

/-- Membership in `VOC_PROFILES`. -/
def Profile.hasVoc : Profile → Bool
  | .iiFcVoc => true
  | .sPlain | .sF | .sFc | .iiPlain | .iiF | .iiFc => false

/-- Membership in `PLAIN_PROFILES`: no sensor at all. -/
def Profile.isPlain (profile : Profile) : Bool := !profile.hasHumidity && !profile.hasCo2

/-! ### Fields and blocks -/

/-- The value fields of `RoomState` that are read as they are. -/
inductive RoomField where
  | extractAirFlow | supplyAirFlow
  | exhaustTemperature | outdoorAirTemperature | extractAirTemperature | supplyAirTemperature
  | humidityExtractAir | co2ExtractAir | vocExtractAir
  | co2SupplyAir | humiditySupplyAir | vocSupplyAir
  | errorStatus | frostProtectionActive | filterChangeDue
  | daysUntilFilterChange | operatingHours | fanMotorHours | softwareVersion
  | controlSetting (key : ControlSetting)
  | rfCommStatus | deviceFault | valueErrorStatus | rfLastSeenAgeSeconds | rfSignalStrength
deriving DecidableEq, Repr

/-- The register blocks of `MeltemRoomDevice` that a plan reads. -/
inductive Component where
  | airflow | temperatures | supplyTemperature
  | airQuality | extractAirQuality | supplyAirQuality
  | status | daysUntilFilterChange | operatingHours | fanMotorHours | softwareVersion
  | controlSettings
  | rfCommStatus | deviceFault | valueErrorStatus | rfLastSeenAge | rfSignalStrength
deriving DecidableEq, Repr

/-- `_BRIDGE_RF_COMPONENTS`: blocks that the gateway answers itself. -/
def Component.isBridgeRf : Component → Bool
  | .rfCommStatus | .deviceFault | .valueErrorStatus | .rfLastSeenAge | .rfSignalStrength => true
  | _ => false

/-- `_OPTIONAL_DIAGNOSTIC_COMPONENTS`. -/
def Component.isOptionalDiagnostic : Component → Bool
  | .deviceFault | .valueErrorStatus | .rfLastSeenAge | .rfSignalStrength | .fanMotorHours => true
  | _ => false

/-- `room.supports(name)` for a room built from its profile by
`supported_entity_keys_for_profile`. -/
def RoomConfig.supports (room : RoomConfig) : RoomField → Bool
  | .outdoorAirTemperature | .extractAirTemperature => !room.profile.isPlain
  | .supplyAirTemperature | .humidityExtractAir | .humiditySupplyAir => room.profile.hasHumidity
  | .co2ExtractAir => room.profile.hasCo2
  | .co2SupplyAir | .vocExtractAir | .vocSupplyAir => room.profile.hasVoc
  | .controlSetting key => key.inProfile room.profile
  -- The software version feeds the device info and is no entity.
  | .softwareVersion => false
  | _ => true

/-! ### Plans -/

/-- Which groups are refreshed in the current scheduler tick. -/
structure RefreshPlan where
  refreshAirflow : Bool := true
  refreshTemperatures : Bool := true
  refreshEnvironment : Bool := true
  refreshStatus : Bool := true
  refreshFilterChangeDue : Bool := true
  refreshFilterDays : Bool := true
  refreshOperatingHours : Bool := true
  refreshRfDiagnostics : Bool := true
  refreshControlSettings : Bool := true
deriving DecidableEq, Repr

/-- `_EMPTY_REFRESH_PLAN`, the plan that `RefreshPlan.only` starts from. -/
def emptyRefreshPlan : RefreshPlan :=
  ⟨false, false, false, false, false, false, false, false, false⟩

/-- `AIRFLOW_REFRESH_PLAN`. -/
def airflowRefreshPlan : RefreshPlan := { emptyRefreshPlan with refreshAirflow := true }

/-- `CONTROL_SETTINGS_REFRESH_PLAN`. -/
def controlSettingsRefreshPlan : RefreshPlan :=
  { emptyRefreshPlan with refreshControlSettings := true }

/-- `read_groups`: the read-health groups a plan refreshes. -/
def RefreshPlan.readGroups (plan : RefreshPlan) : List ReadGroup :=
  List.flatten [
    if plan.refreshAirflow then [.flow, .flowControl, .intensive] else [],
    if plan.refreshStatus then [.status] else [],
    if plan.refreshTemperatures then [.temperature] else [],
    if plan.refreshEnvironment then [.airQuality] else [],
    if plan.refreshFilterChangeDue || plan.refreshFilterDays then [.filter] else [],
    if plan.refreshOperatingHours then [.hours, .fanHours] else [],
    if plan.refreshRfDiagnostics then [.rfLastSeen, .rfSignal, .deviceFault, .valueError] else [],
    if plan.refreshControlSettings then [.controlSettings] else []]

/-- Whether a plan refreshes a group. -/
def RefreshPlan.refreshes (plan : RefreshPlan) : ReadGroup → Bool
  | .flow | .flowControl | .intensive => plan.refreshAirflow
  | .status => plan.refreshStatus
  | .temperature => plan.refreshTemperatures
  | .airQuality => plan.refreshEnvironment
  | .filter => plan.refreshFilterChangeDue || plan.refreshFilterDays
  | .hours | .fanHours => plan.refreshOperatingHours
  | .rfLastSeen | .rfSignal | .deviceFault | .valueError => plan.refreshRfDiagnostics
  | .controlSettings => plan.refreshControlSettings

theorem RefreshPlan.mem_readGroups {plan : RefreshPlan} {group : ReadGroup} :
    group ∈ plan.readGroups ↔ plan.refreshes group = true := by
  simp only [RefreshPlan.readGroups, List.mem_flatten, List.mem_cons, List.not_mem_nil, or_false]
  cases group <;> simp [RefreshPlan.refreshes]

/-! ### What is due -/

/-- Where one due field is read from, and which group its outcome counts for. -/
structure FieldRead where
  component : Component
  group : ReadGroup
deriving DecidableEq, Repr

/-- The block and the group of a field. The profile with VOC sensors reads its air quality
from one merged block, the others from the blocks of their sensors. -/
def fieldRead (room : RoomConfig) : RoomField → FieldRead
  | .extractAirFlow | .supplyAirFlow => ⟨.airflow, .flow⟩
  | .exhaustTemperature | .outdoorAirTemperature | .extractAirTemperature =>
    ⟨.temperatures, .temperature⟩
  | .supplyAirTemperature => ⟨.supplyTemperature, .temperature⟩
  | .humidityExtractAir | .co2ExtractAir =>
    ⟨if room.profile.hasVoc then .airQuality else .extractAirQuality, .airQuality⟩
  | .humiditySupplyAir =>
    ⟨if room.profile.hasVoc then .airQuality else .supplyAirQuality, .airQuality⟩
  | .vocExtractAir | .co2SupplyAir | .vocSupplyAir => ⟨.airQuality, .airQuality⟩
  | .errorStatus | .frostProtectionActive => ⟨.status, .status⟩
  | .filterChangeDue => ⟨.status, .filter⟩
  | .daysUntilFilterChange => ⟨.daysUntilFilterChange, .filter⟩
  | .operatingHours => ⟨.operatingHours, .hours⟩
  | .fanMotorHours => ⟨.fanMotorHours, .fanHours⟩
  | .softwareVersion => ⟨.softwareVersion, .hours⟩
  | .controlSetting _ => ⟨.controlSettings, .controlSettings⟩
  | .rfCommStatus => ⟨.rfCommStatus, .status⟩
  | .deviceFault => ⟨.deviceFault, .deviceFault⟩
  | .valueErrorStatus => ⟨.valueErrorStatus, .valueError⟩
  | .rfLastSeenAgeSeconds => ⟨.rfLastSeenAge, .rfLastSeen⟩
  | .rfSignalStrength => ⟨.rfSignalStrength, .rfSignal⟩

/-- The argument `when` of `add`: whether the plan reads a field on this profile. -/
def RefreshPlan.reads (plan : RefreshPlan) (profile : Profile) : RoomField → Bool
  | .extractAirFlow | .supplyAirFlow => plan.refreshAirflow
  | .exhaustTemperature => plan.refreshTemperatures
  | .outdoorAirTemperature | .extractAirTemperature | .supplyAirTemperature =>
    !profile.isPlain && plan.refreshTemperatures
  | .humidityExtractAir | .humiditySupplyAir => plan.refreshEnvironment && profile.hasHumidity
  | .co2ExtractAir => plan.refreshEnvironment && profile.hasCo2
  | .vocExtractAir | .co2SupplyAir | .vocSupplyAir => plan.refreshEnvironment && profile.hasVoc
  | .errorStatus | .frostProtectionActive | .rfCommStatus => plan.refreshStatus
  | .filterChangeDue => plan.refreshFilterChangeDue
  | .daysUntilFilterChange => plan.refreshFilterDays
  | .operatingHours | .fanMotorHours | .softwareVersion => plan.refreshOperatingHours
  | .controlSetting key => plan.refreshControlSettings && key.inProfile profile
  | .deviceFault | .valueErrorStatus | .rfLastSeenAgeSeconds | .rfSignalStrength =>
    plan.refreshRfDiagnostics

/-- The fields in the order in which `_due_fields` adds them. -/
def roomFields : List RoomField :=
  [.extractAirFlow, .supplyAirFlow, .exhaustTemperature, .outdoorAirTemperature,
    .extractAirTemperature, .supplyAirTemperature, .humidityExtractAir, .co2ExtractAir,
    .vocExtractAir, .co2SupplyAir, .humiditySupplyAir, .vocSupplyAir, .errorStatus,
    .frostProtectionActive, .filterChangeDue, .daysUntilFilterChange, .operatingHours,
    .fanMotorHours, .softwareVersion, .controlSetting .humidityStartingPoint,
    .controlSetting .humidityMinLevel, .controlSetting .humidityMaxLevel,
    .controlSetting .co2StartingPoint, .controlSetting .co2MinLevel,
    .controlSetting .co2MaxLevel, .rfCommStatus, .deviceFault, .valueErrorStatus,
    .rfLastSeenAgeSeconds, .rfSignalStrength]

theorem mem_roomFields (field : RoomField) : field ∈ roomFields := by
  rcases field with _ | _ | _ | _ | _ | _ | _ | _ | _ | _ | _ | _ | _ | _ | _ | _ | _ | _ | _ |
    key | _ | _ | _ | _ | _
  case controlSetting => cases key <;> decide
  all_goals decide

instance : Fintype RoomField where
  elems := roomFields.toFinset
  complete field := List.mem_toFinset.mpr (mem_roomFields field)

/-- Whether a plan reads a field of a room; only the software version is read ungated. -/
def isDue (room : RoomConfig) (plan : RefreshPlan) (field : RoomField) : Bool :=
  plan.reads room.profile field && (field = .softwareVersion || room.supports field)

/-- **`_due_fields`**: every field the plan reads, with where it comes from. -/
def dueFields (room : RoomConfig) (plan : RefreshPlan) : List (RoomField × FieldRead) :=
  (roomFields.filter (isDue room plan)).map fun field => (field, fieldRead room field)

/-- A read of a block, with the groups its outcome counts for. -/
abbrev DueRead := Component × List ReadGroup

/-- One round of the loop of `_due_reads`. -/
def addDueRead (reads : List DueRead) (source : FieldRead) : List DueRead :=
  if reads.any (·.1 = source.component) then
    reads.map fun read =>
      if read.1 = source.component ∧ source.group ∉ read.2 then (read.1, read.2 ++ [source.group])
      else read
  else reads ++ [(source.component, [source.group])]

/-- **`_due_reads`**: the blocks to read, with the groups each of them counts for. -/
def dueReads (due : List (RoomField × FieldRead)) : List DueRead :=
  due.foldl (fun reads source => addDueRead reads source.2) []

/-! ### Blocks and groups of a plan -/

section Due

variable {room : RoomConfig} {plan : RefreshPlan} {field : RoomField} {source : FieldRead}
  {component : Component} {group : ReadGroup}

theorem mem_dueFields : (field, source) ∈ dueFields room plan ↔
    isDue room plan field = true ∧ source = fieldRead room field := by
  simp only [dueFields, List.mem_map, List.mem_filter, mem_roomFields, true_and, Prod.mk.injEq]
  constructor
  · rintro ⟨_, hdue, rfl, rfl⟩
    exact ⟨hdue, rfl⟩
  · rintro ⟨hdue, rfl⟩
    exact ⟨field, hdue, rfl, rfl⟩

/-- Whether one of the reads counts for a group. -/
def CountsFor (reads : List DueRead) (component : Component) (group : ReadGroup) : Prop :=
  ∃ groups, (component, groups) ∈ reads ∧ group ∈ groups

theorem countsFor_addDueRead {reads : List DueRead} :
    CountsFor (addDueRead reads source) component group ↔
      CountsFor reads component group ∨ source = ⟨component, group⟩ := by
  unfold addDueRead CountsFor
  split
  · -- The component has an entry: its groups grow by the new one unless it is there already.
    rename_i hmem
    obtain ⟨⟨_, known⟩, hknown, hsame⟩ := List.any_eq_true.mp hmem
    obtain rfl := of_decide_eq_true hsame
    constructor
    · rintro ⟨groups, hgroups, hgroup⟩
      obtain ⟨⟨c, old⟩, hold, heq⟩ := List.mem_map.mp hgroups
      split at heq
      · rename_i hadd
        cases heq
        rcases List.mem_append.mp hgroup with hgroup | hgroup
        · exact .inl ⟨old, hold, hgroup⟩
        · obtain rfl := List.mem_singleton.mp hgroup
          exact .inr (by rw [hadd.1])
      · cases heq
        exact .inl ⟨groups, hold, hgroup⟩
    · rintro (⟨groups, hgroups, hgroup⟩ | rfl)
      · by_cases hadd : component = source.component ∧ source.group ∉ groups
        · exact ⟨groups ++ [source.group], List.mem_map.mpr ⟨_, hgroups, by rw [if_pos hadd]⟩,
            List.mem_append_left _ hgroup⟩
        · exact ⟨groups, List.mem_map.mpr ⟨_, hgroups, by rw [if_neg hadd]⟩, hgroup⟩
      · by_cases hgroup : group ∈ known
        · exact ⟨known, List.mem_map.mpr ⟨_, hknown, by rw [if_neg (by simpa using hgroup)]⟩,
            hgroup⟩
        · exact ⟨known ++ [group], List.mem_map.mpr ⟨_, hknown, by rw [if_pos ⟨rfl, hgroup⟩]⟩,
            List.mem_append_right _ (List.mem_singleton.mpr rfl)⟩
  · constructor
    · rintro ⟨groups, hgroups, hgroup⟩
      rcases List.mem_append.mp hgroups with hgroups | hgroups
      · exact .inl ⟨groups, hgroups, hgroup⟩
      · cases List.mem_singleton.mp hgroups
        obtain rfl := List.mem_singleton.mp hgroup
        exact .inr rfl
    · rintro (⟨groups, hgroups, hgroup⟩ | rfl)
      · exact ⟨groups, List.mem_append_left _ hgroups, hgroup⟩
      · exact ⟨[group], List.mem_append_right _ (List.mem_singleton.mpr rfl),
          List.mem_singleton.mpr rfl⟩

/-- **The groups a block counts for** are those of the due fields read from it. -/
theorem countsFor_dueReads : CountsFor (dueReads (dueFields room plan)) component group ↔
    ∃ field, isDue room plan field = true ∧ fieldRead room field = ⟨component, group⟩ := by
  refine (Collect.foldl_iff (P := (CountsFor · component group))
    (A := fun due : RoomField × FieldRead => due.2 = ⟨component, group⟩)
    (fun _ _ => countsFor_addDueRead) _ _).trans ?_
  constructor
  · rintro (⟨groups, hmem, -⟩ | ⟨⟨field, source⟩, hmem, rfl⟩)
    · cases hmem
    · obtain ⟨hdue, hsource⟩ := mem_dueFields.mp hmem
      exact ⟨field, hdue, hsource.symm⟩
  · rintro ⟨field, hdue, hsource⟩
    exact .inr ⟨_, mem_dueFields.mpr ⟨hdue, rfl⟩, hsource⟩

/-- Every read counts for some group. -/
theorem groups_ne_nil_of_mem_dueReads {groups : List ReadGroup}
    (h : (component, groups) ∈ dueReads (dueFields room plan)) : groups ≠ [] := by
  have hround : ∀ (reads : List DueRead) (due : RoomField × FieldRead),
      (∀ read ∈ reads, read.2 ≠ []) → ∀ read ∈ addDueRead reads due.2, read.2 ≠ [] := by
    intro reads due hreads read hread
    unfold addDueRead at hread
    split at hread
    · obtain ⟨old, hold, rfl⟩ := List.mem_map.mp hread
      split
      · simp
      · exact hreads old hold
    · rcases List.mem_append.mp hread with hread | hread
      · exact hreads read hread
      · rw [List.mem_singleton.mp hread]
        simp
  exact List.foldlRecOn (dueFields room plan) _ (by simp)
    (fun reads hreads due _ => hround reads due hreads) _ h

end Due

end MeltemVentilation
