import MeltemVentilation.FlowHelpers
import MeltemVentilation.Lib.Dict
import MeltemVentilation.Lib.Transition
import MeltemVentilation.ModbusClient.RoomRead
import MeltemVentilation.PreviewMigration
import Mathlib.Data.Finset.Sort
import Mathlib.Data.String.Basic

/-!
# The repair issues

Two kinds of issues are raised for the user: one for the units that the gateway reports and that are
not set up (`NewUnitIssue` of `new_units.py`), and one for each sensor that a unit should have by
its profile and that never reports a value (`MissingSensorIssues` of `missing_sensors.py`).
Home Assistant keeps the issues, and whether the user ignores them, over reloads of the
integration and, without their texts and as inactive ones, over its own restarts; the
integration forgets everything else. So each start has to take over what is there, and to clear what
does not apply any more, without deleting what still does, since that would also forget that the
user ignores it.

Three results hold of every run with reloads and restarts in it.

* **The issue for new units shows what is new** (`newUnits_shown`): the units of the latest check
  since Home Assistant has been started that were not configured then, without those that have
  been configured since; the addresses, which survive a reload only in the text of the issue, are
  read back from it.
* **An issue for a sensor is shown after three reads without a value** (`missingSensors_shown`),
  counted from the last value or the last start, and from then on until there is a value or the
  unit is no longer expected to have the sensor.
* **What is ignored stays ignored** (`ignored_kept`), as long as it applies.

The registry of the issues is kept by Home Assistant. Its calls are the parameter `IssueApi`, of
which only what is documented of them is used (`IssueApi.Documented`).
-/

namespace MeltemVentilation

/-! ### The registry -/

/-- What an issue says. -/
structure IssueText where
  translationKey : String
  placeholders : List (String × String)
deriving DecidableEq

/-- An issue in the registry. -/
structure RegistryIssue where
  active : Bool
  /-- The user ignores it: `dismissed_version` is set. -/
  dismissed : Bool
  text : Option IssueText
deriving DecidableEq

/-- What Home Assistant keeps of an issue over a restart. -/
def RegistryIssue.stored (issue : RegistryIssue) : RegistryIssue :=
  { issue with active := false, text := none }

/-- The calls for the issues of the integration. -/
structure IssueApi (Store : Type) where
  /-- `async_get_issue`. -/
  issue : Store → String → Option RegistryIssue
  /-- The identifiers in `registry.issues`. -/
  issueIds : Store → List String
  /-- `async_create_issue`. -/
  createIssue : Store → String → IssueText → Store
  /-- `async_delete_issue`. -/
  deleteIssue : Store → String → Store
  /-- `async_ignore_issue`, which the user calls. -/
  ignoreIssue : Store → String → Bool → Store
  /-- A restart of Home Assistant. -/
  restart : Store → Store

/-- **What is documented of the calls**: an issue that is created is active, and ignored if it
has been before. -/
structure IssueApi.Documented {Store : Type} (api : IssueApi Store) : Prop where
  mem_issueIds : ∀ r id, id ∈ api.issueIds r ↔ (api.issue r id).isSome = true
  create : ∀ r id text other, api.issue (api.createIssue r id text) other =
    if other = id then some ⟨true, (api.issue r id).any (·.dismissed), some text⟩
    else api.issue r other
  delete : ∀ r id other, api.issue (api.deleteIssue r id) other =
    if other = id then none else api.issue r other
  ignore : ∀ r id ignored other, api.issue (api.ignoreIssue r id ignored) other =
    if other = id then (api.issue r id).map fun issue => { issue with dismissed := ignored }
    else api.issue r other
  restart : ∀ r id, api.issue (api.restart r) id = (api.issue r id).map RegistryIssue.stored

/-! ### New units -/

/-- `sorted(set(addresses))`. -/
def sortedSet (addresses : Finset ℕ) : List ℕ := addresses.sort (· ≤ ·)

/-- `int(part)` of the digits of a text, as `restore` finds them. -/
def addressOf (item : String) : Option ℕ :=
  let part := stripBlanks item.toList
  if part ≠ [] ∧ part.all Char.isDigit = true then
    (parseInt (String.ofList part)).map Int.toNat
  else none

/-- The addresses in a text. -/
def parseAddresses (text : String) : List ℕ := (splitText "," text).filterMap addressOf

/-- The text of the issue for some addresses. -/
def newUnitsText (addresses : List ℕ) : IssueText where
  translationKey := "new_units_found"
  placeholders := [("count", toString addresses.length),
    ("addresses", ", ".intercalate (addresses.map toString))]

/-- `NewUnitIssue`: the addresses that the issue reports, `none` until the first check. -/
structure NewUnitIssue where
  reported : Option (List ℕ) := none

/-- `MISSING_SENSOR_ISSUE_AFTER_READS`. -/
def missingSensorIssueAfterReads : ℕ := 3

/-- `PROFILE_SENSORS`. -/
def profileSensors : List RoomField :=
  [.humidityExtractAir, .humiditySupplyAir, .co2ExtractAir, .vocSupplyAir]

/-- `placeholder_sensors`: the profile sensors of a unit. -/
def placeholderSensors (room : RoomConfig) : List RoomField :=
  profileSensors.filter fun sensor =>
    match sensor with
    | .humidityExtractAir | .humiditySupplyAir => room.profile.hasHumidity
    | .co2ExtractAir => room.profile.hasCo2
    | _ => room.profile.hasVoc

/-- The key of a unit, and one of its sensors. -/
abbrev SensorKey := String × RoomField

/-- `MissingSensorIssues`. -/
structure MissingSensorIssues where
  missingReads : Dict SensorKey ℕ := ∅
  raised : Finset SensorKey := ∅

section Issues

variable {Store : Type} (api : IssueApi Store) (entryId : String)

/-- `_issue_id` of the issue for new units. -/
def newUnitsId : String := "new_units_" ++ entryId

/-- `NewUnitIssue.update`. -/
def NewUnitIssue.update (self : NewUnitIssue) (r : Store) (reported configured : List ℕ) :
    NewUnitIssue × Store :=
  let newUnits := sortedSet (reported.toFinset \ configured.toFinset)
  if some newUnits = self.reported then (self, r)
  else if newUnits = [] then (⟨some newUnits⟩, api.deleteIssue r (newUnitsId entryId))
  else (⟨some newUnits⟩, api.createIssue r (newUnitsId entryId) (newUnitsText newUnits))

/-- `NewUnitIssue.restore`, of a new object. -/
def NewUnitIssue.restore (r : Store) (configured : List ℕ) : NewUnitIssue × Store :=
  match api.issue r (newUnitsId entryId) with
  | none => ({}, r)
  | some issue =>
    if issue.active then
      let placeholders := (issue.text.map (·.placeholders)).getD []
      let reported := parseAddresses ((placeholders.lookup "addresses").getD "")
      NewUnitIssue.update api entryId ⟨some (sortedSet reported.toFinset)⟩ r
        (sortedSet reported.toFinset) configured
    else ({}, r)

/-- The beginning of the issues for sensors. -/
def missingSensorPrefix : String := "missing_sensor_" ++ entryId ++ "_"

/-- `_issue_id` of the issue for a sensor. -/
def missingSensorId (key : SensorKey) : String :=
  missingSensorPrefix entryId ++ key.1 ++ "_" ++ key.2.name

/-- `expected`: the sensors of some units by the identifiers of their issues. -/
def expectedSensors (rooms : List RoomConfig) : Dict String SensorKey :=
  Dict.update ∅ <| rooms.flatMap fun room =>
    (placeholderSensors room).map fun sensor =>
      (missingSensorId entryId (room.key, sensor), (room.key, sensor))

namespace MissingSensorIssues

/-- One round of the loop of `restore`. The issue is the one of the beginning. -/
def restoreIssue (start : Store) (rooms : List RoomConfig)
    (state : MissingSensorIssues × Store) (id : String) : MissingSensorIssues × Store :=
  if ¬startsWith (missingSensorPrefix entryId) id then state
  else
    match (expectedSensors entryId rooms).lookup id with
    | none => (state.1, api.deleteIssue state.2 id)
    | some key =>
      if (api.issue start id).any (·.active) then
        ({ missingReads := state.1.missingReads.insert key missingSensorIssueAfterReads
           raised := insert key state.1.raised }, state.2)
      else state

/-- `restore`, of a new object. -/
def restore (r : Store) (rooms : List RoomConfig) : MissingSensorIssues × Store :=
  (api.issueIds r).foldl (restoreIssue api entryId r rooms) ({}, r)

/-- A sensor has a value. -/
def recordValue (state : MissingSensorIssues × Store) (key : SensorKey) :
    MissingSensorIssues × Store :=
  let self : MissingSensorIssues :=
    { state.1 with missingReads := state.1.missingReads.erase key }
  if key ∈ self.raised then
    ({ self with raised := self.raised.erase key },
      api.deleteIssue state.2 (missingSensorId entryId key))
  else (self, state.2)

/-- The text of the issue for a sensor. -/
def missingSensorText (unitName : String) (profile : Profile) (sensor : RoomField) :
    IssueText where
  translationKey := "missing_" ++ sensor.name
  placeholders := [("unit", unitName), ("profile", profileLabel profile)]

/-- A sensor has no value. -/
def recordMissing (unitName : String) (profile : Profile)
    (state : MissingSensorIssues × Store) (key : SensorKey) : MissingSensorIssues × Store :=
  let count := (state.1.missingReads.lookup key).getD 0 + 1
  let self : MissingSensorIssues :=
    { state.1 with missingReads := state.1.missingReads.insert key count }
  if missingSensorIssueAfterReads ≤ count ∧ key ∉ self.raised then
    ({ self with raised := insert key self.raised },
      api.createIssue state.2 (missingSensorId entryId key)
        (missingSensorText unitName profile key.2))
  else (self, state.2)

/-- `record`. The sensors are taken in a fixed order; no two of them have to do with one another. -/
def record (unitName : String) (self : MissingSensorIssues) (r : Store) (room : RoomConfig)
    (outcome : ReadJobOutcome) : MissingSensorIssues × Store :=
  let state := ((profileSensors.filter (· ∈ outcome.sensorValues)).map (room.key, ·)).foldl
    (recordValue api entryId) (self, r)
  ((profileSensors.filter (· ∈ outcome.missingSensorValues)).map (room.key, ·)).foldl
    (recordMissing api entryId unitName room.profile) state

end MissingSensorIssues

/-! ### The runs -/

/-- The integration with the registry. -/
structure RepairIssues (Store : Type) where
  registry : Store
  rooms : List RoomConfig := []
  newUnits : NewUnitIssue := {}
  missingSensors : MissingSensorIssues := {}

/-- What happens to the issues. -/
inductive RepairEvent where
  /-- The gateway has reported its units. -/
  | check (units : List ℕ)
  /-- A unit has been read. -/
  | record (room : RoomConfig) (outcome : ReadJobOutcome) (unitName : String)
  /-- The integration is loaded again. -/
  | reload (rooms : List RoomConfig)
  /-- Home Assistant is started again. -/
  | restart (rooms : List RoomConfig)
  /-- The user ignores an issue, or does not any more. -/
  | ignore (id : String) (ignored : Bool)

namespace RepairIssues

/-- The integration is loaded. -/
def load (r : Store) (rooms : List RoomConfig) : RepairIssues Store :=
  let (missingSensors, r) := MissingSensorIssues.restore api entryId r rooms
  let (newUnits, r) := NewUnitIssue.restore api entryId r (rooms.map (·.slave))
  { registry := r, rooms := rooms, newUnits := newUnits, missingSensors := missingSensors }

/-- One event. -/
def step (s : RepairIssues Store) : RepairEvent → Option (RepairIssues Store)
  | .check units =>
    let (newUnits, r) := s.newUnits.update api entryId s.registry units (s.rooms.map (·.slave))
    some { s with newUnits := newUnits, registry := r }
  | .record room outcome unitName =>
    let (missingSensors, r) :=
      MissingSensorIssues.record api entryId unitName s.missingSensors s.registry room outcome
    some { s with missingSensors := missingSensors, registry := r }
  | .reload rooms => some (load api entryId s.registry rooms)
  | .restart rooms => some (load api entryId (api.restart s.registry) rooms)
  | .ignore id ignored => some { s with registry := api.ignoreIssue s.registry id ignored }

end RepairIssues

end Issues

/-! ### The text of the issue for new units -/

/-- Joining with a blank after each comma is joining parts that begin with a blank. -/
theorem intercalate_blank (part : List Char) (parts : List (List Char)) :
    [',', ' '].intercalate (part :: parts) = [','].intercalate (part :: parts.map (' ' :: ·)) := by
  have hblank : ∀ (part : List Char) (parts : List (List Char)),
      [','].intercalate ((' ' :: part) :: parts) = ' ' :: [','].intercalate (part :: parts) := by
    intro part parts
    cases parts with
    | nil => simp
    | cons next parts => simp only [List.intercalate_cons_cons, List.cons_append]
  induction parts generalizing part with
  | nil => simp
  | cons next parts ih =>
    rw [List.map_cons, List.intercalate_cons_cons, List.intercalate_cons_cons, ih next, hblank]
    simp

/-- The digits of a number, with a blank before them or not. -/
theorem addressOf_digits (n : ℕ) : addressOf (toString n) = some n ∧
    addressOf (String.ofList (' ' :: (toString n).toList)) = some n := by
  have htext : (toString n).toList = Nat.toDigits 10 n := by simp [Nat.toString_eq_repr]
  have hdigits : ∀ c ∈ Nat.toDigits 10 n, c.isDigit = true :=
    fun c hc => Nat.isDigit_of_mem_toDigits (by decide) (by decide) hc
  have hstrip : stripBlanks (Nat.toDigits 10 n) = Nat.toDigits 10 n :=
    stripBlanks_of_not_isBlank fun c hc => (isBlank_of_isDigit (hdigits c hc)).1
  have hblank : stripBlanks (' ' :: Nat.toDigits 10 n) = Nat.toDigits 10 n := by
    rw [stripBlanks, List.dropWhile_cons, if_pos (by decide)]
    exact hstrip
  have hpart : Nat.toDigits 10 n ≠ [] ∧ (Nat.toDigits 10 n).all Char.isDigit = true :=
    ⟨Nat.toDigits_ne_nil, List.all_eq_true.mpr hdigits⟩
  have hvalue : (parseInt (String.ofList (Nat.toDigits 10 n))).map Int.toNat = some n := by
    rw [← htext, String.ofList_toList, parseInt_toString]
    rfl
  constructor
  · rw [addressOf, htext, hstrip]
    exact (if_pos hpart).trans hvalue
  · rw [addressOf, String.toList_ofList, htext, hblank]
    exact (if_pos hpart).trans hvalue

/-- **The addresses are read back from the text.** -/
theorem parseAddresses_text (addresses : List ℕ) :
    parseAddresses (", ".intercalate (addresses.map toString)) = addresses := by
  cases addresses with
  | nil => decide
  | cons first addresses =>
    have hcomma : ∀ n : ℕ, ',' ∉ (toString n).toList := by
      intro n hmem
      rw [show (toString n).toList = Nat.toDigits 10 n by simp [Nat.toString_eq_repr]] at hmem
      exact absurd (Nat.isDigit_of_mem_toDigits (by decide) (by decide) hmem) (by decide)
    have hjoin : ", ".intercalate ((first :: addresses).map toString) =
        ",".intercalate (toString first ::
          addresses.map fun n => String.ofList (' ' :: (toString n).toList)) := by
      apply String.toList_injective
      have hlist := intercalate_blank (toString first).toList
        (addresses.map fun n => (toString n).toList)
      simpa [String.toList_intercalate, Function.comp_def] using hlist
    have hmark : ',' ∈ ",".toList := by decide
    rw [parseAddresses, hjoin, splitText_intercalate hmark (by simp)]
    · rw [List.filterMap_cons_some (addressOf_digits first).1]
      congr 1
      clear hjoin
      induction addresses with
      | nil => rfl
      | cons n addresses ih =>
        rw [List.map_cons, List.filterMap_cons_some (addressOf_digits n).2, ih]
    · intro part hpart
      rcases List.mem_cons.mp hpart with rfl | hpart
      · exact hcomma first
      · obtain ⟨n, -, rfl⟩ := List.mem_map.mp hpart
        rw [String.toList_ofList, List.mem_cons, not_or]
        exact ⟨by decide, hcomma n⟩

/-! ### The issue for new units -/

/-- What the user sees of an issue, ignored or not. -/
def shown (issue : Option RegistryIssue) : Option IssueText :=
  issue.bind fun issue => if issue.active then issue.text else none

/-- The text for some units, if there are any. -/
def newUnitsListing (units : Finset ℕ) : Option IssueText :=
  if units = ∅ then none else some (newUnitsText (sortedSet units))

theorem sortedSet_eq_nil {units : Finset ℕ} : sortedSet units = [] ↔ units = ∅ := by
  rw [sortedSet, ← List.length_eq_zero_iff, Finset.length_sort, Finset.card_eq_zero]

theorem sortedSet_injective {units units' : Finset ℕ} (h : sortedSet units = sortedSet units') :
    units = units' := by
  have hset := congrArg List.toFinset h
  rwa [sortedSet, sortedSet, Finset.sort_toFinset, Finset.sort_toFinset] at hset

/-- **The units of a shown issue are read back.** -/
theorem parseAddresses_shown {issue : RegistryIssue} {units : Finset ℕ}
    (hactive : issue.active = true) (h : shown (some issue) = newUnitsListing units) :
    (parseAddresses ((((issue.text.map (·.placeholders)).getD []).lookup
      "addresses").getD "")).toFinset = units := by
  have htext : issue.text = newUnitsListing units := by
    rw [← h]
    exact (if_pos hactive).symm
  rw [htext, newUnitsListing]
  split
  · rename_i hempty
    rw [hempty]
    decide
  · have hlookup : (newUnitsText (sortedSet units)).placeholders.lookup "addresses" =
        some (", ".intercalate ((sortedSet units).map toString)) := rfl
    rw [Option.map_some, Option.getD_some, hlookup, Option.getD_some, parseAddresses_text,
      sortedSet, Finset.sort_toFinset]

section Runs

variable {Store : Type} {api : IssueApi Store} (hapi : api.Documented) {entryId : String}

/-- **The issue lists some units**, and the object knows them. -/
structure Lists (api : IssueApi Store) (entryId : String) (r : Store) (known : NewUnitIssue)
    (units : Finset ℕ) : Prop where
  shown : shown (api.issue r (newUnitsId entryId)) = newUnitsListing units
  reported : ∀ l, known.reported = some l → l = sortedSet units
  unknown : known.reported = none → units = ∅

include hapi in
/-- **A check**: the issue lists what is new. -/
theorem Lists.update {r : Store} {known : NewUnitIssue} {units : Finset ℕ}
    (h : Lists api entryId r known units) (reported configured : List ℕ) :
    Lists api entryId (known.update api entryId r reported configured).2
      (known.update api entryId r reported configured).1
      (reported.toFinset \ configured.toFinset) := by
  rw [NewUnitIssue.update]
  split
  · rename_i hsame
    have hunits := sortedSet_injective (h.reported _ hsame.symm)
    rw [hunits]
    exact h
  split
  · rename_i hnil
    rw [sortedSet_eq_nil.mp hnil]
    refine ⟨?_, fun l hl => ?_, fun hnone => by cases hnone⟩
    · rw [hapi.delete, if_pos rfl]
      rfl
    · exact (Option.some.inj hl).symm
  · rename_i hne
    refine ⟨?_, fun l hl => ?_, fun hnone => by cases hnone⟩
    · rw [hapi.create, if_pos rfl, newUnitsListing,
        if_neg fun hempty => hne (sortedSet_eq_nil.mpr hempty)]
      rfl
    · exact (Option.some.inj hl).symm

include hapi in
/-- **A start**: the issue loses what has been configured since. -/
theorem Lists.restore {r : Store} {units : Finset ℕ}
    (h : MeltemVentilation.shown (api.issue r (newUnitsId entryId)) = newUnitsListing units)
    (configured : List ℕ) :
    Lists api entryId (NewUnitIssue.restore api entryId r configured).2
      (NewUnitIssue.restore api entryId r configured).1 (units \ configured.toFinset) := by
  have hnothing : MeltemVentilation.shown (api.issue r (newUnitsId entryId)) = none →
      units = ∅ ∧ Lists api entryId r {} (units \ configured.toFinset) := by
    intro hnone
    have hunits : units = ∅ := by
      by_contra hne
      rw [h, newUnitsListing, if_neg hne] at hnone
      cases hnone
    subst hunits
    refine ⟨rfl, ?_, fun l hl => ?_, fun _ => Finset.empty_sdiff _⟩
    · rwa [Finset.empty_sdiff]
    · cases hl
  rw [NewUnitIssue.restore]
  cases hissue : api.issue r (newUnitsId entryId) with
  | none => exact (hnothing (by rw [hissue]; rfl)).2
  | some issue =>
    dsimp only
    by_cases hactive : issue.active = true
    · rw [if_pos hactive]
      rw [parseAddresses_shown hactive (hissue ▸ h)]
      have hstart : Lists api entryId r ⟨some (sortedSet units)⟩ units :=
        ⟨h, fun l hl => (Option.some.inj hl).symm, fun hnone => by cases hnone⟩
      have hafter := hstart.update hapi (sortedSet units) configured
      rwa [sortedSet, Finset.sort_toFinset, ← sortedSet] at hafter
    · rw [if_neg hactive]
      exact (hnothing (by rw [hissue]; exact if_neg hactive)).2

/-! ### The identifiers -/

theorem startsWith_missingSensorId (entryId : String) (key : SensorKey) :
    startsWith (missingSensorPrefix entryId) (missingSensorId entryId key) = true := by
  rw [missingSensorId, String.append_assoc, String.append_assoc]
  exact (removePrefix_append _ _).1

/-- The issue for new units is none for a sensor. -/
theorem not_startsWith_newUnitsId (entryId : String) :
    startsWith (missingSensorPrefix entryId) (newUnitsId entryId) = false := by
  have hprefix : "missing_sensor_".toList = 'm' :: "issing_sensor_".toList := rfl
  have hid : "new_units_".toList = 'n' :: "ew_units_".toList := rfl
  simp only [startsWith, missingSensorPrefix, newUnitsId, String.toList_append, hprefix, hid,
    List.cons_append]
  rfl

theorem newUnitsId_ne (entryId : String) (key : SensorKey) :
    newUnitsId entryId ≠ missingSensorId entryId key := by
  intro h
  have hstart := startsWith_missingSensorId entryId key
  rw [← h, not_startsWith_newUnitsId] at hstart
  cases hstart

/-- **Two sensors do not share an issue**: the name of no sensor is the end of another one's. -/
theorem missingSensorId_injective {key key' : SensorKey} (hkey : key.2 ∈ profileSensors)
    (hkey' : key'.2 ∈ profileSensors)
    (h : missingSensorId entryId key = missingSensorId entryId key') : key = key' := by
  have hnames : ∀ sensor ∈ profileSensors, ∀ sensor' ∈ profileSensors,
      sensor.name.toList <:+ sensor'.name.toList → sensor = sensor' := by decide
  have hlist := congrArg String.toList h
  simp only [missingSensorId, String.toList_append, List.append_assoc,
    List.append_cancel_left_eq] at hlist
  have hsensor : key.2 = key'.2 := by
    have hsuffix : key.2.name.toList <:+ key'.1.toList ++ ("_".toList ++ key'.2.name.toList) :=
      hlist ▸ (List.suffix_append _ _).trans (List.suffix_append _ _)
    have hsuffix' : key'.2.name.toList <:+ key'.1.toList ++ ("_".toList ++ key'.2.name.toList) :=
      (List.suffix_append _ _).trans (List.suffix_append _ _)
    rcases List.suffix_or_suffix_of_suffix hsuffix hsuffix' with hend | hend
    · exact hnames _ hkey _ hkey' hend
    · exact (hnames _ hkey' _ hkey hend).symm
  rw [hsensor, List.append_cancel_right_eq] at hlist
  exact Prod.ext (String.toList_injective hlist) hsensor

/-- The units are expected to have a sensor. -/
def Expected (rooms : List RoomConfig) (key : SensorKey) : Prop :=
  ∃ room ∈ rooms, room.key = key.1 ∧ key.2 ∈ placeholderSensors room

instance (rooms : List RoomConfig) (key : SensorKey) : Decidable (Expected rooms key) :=
  inferInstanceAs (Decidable (∃ room ∈ rooms, room.key = key.1 ∧ key.2 ∈ placeholderSensors room))

theorem mem_profileSensors_of_expected {rooms : List RoomConfig} {key : SensorKey}
    (h : Expected rooms key) : key.2 ∈ profileSensors := by
  obtain ⟨room, -, -, hsensor⟩ := h
  exact (List.mem_filter.mp hsensor).1

/-- What is expected is found under its identifier. -/
theorem lookup_expectedSensors {rooms : List RoomConfig} {id : String} {key : SensorKey} :
    (expectedSensors entryId rooms).lookup id = some key ↔
      id = missingSensorId entryId key ∧ Expected rooms key := by
  have hentries : ∀ entry ∈ (rooms.flatMap fun room => (placeholderSensors room).map fun sensor =>
      (missingSensorId entryId (room.key, sensor), (room.key, sensor))),
      entry.1 = missingSensorId entryId entry.2 ∧ Expected rooms entry.2 := by
    intro entry hentry
    obtain ⟨room, hroom, hsensors⟩ := List.mem_flatMap.mp hentry
    obtain ⟨sensor, hsensor, rfl⟩ := List.mem_map.mp hsensors
    exact ⟨rfl, room, hroom, rfl, hsensor⟩
  have hfound : ∀ id key, (expectedSensors entryId rooms).lookup id = some key →
      id = missingSensorId entryId key ∧ Expected rooms key :=
    Dict.forall_lookup_update (fun id key h => by cases h) hentries
  refine ⟨hfound id key, ?_⟩
  rintro ⟨rfl, hexpected⟩
  obtain ⟨room, hroom, hkey, hsensor⟩ := hexpected
  have hmem : missingSensorId entryId key ∈ expectedSensors entryId rooms := by
    refine Dict.mem_update.mpr (.inr (List.mem_map.mpr
      ⟨(missingSensorId entryId key, key), ?_, rfl⟩))
    refine List.mem_flatMap.mpr ⟨room, hroom, List.mem_map.mpr ⟨key.2, hsensor, ?_⟩⟩
    rw [hkey]
  obtain ⟨other, hother⟩ := Finmap.mem_iff.mp hmem
  obtain ⟨hid, hexpected⟩ := hfound _ _ hother
  rw [hother, missingSensorId_injective
    (mem_profileSensors_of_expected ⟨room, hroom, hkey, hsensor⟩)
    (mem_profileSensors_of_expected hexpected) hid]

/-! ### The issues for sensors -/

/-- **What speaks for an issue**: it has been shown at the last start, and as many reads since then
or since the last value have had none. -/
structure Evidence where
  carried : Bool := false
  reads : ℕ := 0

namespace Evidence

/-- Enough to show the issue. -/
def Enough (e : Evidence) : Prop := e.carried = true ∨ missingSensorIssueAfterReads ≤ e.reads

instance (e : Evidence) : Decidable e.Enough :=
  inferInstanceAs (Decidable (e.carried = true ∨ missingSensorIssueAfterReads ≤ e.reads))

/-- The count that stands for it. -/
def count (e : Evidence) : ℕ := (if e.carried then missingSensorIssueAfterReads else 0) + e.reads

/-- Another read without a value. -/
def missing (e : Evidence) : Evidence := { e with reads := e.reads + 1 }

/-- What a read of a unit says about a sensor. -/
def record (room : RoomConfig) (outcome : ReadJobOutcome) (evidence : SensorKey → Evidence)
    (key : SensorKey) : Evidence :=
  if key.1 = room.key then
    let e := if key.2 ∈ outcome.sensorValues then {} else evidence key
    if key.2 ∈ outcome.missingSensorValues then e.missing else e
  else evidence key

/-- What a start finds: an issue of a sensor that is expected has been shown or not. -/
def ofStart (rooms : List RoomConfig) (wasShown : SensorKey → Bool) (key : SensorKey) :
    Evidence where
  carried := decide (Expected rooms key) && wasShown key

theorem enough_ofStart {rooms : List RoomConfig} {wasShown : SensorKey → Bool} {key : SensorKey} :
    (ofStart rooms wasShown key).Enough ↔ Expected rooms key ∧ wasShown key = true := by
  simp [ofStart, Enough, missingSensorIssueAfterReads]

theorem enough_iff (e : Evidence) : e.Enough ↔ missingSensorIssueAfterReads ≤ e.count := by
  rw [Enough, count]
  cases e.carried <;> simp

end Evidence

/-- Whether an issue is active. -/
def IssueApi.isActive (api : IssueApi Store) (r : Store) (id : String) : Bool :=
  (api.issue r id).any (·.active)

/-- **The issues for sensors are shown by the evidence**, and the object knows it. -/
structure Shows (api : IssueApi Store) (entryId : String) (r : Store) (known : MissingSensorIssues)
    (evidence : SensorKey → Evidence) : Prop where
  count : ∀ key, key.2 ∈ profileSensors →
    (known.missingReads.lookup key).getD 0 = (evidence key).count
  raised : ∀ key, key.2 ∈ profileSensors → (key ∈ known.raised ↔ (evidence key).Enough)
  active : ∀ key, key.2 ∈ profileSensors →
    (api.isActive r (missingSensorId entryId key) = true ↔ (evidence key).Enough)

include hapi in
/-- **A value** clears the issue. -/
theorem Shows.recordValue {state : MissingSensorIssues × Store} {evidence : SensorKey → Evidence}
    (h : Shows api entryId state.2 state.1 evidence) {key : SensorKey}
    (hkey : key.2 ∈ profileSensors) :
    Shows api entryId (MissingSensorIssues.recordValue api entryId state key).2
      (MissingSensorIssues.recordValue api entryId state key).1
      (Function.update evidence key {}) := by
  have hcount : ∀ other, other.2 ∈ profileSensors →
      ((state.1.missingReads.erase key).lookup other).getD 0 =
        (Function.update evidence key {} other).count := by
    intro other hother
    by_cases hsame : other = key
    · subst hsame
      rw [Finmap.lookup_erase, Function.update_self]
      rfl
    · rw [Finmap.lookup_erase_ne hsame, Function.update_of_ne hsame, h.count other hother]
  have hnot : ¬({} : Evidence).Enough := by decide
  unfold MissingSensorIssues.recordValue
  dsimp only
  split
  · refine ⟨hcount, fun other hother => ?_, fun other hother => ?_⟩
    · by_cases hsame : other = key
      · subst hsame
        simp [Function.update_self, hnot]
      · rw [Function.update_of_ne hsame, ← h.raised other hother, Finset.mem_erase]
        exact and_iff_right hsame
    · rw [IssueApi.isActive, hapi.delete]
      by_cases hsame : other = key
      · subst hsame
        simp [Function.update_self, hnot]
      · rw [Function.update_of_ne hsame,
          if_neg fun hid => hsame (missingSensorId_injective hother hkey hid)]
        exact h.active other hother
  · rename_i hraised
    have hevidence : ∀ other, other.2 ∈ profileSensors →
        ((Function.update evidence key {} other).Enough ↔ (evidence other).Enough) := by
      intro other hother
      by_cases hsame : other = key
      · subst hsame
        rw [Function.update_self, ← h.raised other hother]
        exact iff_of_false hnot hraised
      · rw [Function.update_of_ne hsame]
    exact ⟨hcount, fun other hother => (h.raised other hother).trans (hevidence other hother).symm,
      fun other hother => (h.active other hother).trans (hevidence other hother).symm⟩

include hapi in
/-- **A read without a value** counts, and the third one shows the issue. -/
theorem Shows.recordMissing {state : MissingSensorIssues × Store}
    {evidence : SensorKey → Evidence} (h : Shows api entryId state.2 state.1 evidence)
    {key : SensorKey} (hkey : key.2 ∈ profileSensors) (unitName : String) (profile : Profile) :
    Shows api entryId
      (MissingSensorIssues.recordMissing api entryId unitName profile state key).2
      (MissingSensorIssues.recordMissing api entryId unitName profile state key).1
      (Function.update evidence key (evidence key).missing) := by
  have hnext : (evidence key).missing.count = (evidence key).count + 1 := rfl
  have hcount : ∀ other, other.2 ∈ profileSensors →
      ((state.1.missingReads.insert key ((state.1.missingReads.lookup key).getD 0 + 1)).lookup
        other).getD 0 = (Function.update evidence key (evidence key).missing other).count := by
    intro other hother
    by_cases hsame : other = key
    · subst hsame
      rw [Finmap.lookup_insert, Function.update_self, hnext, Option.getD_some, h.count other hother]
    · rw [Finmap.lookup_insert_of_ne _ hsame, Function.update_of_ne hsame, h.count other hother]
  unfold MissingSensorIssues.recordMissing
  dsimp only
  rw [h.count key hkey] at hcount ⊢
  split
  · rename_i henough
    have hshown : (evidence key).missing.Enough := by
      rw [Evidence.enough_iff, hnext]
      exact henough.1
    refine ⟨hcount, fun other hother => ?_, fun other hother => ?_⟩
    · by_cases hsame : other = key
      · subst hsame
        simp [Function.update_self, hshown]
      · rw [Function.update_of_ne hsame, ← h.raised other hother, Finset.mem_insert]
        exact or_iff_right hsame
    · rw [IssueApi.isActive, hapi.create]
      by_cases hsame : other = key
      · subst hsame
        simp [Function.update_self, hshown]
      · rw [Function.update_of_ne hsame,
          if_neg fun hid => hsame (missingSensorId_injective hother hkey hid)]
        exact h.active other hother
  · rename_i hnot
    have hevidence : ∀ other, other.2 ∈ profileSensors →
        ((Function.update evidence key (evidence key).missing other).Enough ↔
          (evidence other).Enough) := by
      intro other hother
      by_cases hsame : other = key
      · subst hsame
        rw [Function.update_self, Evidence.enough_iff, Evidence.enough_iff, hnext]
        -- Below the limit it is not reached now, and above it has been reached before.
        have hraised := (h.raised other hother).trans (evidence other).enough_iff
        constructor
        · intro hle
          by_contra hlow
          exact hnot ⟨hle, fun hmem => hlow (hraised.mp hmem)⟩
        · exact fun hle => hle.trans (Nat.le_succ _)
      · rw [Function.update_of_ne hsame]
    exact ⟨hcount, fun other hother => (h.raised other hother).trans (hevidence other hother).symm,
      fun other hother => (h.active other hother).trans (hevidence other hother).symm⟩

/-- One sensor after the other. -/
theorem Shows.foldl {f : MissingSensorIssues × Store → SensorKey → MissingSensorIssues × Store}
    {g : Evidence → Evidence}
    (hstep : ∀ state evidence key, key.2 ∈ profileSensors →
      Shows api entryId state.2 state.1 evidence →
      Shows api entryId (f state key).2 (f state key).1
        (Function.update evidence key (g (evidence key))))
    {keys : List SensorKey} (hnodup : keys.Nodup) (hkeys : ∀ key ∈ keys, key.2 ∈ profileSensors)
    {state : MissingSensorIssues × Store} {evidence : SensorKey → Evidence}
    (h : Shows api entryId state.2 state.1 evidence) :
    Shows api entryId (keys.foldl f state).2 (keys.foldl f state).1
      fun key => if key ∈ keys then g (evidence key) else evidence key := by
  induction keys generalizing state evidence with
  | nil => simpa using h
  | cons first keys ih =>
    obtain ⟨hnew, hnodup⟩ := List.nodup_cons.mp hnodup
    have hfirst := hstep state evidence first (hkeys first List.mem_cons_self) h
    have hrest := ih hnodup (fun key hmem => hkeys key (List.mem_cons_of_mem _ hmem)) hfirst
    have hsame : (fun key => if key ∈ keys then
          g (Function.update evidence first (g (evidence first)) key)
        else Function.update evidence first (g (evidence first)) key) =
        fun key => if key ∈ first :: keys then g (evidence key) else evidence key := by
      funext key
      by_cases hkey : key = first
      · subst hkey
        rw [if_neg hnew, Function.update_self, if_pos List.mem_cons_self]
      · simp [hkey]
    rw [hsame] at hrest
    exact hrest

/-- The keys of some sensors of a unit. -/
theorem mem_keys {room : RoomConfig} {sensors : Finset RoomField} {key : SensorKey} :
    key ∈ (profileSensors.filter (· ∈ sensors)).map (room.key, ·) ↔
      key.1 = room.key ∧ key.2 ∈ profileSensors ∧ key.2 ∈ sensors := by
  obtain ⟨roomKey, sensor⟩ := key
  simp only [List.mem_map, List.mem_filter, decide_eq_true_eq, Prod.mk.injEq]
  constructor
  · rintro ⟨other, ⟨hprofile, hmem⟩, rfl, rfl⟩
    exact ⟨rfl, hprofile, hmem⟩
  · rintro ⟨rfl, hprofile, hmem⟩
    exact ⟨sensor, ⟨hprofile, hmem⟩, rfl, rfl⟩

theorem nodup_keys (room : RoomConfig) (sensors : Finset RoomField) :
    ((profileSensors.filter (· ∈ sensors)).map (room.key, ·)).Nodup :=
  (List.Nodup.filter _ (by decide)).map (Prod.mk_right_injective room.key)

include hapi in
/-- **A read of a unit.** -/
theorem Shows.record {r : Store} {known : MissingSensorIssues} {evidence : SensorKey → Evidence}
    (h : Shows api entryId r known evidence) (unitName : String) (room : RoomConfig)
    (outcome : ReadJobOutcome) :
    Shows api entryId
      (MissingSensorIssues.record api entryId unitName known r room outcome).2
      (MissingSensorIssues.record api entryId unitName known r room outcome).1
      (Evidence.record room outcome evidence) := by
  have hstart : Shows api entryId (known, r).2 (known, r).1 evidence := h
  have hvalues := Shows.foldl (g := fun _ => {})
    (fun state evidence key hkey h => h.recordValue hapi hkey)
    (nodup_keys room outcome.sensorValues) (fun key hkey => (mem_keys.mp hkey).2.1) hstart
  have hmissing := Shows.foldl (g := Evidence.missing)
    (fun state evidence key hkey h => h.recordMissing hapi hkey unitName room.profile)
    (nodup_keys room outcome.missingSensorValues) (fun key hkey => (mem_keys.mp hkey).2.1) hvalues
  rw [MissingSensorIssues.record]
  refine ⟨fun key hkey => (hmissing.count key hkey).trans ?_,
    fun key hkey => (hmissing.raised key hkey).trans ?_,
    fun key hkey => (hmissing.active key hkey).trans ?_⟩
  all_goals
    simp only [mem_keys, hkey, true_and, Evidence.record]
    by_cases hroom : key.1 = room.key <;> simp [hroom]

/-- The loop of `restore`, after some of the issues. -/
structure Restoring (api : IssueApi Store) (entryId : String) (start : Store)
    (rooms : List RoomConfig) (done : List String) (state : MissingSensorIssues × Store) :
    Prop where
  raised : ∀ key, key.2 ∈ profileSensors → (key ∈ state.1.raised ↔
    missingSensorId entryId key ∈ done ∧ Expected rooms key ∧
      api.isActive start (missingSensorId entryId key) = true)
  count : ∀ key, key.2 ∈ profileSensors → (state.1.missingReads.lookup key).getD 0 =
    if key ∈ state.1.raised then missingSensorIssueAfterReads else 0
  issue : ∀ id, api.issue state.2 id =
    if id ∈ done ∧ startsWith (missingSensorPrefix entryId) id = true ∧
        (expectedSensors entryId rooms).lookup id = none then none
    else api.issue start id

include hapi in
/-- One round of the loop. -/
theorem Restoring.next {start : Store} {rooms : List RoomConfig} {done : List String}
    {state : MissingSensorIssues × Store} (h : Restoring api entryId start rooms done state)
    (id : String) :
    Restoring api entryId start rooms (done ++ [id])
      (MissingSensorIssues.restoreIssue api entryId start rooms state id) := by
  have hid : ∀ key, startsWith (missingSensorPrefix entryId) id = false →
      missingSensorId entryId key ≠ id := by
    rintro key hnot rfl
    rw [startsWith_missingSensorId] at hnot
    cases hnot
  unfold MissingSensorIssues.restoreIssue
  by_cases hstart : startsWith (missingSensorPrefix entryId) id = true
  · rw [if_neg (by simp [hstart])]
    split
    · rename_i hnone
      refine ⟨fun key hkey => ?_, h.count, fun other => ?_⟩
      · rw [h.raised key hkey, List.mem_append, List.mem_singleton]
        refine and_congr_left fun hexpected => (or_iff_left ?_).symm
        rintro rfl
        rw [lookup_expectedSensors.mpr ⟨rfl, hexpected.1⟩] at hnone
        cases hnone
      · rw [hapi.delete, h.issue]
        by_cases hother : other = id
        · subst hother
          simp [hstart, hnone]
        · simp [hother]
    · rename_i key hfound
      obtain ⟨rfl, hexpected⟩ := lookup_expectedSensors.mp hfound
      have hkey := mem_profileSensors_of_expected hexpected
      have hissue : ∀ other, api.issue state.2 other =
          if other ∈ done ++ [missingSensorId entryId key] ∧
              startsWith (missingSensorPrefix entryId) other = true ∧
              (expectedSensors entryId rooms).lookup other = none then none
          else api.issue start other := by
        intro other
        rw [h.issue]
        by_cases hother : other = missingSensorId entryId key
        · subst hother
          simp [hfound]
        · simp [hother]
      have hthis : ∀ other, other.2 ∈ profileSensors → other ≠ key →
          missingSensorId entryId other ≠ missingSensorId entryId key :=
        fun other hother hne hid => hne (missingSensorId_injective hother hkey hid)
      split
      · rename_i hactive
        refine ⟨fun other hother => ?_, fun other hother => ?_, hissue⟩
        · rw [Finset.mem_insert, h.raised other hother, List.mem_append, List.mem_singleton]
          by_cases hsame : other = key
          · subst hsame
            simp [hexpected, IssueApi.isActive, hactive]
          · simp [hsame, hthis other hother hsame]
        · by_cases hsame : other = key
          · subst hsame
            simp
          · rw [Finmap.lookup_insert_of_ne _ hsame, h.count other hother]
            simp [hsame]
      · rename_i hinactive
        refine ⟨fun other hother => ?_, h.count, hissue⟩
        rw [h.raised other hother, List.mem_append, List.mem_singleton]
        by_cases hsame : other = key
        · subst hsame
          simp [IssueApi.isActive, hinactive]
        · simp [hthis other hother hsame]
  · rw [Bool.not_eq_true] at hstart
    rw [if_pos (by simp [hstart])]
    refine ⟨fun key hkey => ?_, h.count, fun other => ?_⟩
    · rw [h.raised key hkey, List.mem_append, List.mem_singleton, or_iff_left (hid key hstart)]
    · rw [h.issue]
      by_cases hother : other = id
      · subst hother
        simp [hstart]
      · simp [hother]

include hapi in
theorem Restoring.foldl {start : Store} {rooms : List RoomConfig} {done : List String}
    {state : MissingSensorIssues × Store} (h : Restoring api entryId start rooms done state)
    (ids : List String) :
    Restoring api entryId start rooms (done ++ ids)
      (ids.foldl (MissingSensorIssues.restoreIssue api entryId start rooms) state) := by
  induction ids generalizing done state with
  | nil => rwa [List.append_nil]
  | cons id ids ih =>
    rw [List.foldl_cons, ← List.singleton_append, ← List.append_assoc]
    exact ih (h.next hapi id)

include hapi in
/-- **What a start leaves of the issues**: those of sensors that are not expected are gone. -/
theorem issue_restore (r : Store) (rooms : List RoomConfig) (id : String) :
    api.issue (MissingSensorIssues.restore api entryId r rooms).2 id =
      if startsWith (missingSensorPrefix entryId) id = true ∧
        (expectedSensors entryId rooms).lookup id = none then none else api.issue r id := by
  have hstart : Restoring api entryId r rooms [] ({}, r) :=
    ⟨fun key _ => by simp, fun key _ => by simp, fun id => by simp⟩
  rw [MissingSensorIssues.restore, (hstart.foldl hapi (api.issueIds r)).issue id, List.nil_append]
  have hmem := hapi.mem_issueIds r id
  cases hissue : api.issue r id with
  | none => simp
  | some issue => simp [hmem, hissue]

include hapi in
/-- **A start takes over the issues that still apply.** -/
theorem Shows.restore (r : Store) (rooms : List RoomConfig) :
    Shows api entryId (MissingSensorIssues.restore api entryId r rooms).2
      (MissingSensorIssues.restore api entryId r rooms).1
      (Evidence.ofStart rooms fun key => api.isActive r (missingSensorId entryId key)) := by
  have hstart : Restoring api entryId r rooms [] ({}, r) :=
    ⟨fun key _ => by simp, fun key _ => by simp, fun id => by simp⟩
  have hend := hstart.foldl hapi (api.issueIds r)
  rw [List.nil_append] at hend
  have hraised : ∀ key, key.2 ∈ profileSensors →
      (key ∈ (MissingSensorIssues.restore api entryId r rooms).1.raised ↔
        Expected rooms key ∧ api.isActive r (missingSensorId entryId key) = true) := by
    intro key hkey
    refine (hend.raised key hkey).trans (and_iff_right_of_imp fun hboth => ?_)
    rw [hapi.mem_issueIds]
    have hactive := hboth.2
    rw [IssueApi.isActive] at hactive
    cases hissue : api.issue r (missingSensorId entryId key) with
    | none => simp [hissue] at hactive
    | some issue => rfl
  refine ⟨fun key hkey => ?_, fun key hkey => ?_, fun key hkey => ?_⟩
  · refine (hend.count key hkey).trans ?_
    have hmem := hraised key hkey
    rw [MissingSensorIssues.restore] at hmem
    by_cases hboth : Expected rooms key ∧ api.isActive r (missingSensorId entryId key) = true
    · rw [if_pos (hmem.mpr hboth), Evidence.count, Evidence.ofStart]
      simp [hboth]
    · rw [if_neg fun h => hboth (hmem.mp h), Evidence.count, Evidence.ofStart, if_neg]
      · rfl
      · simpa using hboth
  · rw [Evidence.enough_ofStart]
    exact hraised key hkey
  · rw [Evidence.enough_ofStart, IssueApi.isActive, issue_restore hapi, startsWith_missingSensorId]
    by_cases hexpected : Expected rooms key
    · rw [lookup_expectedSensors.mpr ⟨rfl, hexpected⟩]
      simp [hexpected, IssueApi.isActive]
    · have hnone : (expectedSensors entryId rooms).lookup (missingSensorId entryId key) = none := by
        rw [Option.eq_none_iff_forall_ne_some]
        intro other hother
        obtain ⟨hid, hother⟩ := lookup_expectedSensors.mp hother
        have hsame := missingSensorId_injective hkey (mem_profileSensors_of_expected hother) hid
        exact hexpected (hsame ▸ hother)
      simp [hnone, hexpected]

/-! ### What is left alone -/

include hapi in
theorem issue_update_of_ne (known : NewUnitIssue) (r : Store) (reported configured : List ℕ)
    {id : String} (h : id ≠ newUnitsId entryId) :
    api.issue (known.update api entryId r reported configured).2 id = api.issue r id := by
  rw [NewUnitIssue.update]
  split
  · rfl
  split
  · rw [hapi.delete, if_neg h]
  · rw [hapi.create, if_neg h]

include hapi in
theorem issue_restoreNew_of_ne (r : Store) (configured : List ℕ) {id : String}
    (h : id ≠ newUnitsId entryId) :
    api.issue (NewUnitIssue.restore api entryId r configured).2 id = api.issue r id := by
  rw [NewUnitIssue.restore]
  split
  · rfl
  split
  · exact issue_update_of_ne hapi _ _ _ _ h
  · rfl

include hapi in
/-- A value touches the issue of its sensor only. -/
theorem issue_recordValue_of_ne (state : MissingSensorIssues × Store) (key : SensorKey)
    {id : String} (h : id ≠ missingSensorId entryId key) :
    api.issue (MissingSensorIssues.recordValue api entryId state key).2 id =
      api.issue state.2 id := by
  unfold MissingSensorIssues.recordValue
  dsimp only
  split
  · rw [hapi.delete, if_neg h]
  · rfl

include hapi in
/-- A read without a value touches the issue of its sensor only, and forgets nothing. -/
theorem issue_recordMissing (unitName : String) (profile : Profile)
    (state : MissingSensorIssues × Store) (key : SensorKey) (id : String) :
    (id ≠ missingSensorId entryId key →
      api.issue (MissingSensorIssues.recordMissing api entryId unitName profile state key).2 id =
        api.issue state.2 id) ∧
      ((api.issue state.2 id).any (·.dismissed) = true →
        (api.issue (MissingSensorIssues.recordMissing api entryId unitName profile state key).2
          id).any (·.dismissed) = true) := by
  unfold MissingSensorIssues.recordMissing
  dsimp only
  split
  · rw [hapi.create]
    refine ⟨fun h => if_neg h, fun h => ?_⟩
    split
    · rename_i hid
      subst hid
      exact h
    · exact h
  · exact ⟨fun _ => rfl, fun h => h⟩

include hapi in
/-- **A read touches the issues of its unit only**, and forgets no issue of a sensor without a
value. -/
theorem issue_record (unitName : String) (known : MissingSensorIssues) (r : Store)
    (room : RoomConfig) (outcome : ReadJobOutcome) (id : String)
    (h : ∀ sensor ∈ outcome.sensorValues, id ≠ missingSensorId entryId (room.key, sensor)) :
    ((∀ sensor, id ≠ missingSensorId entryId (room.key, sensor)) →
      api.issue (MissingSensorIssues.record api entryId unitName known r room outcome).2 id =
        api.issue r id) ∧
      ((api.issue r id).any (·.dismissed) = true →
        (api.issue (MissingSensorIssues.record api entryId unitName known r room outcome).2
          id).any (·.dismissed) = true) := by
  have hvalues : ∀ (keys : List SensorKey) (state : MissingSensorIssues × Store),
      (∀ key ∈ keys, id ≠ missingSensorId entryId key) →
      api.issue (keys.foldl (MissingSensorIssues.recordValue api entryId) state).2 id =
        api.issue state.2 id := by
    intro keys
    induction keys with
    | nil => exact fun _ _ => rfl
    | cons key keys ih =>
      intro state hne
      rw [List.foldl_cons, ih _ fun key hmem => hne key (List.mem_cons_of_mem _ hmem),
        issue_recordValue_of_ne hapi state key (hne key List.mem_cons_self)]
  have hmissing : ∀ (keys : List SensorKey) (state : MissingSensorIssues × Store),
      ((∀ key ∈ keys, id ≠ missingSensorId entryId key) →
        api.issue (keys.foldl
          (MissingSensorIssues.recordMissing api entryId unitName room.profile) state).2 id =
            api.issue state.2 id) ∧
        ((api.issue state.2 id).any (·.dismissed) = true →
          (api.issue (keys.foldl
            (MissingSensorIssues.recordMissing api entryId unitName room.profile) state).2
              id).any (·.dismissed) = true) := by
    intro keys
    induction keys with
    | nil => exact fun state => ⟨fun _ => rfl, fun h => h⟩
    | cons key keys ih =>
      intro state
      obtain ⟨hsame, hkept⟩ :=
        @issue_recordMissing Store api hapi entryId unitName room.profile state key id
      rw [List.foldl_cons]
      refine ⟨fun hne => ?_, fun hbefore => (ih _).2 (hkept hbefore)⟩
      rw [(ih _).1 fun key hmem => hne key (List.mem_cons_of_mem _ hmem),
        hsame (hne key List.mem_cons_self)]
  have hfirst := hvalues ((profileSensors.filter (· ∈ outcome.sensorValues)).map (room.key, ·))
    (known, r) fun key hkey => by
      obtain ⟨hroom, -, hmem⟩ := mem_keys.mp hkey
      have hne := h key.2 hmem
      rwa [← hroom] at hne
  rw [MissingSensorIssues.record]
  obtain ⟨hsame, hkept⟩ := hmissing
    ((profileSensors.filter (· ∈ outcome.missingSensorValues)).map (room.key, ·))
    (((profileSensors.filter (· ∈ outcome.sensorValues)).map (room.key, ·)).foldl
      (MissingSensorIssues.recordValue api entryId) (known, r))
  rw [hfirst] at hsame hkept
  refine ⟨fun hne => hsame fun key hkey => ?_, hkept⟩
  obtain ⟨hroom, -, -⟩ := mem_keys.mp hkey
  have hother := hne key.2
  rwa [← hroom] at hother

/-! ### A run -/

/-- What the issues should show: units, and what speaks for the issues of the sensors. -/
structure RepairRecord where
  units : Finset ℕ := ∅
  evidence : SensorKey → Evidence := fun _ => {}

namespace RepairRecord

/-- What happens to it. -/
def update (s : RepairIssues Store) : RepairEvent → RepairRecord → RepairRecord
  | .check units, record =>
    { record with units := units.toFinset \ (s.rooms.map (·.slave)).toFinset }
  | .record room outcome _, record =>
    { record with evidence := Evidence.record room outcome record.evidence }
  | .reload rooms, record =>
    { units := record.units \ (rooms.map (·.slave)).toFinset
      evidence := Evidence.ofStart rooms fun key => decide (record.evidence key).Enough }
  -- What has been shown is not, until there is another check and other reads.
  | .restart rooms, _ => { evidence := Evidence.ofStart rooms fun _ => false }
  | .ignore _ _, record => record

end RepairRecord

/-- Whether an issue is ignored does not change what it shows. -/
theorem shown_congr {issue issue' : Option RegistryIssue}
    (h : (issue.map fun issue => (issue.active, issue.text)) =
      issue'.map fun issue => (issue.active, issue.text)) :
    shown issue = shown issue' ∧ issue.any (·.active) = issue'.any (·.active) := by
  cases issue with
  | none =>
    cases issue' with
    | none => exact ⟨rfl, rfl⟩
    | some issue' => cases h
  | some issue =>
    cases issue' with
    | none => cases h
    | some issue' =>
      simp only [Option.map_some, Option.some.injEq, Prod.mk.injEq] at h
      simp only [shown, Option.bind_some, Option.any_some, h.1, h.2, and_self]

/-- **The issues show what they should.** -/
structure IssuesFollow (api : IssueApi Store) (entryId : String) (s : RepairIssues Store)
    (record : RepairRecord) : Prop where
  lists : Lists api entryId s.registry s.newUnits record.units
  shows : Shows api entryId s.registry s.missingSensors record.evidence

/-- What an object knows, where the issues are the same. -/
theorem Shows.congr {r r' : Store} {known : MissingSensorIssues} {evidence : SensorKey → Evidence}
    (h : Shows api entryId r known evidence)
    (hissue : ∀ key, api.isActive r' (missingSensorId entryId key) =
      api.isActive r (missingSensorId entryId key)) : Shows api entryId r' known evidence :=
  ⟨h.count, h.raised, fun key hkey => by rw [hissue]; exact h.active key hkey⟩

theorem Lists.congr {r r' : Store} {known : NewUnitIssue} {units : Finset ℕ}
    (h : Lists api entryId r known units)
    (hissue : MeltemVentilation.shown (api.issue r' (newUnitsId entryId)) =
      MeltemVentilation.shown (api.issue r (newUnitsId entryId))) :
    Lists api entryId r' known units :=
  ⟨hissue.trans h.shown, h.reported, h.unknown⟩

include hapi in
/-- **A start.** -/
theorem IssuesFollow.load {r : Store} {units : Finset ℕ}
    (h : shown (api.issue r (newUnitsId entryId)) = newUnitsListing units)
    (rooms : List RoomConfig) :
    IssuesFollow api entryId (RepairIssues.load api entryId r rooms)
      { units := units \ (rooms.map (·.slave)).toFinset
        evidence :=
          Evidence.ofStart rooms fun key => api.isActive r (missingSensorId entryId key) } := by
  have hsame : api.issue (MissingSensorIssues.restore api entryId r rooms).2
      (newUnitsId entryId) = api.issue r (newUnitsId entryId) := by
    rw [issue_restore hapi, not_startsWith_newUnitsId]
    simp
  refine ⟨Lists.restore hapi ((congrArg shown hsame).trans h) _,
    (Shows.restore hapi r rooms).congr fun key => ?_⟩
  exact congrArg (Option.any (·.active))
    (issue_restoreNew_of_ne hapi _ _ (newUnitsId_ne entryId key).symm)

include hapi in
/-- **What one event does.** -/
theorem IssuesFollow.step {s t : RepairIssues Store} {record : RepairRecord}
    (h : IssuesFollow api entryId s record) {event : RepairEvent}
    (hstep : s.step api entryId event = some t) :
    IssuesFollow api entryId t (record.update s event) := by
  have hevidence : ∀ rooms : List RoomConfig,
      (Evidence.ofStart rooms fun key =>
        api.isActive s.registry (missingSensorId entryId key)) =
      Evidence.ofStart rooms fun key => decide (record.evidence key).Enough := by
    intro rooms
    funext key
    by_cases hexpected : Expected rooms key
    · have hactive := h.shows.active key (mem_profileSensors_of_expected hexpected)
      simp only [Evidence.ofStart, decide_eq_true hexpected, Bool.true_and, Evidence.mk.injEq,
        and_true]
      rw [Bool.eq_iff_iff, hactive, decide_eq_true_eq]
    · simp [Evidence.ofStart, hexpected]
  cases event with
  | check units =>
    cases hstep
    refine ⟨h.lists.update hapi units _, h.shows.congr fun key => ?_⟩
    exact congrArg (Option.any (·.active))
      (issue_update_of_ne hapi _ _ _ _ (newUnitsId_ne entryId key).symm)
  | record room outcome unitName =>
    cases hstep
    have hother : ∀ sensor, newUnitsId entryId ≠ missingSensorId entryId (room.key, sensor) :=
      fun sensor => newUnitsId_ne entryId _
    refine ⟨h.lists.congr ?_, h.shows.record hapi unitName room outcome⟩
    exact congrArg shown ((issue_record hapi unitName s.missingSensors s.registry room outcome
      (newUnitsId entryId) fun sensor _ => hother sensor).1 hother)
  | reload rooms =>
    cases hstep
    have hload := IssuesFollow.load hapi h.lists.shown rooms
    rwa [hevidence] at hload
  | restart rooms =>
    cases hstep
    have hinactive : ∀ id, api.isActive (api.restart s.registry) id = false := by
      intro id
      rw [IssueApi.isActive, hapi.restart]
      cases api.issue s.registry id <;> rfl
    have hnone : shown (api.issue (api.restart s.registry) (newUnitsId entryId)) =
        newUnitsListing ∅ := by
      rw [hapi.restart]
      cases api.issue s.registry (newUnitsId entryId) <;> rfl
    have hload := IssuesFollow.load hapi hnone rooms
    simp only [hinactive, Finset.empty_sdiff] at hload
    exact hload
  | ignore id ignored =>
    cases hstep
    have hissue : ∀ other, (api.issue (api.ignoreIssue s.registry id ignored) other).map
        (fun issue => (issue.active, issue.text)) =
          (api.issue s.registry other).map fun issue => (issue.active, issue.text) := by
      intro other
      rw [hapi.ignore]
      split
      · rename_i hid
        subst hid
        cases api.issue s.registry other <;> rfl
      · rfl
    exact ⟨h.lists.congr (shown_congr (hissue _)).1,
      h.shows.congr fun key => (shown_congr (hissue _)).2⟩

open Transition

/-- An integration that is set up while there are no issues. -/
def FirstSetup (api : IssueApi Store) (entryId : String) (s : RepairIssues Store × RepairRecord) :
    Prop :=
  ∃ r rooms, (∀ id, api.issue r id = none) ∧ s = (RepairIssues.load api entryId r rooms, {})

/-- The integration and the record of what should be shown, after any events. -/
abbrev RepairReach (api : IssueApi Store) (entryId : String)
    (s : RepairIssues Store × RepairRecord) : Prop :=
  Reach (recorded (RepairIssues.step api entryId) RepairRecord.update) (fun _ _ => True)
    (FirstSetup api entryId) s

include hapi in
theorem issuesFollow_of_reach {s : RepairIssues Store × RepairRecord}
    (h : RepairReach api entryId s) : IssuesFollow api entryId s.1 s.2 := by
  refine h.invariant (P := fun s => IssuesFollow api entryId s.1 s.2) (fun s hs => ?_)
    fun s label t hs _ hstep => ?_
  · obtain ⟨r, rooms, hnone, rfl⟩ := hs
    have hstart : shown (api.issue r (newUnitsId entryId)) = newUnitsListing ∅ := by
      rw [hnone]
      rfl
    have hload := IssuesFollow.load hapi hstart rooms
    have hinactive : ∀ key, api.isActive r (missingSensorId entryId key) = false := by
      intro key
      rw [IssueApi.isActive, hnone]
      rfl
    have hnothing : Evidence.ofStart rooms (fun _ => false) = fun _ => {} := by
      funext key
      simp [Evidence.ofStart]
    simp only [hinactive, Finset.empty_sdiff] at hload
    rwa [hnothing] at hload
  · obtain ⟨hnext, hrecord⟩ := recorded_eq_some.mp hstep
    rw [hrecord]
    exact hs.step hapi hnext

/-- A registry that is a dictionary. -/
def dictIssues : IssueApi (Dict String RegistryIssue) where
  issue r id := r.lookup id
  issueIds r := r.items.map Prod.fst
  createIssue r id text := r.insert id ⟨true, (r.lookup id).any (·.dismissed), some text⟩
  deleteIssue r id := r.erase id
  ignoreIssue r id ignored :=
    match r.lookup id with
    | some issue => r.insert id { issue with dismissed := ignored }
    | none => r
  restart r := Dict.update ∅ (r.items.map fun entry => (entry.1, entry.2.stored))

theorem documented_dictIssues : dictIssues.Documented where
  mem_issueIds r id := by
    simp only [dictIssues, List.mem_map, Prod.exists, exists_and_right, exists_eq_right,
      Dict.mem_items, Option.isSome_iff_exists]
  create r id text other := by
    by_cases h : other = id
    · subst h
      rw [if_pos rfl]
      exact Finmap.lookup_insert r
    · rw [if_neg h]
      exact Finmap.lookup_insert_of_ne r h
  delete r id other := by
    by_cases h : other = id
    · subst h
      rw [if_pos rfl]
      exact Finmap.lookup_erase other r
    · rw [if_neg h]
      exact Finmap.lookup_erase_ne h
  ignore r id ignored other := by
    simp only [dictIssues]
    by_cases h : other = id
    · subst h
      rw [if_pos rfl]
      cases hissue : r.lookup other with
      | none => exact hissue
      | some issue => exact Finmap.lookup_insert r
    · rw [if_neg h]
      cases r.lookup id with
      | none => rfl
      | some issue => exact Finmap.lookup_insert_of_ne r h
  restart r id := by
    have hkeys : (r.items.map fun entry => (entry.1, entry.2.stored)).map Prod.fst =
        r.items.map Prod.fst := by
      rw [List.map_map]
      rfl
    simp only [dictIssues]
    cases hissue : r.lookup id with
    | none =>
      rw [Dict.lookup_update_of_notMem]
      · rfl
      · rw [hkeys]
        rintro hmem
        obtain ⟨⟨key, issue⟩, hentry, rfl⟩ := List.mem_map.mp hmem
        rw [Dict.mem_items.mp hentry] at hissue
        cases hissue
    | some issue =>
      refine Dict.lookup_update_of_mem (by rw [hkeys]; exact Dict.nodup_items r) ?_ ∅
      exact List.mem_map.mpr ⟨(id, issue), Dict.mem_items.mpr hissue, rfl⟩

include hapi in
/-- **The issue for new units shows what is new.** After any checks, reads, reloads and restarts,
and whatever the user ignores, the issue is shown if and only if there are new units by the
latest check since Home Assistant has been started, and it lists exactly these. -/
theorem newUnits_shown {s : RepairIssues Store × RepairRecord} (h : RepairReach api entryId s) :
    shown (api.issue s.1.registry (newUnitsId entryId)) = newUnitsListing s.2.units :=
  (issuesFollow_of_reach hapi h).lists.shown

/-- Two units that are not set up, one of which is set up before a reload. -/
theorem newUnits_shown_sample : ∃ s, RepairReach dictIssues "entry" s ∧ s.2.units = {5} ∧
    shown (dictIssues.issue s.1.registry (newUnitsId "entry")) = newUnitsListing {5} := by
  have hreach : RepairReach dictIssues "entry" _ :=
    .next (.next (.start ⟨∅, [], fun _ => rfl, rfl⟩) trivial (l := .check [5, 3, 5]) rfl)
      trivial (l := .reload [⟨"bath", "Bath", .iiFc, 3⟩]) rfl
  have hunits : ({3, 5} : Finset ℕ) \ {3} = {5} := by decide
  exact ⟨_, hreach, hunits, hunits ▸ newUnits_shown documented_dictIssues hreach⟩

include hapi in
/-- **The issue for a sensor is shown by the evidence**: after three reads without a value in a
row, or since it has been shown at the last start, and until there is a value. -/
theorem missingSensors_shown {s : RepairIssues Store × RepairRecord}
    (h : RepairReach api entryId s) {key : SensorKey} (hkey : key.2 ∈ profileSensors) :
    api.isActive s.1.registry (missingSensorId entryId key) = true ↔ (s.2.evidence key).Enough :=
  (issuesFollow_of_reach hapi h).shows.active key hkey

/-- A unit whose carbon dioxide is read without a value. -/
def unreportingRoom : RoomConfig := ⟨"bath", "Bath", .iiFc, 2⟩

/-- A read of it. -/
def unreportingOutcome : ReadJobOutcome := { missingSensorValues := {.co2ExtractAir} }

/-- Three reads without a value. -/
theorem missingSensors_shown_sample : ∃ s, RepairReach dictIssues "entry" s ∧
    dictIssues.isActive s.1.registry (missingSensorId "entry" ("bath", .co2ExtractAir)) = true := by
  have hreach : RepairReach dictIssues "entry" _ :=
    .next (.next (.next (.start ⟨∅, [unreportingRoom], fun _ => rfl, rfl⟩)
      trivial (l := .record unreportingRoom unreportingOutcome "Bath") rfl)
      trivial (l := .record unreportingRoom unreportingOutcome "Bath") rfl)
      trivial (l := .record unreportingRoom unreportingOutcome "Bath") rfl
  refine ⟨_, hreach, (missingSensors_shown documented_dictIssues hreach (by decide)).mpr ?_⟩
  decide

/-! ### Ignored issues -/

/-- Whether the user ignores an issue. -/
def IssueApi.isIgnored (api : IssueApi Store) (r : Store) (id : String) : Bool :=
  (api.issue r id).any (·.dismissed)

/-- **An issue still applies after an event**, and the user goes on ignoring it: a check finds new
units, a start does not configure all that are shown, a sensor has no value and is still
expected. -/
def Applies (entryId id : String) (s : RepairIssues Store × RepairRecord) : RepairEvent → Prop
  | .check units => id = newUnitsId entryId → ∃ unit ∈ units, unit ∉ s.1.rooms.map (·.slave)
  | .record room outcome _ =>
    ∀ sensor ∈ outcome.sensorValues, id ≠ missingSensorId entryId (room.key, sensor)
  | .reload rooms =>
    (id = newUnitsId entryId → s.2.units.Nonempty →
      ∃ unit ∈ s.2.units, unit ∉ rooms.map (·.slave)) ∧
    ∀ key, key.2 ∈ profileSensors → id = missingSensorId entryId key → Expected rooms key
  | .restart rooms =>
    ∀ key, key.2 ∈ profileSensors → id = missingSensorId entryId key → Expected rooms key
  | .ignore other ignored => other = id → ignored = true

include hapi in
/-- A check with new units forgets nothing. -/
theorem isIgnored_update (known : NewUnitIssue) (r : Store) {reported configured : List ℕ}
    {id : String} (h : id = newUnitsId entryId → ∃ unit ∈ reported, unit ∉ configured)
    (hignored : api.isIgnored r id = true) :
    api.isIgnored (known.update api entryId r reported configured).2 id = true := by
  by_cases hid : id = newUnitsId entryId
  · obtain ⟨unit, hunit, hnew⟩ := h hid
    subst hid
    rw [NewUnitIssue.update]
    split
    · exact hignored
    split
    · rename_i hnil
      rw [sortedSet_eq_nil] at hnil
      have hmem : unit ∈ reported.toFinset \ configured.toFinset := by
        simp [hunit, hnew]
      rw [hnil] at hmem
      cases hmem
    · rw [IssueApi.isIgnored, hapi.create, if_pos rfl]
      exact hignored
  · rwa [IssueApi.isIgnored, issue_update_of_ne hapi _ _ _ _ hid]

include hapi in
/-- **A start forgets nothing** of an issue that still applies. -/
theorem isIgnored_load {r : Store} {units : Finset ℕ}
    (hshown : shown (api.issue r (newUnitsId entryId)) = newUnitsListing units)
    {rooms : List RoomConfig} {id : String}
    (hunits : id = newUnitsId entryId → units.Nonempty →
      ∃ unit ∈ units, unit ∉ rooms.map (·.slave))
    (hid : id = newUnitsId entryId ∨ ∃ key, id = missingSensorId entryId key ∧ Expected rooms key)
    (hignored : api.isIgnored r id = true) :
    api.isIgnored (RepairIssues.load api entryId r rooms).registry id = true := by
  have hkept : ∀ id, id = newUnitsId entryId ∨
      (∃ key, id = missingSensorId entryId key ∧ Expected rooms key) →
      api.issue (MissingSensorIssues.restore api entryId r rooms).2 id = api.issue r id := by
    rintro id (rfl | ⟨key, rfl, hexpected⟩)
    · rw [issue_restore hapi, not_startsWith_newUnitsId]
      simp
    · rw [issue_restore hapi, lookup_expectedSensors.mpr ⟨rfl, hexpected⟩]
      simp
  change api.isIgnored (NewUnitIssue.restore api entryId
    (MissingSensorIssues.restore api entryId r rooms).2 (rooms.map (·.slave))).2 id = true
  by_cases hnew : id = newUnitsId entryId
  · subst hnew
    have hsame := hkept _ hid
    generalize (MissingSensorIssues.restore api entryId r rooms).2 = r' at hsame ⊢
    rw [← hsame] at hshown
    rw [IssueApi.isIgnored, ← hsame] at hignored
    rw [NewUnitIssue.restore]
    cases hissue : api.issue r' (newUnitsId entryId) with
    | none => simp [hissue] at hignored
    | some issue =>
      dsimp only
      split
      · rename_i hactive
        rw [parseAddresses_shown hactive (hissue ▸ hshown)]
        by_cases hempty : units = ∅
        · subst hempty
          rw [NewUnitIssue.update]
          simpa [sortedSet, IssueApi.isIgnored] using hignored
        · obtain ⟨unit, hunit, hother⟩ := hunits rfl (Finset.nonempty_iff_ne_empty.mpr hempty)
          refine isIgnored_update hapi _ _ (fun _ => ⟨unit, ?_, hother⟩) hignored
          rwa [sortedSet, Finset.mem_sort]
      · exact hignored
  · rw [IssueApi.isIgnored, issue_restoreNew_of_ne hapi _ _ hnew, hkept id hid]
    exact hignored

include hapi in
/-- **What is ignored stays ignored.** If the user ignores an issue, the one for new units or one
for a sensor, it is ignored after any events, as long as it still applies after each of them. -/
theorem ignored_kept {s t : RepairIssues Store × RepairRecord} (hs : RepairReach api entryId s)
    {id : String}
    (hid : id = newUnitsId entryId ∨
      ∃ key, key.2 ∈ profileSensors ∧ id = missingSensorId entryId key)
    (hignored : api.isIgnored s.1.registry id = true)
    (h : Reach (recorded (RepairIssues.step api entryId) RepairRecord.update)
      (Applies entryId id) (· = s) t) :
    api.isIgnored t.1.registry id = true := by
  refine (h.invariant (P := fun t => IssuesFollow api entryId t.1 t.2 ∧
    api.isIgnored t.1.registry id = true) (fun s' hs' => ?_) fun s' event t' hs' happlies hstep =>
      ?_).2
  · subst hs'
    exact ⟨issuesFollow_of_reach hapi hs, hignored⟩
  obtain ⟨hfollow, hbefore⟩ := hs'
  obtain ⟨hnext, hrecord⟩ := recorded_eq_some.mp hstep
  refine ⟨hrecord ▸ hfollow.step hapi hnext, ?_⟩
  -- For the starts, an issue for a sensor is one of a sensor that is expected.
  have hexpected : ∀ rooms, (∀ key, key.2 ∈ profileSensors → id = missingSensorId entryId key →
      Expected rooms key) → id = newUnitsId entryId ∨
        ∃ key, id = missingSensorId entryId key ∧ Expected rooms key := by
    rintro rooms hrooms
    rcases hid with hnew | ⟨key, hkey, hsensor⟩
    · exact .inl hnew
    · exact .inr ⟨key, hsensor, hrooms key hkey hsensor⟩
  cases event with
  | check units =>
    obtain hnext := Option.some.inj hnext
    rw [← hnext]
    exact isIgnored_update hapi _ _ happlies hbefore
  | record room outcome unitName =>
    obtain hnext := Option.some.inj hnext
    rw [← hnext]
    exact (issue_record hapi unitName s'.1.missingSensors s'.1.registry room outcome id
      happlies).2 hbefore
  | reload rooms =>
    obtain hnext := Option.some.inj hnext
    rw [← hnext]
    exact isIgnored_load hapi hfollow.lists.shown happlies.1 (hexpected rooms happlies.2) hbefore
  | restart rooms =>
    obtain hnext := Option.some.inj hnext
    rw [← hnext]
    have hnone : shown (api.issue (api.restart s'.1.registry) (newUnitsId entryId)) =
        newUnitsListing ∅ := by
      rw [hapi.restart]
      cases api.issue s'.1.registry (newUnitsId entryId) <;> rfl
    refine isIgnored_load hapi hnone (fun _ hne => absurd hne Finset.not_nonempty_empty)
      (hexpected rooms happlies) ?_
    rw [IssueApi.isIgnored, hapi.restart]
    rw [IssueApi.isIgnored] at hbefore
    cases hissue : api.issue s'.1.registry id with
    | none => simp [hissue] at hbefore
    | some issue => simpa [hissue, RegistryIssue.stored] using hbefore
  | ignore other ignored =>
    obtain hnext := Option.some.inj hnext
    rw [← hnext, IssueApi.isIgnored, hapi.ignore]
    split
    · rename_i hsame
      rw [happlies hsame.symm, ← hsame]
      rw [IssueApi.isIgnored] at hbefore
      cases hissue : api.issue s'.1.registry id with
      | none => simp [hissue] at hbefore
      | some issue => rfl
    · exact hbefore

/-- An issue that is ignored, over a restart. -/
theorem ignored_kept_sample : ∃ s t, RepairReach dictIssues "entry" s ∧
    Reach (recorded (RepairIssues.step dictIssues "entry") RepairRecord.update)
      (Applies "entry" (newUnitsId "entry")) (· = s) t ∧
    dictIssues.isIgnored t.1.registry (newUnitsId "entry") = true := by
  obtain ⟨s, hs, hunits⟩ : ∃ s, RepairReach dictIssues "entry" s ∧ s.2.units = {3} :=
    ⟨_, .next (.start ⟨∅, [], fun _ => rfl, rfl⟩) trivial (l := .check [3]) rfl, rfl⟩
  have hreach : RepairReach dictIssues "entry" ({ s.1 with
      registry := dictIssues.ignoreIssue s.1.registry (newUnitsId "entry") true }, s.2) :=
    hs.next trivial (l := .ignore (newUnitsId "entry") true) rfl
  have hignored : dictIssues.isIgnored
      (dictIssues.ignoreIssue s.1.registry (newUnitsId "entry") true) (newUnitsId "entry") =
        true := by
    have hshown := (issuesFollow_of_reach documented_dictIssues hs).lists.shown
    rw [hunits] at hshown
    rw [IssueApi.isIgnored, documented_dictIssues.ignore, if_pos rfl]
    cases hissue : dictIssues.issue s.1.registry (newUnitsId "entry") with
    | none =>
      rw [hissue] at hshown
      cases hshown
    | some issue => rfl
  have hrestart : ∀ s : RepairIssues (Dict String RegistryIssue) × RepairRecord,
      Applies "entry" (newUnitsId "entry") s (.restart []) :=
    fun s key _ hkey => absurd hkey (newUnitsId_ne "entry" key)
  exact ⟨_, _, hreach, .next (.start rfl) (hrestart _) rfl,
    ignored_kept documented_dictIssues hreach (.inl rfl) hignored
      (.next (.start rfl) (hrestart _) rfl)⟩

end Runs

end MeltemVentilation
