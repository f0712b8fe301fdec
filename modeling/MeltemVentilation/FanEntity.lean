import Mathlib.Data.List.ReduceOption
import Mathlib.Data.Rat.Floor
import MeltemVentilation.CommandCodec
import MeltemVentilation.Lib.Transition

/-!
# The fan of one air direction

Home Assistant speaks of percentages, the coordinator of m³/h. A `MeltemDirectionalFanEntity` stands
between them: it shows the level of its direction as a percentage, asks the coordinator for the
level of a percentage that is set, and remembers the last percentage at which it was shown on, to
turn the fan on again at it. The two conversions belong to Home Assistant and are taken from what
is documented of them: a share of the range, rounded down to a whole percentage in one way and a
number that need not be whole in the other, which the entity rounds up. Home Assistant divides
floats there. A quotient that is whole is exact, and any other one is further from a whole number
than the rounding of a division.

* **Only levels that the unit has are asked for** (`requests_inRange`), whatever percentages are
  set and whatever levels are shown. What is proved of the opposite direction rests on that.
* **Turning on restores the airflow** (`turnOn_restores`): the level that is asked for is the one at
  which the fan was last shown on, exactly, although it was kept as a percentage. No unit has more
  than one level to a percentage (`ceil_percentage_mul`).
-/

namespace MeltemVentilation

open Transition

/-! ### The conversions of Home Assistant -/

/-- What the entity uses of `homeassistant.util.percentage`. -/
structure PercentageUtil where
  rangedValueToPercentage : ℤ × ℤ → ℤ → ℤ
  percentageToRangedValue : ℤ × ℤ → ℤ → ℚ

/-- A range from `low` to `high` has `high - low + 1` values, and each is one share of a hundred
percent. -/
structure PercentageUtil.Documented (u : PercentageUtil) : Prop where
  percentage : ∀ low high value, low ≤ high →
    u.rangedValueToPercentage (low, high) value = (value - (low - 1)) * 100 / (high - low + 1)
  value : ∀ low high percentage, low ≤ high →
    u.percentageToRangedValue (low, high) percentage =
      percentage * (high - low + 1) / 100 + (low - 1)

/-! ### The entity -/

/-- `DEFAULT_TURN_ON_PERCENTAGE`. -/
def defaultTurnOnPercentage : ℤ := 50

/-- A fan entity, with what it sees of the coordinator. -/
structure FanEntity where
  room : RoomConfig
  direction : Direction
  /-- `effective_levels`: supply and extract. -/
  levels : Option ℤ × Option ℤ := (none, none)
  lastOnPercentage : Option ℤ := none
  /-- The levels that `async_set_direction_level` has been asked for. -/
  requests : List ℤ := []

/-- What happens to it. -/
inductive FanEvent where
  /-- The coordinator resolves other levels. -/
  | levels (supply extract : Option ℤ)
  /-- `_handle_coordinator_update`; the update can concern the unit or not. -/
  | update (roomUpdated : Bool)
  | turnOn (percentage : Option ℤ)
  | turnOff
  | setPercentage (percentage : ℤ)

namespace FanEntity

variable (u : PercentageUtil) (s : FanEntity)

/-- `_level_range`. -/
def levelRange : ℤ × ℤ := (1, profileMaxAirflow s.room.profile)

/-- `_directional_levels`: this fan's level and the one of the opposite direction. -/
def directionalLevels : Option ℤ × Option ℤ :=
  match s.direction with
  | .supply => s.levels
  | .extract => (s.levels.2, s.levels.1)

/-- **`percentage`.** -/
def percentage : Option ℤ :=
  s.directionalLevels.1.map fun level =>
    if level ≤ 0 then 0 else min 100 (u.rangedValueToPercentage s.levelRange level)

/-- `is_on`. -/
def isOn : Option Bool := (s.percentage u).map fun percentage => decide (0 < percentage)

/-- **`async_set_percentage`.** -/
def asyncSetPercentage (percentage : ℤ) : FanEntity :=
  let percentage := max 0 (min 100 percentage)
  let level := if 0 < percentage then ⌈u.percentageToRangedValue s.levelRange percentage⌉ else 0
  { s with requests := s.requests ++ [level] }

/-- **`async_turn_on`**; zero is no percentage to turn on at. -/
def asyncTurnOn (percentage : Option ℤ) : FanEntity :=
  if percentage = none ∧ s.isOn u = some true then s
  else
    let percentage := (percentage.or s.lastOnPercentage).getD 0
    s.asyncSetPercentage u (if percentage = 0 then defaultTurnOnPercentage else percentage)

/-- `async_turn_off`. -/
def asyncTurnOff : FanEntity := s.asyncSetPercentage u 0

/-- `_handle_coordinator_update`. -/
def handleCoordinatorUpdate (roomUpdated : Bool) : FanEntity :=
  match s.percentage u with
  | some percentage =>
    if roomUpdated ∧ percentage ≠ 0 then { s with lastOnPercentage := some percentage } else s
  | none => s

/-- One event. -/
def step (s : FanEntity) : FanEvent → Option FanEntity
  | .levels supply extract => some { s with levels := (supply, extract) }
  | .update roomUpdated => some (s.handleCoordinatorUpdate u roomUpdated)
  | .turnOn percentage => some (s.asyncTurnOn u percentage)
  | .turnOff => some (s.asyncTurnOff u)
  | .setPercentage percentage => some (s.asyncSetPercentage u percentage)

end FanEntity

/-- A record of the levels that the fan has shown at the updates of its unit, the last one first. -/
def recordShown (s : FanEntity) (event : FanEvent) (shown : List (Option ℤ)) : List (Option ℤ) :=
  match event with
  | .update true => s.directionalLevels.1 :: shown
  | _ => shown

/-- A fan with its record. -/
abbrev FanEntityStep (u : PercentageUtil) := recorded (FanEntity.step u) recordShown

/-- A run starts with a new entity. -/
def FanEntityStart (s : FanEntity × List (Option ℤ)) : Prop :=
  ∃ room direction levels, s = ({ room, direction, levels }, [])

/-- The level at which the fan was last shown on. -/
def lastLevelOn (shown : List (Option ℤ)) : Option ℤ := shown.reduceOption.find? (0 < ·)

/-! ### A percentage and its level -/

section Fan

variable {u : PercentageUtil} {s t : FanEntity} {shown : List (Option ℤ)}

/-- **A level is not lost in its percentage**, since there are no more levels than percentages. -/
theorem ceil_percentage_mul {level most : ℤ} (hlow : 1 ≤ level) (hhigh : level ≤ most)
    (hmost : most ≤ 100) : ⌈((level * 100 / most : ℤ) : ℚ) * most / 100⌉ = level := by
  have hpos : 0 < most := by omega
  have hle : level * 100 / most * most ≤ level * 100 := Int.ediv_mul_le _ hpos.ne'
  have hlt : level * 100 < (level * 100 / most + 1) * most := Int.lt_ediv_add_one_mul_self _ hpos
  set percentage := level * 100 / most
  have hle' : (percentage : ℚ) * most ≤ level * 100 := by exact_mod_cast hle
  have hlt' : ((level : ℚ) - 1) * 100 < percentage * most := by
    have : (level - 1) * 100 < percentage * most := by linarith
    exact_mod_cast this
  refine Int.ceil_eq_iff.mpr ⟨?_, ?_⟩
  · rwa [lt_div_iff₀ (by norm_num)]
  · rwa [div_le_iff₀ (by norm_num)]

/-- The default percentage is half of the range, rounded up. -/
theorem ceil_defaultTurnOnPercentage (most : ℤ) :
    ⌈(defaultTurnOnPercentage : ℚ) * most / 100⌉ = (most + 1) / 2 := by
  have hlow : most ≤ 2 * ((most + 1) / 2) := by omega
  have hhigh : 2 * ((most + 1) / 2) ≤ most + 1 := by omega
  set half := (most + 1) / 2
  have hlow' : (most : ℚ) ≤ 2 * half := by exact_mod_cast hlow
  have hhigh' : 2 * (half : ℚ) ≤ most + 1 := by exact_mod_cast hhigh
  refine Int.ceil_eq_iff.mpr ⟨?_, ?_⟩
  · rw [lt_div_iff₀ (by norm_num), defaultTurnOnPercentage]
    push_cast
    linarith
  · rw [div_le_iff₀ (by norm_num), defaultTurnOnPercentage]
    push_cast
    linarith

theorem percentageToRangedValue_eq (hu : u.Documented) (s : FanEntity) (percentage : ℤ) :
    u.percentageToRangedValue s.levelRange percentage =
      percentage * profileMaxAirflow s.room.profile / 100 := by
  have hpos := profileMaxAirflow_pos s.room.profile
  rw [FanEntity.levelRange, hu.value _ _ _ (by omega)]
  push_cast
  ring

/-- The percentage of a level is the share of the range, and that of the highest level above it. -/
theorem min_rangedValueToPercentage (hu : u.Documented) (s : FanEntity) (level : ℤ) :
    min 100 (u.rangedValueToPercentage s.levelRange level) =
      min level (profileMaxAirflow s.room.profile) * 100 / profileMaxAirflow s.room.profile := by
  have hpos := profileMaxAirflow_pos s.room.profile
  rw [FanEntity.levelRange, hu.percentage _ _ _ (by omega)]
  set most := profileMaxAirflow s.room.profile
  have hshare : (level - (1 - 1)) * 100 / (most - 1 + 1) = level * 100 / most := by
    rw [sub_self, sub_zero, sub_add_cancel]
  rw [hshare]
  rcases le_total level most with hle | hge
  · rw [min_eq_left hle, min_eq_right]
    exact Int.ediv_le_of_le_mul hpos (by linarith)
  · rw [min_eq_right hge, Int.mul_ediv_cancel_left _ hpos.ne', min_eq_left]
    exact (Int.le_ediv_iff_mul_le hpos).mpr (by linarith)

/-- What is shown: a level that is on has a percentage of at least one. -/
theorem percentage_eq (hu : u.Documented) (s : FanEntity) :
    s.percentage u = s.directionalLevels.1.map fun level =>
      if level ≤ 0 then 0
      else min level (profileMaxAirflow s.room.profile) * 100 /
        profileMaxAirflow s.room.profile := by
  simp only [FanEntity.percentage, min_rangedValueToPercentage hu]

theorem one_le_percentage {level : ℤ} (hlevel : 0 < level) (room : RoomConfig) :
    1 ≤ min level (profileMaxAirflow room.profile) * 100 / profileMaxAirflow room.profile := by
  have hpos := profileMaxAirflow_pos room.profile
  have hmost := profileMaxAirflow_le room.profile
  have hone : 1 ≤ min level (profileMaxAirflow room.profile) := le_min (by omega) (by omega)
  exact (Int.le_ediv_iff_mul_le hpos).mpr (by linarith)

theorem percentage_le (level : ℤ) (room : RoomConfig) :
    min level (profileMaxAirflow room.profile) * 100 / profileMaxAirflow room.profile ≤ 100 := by
  have hpos := profileMaxAirflow_pos room.profile
  have hmin := min_le_right level (profileMaxAirflow room.profile)
  exact Int.ediv_le_of_le_mul hpos (by linarith)

/-- The level of a percentage. -/
theorem asyncSetPercentage_eq (hu : u.Documented) (s : FanEntity) {percentage : ℤ}
    (hpos : 0 < percentage) (hle : percentage ≤ 100) :
    s.asyncSetPercentage u percentage = { s with
      requests := s.requests ++
        [⌈(percentage : ℚ) * profileMaxAirflow s.room.profile / 100⌉] } := by
  have hclamp : max 0 (min 100 percentage) = percentage := by omega
  rw [FanEntity.asyncSetPercentage]
  simp only [hclamp, if_pos hpos, percentageToRangedValue_eq hu]

/-- **A level that was shown is asked for again by its percentage.** -/
theorem asyncSetPercentage_shown (hu : u.Documented) (s : FanEntity) {level : ℤ}
    (hlevel : 0 < level) :
    s.asyncSetPercentage u (min level (profileMaxAirflow s.room.profile) * 100 /
        profileMaxAirflow s.room.profile) =
      { s with requests := s.requests ++ [min level (profileMaxAirflow s.room.profile)] } := by
  have hpos := profileMaxAirflow_pos s.room.profile
  have hone := one_le_percentage hlevel s.room
  rw [asyncSetPercentage_eq hu s (by omega) (percentage_le level s.room),
    ceil_percentage_mul (le_min (by omega) (by omega)) (min_le_right _ _)
      (profileMaxAirflow_le s.room.profile)]

theorem isOn_eq_true_iff (hu : u.Documented) : s.isOn u = some true ↔
    s.directionalLevels.1.any (0 < ·) = true := by
  rw [FanEntity.isOn, percentage_eq hu]
  cases s.directionalLevels.1 with
  | none => simp
  | some level =>
    by_cases hlevel : level ≤ 0
    · simp [hlevel]
    · have := one_le_percentage (lt_of_not_ge hlevel) s.room
      simp only [Option.map_some, hlevel, if_false, Option.some.injEq, decide_eq_true_eq,
        Option.any_some]
      omega

/-! ### What holds along a run -/

/-- The percentage that the entity remembers is that of the level at which it was last shown on. -/
def Remembers (s : FanEntity × List (Option ℤ)) : Prop :=
  s.1.lastOnPercentage = (lastLevelOn s.2).map fun level =>
    min level (profileMaxAirflow s.1.room.profile) * 100 / profileMaxAirflow s.1.room.profile

/-- Setting a percentage asks for a level that the unit has, and changes nothing else. -/
theorem asyncSetPercentage_inRange (hu : u.Documented) (s : FanEntity) (percentage : ℤ) :
    ∃ level, LevelInRange s.room level ∧
      s.asyncSetPercentage u percentage = { s with requests := s.requests ++ [level] } := by
  have hpos := profileMaxAirflow_pos s.room.profile
  refine ⟨_, ?_, rfl⟩
  split
  · rename_i hpercentage
    rw [percentageToRangedValue_eq hu]
    have hle : max 0 (min 100 percentage) ≤ 100 := by omega
    set clamped := max 0 (min 100 percentage)
    have hle' : (clamped : ℚ) ≤ 100 := by exact_mod_cast hle
    have hpos' : (0 : ℚ) < profileMaxAirflow s.room.profile := by exact_mod_cast hpos
    have hclamped : (0 : ℚ) < clamped := by exact_mod_cast hpercentage
    refine ⟨Int.ceil_nonneg (by positivity), Int.ceil_le.mpr ?_⟩
    rw [div_le_iff₀ (by norm_num)]
    nlinarith
  · exact ⟨le_rfl, hpos.le⟩

/-- **What a step does**: it asks for a level that the unit has, or remembers what is shown, or
changes neither. -/
inductive FanStepped (u : PercentageUtil) (s : FanEntity) : FanEvent → FanEntity → Prop where
  | requested {event : FanEvent} {level : ℤ} (hevent : event ≠ .update true)
    (hlevel : LevelInRange s.room level) :
    FanStepped u s event { s with requests := s.requests ++ [level] }
  | remembered {level : ℤ} (hshown : s.directionalLevels.1 = some level) (hlevel : 0 < level) :
    FanStepped u s (.update true) { s with
      lastOnPercentage := some (min level (profileMaxAirflow s.room.profile) * 100 /
        profileMaxAirflow s.room.profile) }
  | shownOff (hshown : ∀ level ∈ s.directionalLevels.1, level ≤ 0) :
    FanStepped u s (.update true) s
  | unchanged {event : FanEvent} (levels : Option ℤ × Option ℤ) (hevent : event ≠ .update true) :
    FanStepped u s event { s with levels := levels }

theorem fanStepped_setPercentage (hu : u.Documented) {event : FanEvent}
    (hevent : event ≠ .update true) (percentage : ℤ) :
    FanStepped u s event (s.asyncSetPercentage u percentage) := by
  obtain ⟨level, hlevel, hset⟩ := asyncSetPercentage_inRange hu s percentage
  rw [hset]
  exact .requested hevent hlevel

theorem fanStepped_of_step (hu : u.Documented) {event : FanEvent} (h : s.step u event = some t) :
    FanStepped u s event t := by
  cases event with
  | levels supply extract =>
    obtain rfl : _ = t := Option.some.inj h
    exact .unchanged _ (by simp)
  | turnOn percentage =>
    obtain rfl : _ = t := Option.some.inj h
    rw [FanEntity.asyncTurnOn]
    split
    · exact .unchanged s.levels (by simp)
    · exact fanStepped_setPercentage hu (by simp) _
  | turnOff =>
    obtain rfl : _ = t := Option.some.inj h
    exact fanStepped_setPercentage hu (by simp) 0
  | setPercentage percentage =>
    obtain rfl : _ = t := Option.some.inj h
    exact fanStepped_setPercentage hu (by simp) percentage
  | update roomUpdated =>
    obtain rfl : _ = t := Option.some.inj h
    rw [FanEntity.handleCoordinatorUpdate, percentage_eq hu]
    cases roomUpdated with
    | false =>
      split
      · exact .unchanged s.levels (by simp)
      · exact .unchanged s.levels (by simp)
    | true =>
      cases hshown : s.directionalLevels.1 with
      | none => exact .shownOff (by simp [hshown])
      | some level =>
        by_cases hlevel : level ≤ 0
        · simp only [Option.map_some, if_pos hlevel, ne_eq, not_true_eq_false, and_false, if_false]
          exact .shownOff (by simpa [hshown] using hlevel)
        · have hone := one_le_percentage (lt_of_not_ge hlevel) s.room
          simp only [Option.map_some, if_neg hlevel]
          rw [if_pos ⟨trivial, by omega⟩]
          exact .remembered hshown (lt_of_not_ge hlevel)

theorem recordShown_of_ne {event : FanEvent} (h : event ≠ .update true) :
    recordShown s event shown = shown := by
  cases event with
  | update roomUpdated =>
    cases roomUpdated with
    | false => rfl
    | true => exact absurd rfl h
  | _ => rfl

theorem Remembers.step (hu : u.Documented) {event : FanEvent} (h : Remembers (s, shown))
    (hstep : s.step u event = some t) : Remembers (t, recordShown s event shown) := by
  cases fanStepped_of_step hu hstep with
  | requested hevent hlevel =>
    rw [recordShown_of_ne hevent]
    exact h
  | unchanged levels hevent =>
    rw [recordShown_of_ne hevent]
    exact h
  | @remembered level hshown hlevel =>
    have hlast : lastLevelOn (recordShown s (.update true) shown) = some level := by
      rw [lastLevelOn, recordShown, hshown, List.reduceOption_cons_of_some,
        List.find?_cons_of_pos (by simpa using hlevel)]
    rw [Remembers, hlast]
    rfl
  | shownOff hshown =>
    have hlast : lastLevelOn (recordShown s (.update true) shown) = lastLevelOn shown := by
      rw [lastLevelOn, recordShown]
      cases hlevel : s.directionalLevels.1 with
      | none => rw [List.reduceOption_cons_of_none, lastLevelOn]
      | some level =>
        have hoff := hshown level hlevel
        rw [List.reduceOption_cons_of_some, List.find?_cons_of_neg (by simpa using hoff),
          lastLevelOn]
    rw [Remembers, hlast]
    exact h

theorem remembers_of_reach (hu : u.Documented) {s : FanEntity × List (Option ℤ)}
    (h : Reach (FanEntityStep u) (fun _ _ => True) FanEntityStart s) : Remembers s := by
  refine h.invariant ?_ ?_
  · rintro _ ⟨room, direction, levels, rfl⟩
    rfl
  · rintro ⟨s, shown⟩ event ⟨t, shown'⟩ hremembers - hstep
    obtain ⟨hnext, hrecord⟩ := recorded_eq_some.mp hstep
    obtain rfl : shown' = _ := hrecord
    exact hremembers.step hu hnext

/-- **Only levels that the unit has are asked for.** -/
theorem requests_inRange (hu : u.Documented) {s : FanEntity × List (Option ℤ)}
    (h : Reach (FanEntityStep u) (fun _ _ => True) FanEntityStart s) :
    ∀ level ∈ s.1.requests, LevelInRange s.1.room level := by
  refine h.invariant (P := fun s => ∀ level ∈ s.1.requests, LevelInRange s.1.room level) ?_ ?_
  · rintro _ ⟨room, direction, levels, rfl⟩ level hlevel
    cases hlevel
  · rintro ⟨s, shown⟩ event ⟨t, shown'⟩ hrange - hstep
    cases fanStepped_of_step hu (recorded_eq_some.mp hstep).1 with
    | requested hevent hlevel =>
      intro level hmem
      rcases List.mem_append.mp hmem with hmem | hmem
      · exact hrange level hmem
      · rwa [List.mem_singleton.mp hmem]
    | _ => exact hrange

/-- The conversions of Home Assistant. -/
def homeAssistantPercentages : PercentageUtil where
  rangedValueToPercentage range value :=
    (value - (range.1 - 1)) * 100 / (range.2 - range.1 + 1)
  percentageToRangedValue range percentage :=
    percentage * (range.2 - range.1 + 1) / 100 + (range.1 - 1)

theorem homeAssistantPercentages_documented : homeAssistantPercentages.Documented :=
  ⟨fun _ _ _ _ => rfl, fun _ _ _ _ => rfl⟩

/-- A new fan that shows the supply level. -/
def newFan : FanEntity where
  room := ⟨"slave_2", "Living room", .sFc, 2⟩
  direction := .supply
  levels := (some 41, some 60)

theorem newFan_reach :
    Reach (FanEntityStep homeAssistantPercentages) (fun _ _ => True) FanEntityStart (newFan, []) :=
  .start ⟨_, _, _, rfl⟩

/-- A percentage above the range asks for the highest level. -/
theorem requests_inRange_above :
    ∃ s, run (FanEntityStep homeAssistantPercentages) [.setPercentage 250] (newFan, []) = some s ∧
      s.1.requests = [97] ∧ ∀ level ∈ s.1.requests, LevelInRange s.1.room level := by
  obtain ⟨s, hrun, hreach, htest⟩ := newFan_reach.exists_of_run [.setPercentage 250]
    (fun s : FanEntity × List (Option ℤ) => decide (s.1.requests = [97]))
    (along_true _ (fun _ _ => trivial) _ _) (by decide +kernel)
  exact ⟨s, hrun, of_decide_eq_true htest,
    requests_inRange homeAssistantPercentages_documented hreach⟩

/-- **Turning on restores the airflow**: nothing is asked for while the fan is on, else the level at
which it was last shown on, or the highest one in place of a higher one, or half of that if it never
was. -/
theorem turnOn_restores (hu : u.Documented) {s : FanEntity × List (Option ℤ)}
    (h : Reach (FanEntityStep u) (fun _ _ => True) FanEntityStart s) :
    s.1.asyncTurnOn u none = { s.1 with
      requests := s.1.requests ++
        if s.1.directionalLevels.1.any (0 < ·) then []
        else [((lastLevelOn s.2).map (min · (profileMaxAirflow s.1.room.profile))).getD
          ((profileMaxAirflow s.1.room.profile + 1) / 2)] } := by
  have hremembers := remembers_of_reach hu h
  rw [FanEntity.asyncTurnOn]
  by_cases hon : s.1.directionalLevels.1.any (0 < ·) = true
  · rw [if_pos ⟨rfl, (isOn_eq_true_iff hu).mpr hon⟩, if_pos hon, List.append_nil]
  · rw [if_neg fun hboth => hon ((isOn_eq_true_iff hu).mp hboth.2), if_neg hon, hremembers]
    cases hlast : lastLevelOn s.2 with
    | none =>
      simp only [Option.map_none, Option.none_or, Option.getD_none, if_true]
      rw [asyncSetPercentage_eq hu s.1 (by decide) (by decide), ceil_defaultTurnOnPercentage]
    | some level =>
      have hlevel : 0 < level := by
        simpa using List.find?_some hlast
      have hone := one_le_percentage hlevel s.1.room
      calc s.1.asyncSetPercentage u _
          = s.1.asyncSetPercentage u (min level (profileMaxAirflow s.1.room.profile) * 100 /
              profileMaxAirflow s.1.room.profile) := congrArg _ (if_neg (by dsimp; omega))
        _ = _ := asyncSetPercentage_shown hu s.1 hlevel

/-- Shown at 41 m³/h, turned off and on again. -/
theorem turnOn_restores_off :
    ∃ s, run (FanEntityStep homeAssistantPercentages)
        [.update true, .turnOff, .levels (some 0) (some 60), .update true] (newFan, []) = some s ∧
      (s.1.asyncTurnOn homeAssistantPercentages none).requests = [0, 41] := by
  obtain ⟨s, hrun, hreach, htest⟩ := newFan_reach.exists_of_run
    [.update true, .turnOff, .levels (some 0) (some 60), .update true]
    (fun s : FanEntity × List (Option ℤ) => decide (s.1.requests = [0] ∧
      s.2 = [some 0, some 41] ∧ s.1.directionalLevels.1 = some 0 ∧ s.1.room = newFan.room))
    (along_true _ (fun _ _ => trivial) _ _) (by decide +kernel)
  obtain ⟨hrequests, hshown, hlevel, hroom⟩ := of_decide_eq_true htest
  refine ⟨s, hrun, ?_⟩
  rw [turnOn_restores homeAssistantPercentages_documented hreach, hrequests, hshown, hlevel, hroom]
  rfl

end Fan

end MeltemVentilation
