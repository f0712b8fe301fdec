import MeltemVentilation.ModeCodec
import MeltemVentilation.ReadHealth

/-!
# Supply and extract airflow of a unit, as targets and as measurements

The functions of `levels.py`. `reportedLevels` says which supply/extract pair the unit
reports and where it comes from: the targets of the mode status map while that map is
fresh, and the measured airflow otherwise. `planDirectionWrite` turns a command for one
direction into either one balanced level or a pair that keeps the other direction.
-/

namespace MeltemVentilation

/-- A supply/extract pair of levels that may be unknown. -/
abbrev LevelPair := Option ℤ × Option ℤ

/-- `LEVEL_CONFIRM_TOLERANCE`. -/
def levelConfirmTolerance : ℤ := 2

/-- `BALANCED_LEVEL_TOLERANCE`. -/
def balancedLevelTolerance : ℤ := 1

/-- The error a command raises to the user. -/
structure CommandError where
  translationKey : String
  translationPlaceholders : List (String × String)
deriving DecidableEq, Repr

/-- Whether one direction is within the tolerance of its target. -/
def levelReached (actual : Option ℤ) (target : ℤ) : Bool :=
  actual.any fun a => |a - target| ≤ levelConfirmTolerance

/-- `levels_reached`: whether both directions reached their pending target. -/
def levelsReached (confirmed : LevelPair) (expected : ℤ × ℤ) : Bool :=
  levelReached confirmed.1 expected.1 && levelReached confirmed.2 expected.2

/-- `levels_balanced`: whether two levels should run as one balanced level. -/
def levelsBalanced (level other : ℤ) : Bool :=
  level = other || (0 < level && 0 < other && |level - other| ≤ balancedLevelTolerance)

/-- `target_levels`: the supply/extract target pair of a room state. With
`airflowIsFresh` a missing target falls back to the measured airflow. -/
def targetLevels (state : RoomState) (airflowIsFresh : Bool) : LevelPair :=
  match state.operationMode with
  | some .off => (some 0, some 0)
  | some .unbalanced =>
    if airflowIsFresh then
      (state.targetLevel.or state.supplyAirFlow, state.extractTargetLevel.or state.extractAirFlow)
    else (state.targetLevel, state.extractTargetLevel)
  | some .humidityControl | some .co2Control | some .automatic =>
    if airflowIsFresh then (state.supplyAirFlow, state.extractAirFlow) else (none, none)
  | _ =>
    let presetActive := (state.presetMode.bind presetModeToRawCode).isSome
    let common := state.balancedTargetReadback.or
      (if presetActive && !airflowIsFresh then none else state.targetLevel)
    match common with
    | some level => (some level, some level)
    | none =>
      if airflowIsFresh then
        (state.supplyAirFlow.or state.extractAirFlow, state.extractAirFlow.or state.supplyAirFlow)
      else (none, none)

/-- `reported_levels`: the pair the unit reports, and whether it is a target. -/
def reportedLevels (clock : Clock) (state : RoomState) : Option LevelPair × Option LevelSource :=
  let airflowIsFresh := groupFresh clock state .flow
  let found : Option (LevelPair × LevelSource) :=
    if !groupFresh clock state .flowControl || state.operationMode.isNone then
      if !airflowIsFresh then none
      else some ((state.supplyAirFlow, state.extractAirFlow), .measured)
    else
      let levels := targetLevels state airflowIsFresh
      let source := if levels = targetLevels state false then .target else .measured
      some (levels, source)
  match found with
  | none => (none, none)
  | some (levels, source) =>
    if levels = (none, none) then (none, none) else (some levels, some source)

/-- `mode_write_levels`: the levels an operating-mode write carries. -/
def modeWriteLevels (state : RoomState) (effective : LevelPair) : LevelPair :=
  let balancedLevel := effective.1.or
    (state.targetLevel.or (state.supplyAirFlow.or state.extractAirFlow))
  (balancedLevel,
    effective.2.or (state.extractTargetLevel.or (state.extractAirFlow.or balancedLevel)))

/-- A planned fan write: one balanced level, or a supply/extract pair. -/
inductive PlannedWrite where
  | balanced (level : ℤ)
  | pair (supply extract : ℤ)
deriving DecidableEq, Repr

/-- The level of the direction opposite to `direction`. -/
def oppositeLevel (direction : Direction) (levels : LevelPair) : Option ℤ :=
  match direction with
  | .supply => levels.2
  | .extract => levels.1

/-- The operating mode a plan starts from: that of the pending pair, if one is pending. -/
def plannedOperationMode (state : RoomState) (levels : LevelPair)
    (source : Option LevelSource) : Option OperationMode :=
  match source, levels with
  | some .pending, (some supply, some extract) =>
    if supply = 0 ∧ extract = 0 then some .off
    else if levelsBalanced supply extract then some .manual
    else some .unbalanced
  | _, _ => state.operationMode

/-- The opposite level a plan keeps: measured airflow that jitters around one balanced
target counts as that target. -/
def plannedOpposite (levels : LevelPair) (source : Option LevelSource) (other : ℤ) : ℤ :=
  match source, levels with
  | some .measured, (some supply, some extract) =>
    if |supply - extract| ≤ levelConfirmTolerance then
      HalfEven.round (supply + extract) 2
    else other
  | _, _ => other

/-- **`plan_direction_write`**: plan a directional fan write as one balanced level or a
pair, with the fallback it needs. -/
def planDirectionWrite (room : RoomConfig) (state : RoomState) (levels : LevelPair)
    (source : Option LevelSource) (direction : Direction) (level : ℤ) :
    Except CommandError (PlannedWrite × Option LevelWriteFallback) :=
  match oppositeLevel direction levels with
  | none =>
    if level = 0 then
      .error ⟨"opposite_airflow_unknown", [("unit", room.name)]⟩
    else .ok (.balanced level, some .balanced)
  | some other =>
    let operationMode := plannedOperationMode state levels source
    let other := plannedOpposite levels source other
    let fallback := if operationMode = none then some LevelWriteFallback.unknownMode else none
    let startingFromOff := operationMode = some .off
    let leavingSensorControl := 0 < level ∧ ∃ m ∈ sensorOperationModes, operationMode = some m
    if levelsBalanced level other ∨ startingFromOff ∨ leavingSensorControl then
      .ok (.balanced level, fallback)
    else
      match direction with
      | .supply => .ok (.pair level other, fallback)
      | .extract => .ok (.pair other level, fallback)

/-! ### The reported levels as time passes -/

section Reported

variable {clock later : Clock} {state : RoomState} {pair : LevelPair} {supply extract : ℤ}

/-- A complete pair of targets needs no measured airflow. -/
theorem targetLevels_of_complete (h : targetLevels state false = (some supply, some extract)) :
    targetLevels state true = (some supply, some extract) := by
  unfold targetLevels at h ⊢
  split at h
  · exact h
  · obtain ⟨hsupply, hextract⟩ := Prod.mk.inj h
    simp [hsupply, hextract]
  · cases h
  · cases h
  · cases h
  · dsimp only at h ⊢
    split at h
    · rename_i level hcommon
      have hcommon' : state.balancedTargetReadback.or
          (if (state.presetMode.bind presetModeToRawCode).isSome && !true then none
            else state.targetLevel) = some level := by
        rcases hreadback : state.balancedTargetReadback with _ | readback
        · rw [hreadback, Option.none_or] at hcommon
          split at hcommon
          · cases hcommon
          · simpa using hcommon
        · rw [hreadback] at hcommon
          exact hcommon
      rw [hcommon']
      exact h
    · cases h

/-- The pair that the unit reports, before it is asked whether any of it is known. -/
def reportedPair (clock : Clock) (state : RoomState) : LevelPair :=
  if groupFresh clock state .flowControl = true ∧ state.operationMode ≠ none then
    targetLevels state (groupFresh clock state .flow)
  else if groupFresh clock state .flow = true then (state.supplyAirFlow, state.extractAirFlow)
  else (none, none)

theorem reportedLevels_fst : (reportedLevels clock state).1 =
    if reportedPair clock state = (none, none) then none else some (reportedPair clock state) := by
  unfold reportedLevels reportedPair
  by_cases hfresh : groupFresh clock state .flowControl = true <;>
    by_cases hmode : state.operationMode = none <;>
    by_cases hflow : groupFresh clock state .flow = true <;>
    simp [hfresh, hmode, hflow] <;> split <;> simp_all

/-- Levels are reached only by a complete pair. -/
theorem complete_of_levelsReached {expected : ℤ × ℤ} (h : levelsReached pair expected = true) :
    ∃ supply extract, pair = (some supply, some extract) := by
  obtain ⟨supply | supply, extract | extract⟩ := pair
  all_goals simp [levelsReached, levelReached] at h
  exact ⟨supply, extract, rfl⟩

/-- **When levels are reported as reached only later**: time makes the unit report a pair that
it did not report before only by the status map going stale, and then it is the measured
airflow. -/
theorem reportedPair_earlier {expected : ℤ × ℤ}
    (hstamped : ∀ group, (state.groupReadHealth group).Stamped)
    (hle : clock.monotonic ≤ later.monotonic)
    (h : levelsReached (reportedPair later state) expected = true) :
    levelsReached (reportedPair clock state) expected = true ∨
      (groupFresh later state .flowControl = false ∧ groupFresh later state .flow = true ∧
        levelsReached (state.supplyAirFlow, state.extractAirFlow) expected = true) := by
  -- What is fresh later was fresh before; if the map went stale the measured levels took over.
  have hearlier : ∀ {group}, groupFresh later state group = true →
      groupFresh clock state group = true := groupFresh_earlier (hstamped _) hle
  unfold reportedPair at h
  split at h
  · rename_i hmap
    refine .inl ?_
    rw [reportedPair, if_pos ⟨hearlier hmap.1, hmap.2⟩]
    rcases hflow : groupFresh later state .flow with _ | _
    · rw [hflow] at h
      obtain ⟨supply, extract, hpair⟩ := complete_of_levelsReached h
      rw [hpair] at h
      cases groupFresh clock state .flow
      · rwa [hpair]
      · rwa [targetLevels_of_complete hpair]
    · rw [hflow] at h
      rwa [hearlier hflow]
  · rename_i hmap
    split at h
    · rename_i hflow
      by_cases hmode : state.operationMode = none
      · refine .inl ?_
        rw [reportedPair, if_neg (fun hboth => hboth.2 hmode), if_pos (hearlier hflow)]
        exact h
      · refine .inr ⟨?_, hflow, h⟩
        rw [Bool.eq_false_iff]
        exact fun hfresh => hmap ⟨hfresh, hmode⟩
    · cases h

/-- Reported levels are those that a pending pair is compared with. -/
theorem reportedLevels_reached {expected : ℤ × ℤ} :
    (∀ reported ∈ (reportedLevels clock state).1, levelsReached reported expected = false) ↔
      levelsReached (reportedPair clock state) expected = false := by
  rw [reportedLevels_fst]
  split
  · rename_i hnone
    rw [hnone]
    exact ⟨fun _ => rfl, fun _ _ h => by cases h⟩
  · simp

end Reported
end MeltemVentilation
