import MeltemVentilation.IntensiveDisplay

/-!
# Switching one fan off

A fan entity is switched off by the level 0 for its direction, and `plan_direction_write`
then keeps the other direction where it is: the plan is a pair, unless the opposite level is
unknown, which is refused. There are two ways to lose an opposite level that is known and
positive (`RoomCoordinator.StopsBoth`).

* The levels are measured, since the status map is not fresh, while the operating mode is
  still the cached one. If that is off, the plan takes the command for a start from off, and
  sends one balanced level to both directions.
* The levels are measured and close to each other, so that they count as one balanced level,
  and their mean is rounded to 0.

The theorem `RoomCoordinator.switchesOffOne_iff` says that there is no third.
-/

namespace MeltemVentilation

open RoomCoordinator Transition

/-! ### The plan of a command to switch off -/

/-- A plan that switches one direction off and leaves the other one on. -/
def SwitchesOffOne (direction : Direction)
    (plan : Except CommandError (PlannedWrite × Option LevelWriteFallback)) : Prop :=
  ∃ supply extract fallback, plan = .ok (.pair supply extract, fallback) ∧
    match direction with
    | .supply => supply = 0 ∧ 0 < extract
    | .extract => extract = 0 ∧ 0 < supply

/-- A measured pair that counts as one balanced level, which is rounded to 0. -/
def MeasuredAsZero (levels : LevelPair) (source : Option LevelSource) : Prop :=
  source = some .measured ∧ ∃ supply extract, levels = (some supply, some extract) ∧
    |supply - extract| ≤ levelConfirmTolerance ∧ supply + extract ≤ 1

section Plan

variable {room : RoomConfig} {state : RoomState} {levels : LevelPair}
  {source : Option LevelSource} {direction : Direction} {other : ℤ}

/-- The opposite level that a plan keeps stays positive, unless it is rounded to 0. -/
theorem plannedOpposite_of_pos (hother : oppositeLevel direction levels = some other)
    (hpos : 0 < other) :
    (MeasuredAsZero levels source ∧ plannedOpposite levels source other = 0) ∨
      (¬ MeasuredAsZero levels source ∧ 0 < plannedOpposite levels source other) := by
  unfold plannedOpposite
  split
  · rename_i supply extract
    have hopposite : other = supply ∨ other = extract := by
      cases direction <;> cases hother <;> simp
    by_cases hclose : |supply - extract| ≤ levelConfirmTolerance
    · rw [if_pos hclose]
      have hsum : 0 ≤ supply + extract := by
        rw [levelConfirmTolerance, abs_le] at hclose
        omega
      by_cases hlow : supply + extract ≤ 1
      · refine .inl ⟨⟨rfl, supply, extract, rfl, hclose, hlow⟩, ?_⟩
        obtain hzero | hone : supply + extract = 0 ∨ supply + extract = 1 := by omega
        · rw [hzero]
          decide
        · rw [hone]
          decide
      · refine .inr ⟨?_, HalfEven.le_round (by norm_num) (by omega)⟩
        rintro ⟨-, _, _, hlevels, -, hsum'⟩
        cases hlevels
        exact hlow hsum'
    · rw [if_neg hclose]
      refine .inr ⟨?_, hpos⟩
      rintro ⟨-, _, _, hlevels, hclose', -⟩
      cases hlevels
      exact hclose hclose'
  · rename_i hnot
    refine .inr ⟨?_, hpos⟩
    rintro ⟨hsource, supply, extract, hlevels, -⟩
    exact hnot supply extract hsource hlevels

/-- **When switching one direction off keeps the other one on**: the plan does not start from
off, and the opposite level is not rounded to 0. -/
theorem switchesOffOne_plan (hother : oppositeLevel direction levels = some other)
    (hpos : 0 < other) :
    SwitchesOffOne direction (planDirectionWrite room state levels source direction 0) ↔
      plannedOperationMode state levels source ≠ some .off ∧ ¬ MeasuredAsZero levels source := by
  have hplan : planDirectionWrite room state levels source direction 0 =
      if plannedOpposite levels source other = 0 ∨
          plannedOperationMode state levels source = some .off then
        .ok (.balanced 0, if plannedOperationMode state levels source = none then
          some LevelWriteFallback.unknownMode else none)
      else
        .ok (match direction with
          | .supply => .pair 0 (plannedOpposite levels source other)
          | .extract => .pair (plannedOpposite levels source other) 0,
          if plannedOperationMode state levels source = none then
            some LevelWriteFallback.unknownMode else none) := by
    -- With the requested direction at 0 the levels agree exactly when the other one is 0.
    have hbalanced : levelsBalanced 0 (plannedOpposite levels source other) = true ↔
        plannedOpposite levels source other = 0 := by
      simp [levelsBalanced, eq_comm]
    simp only [planDirectionWrite, hother, hbalanced, lt_irrefl, false_and, or_false]
    split
    · rfl
    · cases direction <;> rfl
  have hopposite : (MeasuredAsZero levels source ∧ plannedOpposite levels source other = 0) ∨
      (¬ MeasuredAsZero levels source ∧ 0 < plannedOpposite levels source other) :=
    plannedOpposite_of_pos hother hpos
  rw [hplan]
  split
  · rename_i hboth
    refine ⟨?_, ?_⟩
    · rintro ⟨supply, extract, fallback, hpair, -⟩
      cases hpair
    · rintro ⟨hmode, hlevels⟩
      rcases hboth with hzero | hoff
      · rcases hopposite with ⟨hmeasured, -⟩ | ⟨-, hkept⟩
        · exact absurd hmeasured hlevels
        · omega
      · exact absurd hoff hmode
  · rename_i hone
    push Not at hone
    obtain ⟨-, hzero⟩ | ⟨hlevels, hkept⟩ := hopposite
    · exact absurd hzero hone.1
    · refine ⟨fun _ => ⟨hone.2, hlevels⟩, fun _ => ?_⟩
      cases direction
      · exact ⟨_, _, _, rfl, rfl, hkept⟩
      · exact ⟨_, _, _, rfl, rfl, hkept⟩

end Plan

/-! ### The levels that a command builds on -/

namespace RoomCoordinator

variable {s : RoomCoordinator} {direction : Direction} {other : ℤ}

/-- **Whether switching one fan off stops both**: no pair is pending and the cached mode is off
although the status map is not fresh, or the measured levels count as one balanced level that
is rounded to 0. -/
def StopsBoth (s : RoomCoordinator) : Prop :=
  (levelsOverlay.get s.clock s.optimisticLevels none = none ∧
      s.state.operationMode = some .off ∧ groupFresh s.clock s.state .flowControl = false) ∨
    MeasuredAsZero s.directionLevels.1 s.directionLevels.2

/-- The levels of a command are the pending pair, or nothing is pending and they are the
reported ones, if any. -/
theorem directionLevels_cases (s : RoomCoordinator) :
    (∃ supply extract, levelsOverlay.get s.clock s.optimisticLevels none = some (supply, extract) ∧
        s.directionLevels = ((some supply, some extract), some .pending)) ∨
      (levelsOverlay.get s.clock s.optimisticLevels none = none ∧
        (s.directionLevels = ((none, none), none) ∨
          s.directionLevels = ((reportedLevels s.clock s.state).1.getD (none, none),
            (reportedLevels s.clock s.state).2))) := by
  unfold directionLevels
  split
  · rename_i pending hpending
    exact .inl ⟨pending.1, pending.2, hpending, rfl⟩
  · rename_i hnone
    refine .inr ⟨hnone, ?_⟩
    have hactive : s.pendingLevels = none := by
      rw [Option.eq_none_iff_forall_ne_some]
      intro pending hpending
      obtain ⟨value, hvalue, rfl, hbefore⟩ := OverlayKind.active_eq_some hpending
      rw [hvalue] at hnone
      simp [OverlayKind.get, hbefore] at hnone
    unfold resolveLevels
    split
    · exact .inl rfl
    · rw [hactive]
      rcases hdata : s.data with _ | state
      · exact .inl rfl
      · exact .inr (by simp [RoomCoordinator.state, hdata])

/-- Reported levels are not pending ones. -/
theorem reportedLevels_snd {clock : Clock} {state : RoomState} :
    (reportedLevels clock state).2 ≠ some .pending := by
  unfold reportedLevels
  dsimp only
  split
  · exact nofun
  · rename_i levels source hfound
    have hsource : source ≠ .pending := by
      split at hfound
      · split at hfound <;> cases hfound
        exact nofun
      · cases hfound
        split <;> exact nofun
    split
    · exact nofun
    · exact fun h => hsource (Option.some.inj h)

/-- While the status map is fresh and shows off, no level is positive. -/
theorem groupFresh_of_off (hoff : s.state.operationMode = some .off)
    (hother : oppositeLevel direction
      ((reportedLevels s.clock s.state).1.getD (none, none)) = some other) (hpos : 0 < other) :
    groupFresh s.clock s.state .flowControl = false := by
  rw [Bool.eq_false_iff]
  intro hfresh
  have hpair : reportedPair s.clock s.state = (some 0, some 0) := by
    rw [reportedPair, if_pos ⟨hfresh, by simp [hoff]⟩]
    simp [targetLevels, hoff]
  rw [reportedLevels_fst, hpair] at hother
  cases direction <;> cases hother <;> exact absurd hpos (lt_irrefl 0)

/-- The mode that a plan starts from is off only if it is the cached one of a status map that
is not fresh. -/
theorem plannedOperationMode_eq_off (hother : oppositeLevel direction s.directionLevels.1 =
    some other) (hpos : 0 < other) :
    plannedOperationMode s.state s.directionLevels.1 s.directionLevels.2 = some .off ↔
      levelsOverlay.get s.clock s.optimisticLevels none = none ∧
        s.state.operationMode = some .off ∧
        groupFresh s.clock s.state .flowControl = false := by
  rcases s.directionLevels_cases with ⟨supply, extract, hpending, hlevels⟩ |
    ⟨hnone, hlevels | hlevels⟩
  all_goals rw [hlevels] at hother ⊢
  · -- The mode of a pending pair is off only for the pair of zeros.
    have hne : ¬ (supply = 0 ∧ extract = 0) := by
      rintro ⟨rfl, rfl⟩
      cases direction <;> cases hother <;> exact absurd hpos (lt_irrefl 0)
    simp only [hpending, plannedOperationMode, reduceCtorEq, false_and, iff_false]
    rw [if_neg hne]
    split <;> simp
  · cases direction <;> cases hother
  · have hmode : plannedOperationMode s.state
        ((reportedLevels s.clock s.state).1.getD (none, none))
        (reportedLevels s.clock s.state).2 = s.state.operationMode := by
      unfold plannedOperationMode
      split
      · exact absurd ‹_› reportedLevels_snd
      · rfl
    rw [hmode]
    exact ⟨fun hoff => ⟨hnone, hoff, groupFresh_of_off hoff hother hpos⟩, fun h => h.2.1⟩

/-- **When switching one fan off leaves the other one on**, whose level is known and positive:
for every polled state, however fresh its read groups are, and every pending pair. -/
theorem switchesOffOne_iff (hother : oppositeLevel direction s.directionLevels.1 = some other)
    (hpos : 0 < other) :
    SwitchesOffOne direction (planDirectionWrite s.room s.state s.directionLevels.1
      s.directionLevels.2 direction 0) ↔ ¬ s.StopsBoth := by
  rw [switchesOffOne_plan hother hpos, StopsBoth, not_or, ne_eq,
    plannedOperationMode_eq_off hother hpos]

end RoomCoordinator

/-! ### Two commands -/

/-- A unit that runs balanced at 40 m³/h, and whose airflow and status map are read. -/
def balancedPoll : Label :=
  .poll (.airflow manualRead .failed) ⟨false, false⟩ (atSecond 1) (atSecond 1)

/-- A unit that was off when its status map was last read, and that runs now. -/
def staleOff : List Label :=
  [.poll (.airflow (.blocks (.values ⟨0, 0⟩) (.values ⟨modeOff, 0, 0⟩)) .failed) ⟨false, false⟩
      (atSecond 1) (atSecond 1),
    .poll (.airflow (.blocks (.values ⟨40, 40⟩) (.failed "Request timed out" true)) .failed)
      ⟨false, false⟩ (atSecond 11) (atSecond 11)]

namespace RoomCoordinator

theorem switchesOffOne_iff_balanced : ∃ s, run step [balancedPoll] sampleStart = some s ∧
    SwitchesOffOne .supply (planDirectionWrite s.room s.state s.directionLevels.1
      s.directionLevels.2 .supply 0) := by
  have hstart : Reach step (fun _ _ => True) Started sampleStart := .start sampleStart_started
  obtain ⟨s, hrun, -, hs⟩ := hstart.exists_of_run [balancedPoll]
    (fun s => s.state.operationMode = some .manual &&
      s.directionLevels = ((some 40, some 40), some .target))
    (by decide +kernel) (by decide +kernel)
  obtain ⟨hmode, hlevels⟩ := Bool.and_eq_true_iff.mp hs
  replace hmode : s.state.operationMode = some .manual := of_decide_eq_true hmode
  replace hlevels : s.directionLevels = ((some 40, some 40), some .target) :=
    of_decide_eq_true hlevels
  have hother : oppositeLevel .supply s.directionLevels.1 = some 40 := by
    rw [hlevels]
    rfl
  refine ⟨s, hrun, (switchesOffOne_iff hother (by decide)).mpr ?_⟩
  rintro (⟨-, hoff, -⟩ | ⟨hsource, -⟩)
  · rw [hmode] at hoff
    cases hoff
  · rw [hlevels] at hsource
    cases hsource

/-- **Switching one fan off can stop both**: the unit has been switched on at its keypad, its
airflow is measured, and the read of the status map has failed, so that the mode is still the
cached one. -/
theorem switchesOffOne_refuted : ∃ s, run step staleOff sampleStart = some s ∧
    Reach step (fun _ _ => True) Started s ∧ s.directionLevels.1 = (some 40, some 40) ∧
      planDirectionWrite s.room s.state s.directionLevels.1 s.directionLevels.2 .supply 0 =
        .ok (.balanced 0, none) ∧
      ¬ SwitchesOffOne .supply (planDirectionWrite s.room s.state s.directionLevels.1
        s.directionLevels.2 .supply 0) := by
  have hstart : Reach step (fun _ _ => True) Started sampleStart := .start sampleStart_started
  obtain ⟨s, hrun, hreach, hs⟩ := hstart.exists_of_run staleOff
    (fun s => s.state.operationMode = some .off &&
      s.directionLevels = ((some 40, some 40), some .measured))
    (by decide +kernel) (by decide +kernel)
  obtain ⟨hmode, hlevels⟩ := Bool.and_eq_true_iff.mp hs
  replace hmode : s.state.operationMode = some .off := of_decide_eq_true hmode
  replace hlevels : s.directionLevels = ((some 40, some 40), some .measured) :=
    of_decide_eq_true hlevels
  have hplan : planDirectionWrite s.room s.state s.directionLevels.1 s.directionLevels.2
      .supply 0 = .ok (.balanced 0, none) := by
    simp [planDirectionWrite, plannedOperationMode, hlevels, hmode, oppositeLevel]
  refine ⟨s, hrun, hreach, by rw [hlevels], hplan, ?_⟩
  rw [hplan]
  rintro ⟨supply, extract, fallback, hpair, -⟩
  cases hpair

end RoomCoordinator

end MeltemVentilation
