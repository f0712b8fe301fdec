import MeltemVentilation.ModbusClient.RoomReadBlocks

/-!
# What a failed or skipped block leaves alone

A call of `read_room` changes a value field only if the field was due and its block was read.
The same holds of what the status map is decoded to, the modes, the intensive flag and the
raw status. It does not hold of the two targets: the decoder also runs when the status map
was not read, and outside unbalanced mode it then derives the target from the measured
airflow and clears the extract target. `readRoom_frame` states the frame with exactly this
exception.
-/

namespace MeltemVentilation

variable {call : RoomCall} {read : RoomRead} {room : RoomConfig} {state : UnitState}

/-! ### The decoder without a status map -/

/-- In unbalanced mode a missing status map keeps both targets. -/
theorem applyModeRead_none_unbalanced (room : RoomConfig) (state : UnitState)
    (h : state.operationMode = some .unbalanced) :
    (state.applyModeRead room none).targetLevel = state.targetLevel ∧
      (state.applyModeRead room none).extractTargetLevel = state.extractTargetLevel := by
  simp [UnitState.applyModeRead, MeltemVentilation.applyModeRead, decodeTargets, h,
    UnitState.roomState]

/-- In every other mode it derives the target from the airflow, and clears the extract
target. -/
theorem applyModeRead_none_derived (h : state.operationMode ≠ some .unbalanced) :
    (state.applyModeRead room none).targetLevel =
        deriveBalancedAirflow state.roomState.extractAirFlow state.roomState.supplyAirFlow ∧
      (state.applyModeRead room none).extractTargetLevel = none := by
  have hmode : state.roomState.operationMode ≠ some .unbalanced := h
  simp only [UnitState.applyModeRead, MeltemVentilation.applyModeRead, decodeTargets,
    Option.map_none, Option.any_none, Bool.false_eq_true, if_false]
  rcases hknown : state.roomState.operationMode with - | mode
  · exact ⟨rfl, rfl⟩
  · rw [hknown] at hmode
    cases mode with
    | unbalanced => exact (hmode rfl).elim
    | _ => exact ⟨rfl, rfl⟩

/-! ### The frame of a call -/

/-- What a call leaves alone where it did not read the status map. -/
structure StatusFrame (call : RoomCall) (state : UnitState) : Prop where
  operationMode : state.operationMode = call.previous.operationMode
  presetMode : state.presetMode = call.previous.presetMode
  intensiveActive : state.intensiveActive = call.previous.intensiveActive
  modeStatusRaw : state.modeStatusRaw = call.previous.modeStatusRaw
  /-- The targets, if the decoder did not run or the last known mode is unbalanced. -/
  targets : call.replies.readDelayed = true ∨ call.plan.refreshAirflow = false ∨
      call.previous.operationMode = some .unbalanced →
    state.targetLevel = call.previous.targetLevel ∧
      state.extractTargetLevel = call.previous.extractTargetLevel
  /-- Otherwise the target follows the airflow, as far as it is known after this call. -/
  derived : call.replies.readDelayed = false → call.plan.refreshAirflow = true →
      call.previous.operationMode ≠ some .unbalanced →
    state.targetLevel =
        deriveBalancedAirflow state.roomState.extractAirFlow state.roomState.supplyAirFlow ∧
      state.extractTargetLevel = none

theorem freshValue_eq_of_not_read {updated : Updated} {job : ReadJob} {field : RoomField}
    (hpolled : call.Polled job updated)
    (h : ¬ (isDue call.room call.plan field = true ∧
      call.Read (.component (fieldRead call.room field).component))) :
    freshValue call.room call.plan updated call.previous.value field =
      call.previous.value field := by
  unfold freshValue
  split
  · rename_i hdue
    have hnone : updated (fieldRead call.room field).component = none := by
      cases hvalues : updated (fieldRead call.room field).component with
      | none => rfl
      | some values => exact (h ⟨hdue, values, (hpolled.updated _ _).mp hvalues⟩).elim
    rw [fieldOutcome, hnone]
    rfl
  · rfl

/-- Where the decoder does not run, all of the status map's fields keep. -/
theorem statusFrame_of_not_decoded {job : ReadJob} (updated : Updated)
    (h : call.replies.readDelayed = true ∨ call.plan.refreshAirflow = false)
    (hread : read = call.finish job call.previous ∨
      read = call.finish job (call.polledState updated)) : StatusFrame call read.state := by
  rcases hread with rfl | rfl
  all_goals
    refine ⟨rfl, rfl, rfl, rfl, fun _ => ⟨rfl, rfl⟩, fun hnow hplan _ => ?_⟩
    rcases h with h | h
    · rw [hnow] at h
      cases h
    · rw [hplan] at h
      cases h

/-- Where it runs without a status map, the modes keep and the targets follow its rule. -/
theorem statusFrame_of_none {job : ReadJob} {updated : Updated}
    (hnow : call.replies.readDelayed = false) (hplan : call.plan.refreshAirflow = true) :
    StatusFrame call (call.finish job
      ((call.polledState updated).applyModeRead call.room none)).state where
  operationMode := rfl
  presetMode := rfl
  intensiveActive := rfl
  modeStatusRaw := rfl
  targets h := by
    rcases h with h | h | h
    · rw [hnow] at h
      cases h
    · rw [hplan] at h
      cases h
    · exact applyModeRead_none_unbalanced call.room (call.polledState updated) h
  derived _ _ h := applyModeRead_none_derived h

/-- **A failed or skipped block keeps its cached values.** Every value field that a call
changes was due, and its block was read; if the status map was not read, the fields decoded
from it keep as well, apart from the targets outside unbalanced mode, which the decoder then
derives from the measured airflow. -/
theorem readRoom_frame (call : RoomCall) (read : RoomRead) (h : call.result = .ok read) :
    (∀ field, read.state.value field ≠ call.previous.value field →
      isDue call.room call.plan field = true ∧
        call.Read (.component (fieldRead call.room field).component)) ∧
    (¬ call.Read .statusMap → StatusFrame call read.state) := by
  obtain ⟨hdelayed, hread⟩ | ⟨hnow, job, updated, hpolled, hcase⟩ := RoomCall.result_cases h
  · refine ⟨fun field hne => (hne ?_).elim, fun _ => ?_⟩
    · rw [hread]
      rfl
    · exact statusFrame_of_not_decoded (fun _ => none) (.inl hdelayed) (.inl hread)
  · have hvalue : read.state.value =
        freshValue call.room call.plan updated call.previous.value := by
      obtain ⟨-, rfl⟩ | ⟨-, -, -, -, -, -, -, rfl⟩ := hcase <;> rfl
    refine ⟨fun field hne => ?_, fun hstatus => ?_⟩
    · by_contra hkeep
      exact hne (by rw [hvalue, freshValue_eq_of_not_read hpolled hkeep])
    · obtain ⟨hplan, hread⟩ | ⟨hplan, client, client', job', block, hbackoff, hmode, rfl⟩ := hcase
      · exact statusFrame_of_not_decoded updated (.inr hplan) (.inr hread)
      · have hsilent : (recordFields call.room call.plan updated job).silentError.isSome = true ↔
            call.WentSilent := by
          rw [RoomCall.recordFields_silentError]
          exact hpolled.silent
        obtain ⟨-, -, hblock⟩ := RoomCall.readModeBlock_spec hnow hplan hsilent hbackoff hmode
        obtain rfl : block = none := by
          cases block with
          | none => rfl
          | some given => exact (hstatus (hblock.mp rfl)).elim
        exact statusFrame_of_none hnow hplan

/-! ### A call that reads nothing -/

/-- A manual unit with a target of 40 m³/h that refuses both blocks of the airflow plan. -/
def refusedCall : RoomCall where
  client := { port := "/dev/ttyUSB0" }
  room := ⟨"slave_2", "Living room", .sFc, 2⟩
  previous := {
    value := fun
      | .extractAirFlow | .supplyAirFlow => some (.number 35)
      | _ => none
    operationMode := some .manual
    targetLevel := some 40 }
  plan := airflowRefreshPlan
  replies := {
    readDelayed := false
    pollStarted := seconds 100
    poll := .report fun _ => .failed ⟨.exception, "Illegal data address"⟩
    modeStarted := seconds 101
    mode := .failed ⟨.exception, "Illegal data address"⟩
    answered := true
    finished := ⟨seconds 102, wallSeconds 102⟩ }

/-- **The target changes in a call that read no block at all**: it follows the cached
airflow. -/
theorem targetLevel_of_refusedCall : ∃ read, refusedCall.result = .ok read ∧
    ¬ refusedCall.Read .statusMap ∧ (∀ component, ¬ refusedCall.Read (.component component)) ∧
    refusedCall.previous.targetLevel = some 40 ∧ read.state.targetLevel = some 35 := by
  refine ⟨_, rfl, ?_, ?_, rfl, by decide⟩
  · rintro ⟨-, -, block, hmode⟩
    cases hmode
  · rintro component ⟨values, -, outcome, hpoll, hvalues⟩
    cases hpoll
    cases hvalues

/-- The frame of that call. -/
theorem readRoom_frame_refusedCall : ∃ read, refusedCall.result = .ok read ∧
    StatusFrame refusedCall read.state := by
  refine ⟨_, rfl, (readRoom_frame refusedCall _ rfl).2 ?_⟩
  rintro ⟨-, -, block, hmode⟩
  cases hmode

end MeltemVentilation
