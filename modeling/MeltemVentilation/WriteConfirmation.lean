import MeltemVentilation.Levels

/-!
# The outcome of each write

The class `WriteConfirmations` of `write_confirmation.py`, for one unit: the last outcome
under each write key, recorded when the transport accepts or loses a write and judged by the
readbacks after it.

What a later readback may still do to an outcome is decided by its status alone.
`WriteStatus.isFinal` outcomes never change again except by a new write under the same key
(`WriteConfirmations.confirm_of_isFinal`); the others are judged whenever the health of the
confirming group differs from the one recorded as the baseline of the write. The three
base-mode keys replace each other (`WriteConfirmations.supersede`), since each of them
describes the whole base mode of the unit.
-/

namespace MeltemVentilation

/-! ### Keys and statuses -/

/-- The keys of `_BASE_MODE_WRITES`. -/
def baseModeWrites : List WriteKey := [.airflowLevels, .operationMode, .presetMode]

/-- `write_group`: the read group whose readback confirms a write. -/
def writeGroup : WriteKey → ReadGroup
  | .airflowLevels | .operationMode | .presetMode | .intensive => .flowControl
  | .controlSetting _ => .controlSettings

/-- `_WRITES_HIDDEN_BY_INTENSIVE`: base writes that leave a running override in place. -/
def WriteKey.hiddenByIntensive : WriteKey → Bool
  | .airflowLevels | .operationMode => true
  | .presetMode | .intensive | .controlSetting _ => false

/-- `_FINAL_STATUSES`: outcomes a later readback can no longer change. -/
def WriteStatus.isFinal : WriteStatus → Bool
  | .failed | .confirmed | .superseded => true
  | .pending | .mismatch | .unconfirmed | .unverifiable => false

/-- `_CONFIRMABLE_STATUSES`. -/
def WriteStatus.confirmable (status : WriteStatus) : Bool := !status.isFinal

/-- `_UNHEALTHY_STATUSES`: outcomes that flag data health while they are recent. -/
def WriteStatus.unhealthy : WriteStatus → Bool
  | .unconfirmed | .mismatch | .failed => true
  | .pending | .confirmed | .superseded | .unverifiable => false

/-- A write that has been sent more than 30 s ago. -/
def WriteConfirmation.timedOut (wall : WallTime) (confirmation : WriteConfirmation) : Bool :=
  decide (wallSeconds writeConfirmationTimeoutSeconds < wall - confirmation.startedAt)

/-- `confirmation_status`: a write that stays pending too long counts as unconfirmed. -/
def confirmationStatus (wall : WallTime) (confirmation : WriteConfirmation) : WriteStatus :=
  if confirmation.status = .pending ∧ confirmation.timedOut wall then .unconfirmed
  else confirmation.status

/-- `_recent`. -/
def WriteConfirmation.recent (wall : WallTime) (confirmation : WriteConfirmation) : Bool :=
  decide (wall - confirmation.startedAt ≤ wallSeconds writeHealthRetentionSeconds)

/-! ### Judging one write -/

/-- `_readback_value`: what the state says about the value of a write. -/
def readbackValue (state : RoomState) : WriteKey → Option WriteValue
  | .airflowLevels =>
    match state.operationMode with
    | some .manual | some .off =>
      state.balancedTargetReadback.map fun readback => .levels readback readback
    | some .unbalanced =>
      match targetLevels state false with
      | (some supply, some extract) => some (.levels supply extract)
      | _ => none
    | _ => none
  | .operationMode => state.operationMode.map .operationMode
  | .presetMode => state.presetMode.map .presetMode
  | .intensive => state.intensiveActive.map .intensive
  | .controlSetting key => (state.controlSetting key).map .setting

/-- `_values_match`: levels match within the tolerance, other values exactly. -/
def valuesMatch (writeKey : WriteKey) (expected actual : WriteValue) : Bool :=
  match writeKey, expected, actual with
  | .airflowLevels, .levels supply extract, .levels supply' extract' =>
    levelsReached (some supply', some extract') (supply, extract)
  | _, _, _ => actual = expected

/-- **`_checked_confirmation`**: the new outcome of one write after a readback, or `none` if
it is unchanged. -/
def checkedConfirmation (state : RoomState) (writeKey : WriteKey)
    (confirmation : WriteConfirmation) : Option WriteConfirmation :=
  let health := state.groupReadHealth (writeGroup writeKey)
  if confirmation.status.isFinal then none
  -- Unchanged health means no read happened since the write.
  else if health.lastAttempt = none ∨ health = confirmation.baseline then none
  else if health.lastError ≠ none then
    if confirmation.status ≠ .pending then none
    else some { confirmation with status := .unconfirmed, lastError := health.lastError }
  else if writeKey.hiddenByIntensive ∧ state.intensiveActive = some true then
    if confirmation.status = .unverifiable then none
    else some { confirmation with status := .unverifiable, lastError := none }
  else
    match readbackValue state writeKey with
    | none => none
    | some actual =>
      let status : WriteStatus :=
        if valuesMatch writeKey confirmation.expectedValue actual then .confirmed else .mismatch
      if confirmation.status = status ∧ confirmation.actualValue = some actual then none
      else
        some { confirmation with status := status, actualValue := some actual, lastError := none }

/-! ### The table of a unit -/

/-- The outcomes of one unit, with the issues that have been counted for each key. -/
structure WriteConfirmations where
  byKey : WriteKey → Option WriteConfirmation := fun _ => none
  balancedFlowConverged : Bool := false
  /-- What `on_issue` has been called with, the latest last. -/
  issues : WriteKey → List WriteStatus := fun _ => []

namespace WriteConfirmations

/-- `record_pending`. -/
def recordPending (confirmations : WriteConfirmations) (wall : WallTime) (writeKey : WriteKey)
    (expectedValue : WriteValue) (baseline : ReadHealth) : WriteConfirmations :=
  { confirmations with
    balancedFlowConverged :=
      if writeKey = .airflowLevels then false else confirmations.balancedFlowConverged
    byKey := Function.update confirmations.byKey writeKey
      (some { expectedValue := expectedValue, startedAt := wall, baseline := baseline }) }

/-- The keys that a command under `writeKey` supersedes. -/
def superseded (confirmations : WriteConfirmations) (writeKey : WriteKey) : List WriteKey :=
  if writeKey ∈ baseModeWrites then
    baseModeWrites.filter fun key => key ≠ writeKey ∧
      (confirmations.byKey key).any fun confirmation => !confirmation.status.isFinal
  else []

/-- `supersede`: finish earlier base-mode writes replaced by an accepted command. -/
def supersede (confirmations : WriteConfirmations) (writeKey : WriteKey) :
    WriteConfirmations :=
  { confirmations with
    byKey := fun key =>
      if key ∈ confirmations.superseded writeKey then
        (confirmations.byKey key).map fun confirmation =>
          { confirmation with status := .superseded }
      else confirmations.byKey key }

/-- `set_status`: update one outcome without changing its expected value. -/
def setStatus (confirmations : WriteConfirmations) (writeKey : WriteKey) (status : WriteStatus)
    (error : Option String := none) (actualValue : Option WriteValue := none) :
    WriteConfirmations :=
  match confirmations.byKey writeKey with
  | none => confirmations
  | some previous =>
    { confirmations with
      byKey := Function.update confirmations.byKey writeKey
        (some { previous with
          status := status
          actualValue := actualValue
          lastError := error
          issueCounted := previous.issueCounted || status.unhealthy })
      issues :=
        if status.unhealthy && !previous.issueCounted then
          Function.update confirmations.issues writeKey
            (confirmations.issues writeKey ++ [status])
        else confirmations.issues }

/-- `mark_unconfirmed`: mark a still pending write unconfirmed. -/
def markUnconfirmed (confirmations : WriteConfirmations) (writeKey : WriteKey)
    (error : String) : WriteConfirmations :=
  if (confirmations.byKey writeKey).any fun confirmation => confirmation.status = .pending then
    confirmations.setStatus writeKey .unconfirmed (some error)
  else confirmations

/-- One round of the loop of `confirm`: the outcome under one key after a readback, and the
issue that is counted for it. -/
def confirmOne (wall : WallTime) (state : RoomState) (writeKey : WriteKey)
    (confirmation : WriteConfirmation) : WriteConfirmation × Option WriteStatus :=
  match checkedConfirmation state writeKey confirmation with
  | some checked =>
    if checked.status.unhealthy && !confirmation.issueCounted then
      ({ checked with issueCounted := true }, some checked.status)
    else (checked, none)
  | none =>
    if confirmation.status = .pending ∧ confirmation.issueCounted = false ∧
        confirmation.timedOut wall = true then
      ({ confirmation with issueCounted := true }, some .unconfirmed)
    else (confirmation, none)

/-- `confirm`: judge pending writes by the latest readbacks. -/
def confirm (confirmations : WriteConfirmations) (wall : WallTime) (state : RoomState) :
    WriteConfirmations :=
  { confirmations with
    byKey := fun key => (confirmations.byKey key).map fun confirmation =>
      (confirmOne wall state key confirmation).1
    issues := fun key => confirmations.issues key ++
      ((confirmations.byKey key).bind fun confirmation =>
        (confirmOne wall state key confirmation).2).toList }

/-- `needs_confirmation`: whether a recent write can still be confirmed. -/
def needsConfirmation (confirmations : WriteConfirmations) (wall : WallTime)
    (writeKey : WriteKey) : Bool :=
  (confirmations.byKey writeKey).any fun confirmation =>
    confirmation.status.confirmable && confirmation.recent wall

/-- `_has_recent_write`. -/
def hasRecentWrite (confirmations : WriteConfirmations) (wall : WallTime)
    (writeKey : WriteKey) : Bool :=
  (confirmations.byKey writeKey).any (·.recent wall)

/-! ### The range of the sensor-control levels -/

/-- `unconfirmed_control_setting`: an accepted setting that has not been read back yet. -/
def unconfirmedControlSetting (confirmations : WriteConfirmations) (key : ControlSetting) :
    Option ℤ :=
  match confirmations.byKey (.controlSetting key) with
  | some confirmation =>
    if confirmation.status = .pending ∨ confirmation.status = .unconfirmed then
      match confirmation.expectedValue with
      | .setting value => some value
      | _ => none
    else none
  | none => none

end WriteConfirmations

/-- `normalize_control_setting`: clamp a setting to its limits and round it to its step. -/
def normalizeControlSetting (key : ControlSetting) (value : ℤ) : ℤ :=
  let limits := controlSettingLimits key
  let clamped := max limits.minimum (min limits.maximum value)
  limits.minimum + (clamped - limits.minimum + limits.step / 2) / limits.step * limits.step

namespace WriteConfirmations

/-- The value that the range check takes for one bound. -/
def checkedBound (confirmations : WriteConfirmations) (state : RoomState)
    (key : ControlSetting) : Option ℤ :=
  (confirmations.unconfirmedControlSetting key).or (state.controlSetting key)

/-- One round of the loop of `check_control_level_range`. -/
def checkRange (confirmations : WriteConfirmations) (room : RoomConfig) (state : RoomState)
    (settingKey : ControlSetting) (value : ℤ) (range : ControlSetting × ControlSetting) :
    Option CommandError :=
  if settingKey ≠ range.1 ∧ settingKey ≠ range.2 then none
  else
    let minimum := if settingKey = range.1 then some (normalizeControlSetting range.1 value)
      else confirmations.checkedBound state range.1
    let maximum := if settingKey = range.1 then confirmations.checkedBound state range.2
      else some (normalizeControlSetting range.2 value)
    match minimum, maximum with
    | some low, some high =>
      if high < low then
        some ⟨"control_level_range",
          [("unit", room.name), ("minimum", toString low), ("maximum", toString high)]⟩
      else none
    | _, _ => none

/-- `check_control_level_range`: the error for a minimum level above the maximum level of the
same sensor control. -/
def checkControlLevelRange (confirmations : WriteConfirmations) (room : RoomConfig)
    (state : RoomState) (settingKey : ControlSetting) (value : ℤ) : Option CommandError :=
  controlLevelRanges.findSome? (confirmations.checkRange room state settingKey value)

/-! ### The exact target of a balanced write -/

/-- `_flow_reached_readback`. -/
def flowReachedReadback (clock : Clock) (state previousState : RoomState) (readback : ℤ) :
    Bool :=
  groupFresh clock state .flow &&
    (levelsReached (state.supplyAirFlow, state.extractAirFlow) (readback, readback) ||
      levelsReached (previousState.supplyAirFlow, previousState.extractAirFlow)
        (readback, readback))

/-- `_balanced_readback_superseded_by_flow`: whether fresh measured airflow shows that the
target returned to the coarse step. -/
def balancedReadbackSupersededByFlow (clock : Clock) (state previousState : RoomState)
    (readback : ℤ) (recentWrite : Bool) : Bool :=
  if !groupFresh clock state .flow then false
  else
    match state.targetLevel, state.supplyAirFlow, state.extractAirFlow with
    | some target, some supply, some extract =>
      if levelsReached (some supply, some extract) (readback, readback) then false
      else if !levelsReached (some supply, some extract) (target, target) then false
      else !recentWrite ||
        levelsReached (previousState.supplyAirFlow, previousState.extractAirFlow)
          (readback, readback)
    | _, _, _ => false

/-- What `prepare_balanced_target_readback` leaves: the table, the state, and whether
register `41121` must be read to confirm a write. -/
structure BalancedTarget where
  confirmations : WriteConfirmations
  state : RoomState
  mustRead : Bool

/-- **`prepare_balanced_target_readback`.** While a write can still be confirmed, the exact
target is read again; afterwards the last exact target is carried forward as long as
nothing shows that it has changed. -/
def prepareBalancedTargetReadback (confirmations : WriteConfirmations) (clock : Clock)
    (state previousState : RoomState) : BalancedTarget :=
  if groupFresh clock state .flowControl = false ∨ state.intensiveActive = some true ∨
      (state.operationMode ≠ some .manual ∧ state.operationMode ≠ some .off) then
    ⟨confirmations, state, false⟩
  else if confirmations.needsConfirmation clock.wall .airflowLevels then
    ⟨confirmations, state, true⟩
  else
    match previousState.balancedTargetReadback with
    | none => ⟨{ confirmations with balancedFlowConverged := false }, state, false⟩
    | some readback =>
      let converged := confirmations.balancedFlowConverged ||
        flowReachedReadback clock state previousState readback
      let recentWrite := confirmations.hasRecentWrite clock.wall .airflowLevels && !converged
      if state.operationMode = previousState.operationMode ∧ state.presetMode = none ∧
          state.targetLevel = previousState.targetLevel ∧
          balancedReadbackSupersededByFlow clock state previousState readback recentWrite =
            false then
        ⟨{ confirmations with balancedFlowConverged := converged },
          { state with balancedTargetReadback := some readback }, false⟩
      else ⟨{ confirmations with balancedFlowConverged := false }, state, false⟩

end WriteConfirmations

/-! ### What the operations do to one key -/

section Operations

variable {confirmations : WriteConfirmations} {wall : WallTime} {state : RoomState}
  {writeKey key : WriteKey} {expectedValue : WriteValue} {baseline : ReadHealth}
  {confirmation : WriteConfirmation}

namespace WriteConfirmations

@[simp] theorem recordPending_self :
    (confirmations.recordPending wall writeKey expectedValue baseline).byKey writeKey =
      some { expectedValue := expectedValue, startedAt := wall, baseline := baseline } := by
  simp [recordPending]

theorem recordPending_of_ne (h : key ≠ writeKey) :
    (confirmations.recordPending wall writeKey expectedValue baseline).byKey key =
      confirmations.byKey key := by
  simp [recordPending, h]

theorem setStatus_self {status : WriteStatus} {error : Option String}
    {actual : Option WriteValue} (h : confirmations.byKey writeKey = some confirmation) :
    (confirmations.setStatus writeKey status error actual).byKey writeKey =
      some { confirmation with
        status := status
        actualValue := actual
        lastError := error
        issueCounted := confirmation.issueCounted || status.unhealthy } := by
  simp [setStatus, h]

theorem setStatus_of_ne {status : WriteStatus} {error : Option String}
    {actual : Option WriteValue} (h : key ≠ writeKey) :
    (confirmations.setStatus writeKey status error actual).byKey key =
      confirmations.byKey key := by
  unfold setStatus
  split <;> simp [h]

theorem markUnconfirmed_of_ne {error : String} (h : key ≠ writeKey) :
    (confirmations.markUnconfirmed writeKey error).byKey key = confirmations.byKey key := by
  unfold markUnconfirmed
  split
  · exact setStatus_of_ne h
  · rfl

/-- Marking a write unconfirmed changes a pending status only. -/
theorem markUnconfirmed_self {error : String} :
    (confirmations.markUnconfirmed writeKey error).byKey writeKey =
      (confirmations.byKey writeKey).map fun confirmation =>
        if confirmation.status = .pending then
          { confirmation with
            status := .unconfirmed
            actualValue := none
            lastError := some error
            issueCounted := true }
        else confirmation := by
  rcases h : confirmations.byKey writeKey with _ | confirmation
  · simp [markUnconfirmed, h]
  · by_cases hp : confirmation.status = .pending
    · simp [markUnconfirmed, h, hp, setStatus_self h, WriteStatus.unhealthy]
    · simp [markUnconfirmed, h, hp]

/-- The superseded keys are the other base keys whose outcome is still open. -/
theorem mem_superseded : key ∈ confirmations.superseded writeKey ↔
    writeKey ∈ baseModeWrites ∧ key ∈ baseModeWrites ∧ key ≠ writeKey ∧
      ∃ confirmation, confirmations.byKey key = some confirmation ∧
        confirmation.status.isFinal = false := by
  by_cases hbase : writeKey ∈ baseModeWrites
  · simp [superseded, hbase, List.mem_filter, Option.any_eq_true]
  · simp [superseded, hbase]

theorem supersede_of_notMem (h : key ∉ baseModeWrites ∨ writeKey ∉ baseModeWrites) :
    (confirmations.supersede writeKey).byKey key = confirmations.byKey key := by
  have hnot : key ∉ confirmations.superseded writeKey := by
    rw [mem_superseded]
    tauto
  simp [supersede, hnot]

/-- **After a base command, no other base write is open.** -/
theorem isFinal_of_supersede (hbase : writeKey ∈ baseModeWrites) (hkey : key ∈ baseModeWrites)
    (hne : key ≠ writeKey)
    (h : (confirmations.supersede writeKey).byKey key = some confirmation) :
    confirmation.status.isFinal = true := by
  by_cases hmem : key ∈ confirmations.superseded writeKey
  · obtain ⟨previous, -, rfl⟩ : ∃ previous, confirmations.byKey key = some previous ∧
        { previous with status := .superseded } = confirmation := by
      simpa [supersede, hmem] using h
    rfl
  · have hsame : confirmations.byKey key = some confirmation := by
      simpa [supersede, hmem] using h
    by_contra hopen
    exact hmem (mem_superseded.mpr
      ⟨hbase, hkey, hne, confirmation, hsame, Bool.eq_false_iff.mpr hopen⟩)

end WriteConfirmations

/-! ### What a readback does to one key -/

/-- A final outcome is not judged again. -/
theorem checkedConfirmation_of_isFinal (h : confirmation.status.isFinal = true) :
    checkedConfirmation state writeKey confirmation = none := by
  simp [checkedConfirmation, h]

/-- **What a readback says about a write**: a judged write was open, the group was read or
tried after the write, and the new outcome has the expected value and the baseline of the
old one. -/
theorem checkedConfirmation_cases {checked : WriteConfirmation}
    (h : checkedConfirmation state writeKey confirmation = some checked) :
    confirmation.status.isFinal = false ∧
      state.groupReadHealth (writeGroup writeKey) ≠ confirmation.baseline ∧
      (state.groupReadHealth (writeGroup writeKey)).lastAttempt ≠ none ∧
      checked.expectedValue = confirmation.expectedValue ∧
      checked.baseline = confirmation.baseline ∧
      checked.startedAt = confirmation.startedAt ∧
      checked.issueCounted = confirmation.issueCounted ∧
      ((checked.status = .unconfirmed ∧ confirmation.status = .pending ∧
          (state.groupReadHealth (writeGroup writeKey)).lastError ≠ none) ∨
        ((state.groupReadHealth (writeGroup writeKey)).lastError = none ∧
          ((checked.status = .unverifiable ∧ writeKey.hiddenByIntensive = true ∧
              state.intensiveActive = some true) ∨
            (¬ (writeKey.hiddenByIntensive = true ∧ state.intensiveActive = some true) ∧
              ∃ actual, readbackValue state writeKey = some actual ∧
                checked.status =
                  if valuesMatch writeKey confirmation.expectedValue actual then .confirmed
                  else .mismatch)))) := by
  -- The guards in their order: final, not read since, failed, hidden, and the comparison.
  unfold checkedConfirmation at h
  dsimp only at h
  split at h
  · cases h
  · rename_i hopen
    split at h
    · cases h
    · rename_i hread
      push Not at hread
      have hfinal : confirmation.status.isFinal = false := by simpa using hopen
      split at h
      · rename_i herror
        split at h
        · cases h
        · rename_i hpending
          cases h
          exact ⟨hfinal, hread.2, hread.1, rfl, rfl, rfl, rfl,
            .inl ⟨rfl, not_not.mp hpending, herror⟩⟩
      · rename_i herror
        rw [not_not] at herror
        split at h
        · rename_i hhidden
          split at h
          · cases h
          · cases h
            exact ⟨hfinal, hread.2, hread.1, rfl, rfl, rfl, rfl,
              .inr ⟨herror, .inl ⟨rfl, hhidden⟩⟩⟩
        · rename_i hhidden
          split at h
          · cases h
          · rename_i actual hactual
            obtain ⟨-, h⟩ := Option.ite_none_left_eq_some.mp h
            cases h
            exact ⟨hfinal, hread.2, hread.1, rfl, rfl, rfl, rfl,
              .inr ⟨herror, .inr ⟨hhidden, actual, hactual, rfl⟩⟩⟩

/-- The outcome after `confirmOne`: the judged one, or the old one, with the issue counted. -/
theorem confirmOne_fst (wall : WallTime) (state : RoomState) (writeKey : WriteKey)
    (confirmation : WriteConfirmation) : ∃ counted,
    (WriteConfirmations.confirmOne wall state writeKey confirmation).1 =
      { (checkedConfirmation state writeKey confirmation).getD confirmation with
        issueCounted := counted } := by
  unfold WriteConfirmations.confirmOne
  split
  · rename_i checked hchecked
    split
    · exact ⟨true, by simp [hchecked]⟩
    · exact ⟨checked.issueCounted, by simp [hchecked]⟩
  · rename_i hchecked
    split
    · exact ⟨true, by simp [hchecked]⟩
    · exact ⟨confirmation.issueCounted, by simp [hchecked]⟩

/-- A round of `confirm` keeps what was asked for and the baseline. -/
theorem confirmOne_expectedValue :
    (WriteConfirmations.confirmOne wall state writeKey confirmation).1.expectedValue =
        confirmation.expectedValue ∧
      (WriteConfirmations.confirmOne wall state writeKey confirmation).1.baseline =
        confirmation.baseline := by
  obtain ⟨counted, hcounted⟩ :=
    confirmOne_fst wall state writeKey confirmation
  rw [hcounted]
  rcases hchecked : checkedConfirmation state writeKey confirmation with _ | checked
  · exact ⟨rfl, rfl⟩
  · have hcases := checkedConfirmation_cases hchecked
    exact ⟨hcases.2.2.2.1, hcases.2.2.2.2.1⟩

theorem confirmOne_status :
    (WriteConfirmations.confirmOne wall state writeKey confirmation).1.status =
      ((checkedConfirmation state writeKey confirmation).getD confirmation).status := by
  obtain ⟨counted, hcounted⟩ :=
    confirmOne_fst wall state writeKey confirmation
  rw [hcounted]

/-- **A readback reopens nothing**: an outcome that is open after it was open before. -/
theorem isFinal_of_confirmOne
    (h : (WriteConfirmations.confirmOne wall state writeKey confirmation).1.status.isFinal =
      false) : confirmation.status.isFinal = false := by
  by_contra hfinal
  rw [confirmOne_status, checkedConfirmation_of_isFinal (by simpa using hfinal)] at h
  exact hfinal h

/-- Whether a state confirms a write of `expected` whose group had the health `baseline` when
it was sent. -/
structure Confirms (state : RoomState) (writeKey : WriteKey) (baseline : ReadHealth)
    (expected : WriteValue) : Prop where
  tried : (state.groupReadHealth (writeGroup writeKey)).lastAttempt ≠ none
  newer : state.groupReadHealth (writeGroup writeKey) ≠ baseline
  noError : (state.groupReadHealth (writeGroup writeKey)).lastError = none
  visible : ¬ (writeKey.hiddenByIntensive = true ∧ state.intensiveActive = some true)
  value : ∃ actual, readbackValue state writeKey = some actual ∧
    valuesMatch writeKey expected actual = true

/-- **An open write is finished by a readback exactly if the readback confirms it.** -/
theorem isFinal_confirmOne_iff (hopen : confirmation.status.isFinal = false) :
    (WriteConfirmations.confirmOne wall state writeKey confirmation).1.status.isFinal = true ↔
      Confirms state writeKey confirmation.baseline confirmation.expectedValue := by
  rw [confirmOne_status]
  constructor
  · intro hfinal
    rcases hchecked : checkedConfirmation state writeKey confirmation with _ | checked
    · rw [hchecked, Option.getD_none, hopen] at hfinal
      cases hfinal
    · rw [hchecked, Option.getD_some] at hfinal
      obtain ⟨-, hnewer, htried, -, -, -, -, ⟨hstatus, -⟩ | ⟨herror, ⟨hstatus, -⟩ |
        ⟨hvisible, actual, hactual, hstatus⟩⟩⟩ := checkedConfirmation_cases hchecked
      · rw [hstatus] at hfinal
        cases hfinal
      · rw [hstatus] at hfinal
        cases hfinal
      · refine ⟨htried, hnewer, herror, hvisible, actual, hactual, ?_⟩
        by_contra hno
        rw [hstatus, if_neg hno] at hfinal
        cases hfinal
  · rintro ⟨htried, hnewer, herror, hvisible, actual, hactual, hmatch⟩
    have hne : confirmation.status ≠ .confirmed := by
      intro h
      rw [h] at hopen
      cases hopen
    have hchecked : checkedConfirmation state writeKey confirmation = some { confirmation with
        status := .confirmed, actualValue := some actual, lastError := none } := by
      simp [checkedConfirmation, hopen, htried, hnewer, herror, hvisible, hactual, hmatch, hne]
    rw [hchecked]
    rfl

/-! ### What a pass leaves to the next -/

/-- Unchanged health means no read happened since the write. -/
theorem checkedConfirmation_of_baseline
    (h : state.groupReadHealth (writeGroup writeKey) = confirmation.baseline) :
    checkedConfirmation state writeKey confirmation = none := by
  by_contra hne
  obtain ⟨checked, hchecked⟩ := Option.ne_none_iff_exists'.mp hne
  exact (checkedConfirmation_cases hchecked).2.1 h

/-- **When a readback changes nothing**: the outcome is final, the group was not read since
the write, an error finds it no longer pending, or it is what the state says already. -/
theorem checkedConfirmation_eq_none : checkedConfirmation state writeKey confirmation = none ↔
    confirmation.status.isFinal = true ∨
      (state.groupReadHealth (writeGroup writeKey)).lastAttempt = none ∨
      state.groupReadHealth (writeGroup writeKey) = confirmation.baseline ∨
      ((state.groupReadHealth (writeGroup writeKey)).lastError ≠ none ∧
        confirmation.status ≠ .pending) ∨
      ((state.groupReadHealth (writeGroup writeKey)).lastError = none ∧
        if writeKey.hiddenByIntensive = true ∧ state.intensiveActive = some true then
          confirmation.status = .unverifiable
        else
          ∀ actual ∈ readbackValue state writeKey, confirmation.actualValue = some actual ∧
            confirmation.status =
              if valuesMatch writeKey confirmation.expectedValue actual then .confirmed
              else .mismatch) := by
  unfold checkedConfirmation
  dsimp only
  split
  · rename_i hfinal
    simp [hfinal]
  · rename_i hopen
    split
    · rename_i hunread
      rcases hunread with hunread | hunread <;> simp [hunread]
    · rename_i hread
      push Not at hread
      by_cases herror : (state.groupReadHealth (writeGroup writeKey)).lastError = none
      · rw [if_neg (not_not.mpr herror)]
        simp only [hopen, hread.1, hread.2, herror, ne_eq, not_true_eq_false, false_and,
          true_and, false_or, Bool.false_eq_true]
        split
        · split <;> simp_all
        · rcases readbackValue state writeKey with _ | actual
          · simp
          · simp only [Option.mem_def, Option.some.injEq, forall_eq']
            constructor
            · intro h
              have hboth := by_contra fun hnot => Option.some_ne_none _ ((if_neg hnot).symm.trans h)
              exact ⟨hboth.2, hboth.1⟩
            · exact fun h => if_pos ⟨h.2, h.1⟩
      · rw [if_pos herror]
        simp only [hopen, hread.1, hread.2, herror, ne_eq, not_false_eq_true, true_and, false_and,
          or_false, false_or]
        split <;> simp_all

/-- **A readback judges once**: the outcome it gives is not changed by judging it again. -/
theorem checkedConfirmation_confirmOne :
    checkedConfirmation state writeKey
      (WriteConfirmations.confirmOne wall state writeKey confirmation).1 = none := by
  obtain ⟨counted, hcounted⟩ := confirmOne_fst wall state writeKey confirmation
  rw [hcounted]
  rcases hchecked : checkedConfirmation state writeKey confirmation with _ | checked
  · -- An unchecked confirmation stays unchecked; only its issue mark may change.
    have hnone := checkedConfirmation_eq_none.mp hchecked
    exact checkedConfirmation_eq_none.mpr hnone
  · refine checkedConfirmation_eq_none.mpr (.inr (.inr (.inr ?_)))
    unfold checkedConfirmation at hchecked
    dsimp only [Option.getD_some] at hchecked ⊢
    obtain ⟨-, hchecked⟩ := Option.ite_none_left_eq_some.mp hchecked
    obtain ⟨-, hchecked⟩ := Option.ite_none_left_eq_some.mp hchecked
    split at hchecked
    · rename_i herror
      obtain ⟨-, hchecked⟩ := Option.ite_none_left_eq_some.mp hchecked
      cases hchecked
      exact .inl ⟨herror, by simp⟩
    · rename_i herror
      refine .inr ⟨not_not.mp herror, ?_⟩
      split at hchecked
      · rename_i hhidden
        obtain ⟨-, hchecked⟩ := Option.ite_none_left_eq_some.mp hchecked
        cases hchecked
        rw [if_pos hhidden]
      · rename_i hvisible
        rw [if_neg hvisible]
        split at hchecked
        · cases hchecked
        · rename_i actual hactual
          obtain ⟨-, hchecked⟩ := Option.ite_none_left_eq_some.mp hchecked
          cases hchecked
          intro found hfound
          obtain rfl : actual = found := by simpa [hactual] using hfound
          exact ⟨rfl, rfl⟩

/-- A write that a readback has left pending may turn unconfirmed; that is not judged again
by the same readback. -/
theorem checkedConfirmation_markUnconfirmed {confirmations : WriteConfirmations}
    {error : String}
    (h : ∀ confirmation ∈ confirmations.byKey writeKey,
      checkedConfirmation state writeKey confirmation = none)
    (hmem : confirmation ∈ (confirmations.markUnconfirmed key error).byKey writeKey) :
    checkedConfirmation state writeKey confirmation = none := by
  by_cases hkey : writeKey = key
  · subst hkey
    rw [WriteConfirmations.markUnconfirmed_self] at hmem
    obtain ⟨before, hbefore, rfl⟩ := Option.map_eq_some_iff.mp hmem
    have hnone := h before hbefore
    split
    · rename_i hpending
      rw [checkedConfirmation_eq_none] at hnone ⊢
      -- Of the reasons not to judge, only those that do not look at the status can hold.
      rcases hnone with hfinal | htried | hbaseline | ⟨-, hmoved⟩ | ⟨herror, hvalue⟩
      · rw [hpending] at hfinal
        cases hfinal
      · exact .inr (.inl htried)
      · exact .inr (.inr (.inl hbaseline))
      · exact absurd hpending hmoved
      · refine .inr (.inr (.inr (.inr ⟨herror, ?_⟩)))
        split at hvalue
        · rw [hpending] at hvalue
          cases hvalue
        · rename_i hvisible
          rw [if_neg hvisible]
          intro actual hactual
          have hstatus := (hvalue actual hactual).2
          rw [hpending] at hstatus
          split at hstatus <;> cases hstatus
    · exact hnone
  · rw [WriteConfirmations.markUnconfirmed_of_ne hkey] at hmem
    exact h confirmation hmem

/-- A superseded write is not judged again. -/
theorem checkedConfirmation_supersede {confirmations : WriteConfirmations}
    (h : ∀ confirmation ∈ confirmations.byKey writeKey,
      checkedConfirmation state writeKey confirmation = none)
    (hmem : confirmation ∈ (confirmations.supersede key).byKey writeKey) :
    checkedConfirmation state writeKey confirmation = none := by
  simp only [WriteConfirmations.supersede] at hmem
  split at hmem
  · obtain ⟨before, -, rfl⟩ := Option.map_eq_some_iff.mp hmem
    exact checkedConfirmation_of_isFinal rfl
  · exact h confirmation hmem

/-- A write that was just recorded is not judged by the health it was recorded with. -/
theorem checkedConfirmation_recordPending {confirmations : WriteConfirmations}
    (h : ∀ confirmation ∈ confirmations.byKey writeKey,
      checkedConfirmation state writeKey confirmation = none)
    (hmem : confirmation ∈ (confirmations.recordPending wall key expectedValue
      (state.groupReadHealth (writeGroup key))).byKey writeKey) :
    checkedConfirmation state writeKey confirmation = none := by
  by_cases hkey : writeKey = key
  · subst hkey
    rw [WriteConfirmations.recordPending_self] at hmem
    cases hmem
    exact checkedConfirmation_of_baseline rfl
  · rw [WriteConfirmations.recordPending_of_ne hkey] at hmem
    exact h confirmation hmem

end Operations

end MeltemVentilation
