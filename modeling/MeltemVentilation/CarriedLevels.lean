import MeltemVentilation.ReadRecord

/-!
# Levels from before a write

Pending levels are compared with the pair that the unit reports, after a read of the airflow or
of the status map. Which of the two the pair comes from depends on the mode, and a read need not
bring it: the status map may report intensive or not be read at all while the last one is fresh,
the exact target may be carried, and the airflow may not be read. What a step leaves reported in
each of these cases is computed here from the state before it and from its reply
(`carriedLevels`), as far as it is older than the last airflow write.

| the reply | the levels it leaves | in Lean |
|---|---|---|
| keeps the mode and the targets | those of the state before | `PlanReply.keepsLevels` |
| gives a balanced map | the exact target, if it is carried | `RoomCoordinator.keepsExactTarget` |
| leaves a level to the airflow | the airflow of the state before | `PlanReply.airflowLevels` |

The result is that nothing else is left (`carriedLevels_of_reached`): reported levels that reach
some value and come in part from before the write are among these.
-/

namespace MeltemVentilation

open RoomCoordinator Transition
open ReadHealth (Unread)

/-! ### What the levels are decoded from -/

/-- The parts of a state that its levels are decoded from while the status map is fresh. -/
def levelParts (airflowIsFresh : Bool) (state : RoomState) : List StatePart :=
  match state.operationMode with
  | none => [.airflow]
  | some .off => [.baseMode]
  | some .unbalanced =>
    (if state.targetLevel.isSome || state.extractTargetLevel.isSome then [.targets] else []) ++
      (if state.targetLevel.isSome && state.extractTargetLevel.isSome then [] else [.airflow])
  | some .humidityControl | some .co2Control | some .automatic => [.airflow]
  | _ =>
    let presetActive := (state.presetMode.bind presetModeToRawCode).isSome
    if state.balancedTargetReadback.isSome then [.exactTarget]
    else if state.targetLevel.isSome && !(presetActive && !airflowIsFresh) then [.targets]
    else [.airflow]

/-- The parts of the state that the reported levels are decoded from. -/
def reportedParts (clock : Clock) (state : RoomState) : List StatePart :=
  if groupFresh clock state .flowControl then levelParts (groupFresh clock state .flow) state
  else [.airflow]

/-- The measured airflow, as far as it is fresh. -/
def measuredPair (airflowIsFresh : Bool) (state : RoomState) : LevelPair :=
  if airflowIsFresh then (state.supplyAirFlow, state.extractAirFlow) else (none, none)

/-- The pair that a state reports while the status map is fresh. -/
def mapPair (airflowIsFresh : Bool) (state : RoomState) : LevelPair :=
  if state.operationMode = none then measuredPair airflowIsFresh state
  else targetLevels state airflowIsFresh

/-! ### What a reply leaves of the levels before it -/

/-- Whether the read of a block failed. -/
def BlockRead.isFailed {α : Type} : BlockRead α → Bool
  | .failed _ _ => true
  | .values _ | .skipped => false

/-- One balanced level that is derived from the airflow, or else the airflow itself. -/
def derivedPair (airflowIsFresh : Bool) (state : RoomState) : LevelPair :=
  match deriveBalancedAirflow state.extractAirFlow state.supplyAirFlow with
  | some level => (some level, some level)
  | none => measuredPair airflowIsFresh state

/-- The levels that a mode takes from the airflow of a state where the status map has given
`targets`: those of a sensor mode or of an unknown one, a balanced one without its target, and a
direction of an unbalanced one without its own. -/
def unreadLevels (airflowIsFresh presetActive : Bool) (state : RoomState) (targets : LevelPair) :
    Option OperationMode → LevelPair
  | some .off => (none, none)
  | some .unbalanced =>
    if targets.1.isSome && targets.2.isSome then (none, none)
    else
      (targets.1.or (measuredPair airflowIsFresh state).1,
        targets.2.or (measuredPair airflowIsFresh state).2)
  | some .manual =>
    if targets.1.isSome || (presetActive && !airflowIsFresh) then (none, none)
    else derivedPair airflowIsFresh state
  | some .inactive =>
    if presetActive && !airflowIsFresh then (none, none) else derivedPair airflowIsFresh state
  | none | some .humidityControl | some .co2Control | some .automatic =>
    measuredPair airflowIsFresh state

namespace PlanReply

/-- Whether the read of a group of the airflow plan failed. -/
def fails : PlanReply → ReadGroup → Bool
  | .airflow (.blocks flow _) _, .flow => flow.isFailed
  | .airflow (.blocks _ mode) _, .flowControl => mode.isFailed
  | _, _ => false

/-- Whether a group is fresh when a reply has come. -/
def leavesFresh (clock : Clock) (previous : RoomState) (reply : PlanReply)
    (group : ReadGroup) : Bool :=
  reply.reads group || (!reply.fails group && groupFresh clock previous group)

/-- The status map that a reply brings. -/
def status : PlanReply → Option ModeRead
  | .airflow (.blocks _ mode) _ => mode.read?.map decodeSensorSubcode
  | _ => none

/-- The state before a read, with the airflow that the reply brings. -/
def withAirflow (previous : RoomState) : PlanReply → RoomState
  | .airflow (.blocks flow _) _ => applyFlowRead previous flow.read?
  | _ => previous

/-- Whether a reply leaves the mode and the targets of the state before: its status map reports
intensive, or it brings none for a unit that is off or unbalanced, or it reads neither block. -/
def keepsLevels (previous : RoomState) : PlanReply → Bool
  | .airflow (.blocks _ mode) _ =>
    match mode.read?.map decodeSensorSubcode with
    | some block => modeStatusReportsIntensive block
    | none => previous.operationMode = some .off || previous.operationMode = some .unbalanced
  | _ => true

/-- The levels that a reply leaves to an airflow that it does not read. -/
def airflowLevels (room : RoomConfig) (previous : RoomState) (airflowIsFresh : Bool)
    (reply : PlanReply) : LevelPair :=
  unreadLevels airflowIsFresh
    ((decodePresetMode reply.status previous.presetMode).bind presetModeToRawCode).isSome previous
    (decodeTargetLevel room (reply.status.map (·.currentLevel)),
      decodeTargetLevel room (reply.status.map (·.extractTargetLevel)))
    (reply.status.elim previous.operationMode
      fun block => decodeOperationMode block.mode block.currentLevel)

end PlanReply

/-- **The levels from before the last airflow write that a step leaves reported**: those of the
mode and the targets that its reply keeps, a `41121` value that it carries, and those that it
leaves to an airflow that it does not read. There are none where the status map is not fresh. -/
def carriedLevels (x : RoomCoordinator × ReadRecord) (label : Label) : List LevelPair :=
  match x.1.readInput label with
  | none => []
  | some (previous, _, reply, replied) =>
    let old := fun part => !recordReads x.1 label x.2 .airflowLevels part
    let airflowIsFresh := reply.leavesFresh replied previous .flow
    let kept := reply.withAirflow previous
    if reply.leavesFresh replied previous .flowControl = false then []
    else if reply.keepsLevels previous then
      if (levelParts airflowIsFresh kept).any old then [mapPair airflowIsFresh kept] else []
    else
      (if x.1.keepsExactTarget label && old .exactTarget then
        previous.balancedTargetReadback.toList.map fun level => (some level, some level)
      else []) ++
      (if old .airflow && (x.1.exactTargetRead label).isNone then
        [reply.airflowLevels x.1.room previous airflowIsFresh]
      else [])

/-- Whether a step lets a pass compare pending levels: it reads the airflow or the status map, or
one of them was read since they became pending. -/
def levelsDue (s : RoomCoordinator) (label : Label) (pending : PendingValue (ℤ × ℤ)) : Bool :=
  (s.readInput label).any fun (previous, _, reply, replied) =>
    reply.reads .flow || reply.reads .flowControl ||
      OverlayKind.readSinceSet replied (some previous) (some pending)

/-- Levels from before the last airflow write have nothing to settle: pending levels that are due
are other ones. -/
def CarriedLevelsIdle (x : RoomCoordinator × ReadRecord) (label : Label) : Prop :=
  ∀ pending ∈ x.1.optimisticLevels, levelsDue x.1 label pending = true →
    ∀ levels ∈ carriedLevels x label, levelsReached levels pending.value = false

instance (x : RoomCoordinator × ReadRecord) : DecidablePred (CarriedLevelsIdle x) :=
  fun _ => inferInstanceAs (Decidable (∀ _ ∈ _, _ → ∀ _ ∈ _, _))

/-! ### Levels that are reached -/

section Reached

variable {s : RoomCoordinator} {label : Label} {record : ReadRecord} {room : RoomConfig}
  {clock finished replied : Clock} {previous state kept : RoomState} {reply : PlanReply}
  {polled : Bool} {part : StatePart} {group : ReadGroup} {value : ℤ × ℤ} {airflowIsFresh : Bool}

theorem reportedPair_of_fresh (h : groupFresh clock state .flowControl = true) :
    reportedPair clock state = mapPair (groupFresh clock state .flow) state := by
  unfold reportedPair mapPair measuredPair
  by_cases hmode : state.operationMode = none <;> simp [h, hmode]

/-- Levels that a state reports without the measured airflow it reports with it, from the same
parts. -/
theorem mapPair_of_reached (h : levelsReached (mapPair false state) value = true) :
    mapPair true state = mapPair false state ∧ levelParts true state = levelParts false state := by
  obtain ⟨supply, extract, hpair⟩ := complete_of_levelsReached h
  unfold mapPair at hpair ⊢
  split at hpair
  · cases hpair
  · rename_i hmode
    rw [if_neg hmode, if_neg hmode, hpair, targetLevels_of_complete hpair]
    refine ⟨rfl, ?_⟩
    -- Of a quick mode nothing is reported without the airflow.
    have hpreset : state.balancedTargetReadback.isSome = false →
        state.operationMode = some .manual ∨ state.operationMode = some .inactive →
        (state.presetMode.bind presetModeToRawCode).isSome = false := by
      intro hreadback hbalanced
      by_contra hpreset
      rw [Bool.not_eq_false] at hpreset
      rw [Option.isSome_eq_false_iff, Option.isNone_iff_eq_none] at hreadback
      rcases hbalanced with hbalanced | hbalanced <;>
        simp [targetLevels, hbalanced, hreadback, hpreset] at hpair
    unfold levelParts
    rcases hsome : state.operationMode with _ | mode
    · exact absurd hsome hmode
    · rcases hreadback : state.balancedTargetReadback.isSome with _ | _
      · cases mode <;> simp [hpreset hreadback, hsome]
      · cases mode <;> simp

/-- The values of two states that their levels are decoded from are the same. -/
structure SameLevels (state kept : RoomState) : Prop where
  operationMode : state.operationMode = kept.operationMode
  presetMode : state.presetMode = kept.presetMode
  targets : state.operationMode ≠ some .off →
    state.targetLevel = kept.targetLevel ∧ state.extractTargetLevel = kept.extractTargetLevel
  readback : state.operationMode ≠ some .off → state.operationMode ≠ some .unbalanced →
    state.balancedTargetReadback = kept.balancedTargetReadback
  supplyAirFlow : state.supplyAirFlow = kept.supplyAirFlow
  extractAirFlow : state.extractAirFlow = kept.extractAirFlow

/-- Such states report the same pair, from the same parts. -/
theorem SameLevels.mapPair_eq (h : SameLevels state kept) (airflowIsFresh : Bool) :
    mapPair airflowIsFresh state = mapPair airflowIsFresh kept ∧
      levelParts airflowIsFresh state = levelParts airflowIsFresh kept := by
  unfold mapPair targetLevels levelParts measuredPair
  rw [← h.operationMode, ← h.presetMode, ← h.supplyAirFlow, ← h.extractAirFlow]
  rcases hmode : state.operationMode with _ | mode
  · exact ⟨rfl, rfl⟩
  · have htargets := h.targets
    have hreadback := h.readback
    rw [hmode] at htargets hreadback
    cases mode <;> simp_all

end Reached

/-! ### Reads that leave reached levels -/

section Reads

variable {s : RoomCoordinator} {label : Label} {record : ReadRecord} {room : RoomConfig}
  {clock finished replied : Clock} {previous state kept : RoomState} {reply : PlanReply}
  {polled : Bool} {part : StatePart} {group : ReadGroup} {value : ℤ × ℤ} {airflowIsFresh : Bool}

/-- A group whose read failed is not fresh. -/
theorem PlanReply.not_fails
    (h : groupFresh finished (reply.state room replied previous) group = true) :
    reply.fails group = false := by
  have herror := lastError_of_groupFresh h
  rcases reply with ⟨_ | error | ⟨flow, mode⟩, target⟩ | read
  · cases group <;> rfl
  · cases group <;> rfl
  · cases group <;> try rfl
    · cases flow with
      | failed error timedOut => cases herror
      | _ => rfl
    · cases mode with
      | failed error timedOut => cases herror
      | _ => rfl
  · cases group <;> rfl

/-- **A group that is fresh after a read** was read, or was fresh when the reply came. -/
theorem PlanReply.leavesFresh_of_groupFresh (hstamped : (previous.groupReadHealth group).Stamped)
    (hle : replied.monotonic ≤ finished.monotonic)
    (h : groupFresh finished (reply.state room replied previous) group = true) :
    reply.leavesFresh replied previous group = true := by
  rw [leavesFresh, Bool.or_eq_true, Bool.and_eq_true, PlanReply.not_fails h]
  by_cases hread : reply.reads group = true
  · exact .inl hread
  · rw [Bool.not_eq_true] at hread
    have hsame := eq_of_unread (PlanReply.unread hread) h
    refine .inr ⟨rfl, groupFresh_earlier hstamped hle ?_⟩
    simpa only [groupFresh, hsame] using h

/-- The health of the groups of the airflow plan is stamped in any state that a read starts
from. -/
theorem RoomCoordinator.Settled.stamped_previous (h : s.Settled) (hknown : s.ReadsKnown)
    (hprevious : s.Previous previous) (hgroup : group ∈ airflowReadGroups) :
    (previous.groupReadHealth group).Stamped := by
  rcases UnitSystem.data_or_not_hasData hprevious h.startup with hdata | hnone
  · exact h.stamped_data hdata group
  · have hempty := RoomState.noValues hnone
    have hunknown : previous.known group = false := by
      simp only [airflowReadGroups, List.mem_cons, List.not_mem_nil, or_false] at hgroup
      rcases hgroup with rfl | rfl | rfl
      · simp [RoomState.known, hempty.supplyAirFlow]
      · simp [RoomState.known, hempty.intensiveActive]
      · simp [RoomState.known, hempty.intensiveActive]
    rcases hknown previous hprevious group hunknown with hsame | hsame | herror
    · exact hsame ▸ ReadHealth.stamped_empty
    · exact hsame ▸ ReadHealth.stamped_empty
    · exact .inr (.inl herror)

/-- **Pending levels that a pass may compare are due.** -/
theorem levelsDue_of_readSinceSet (hstate : s.readState label = some (state, finished))
    (hsettled : s.Settled) (hknown : s.ReadsKnown)
    (hle : ∀ reply replied, label.reply = some (reply, replied) →
      replied.monotonic ≤ finished.monotonic)
    {pending : PendingValue (ℤ × ℤ)}
    (hgroups : ∀ baseline ∈ pending.baseline, baseline.1 ∈ levelsOverlay.readGroups)
    (hread : OverlayKind.readSinceSet finished (some state) (some pending) = true) :
    levelsDue s label pending = true := by
  obtain ⟨previous, polled, reply, replied, hinput, hreply, hprevious, -, hresult⟩ :=
    readState_eq_some hstate
  obtain ⟨-, readback, hframe⟩ := (s.atClock replied).applyReply_frame previous polled reply
  obtain ⟨⟨group, health⟩, hmem, hsince⟩ := List.any_eq_true.mp hread
  have hgroup := hgroups _ hmem
  simp only [levelsDue, hinput, Option.any_some, Bool.or_eq_true]
  by_cases hreads : reply.reads group = true
  · refine .inl ?_
    simp only [levelsOverlay, List.mem_cons, List.not_mem_nil, or_false] at hgroup
    rcases hgroup with rfl | rfl
    · exact .inl hreads
    · exact .inr hreads
  · -- The group is as it was before the read, and was read since the levels were set.
    rw [Bool.not_eq_true] at hreads
    rw [hresult, hframe] at hsince
    have hsame := eq_of_unread (PlanReply.unread hreads) (groupFresh_of_readSince hsince)
    have hstamped : (previous.groupReadHealth group).Stamped := by
      refine hsettled.stamped_previous hknown hprevious ?_
      simp only [levelsOverlay, List.mem_cons, List.not_mem_nil, or_false] at hgroup
      rcases hgroup with rfl | rfl <;> simp [airflowReadGroups]
    refine .inr (List.any_eq_true.mpr ⟨⟨group, health⟩, hmem,
      readSince_earlier hstamped (hle _ _ hreply) ?_⟩)
    simpa only [readSince, groupFresh, hsame] using hsince

/-- **Where a read takes the exact target from**: register `41121`, the state that the reply
gives, or the state before it. -/
theorem applyReply_exact (hinput : s.readInput label = some (previous, polled, reply, replied)) :
    (((reply.state s.room replied previous).operationMode = some .manual ∨
          (reply.state s.room replied previous).operationMode = some .off) ∧
        (((s.exactTargetRead label).isSome = true ∧
            ((s.atClock replied).applyReply previous polled reply).2.balancedTargetReadback =
              s.exactTargetRead label) ∨
          (s.exactTargetRead label = none ∧ s.keepsExactTarget label = true ∧
            ((s.atClock replied).applyReply previous polled reply).2.balancedTargetReadback =
              previous.balancedTargetReadback))) ∨
      (s.exactTargetRead label = none ∧
        ((s.atClock replied).applyReply previous polled reply).2.balancedTargetReadback =
          (reply.state s.room replied previous).balancedTargetReadback) := by
  unfold RoomCoordinator.exactTargetRead RoomCoordinator.keepsExactTarget
  simp only [hinput]
  rcases reply with ⟨read, target⟩ | read
  · simp only [RoomCoordinator.applyReply, PlanReply.state, RoomCoordinator.atClock]
    set next := read.apply s.room replied previous with hnext
    rcases hmay : read.mayConfirm polled with _ | _
    · exact .inr ⟨by simp, by simp⟩
    · simp only [if_true, Bool.true_and, RoomCoordinator.readBalancedTarget]
      by_cases hgate : groupFresh replied next .flowControl = false ∨
          next.intensiveActive = some true ∨
          (next.operationMode ≠ some .manual ∧ next.operationMode ≠ some .off)
      · have hprepared : s.confirmations.prepareBalancedTargetReadback replied next previous =
            ⟨s.confirmations, next, false⟩ := by
          rw [WriteConfirmations.prepareBalancedTargetReadback, if_pos hgate]
        exact .inr ⟨by simp [hprepared], by simp [hprepared]⟩
      · have hbalanced : next.operationMode = some .manual ∨ next.operationMode = some .off := by
          by_contra hnot
          exact hgate (.inr (.inr (not_or.mp hnot)))
        by_cases hneeds : s.confirmations.needsConfirmation replied.wall .airflowLevels = true
        · have hprepared : s.confirmations.prepareBalancedTargetReadback replied next previous =
              ⟨s.confirmations, next, true⟩ := by
            rw [WriteConfirmations.prepareBalancedTargetReadback, if_neg hgate, if_pos hneeds]
          rcases target.airflow s.room with _ | level
          · exact .inr ⟨by simp [hprepared], by simp [hprepared]⟩
          · exact .inl ⟨hbalanced, .inl ⟨by simp [hprepared], by simp [hprepared]⟩⟩
        · -- Register `41121` is not read: the state before may pass its value on.
          unfold WriteConfirmations.prepareBalancedTargetReadback
          rw [if_neg hgate, if_neg hneeds]
          rcases hreadback : previous.balancedTargetReadback with _ | readback
          · exact .inr ⟨by simp, by simp⟩
          · dsimp only
            split
            · rename_i hcarry
              obtain ⟨hmode, hpreset, hlevel, hkept⟩ := hcarry
              rw [Bool.not_or] at hkept
              refine .inl ⟨hbalanced, .inr ⟨by simp, ?_, by simp⟩⟩
              simp [WriteConfirmations.carriesExactTarget, hneeds, hreadback, hmode ▸ hbalanced,
                hmode, hpreset, hlevel, hkept]
            · exact .inr ⟨by simp, by simp⟩
  · exact .inr ⟨rfl, rfl⟩

theorem PlanReply.withAirflow_readback :
    (reply.withAirflow previous).balancedTargetReadback = previous.balancedTargetReadback := by
  rcases reply with ⟨_ | error | ⟨flow, mode⟩, target⟩ | read
  all_goals try rfl
  cases flow <;> rfl

/-- What a reply that keeps the levels gives has those of the state before. -/
theorem PlanReply.sameLevels (room : RoomConfig) (clock : Clock)
    (hkeeps : reply.keepsLevels previous = true) :
    SameLevels (reply.state room clock previous) (reply.withAirflow previous) := by
  rcases reply with ⟨_ | error | ⟨flow, mode⟩, target⟩ | read
  · exact ⟨rfl, rfl, fun _ => ⟨rfl, rfl⟩, fun _ _ => rfl, rfl, rfl⟩
  · exact ⟨rfl, rfl, fun _ => ⟨rfl, rfl⟩, fun _ _ => rfl, rfl, rfl⟩
  · have hmode : (applyFlowRead previous flow.read?).operationMode = previous.operationMode := by
      cases flow <;> rfl
    simp only [keepsLevels] at hkeeps
    simp only [PlanReply.state, AirflowRead.apply, withAirflow, applyModeRead]
    rcases hblock : mode.read?.map decodeSensorSubcode with _ | block
    · -- Without a map the targets of an unbalanced unit stay, and one that is off has none.
      simp only [hblock, Bool.or_eq_true, decide_eq_true_eq] at hkeeps
      rw [if_neg (by simp)]
      refine ⟨rfl, rfl, fun hoff => ?_, fun hoff hunbalanced => ?_, rfl, rfl⟩
      · have hunbalanced := hkeeps.resolve_left fun h => hoff (hmode.trans h)
        simp [decodeTargets, hmode, hunbalanced]
      · rcases hkeeps with h | h
        · exact absurd (hmode.trans h) hoff
        · exact absurd (hmode.trans h) hunbalanced
    · simp only [hblock] at hkeeps
      rw [if_pos (by simpa using hkeeps)]
      exact ⟨rfl, rfl, fun _ => ⟨rfl, rfl⟩, fun _ _ => rfl, rfl, rfl⟩
  · simp only [PlanReply.state, withAirflow]
    rcases read with _ | error | settings
    · exact ⟨rfl, rfl, fun _ => ⟨rfl, rfl⟩, fun _ _ => rfl, rfl, rfl⟩
    · exact ⟨rfl, rfl, fun _ => ⟨rfl, rfl⟩, fun _ _ => rfl, rfl, rfl⟩
    · simp only [SettingsRead.apply]
      split
      · cases settings <;> exact ⟨rfl, rfl, fun _ => ⟨rfl, rfl⟩, fun _ _ => rfl, rfl, rfl⟩
      · exact ⟨rfl, rfl, fun _ => ⟨rfl, rfl⟩, fun _ _ => rfl, rfl, rfl⟩

/-- **A read that keeps the levels** leaves those of the state before, unless it reads the exact
target of a unit that runs balanced. -/
theorem sameLevels_of_keepsLevels (hkeeps : reply.keepsLevels previous = true)
    (hinput : s.readInput label = some (previous, polled, reply, replied))
    (hstate : state = ((s.atClock replied).applyReply previous polled reply).2) :
    SameLevels state (reply.withAirflow previous) ∨
      (state.operationMode = some .manual ∧ (s.exactTargetRead label).isSome = true ∧
        state.balancedTargetReadback = s.exactTargetRead label) := by
  obtain ⟨-, readback, hframe⟩ := (s.atClock replied).applyReply_frame previous polled reply
  have hexact := applyReply_exact hinput
  have hsame := PlanReply.sameLevels s.room replied hkeeps
  rw [← hstate] at hframe hexact
  change state = { reply.state s.room replied previous with
    balancedTargetReadback := readback } at hframe
  have hmode : state.operationMode = (reply.state s.room replied previous).operationMode := by
    rw [hframe]
  have hrest : (state.operationMode ≠ some .off → state.operationMode ≠ some .unbalanced →
      state.balancedTargetReadback = (reply.withAirflow previous).balancedTargetReadback) →
      SameLevels state (reply.withAirflow previous) := by
    intro hreadback
    rw [hframe] at hreadback ⊢
    exact ⟨hsame.operationMode, hsame.presetMode, hsame.targets, hreadback,
      hsame.supplyAirFlow, hsame.extractAirFlow⟩
  rcases hexact with ⟨hmanual | hoff, hread | ⟨-, -, hcarried⟩⟩ | ⟨-, hgiven⟩
  · exact .inr ⟨hmode.trans hmanual, hread⟩
  · exact .inl (hrest fun _ _ => hcarried.trans PlanReply.withAirflow_readback.symm)
  · exact .inl (hrest fun hnot => absurd (hmode.trans hoff) hnot)
  · exact .inl (hrest fun hnot => absurd (hmode.trans hoff) hnot)
  · refine .inl (hrest fun hoff hunbalanced => ?_)
    rw [hmode] at hoff hunbalanced
    exact hgiven.trans (hsame.readback hoff hunbalanced)

/-- **Levels that a mode takes from the airflow**, as `targetLevels` decodes them. -/
theorem mapPair_eq_unreadLevels {targets : LevelPair} {operationMode : Option OperationMode}
    (hmode : state.operationMode = operationMode) (hreadback : state.balancedTargetReadback = none)
    (hsupply : state.supplyAirFlow = previous.supplyAirFlow)
    (hextract : state.extractAirFlow = previous.extractAirFlow)
    (hunbalanced : operationMode = some .unbalanced →
      (state.targetLevel, state.extractTargetLevel) = targets ∧
        (targets.1.isSome && targets.2.isSome) = false)
    (hderived : operationMode = some .manual ∨ operationMode = some .inactive →
      state.targetLevel = deriveBalancedAirflow previous.extractAirFlow previous.supplyAirFlow ∧
        (operationMode = some .manual → targets.1 = none))
    (hoff : operationMode ≠ some .off)
    (hreached : levelsReached (mapPair airflowIsFresh state) value = true) :
    mapPair airflowIsFresh state = unreadLevels airflowIsFresh
      (state.presetMode.bind presetModeToRawCode).isSome previous targets operationMode := by
  have hpair : mapPair airflowIsFresh state ≠ (none, none) := by
    obtain ⟨supply, extract, hpair⟩ := complete_of_levelsReached hreached
    simp [hpair]
  have hboth : deriveBalancedAirflow previous.extractAirFlow previous.supplyAirFlow = none →
      previous.supplyAirFlow.or previous.extractAirFlow = previous.supplyAirFlow ∧
        previous.extractAirFlow.or previous.supplyAirFlow = previous.extractAirFlow := by
    intro hnone
    cases hs : previous.supplyAirFlow <;> cases he : previous.extractAirFlow <;>
      simp_all [deriveBalancedAirflow]
  unfold mapPair targetLevels measuredPair at hpair ⊢
  rw [hmode, hreadback, hsupply, hextract] at hpair ⊢
  rcases operationMode with _ | mode
  · rfl
  · cases mode with
    | off => exact absurd rfl hoff
    | unbalanced =>
      obtain ⟨rfl, hmissing⟩ := hunbalanced rfl
      dsimp only at hmissing
      cases airflowIsFresh <;> simp [unreadLevels, measuredPair, hmissing]
    | humidityControl | co2Control | automatic =>
      cases airflowIsFresh <;> rfl
    | manual | inactive =>
      obtain ⟨htarget, hnone⟩ := hderived (by simp)
      rcases hderive : deriveBalancedAirflow previous.extractAirFlow previous.supplyAirFlow with
        _ | level
      · cases airflowIsFresh <;> simp_all [unreadLevels, derivedPair, measuredPair]
      · cases airflowIsFresh <;>
          cases (state.presetMode.bind presetModeToRawCode).isSome <;>
          simp_all [unreadLevels, derivedPair]

/-- The operating mode that a reply shows, or leaves without a status map. -/
theorem PlanReply.state_of_not_keepsLevels (room : RoomConfig) (clock : Clock)
    (hkeeps : reply.keepsLevels previous = false) :
    (reply.state room clock previous).operationMode = reply.status.elim previous.operationMode
        (fun block => decodeOperationMode block.mode block.currentLevel) ∧
      (reply.state room clock previous).presetMode =
        decodePresetMode reply.status previous.presetMode ∧
      ((reply.state room clock previous).targetLevel,
          (reply.state room clock previous).extractTargetLevel) =
        decodeTargets room (reply.withAirflow previous)
          (reply.state room clock previous).operationMode reply.status ∧
      (reply.state room clock previous).balancedTargetReadback = none ∧
      (reply.state room clock previous).supplyAirFlow =
        (reply.withAirflow previous).supplyAirFlow ∧
      (reply.state room clock previous).extractAirFlow =
        (reply.withAirflow previous).extractAirFlow := by
  rcases reply with ⟨_ | error | ⟨flow, mode⟩, target⟩ | read
  · cases hkeeps
  · cases hkeeps
  · have hsame : (applyFlowRead previous flow.read?).operationMode = previous.operationMode ∧
        (applyFlowRead previous flow.read?).presetMode = previous.presetMode := by
      cases flow <;> exact ⟨rfl, rfl⟩
    simp only [keepsLevels] at hkeeps
    simp only [PlanReply.state, AirflowRead.apply, applyModeRead, withAirflow, status]
    rcases hblock : mode.read?.map decodeSensorSubcode with _ | block
    · rw [if_neg (by simp)]
      exact ⟨hsame.1, hsame.2, rfl, rfl, rfl, rfl⟩
    · simp only [hblock] at hkeeps
      rw [if_neg (by simp [hkeeps])]
      exact ⟨rfl, rfl, rfl, rfl, rfl, rfl⟩
  · cases hkeeps

/-- A unit whose levels a reply does not keep is off, or has unbalanced targets, by the status
map of the reply alone. -/
theorem PlanReply.showsBaseMode_of_not_keepsLevels (room : RoomConfig) (clock : Clock)
    (hkeeps : reply.keepsLevels previous = false)
    (hmode : (reply.state room clock previous).operationMode = some .off ∨
      (reply.state room clock previous).operationMode = some .unbalanced) :
    reply.showsBaseMode = true := by
  obtain ⟨hsame, -⟩ := state_of_not_keepsLevels room clock hkeeps
  rcases reply with ⟨_ | error | ⟨flow, mode⟩, target⟩ | read
  · cases hkeeps
  · cases hkeeps
  · simp only [keepsLevels, status] at hkeeps hsame
    rcases hblock : mode.read? with _ | block
    · simp only [hblock, Option.map_none, Option.elim_none, Bool.or_eq_false_iff,
        decide_eq_false_iff_not] at hkeeps hsame
      rw [hsame] at hmode
      exact absurd hmode (not_or.mpr hkeeps)
    · simpa [showsBaseMode, hblock] using hkeeps
  · cases hkeeps

theorem PlanReply.exists_status_of_showsBaseMode (h : reply.showsBaseMode = true) :
    ∃ block, reply.status = some block := by
  rcases reply with ⟨_ | error | ⟨flow, mode⟩, target⟩ | read
  all_goals try cases h
  rcases hblock : mode.read? with _ | block
  · simp [showsBaseMode, hblock] at h
  · exact ⟨decodeSensorSubcode block, by simp [status, hblock]⟩

theorem PlanReply.targetsOrigin_ne_kept (hkeeps : reply.keepsLevels previous = false) :
    reply.targetsOrigin room previous ≠ .kept := by
  rcases reply with ⟨_ | error | ⟨flow, mode⟩, target⟩ | read
  · cases hkeeps
  · cases hkeeps
  · simp only [keepsLevels] at hkeeps
    simp only [targetsOrigin]
    rcases hblock : mode.read?.map decodeSensorSubcode with _ | block
    · simp only [hblock, Bool.or_eq_false_iff, decide_eq_false_iff_not] at hkeeps
      rw [if_neg (by simp)]
      rcases hmode : previous.operationMode with _ | mode
      · simp
      · cases mode <;> simp_all [decodeTargetLevel]
    · simp only [hblock] at hkeeps
      rw [if_neg (by simp [hkeeps])]
      dsimp only
      split
      · simp
      · split <;> simp
      · split <;> simp
      · simp
  · cases hkeeps

/-- The target of a balanced map is read where it is decoded. -/
theorem PlanReply.targetsOrigin_of_manual (hkeeps : reply.keepsLevels previous = false)
    (hmode : reply.status.elim previous.operationMode
      (fun block => decodeOperationMode block.mode block.currentLevel) = some .manual)
    (hlevel : (decodeTargetLevel room (reply.status.map (·.currentLevel))).isSome = true) :
    reply.targetsOrigin room previous = .read := by
  rcases reply with ⟨_ | error | ⟨flow, mode⟩, target⟩ | read
  · cases hkeeps
  · cases hkeeps
  · simp only [keepsLevels] at hkeeps
    simp only [status] at hmode hlevel
    simp only [targetsOrigin]
    rcases hblock : mode.read?.map decodeSensorSubcode with _ | block
    · simp [hblock, decodeTargetLevel] at hlevel
    · simp only [hblock, Option.elim_some, Option.map_some] at hkeeps hmode hlevel
      rw [if_neg (by simp [hkeeps])]
      simp [hmode, hlevel]
  · cases hkeeps

/-- Levels that a reply does not keep come from the airflow or from the targets, where there is no
exact target and the unit is not off. -/
theorem levelParts_of_readback_none (hnotOff : state.operationMode ≠ some .off)
    (hnone : state.balancedTargetReadback = none) (hpart : part ∈ levelParts airflowIsFresh state) :
    part = .airflow ∨ part = .targets := by
  unfold levelParts at hpart
  rcases hmode : state.operationMode with _ | mode
  · simp_all
  · cases mode with
    | off => exact absurd hmode hnotOff
    | unbalanced =>
      simp only [hmode, List.mem_append] at hpart
      rcases hpart with hpart | hpart
      · split at hpart
        · exact .inr (List.mem_singleton.mp hpart)
        · cases hpart
      · split at hpart
        · cases hpart
        · exact .inl (List.mem_singleton.mp hpart)
    | humidityControl | co2Control | automatic =>
      exact .inl (by simpa [hmode] using hpart)
    | manual | inactive =>
      simp only [hmode, hnone, Option.isSome_none, Bool.false_eq_true, if_false] at hpart
      split at hpart
      · exact .inr (List.mem_singleton.mp hpart)
      · exact .inl (List.mem_singleton.mp hpart)

/-- **Levels that come from an airflow that a reply does not read** are the ones that it leaves to
the airflow of the state before. -/
theorem PlanReply.mapPair_eq_airflowLevels (hkeeps : reply.keepsLevels previous = false)
    (hflow : reply.reads .flow = false)
    (hstate : state = reply.state room clock previous)
    (hnotOff : state.operationMode ≠ some .off)
    (hpart : part ∈ levelParts airflowIsFresh state)
    (hairflow : part = .airflow ∨ (part = .targets ∧ reply.targetsOrigin room previous = .airflow))
    (hreached : levelsReached (mapPair airflowIsFresh state) value = true) :
    mapPair airflowIsFresh state = reply.airflowLevels room previous airflowIsFresh := by
  obtain ⟨hmode, hpreset, htargets, hnone, hsupply, hextract⟩ :=
    state_of_not_keepsLevels room clock hkeeps
  have hshows := showsBaseMode_of_not_keepsLevels room clock hkeeps
  have hsame : reply.withAirflow previous = previous := by
    rcases reply with ⟨_ | error | ⟨flow, mode⟩, target⟩ | read
    all_goals try rfl
    cases flow with
    | values read => cases hflow
    | _ => rfl
  rw [hsame] at htargets hsupply hextract
  rw [airflowLevels, ← hmode, ← hpreset]
  rw [← hstate] at htargets hnone hsupply hextract hshows ⊢
  refine mapPair_eq_unreadLevels rfl hnone hsupply hextract (fun hunbalanced => ?_)
    (fun hbalanced => ?_) hnotOff hreached
  · -- Both targets of an unbalanced map are read, as far as they are decoded.
    have hread : reply.targetsOrigin room previous = .read := by
      rw [targetsOrigin_of_unbalanced (hstate ▸ hunbalanced), hshows (.inr hunbalanced)]
      rfl
    have hpartAirflow : part = .airflow := hairflow.resolve_right fun h => by
      rw [hread] at h
      cases h.2
    obtain ⟨block, hblock⟩ := exists_status_of_showsBaseMode (hshows (.inr hunbalanced))
    rw [hunbalanced, hblock] at htargets
    rw [hblock]
    refine ⟨htargets, ?_⟩
    obtain ⟨hsupplyTarget, hextractTarget⟩ := Prod.mk.inj htargets
    simp only [Option.map_some, ← hsupplyTarget, ← hextractTarget]
    rw [hpartAirflow] at hpart
    by_contra hboth
    rw [Bool.not_eq_false] at hboth
    simp [levelParts, hunbalanced, hboth] at hpart
  · rcases hbalanced with hmanual | hinactive
    · rw [hmanual] at htargets
      obtain ⟨hlevel, -⟩ := Prod.mk.inj htargets
      rcases hdecoded : decodeTargetLevel room (reply.status.map (·.currentLevel)) with _ | level
      · exact ⟨by rw [hlevel, hdecoded, Option.none_or], fun _ => hdecoded⟩
      · -- A target that is decoded hides the airflow, unless nothing is reported.
        exfalso
        have hread : reply.targetsOrigin room previous = .read :=
          targetsOrigin_of_manual hkeeps (by rw [← hmode, ← hstate, hmanual]) (by simp [hdecoded])
        have hpartAirflow : part = .airflow := hairflow.resolve_right fun h => by
          rw [hread] at h
          cases h.2
        rw [hdecoded, Option.some_or] at hlevel
        rw [hpartAirflow] at hpart
        have hquick : ((state.presetMode.bind presetModeToRawCode).isSome && !airflowIsFresh) =
            true := by
          by_contra hnot
          rw [Bool.not_eq_true] at hnot
          simp [levelParts, hmanual, hnone, hlevel, hnot] at hpart
        obtain ⟨hactive, hstale⟩ := Bool.and_eq_true_iff.mp hquick
        rw [Bool.not_eq_true'] at hstale
        obtain ⟨supply, extract, hpair⟩ := complete_of_levelsReached hreached
        simp [mapPair, targetLevels, hmanual, hnone, hactive, hstale] at hpair
    · rw [hinactive] at htargets
      exact ⟨(Prod.mk.inj htargets).1, by simp [hinactive]⟩

/-- **What a read leaves of levels that it does not keep**, where a part of them is older than
the last airflow write: an exact target that it carries, or an airflow that it does not read. -/
theorem carried_of_not_keepsLevels (hkeeps : reply.keepsLevels previous = false)
    (hinput : s.readInput label = some (previous, polled, reply, replied))
    (hkey : s.writesKey label .airflowLevels = false)
    (hstate : state = ((s.atClock replied).applyReply previous polled reply).2)
    (hpart : part ∈ levelParts airflowIsFresh state)
    (hold : recordReads s label record .airflowLevels part = false)
    (hreached : levelsReached (mapPair airflowIsFresh state) value = true) :
    (s.keepsExactTarget label = true ∧
        recordReads s label record .airflowLevels .exactTarget = false ∧
        ∃ level ∈ previous.balancedTargetReadback,
          mapPair airflowIsFresh state = (some level, some level)) ∨
      (s.exactTargetRead label = none ∧ recordReads s label record .airflowLevels .airflow = false ∧
        mapPair airflowIsFresh state = reply.airflowLevels s.room previous airflowIsFresh) := by
  obtain ⟨-, readback, hframe⟩ := (s.atClock replied).applyReply_frame previous polled reply
  have hexact := applyReply_exact hinput
  obtain ⟨hmode, hpreset, htargets, hnone, hsupply, hextract⟩ :=
    PlanReply.state_of_not_keepsLevels s.room replied hkeeps
  have hshows := PlanReply.showsBaseMode_of_not_keepsLevels s.room replied hkeeps
  rw [← hstate] at hframe hexact
  change state = { reply.state s.room replied previous with
    balancedTargetReadback := readback } at hframe
  set next := reply.state s.room replied previous with hnext
  have hsame : state.operationMode = next.operationMode := by rw [hframe]
  -- A mode that the map shows, and the targets of an unbalanced one, have just been read.
  have hbase : next.operationMode = some .off ∨ next.operationMode = some .unbalanced →
      s.origin label .baseMode = .read := by
    intro h
    simp [RoomCoordinator.origin, hinput, hshows h]
  have horigin : s.origin label .targets = reply.targetsOrigin s.room previous := by
    simp [RoomCoordinator.origin, hinput]
  have hnotOff : state.operationMode ≠ some .off := by
    intro hoff
    have hbaseMode : part = .baseMode := by simpa [levelParts, hoff] using hpart
    rw [hbaseMode, recordReads_of_not_writesKey hkey, hbase (.inl (hsame ▸ hoff))] at hold
    cases hold
  rcases hcases : state.balancedTargetReadback with _ | level
  · refine .inr ?_
    have hunread : s.exactTargetRead label = none := by
      rcases hexact with ⟨-, ⟨hsome, hread⟩ | ⟨hunread, -⟩⟩ | ⟨hunread, -⟩
      · rw [← hread, hcases] at hsome
        cases hsome
      · exact hunread
      · exact hunread
    have hparts : part = .airflow ∨
        (part = .targets ∧ reply.targetsOrigin s.room previous = .airflow) := by
      refine (levelParts_of_readback_none hnotOff hcases hpart).imp id fun htarget => ⟨htarget, ?_⟩
      rw [htarget, recordReads_of_not_writesKey hkey, horigin] at hold
      rcases horigins : reply.targetsOrigin s.room previous with _ | _ | _
      · rw [horigins] at hold
        cases hold
      · rfl
      · exact absurd horigins (PlanReply.targetsOrigin_ne_kept hkeeps)
    have hairflow : s.origin label .airflow ≠ .read ∧ record .airflowLevels .airflow = false := by
      rcases hparts with hairflow | ⟨htarget, hderived⟩
      · rw [hairflow] at hold
        exact recordReads_eq_false hkey (by decide) hold
      · rw [htarget, recordReads_of_not_writesKey hkey, horigin, hderived] at hold
        simpa using hold
    have hflow : reply.reads .flow = false := by
      by_contra hread
      exact hairflow.1 (by simp [RoomCoordinator.origin, hinput, hread])
    refine ⟨hunread, ?_, ?_⟩
    · rw [recordReads_of_not_writesKey hkey]
      simp [RoomCoordinator.origin, hinput, hflow, hairflow.2]
    · have hreadback : readback = none := by
        rw [← hcases, hframe]
      have hnext' : state = reply.state s.room replied previous := by
        rw [hframe, hreadback, ← hnone]
      exact PlanReply.mapPair_eq_airflowLevels hkeeps hflow hnext' hnotOff hpart hparts hreached
  · refine .inl ?_
    -- Only register `41121` or the state before gives an exact target here.
    rcases hexact with ⟨hbalanced, hread | ⟨-, hkept, hcarried⟩⟩ | ⟨-, hgiven⟩
    all_goals try
      have hmanual : state.operationMode = some .manual :=
        hsame.trans (hbalanced.resolve_right fun hoff => hnotOff (hsame.trans hoff))
      have hexactPart : part = .exactTarget := by simpa [levelParts, hmanual, hcases] using hpart
      rw [hexactPart] at hold
    · have hreadNow : s.origin label .exactTarget = .read := by
        simp [RoomCoordinator.origin, hinput, hread.1]
      rw [recordReads_of_not_writesKey hkey, hreadNow] at hold
      cases hold
    · refine ⟨hkept, hold, level, by rw [← hcarried, hcases]; rfl, ?_⟩
      simp [mapPair, targetLevels, hmanual, hcases]
    · rw [hgiven, hnone] at hcases
      cases hcases

/-- **Reached levels that come in part from before the last airflow write** are carried ones. -/
theorem carriedLevels_of_reached (hstate : s.readState label = some (state, finished))
    (hsettled : s.Settled) (hknown : s.ReadsKnown)
    (hle : ∀ reply replied, label.reply = some (reply, replied) →
      replied.monotonic ≤ finished.monotonic)
    (hfresh : groupFresh finished state .flowControl = true)
    (hreached : levelsReached (reportedPair finished state) value = true)
    (hpart : part ∈ reportedParts finished state)
    (hold : recordReads s label record .airflowLevels part = false) :
    ∃ levels ∈ carriedLevels (s, record) label, levelsReached levels value = true := by
  obtain ⟨previous, polled, reply, replied, hinput, hreply, hprevious, hwrite, hresult⟩ :=
    readState_eq_some hstate
  obtain ⟨-, readback, hframe⟩ := (s.atClock replied).applyReply_frame previous polled reply
  rw [← hresult] at hframe
  have hleaves : ∀ group ∈ airflowReadGroups, groupFresh finished state group = true →
      reply.leavesFresh replied previous group = true := by
    intro group hgroup hgroupFresh
    have hafter : groupFresh finished (reply.state s.room replied previous) group = true := by
      rw [hframe] at hgroupFresh
      exact hgroupFresh
    exact PlanReply.leavesFresh_of_groupFresh
      (hsettled.stamped_previous hknown hprevious hgroup) (hle _ _ hreply) hafter
  have hmap := hleaves .flowControl (by decide) hfresh
  -- Levels that are reached are reported with the airflow taken for fresh as well.
  rw [reportedPair_of_fresh hfresh] at hreached
  rw [reportedParts, if_pos hfresh] at hpart
  obtain ⟨hreached, hpart⟩ :
      levelsReached (mapPair (reply.leavesFresh replied previous .flow) state) value = true ∧
        part ∈ levelParts (reply.leavesFresh replied previous .flow) state := by
    rcases hflow : groupFresh finished state .flow with _ | _
    · rw [hflow] at hreached hpart
      rcases reply.leavesFresh replied previous .flow with _ | _
      · exact ⟨hreached, hpart⟩
      · obtain ⟨hpair, hparts⟩ := mapPair_of_reached hreached
        exact ⟨hpair ▸ hreached, hparts ▸ hpart⟩
    · rw [hflow] at hreached hpart
      rw [hleaves .flow (by decide) hflow]
      exact ⟨hreached, hpart⟩
  set airflowIsFresh := reply.leavesFresh replied previous .flow with hairflowIsFresh
  have hkey := writesKey_of_writeOf_none hwrite .airflowLevels
  unfold carriedLevels
  simp only [hinput, hmap, Bool.true_eq_false, if_false, ← hairflowIsFresh]
  rcases hkeeps : reply.keepsLevels previous with _ | _
  · rcases carried_of_not_keepsLevels hkeeps hinput hkey hresult hpart hold hreached with
      ⟨hkept, hexact, level, hlevel, hpair⟩ | ⟨hunread, hairflow, hpair⟩
    · refine ⟨(some level, some level), ?_, hpair ▸ hreached⟩
      rw [Option.mem_def] at hlevel
      simp [hkept, hexact, hlevel]
    · refine ⟨reply.airflowLevels s.room previous airflowIsFresh, ?_, hpair ▸ hreached⟩
      simp [hunread, hairflow]
  · rcases sameLevels_of_keepsLevels hkeeps hinput hresult with hsame | ⟨hmanual, hsome, hread⟩
    · obtain ⟨hpair, hparts⟩ := hsame.mapPair_eq airflowIsFresh
      rw [hparts] at hpart
      refine ⟨mapPair airflowIsFresh (reply.withAirflow previous), ?_, hpair ▸ hreached⟩
      have hany : (levelParts airflowIsFresh (reply.withAirflow previous)).any
          (fun part => !recordReads s label record .airflowLevels part) = true :=
        List.any_eq_true.mpr ⟨part, hpart, by simp [hold]⟩
      simp [hany]
    · -- An exact target that is read is no part from before the write.
      have hexact : part = .exactTarget := by
        simpa [levelParts, hmanual, hread, hsome] using hpart
      rw [hexact, recordReads_of_not_writesKey hkey] at hold
      simp [RoomCoordinator.origin, hinput, hsome] at hold

end Reads

end MeltemVentilation
