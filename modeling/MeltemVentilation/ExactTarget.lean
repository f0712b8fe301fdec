import MeltemVentilation.UncertainFlow

/-!
# How old the exact balanced target may be

The status map shows a balanced target in steps of 10 m³/h only, so the exact one is read
from set register `41121` while an airflow write is being confirmed, and kept in the state
(`RoomState.balancedTargetReadback`) from one airflow poll to the next.

The record of a run, `ExactRecord`, lists the values that register `41121` has answered with
since the last airflow write was sent. Whatever became of that write, a later read of the
status map leaves no exact target or one of these values, unless it keeps the exact target
of the state before it, and there are two ways to keep one (`keepsExactTarget`): a status
that reports intensive hides the base mode and keeps all that is known of it, and once the
write cannot be confirmed any more the exact target is carried forward
(`carriesExactTarget`). The theorem `exactTarget_of_reach` says that these two are all.
-/

namespace MeltemVentilation

open RoomCoordinator Transition

/-! ### What a read makes of the exact target -/

/-- Whether the exact target of `previous` is carried forward to `state`, a state in which the
mode status has just been read and does not report intensive. -/
def WriteConfirmations.carriesExactTarget (confirmations : WriteConfirmations) (clock : Clock)
    (state previous : RoomState) : Bool :=
  (state.operationMode = some .manual || state.operationMode = some .off) &&
    !confirmations.needsConfirmation clock.wall .airflowLevels &&
    previous.balancedTargetReadback.any fun readback =>
      let converged := confirmations.balancedFlowConverged ||
        flowReachedReadback clock state previous readback
      let recentWrite := confirmations.hasRecentWrite clock.wall .airflowLevels && !converged
      state.operationMode = previous.operationMode && state.presetMode = none &&
        state.targetLevel = previous.targetLevel &&
        !balancedReadbackSupersededByFlow clock state previous readback recentWrite

section Prepared

variable (confirmations : WriteConfirmations) {clock : Clock} {state : RoomState}
  (previous : RoomState)

/-- While intensive runs, register `41121` is not read and the state stays as it is. -/
theorem prepareBalancedTargetReadback_of_intensive (h : state.intensiveActive = some true) :
    confirmations.prepareBalancedTargetReadback clock state previous =
      ⟨confirmations, state, false⟩ := by
  unfold WriteConfirmations.prepareBalancedTargetReadback
  rw [if_pos (.inr (.inl h))]

/-- **What is prepared for a base mode that has just been read**: register `41121` is read,
the exact target is carried forward, or there is none. -/
theorem prepareBalancedTargetReadback_cases (hfresh : groupFresh clock state .flowControl = true)
    (hvisible : state.intensiveActive ≠ some true)
    (hnone : state.balancedTargetReadback = none) :
    ((confirmations.prepareBalancedTargetReadback clock state previous).mustRead = true ∧
        confirmations.carriesExactTarget clock state previous = false ∧
        (confirmations.prepareBalancedTargetReadback clock state previous).state = state) ∨
      ((confirmations.prepareBalancedTargetReadback clock state previous).mustRead = false ∧
        (confirmations.prepareBalancedTargetReadback clock state previous).state =
          { state with
            balancedTargetReadback :=
              if confirmations.carriesExactTarget clock state previous then
                previous.balancedTargetReadback
              else none }) := by
  have hsame : { state with balancedTargetReadback := none } = state := by rw [← hnone]
  unfold WriteConfirmations.prepareBalancedTargetReadback WriteConfirmations.carriesExactTarget
  -- Only a balanced mode has an exact target to be read or carried over.
  by_cases hmode : state.operationMode = some .manual ∨ state.operationMode = some .off
  · have hgo : ¬ (groupFresh clock state .flowControl = false ∨
        state.intensiveActive = some true ∨
        (state.operationMode ≠ some .manual ∧ state.operationMode ≠ some .off)) := by
      rw [hfresh]
      tauto
    rw [if_neg hgo]
    by_cases hneeds : confirmations.needsConfirmation clock.wall .airflowLevels = true
    · exact .inl ⟨by rw [if_pos hneeds], by simp [hneeds], by rw [if_pos hneeds]⟩
    · rw [if_neg hneeds]
      refine .inr ?_
      rcases hprevious : previous.balancedTargetReadback with _ | readback
      · exact ⟨rfl, by simpa using hsame.symm⟩
      · dsimp only
        split
        · rename_i hcarry
          refine ⟨rfl, ?_⟩
          rw [if_pos (by simpa [hmode, hneeds, and_assoc] using hcarry)]
        · rename_i hcarry
          refine ⟨rfl, ?_⟩
          rw [if_neg (by simpa [hmode, hneeds, and_assoc] using hcarry), hsame]
  · have hstop : groupFresh clock state .flowControl = false ∨
        state.intensiveActive = some true ∨
        (state.operationMode ≠ some .manual ∧ state.operationMode ≠ some .off) := by tauto
    rw [if_pos hstop]
    exact .inr ⟨rfl, by simpa [hmode] using hsame.symm⟩

variable {confirmations previous} in
/-- Where the exact target is carried forward, register `41121` is not read. -/
theorem mustRead_of_carriesExactTarget (hfresh : groupFresh clock state .flowControl = true)
    (hvisible : state.intensiveActive ≠ some true) (hnone : state.balancedTargetReadback = none)
    (hcarry : confirmations.carriesExactTarget clock state previous = true) :
    (confirmations.prepareBalancedTargetReadback clock state previous).mustRead = false := by
  rcases prepareBalancedTargetReadback_cases confirmations previous hfresh hvisible hnone with
    ⟨-, hnot, -⟩ | ⟨hmust, -⟩
  · rw [hcarry] at hnot
    cases hnot
  · exact hmust

end Prepared

/-! ### The input of a read -/

namespace RoomCoordinator

/-- What a step with replies starts from: the state before it, whether it is a poll, the
replies, and when they came. -/
def readInput (s : RoomCoordinator) : Label → Option (RoomState × Bool × PlanReply × Clock)
  | .readBack reply replied _ => some (s.state, false, reply, replied)
  | .poll reply others replied _ =>
    some ((s.pollEntry others).getD emptyRoomState, true, reply, replied)
  | _ => none

/-- The airflow that register `41121` answers with in a step, if it is read there. -/
def exactTargetRead (s : RoomCoordinator) (label : Label) : Option ℤ :=
  match s.readInput label with
  | some (previous, polled, .airflow read target, replied) =>
    if read.mayConfirm polled && (s.confirmations.prepareBalancedTargetReadback replied
        (read.apply s.room replied previous) previous).mustRead then
      target.airflow s.room
    else none
  | _ => none

/-- **Whether a step keeps the exact target**: the status it reads reports intensive, or the
exact target is carried forward. -/
def keepsExactTarget (s : RoomCoordinator) (label : Label) : Bool :=
  match s.readInput label with
  | some (previous, polled, .airflow read _, replied) =>
    let state := read.apply s.room replied previous
    state.intensiveActive = some true ||
      (read.mayConfirm polled && s.confirmations.carriesExactTarget replied state previous)
  | _ => false

end RoomCoordinator

/-! ### The record of a run -/

/-- What a run says about the exact target. -/
structure ExactRecord where
  /-- An airflow write has been sent. -/
  sent : Bool := false
  /-- The values of register `41121` read since the last airflow write was sent. -/
  values : List ℤ := []
deriving DecidableEq

/-- The record after a step. Every airflow write counts as sent, whatever became of it. -/
def recordExact (s : RoomCoordinator) (label : Label) (record : ExactRecord) : ExactRecord :=
  if (s.writeOf label).any (·.1.writeKey = .airflowLevels) then { sent := true }
  else { record with values := (s.exactTargetRead label).toList ++ record.values }

/-- The exact target of a state is none, or was read after the last airflow write. -/
def ExactRecord.Current (record : ExactRecord) (state : RoomState) : Prop :=
  ∀ level ∈ state.balancedTargetReadback, level ∈ record.values

instance (record : ExactRecord) (state : RoomState) : Decidable (record.Current state) :=
  inferInstanceAs (Decidable (∀ level ∈ state.balancedTargetReadback, level ∈ record.values))

/-- The coordinator with the reads of register `41121` on record. -/
abbrev ExactStep := recorded RoomCoordinator.step recordExact

/-- A run starts before the first poll and the first command. -/
def ExactStart (s : RoomCoordinator × ExactRecord) : Prop := s.1.Started ∧ s.2 = {}

/-! ### One read -/

section Reads

variable {s t : RoomCoordinator} {label : Label} {state previous : RoomState}
  {record : ExactRecord} {clock finished : Clock} {room : RoomConfig}

/-- A status map that was read reports intensive and leaves the exact target, or does not
and clears it. -/
theorem applyModeRead_exact (room : RoomConfig) (state : RoomState) (block : ModeRead) :
    ((applyModeRead room state (some block)).intensiveActive = some true ∧
        (applyModeRead room state (some block)).balancedTargetReadback =
          state.balancedTargetReadback) ∨
      ((applyModeRead room state (some block)).intensiveActive = some false ∧
        (applyModeRead room state (some block)).balancedTargetReadback = none) := by
  unfold applyModeRead
  dsimp only
  split
  · exact .inl ⟨rfl, rfl⟩
  · exact .inr ⟨rfl, rfl⟩

theorem readState_eq_some (h : s.readState label = some (state, finished)) :
    ∃ previous polled reply replied, s.readInput label = some (previous, polled, reply, replied) ∧
      label.reply = some (reply, replied) ∧ s.Previous previous ∧ s.writeOf label = none ∧
      state = ((s.atClock replied).applyReply previous polled reply).2 := by
  cases label with
  | readBack reply replied finished =>
    cases h
    exact ⟨_, _, _, _, rfl, rfl, s.previous_state, rfl, rfl⟩
  | poll reply others replied finished =>
    cases h
    exact ⟨_, _, _, _, rfl, rfl, s.previous_pollEntry others, rfl, rfl⟩
  | _ => cases h

/-- A read starts from the exact target of the polled state: a startup state has none. -/
theorem RoomCoordinator.Previous.balancedTargetReadback (h : s.Previous previous)
    (hstartup : ∀ state ∈ s.startup, state.hasData = false) :
    previous.balancedTargetReadback = s.state.balancedTargetReadback := by
  rcases h with rfl | ⟨hdata, hprevious⟩
  · rfl
  · have hstate : s.state = emptyRoomState := by simp [RoomCoordinator.state, hdata]
    rw [hstate]
    exact (RoomState.noValues (hstartup previous hprevious)).balancedTargetReadback

/-- The exact target that `_read_balanced_target_if_pending` leaves in a state whose base mode
has just been read: the one it carries, or the one it reads. -/
theorem readBalancedTarget_exact {target : TargetReply}
    (hfresh : groupFresh s.clock state .flowControl = true)
    (hvisible : state.intensiveActive ≠ some true)
    (hnone : state.balancedTargetReadback = none) :
    (s.readBalancedTarget state previous target).2.balancedTargetReadback =
      if s.confirmations.carriesExactTarget s.clock state previous then
        previous.balancedTargetReadback
      else if (s.confirmations.prepareBalancedTargetReadback s.clock state previous).mustRead then
        target.airflow s.room
      else none := by
  unfold readBalancedTarget
  dsimp only
  rcases prepareBalancedTargetReadback_cases s.confirmations previous hfresh hvisible hnone with
    ⟨hmust, hcarry, hstate⟩ | ⟨hmust, hstate⟩
  · rw [if_pos hmust, if_pos hmust, hcarry, hstate, if_neg Bool.false_ne_true]
    rcases target.airflow s.room with _ | level
    · exact hnone
    · rfl
  · have hskip : ¬ (s.confirmations.prepareBalancedTargetReadback s.clock state
        previous).mustRead = true := by simp [hmust]
    simp only [if_neg hskip, hstate]

/-- **What a read of the status map leaves**: the exact target it keeps, or the one it read
from register `41121`, or none. -/
theorem readState_exact (hread : label.reads .flowControl = true)
    (hstate : s.readState label = some (state, finished))
    (hstartup : ∀ state ∈ s.startup, state.hasData = false) :
    (s.keepsExactTarget label = true ∧ s.exactTargetRead label = none ∧
        state.balancedTargetReadback = s.state.balancedTargetReadback) ∨
      (s.keepsExactTarget label = false ∧
        state.balancedTargetReadback = s.exactTargetRead label) := by
  obtain ⟨previous, polled, reply, replied, hinput, hreply, hprevious, -, rfl⟩ :=
    readState_eq_some hstate
  rw [← hprevious.balancedTargetReadback hstartup]
  simp only [Label.reads, hreply, Option.any_some] at hread
  -- Of all replies only one with the block of the status map reads the group.
  rcases reply with ⟨_ | error | ⟨flow, block | _ | _⟩, target⟩ | _ | _ | read
  all_goals try cases hread
  set read : AirflowRead := .blocks flow (.values block)
  set next := read.apply s.room replied previous with hnext
  have hfresh : groupFresh replied next .flowControl = true :=
    groupFresh_of_succeeded rfl (by simp)
  have hkept : (applyFlowRead previous flow.read?).balancedTargetReadback =
      previous.balancedTargetReadback := by cases flow <;> rfl
  have hcases : (next.intensiveActive = some true ∧
        next.balancedTargetReadback = previous.balancedTargetReadback) ∨
      (next.intensiveActive = some false ∧ next.balancedTargetReadback = none) := by
    have happlied := applyModeRead_exact s.room (applyFlowRead previous flow.read?) block
    rw [hkept] at happlied
    exact happlied
  have hkeeps : s.keepsExactTarget label = (decide (next.intensiveActive = some true) ||
      (read.mayConfirm polled && s.confirmations.carriesExactTarget replied next previous)) := by
    simp only [keepsExactTarget, hinput, ← hnext]
  have hexact : s.exactTargetRead label =
      if read.mayConfirm polled && (s.confirmations.prepareBalancedTargetReadback replied next
        previous).mustRead then target.airflow s.room else none := by
    simp only [exactTargetRead, hinput, ← hnext]
  have happly : ((s.atClock replied).applyReply previous polled (.airflow read target)).2 =
      if read.mayConfirm polled then
        ((s.atClock replied).readBalancedTarget next previous target).2
      else next := by
    simp only [RoomCoordinator.applyReply]
    split <;> rfl
  rw [happly, hkeeps, hexact]
  rcases hcases with ⟨hactive, hsame⟩ | ⟨hactive, hnone⟩
  · -- Intensive hides the base mode: nothing is read, and all that is known stays.
    have hprepared : s.confirmations.prepareBalancedTargetReadback replied next previous =
        ⟨s.confirmations, next, false⟩ :=
      prepareBalancedTargetReadback_of_intensive s.confirmations previous hactive
    refine .inl ⟨by simp [hactive], by simp [hprepared], ?_⟩
    split
    · simpa only [readBalancedTarget, RoomCoordinator.atClock, hprepared, Bool.false_eq_true,
        if_false] using hsame
    · exact hsame
  · -- A map that shows the base mode drops the exact target: it is carried over or read anew.
    by_cases hmay : read.mayConfirm polled = true
    · rw [if_pos hmay, readBalancedTarget_exact hfresh (by simp [hactive]) hnone]
      by_cases hcarry : s.confirmations.carriesExactTarget replied next previous = true
      · have hmust := mustRead_of_carriesExactTarget hfresh (by simp [hactive]) hnone hcarry
        refine .inl ⟨by simp [hmay, hcarry], by simp [hmust], ?_⟩
        simp [hcarry, RoomCoordinator.atClock]
      · refine .inr ⟨by simp [hactive, hcarry], ?_⟩
        simp only [hmay, hcarry, RoomCoordinator.atClock, Bool.true_and, if_false,
          Bool.false_eq_true]
        rfl
    · -- A read that may not confirm asks for no exact target, so none is known after it.
      refine .inr ⟨by simp [hactive, hmay], ?_⟩
      rw [if_neg hmay, if_neg (by simp [hmay])]
      exact hnone

/-- **What a read of the status map says about the age of the exact target.** -/
theorem current_readState_iff (hread : label.reads .flowControl = true)
    (hstate : s.readState label = some (state, finished))
    (hstartup : ∀ state ∈ s.startup, state.hasData = false) :
    (recordExact s label record).Current state ↔
      (s.keepsExactTarget label = true → record.Current s.state) := by
  obtain ⟨-, -, -, -, -, -, -, hwrite, -⟩ := readState_eq_some hstate
  have hrecord : recordExact s label record =
      { record with values := (s.exactTargetRead label).toList ++ record.values } := by
    simp [recordExact, hwrite]
  rw [hrecord]
  rcases readState_exact hread hstate hstartup with ⟨hkeeps, hnone, hsame⟩ | ⟨hkeeps, hexact⟩
  · simp only [ExactRecord.Current, hnone, hsame, Option.toList_none, List.nil_append, hkeeps,
      true_imp_iff]
  · simp only [ExactRecord.Current, hexact, hkeeps, Bool.false_eq_true, false_imp_iff, iff_true]
    intro level hlevel
    exact List.mem_append_left _ (Option.mem_toList.mpr hlevel)

/-- A startup state has no value. -/
theorem startup_step (h : s.step label = some t)
    (hstartup : ∀ state ∈ s.startup, state.hasData = false) :
    ∀ state ∈ t.startup, state.hasData = false := by
  rcases step_cases h with ⟨command, outcome, finished, u, write, rfl, hle, hprepare, -, rfl⟩ |
    ⟨-, ⟨-, hquiet⟩ | ⟨state, hjudged⟩ | ⟨state, u, write, hjudged, -, rfl⟩ | honly⟩
  · have hsound := s.sound_prepare command
    rw [hprepare] at hsound
    obtain ⟨-, -, hkept⟩ := finishWrite_frame (u.atClock finished) write outcome
    rw [hkept, (hsound.1.atClock hle).startup]
    exact hstartup
  · rw [hquiet.startup]
    exact hstartup
  · rcases hjudged.startup with hnone | hsame
    · rw [hnone]
      rintro _ ⟨⟩
    · rw [hsame]
      exact hstartup
  · obtain ⟨-, -, -, hkept, -⟩ := finishReadBack_frame u write
    rw [hkept]
    rcases hjudged.startup with hnone | hsame
    · rw [hnone]
      rintro _ ⟨⟩
    · rw [hsame]
      exact hstartup
  · exact honly.startup

end Reads

/-! ### Runs -/

/-- **How old the exact target may be.** In every run, a state that results from a successful
read of the status map has no exact target or one that was read from register `41121` after
the last airflow write was sent, exactly if the read does not keep an exact target from
before that write. -/
theorem exactTarget_of_reach {s : RoomCoordinator × ExactRecord} {t : RoomCoordinator × ExactRecord}
    {label : Label} {state : RoomState} {finished : Clock}
    (h : Reach ExactStep (fun _ _ => True) ExactStart s) (hstep : ExactStep s label = some t)
    (hread : label.reads .flowControl = true)
    (hstate : s.1.readState label = some (state, finished)) :
    t.2.Current state ↔ (s.1.keepsExactTarget label = true → s.2.Current s.1.state) := by
  have hstartup : ∀ state ∈ s.1.startup, state.hasData = false := by
    refine h.invariant (P := fun s => ∀ state ∈ s.1.startup, state.hasData = false) ?_ ?_
    · rintro ⟨_, _⟩ ⟨⟨room, clock, rfl⟩, -⟩ state hmem
      cases hmem
    · intro s label t hinv _ hstep
      exact startup_step (recorded_eq_some.mp hstep).1 hinv
  rw [(recorded_eq_some.mp hstep).2]
  exact current_readState_iff hread hstate hstartup

/-! ### The failing run -/

/-- A successful airflow read of a unit that runs balanced at `level`, with a status that
shows 40 m³/h and the answer `raw` of register `41121`. -/
def coarseRead (level : ℤ) (raw : ℕ) : PlanReply :=
  .airflow (.blocks (.values ⟨level, level⟩) (.values ⟨modeManual, 204, 0⟩)) (.value raw)

/-- A level is set and confirmed by its exact target. -/
def exactlyConfirmed : List Label :=
  [.poll (coarseRead 40 82) ⟨false, false⟩ (atSecond 1) (atSecond 1),
    .command (.setLevel 41) .accepted (atSecond 2),
    .poll (coarseRead 41 85) ⟨false, false⟩ (atSecond 11) (atSecond 11)]

/-- A second level is written, which fails although the unit takes it. -/
def failedAlthoughTaken : List Label :=
  exactlyConfirmed ++ [.command (.setLevel 43) (.failed "Request timed out") (atSecond 12)]

/-- The readback of the second write: the unit has already changed its target. -/
def readBackFailed : Label := .readBack (coarseRead 41 89) (atSecond 14) (atSecond 14)

theorem exactTarget_of_reach_confirmed :
    ∃ s t state, run ExactStep (exactlyConfirmed.take 2) (sampleStart, {}) = some s ∧
      ExactStep s (.poll (coarseRead 41 85) ⟨false, false⟩ (atSecond 11) (atSecond 11)) = some t ∧
      state.balancedTargetReadback = some 41 ∧ t.2.Current state := by
  have hstart : Reach ExactStep (fun _ _ => True) ExactStart (sampleStart, {}) :=
    .start ⟨sampleStart_started, rfl⟩
  let label : Label := .poll (coarseRead 41 85) ⟨false, false⟩ (atSecond 11) (atSecond 11)
  obtain ⟨s, hrun, hreach, hs⟩ := hstart.exists_of_run (exactlyConfirmed.take 2)
    (fun s => (ExactStep s label).isSome && !s.1.keepsExactTarget label &&
      (s.1.readState label).any (·.1.balancedTargetReadback = some 41))
    (by decide +kernel) (by decide +kernel)
  simp only [Bool.and_eq_true, Bool.not_eq_true'] at hs
  obtain ⟨⟨hstep, hkeeps⟩, hstate⟩ := hs
  obtain ⟨t, ht⟩ := Option.isSome_iff_exists.mp hstep
  obtain ⟨⟨state, finished⟩, hread, hexact⟩ := (Option.any_eq_true _ _).mp hstate
  refine ⟨s, t, state, hrun, ht, of_decide_eq_true hexact, ?_⟩
  refine (exactTarget_of_reach hreach ht rfl hread).mpr fun h => ?_
  rw [hkeeps] at h
  cases h

/-- **The exact target can be older than the last airflow write**: a write that failed cannot
be confirmed any more, so the exact target of the level before it is carried forward, although
the unit has taken the new one. -/
theorem exactTarget_refuted :
    ∃ s t state finished, run ExactStep failedAlthoughTaken (sampleStart, {}) = some s ∧
      Reach ExactStep (fun _ _ => True) ExactStart s ∧ ExactStep s readBackFailed = some t ∧
      readBackFailed.reads .flowControl = true ∧
      s.1.readState readBackFailed = some (state, finished) ∧
      t.2.sent = true ∧ state.balancedTargetReadback = some 41 ∧ ¬ t.2.Current state := by
  have hstart : Reach ExactStep (fun _ _ => True) ExactStart (sampleStart, {}) :=
    .start ⟨sampleStart_started, rfl⟩
  obtain ⟨s, hrun, hreach, hs⟩ := hstart.exists_of_run failedAlthoughTaken
    (fun s => (ExactStep s readBackFailed).any (fun t => t.2 = ⟨true, []⟩) &&
      (s.1.readState readBackFailed).any (·.1.balancedTargetReadback = some 41))
    (by decide +kernel) (by decide +kernel)
  obtain ⟨hstep, hstate⟩ := Bool.and_eq_true_iff.mp hs
  obtain ⟨t, ht, hrecord⟩ := (Option.any_eq_true _ _).mp hstep
  obtain ⟨⟨state, finished⟩, hread, hexact⟩ := (Option.any_eq_true _ _).mp hstate
  replace hrecord : t.2 = ⟨true, []⟩ := of_decide_eq_true hrecord
  replace hexact : state.balancedTargetReadback = some 41 := of_decide_eq_true hexact
  refine ⟨s, t, state, finished, hrun, hreach, ht, rfl, hread, by rw [hrecord], hexact, ?_⟩
  intro hcurrent
  have hmem := hcurrent 41 hexact
  rw [hrecord] at hmem
  cases hmem

end MeltemVentilation
