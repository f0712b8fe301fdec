import MeltemVentilation.BaseWrites
import MeltemVentilation.UncertainFlow

/-!
# What a step leaves to the next

The inversion lemma of the coordinator, `step_cases`, once more in the form that an invariant
over writes and reads asks for. A step leaves three things to the next: the states that a read
may start from (`RoomCoordinator.Previous.of_step`), the open outcomes, and the pending values.
A step without a write opens nothing and sets nothing (`RoomCoordinator.Narrows`); a write opens
its own outcome and sets its own pending value, both at the health of that moment, and leaves the
others (`RoomCoordinator.Writes`).

The verdicts are read off the same cases: one is new only if the step judges the write by the
state that it leaves (`source_of_verdict`).
-/

namespace MeltemVentilation

open RoomCoordinator Transition

/-! ### The states that a read may start from -/

section States

variable {s t : RoomCoordinator} {label : Label} {state : RoomState} {finished : Clock}

/-- **The states that a read may start from** after a step: they were so before it, or the step
judges by them. -/
theorem RoomCoordinator.Previous.of_step (hprevious : t.Previous state)
    (hstep : s.step label = some t) : s.Previous state ∨ s.Source label state t.clock := by
  have hknown : t.data = s.data → t.startup = s.startup → s.Previous state := by
    intro hdata hstartup
    rwa [Previous, RoomCoordinator.state, hdata, hstartup] at hprevious
  -- A judged state becomes the entry, or the start-up entry is the old one.
  have hjudge : ∀ {judged u}, s.Judged label judged u → t.clock = u.clock → t.data = u.data →
      t.startup = u.startup → s.Previous state ∨ s.Source label state t.clock := by
    intro judged u hjudged hclock hdata hstartup
    rcases hprevious with rfl | ⟨hnone, hsome⟩
    · have hstate : t.state = judged := by
        rw [RoomCoordinator.state, hdata, ← RoomCoordinator.state, hjudged.state_eq]
      rw [hstate, hclock]
      exact .inr hjudged.source
    · rw [hdata] at hnone
      rw [hstartup] at hsome
      rcases hjudged.data with hdata | ⟨-, hdata, -⟩
      · rw [hnone] at hdata
        cases hdata
      · rcases hjudged.startup with hstartup | hstartup
        · rw [hstartup] at hsome
          cases hsome
        · exact .inl (.inr ⟨hdata, hstartup ▸ hsome⟩)
  rcases step_cases hstep with ⟨command, outcome, finished, u, write, rfl, hle, hprepare, -, rfl⟩ |
    ⟨-, ⟨-, hquiet⟩ | ⟨judged, hjudged⟩ | ⟨judged, u, write, hjudged, -, rfl⟩ | honly⟩
  · have hsound := s.sound_prepare command
    rw [hprepare] at hsound
    have hquiet := hsound.1.atClock hle
    obtain ⟨-, hdata, hstartup⟩ := finishWrite_frame (u.atClock finished) write outcome
    exact .inl (hknown (hdata.trans hquiet.data) (hstartup.trans hquiet.startup))
  · exact .inl (hknown hquiet.data hquiet.startup)
  · exact hjudge hjudged rfl rfl rfl
  · obtain ⟨-, hclock, hdata, hstartup, -⟩ := finishReadBack_frame u write
    exact hjudge hjudged hclock hdata hstartup
  · rcases hprevious with rfl | ⟨-, hsome⟩
    · rw [honly.state_eq]
      exact .inl s.previous_state
    · exact .inr (honly.startupSource state hsome)

/-- A readback leaves the state it gives. -/
theorem refreshAfterWrite_state (s : RoomCoordinator) (reply : PlanReply)
    (replied finished : Clock) :
    ((s.atClock replied).refreshAfterWrite reply finished).state =
      ((s.atClock replied).applyReply s.state false reply).2 := by
  have hdata : ((s.atClock replied).refreshAfterWrite reply finished).data =
      if ((s.atClock replied).applyReply s.state false reply).2 = s.state then s.data
      else some ((s.atClock replied).applyReply s.state false reply).2 := rfl
  rw [RoomCoordinator.state, hdata]
  split
  · rename_i hsame
    exact hsame.symm
  · rfl

/-- A poll leaves the entry it ends with, or that has no value and the polled state stays. -/
theorem finishPoll_state (s : RoomCoordinator) (entry : Option RoomState) (others : Others) :
    (s.finishPoll entry others).state = entry.getD emptyRoomState ∨
      ((s.finishPoll entry others).state = s.state ∧
        (entry.getD emptyRoomState).hasData = false) := by
  unfold finishPoll
  split
  · rcases entry with _ | state
    · exact .inl rfl
    · exact .inl rfl
  · rename_i hnone
    refine .inr ⟨rfl, ?_⟩
    rcases entry with _ | state
    · rfl
    · simp only [Option.any_some, Bool.or_eq_true, not_or, Bool.not_eq_true] at hnone
      exact hnone.1

/-- **What becomes of the state that a step reads**: it is the polled state then, or it has no
value and the polled state stays. -/
theorem state_of_step (hstep : s.step label = some t)
    (hread : s.readState label = some (state, finished)) :
    t.state = state ∨ (t.state = s.state ∧ state.hasData = false) := by
  cases label with
  | readBack reply replied finished =>
    cases hread
    obtain ⟨-, hstep⟩ := Option.ite_none_right_eq_some.mp hstep
    refine .inl ?_
    -- What follows the refresh of a read-back concerns the write, not the state.
    rw [← refreshAfterWrite_state s reply replied finished]
    rcases hphase : s.phase with _ | write | write
    all_goals simp only [hphase] at hstep
    · cases hstep
    · obtain ⟨-, hstep⟩ := Option.ite_none_right_eq_some.mp hstep
      cases hstep
      obtain ⟨-, -, hdata, -⟩ :=
        finishReadBack_frame ((s.atClock replied).refreshAfterWrite reply finished) write
      simp only [RoomCoordinator.state, hdata]
    · obtain ⟨-, hstep⟩ := Option.ite_none_right_eq_some.mp hstep
      cases hstep
      rfl
  | poll reply others replied finished =>
    cases hread
    obtain ⟨-, hstep⟩ := Option.ite_none_right_eq_some.mp hstep
    cases hstep
    have hentry : ∀ {entry : Option RoomState} {refreshed : RoomState},
        (if refreshed = entry.getD emptyRoomState then entry else some refreshed).getD
          emptyRoomState = refreshed := by
      intro entry refreshed
      split
      · rename_i hsame
        exact hsame.symm
      · rfl
    have hcases := finishPoll_state { s.atClock replied with
      confirmations := ((s.atClock replied).applyReply
        (((s.atClock replied).pollEntry others).getD emptyRoomState) true reply).1
      clock := finished } (if ((s.atClock replied).applyReply
        (((s.atClock replied).pollEntry others).getD emptyRoomState) true reply).2 =
          ((s.atClock replied).pollEntry others).getD emptyRoomState then
            (s.atClock replied).pollEntry others
        else some ((s.atClock replied).applyReply
          (((s.atClock replied).pollEntry others).getD emptyRoomState) true reply).2) others
    rw [hentry] at hcases
    exact hcases
  | _ => cases hread

end States

/-! ### What a step leaves of the outcomes and the pending values -/

/-- The health that a pending value was set with is that of `state`. -/
def PendingValue.SetAt {T : Type} (pending : PendingValue T) (groups : List ReadGroup)
    (state : RoomState) : Prop :=
  ∀ baseline ∈ pending.baseline, baseline.1 ∈ groups ∧
    baseline.2 = state.groupReadHealth baseline.1

namespace RoomCoordinator

/-- **Nothing is opened and nothing is set**: the open writes have the baselines of open writes
before, and the pending values were pending. -/
structure Narrows (s t : RoomCoordinator) : Prop where
  opened : ∀ key confirmation, t.confirmations.Open key confirmation →
    ∃ before, s.confirmations.Open key before ∧ confirmation.baseline = before.baseline
  presets : ∀ pending ∈ t.optimisticPresets, pending ∈ s.optimisticPresets
  intensive : ∀ pending ∈ t.optimisticIntensive, pending ∈ s.optimisticIntensive
  levels : ∀ pending ∈ t.optimisticLevels, pending ∈ s.optimisticLevels

/-- **What a write opens and sets**: its own outcome, with the current health as its baseline,
and its own pending value, with the health of the state. It gives no verdict. -/
structure Writes (s : RoomCoordinator) (key : WriteKey) (t : RoomCoordinator) : Prop where
  opened : ∀ other confirmation, t.confirmations.Open other confirmation →
    (other = key ∧ confirmation.baseline = s.groupHealth (writeGroup key)) ∨
      (other ≠ key ∧ ∃ before, s.confirmations.Open other before ∧
        confirmation.baseline = before.baseline)
  verdicts : ∀ other, ∀ confirmation ∈ t.confirmations.byKey other,
    confirmation.status = .confirmed ∨ confirmation.status = .mismatch →
      confirmation ∈ s.confirmations.byKey other
  presets : ∀ pending ∈ t.optimisticPresets,
    (key = .presetMode ∧ pending.SetAt presetOverlay.readGroups s.state) ∨
      (key ≠ .presetMode ∧ pending ∈ s.optimisticPresets)
  intensive : ∀ pending ∈ t.optimisticIntensive,
    (key = .intensive ∧ pending.SetAt intensiveOverlay.readGroups s.state) ∨
      (key ≠ .intensive ∧ pending ∈ s.optimisticIntensive)
  levels : ∀ pending ∈ t.optimisticLevels,
    (key = .airflowLevels ∧ pending.SetAt levelsOverlay.readGroups s.state) ∨
      (key ≠ .airflowLevels ∧ pending ∈ s.optimisticLevels)

variable {s t u : RoomCoordinator} {label : Label} {state : RoomState} {write : PreparedWrite}
  {key : WriteKey}

theorem Quiet.narrows (h : s.Quiet t) : s.Narrows t where
  opened _ confirmation hopen := ⟨confirmation, h.confirmations ▸ hopen, rfl⟩
  presets _ := mem_of_eq_or_none h.presets
  intensive _ := mem_of_eq_or_none h.intensive
  levels _ := mem_of_eq_or_none h.levels

theorem Judged.narrows (h : s.Judged label state t) : s.Narrows t where
  opened key confirmation hopen := by
    obtain ⟨before, hbefore, -, hbaseline, -⟩ := open_of_confirm h.byKey hopen
    exact ⟨before, hbefore, hbaseline⟩
  presets pending hpending := by
    rw [h.presets] at hpending
    exact (OverlayKind.settleIfRead_eq_some.mp hpending).1
  intensive pending hpending := by
    rw [h.intensive] at hpending
    exact (OverlayKind.settleIfRead_eq_some.mp hpending).1
  levels pending hpending := by
    rw [h.levels] at hpending
    exact (OverlayKind.settleIfRead_eq_some.mp hpending).1

theorem Narrows.finishReadBack (h : s.Narrows u) (write : PreparedWrite) :
    s.Narrows (u.finishReadBack write) := by
  obtain ⟨-, -, -, -, hconf, hkept⟩ := finishReadBack_frame u write
  refine ⟨fun key confirmation hopen => ?_, fun pending hpending => ?_,
    fun pending hpending => ?_, fun pending hpending => ?_⟩
  · rw [hconf] at hopen
    obtain ⟨marked, hmarked, -, hbaseline⟩ := open_markUnconfirmed.1 hopen
    obtain ⟨before, hbefore, hsame⟩ := h.opened key marked hmarked
    exact ⟨before, hbefore, hbaseline.trans hsame⟩
  · exact h.presets pending (mem_of_eq_or_none hkept.presets hpending)
  · exact h.intensive pending (mem_of_eq_or_none hkept.intensive hpending)
  · exact h.levels pending (mem_of_eq_or_none hkept.levels hpending)

theorem StartupOnly.narrows (h : s.StartupOnly label t) : s.Narrows t where
  opened _ confirmation hopen := ⟨confirmation, hopen.of_byKey (by rw [h.byKey]), rfl⟩
  presets pending hpending := h.presets ▸ hpending
  intensive pending hpending := h.intensive ▸ hpending
  levels pending hpending := h.levels ▸ hpending

/-- **A step without a write opens nothing and sets nothing.** -/
theorem narrows_of_step (hstep : s.step label = some t) (hwrite : s.writeOf label = none) :
    s.Narrows t := by
  rcases step_cases hstep with ⟨_, _, _, _, _, -, -, -, hsome, -⟩ |
    ⟨-, ⟨-, hquiet⟩ | ⟨judged, hjudged⟩ | ⟨judged, u, write, hjudged, -, rfl⟩ | honly⟩
  · rw [hwrite] at hsome
    cases hsome
  · exact hquiet.narrows
  · exact hjudged.narrows
  · exact hjudged.narrows.finishReadBack write
  · exact honly.narrows

/-! ### The end of a write -/

theorem setAt_of_set {T C : Type} {overlay : OverlayKind T C} {clock : Clock} {value : T}
    {pending : PendingValue T} (h : pending ∈ overlay.set clock s.data value) :
    pending.SetAt overlay.readGroups s.state := by
  obtain rfl := Option.some.inj h
  intro baseline hbaseline
  obtain ⟨group, hgroup, rfl⟩ := List.mem_map.mp hbaseline
  exact ⟨hgroup, rfl⟩

/-- Recording a write gives no verdict, and neither does superseding the others. -/
theorem verdict_record {confirmations : WriteConfirmations} {wall : WallTime}
    {recorded : WriteKey} {expected : WriteValue} {baseline : ReadHealth}
    {confirmation : WriteConfirmation}
    (h : confirmation ∈ ((confirmations.supersede recorded).recordPending wall recorded expected
      baseline).byKey key)
    (hverdict : confirmation.status = .confirmed ∨ confirmation.status = .mismatch) :
    confirmation ∈ confirmations.byKey key := by
  by_cases hkey : key = recorded
  · subst hkey
    rw [WriteConfirmations.recordPending_self] at h
    cases h
    rcases hverdict with h | h <;> cases h
  · rw [WriteConfirmations.recordPending_of_ne hkey] at h
    simp only [WriteConfirmations.supersede] at h
    split at h
    · obtain ⟨before, -, rfl⟩ := Option.map_eq_some_iff.mp h
      rcases hverdict with h | h <;> cases h
    · exact h

/-- Marking a write unconfirmed gives no verdict. -/
theorem verdict_markUnconfirmed {confirmations : WriteConfirmations} {marked : WriteKey}
    {error : String} {confirmation : WriteConfirmation}
    (h : confirmation ∈ (confirmations.markUnconfirmed marked error).byKey key)
    (hverdict : confirmation.status = .confirmed ∨ confirmation.status = .mismatch) :
    confirmation ∈ confirmations.byKey key := by
  by_cases hkey : key = marked
  · subst hkey
    rw [WriteConfirmations.markUnconfirmed_self] at h
    obtain ⟨before, hbefore, rfl⟩ := Option.map_eq_some_iff.mp h
    split at hverdict
    · rcases hverdict with h | h <;> cases h
    · rename_i hnot
      rwa [if_neg hnot]
  · rwa [WriteConfirmations.markUnconfirmed_of_ne hkey] at h

theorem Writes.accept (s : RoomCoordinator) (hplanned : write.Planned) :
    s.Writes write.writeKey (s.accept write) := by
  obtain ⟨-, -, -, -, hconf, hlevels, hpresets, hintensive⟩ := accept_frame s write
  refine ⟨fun other confirmation hopen => ?_, fun other confirmation hmem hverdict => ?_,
    fun pending hpending => ?_, fun pending hpending => ?_, fun pending hpending => ?_⟩
  · rw [hconf] at hopen
    rcases open_of_record hopen with ⟨rfl, -, hbaseline⟩ | ⟨hne, hbefore, -⟩
    · exact .inl ⟨rfl, hbaseline⟩
    · exact .inr ⟨hne, confirmation, hbefore, rfl⟩
  · rw [hconf] at hmem
    exact verdict_record hmem hverdict
  · rw [hpresets] at hpending
    split at hpending
    · rename_i preset hkey hexpected
      exact .inl ⟨hkey, setAt_of_set hpending⟩
    · rename_i hno
      split at hpending
      · cases hpending
      · refine .inr ⟨fun hkey => ?_, hpending⟩
        cases hplanned <;> first | exact hno _ rfl rfl | cases hkey
  · rw [hintensive] at hpending
    split at hpending
    · rename_i active hkey hexpected
      exact .inl ⟨hkey, setAt_of_set hpending⟩
    · rename_i hno
      refine .inr ⟨fun hkey => ?_, hpending⟩
      cases hplanned <;> first | exact hno _ rfl rfl | cases hkey
  · rw [hlevels] at hpending
    split at hpending
    · rename_i supply extract hkey hexpected
      exact .inl ⟨hkey, setAt_of_set hpending⟩
    · rename_i hno
      split at hpending
      · cases hpending
      · refine .inr ⟨fun hkey => ?_, hpending⟩
        cases hplanned <;> first | exact hno _ _ rfl rfl | cases hkey

theorem Writes.fail (s : RoomCoordinator) (write : PreparedWrite) (error : String) :
    s.Writes write.writeKey (s.fail write error) := by
  obtain ⟨-, -, -, -, hconf, hlevels, hpresets, hintensive⟩ := fail_frame s write error
  refine ⟨?_, fun other confirmation hmem hverdict => ?_,
    fun pending hpending => ?_, fun pending hpending => ?_, fun pending hpending => ?_⟩
  · rintro other confirmation ⟨hbyKey, hopen⟩
    rw [hconf] at hbyKey
    by_cases hkey : other = write.writeKey
    · subst hkey
      rw [WriteConfirmations.setStatus_self WriteConfirmations.recordPending_self] at hbyKey
      cases hbyKey
      cases hopen
    · rw [WriteConfirmations.setStatus_of_ne hkey,
        WriteConfirmations.recordPending_of_ne hkey] at hbyKey
      exact .inr ⟨hkey, confirmation, ⟨hbyKey, hopen⟩, rfl⟩
  · rcases byKey_fail hmem with hfailed | hbefore
    · rw [hfailed] at hverdict
      rcases hverdict with h | h <;> cases h
    · exact hbefore
  · rw [hpresets] at hpending
    obtain ⟨hne, hpending⟩ := Option.ite_none_left_eq_some.mp hpending
    exact .inr ⟨hne, hpending⟩
  · rw [hintensive] at hpending
    obtain ⟨hne, hpending⟩ := Option.ite_none_left_eq_some.mp hpending
    exact .inr ⟨hne, hpending⟩
  · rw [hlevels] at hpending
    obtain ⟨hne, hpending⟩ := Option.ite_none_left_eq_some.mp hpending
    exact .inr ⟨hne, hpending⟩

theorem Writes.cancel (s : RoomCoordinator) (write : PreparedWrite) :
    s.Writes write.writeKey (s.cancel write) := by
  obtain ⟨-, -, -, -, hconf, hkept, hcleared⟩ := cancel_frame s write
  have hgroup : ∀ {key}, write.writeKey = key → writeGroup key = .flowControl →
      (s.cancel write).optimisticLevels = none ∧ (s.cancel write).optimisticPresets = none ∧
        (s.cancel write).optimisticIntensive = none := by
    rintro key rfl hgroup
    exact hcleared hgroup
  refine ⟨fun other confirmation hopen => ?_, fun other confirmation hmem hverdict => ?_,
    fun pending hpending => ?_, fun pending hpending => ?_, fun pending hpending => ?_⟩
  · rw [hconf] at hopen
    obtain ⟨marked, hmarked, -, hsame⟩ := open_markUnconfirmed.1 hopen
    rcases open_of_record hmarked with ⟨rfl, -, hbaseline⟩ | ⟨hne, hbefore, -⟩
    · exact .inl ⟨rfl, hsame.trans hbaseline⟩
    · exact .inr ⟨hne, marked, hbefore, hsame⟩
  · rw [hconf] at hmem
    exact verdict_record (verdict_markUnconfirmed hmem hverdict) hverdict
  · refine .inr ⟨fun hkey => ?_, mem_of_eq_or_none hkept.presets hpending⟩
    rw [(hgroup hkey rfl).2.1] at hpending
    cases hpending
  · refine .inr ⟨fun hkey => ?_, mem_of_eq_or_none hkept.intensive hpending⟩
    rw [(hgroup hkey rfl).2.2] at hpending
    cases hpending
  · refine .inr ⟨fun hkey => ?_, mem_of_eq_or_none hkept.levels hpending⟩
    rw [(hgroup hkey rfl).1] at hpending
    cases hpending

theorem Writes.finishWrite (s : RoomCoordinator) (hplanned : write.Planned)
    (outcome : WriteOutcome) : s.Writes write.writeKey (s.finishWrite write outcome) := by
  unfold RoomCoordinator.finishWrite
  split
  · exact .accept s hplanned
  · exact .fail s write _
  · exact .cancel s write

/-- What a command does before it writes does not count. -/
theorem Writes.of_quiet (hquiet : s.Quiet u) (h : u.Writes key t) : s.Writes key t where
  opened other confirmation hopen := by
    rcases h.opened other confirmation hopen with ⟨rfl, hbaseline⟩ | ⟨hne, before, hbefore, hsame⟩
    · exact .inl ⟨rfl, hbaseline.trans (hquiet.groupHealth _)⟩
    · exact .inr ⟨hne, before, hquiet.confirmations ▸ hbefore, hsame⟩
  verdicts other confirmation hmem hverdict :=
    hquiet.confirmations ▸ h.verdicts other confirmation hmem hverdict
  presets pending hpending :=
    (h.presets pending hpending).imp (fun hset => ⟨hset.1, hquiet.state ▸ hset.2⟩)
      fun hkept => ⟨hkept.1, hquiet.narrows.presets pending hkept.2⟩
  intensive pending hpending :=
    (h.intensive pending hpending).imp (fun hset => ⟨hset.1, hquiet.state ▸ hset.2⟩)
      fun hkept => ⟨hkept.1, hquiet.narrows.intensive pending hkept.2⟩
  levels pending hpending :=
    (h.levels pending hpending).imp (fun hset => ⟨hset.1, hquiet.state ▸ hset.2⟩)
      fun hkept => ⟨hkept.1, hquiet.narrows.levels pending hkept.2⟩

/-- **A step with a write** opens and sets what that writes, and nothing is read. -/
theorem writes_of_step {outcome : WriteOutcome} (hstep : s.step label = some t)
    (hwrite : s.writeOf label = some (write, outcome)) :
    s.Writes write.writeKey t ∧ t.data = s.data ∧ t.startup = s.startup := by
  rcases step_cases hstep with ⟨command, sent, finished, u, planned, rfl, hle, hprepare, hsome,
    rfl⟩ | ⟨hnone, -⟩
  · rw [hwrite] at hsome
    obtain ⟨rfl, -⟩ := Prod.mk.inj (Option.some.inj hsome)
    have hsound := s.sound_prepare command
    rw [hprepare] at hsound
    have hquiet := hsound.1.atClock hle
    obtain ⟨-, hdata, hstartup⟩ := finishWrite_frame (u.atClock finished) write sent
    exact ⟨(Writes.finishWrite _ hsound.2 sent).of_quiet hquiet, hdata.trans hquiet.data,
      hstartup.trans hquiet.startup⟩
  · rw [hwrite] at hnone
    cases hnone

end RoomCoordinator

/-! ### Verdicts -/

section Verdicts

variable {s t : RoomCoordinator} {label : Label} {key : WriteKey} {state : RoomState}
  {T C : Type} {pending : PendingValue T}

/-- A verdict that a pass gives is that of `checkedConfirmation`. -/
theorem checked_of_verdict {wall : WallTime} {before : WriteConfirmation}
    (hchanged : (WriteConfirmations.confirmOne wall state key before).1 ≠ before)
    (hverdict : (WriteConfirmations.confirmOne wall state key before).1.status = .confirmed ∨
      (WriteConfirmations.confirmOne wall state key before).1.status = .mismatch) :
    ∃ checked, checkedConfirmation state key before = some checked := by
  rw [← Option.ne_none_iff_exists']
  intro hnone
  have hpending : before.status = .pending := by
    by_contra hnot
    exact hchanged (by simp [WriteConfirmations.confirmOne, hnone, hnot])
  rw [confirmOne_status, hnone, Option.getD_none, hpending] at hverdict
  rcases hverdict with h | h <;> cases h

/-- **Where a verdict comes from**: it was given before, or a step judges the write by the state
that it leaves. -/
theorem source_of_verdict (hstep : s.step label = some t) (hwrite : s.writeOf label = none)
    {after : WriteConfirmation} (hafter : after ∈ t.confirmations.byKey key)
    (hverdict : after.status = .confirmed ∨ after.status = .mismatch) :
    after ∈ s.confirmations.byKey key ∨ (s.Source label t.state t.clock ∧
      ∃ wall, ∃ before ∈ s.confirmations.byKey key,
        (WriteConfirmations.confirmOne wall t.state key before).1 = after) := by
  have hjudge : ∀ {judged u}, s.Judged label judged u → after ∈ u.confirmations.byKey key →
      ∃ wall, ∃ before ∈ s.confirmations.byKey key,
        (WriteConfirmations.confirmOne wall judged key before).1 = after := by
    intro judged u hjudged hmem
    rw [hjudged.byKey] at hmem
    obtain ⟨before, hbefore, hsame⟩ := Option.map_eq_some_iff.mp hmem
    exact ⟨_, before, hbefore, hsame⟩
  rcases step_cases hstep with ⟨_, _, _, _, _, -, -, -, hsome, -⟩ |
    ⟨-, ⟨-, hquiet⟩ | ⟨judged, hjudged⟩ | ⟨judged, u, write, hjudged, -, rfl⟩ | honly⟩
  · rw [hwrite] at hsome
    cases hsome
  · exact .inl (hquiet.confirmations ▸ hafter)
  · rw [hjudged.state_eq]
    exact .inr ⟨hjudged.source, hjudge hjudged hafter⟩
  · obtain ⟨-, hclock, hdata, -, hconf, -⟩ := finishReadBack_frame u write
    have hstate : (u.finishReadBack write).state = judged := by
      rw [RoomCoordinator.state, hdata, ← RoomCoordinator.state, hjudged.state_eq]
    rw [hconf] at hafter
    rw [hstate, hclock]
    exact .inr ⟨hjudged.source, hjudge hjudged (verdict_markUnconfirmed hafter hverdict)⟩
  · exact .inl (honly.byKey ▸ hafter)

/-- A pending value that a pass drops was read since, and a reported value confirms it. -/
theorem confirms_of_dropped {overlay : OverlayKind T C} {clock : Clock} {confirmed : Option C}
    (h : overlay.settleIfRead clock (some pending) state confirmed = none) :
    ∃ reported, confirmed = some reported ∧
      OverlayKind.readSinceSet clock (some state) (some pending) = true ∧
      overlay.confirms reported pending.value = true := by
  rcases OverlayKind.settleIfRead_cases overlay clock (some pending) state confirmed with hkept |
    ⟨-, value, reported, hvalue, hreported, hread, hconfirms⟩
  · rw [h] at hkept
    cases hkept
  · cases hvalue
    exact ⟨reported, hreported, hread, hconfirms⟩

end Verdicts

end MeltemVentilation
