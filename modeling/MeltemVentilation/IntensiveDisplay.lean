import MeltemVentilation.CoordinatorSteps
import MeltemVentilation.Lib.Transition

/-!
# The pending intensive display and the shadow registers

Five kinds of commands write the shadow registers of the intensive override: activation,
deactivation, switching the unit off by a level or by its mode, and every quick mode. While
the intensive overlay of the coordinator is shown, it should show what the last accepted of
them asked for.

It does not always: `async_set_preset_mode` clears the shadow registers but, unlike the two
commands that switch the unit off, leaves the intensive overlay alone. An activation whose
readback was missed stays on display over an accepted quick mode that has ended it
(`intensiveDisplay_refuted`). With no quick mode accepted over a pending intensive value of
the opposite kind, the display is right in every run (`intensiveDisplay_of_reach`); here the
record of the run is what the last accepted command asked for, taken from the encoder
(`ModeCommand.requestsIntensive`).
-/

namespace MeltemVentilation

open RoomCoordinator Transition

/-- What an accepted write asks of the intensive override. -/
def PreparedWrite.requestsIntensive (write : PreparedWrite) : Option Bool :=
  match write.call with
  | .mode command => command.requestsIntensive
  | .controlSetting _ _ => none

/-- The record of a run: what the last accepted command that wrote the shadow registers asked
for. -/
def recordRequest (s : RoomCoordinator) (label : Label) (last : Option Bool) : Option Bool :=
  match s.writeOf label with
  | some (write, .accepted) => write.requestsIntensive.or last
  | _ => last

/-- The coordinator with the last request on record. -/
abbrev RequestStep := recorded RoomCoordinator.step recordRequest

/-- A run starts before the first poll and the first command. -/
def RequestStart (s : RoomCoordinator × Option Bool) : Prop := s.1.Started ∧ s.2 = none

/-- The displayed intensive override is the one that was requested last. -/
def IntensiveDisplayed (s : RoomCoordinator × Option Bool) : Prop :=
  ∀ active, s.1.optimisticIntensiveValue = some active → s.2 = some active

/-- No quick mode is accepted while a pending intensive value of the opposite kind is
shown. -/
def NoPresetOverIntensive (s : RoomCoordinator × Option Bool) : Label → Prop
  | .command (.setPresetMode preset) .accepted finished =>
    ∀ requested ∈ (ModeCommand.writePresetMode preset).requestsIntensive,
      ∀ shown ∈ intensiveOverlay.get finished s.1.optimisticIntensive none, shown = requested
  | _ => True

instance (s : RoomCoordinator × Option Bool) : DecidablePred (NoPresetOverIntensive s)
  | .command (.setPresetMode preset) .accepted finished =>
    inferInstanceAs (Decidable (∀ requested ∈
      (ModeCommand.writePresetMode preset).requestsIntensive, ∀ shown ∈
        intensiveOverlay.get finished s.1.optimisticIntensive none, shown = requested))
  | .command (.setPresetMode _) (.failed _) _ | .command (.setPresetMode _) .cancelled _
  | .command (.setLevel _) _ _ | .command (.setUnbalancedLevels _ _) _ _
  | .command (.setDirectionLevel _ _) _ _ | .command (.setOperationMode _) _ _
  | .command .clearPresetMode _ _ | .command .activateIntensive _ _
  | .command .deactivateIntensive _ _ | .command (.setControlSetting _ _) _ _
  | .elapse _ | .expire _ | .queryLevels | .readBack _ _ _ | .cancelReadBack
  | .poll _ _ _ _ | .otherPoll _ _ | .otherReadBack _ => isTrue trivial

/-! ### The invariant -/

/-- A pending intensive value whose window has not ended is the one requested last. -/
def IntensivePending (s : RoomCoordinator × Option Bool) : Prop :=
  ∀ pending ∈ s.1.optimisticIntensive, s.1.clock.monotonic < pending.expiresAt →
    s.2 = some pending.value

theorem IntensivePending.displayed {s : RoomCoordinator × Option Bool}
    (h : IntensivePending s) : IntensiveDisplayed s := by
  intro active hactive
  obtain ⟨pending, hpending, rfl, hopen⟩ := OverlayKind.active_eq_some hactive
  exact h pending hpending hopen

/-- The invariant only looks at the overlay, the clock and the record. -/
theorem IntensivePending.mono {s t : RoomCoordinator} {last : Option Bool}
    (h : IntensivePending (s, last)) (hclock : s.clock.monotonic ≤ t.clock.monotonic)
    (hsub : ∀ pending ∈ t.optimisticIntensive, pending ∈ s.optimisticIntensive) :
    IntensivePending (t, last) :=
  fun pending hpending hopen => h pending (hsub pending hpending) (hclock.trans_lt hopen)

/-- A write that asks nothing of intensive, or asks for what is pending, keeps the
invariant. -/
theorem IntensivePending.request {s : RoomCoordinator} {last request : Option Bool}
    (h : IntensivePending (s, last))
    (hrequest : ∀ requested ∈ request, ∀ pending ∈ s.optimisticIntensive,
      s.clock.monotonic < pending.expiresAt → pending.value = requested) :
    IntensivePending (s, request.or last) := by
  intro pending hpending hopen
  cases request with
  | none => exact h pending hpending hopen
  | some requested => rw [Option.some_or, hrequest requested rfl pending hpending hopen]

theorem mem_of_settleIfRead {clock : Clock} {pending : Option (PendingValue Bool)}
    {state : RoomState} {confirmed : Option Bool} {value : PendingValue Bool}
    (h : value ∈ intensiveOverlay.settleIfRead clock pending state confirmed) :
    value ∈ pending :=
  (OverlayKind.settleIfRead_eq_some.mp h).1

theorem mem_of_eq_or_none {T : Type} {pending later : Option T}
    (h : later = pending ∨ later = none) {value : T} (hmem : value ∈ later) :
    value ∈ pending := by
  rcases h with rfl | rfl
  · exact hmem
  · cases hmem

/-! ### The commands and the overlay -/

section Prepare

variable {s u : RoomCoordinator} {command : Command} {write : PreparedWrite} {requested : Bool}

/-- Switching the unit off by a level drops the intensive overlay. -/
theorem optimisticIntensive_prepareSetLevel {level : ℤ}
    (h : (s.prepareSetLevel level).2.requestsIntensive = some requested) :
    (s.prepareSetLevel level).1.optimisticIntensive = none := by
  by_cases hlevel : level = 0
  · simp [prepareSetLevel, hlevel, clearOverlay]
  · simp [prepareSetLevel, PreparedWrite.requestsIntensive, ModeCommand.requestsIntensive,
      hlevel] at h

/-- Switching the unit off by its mode drops the intensive overlay. -/
theorem optimisticIntensive_leaveOverlays {mode : OperationMode} {levels : LevelPair}
    (h : (operationModeWrite mode levels).requestsIntensive = some requested) :
    (s.leaveOverlays mode).optimisticIntensive = none := by
  cases mode <;>
    simp_all [operationModeWrite, PreparedWrite.requestsIntensive,
      ModeCommand.requestsIntensive, leaveOverlays, clearOverlay]

theorem optimisticIntensive_prepareSetOperationMode {mode : OperationMode}
    (h : s.prepareSetOperationMode mode = .send u write)
    (hrequest : write.requestsIntensive = some requested) : u.optimisticIntensive = none := by
  obtain ⟨error, he⟩ | he | ⟨sent, -, -, -, he⟩ := s.prepareSetOperationMode_cases mode
  all_goals
    rw [he] at h
    cases h
  exact optimisticIntensive_leaveOverlays hrequest

/-- **The commands that write the shadow registers**: the overlay is dropped before the write
is sent, or the write sets it to what is requested, or the command is a quick mode. -/
theorem optimisticIntensive_of_prepare (h : s.prepare command = .send u write)
    (hrequest : write.requestsIntensive = some requested) :
    u.optimisticIntensive = none ∨
      (write.writeKey = .intensive ∧ write.expectedValue = .intensive requested) ∨
      ∃ preset, command = .setPresetMode preset ∧
        (ModeCommand.writePresetMode preset).requestsIntensive = some requested ∧
        u.optimisticIntensive = s.optimisticIntensive := by
  -- A command clears the pending value or sets the one it asks for; only a preset does neither.
  cases command with
  | setLevel level =>
    cases h
    exact .inl (optimisticIntensive_prepareSetLevel hrequest)
  | setUnbalancedLevels supply extract =>
    cases h
    simp [PreparedWrite.requestsIntensive, prepareSetUnbalancedLevels,
      ModeCommand.requestsIntensive] at hrequest
  | setDirectionLevel direction level =>
    refine .inl ?_
    simp only [prepare, prepareSetDirectionLevel] at h
    split at h
    · cases h
    · split at h
      · cases h
      · cases h
        simp [PreparedWrite.requestsIntensive, prepareSetUnbalancedLevels,
          ModeCommand.requestsIntensive] at hrequest
      · cases h
        exact optimisticIntensive_prepareSetLevel hrequest
  | setOperationMode mode => exact .inl (optimisticIntensive_prepareSetOperationMode h hrequest)
  | setPresetMode preset =>
    cases h
    exact .inr (.inr ⟨preset, rfl, hrequest, rfl⟩)
  | clearPresetMode =>
    refine .inl ?_
    rcases s.prepareClearPresetMode_cases with he | ⟨preset, -, ⟨error, t, hmode, he⟩ |
      ⟨t, hmode, he⟩ | ⟨t, inner, hmode, he⟩⟩
    all_goals
      rw [prepare, he] at h
      cases h
    exact optimisticIntensive_prepareSetOperationMode hmode hrequest
  | activateIntensive =>
    cases h
    cases hrequest
    exact .inr (.inl ⟨rfl, rfl⟩)
  | deactivateIntensive =>
    cases h
    cases hrequest
    exact .inr (.inl ⟨rfl, rfl⟩)
  | setControlSetting key value =>
    simp only [prepare] at h
    split at h
    · cases h
    · cases h
      cases hrequest

end Prepare

/-- A write of the intensive overlay requests what it sets. -/
theorem PreparedWrite.Planned.intensive {write : PreparedWrite} (h : write.Planned)
    (hkey : write.writeKey = .intensive) : ∃ active,
      write.expectedValue = .intensive active ∧ write.requestsIntensive = some active := by
  cases h <;> cases hkey
  · exact ⟨true, rfl, rfl⟩
  · exact ⟨false, rfl, rfl⟩

/-! ### The steps keep the invariant -/

section Steps

variable {s t u : RoomCoordinator} {last : Option Bool} {label : Label} {command : Command}
  {finished : Clock} {write : PreparedWrite}

/-- An accepted write keeps the invariant, for what it requests. -/
theorem IntensivePending.accept (h : IntensivePending (s, last))
    (hprepare : s.prepare command = .send u write) (hle : s.clock.le finished = true)
    (hok : NoPresetOverIntensive (s, last) (.command command .accepted finished)) :
    IntensivePending (((u.atClock finished).accept write), write.requestsIntensive.or last) := by
  obtain ⟨hquiet, hplanned⟩ : s.Quiet u ∧ write.Planned := by
    have hsound := s.sound_prepare command
    rwa [hprepare] at hsound
  have hclock : s.clock.monotonic ≤ finished.monotonic := of_decide_eq_true hle
  obtain ⟨-, haccept, -, -, -, -, -, hintensive⟩ := accept_frame (u.atClock finished) write
  -- A write under the key itself sets the pending value to what it requests.
  by_cases hkey : write.writeKey = .intensive
  · obtain ⟨active, hexpected, hrequest⟩ := hplanned.intensive hkey
    rw [hkey, hexpected] at hintensive
    rw [hrequest]
    rintro pending hpending -
    rw [hintensive] at hpending
    cases hpending
    rfl
  · have hsame : ((u.atClock finished).accept write).optimisticIntensive =
        u.optimisticIntensive := by
      rw [hintensive]
      split
      · exact absurd ‹_› hkey
      · rfl
    have hu : IntensivePending ((u.atClock finished).accept write, last) :=
      h.mono (by rw [haccept]; exact hclock) fun pending hpending =>
        mem_of_eq_or_none hquiet.intensive (hsame ▸ hpending)
    refine hu.request fun requested hrequested pending hpending hopen => ?_
    rw [hsame] at hpending
    rw [haccept] at hopen
    rcases optimisticIntensive_of_prepare hprepare hrequested with hnone | ⟨hk, -⟩ |
      ⟨preset, rfl, hpreset, hkept⟩
    · rw [hnone] at hpending
      cases hpending
    · exact absurd hk hkey
    · -- A preset that requests intensive leaves the pending value, which the condition rules out.
      refine hok requested hpreset pending.value ?_
      rw [hkept] at hpending
      simp only [OverlayKind.get, Option.mem_def.mp hpending]
      rw [atClock_clock] at hopen
      simpa using hopen

/-- **Every step keeps the invariant**, as long as no quick mode is accepted over a pending
intensive value of the opposite kind. -/
theorem IntensivePending.step (h : IntensivePending (s, last))
    (hok : NoPresetOverIntensive (s, last) label) (hstep : s.step label = some t) :
    IntensivePending (t, recordRequest s label last) := by
  rcases s.step_cases hstep with ⟨command, outcome, finished, u, write, rfl, hle, hprepare,
    hwrite, rfl⟩ | ⟨hwrite, hcases⟩
  · have hquiet : s.Quiet u := by
      have hsound := s.sound_prepare command
      rw [hprepare] at hsound
      exact hsound.1
    have hclock : s.clock.monotonic ≤ finished.monotonic := of_decide_eq_true hle
    have hu : IntensivePending (u.atClock finished, last) :=
      h.mono hclock fun _ => mem_of_eq_or_none hquiet.intensive
    have hrecord : ∀ o, write.outcome s.room outcome = o →
        recordRequest s (.command command outcome finished) last =
          if o = .accepted then write.requestsIntensive.or last else last := by
      rintro o rfl
      simp only [recordRequest, hwrite]
      cases write.outcome s.room outcome <;> rfl
    have hroom : (u.atClock finished).room = s.room := hquiet.room
    unfold finishWrite
    rw [hroom]
    -- Only an accepted write is recorded; after the others at most the old value is pending.
    cases houtcome : write.outcome s.room outcome with
    | accepted =>
      rw [hrecord _ houtcome]
      refine h.accept hprepare hle ?_
      have hsent : outcome = .accepted := by
        unfold PreparedWrite.outcome at houtcome
        split at houtcome
        · cases houtcome
        · exact houtcome
      rwa [hsent] at hok
    | failed error =>
      rw [hrecord _ houtcome]
      obtain ⟨-, hfinished, -, -, -, -, -, hintensive⟩ :=
        fail_frame (u.atClock finished) write error
      refine hu.mono (le_of_eq (congrArg _ hfinished.symm)) fun pending hpending => ?_
      rw [hintensive] at hpending
      split at hpending
      · cases hpending
      · exact hpending
    | cancelled =>
      rw [hrecord _ houtcome]
      obtain ⟨-, hfinished, -, -, -, hkept, -⟩ := cancel_frame (u.atClock finished) write
      exact hu.mono (le_of_eq (congrArg _ hfinished.symm)) fun _ =>
        mem_of_eq_or_none hkept.intensive
  · have hlast : recordRequest s label last = last := by simp [recordRequest, hwrite]
    rw [hlast]
    rcases hcases with ⟨-, hquiet⟩ | ⟨state, hjudged⟩ | ⟨state, u, write, hjudged, -, rfl⟩ |
      hstartup
    · exact h.mono hquiet.clock fun _ => mem_of_eq_or_none hquiet.intensive
    · refine h.mono hjudged.clock fun pending hpending => ?_
      rw [hjudged.intensive] at hpending
      exact mem_of_settleIfRead hpending
    · obtain ⟨-, hclock, -, -, -, hkept⟩ := finishReadBack_frame u write
      refine h.mono (hjudged.clock.trans (le_of_eq (congrArg _ hclock.symm)))
        fun pending hpending => ?_
      have hmem := mem_of_eq_or_none hkept.intensive hpending
      rw [hjudged.intensive] at hmem
      exact mem_of_settleIfRead hmem
    · exact h.mono hstartup.clock fun pending hpending => by rwa [hstartup.intensive] at hpending

end Steps

/-! ### Runs -/

/-- **The pending intensive display is that of the last accepted request**, in every run in
which no quick mode is accepted while a pending intensive value of the opposite kind is
shown. -/
theorem intensiveDisplay_of_reach {s : RoomCoordinator × Option Bool}
    (h : Reach RequestStep NoPresetOverIntensive RequestStart s) : IntensiveDisplayed s := by
  refine IntensivePending.displayed (h.invariant ?_ ?_)
  · rintro ⟨_, _⟩ ⟨⟨room, clock, rfl⟩, rfl⟩ pending hpending
    cases hpending
  · intro s label t hinv hok hstep
    obtain ⟨hs, hrecord⟩ := recorded_eq_some.mp hstep
    have hnext : IntensivePending (t.1, recordRequest s.1 label s.2) :=
      IntensivePending.step hinv hok hs
    rwa [← hrecord] at hnext

/-! ### The failing run -/

/-- Every command of the run is accepted. -/
def Label.accepts : Label → Bool
  | .command _ outcome _ => outcome = .accepted
  | _ => true

/-- A moment after the start of a run, in seconds of both clocks. -/
def atSecond (n : ℕ) : Clock := ⟨seconds n, wallSeconds n⟩

/-- A successful airflow read of a unit in manual mode at 40 m³/h. -/
def manualRead : AirflowRead :=
  .blocks (.values ⟨40, 40⟩) (.values ⟨modeManual, 82, 82⟩)

/-- A successful airflow read of a unit that runs intensive. -/
def intensiveRead : AirflowRead :=
  .blocks (.values ⟨80, 80⟩)
    (.values ⟨modeManual, presetModeCodeIntensive, presetModeCodeIntensive⟩)

/-- The unit of a test run, before the first poll. -/
def sampleStart : RoomCoordinator := { room := sampleRoom, clock := atSecond 0 }

theorem sampleStart_started : sampleStart.Started := ⟨sampleRoom, atSecond 0, rfl⟩

/-- Intensive is activated and read back, then a quick mode is accepted, and after that intensive
is activated once more. -/
def presetAfterIntensive : List Label :=
  [.poll (.airflow manualRead .failed) ⟨false, false⟩ (atSecond 1) (atSecond 1),
    .command .activateIntensive .accepted (atSecond 2),
    .readBack (.airflow intensiveRead .failed) (atSecond 5) (atSecond 5),
    .command (.setPresetMode .low) .accepted (atSecond 6),
    .cancelReadBack,
    .command .activateIntensive .accepted (atSecond 7)]

theorem intensiveDisplay_of_reach_settled :
    ∃ s, run RequestStep presetAfterIntensive (sampleStart, none) = some s ∧
      s.2 = some true ∧ s.1.optimisticIntensiveValue = some true ∧ IntensiveDisplayed s := by
  have hstart : Reach RequestStep NoPresetOverIntensive RequestStart (sampleStart, none) :=
    .start ⟨sampleStart_started, rfl⟩
  obtain ⟨s, hrun, hreach, hs⟩ := hstart.exists_of_run presetAfterIntensive
    (fun s => s.2 = some true ∧ s.1.optimisticIntensiveValue = some true)
    (by decide +kernel) (by decide +kernel)
  obtain ⟨hlast, hshown⟩ := of_decide_eq_true hs
  exact ⟨s, hrun, hlast, hshown, intensiveDisplay_of_reach hreach⟩

/-- Intensive is activated, its readback is lost, and a quick mode is accepted. -/
def presetOverIntensive : List Label :=
  [.poll (.airflow manualRead .failed) ⟨false, false⟩ (atSecond 1) (atSecond 1),
    .command .activateIntensive .accepted (atSecond 2),
    .readBack (.airflow (.raised "Request timed out") .failed) (atSecond 5) (atSecond 5),
    .command (.setPresetMode .low) .accepted (atSecond 6)]

/-- **The pending intensive display contradicts a later accepted command**: in this run of
accepted commands it still shows intensive after the quick mode that has ended it. -/
theorem intensiveDisplay_refuted :
    ∃ s, run RequestStep presetOverIntensive (sampleStart, none) = some s ∧
      Reach RequestStep (fun _ label => label.accepts = true) RequestStart s ∧
      ¬ IntensiveDisplayed s := by
  have hstart : Reach RequestStep (fun _ label => label.accepts = true) RequestStart
      (sampleStart, none) := .start ⟨sampleStart_started, rfl⟩
  obtain ⟨s, hrun, hreach, hs⟩ := hstart.exists_of_run presetOverIntensive
    (fun s => s.1.optimisticIntensiveValue = some true ∧ s.2 = some false)
    (by decide +kernel) (by decide +kernel)
  refine ⟨s, hrun, hreach, fun h => ?_⟩
  obtain ⟨hactive, hlast⟩ := of_decide_eq_true hs
  rw [h true hactive] at hlast
  cases hlast

end MeltemVentilation
