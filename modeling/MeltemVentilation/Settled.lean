import MeltemVentilation.CoordinatorSteps
import MeltemVentilation.Lib.Transition

/-!
# A unit between its own reads

The confirmation pass after every job looks at all units, although only one of them was read.
For the others it should find nothing to do: whatever a state can settle was settled when
that state was read. That is the invariant `RoomCoordinator.Settled`, and its consequence is
`RoomCoordinator.unchanged_confirmPendingWrites`: a pass over a state that is already known
changes nothing that an entity of the unit can see, then or later.

It is not quite true that such a pass changes nothing at all. Two of its verdicts depend on
the time. A write that stays pending is counted as an issue once it has timed out, which
no entity shows. And when the status map of a unit goes stale while its measured airflow is
fresh, the reported levels switch from the targets to the measurements
(`reportedPair_earlier`), so that a later pass may drop pending levels that the unit's own
read could not. The display does not change by that: the pending levels were hidden from the
moment the map went stale, and they stay hidden until their window ends, since the airflow
read that hides them is younger than they are (`AirflowSince`).

What an entity can see at a time is compared by `RoomCoordinator.Unchanged`.
-/

namespace MeltemVentilation

open Transition
open ReadHealth (ReadFrom)

/-! ### Stamped health -/

theorem ReadHealth.stamped_empty : emptyReadHealth.Stamped := .inl rfl

/-- Whatever a read does to the health, it stays stamped. -/
theorem ReadHealth.ReadFrom.stamped {since : Monotonic} {health later : ReadHealth}
    (h : ReadFrom since health later) (hstamped : health.Stamped) : later.Stamped := by
  rcases h with rfl | rfl | herror | ⟨read, -, rfl⟩
  · exact hstamped
  · exact stamped_empty
  · exact .inr (.inl herror)
  · exact .inr (.inr (Option.some_ne_none _))

/-! ### The measured airflow behind pending levels -/

/-- The measured airflow of a state, seen from pending levels: there is none, or the airflow
group is as it was when the levels were set, or it was read since. -/
def AirflowSince (clock : Clock) (state : RoomState) (pending : PendingValue (ℤ × ℤ)) : Prop :=
  ∃ since flow flowControl, pending.baseline = [(.flow, flow), (.flowControl, flowControl)] ∧
    since ≤ clock.monotonic ∧ pending.expiresAt = since + seconds targetOptimisticSeconds ∧
    ((state.supplyAirFlow = none ∧ state.extractAirFlow = none) ∨
      ReadFrom since flow (state.groupReadHealth .flow))

theorem AirflowSince.mono {clock later : Clock} {state : RoomState}
    {pending : PendingValue (ℤ × ℤ)} (h : AirflowSince clock state pending)
    (hle : clock.monotonic ≤ later.monotonic) : AirflowSince later state pending := by
  obtain ⟨since, flow, flowControl, hbaseline, hsince, hexpires, hread⟩ := h
  exact ⟨since, flow, flowControl, hbaseline, hsince.trans hle, hexpires, hread⟩

/-- The decoder of the status map leaves the measured airflow alone. -/
theorem applyModeRead_airflow (room : RoomConfig) (state : RoomState) (block : Option ModeRead) :
    (applyModeRead room state block).supplyAirFlow = state.supplyAirFlow ∧
      (applyModeRead room state block).extractAirFlow = state.extractAirFlow := by
  unfold applyModeRead
  dsimp only
  generalize (block.map decodeSensorSubcode).any modeStatusReportsIntensive = hidden
  cases hidden <;> exact ⟨rfl, rfl⟩

/-- A reply leaves the measured airflow as it was, or it has read it. -/
theorem PlanReply.airflow_cases (room : RoomConfig) (clock : Clock) (previous : RoomState)
    (reply : PlanReply) :
    ((reply.state room clock previous).supplyAirFlow = previous.supplyAirFlow ∧
        (reply.state room clock previous).extractAirFlow = previous.extractAirFlow) ∨
      (reply.state room clock previous).groupReadHealth .flow = .succeeded clock := by
  cases reply with
  | airflow read target =>
    cases read with
    | quarantined => exact .inl ⟨rfl, rfl⟩
    | raised error => exact .inl ⟨rfl, rfl⟩
    | blocks flow mode =>
      cases flow with
      | values read => exact .inr rfl
      | failed error timedOut => exact .inl (applyModeRead_airflow room previous mode.read?)
      | skipped => exact .inl (applyModeRead_airflow room previous mode.read?)
  | settings read =>
    refine .inl ?_
    cases read with
    | quarantined => exact ⟨rfl, rfl⟩
    | raised error => exact ⟨rfl, rfl⟩
    | block settings =>
      simp only [PlanReply.state, SettingsRead.apply]
      split
      · cases settings <;> exact ⟨rfl, rfl⟩
      · exact ⟨rfl, rfl⟩

theorem airflow_of_hasData {state : RoomState} (h : state.hasData = false) :
    state.supplyAirFlow = none ∧ state.extractAirFlow = none := by
  have hnone := RoomState.noValues h
  exact ⟨hnone.supplyAirFlow, hnone.extractAirFlow⟩

namespace RoomCoordinator

variable {s t u : RoomCoordinator} {label : Label} {write : PreparedWrite}
  {finished clock later : Clock} {state : RoomState}

/-! ### The invariant -/

/-- **Whatever the state of a unit settles is settled.** -/
structure Settled (s : RoomCoordinator) : Prop where
  stamped : ∀ group, (s.groupHealth group).Stamped
  startup : ∀ state ∈ s.startup, state.hasData = false
  statuses : ∀ state ∈ s.data, ∀ key, ∀ confirmation ∈ s.confirmations.byKey key,
    checkedConfirmation state key confirmation = none
  presets : ∀ state ∈ s.data, presetOverlay.settleIfRead s.clock s.optimisticPresets state
    state.presetMode = s.optimisticPresets
  intensive : ∀ state ∈ s.data, intensiveOverlay.settleIfRead s.clock s.optimisticIntensive state
    state.intensiveActive = s.optimisticIntensive
  /-- The levels were not settled when the state was read; the status map may have gone
  stale since. -/
  levels : ∀ state ∈ s.data, ∃ clock : Clock, clock.monotonic ≤ s.clock.monotonic ∧
    levelsOverlay.settleIfRead clock s.optimisticLevels state (reportedLevels clock state).1 =
      s.optimisticLevels
  airflow : ∀ state, s.Previous state → ∀ pending ∈ s.optimisticLevels,
    AirflowSince s.clock state pending

theorem Settled.stamped_data (h : Settled s) (hdata : s.data = some state) (group : ReadGroup) :
    (state.groupReadHealth group).Stamped := by
  have hstamped := h.stamped group
  rwa [groupHealth, hdata] at hstamped

theorem settled_of_started (h : s.Started) : Settled s := by
  obtain ⟨room, clock, rfl⟩ := h
  refine ⟨fun group => ReadHealth.stamped_empty, ?_, ?_, ?_, ?_, ?_, ?_⟩
  · rintro state ⟨⟩
  · rintro state ⟨⟩
  · rintro state ⟨⟩
  · rintro state ⟨⟩
  · rintro state ⟨⟩
  · rintro state - pending ⟨⟩

/-! ### The steps keep the invariant -/

/-- An overlay after a step that judges nothing: as before, dropped, or just set. -/
def KeptOrSet {T C : Type} (overlay : OverlayKind T C) (clock : Clock) (data : Option RoomState)
    (before after : Option (PendingValue T)) : Prop :=
  after = before ∨ after = none ∨ ∃ value, after = overlay.set clock data value

/-- Such an overlay is not settled by a state that did not settle the one before. -/
theorem settleIfRead_of_keptOrSet {T C : Type} {overlay : OverlayKind T C}
    {before after : Option (PendingValue T)} {confirmed : Option C}
    (h : KeptOrSet overlay clock (some state) before after)
    (hbefore : overlay.settleIfRead later before state confirmed = before) :
    overlay.settleIfRead later after state confirmed = after := by
  rcases h with rfl | rfl | ⟨value, rfl⟩
  · exact hbefore
  · exact OverlayKind.settleIfRead_none
  · exact OverlayKind.settleIfRead_set

/-- **A step that reads nothing**: time passes, writes are recorded, and pending values are
dropped or set. -/
theorem Settled.keep (h : Settled s) (hclock : s.clock.monotonic ≤ t.clock.monotonic)
    (hdata : t.data = s.data) (hstartup : t.startup = s.startup)
    (hstatuses : ∀ state ∈ s.data, ∀ key, ∀ confirmation ∈ t.confirmations.byKey key,
      checkedConfirmation state key confirmation = none)
    (hpresets : KeptOrSet presetOverlay t.clock t.data s.optimisticPresets t.optimisticPresets)
    (hintensive : KeptOrSet intensiveOverlay t.clock t.data s.optimisticIntensive
      t.optimisticIntensive)
    (hlevels : KeptOrSet levelsOverlay t.clock t.data s.optimisticLevels t.optimisticLevels) :
    Settled t where
  stamped group := by
    have hstamped := h.stamped group
    rwa [groupHealth, hdata, hstartup]
  startup := by
    rw [hstartup]
    exact h.startup
  statuses := by
    rw [hdata]
    exact hstatuses
  presets state hstate := by
    rw [Option.mem_def.mp hstate] at hpresets
    rw [hdata] at hstate
    exact settleIfRead_of_keptOrSet hpresets
      (OverlayKind.settleIfRead_later (h.stamped_data hstate) hclock (h.presets state hstate))
  intensive state hstate := by
    rw [Option.mem_def.mp hstate] at hintensive
    rw [hdata] at hstate
    exact settleIfRead_of_keptOrSet hintensive
      (OverlayKind.settleIfRead_later (h.stamped_data hstate) hclock (h.intensive state hstate))
  levels state hstate := by
    rw [Option.mem_def.mp hstate] at hlevels
    rw [hdata] at hstate
    obtain ⟨clock, hle, hbefore⟩ := h.levels state hstate
    exact ⟨clock, hle.trans hclock, settleIfRead_of_keptOrSet hlevels hbefore⟩
  airflow state hstate pending hpending := by
    have hprevious : s.Previous state := by
      rwa [Previous, RoomCoordinator.state, hdata, hstartup] at hstate
    rcases hlevels with hsame | hnone | ⟨value, hset⟩
    · rw [hsame] at hpending
      exact (h.airflow state hprevious pending hpending).mono hclock
    · rw [hnone] at hpending
      cases hpending
    · -- A pair set just now carries the present health, which is what the state shows.
      rw [hset] at hpending
      cases hpending
      refine ⟨t.clock.monotonic, _, _, rfl, le_refl _, rfl, ?_⟩
      rw [hdata]
      rcases hprevious with rfl | ⟨hnodata, hstate⟩
      · exact .inr .refl
      · exact .inl (airflow_of_hasData (h.startup state hstate))

theorem keptOrSet_of_or {T C : Type} {overlay : OverlayKind T C} {data : Option RoomState}
    {before after : Option (PendingValue T)} (h : after = before ∨ after = none) :
    KeptOrSet overlay clock data before after :=
  h.imp_right .inl

/-- Overlays that are only kept or dropped. -/
theorem Settled.keep_overlays (h : Settled s) (hclock : s.clock.monotonic ≤ t.clock.monotonic)
    (hdata : t.data = s.data) (hstartup : t.startup = s.startup)
    (hstatuses : ∀ state ∈ s.data, ∀ key, ∀ confirmation ∈ t.confirmations.byKey key,
      checkedConfirmation state key confirmation = none)
    (hkept : s.OverlaysKept t) : Settled t :=
  h.keep hclock hdata hstartup hstatuses (keptOrSet_of_or hkept.presets)
    (keptOrSet_of_or hkept.intensive) (keptOrSet_of_or hkept.levels)

theorem Settled.quiet (h : Settled s) (hquiet : s.Quiet t) : Settled t :=
  h.keep_overlays hquiet.clock hquiet.data hquiet.startup
    (by rw [hquiet.confirmations]; exact h.statuses) hquiet.toOverlaysKept

/-- The health that a write is recorded with is that of the state, where there is one. -/
theorem baseline_eq (hdata : s.data = some state) :
    s.baseline write = state.groupReadHealth (writeGroup write.writeKey) := by
  simp [baseline, groupHealth, hdata]

/-- An accepted write: the writes it supersedes are final, and nothing was read since it. -/
theorem Settled.accept (h : Settled s) : Settled (s.accept write) := by
  obtain ⟨-, hclock, hdata, hstartup, hconfirmations, hlevels, hpresets, hintensive⟩ :=
    accept_frame s write
  refine h.keep (le_of_eq (congrArg _ hclock.symm)) hdata hstartup ?_ ?_ ?_ ?_
  · intro state hstate key confirmation hmem
    rw [hconfirmations, baseline_eq hstate] at hmem
    exact checkedConfirmation_recordPending
      (fun _ hbefore => checkedConfirmation_supersede (h.statuses state hstate key) hbefore) hmem
  · rw [hpresets, hclock, hdata]
    split
    · exact .inr (.inr ⟨_, rfl⟩)
    · split
      · exact .inr (.inl rfl)
      · exact .inl rfl
  · rw [hintensive, hclock, hdata]
    split
    · exact .inr (.inr ⟨_, rfl⟩)
    · exact .inl rfl
  · rw [hlevels, hclock, hdata]
    split
    · exact .inr (.inr ⟨_, rfl⟩)
    · split
      · exact .inr (.inl rfl)
      · exact .inl rfl

/-- A failed write is final. -/
theorem Settled.fail (h : Settled s) (error : String) : Settled (s.fail write error) := by
  obtain ⟨-, hclock, hdata, hstartup, hconfirmations, hlevels, hpresets, hintensive⟩ :=
    fail_frame s write error
  refine h.keep_overlays (le_of_eq (congrArg _ hclock.symm)) hdata hstartup ?_ ⟨?_, ?_, ?_⟩
  · intro state hstate key confirmation hmem
    rw [hconfirmations] at hmem
    by_cases hkey : key = write.writeKey
    · subst hkey
      rw [WriteConfirmations.setStatus_self WriteConfirmations.recordPending_self] at hmem
      cases hmem
      exact checkedConfirmation_of_isFinal rfl
    · rw [WriteConfirmations.setStatus_of_ne hkey,
        WriteConfirmations.recordPending_of_ne hkey] at hmem
      exact h.statuses state hstate key confirmation hmem
  · rw [hpresets]
    exact ite_eq_or_eq _ _ _ |>.symm
  · rw [hintensive]
    exact ite_eq_or_eq _ _ _ |>.symm
  · rw [hlevels]
    exact ite_eq_or_eq _ _ _ |>.symm

/-- A cancelled write is unconfirmed, and nothing was read since it. -/
theorem Settled.cancel (h : Settled s) : Settled (s.cancel write) := by
  obtain ⟨-, hclock, hdata, hstartup, hconfirmations, hkept, -⟩ := cancel_frame s write
  refine h.keep_overlays (le_of_eq (congrArg _ hclock.symm)) hdata hstartup ?_ hkept
  intro state hstate key confirmation hmem
  rw [hconfirmations, baseline_eq hstate] at hmem
  refine checkedConfirmation_markUnconfirmed (fun before hbefore => ?_) hmem
  exact checkedConfirmation_recordPending
    (fun _ hopen => checkedConfirmation_supersede (h.statuses state hstate key) hopen) hbefore

theorem Settled.finishWrite (h : Settled s) (outcome : WriteOutcome) :
    Settled (s.finishWrite write outcome) := by
  unfold RoomCoordinator.finishWrite
  split
  · exact h.accept
  · exact h.fail _
  · exact h.cancel

/-- The end of a readback: a write that the readback has left pending is unconfirmed. -/
theorem Settled.finishReadBack (h : Settled s) : Settled (s.finishReadBack write) := by
  obtain ⟨-, hclock, hdata, hstartup, hconfirmations, hkept⟩ := finishReadBack_frame s write
  refine h.keep_overlays (le_of_eq (congrArg _ hclock.symm)) hdata hstartup ?_ hkept
  intro state hstate key confirmation hmem
  rw [hconfirmations] at hmem
  exact checkedConfirmation_markUnconfirmed (h.statuses state hstate key) hmem

/-- The measured airflow that a step judges by. -/
theorem Settled.airflow_of_source (h : Settled s) (hsource : s.Source label state finished)
    (hclock : s.clock.monotonic ≤ finished.monotonic) {pending : PendingValue (ℤ × ℤ)}
    (hpending : pending ∈ s.optimisticLevels) : AirflowSince finished state pending := by
  rcases hsource with ⟨-, hprevious⟩ | ⟨-, previous, reply, replied, polled, hprevious, -, hlt,
    hle, rfl⟩
  · exact (h.airflow state hprevious pending hpending).mono hclock
  · obtain ⟨since, flow, flowControl, hbaseline, hsince, hexpires, hread⟩ :=
      h.airflow previous hprevious pending hpending
    refine ⟨since, flow, flowControl, hbaseline, hsince.trans hclock, hexpires, ?_⟩
    obtain ⟨-, readback, hstate⟩ := (s.atClock replied).applyReply_frame previous polled reply
    rw [hstate]
    have hlater : since ≤ replied.monotonic := hsince.trans hlt.le
    rcases reply.airflow_cases s.room replied previous with ⟨hsupply, hextract⟩ | hsucceeded
    · rcases hread with ⟨hnosupply, hnoextract⟩ | hread
      · exact .inl ⟨hsupply.trans hnosupply, hextract.trans hnoextract⟩
      · exact .inr (hread.trans (reply.readFrom s.room replied previous .flow) hlater)
    · exact .inr (.inr (.inr (.inr ⟨replied, hlater, hsucceeded⟩)))

theorem Judged.eq_of_mem_data {known : RoomState} (h : s.Judged label state t)
    (hknown : known ∈ t.data) : state = known := by
  rcases h.data with hdata | ⟨hdata, -⟩
  · rw [hdata] at hknown
    exact Option.some.inj hknown
  · rw [hdata] at hknown
    cases hknown

/-- **A step that judges by a state settles what that state settles.** -/
theorem Settled.judge (h : Settled s) (hjudged : s.Judged label state t) : Settled t where
  stamped group := (hjudged.health group).stamped (h.stamped group)
  startup := by
    rcases hjudged.startup with hnone | hsame
    · rw [hnone]
      rintro _ ⟨⟩
    · rw [hsame]
      exact h.startup
  statuses known hknown key confirmation hmem := by
    obtain rfl := hjudged.eq_of_mem_data hknown
    rw [hjudged.byKey] at hmem
    obtain ⟨before, -, rfl⟩ := Option.map_eq_some_iff.mp hmem
    exact checkedConfirmation_confirmOne
  presets known hknown := by
    obtain rfl := hjudged.eq_of_mem_data hknown
    rw [hjudged.presets]
    exact OverlayKind.settleIfRead_self
  intensive known hknown := by
    obtain rfl := hjudged.eq_of_mem_data hknown
    rw [hjudged.intensive]
    exact OverlayKind.settleIfRead_self
  levels known hknown := by
    obtain rfl := hjudged.eq_of_mem_data hknown
    refine ⟨t.clock, le_refl _, ?_⟩
    rw [hjudged.levels]
    exact OverlayKind.settleIfRead_self
  airflow known hknown pending hpending := by
    rw [hjudged.levels] at hpending
    have hmem := (OverlayKind.settleIfRead_eq_some.mp hpending).1
    rcases hknown with rfl | ⟨hnodata, hstartup⟩
    · rw [hjudged.state_eq]
      exact h.airflow_of_source hjudged.source hjudged.clock hmem
    · have hprevious : s.Previous known := by
        refine .inr ⟨?_, ?_⟩
        · rcases hjudged.data with hdata | ⟨-, hdata, -⟩
          · rw [hnodata] at hdata
            cases hdata
          · exact hdata
        · rcases hjudged.startup with hnone | hsame
          · rw [hnone] at hstartup
            cases hstartup
          · rwa [← hsame]
      exact (h.airflow known hprevious pending hmem).mono hjudged.clock

/-- A poll without any value moves startup states only. -/
theorem Settled.startupOnly (h : Settled s) (hstartup : s.StartupOnly label t) : Settled t where
  stamped group := (hstartup.health group).stamped (h.stamped group)
  startup := hstartup.startup
  statuses := by
    rw [hstartup.data, hstartup.byKey]
    exact h.statuses
  presets state hstate := by
    rw [hstartup.data] at hstate
    rw [hstartup.presets]
    exact OverlayKind.settleIfRead_later (h.stamped_data hstate) hstartup.clock
      (h.presets state hstate)
  intensive state hstate := by
    rw [hstartup.data] at hstate
    rw [hstartup.intensive]
    exact OverlayKind.settleIfRead_later (h.stamped_data hstate) hstartup.clock
      (h.intensive state hstate)
  levels state hstate := by
    rw [hstartup.data] at hstate
    obtain ⟨clock, hle, hlevels⟩ := h.levels state hstate
    exact ⟨clock, hle.trans hstartup.clock, by rw [hstartup.levels]; exact hlevels⟩
  airflow state hstate pending hpending := by
    rw [hstartup.levels] at hpending
    rcases hstate with rfl | ⟨-, hstate⟩
    · rw [hstartup.state_eq]
      exact (h.airflow s.state s.previous_state pending hpending).mono hstartup.clock
    · obtain ⟨since, flow, flowControl, hbaseline, hsince, hexpires, -⟩ :=
        h.airflow s.state s.previous_state pending hpending
      exact ⟨since, flow, flowControl, hbaseline, hsince.trans hstartup.clock, hexpires,
        .inl (airflow_of_hasData (hstartup.startup state hstate))⟩

theorem settled_step (h : Settled s) (hstep : s.step label = some t) : Settled t := by
  rcases s.step_cases hstep with ⟨command, outcome, finished, u, write, rfl, hle, hprepare, -,
    rfl⟩ | ⟨-, ⟨-, hquiet⟩ | ⟨state, hjudged⟩ | ⟨state, u, write, hjudged, -, rfl⟩ | hstartup⟩
  · have hsound := s.sound_prepare command
    rw [hprepare] at hsound
    exact (h.quiet (hsound.1.atClock hle)).finishWrite outcome
  · exact h.quiet hquiet
  · exact h.judge hjudged
  · exact (h.judge hjudged).finishReadBack
  · exact h.startupOnly hstartup

/-! ### What an entity can see -/

/-- **`t` shows what `s` would show now**: the same state, the same outcomes and fallback, and
the same pending values at every time from now on. The marker of an interrupted write is
dropped by whoever finds that it is no longer true; so it is as before, or it is gone and
`s` would have shown that it is not true at some time since. -/
structure Unchanged (s t : RoomCoordinator) : Prop where
  clock : s.clock.monotonic ≤ t.clock.monotonic
  data : t.data = s.data
  presets : ∀ clock : Clock, t.clock.monotonic ≤ clock.monotonic →
    (t.atClock clock).optimisticPresetMode = (s.atClock clock).optimisticPresetMode
  intensive : ∀ clock : Clock, t.clock.monotonic ≤ clock.monotonic →
    (t.atClock clock).optimisticIntensiveValue = (s.atClock clock).optimisticIntensiveValue
  levels : ∀ clock : Clock, t.clock.monotonic ≤ clock.monotonic →
    (t.atClock clock).pendingLevels = (s.atClock clock).pendingLevels
  levelFallback : t.levelWriteFallback = s.levelWriteFallback
  uncertainFlow : t.uncertainFlow = s.uncertainFlow ∨ t.uncertainFlow = none ∧
    ∃ clock : Clock, s.clock.monotonic ≤ clock.monotonic ∧ clock.monotonic ≤ t.clock.monotonic ∧
      (s.atClock clock).flowWriteUncertain = false
  statuses : ∀ wall key, (t.confirmations.byKey key).map (confirmationStatus wall) =
    (s.confirmations.byKey key).map (confirmationStatus wall)

/-- A change of nothing that is shown. -/
theorem unchanged_of_eq (hclock : s.clock.monotonic ≤ t.clock.monotonic) (hdata : t.data = s.data)
    (hpresets : t.optimisticPresets = s.optimisticPresets)
    (hintensive : t.optimisticIntensive = s.optimisticIntensive)
    (hlevels : t.optimisticLevels = s.optimisticLevels)
    (hfallback : t.levelFallback = s.levelFallback)
    (huncertain : t.uncertainFlow = s.uncertainFlow)
    (hbyKey : t.confirmations.byKey = s.confirmations.byKey) : s.Unchanged t where
  clock := hclock
  data := hdata
  presets clock _ := by
    simp only [optimisticPresetMode, atClock, hdata, hpresets]
  intensive clock _ := by
    simp only [optimisticIntensiveValue, atClock, hdata, hintensive]
  levels clock _ := by
    simp only [pendingLevels, atClock, hdata, hlevels]
  levelFallback := by
    simp only [levelWriteFallback, hdata, hfallback]
  uncertainFlow := .inl huncertain
  statuses wall key := by rw [hbyKey]

theorem Unchanged.refl (s : RoomCoordinator) : s.Unchanged s :=
  unchanged_of_eq (le_refl _) rfl rfl rfl rfl rfl rfl rfl

theorem unchanged_atClock (hle : s.clock.monotonic ≤ clock.monotonic) :
    s.Unchanged (s.atClock clock) :=
  unchanged_of_eq hle rfl rfl rfl rfl rfl rfl rfl

/-- The marker looks at the state and at itself. -/
theorem flowWriteUncertain_congr (hdata : t.data = s.data)
    (huncertain : t.uncertainFlow = s.uncertainFlow) :
    (t.atClock clock).flowWriteUncertain = (s.atClock clock).flowWriteUncertain := by
  simp only [flowWriteUncertain, atClock, hdata, huncertain]

theorem Unchanged.trans (h : s.Unchanged t) (h' : t.Unchanged u) : s.Unchanged u where
  clock := h.clock.trans h'.clock
  data := h'.data.trans h.data
  presets clock hle := (h'.presets clock hle).trans (h.presets clock (h'.clock.trans hle))
  intensive clock hle := (h'.intensive clock hle).trans (h.intensive clock (h'.clock.trans hle))
  levels clock hle := (h'.levels clock hle).trans (h.levels clock (h'.clock.trans hle))
  levelFallback := h'.levelFallback.trans h.levelFallback
  uncertainFlow := by
    rcases h.uncertainFlow with hsame | ⟨hnone, clock, hle, hle', hcertain⟩
    · rcases h'.uncertainFlow with hsame' | ⟨hnone', clock, hle, hle', hcertain⟩
      · exact .inl (hsame'.trans hsame)
      · exact .inr ⟨hnone', clock, h.clock.trans hle, hle',
          (flowWriteUncertain_congr h.data hsame).symm.trans hcertain⟩
    · have hgone : u.uncertainFlow = none := by
        rcases h'.uncertainFlow with hsame' | ⟨hnone', -⟩
        · exact hsame'.trans hnone
        · exact hnone'
      exact .inr ⟨hgone, clock, hle, hle'.trans h'.clock, hcertain⟩
  statuses wall key := (h'.statuses wall key).trans (h.statuses wall key)

/-- A query drops a marker only when it is no longer true. -/
theorem unchanged_settleUncertainFlow (s : RoomCoordinator) :
    s.Unchanged s.settleUncertainFlow where
  clock := le_refl _
  data := rfl
  presets _ _ := rfl
  intensive _ _ := rfl
  levels _ _ := rfl
  levelFallback := rfl
  uncertainFlow := by
    by_cases huncertain : s.flowWriteUncertain = true
    · exact .inl (if_pos huncertain)
    · exact .inr ⟨if_neg huncertain, s.clock, le_refl _, le_refl _,
        Bool.eq_false_iff.mpr huncertain⟩
  statuses _ _ := rfl

/-! ### A pass over a state that is known -/

/-- **Pending levels that a later pass drops are hidden by then, and stay hidden.** -/
theorem Settled.levels_hidden (h : Settled s) (hdata : s.data = some state)
    {pending : PendingValue (ℤ × ℤ)} (hpending : s.optimisticLevels = some pending)
    (hread : OverlayKind.readSinceSet s.clock (some state) (some pending) = true)
    {reported : LevelPair} (hreported : (reportedLevels s.clock state).1 = some reported)
    (hreached : levelsReached reported pending.value = true)
    (hle : s.clock.monotonic ≤ clock.monotonic) :
    levelsOverlay.active clock (some pending) (some state) (reportedLevels clock state).1 =
      none := by
  have hstamped := h.stamped_data hdata
  -- When the state was read it reported something else, so the status map has gone stale.
  obtain ⟨judged, hjudged, hkept⟩ := h.levels state hdata
  rw [hpending] at hkept
  have hbefore : levelsReached (reportedPair judged state) pending.value = false :=
    reportedLevels_reached.mp ((OverlayKind.settleIfRead_eq_some.mp hkept).2
      (OverlayKind.readSinceSet_earlier hstamped hjudged hread))
  have hnow : levelsReached (reportedPair s.clock state) pending.value = true := by
    rw [← Bool.not_eq_false, ← reportedLevels_reached]
    intro hnone
    rw [hnone reported hreported] at hreached
    cases hreached
  rcases reportedPair_earlier hstamped hjudged hnow with hearly | ⟨hstale, hfresh, hmeasured⟩
  · rw [hbefore] at hearly
    cases hearly
  -- The airflow was read after the levels were set, and is fresh until their window ends.
  obtain ⟨since, flow, flowControl, hbaseline, -, hexpires, hairflow⟩ :=
    h.airflow state (.inl (by simp [RoomCoordinator.state, hdata])) pending hpending
  have hsince : readSince s.clock state .flow flow = true := by
    simpa [OverlayKind.readSinceSet, hbaseline, readSince, hstale] using hread
  obtain ⟨hgroup, -⟩ := groupFresh_iff.mp hfresh
  rcases hairflow with ⟨hsupply, -⟩ | hairflow
  · rw [hsupply] at hmeasured
    cases hmeasured
  obtain ⟨read, hyoung, hsucceeded⟩ := hairflow.succeeded (ne_of_readSince hsince)
    (by rw [← hgroup.2.1]; exact hgroup.1) hgroup.2.2.2
  unfold OverlayKind.active OverlayKind.get
  refine if_pos ?_
  by_cases hexpired : pending.expiresAt ≤ clock.monotonic
  · exact .inl hexpired
  refine .inr ?_
  have hfresh' : groupFresh clock state .flow = true := by
    have hopen : clock.monotonic < since + seconds targetOptimisticSeconds := by
      rw [← hexpires]
      exact not_le.mp hexpired
    have hwindow : seconds targetOptimisticSeconds ≤ seconds (staleAfterSeconds .flow) := by decide
    exact groupFresh_of_succeeded hsucceeded
      (Nat.sub_le_iff_le_add'.mpr (hopen.le.trans (Nat.add_le_add hyoung hwindow)))
  have hstale' : ¬ groupFresh clock state .flowControl = true := fun hmap => by
    rw [groupFresh_earlier (hstamped _) hle hmap] at hstale
    cases hstale
  have hread' : OverlayKind.readSinceSet clock (some state) (some pending) = true := by
    have hne := ne_of_readSince hsince
    simp [OverlayKind.readSinceSet, hbaseline, readSince, hfresh', hne]
  have hpair : reportedPair clock state = (state.supplyAirFlow, state.extractAirFlow) := by
    rw [reportedPair, if_neg fun hmap => hstale' hmap.1, if_pos hfresh']
  obtain ⟨supply, extract, hcomplete⟩ := complete_of_levelsReached hmeasured
  rw [hcomplete] at hmeasured hpair
  rw [if_pos hread', reportedLevels_fst, hpair]
  exact hmeasured

/-- What a pass leaves of an outcome that it does not judge again. -/
theorem confirmationStatus_confirmOne {wall wall' : WallTime} {key : WriteKey}
    {confirmation : WriteConfirmation}
    (h : checkedConfirmation state key confirmation = none) :
    confirmationStatus wall' (WriteConfirmations.confirmOne wall state key confirmation).1 =
      confirmationStatus wall' confirmation := by
  obtain ⟨counted, hcounted⟩ := confirmOne_fst wall state key confirmation
  rw [hcounted, h]
  rfl

/-- **A pass over the state of a unit that is known changes nothing an entity of the unit can
see**, now or later. -/
theorem unchanged_confirmPendingWrites (h : Settled s) (hdata : s.data = some state) :
    s.Unchanged (s.confirmPendingWrites state) where
  clock := le_refl _
  data := rfl
  presets _ _ := by
    simp only [optimisticPresetMode, atClock, confirmPendingWrites, h.presets state hdata]
  intensive _ _ := by
    simp only [optimisticIntensiveValue, atClock, confirmPendingWrites, h.intensive state hdata]
  levels clock hle := by
    have hdrop : (s.confirmPendingWrites state).optimisticLevels = levelsOverlay.settleIfRead
      s.clock s.optimisticLevels state (reportedLevels s.clock state).1 := rfl
    obtain hsame | ⟨hnone, pending, reported, hpending, hreported, hread, hreached⟩ :=
      OverlayKind.settleIfRead_cases levelsOverlay s.clock s.optimisticLevels state
        (reportedLevels s.clock state).1
    · simp only [pendingLevels, atClock, hdrop, hsame]
      rfl
    · -- A pair dropped here was out of sight already, so nobody sees it go.
      have hhidden := h.levels_hidden hdata hpending hread hreported hreached hle
      have hshown : (s.atClock clock).pendingLevels = none := by
        rw [pendingLevels]
        simpa only [atClock, hpending, hdata, Option.bind_some] using hhidden
      rw [hshown, pendingLevels]
      simp only [atClock, hdrop, hnone]
      rfl
  levelFallback := by
    unfold levelWriteFallback
    rcases hfallback : s.levelFallback with _ | ⟨marker, baseline⟩
    · simp [confirmPendingWrites, hfallback]
    · by_cases hread : modeReadSince state baseline = true <;>
        simp [confirmPendingWrites, hfallback, hdata, hread]
  uncertainFlow := .inl rfl
  statuses wall key := by
    have hbyKey : (s.confirmPendingWrites state).confirmations.byKey key =
        (s.confirmations.byKey key).map fun confirmation =>
          (WriteConfirmations.confirmOne s.clock.wall state key confirmation).1 := rfl
    rw [hbyKey, Option.map_map]
    refine Option.map_congr fun confirmation hmem => ?_
    exact confirmationStatus_confirmOne (h.statuses state hdata key confirmation hmem)

/-- Nothing is settled by a state that was never read. -/
theorem settleIfRead_empty {T C : Type} {overlay : OverlayKind T C}
    {pending : Option (PendingValue T)} {confirmed : Option C} :
    overlay.settleIfRead clock pending emptyRoomState confirmed = pending := by
  have hunread : OverlayKind.readSinceSet clock (some emptyRoomState) pending = false := by
    rcases pending with _ | pending
    · rfl
    · simp [OverlayKind.readSinceSet, readSince, groupFresh, emptyRoomState, emptyReadHealth]
  rw [OverlayKind.settleIfRead, hunread]
  rfl

theorem unchanged_confirmPendingWrites_empty (s : RoomCoordinator) :
    s.Unchanged (s.confirmPendingWrites emptyRoomState) where
  clock := le_refl _
  data := rfl
  presets _ _ := by
    simp only [optimisticPresetMode, atClock, confirmPendingWrites, settleIfRead_empty]
  intensive _ _ := by
    simp only [optimisticIntensiveValue, atClock, confirmPendingWrites, settleIfRead_empty]
  levels _ _ := by
    simp only [pendingLevels, atClock, confirmPendingWrites, settleIfRead_empty]
  levelFallback := by
    have hunread : ∀ baseline, modeReadSince emptyRoomState baseline = false := fun _ => rfl
    simp [levelWriteFallback, confirmPendingWrites, hunread]
  uncertainFlow := .inl rfl
  statuses wall key := by
    have hbyKey : (s.confirmPendingWrites emptyRoomState).confirmations.byKey key =
        (s.confirmations.byKey key).map fun confirmation =>
          (WriteConfirmations.confirmOne s.clock.wall emptyRoomState key confirmation).1 := rfl
    rw [hbyKey, Option.map_map]
    refine Option.map_congr fun confirmation _ => confirmationStatus_confirmOne ?_
    exact checkedConfirmation_eq_none.mpr (.inr (.inl rfl))

/-- A pass over the state that the coordinator has, or over none. -/
theorem unchanged_confirmPendingWrites_state (h : Settled s) :
    s.Unchanged (s.confirmPendingWrites s.state) := by
  rcases hdata : s.data with _ | state
  · rw [show s.state = emptyRoomState by simp [RoomCoordinator.state, hdata]]
    exact unchanged_confirmPendingWrites_empty s
  · rw [show s.state = state by simp [RoomCoordinator.state, hdata]]
    exact unchanged_confirmPendingWrites h hdata

/-! ### Runs -/

/-- **In every run, whatever the state of a unit settles is settled.** -/
theorem settled_of_reach {ok : RoomCoordinator → Label → Prop}
    (h : Reach RoomCoordinator.step ok RoomCoordinator.Started s) : Settled s :=
  h.invariant (fun _ => settled_of_started) fun _ _ _ hsettled _ => settled_step hsettled

end RoomCoordinator

end MeltemVentilation
