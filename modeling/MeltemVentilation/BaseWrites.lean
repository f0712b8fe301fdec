import MeltemVentilation.IntensiveDisplay

/-!
# The base-mode writes and their pending displays

Three kinds of writes describe the base mode of a unit: an airflow, an operating mode and a
quick mode. Each accepted one replaces the others, so at most one of them should be open,
the last one accepted or cancelled; and the airflow and the quick-mode overlay should be
shown only for the write that is open.

The two structures that keep this, the table of outcomes and the overlays, are settled by the
same readback but not by the same comparison. An airflow write is confirmed by the exact
target in register `41121`, in off mode as in manual mode; its overlay is settled by the
levels that the unit reports, and these are zero in off mode. So a unit that is off while its
target register still holds the commanded airflow confirms the write and leaves the overlay
on display (`baseWrites_refuted`). Without such a readback (`NoOffReadback`) the two agree in
every run (`baseWrites_of_reach`).

The argument is the invariant `BaseInvariant`. Its central part ties a pending value to an
open write (`RoomCoordinator.Belongs`): whatever finishes the write in a readback also is a
fresh read since the overlay was set, because the window of the overlay is shorter than the
age limit of the mode group (`readSinceSet_of_confirms`).
-/

namespace MeltemVentilation

open RoomCoordinator Transition

open ReadHealth (ReadFrom)

/-- The outcome under a key is `confirmation`, and it is open. -/
def WriteConfirmations.Open (confirmations : WriteConfirmations) (key : WriteKey)
    (confirmation : WriteConfirmation) : Prop :=
  confirmations.byKey key = some confirmation ∧ confirmation.status.isFinal = false

/-- The record of a run: the base-mode write accepted or cancelled last. -/
def recordBase (s : RoomCoordinator) (label : Label) (last : Option WriteKey) :
    Option WriteKey :=
  match s.writeOf label with
  | some (write, .accepted) | some (write, .cancelled) =>
    if write.writeKey ∈ baseModeWrites then some write.writeKey else last
  | _ => last

/-- The coordinator with the last base-mode write on record. -/
abbrev BaseStep := recorded RoomCoordinator.step recordBase

/-- A run starts before the first poll and the first command. -/
def BaseStart (s : RoomCoordinator × Option WriteKey) : Prop := s.1.Started ∧ s.2 = none

/-- The outcomes of the base-mode writes and the overlays agree. -/
structure BaseWritesAgree (s : RoomCoordinator × Option WriteKey) : Prop where
  unique : ∀ key ∈ baseModeWrites, ∀ key' ∈ baseModeWrites, ∀ confirmation confirmation',
    s.1.confirmations.Open key confirmation → s.1.confirmations.Open key' confirmation' →
      key = key'
  latest : ∀ key ∈ baseModeWrites, ∀ confirmation,
    s.1.confirmations.Open key confirmation → s.2 = some key
  levels : ∀ pair, s.1.pendingLevels = some pair → ∃ confirmation,
    s.1.confirmations.Open .airflowLevels confirmation ∧
      confirmation.expectedValue = .levels pair.1 pair.2
  presets : ∀ preset, s.1.optimisticPresetMode = some preset → ∃ confirmation,
    s.1.confirmations.Open .presetMode confirmation ∧
      confirmation.expectedValue = .presetMode preset

/-- A state that confirms an airflow write by the exact target although it reports the unit
off. -/
def OffReadback (state : RoomState) (confirmation : WriteConfirmation) (pair : ℤ × ℤ) : Prop :=
  state.operationMode = some .off ∧
    Confirms state .airflowLevels confirmation.baseline confirmation.expectedValue ∧
    levelsReached (some 0, some 0) pair = false

/-- No read reports the unit off while its exact target confirms a pending airflow. -/
def NoOffReadback (s : RoomCoordinator × Option WriteKey) (label : Label) : Prop :=
  ∀ state finished, s.1.readState label = some (state, finished) →
    ∀ confirmation, s.1.confirmations.Open .airflowLevels confirmation →
      ∀ pending ∈ s.1.optimisticLevels, finished.monotonic < pending.expiresAt →
        ¬ OffReadback state confirmation pending.value

/-! ### A confirming readback settles the overlay -/

section Settle

variable {clock : Clock} {state : RoomState} {baseline health : ReadHealth}
  {expected : WriteValue} {setAt : Monotonic}

/-- **A readback that confirms a write is a fresh read since the overlay was set**, as long
as the window of the overlay is open. -/
theorem readSince_of_confirms {key : WriteKey} (hgroup : writeGroup key = .flowControl)
    (h : Confirms state key baseline expected)
    (hfrom : ReadFrom setAt baseline (state.groupReadHealth .flowControl))
    (hopen : clock.monotonic < setAt + seconds 15)
    (hhealth : health = baseline ∨ health = emptyReadHealth) :
    readSince clock state .flowControl health = true := by
  obtain ⟨htried, hnewer, herror, -, -⟩ := h
  rw [hgroup] at htried hnewer herror
  obtain ⟨read, hread, hsucceeded⟩ := hfrom.succeeded hnewer htried herror
  have hage : ∀ now read setAt : ℕ, setAt ≤ read → now < setAt + 15 * 1000000000 →
      now - read ≤ 30 * 1000000000 := by omega
  have hfresh : groupFresh clock state .flowControl = true :=
    groupFresh_of_succeeded hsucceeded (hage _ _ _ hread hopen)
  have hne : state.groupReadHealth .flowControl ≠ health := by
    rcases hhealth with rfl | rfl
    · exact hnewer
    · rw [hsucceeded]
      simp [ReadHealth.succeeded, emptyReadHealth]
  simp [readSince, hfresh, hne]

/-- The levels that the unit reports confirm an airflow write whenever its readback does,
unless the unit is off. -/
theorem reportedLevels_of_readback {pair : ℤ × ℤ} {actual : WriteValue}
    (hfresh : groupFresh clock state .flowControl = true)
    (hactual : readbackValue state .airflowLevels = some actual)
    (hmatch : valuesMatch .airflowLevels (.levels pair.1 pair.2) actual = true)
    (hoff : state.operationMode = some .off → levelsReached (some 0, some 0) pair = true) :
    ∃ reported, (reportedLevels clock state).1 = some reported ∧
      levelsReached reported pair = true := by
  have hreported : ∀ mode levels, state.operationMode = some mode →
      targetLevels state (groupFresh clock state .flow) = levels → levels ≠ (none, none) →
      (reportedLevels clock state).1 = some levels := by
    rintro mode levels hmode rfl hne
    simp [reportedLevels, hfresh, hmode, hne]
  rcases hmode : state.operationMode with _ | mode
  · simp [readbackValue, hmode] at hactual
  -- A balanced mode is judged by the exact target, and reports it on both sides.
  have hexact : mode = .manual ∨ mode = .off → ∃ readback,
      state.balancedTargetReadback = some readback ∧
        levelsReached (some readback, some readback) pair = true := by
    intro hm
    obtain ⟨readback, hreadback, rfl⟩ : ∃ readback,
        state.balancedTargetReadback = some readback ∧ .levels readback readback = actual := by
      rcases hm with rfl | rfl <;> simpa [readbackValue, hmode] using hactual
    exact ⟨readback, hreadback, hmatch⟩
  cases mode with
  | manual =>
    obtain ⟨readback, hreadback, hreached⟩ := hexact (.inl rfl)
    refine ⟨(some readback, some readback), hreported _ _ hmode ?_ (by simp), hreached⟩
    simp [targetLevels, hmode, hreadback]
  | off =>
    exact ⟨(some 0, some 0), hreported _ _ hmode (by simp [targetLevels, hmode]) (by simp),
      hoff hmode⟩
  | unbalanced =>
    simp only [readbackValue, hmode] at hactual
    split at hactual
    · rename_i supply extract htargets
      cases hactual
      refine ⟨(some supply, some extract), hreported _ _ hmode ?_ (by simp), hmatch⟩
      have hboth : state.targetLevel = some supply ∧ state.extractTargetLevel = some extract := by
        simpa [targetLevels, hmode] using htargets
      by_cases hflow : groupFresh clock state .flow = true <;>
        simp [targetLevels, hmode, hflow, hboth]
    · cases hactual
  | inactive | humidityControl | co2Control | automatic =>
    simp [readbackValue, hmode] at hactual

end Settle

/-! ### The invariant -/

/-- A pending value belongs to the open write under `key` that asks for `value`: the write
and the overlay were set at one moment, and the mode group has not been read since except by
successful reads made later. -/
def RoomCoordinator.Belongs {T : Type} (s : RoomCoordinator) (key : WriteKey)
    (value : WriteValue) (pending : PendingValue T) : Prop :=
  ∃ confirmation setAt health, s.confirmations.Open key confirmation ∧
    confirmation.expectedValue = value ∧ pending.expiresAt = setAt + seconds 15 ∧
    ReadFrom setAt confirmation.baseline (s.groupHealth .flowControl) ∧
    (ReadGroup.flowControl, health) ∈ pending.baseline ∧
    (health = confirmation.baseline ∨ health = emptyReadHealth) ∧
    setAt ≤ s.clock.monotonic

/-- **The invariant of the base-mode writes and their overlays.** -/
structure BaseInvariant (s : RoomCoordinator) (last : Option WriteKey) : Prop where
  latest : ∀ key ∈ baseModeWrites, ∀ confirmation,
    s.confirmations.Open key confirmation → last = some key
  levels : ∀ pending ∈ s.optimisticLevels, s.clock.monotonic < pending.expiresAt →
    s.Belongs .airflowLevels (.levels pending.value.1 pending.value.2) pending
  presets : ∀ pending ∈ s.optimisticPresets, s.clock.monotonic < pending.expiresAt →
    s.Belongs .presetMode (.presetMode pending.value) pending
  /-- The polled state has judged every open write already. -/
  judged : ∀ key confirmation, s.confirmations.Open key confirmation →
    ¬ Confirms s.state key confirmation.baseline confirmation.expectedValue
  startup : ∀ state ∈ s.startup, state.hasData = false

theorem BaseInvariant.agree {s : RoomCoordinator × Option WriteKey}
    (h : BaseInvariant s.1 s.2) : BaseWritesAgree s where
  unique := by
    intro key hkey key' hkey' c c' hc hc'
    have hlast := h.latest key hkey c hc
    rw [h.latest key' hkey' c' hc'] at hlast
    exact (Option.some.inj hlast).symm
  latest := h.latest
  levels := by
    rintro pair hpair
    obtain ⟨pending, hpending, rfl, hopen⟩ := OverlayKind.active_eq_some hpair
    obtain ⟨confirmation, -, -, hopen, hexpected, -⟩ := h.levels pending hpending hopen
    exact ⟨confirmation, hopen, hexpected⟩
  presets := by
    rintro preset hpreset
    obtain ⟨pending, hpending, rfl, hopen⟩ := OverlayKind.active_eq_some hpreset
    obtain ⟨confirmation, -, -, hopen, hexpected, -⟩ := h.presets pending hpending hopen
    exact ⟨confirmation, hopen, hexpected⟩

section Steps

variable {s t u : RoomCoordinator} {last : Option WriteKey} {label : Label}
  {state : RoomState} {write : PreparedWrite} {T : Type}

/-- A pending value keeps its write while the outcome stays open and the health of the mode
group changes by reads only. -/
theorem RoomCoordinator.Belongs.mono {key : WriteKey} {value : WriteValue}
    {pending : PendingValue T} (h : s.Belongs key value pending)
    (hclock : s.clock.monotonic ≤ t.clock.monotonic)
    (hhealth : ReadFrom s.clock.monotonic (s.groupHealth .flowControl)
      (t.groupHealth .flowControl))
    (hopen : ∀ confirmation, s.confirmations.Open key confirmation →
      confirmation.expectedValue = value → ∃ later, t.confirmations.Open key later ∧
        later.expectedValue = confirmation.expectedValue ∧
        later.baseline = confirmation.baseline) :
    t.Belongs key value pending := by
  obtain ⟨confirmation, setAt, health, hconf, rfl, hexpires, hfrom, hmem, hbaseline, hset⟩ := h
  obtain ⟨later, hlater, hexpected, hb⟩ := hopen confirmation hconf rfl
  refine ⟨later, setAt, health, hlater, hexpected, hexpires, ?_, hmem, ?_, hset.trans hclock⟩
  · rw [hb]
    exact hfrom.trans hhealth hset
  · rwa [hb]

/-- Keys whose outcomes are unchanged keep their open writes. -/
theorem WriteConfirmations.Open.of_byKey {confirmations later : WriteConfirmations}
    {key : WriteKey} (h : later.byKey key = confirmations.byKey key)
    {confirmation : WriteConfirmation} (hopen : confirmations.Open key confirmation) :
    later.Open key confirmation :=
  ⟨h.trans hopen.1, hopen.2⟩

/-- **A quiet change keeps the invariant.** -/
theorem BaseInvariant.quiet (h : BaseInvariant s last) (hquiet : s.Quiet t) :
    BaseInvariant t last where
  latest := hquiet.confirmations ▸ h.latest
  levels := fun pending hpending hopen =>
    (h.levels pending (mem_of_eq_or_none hquiet.levels hpending)
      (hquiet.clock.trans_lt hopen)).mono hquiet.clock
      (.inl (hquiet.groupHealth _)) fun confirmation hconf _ =>
        ⟨confirmation, hquiet.confirmations ▸ hconf, rfl, rfl⟩
  presets := fun pending hpending hopen =>
    (h.presets pending (mem_of_eq_or_none hquiet.presets hpending)
      (hquiet.clock.trans_lt hopen)).mono hquiet.clock
      (.inl (hquiet.groupHealth _)) fun confirmation hconf _ =>
        ⟨confirmation, hquiet.confirmations ▸ hconf, rfl, rfl⟩
  judged := by
    rw [hquiet.confirmations, hquiet.state]
    exact h.judged
  startup := hquiet.startup ▸ h.startup

/-- A poll without values keeps the invariant. -/
theorem BaseInvariant.startupOnly (h : BaseInvariant s last) (hstartup : s.StartupOnly label t) :
    BaseInvariant t last where
  latest := fun key hkey c hc =>
    h.latest key hkey c (hc.of_byKey (by rw [hstartup.byKey]))
  levels := fun pending hpending hopen =>
    (h.levels pending (hstartup.levels ▸ hpending) (hstartup.clock.trans_lt hopen)).mono
      hstartup.clock (hstartup.health _) fun confirmation hconf _ =>
        ⟨confirmation, hconf.of_byKey (by rw [hstartup.byKey]), rfl, rfl⟩
  presets := fun pending hpending hopen =>
    (h.presets pending (hstartup.presets ▸ hpending) (hstartup.clock.trans_lt hopen)).mono
      hstartup.clock (hstartup.health _) fun confirmation hconf _ =>
        ⟨confirmation, hconf.of_byKey (by rw [hstartup.byKey]), rfl, rfl⟩
  judged := fun key c hc => by
    rw [hstartup.state_eq]
    exact h.judged key c (hc.of_byKey (by rw [hstartup.byKey]))
  startup := hstartup.startup

/-- An open write after a round of `confirm` was open before, and the state does not confirm
it. -/
theorem open_of_confirm {confirmations later : WriteConfirmations} {wall : WallTime}
    {key : WriteKey} {confirmation : WriteConfirmation}
    (hbyKey : later.byKey = (confirmations.confirm wall state).byKey)
    (h : later.Open key confirmation) :
    ∃ previous, confirmations.Open key previous ∧
      confirmation.expectedValue = previous.expectedValue ∧
      confirmation.baseline = previous.baseline ∧
      ¬ Confirms state key previous.baseline previous.expectedValue := by
  obtain ⟨hkey, hopen⟩ := h
  rw [hbyKey] at hkey
  obtain ⟨previous, hprevious, rfl⟩ := Option.map_eq_some_iff.mp hkey
  have hbefore := isFinal_of_confirmOne hopen
  refine ⟨previous, ⟨hprevious, hbefore⟩, confirmOne_expectedValue.1, confirmOne_expectedValue.2,
    fun hconfirms => ?_⟩
  rw [(isFinal_confirmOne_iff hbefore).mpr hconfirms] at hopen
  cases hopen

/-- An open write that the state does not confirm stays open. -/
theorem WriteConfirmations.Open.confirm {confirmations later : WriteConfirmations}
    {wall : WallTime} {key : WriteKey} {confirmation : WriteConfirmation}
    (hbyKey : later.byKey = (confirmations.confirm wall state).byKey)
    (h : confirmations.Open key confirmation)
    (hnot : ¬ Confirms state key confirmation.baseline confirmation.expectedValue) :
    ∃ checked, later.Open key checked ∧
      checked.expectedValue = confirmation.expectedValue ∧
      checked.baseline = confirmation.baseline := by
  refine ⟨(WriteConfirmations.confirmOne wall state key confirmation).1, ⟨?_, ?_⟩,
    confirmOne_expectedValue.1, confirmOne_expectedValue.2⟩
  · rw [hbyKey]
    simp [WriteConfirmations.confirm, h.1]
  · rw [Bool.eq_false_iff, ne_eq, isFinal_confirmOne_iff h.2]
    exact hnot

/-- A pending value that survives a judging state still belongs to its write: the state does
not confirm the write, since a confirming state would have settled the overlay. -/
theorem RoomCoordinator.Belongs.judged {key : WriteKey} {value : WriteValue}
    {pending : PendingValue T} (hgroup : writeGroup key = .flowControl)
    (h : s.Belongs key value pending) (hjudged : s.Judged label state t)
    (hopen : t.clock.monotonic < pending.expiresAt)
    (hsettled : ∀ confirmation, s.confirmations.Open key confirmation →
      confirmation.expectedValue = value →
      Confirms state key confirmation.baseline confirmation.expectedValue →
      groupFresh t.clock state .flowControl = true →
      OverlayKind.readSinceSet t.clock (some state) (some pending) = true → False) :
    t.Belongs key value pending := by
  refine h.mono hjudged.clock (hjudged.health _) fun confirmation hconf hvalue => ?_
  refine hconf.confirm hjudged.byKey fun hconfirms => ?_
  obtain ⟨owner, setAt, health, hown, -, hexpires, hfrom, hmem, hbaseline, hset⟩ := h
  obtain rfl : owner = confirmation := Option.some.inj (hown.1.symm.trans hconf.1)
  rw [hexpires] at hopen
  have hread : readSince t.clock state .flowControl health = true :=
    readSince_of_confirms hgroup hconfirms (hfrom.trans (hjudged.stateHealth _) hset) hopen
      hbaseline
  refine hsettled owner hconf hvalue hconfirms (groupFresh_of_readSince hread) ?_
  simp only [OverlayKind.readSinceSet, List.any_eq_true]
  exact ⟨_, hmem, hread⟩

/-- A state without values says nothing about a write. -/
theorem readbackValue_of_not_hasData {key : WriteKey} (h : state.hasData = false) :
    readbackValue state key = none := by
  have hnone := RoomState.noValues h
  cases key with
  | controlSetting key => simp [readbackValue, hnone.controlSetting key]
  | airflowLevels | operationMode | presetMode | intensive =>
    simp [readbackValue, hnone.operationMode, hnone.presetMode, hnone.intensiveActive]

/-- **An open write is only confirmed by a state that was read in the step.** -/
theorem BaseInvariant.readState (h : BaseInvariant s last) (hjudged : s.Judged label state t)
    {key : WriteKey} {confirmation : WriteConfirmation}
    (hopen : s.confirmations.Open key confirmation)
    (hconfirms : Confirms state key confirmation.baseline confirmation.expectedValue) :
    s.readState label = some (state, t.clock) := by
  rcases hjudged.source with ⟨-, rfl | ⟨-, hstartup⟩⟩ | ⟨hread, -⟩
  · exact absurd hconfirms (h.judged key confirmation hopen)
  · obtain ⟨actual, hactual, -⟩ := hconfirms.value
    rw [readbackValue_of_not_hasData (h.startup state hstartup)] at hactual
    cases hactual
  · exact hread

/-- **A judging state keeps the invariant**, unless it is an off readback. -/
theorem BaseInvariant.judge (h : BaseInvariant s last) (hok : NoOffReadback (s, last) label)
    (hjudged : s.Judged label state t) : BaseInvariant t last where
  latest := fun key hkey c hc => by
    obtain ⟨previous, hopen, -⟩ := open_of_confirm hjudged.byKey hc
    exact h.latest key hkey previous hopen
  levels := fun pending hpending hopen => by
    rw [hjudged.levels] at hpending
    obtain ⟨hbefore, hunsettled⟩ := OverlayKind.settleIfRead_eq_some.mp hpending
    refine (h.levels pending hbefore (hjudged.clock.trans_lt hopen)).judged rfl hjudged hopen ?_
    intro confirmation hconf hvalue hconfirms hfresh hread
    obtain ⟨actual, hactual, hmatch⟩ := hconfirms.value
    rw [hvalue] at hmatch
    obtain ⟨reported, hreported, hreached⟩ := reportedLevels_of_readback hfresh hactual hmatch
      -- Off is the one mode whose levels are judged by another value than the reported one.
      fun hoff => by
        by_contra hnot
        exact hok state t.clock (h.readState hjudged hconf hconfirms) confirmation hconf pending
          hbefore hopen ⟨hoff, hconfirms, Bool.eq_false_iff.mpr hnot⟩
    have hnot : levelsReached reported pending.value = false :=
      hunsettled hread reported hreported
    rw [hreached] at hnot
    cases hnot
  presets := fun pending hpending hopen => by
    rw [hjudged.presets] at hpending
    obtain ⟨hbefore, hunsettled⟩ := OverlayKind.settleIfRead_eq_some.mp hpending
    refine (h.presets pending hbefore (hjudged.clock.trans_lt hopen)).judged rfl hjudged hopen ?_
    intro confirmation hconf hvalue hconfirms hfresh hread
    obtain ⟨actual, hactual, hmatch⟩ := hconfirms.value
    obtain ⟨preset, hpreset, rfl⟩ := Option.map_eq_some_iff.mp hactual
    rw [hvalue] at hmatch
    have hsame : preset = pending.value := by simpa [valuesMatch] using hmatch
    have := hunsettled hread preset hpreset
    simp [presetOverlay, hsame] at this
  judged := fun key c hc => by
    obtain ⟨previous, hopen, hexpected, hbaseline, hnot⟩ := open_of_confirm hjudged.byKey hc
    rw [hexpected, hbaseline]
    rwa [hjudged.state_eq]
  startup := by
    rcases hjudged.startup with hstartup | hstartup <;> rw [hstartup]
    · rintro _ ⟨⟩
    · exact h.startup

/-- Marking a write unconfirmed keeps every open write open, and opens none. -/
theorem open_markUnconfirmed {confirmations : WriteConfirmations} {key marked : WriteKey}
    {error : String} {confirmation : WriteConfirmation} :
    ((confirmations.markUnconfirmed marked error).Open key confirmation →
      ∃ previous, confirmations.Open key previous ∧
        confirmation.expectedValue = previous.expectedValue ∧
        confirmation.baseline = previous.baseline) ∧
    (confirmations.Open key confirmation →
      ∃ later, (confirmations.markUnconfirmed marked error).Open key later ∧
        later.expectedValue = confirmation.expectedValue ∧
        later.baseline = confirmation.baseline) := by
  by_cases hkey : key = marked
  · subst hkey
    constructor
    · rintro ⟨hbyKey, hopen⟩
      rw [WriteConfirmations.markUnconfirmed_self] at hbyKey
      obtain ⟨previous, hprevious, rfl⟩ := Option.map_eq_some_iff.mp hbyKey
      refine ⟨previous, ⟨hprevious, ?_⟩, ?_⟩
      · split at hopen
        · rename_i hpending
          rw [hpending]
          rfl
        · exact hopen
      · split <;> exact ⟨rfl, rfl⟩
    · rintro ⟨hbyKey, hopen⟩
      refine ⟨_, ⟨by rw [WriteConfirmations.markUnconfirmed_self, hbyKey]; rfl, ?_⟩, ?_⟩
      · dsimp only
        split
        · rfl
        · exact hopen
      · dsimp only
        split <;> exact ⟨rfl, rfl⟩
  · have hsame : (confirmations.markUnconfirmed marked error).byKey key =
        confirmations.byKey key := WriteConfirmations.markUnconfirmed_of_ne hkey
    exact ⟨fun h => ⟨confirmation, h.of_byKey hsame.symm, rfl, rfl⟩,
      fun h => ⟨confirmation, h.of_byKey hsame, rfl, rfl⟩⟩

/-- **The end of a readback keeps the invariant.** -/
theorem BaseInvariant.finishReadBack (h : BaseInvariant u last) (write : PreparedWrite) :
    BaseInvariant (u.finishReadBack write) last := by
  obtain ⟨-, hclock, hdata, hstartup, hconf, hkept⟩ := finishReadBack_frame u write
  have hle : u.clock.monotonic ≤ (u.finishReadBack write).clock.monotonic := by rw [hclock]
  have hhealth : ReadFrom u.clock.monotonic (u.groupHealth .flowControl)
      ((u.finishReadBack write).groupHealth .flowControl) :=
    .inl (by simp only [RoomCoordinator.groupHealth, hdata, hstartup])
  refine ⟨fun key hkey c hc => ?_, fun pending hpending hopen => ?_,
    fun pending hpending hopen => ?_, fun key c hc => ?_, by rw [hstartup]; exact h.startup⟩
  · rw [hconf] at hc
    obtain ⟨previous, hprevious, -⟩ := open_markUnconfirmed.1 hc
    exact h.latest key hkey previous hprevious
  · refine (h.levels pending (mem_of_eq_or_none hkept.levels hpending)
      (hle.trans_lt hopen)).mono hle hhealth fun confirmation hopen _ => ?_
    rw [hconf]
    exact open_markUnconfirmed.2 hopen
  · refine (h.presets pending (mem_of_eq_or_none hkept.presets hpending)
      (hle.trans_lt hopen)).mono hle hhealth fun confirmation hopen _ => ?_
    rw [hconf]
    exact open_markUnconfirmed.2 hopen
  · rw [hconf] at hc
    obtain ⟨previous, hprevious, hexpected, hbaseline⟩ := open_markUnconfirmed.1 hc
    rw [hexpected, hbaseline]
    have hstate : (u.finishReadBack write).state = u.state := by
      simp [RoomCoordinator.state, hdata]
    rw [hstate]
    exact h.judged key previous hprevious

/-! ### The end of a write -/

/-- Recording a base-mode write and superseding the others leaves that write open, and no
other base-mode write. -/
theorem open_of_record {confirmations : WriteConfirmations} {wall : WallTime}
    {recorded key : WriteKey} {expected : WriteValue} {baseline : ReadHealth}
    {confirmation : WriteConfirmation}
    (h : ((confirmations.supersede recorded).recordPending wall recorded expected
      baseline).Open key confirmation) :
    (key = recorded ∧ confirmation.expectedValue = expected ∧
        confirmation.baseline = baseline) ∨
      (key ≠ recorded ∧ confirmations.Open key confirmation ∧
        (key ∈ baseModeWrites → recorded ∉ baseModeWrites)) := by
  obtain ⟨hbyKey, hopen⟩ := h
  by_cases hkey : key = recorded
  · subst hkey
    rw [WriteConfirmations.recordPending_self] at hbyKey
    cases hbyKey
    exact .inl ⟨rfl, rfl, rfl⟩
  · rw [WriteConfirmations.recordPending_of_ne hkey] at hbyKey
    have hnot : key ∈ baseModeWrites → recorded ∉ baseModeWrites := by
      intro hbase hrecorded
      rw [WriteConfirmations.isFinal_of_supersede hrecorded hbase hkey hbyKey] at hopen
      cases hopen
    have hsame : (confirmations.supersede recorded).byKey key = confirmations.byKey key := by
      by_cases hbase : key ∈ baseModeWrites
      · exact WriteConfirmations.supersede_of_notMem (.inr (hnot hbase))
      · exact WriteConfirmations.supersede_of_notMem (.inl hbase)
    exact .inr ⟨hkey, ⟨hsame ▸ hbyKey, hopen⟩, hnot⟩

/-- The current state does not confirm a write sent now: its group has not been read since. -/
theorem not_confirms_groupHealth {key : WriteKey} {expected : WriteValue} :
    ¬ Confirms s.state key (s.groupHealth (writeGroup key)) expected := by
  rintro ⟨htried, hnewer, -, -, -⟩
  rcases hdata : s.data with _ | data
  · simp [RoomCoordinator.state, hdata, emptyRoomState, emptyReadHealth] at htried
  · simp [RoomCoordinator.state, RoomCoordinator.groupHealth, hdata] at hnewer

/-- A value that an overlay has just been set to belongs to the write recorded with it. -/
theorem belongs_of_set {C : Type} {overlay : OverlayKind T C} {value : T} {key : WriteKey}
    {expected : WriteValue} {pending : PendingValue T}
    (httl : overlay.ttlSeconds = 15) (hgroups : ReadGroup.flowControl ∈ overlay.readGroups)
    (hclock : t.clock = s.clock) (hdata : t.data = s.data) (hstartup : t.startup = s.startup)
    {confirmation : WriteConfirmation} (hopen : t.confirmations.Open key confirmation)
    (hexpected : confirmation.expectedValue = expected)
    (hbaseline : confirmation.baseline = s.groupHealth .flowControl)
    (hpending : pending ∈ overlay.set s.clock s.data value) :
    t.Belongs key expected pending := by
  obtain rfl := Option.some.inj hpending
  have hhealth : t.groupHealth .flowControl = s.groupHealth .flowControl := by
    simp only [RoomCoordinator.groupHealth, hdata, hstartup]
  refine ⟨confirmation, s.clock.monotonic,
    (s.data.getD emptyRoomState).groupReadHealth .flowControl, hopen, hexpected, by rw [httl],
    .inl (hhealth.trans hbaseline.symm), List.mem_map.mpr ⟨_, hgroups, rfl⟩, ?_, ?_⟩
  · rcases hd : s.data with _ | data
    · exact .inr rfl
    · exact .inl (by simp [hbaseline, RoomCoordinator.groupHealth, hd])
  · rw [hclock]

/-- **An accepted write keeps the invariant**: it is the last base-mode write, its overlay
belongs to it, and the overlays of the writes it replaces are dropped. -/
theorem BaseInvariant.accept (h : BaseInvariant s last) (hplanned : write.Planned) :
    BaseInvariant (s.accept write)
      (if write.writeKey ∈ baseModeWrites then some write.writeKey else last) := by
  obtain ⟨-, hclock, hdata, hstartup, hconf, hlevels, hpresets, -⟩ := accept_frame s write
  have hstate : (s.accept write).state = s.state := by simp [RoomCoordinator.state, hdata]
  have hhealth : ReadFrom s.clock.monotonic (s.groupHealth .flowControl)
      ((s.accept write).groupHealth .flowControl) :=
    .inl (by simp only [RoomCoordinator.groupHealth, hdata, hstartup])
  have hle : s.clock.monotonic ≤ (s.accept write).clock.monotonic := by rw [hclock]
  -- A pending value of another base key: its write is open, so it is superseded or untouched.
  have hother : ∀ {T : Type} {key : WriteKey} {value : WriteValue} {pending : PendingValue T},
      key ∈ baseModeWrites → key ≠ write.writeKey →
      key ∉ s.confirmations.superseded write.writeKey → s.Belongs key value pending →
      (s.accept write).Belongs key value pending := by
    intro T key value pending hbase hne hnot hbelongs
    refine hbelongs.mono hle hhealth fun confirmation hopen _ => ?_
    have hrecorded : write.writeKey ∉ baseModeWrites := fun hrecorded =>
      hnot (WriteConfirmations.mem_superseded.mpr ⟨hrecorded, hbase, hne, confirmation, hopen⟩)
    refine ⟨confirmation, hopen.of_byKey ?_, rfl, rfl⟩
    rw [hconf, WriteConfirmations.recordPending_of_ne hne,
      WriteConfirmations.supersede_of_notMem (.inr hrecorded)]
  refine ⟨fun key hkey c hc => ?_, fun pending hpending hopen => ?_,
    fun pending hpending hopen => ?_, fun key c hc => ?_, by rw [hstartup]; exact h.startup⟩
  · rw [hconf] at hc
    rcases open_of_record hc with ⟨rfl, -, -⟩ | ⟨-, hopen, hnot⟩
    · rw [if_pos hkey]
    · rw [if_neg (hnot hkey)]
      exact h.latest key hkey c hopen
  · rw [hlevels] at hpending
    rw [hclock] at hopen
    split at hpending
    · rename_i supply extract hkey hexpected
      have hconfirmed : write.confirmedExpected = .levels supply extract := by
        cases hplanned <;> first | exact hexpected | cases hkey
      have hvalue : pending.value = _ := congrArg PendingValue.value (Option.some.inj hpending).symm
      rw [hvalue]
      exact belongs_of_set rfl (by decide) hclock hdata hstartup
        ⟨by rw [hconf, ← hkey, WriteConfirmations.recordPending_self], rfl⟩ hconfirmed
        (by rw [RoomCoordinator.baseline, hkey, writeGroup]) hpending
    · rename_i hno
      split at hpending
      · cases hpending
      · rename_i hnot
        have hne : WriteKey.airflowLevels ≠ write.writeKey := by
          rintro heq
          cases hplanned <;> first | exact hno _ _ rfl rfl | cases heq
        exact hother (by decide) hne hnot (h.levels pending hpending hopen)
  · rw [hpresets] at hpending
    rw [hclock] at hopen
    split at hpending
    · rename_i preset hkey hexpected
      have hconfirmed : write.confirmedExpected = .presetMode preset := by
        cases hplanned <;> first | exact hexpected | cases hkey
      have hvalue : pending.value = _ := congrArg PendingValue.value (Option.some.inj hpending).symm
      rw [hvalue]
      exact belongs_of_set rfl (by decide) hclock hdata hstartup
        ⟨by rw [hconf, ← hkey, WriteConfirmations.recordPending_self], rfl⟩ hconfirmed
        (by rw [RoomCoordinator.baseline, hkey, writeGroup]) hpending
    · rename_i hno
      split at hpending
      · cases hpending
      · rename_i hnot
        have hne : WriteKey.presetMode ≠ write.writeKey := by
          rintro heq
          cases hplanned <;> first | exact hno _ rfl rfl | cases heq
        exact hother (by decide) hne hnot (h.presets pending hpending hopen)
  · rw [hconf] at hc
    rw [hstate]
    rcases open_of_record hc with ⟨rfl, -, hbaseline⟩ | ⟨-, hopen, -⟩
    · rw [hbaseline]
      exact not_confirms_groupHealth
    · exact h.judged key c hopen

/-- After a failed write, an outcome is that failure or as it was before. -/
theorem byKey_fail {error : String} {key : WriteKey} {confirmation : WriteConfirmation}
    (h : confirmation ∈ (s.fail write error).confirmations.byKey key) :
    confirmation.status = .failed ∨ confirmation ∈ s.confirmations.byKey key := by
  obtain ⟨-, -, -, -, hconf, -⟩ := fail_frame s write error
  rw [hconf] at h
  by_cases hkey : key = write.writeKey
  · subst hkey
    rw [WriteConfirmations.setStatus_self WriteConfirmations.recordPending_self] at h
    cases h
    exact .inl rfl
  · rw [WriteConfirmations.setStatus_of_ne hkey, WriteConfirmations.recordPending_of_ne hkey] at h
    exact .inr h

/-- **A failed write keeps the invariant**: its outcome is final, and its overlay is
dropped. -/
theorem BaseInvariant.fail (h : BaseInvariant s last) (error : String) :
    BaseInvariant (s.fail write error) last := by
  obtain ⟨-, hclock, hdata, hstartup, hconf, hlevels, hpresets, -⟩ := fail_frame s write error
  have hstate : (s.fail write error).state = s.state := by simp [RoomCoordinator.state, hdata]
  have hhealth : ReadFrom s.clock.monotonic (s.groupHealth .flowControl)
      ((s.fail write error).groupHealth .flowControl) :=
    .inl (by simp only [RoomCoordinator.groupHealth, hdata, hstartup])
  have hle : s.clock.monotonic ≤ (s.fail write error).clock.monotonic := by rw [hclock]
  have hother : ∀ key, key ≠ write.writeKey →
      (s.fail write error).confirmations.byKey key = s.confirmations.byKey key := by
    intro key hne
    rw [hconf, WriteConfirmations.setStatus_of_ne hne, WriteConfirmations.recordPending_of_ne hne]
  -- The failed write is final, so whatever is open was open before.
  have hopen_iff : ∀ key c, (s.fail write error).confirmations.Open key c →
      s.confirmations.Open key c := by
    rintro key c ⟨hbyKey, hopen⟩
    rcases byKey_fail hbyKey with hfailed | hbefore
    · rw [hfailed] at hopen
      cases hopen
    · exact ⟨hbefore, hopen⟩
  refine ⟨fun key hkey c hc => h.latest key hkey c (hopen_iff key c hc),
    fun pending hpending hopen => ?_, fun pending hpending hopen => ?_,
    fun key c hc => hstate ▸ h.judged key c (hopen_iff key c hc), hstartup ▸ h.startup⟩
  · rw [hlevels] at hpending
    rw [hclock] at hopen
    split at hpending
    · cases hpending
    · rename_i hne
      exact (h.levels pending hpending hopen).mono hle hhealth fun c hc _ =>
        ⟨c, hc.of_byKey (hother _ (Ne.symm hne)), rfl, rfl⟩
  · rw [hpresets] at hpending
    rw [hclock] at hopen
    split at hpending
    · cases hpending
    · rename_i hne
      exact (h.presets pending hpending hopen).mono hle hhealth fun c hc _ =>
        ⟨c, hc.of_byKey (hother _ (Ne.symm hne)), rfl, rfl⟩

/-- **A cancelled write keeps the invariant**: it is the last base-mode write, and every
overlay is dropped. -/
theorem BaseInvariant.cancel (h : BaseInvariant s last) (hplanned : write.Planned) :
    BaseInvariant (s.cancel write)
      (if write.writeKey ∈ baseModeWrites then some write.writeKey else last) := by
  obtain ⟨-, hclock, hdata, hstartup, hconf, hkept, hcleared⟩ := cancel_frame s write
  have hstate : (s.cancel write).state = s.state := by simp [RoomCoordinator.state, hdata]
  have hhealth : ReadFrom s.clock.monotonic (s.groupHealth .flowControl)
      ((s.cancel write).groupHealth .flowControl) :=
    .inl (by simp only [RoomCoordinator.groupHealth, hdata, hstartup])
  have hle : s.clock.monotonic ≤ (s.cancel write).clock.monotonic := by rw [hclock]
  -- Only a control setting leaves the overlays, and that is no base-mode write.
  have hother : ∀ {T : Type} {key : WriteKey} {value : WriteValue} {pending : PendingValue T},
      key ∈ baseModeWrites → writeGroup write.writeKey ≠ .flowControl →
      s.Belongs key value pending → (s.cancel write).Belongs key value pending := by
    intro T key value pending hbase hgroup hbelongs
    have hwrite : write.writeKey ∉ baseModeWrites ∧ key ≠ write.writeKey := by
      constructor
      · rintro hmem
        cases hplanned <;> first | exact hgroup rfl | simp [baseModeWrites] at hmem
      · rintro rfl
        cases hplanned <;> first | exact hgroup rfl | simp [baseModeWrites] at hbase
    refine hbelongs.mono hle hhealth fun c hc _ => ⟨c, hc.of_byKey ?_, rfl, rfl⟩
    rw [hconf, WriteConfirmations.markUnconfirmed_of_ne hwrite.2,
      WriteConfirmations.recordPending_of_ne hwrite.2,
      WriteConfirmations.supersede_of_notMem (.inr hwrite.1)]
  have hopen_cases : ∀ key c, (s.cancel write).confirmations.Open key c →
      (key = write.writeKey ∧ c.baseline = s.groupHealth (writeGroup write.writeKey)) ∨
        ∃ previous, s.confirmations.Open key previous ∧
          c.expectedValue = previous.expectedValue ∧ c.baseline = previous.baseline ∧
          (key ∈ baseModeWrites → write.writeKey ∉ baseModeWrites) := by
    intro key c hc
    rw [hconf] at hc
    obtain ⟨previous, hprevious, hexpected, hbaseline⟩ := open_markUnconfirmed.1 hc
    rcases open_of_record hprevious with ⟨rfl, -, hb⟩ | ⟨-, hopen, hnot⟩
    · exact .inl ⟨rfl, hbaseline.trans hb⟩
    · exact .inr ⟨previous, hopen, hexpected, hbaseline, hnot⟩
  refine ⟨fun key hkey c hc => ?_, fun pending hpending hopen => ?_,
    fun pending hpending hopen => ?_, fun key c hc => ?_, hstartup ▸ h.startup⟩
  · rcases hopen_cases key c hc with ⟨rfl, -⟩ | ⟨previous, hprevious, -, -, hnot⟩
    · rw [if_pos hkey]
    · rw [if_neg (hnot hkey)]
      exact h.latest key hkey previous hprevious
  · by_cases hgroup : writeGroup write.writeKey = .flowControl
    · rw [(hcleared hgroup).1] at hpending
      cases hpending
    · exact hother (by decide) hgroup (h.levels pending
        (mem_of_eq_or_none hkept.levels hpending) (hle.trans_lt hopen))
  · by_cases hgroup : writeGroup write.writeKey = .flowControl
    · rw [(hcleared hgroup).2.1] at hpending
      cases hpending
    · exact hother (by decide) hgroup (h.presets pending
        (mem_of_eq_or_none hkept.presets hpending) (hle.trans_lt hopen))
  · rw [hstate]
    rcases hopen_cases key c hc with ⟨rfl, hbaseline⟩ | ⟨previous, hopen, hexpected, hbaseline, -⟩
    · rw [hbaseline]
      exact not_confirms_groupHealth
    · rw [hexpected, hbaseline]
      exact h.judged key previous hopen

/-- **Every step keeps the invariant**, except an off readback. -/
theorem BaseInvariant.step (h : BaseInvariant s last) (hok : NoOffReadback (s, last) label)
    (hstep : s.step label = some t) : BaseInvariant t (recordBase s label last) := by
  rcases s.step_cases hstep with ⟨command, outcome, finished, u, write, rfl, hle, hprepare,
    hwrite, rfl⟩ | ⟨hwrite, hcases⟩
  · obtain ⟨hquiet, hplanned⟩ : s.Quiet u ∧ write.Planned := by
      have hsound := s.sound_prepare command
      rwa [hprepare] at hsound
    have hu : BaseInvariant (u.atClock finished) last := h.quiet (hquiet.atClock hle)
    have hroom : (u.atClock finished).room = s.room := hquiet.room
    unfold finishWrite recordBase
    rw [hroom, hwrite]
    cases write.outcome s.room outcome with
    | accepted => exact hu.accept hplanned
    | failed error => exact hu.fail error
    | cancelled => exact hu.cancel hplanned
  · have hlast : recordBase s label last = last := by simp [recordBase, hwrite]
    rw [hlast]
    rcases hcases with ⟨-, hquiet⟩ | ⟨state, hjudged⟩ | ⟨state, u, write, hjudged, -, rfl⟩ |
      hstartup
    · exact h.quiet hquiet
    · exact h.judge hok hjudged
    · exact (h.judge hok hjudged).finishReadBack write
    · exact h.startupOnly hstartup

end Steps

/-! ### Runs -/

/-- **The base-mode writes and their overlays agree**, in every run without an off
readback. -/
theorem baseWrites_of_reach {s : RoomCoordinator × Option WriteKey}
    (h : Reach BaseStep NoOffReadback BaseStart s) : BaseWritesAgree s := by
  refine BaseInvariant.agree (h.invariant (P := fun s => BaseInvariant s.1 s.2) ?_ ?_)
  · rintro ⟨_, _⟩ ⟨⟨room, clock, rfl⟩, rfl⟩
    refine ⟨?_, ?_, ?_, ?_, ?_⟩
    · rintro key - c ⟨hc, -⟩
      cases hc
    · rintro _ ⟨⟩
    · rintro _ ⟨⟩
    · rintro key c ⟨hc, -⟩
      cases hc
    · rintro _ ⟨⟩
  · intro s label t hinv hok hstep
    obtain ⟨hs, hrecord⟩ := recorded_eq_some.mp hstep
    rw [hrecord]
    exact BaseInvariant.step hinv hok hs

/-- No read reports the unit off at all. -/
def NeverOff (s : RoomCoordinator × Option WriteKey) (label : Label) : Prop :=
  ∀ read ∈ s.1.readState label, read.1.operationMode ≠ some .off

instance (s : RoomCoordinator × Option WriteKey) : DecidablePred (NeverOff s) :=
  fun label => inferInstanceAs (Decidable (∀ read ∈ s.1.readState label, _))

theorem NeverOff.noOffReadback {s : RoomCoordinator × Option WriteKey} {label : Label}
    (h : NeverOff s label) : NoOffReadback s label :=
  fun _ _ hread _ _ _ _ _ hoff => h _ hread hoff.1

/-- An airflow is set and read back by a poll, and another one is set. -/
def levelReadBack : List Label :=
  [.poll (.airflow manualRead .failed) ⟨false, false⟩ (atSecond 1) (atSecond 1),
    .command (.setLevel 60) .accepted (atSecond 2),
    .poll (.airflow (.blocks (.values ⟨60, 60⟩) (.values ⟨modeManual, 124, 124⟩)) (.value 124))
      ⟨false, false⟩ (atSecond 5) (atSecond 5),
    .command (.setLevel 40) .accepted (atSecond 6)]

theorem baseWrites_of_reach_levelReadBack :
    ∃ s, run BaseStep levelReadBack (sampleStart, none) = some s ∧
      s.2 = some .airflowLevels ∧ s.1.pendingLevels = some (40, 40) ∧
      (s.1.confirmations.byKey .airflowLevels).map (·.status) = some .pending ∧
      BaseWritesAgree s := by
  have hstart : Reach BaseStep NoOffReadback BaseStart (sampleStart, none) :=
    .start ⟨sampleStart_started, rfl⟩
  have halong : Along BaseStep NeverOff levelReadBack (sampleStart, none) := by decide +kernel
  obtain ⟨s, hrun, hreach, hs⟩ := hstart.exists_of_run levelReadBack
    (fun s => s.2 = some .airflowLevels ∧ s.1.pendingLevels = some (40, 40) ∧
      (s.1.confirmations.byKey .airflowLevels).map (·.status) = some .pending)
    (halong.mono fun _ _ => NeverOff.noOffReadback) (by decide +kernel)
  obtain ⟨hlast, hshown, hopen⟩ := of_decide_eq_true hs
  exact ⟨s, hrun, hlast, hshown, hopen, baseWrites_of_reach hreach⟩

/-- An airflow is set, and the unit is switched off by hand before the first readback; its
target register still holds the airflow. -/
def levelSwitchedOff : List Label :=
  [.poll (.airflow manualRead .failed) ⟨false, false⟩ (atSecond 1) (atSecond 1),
    .command (.setLevel 60) .accepted (atSecond 2),
    .poll (.airflow (.blocks (.values ⟨0, 0⟩) (.values ⟨modeOff, 0, 0⟩)) (.value 124))
      ⟨false, false⟩ (atSecond 5) (atSecond 5)]

/-- **An airflow overlay without an open write**: in this run the readback confirms the
airflow write, and the overlay stays on display. -/
theorem baseWrites_refuted :
    ∃ s, run BaseStep levelSwitchedOff (sampleStart, none) = some s ∧
      Reach BaseStep (fun _ _ => True) BaseStart s ∧ ¬ BaseWritesAgree s := by
  have hstart : Reach BaseStep (fun _ _ => True) BaseStart (sampleStart, none) :=
    .start ⟨sampleStart_started, rfl⟩
  obtain ⟨s, hrun, hreach, hs⟩ := hstart.exists_of_run levelSwitchedOff
    (fun s => s.1.pendingLevels = some (60, 60) ∧
      ∀ confirmation ∈ s.1.confirmations.byKey .airflowLevels,
        confirmation.status.isFinal = true) (by decide +kernel) (by decide +kernel)
  refine ⟨s, hrun, hreach, fun h => ?_⟩
  obtain ⟨hpending, hfinal⟩ := of_decide_eq_true hs
  obtain ⟨confirmation, ⟨hbyKey, hopen⟩, -⟩ := h.levels _ hpending
  rw [hfinal confirmation hbyKey] at hopen
  cases hopen

end MeltemVentilation
