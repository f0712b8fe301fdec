import MeltemVentilation.CarriedLevels

/-!
# Values that were read before a write

A write is judged, and a pending value is dropped, by the first read of its group that comes
after it. That the health of the group is newer does not say that the value is: `applyModeRead`
keeps the base mode when the status map reports intensive, and derives the targets from the
measured airflow when there is no map; the exact target is carried from one state to the next;
and pending levels are dropped after a read of the airflow or of the map, whichever of them the
reported levels come from.

Three kinds of reads break the rule, and `NoCarriedVerdict` excludes them: a map that reports
intensive while a cached quick mode can still judge a write, an old exact target that is carried
into a state that can judge one, and levels from before a write that a read leaves reported and
that reach the pending ones (`carriedLevels`). In every run without them each verdict rests on
values that were read after the write (`judgedAfresh_of_reach`), and with any of them it may not
(`judgedAfresh_refuted`).

The invariant `Informed` ties the record of a run to the two things that the verdicts look at.
The health recorded for each open write and each pending value is watched. And where a newer
health does not mean a newer value, no verdict is left that could use it (`ReadRecord.Fits`).
-/

namespace MeltemVentilation

open RoomCoordinator Transition
open ReadHealth (Unread)

/-! ### What is compared -/

/-- The parts of the state that the value compared with a write is decoded from. -/
def comparedParts (state : RoomState) : WriteKey → List StatePart
  | .airflowLevels =>
    match state.operationMode with
    | some .manual | some .off => [.exactTarget]
    | some .unbalanced => [.targets]
    | _ => []
  | .operationMode | .presetMode => [.baseMode]
  | .intensive => [.intensive]
  | .controlSetting _ => [.settings]

/-- Whether a step ends with the pass that judges writes and drops pending values. -/
def Label.confirms : Label → Bool
  | .readBack _ _ _ | .poll _ _ _ _ | .otherPoll _ _ | .otherReadBack _ => true
  | .elapse _ | .expire _ | .queryLevels | .command _ _ _ | .cancelReadBack => false

/-- **Every verdict of a step rests on values that were read after the write**: a write that
turns confirmed or mismatched was compared with such a value, and so was a pending value that
the confirmation pass drops. -/
structure JudgedAfresh (s : RoomCoordinator) (label : Label) (t : RoomCoordinator)
    (record : ReadRecord) : Prop where
  writes : ∀ key, ∀ before ∈ s.confirmations.byKey key, ∀ after ∈ t.confirmations.byKey key,
    after ≠ before → after.status = .confirmed ∨ after.status = .mismatch →
      ∀ part ∈ comparedParts t.state key, record key part = true
  presets : label.confirms = true → ∀ pending ∈ s.optimisticPresets,
    presetOverlay.settleIfRead t.clock (some pending) t.state t.state.presetMode = none →
      record .presetMode .baseMode = true
  intensive : label.confirms = true → ∀ pending ∈ s.optimisticIntensive,
    intensiveOverlay.settleIfRead t.clock (some pending) t.state t.state.intensiveActive = none →
      record .intensive .intensive = true
  levels : label.confirms = true → ∀ pending ∈ s.optimisticLevels,
    levelsOverlay.settleIfRead t.clock (some pending) t.state (reportedLevels t.clock t.state).1 =
      none → ∀ part ∈ reportedParts t.clock t.state, record .airflowLevels part = true

/-! ### The condition on a step -/

/-- A status map that reports intensive, read before any map has shown the base mode since the
last quick-mode write, leaves a cached quick mode that has nothing to judge: no quick-mode
write is open, and the pending quick mode is another one. -/
def CachedQuickModeIdle (x : RoomCoordinator × ReadRecord) (label : Label) : Prop :=
  label.reads .flowControl = true → x.1.origin label .baseMode = .kept →
    x.2 .presetMode .baseMode = false → ∀ preset ∈ x.1.state.presetMode,
      (∀ confirmation ∈ x.1.confirmations.byKey .presetMode, confirmation.status.isFinal = true) ∧
        ∀ pending ∈ x.1.optimisticPresets, pending.value ≠ preset

/-- An exact target from before the last airflow write that a read carries into a state with a
newer status map, one that does not report intensive, has nothing to judge: no airflow write
is open. -/
def CarriedTargetIdle (x : RoomCoordinator × ReadRecord) (label : Label) : Prop :=
  ∀ read ∈ x.1.readState label, read.1.intensiveActive ≠ some true →
    read.1.balancedTargetReadback.isSome = true →
    recordReads x.1 label x.2 .airflowLevels .intensive = true →
    recordReads x.1 label x.2 .airflowLevels .exactTarget = false →
      ∀ confirmation ∈ x.1.confirmations.byKey .airflowLevels, confirmation.status.isFinal = true

/-- **The condition on a step**: no value from before a write is left where it could judge it. -/
structure NoCarriedVerdict (x : RoomCoordinator × ReadRecord) (label : Label) : Prop where
  quickMode : CachedQuickModeIdle x label
  exactTarget : CarriedTargetIdle x label
  levels : CarriedLevelsIdle x label

instance (x : RoomCoordinator × ReadRecord) : DecidablePred (CachedQuickModeIdle x) :=
  fun _ => inferInstanceAs (Decidable (_ → _ → _ → ∀ _ ∈ _, _ ∧ _))

instance (x : RoomCoordinator × ReadRecord) : DecidablePred (CarriedTargetIdle x) :=
  fun _ => inferInstanceAs (Decidable (∀ _ ∈ _, _ → _ → _ → _ → ∀ _ ∈ _, _))

instance (x : RoomCoordinator × ReadRecord) : DecidablePred (NoCarriedVerdict x) :=
  fun label => decidable_of_iff
    (CachedQuickModeIdle x label ∧ CarriedTargetIdle x label ∧ CarriedLevelsIdle x label)
    ⟨fun ⟨hquick, hexact, hlevels⟩ => ⟨hquick, hexact, hlevels⟩,
      fun h => ⟨h.quickMode, h.exactTarget, h.levels⟩⟩

/-! ### Where a newer health does not mean a newer value -/

/-- **What the record says of the values of a state.** A status map that was read since a write
has shown the base mode unless the state says that intensive runs, and an unbalanced state has
its targets from that map. Where the exact target or the quick mode is older than the write
although the map is not, nothing is left that it could judge. -/
structure ReadRecord.Fits (record : ReadRecord) (s : RoomCoordinator) (state : RoomState) :
    Prop where
  shown : ∀ key, record key .intensive = true → state.intensiveActive ≠ some true →
    record key .baseMode = true
  targets : ∀ key, record key .baseMode = true → state.operationMode = some .unbalanced →
    record key .targets = true
  exactTarget : state.intensiveActive ≠ some true → state.balancedTargetReadback.isSome = true →
    record .airflowLevels .intensive = true → record .airflowLevels .exactTarget = false →
      ∀ confirmation, ¬ s.confirmations.Open .airflowLevels confirmation
  quickMode : record .presetMode .intensive = true → record .presetMode .baseMode = false →
    ∀ preset ∈ state.presetMode,
      (∀ confirmation, ¬ s.confirmations.Open .presetMode confirmation) ∧
        ∀ pending ∈ s.optimisticPresets, pending.value ≠ preset

section Fits

variable {s t : RoomCoordinator} {label : Label} {record : ReadRecord} {previous state : RoomState}
  {reply : PlanReply} {replied finished : Clock}

/-- A final outcome is not open. -/
theorem not_open_of_final {confirmations : WriteConfirmations} {key : WriteKey}
    (h : ∀ confirmation ∈ confirmations.byKey key, confirmation.status.isFinal = true)
    (confirmation : WriteConfirmation) : ¬ confirmations.Open key confirmation := by
  rintro ⟨hbyKey, hopen⟩
  rw [h confirmation hbyKey] at hopen
  cases hopen

/-- What the record says of the polled state it says of any state that a read starts from. -/
theorem ReadRecord.Fits.of_previous (h : record.Fits s s.state) (hprevious : s.Previous previous)
    (hstartup : ∀ state ∈ s.startup, state.hasData = false) : record.Fits s previous := by
  have hsame := hprevious.sameBase hstartup
  have hreadback := hprevious.balancedTargetReadback hstartup
  refine ⟨fun key => ?_, fun key => ?_, ?_, ?_⟩
  · rw [hsame.intensiveActive]
    exact h.shown key
  · rw [hsame.operationMode]
    exact h.targets key
  · rw [hsame.intensiveActive, hreadback]
    exact h.exactTarget
  · rw [hsame.presetMode]
    exact h.quickMode

/-- A read keeps the record fitting, under the condition on it. -/
theorem ReadRecord.Fits.read (h : record.Fits s s.state)
    (hstartup : ∀ state ∈ s.startup, state.hasData = false)
    (hok : NoCarriedVerdict (s, record) label)
    (hstate : s.readState label = some (state, finished)) :
    (recordReads s label record).Fits s state := by
  obtain ⟨previous, polled, reply, replied, hinput, hreply, hprevious, hwrite, hresult⟩ :=
    readState_eq_some hstate
  have hbefore := h.of_previous hprevious hstartup
  have hsame := hprevious.sameBase hstartup
  have hkey : ∀ key, s.writesKey label key = false := writesKey_of_writeOf_none hwrite
  obtain ⟨-, readback, hframe⟩ := (s.atClock replied).applyReply_frame previous polled reply
  have hmode : state.operationMode = (reply.state s.room replied previous).operationMode ∧
      state.presetMode = (reply.state s.room replied previous).presetMode ∧
      state.intensiveActive = (reply.state s.room replied previous).intensiveActive := by
    rw [hresult, hframe]
    exact ⟨rfl, rfl, rfl⟩
  have hintensive : ∀ key, recordReads s label record key .intensive = true ↔
      reply.reads .flowControl = true ∨ record key .intensive = true :=
    fun key => recordReads_intensive hinput (hkey key)
  have hshown : ∀ key, recordReads s label record key .baseMode = true ↔
      reply.showsBaseMode = true ∨ record key .baseMode = true :=
    fun key => recordReads_baseMode hinput (hkey key)
  have hcases := reply.baseMode_cases s.room replied previous
  refine ⟨fun key hread hvisible => ?_, fun key hbase hunbalanced => ?_,
    fun hvisible hsome hread hold => ?_, fun hread hhidden preset hpreset => ?_⟩
  · rw [hmode.2.2] at hvisible
    rw [hshown]
    rcases hcases with ⟨hshows, -⟩ | ⟨-, -, hactive, -⟩ | ⟨-, hunread, hkept⟩
    · exact .inl hshows
    · exact absurd hactive hvisible
    · -- Without a map the record and the state are those from before the read.
      rw [hintensive, hunread] at hread
      rw [hkept.intensiveActive] at hvisible
      exact .inr (hbefore.shown key (by simpa using hread) hvisible)
  · -- An unbalanced state has its targets from the map that says so, or keeps them with it.
    rw [hmode.1] at hunbalanced
    have horigin : s.origin label .targets =
        if reply.showsBaseMode then .read else .kept := by
      simp only [RoomCoordinator.origin, hinput]
      exact PlanReply.targetsOrigin_of_unbalanced hunbalanced
    rw [recordReads_of_not_writesKey (hkey key), horigin]
    rw [hshown] at hbase
    rcases hcases with ⟨hshows, -⟩ | ⟨hshows, -, -, hkept, -⟩ | ⟨hshows, -, hkept⟩
    · simp [hshows]
    · rw [hkept] at hunbalanced
      simpa [hshows] using hbefore.targets key (by simpa [hshows] using hbase) hunbalanced
    · rw [hkept.operationMode] at hunbalanced
      simpa [hshows] using hbefore.targets key (by simpa [hshows] using hbase) hunbalanced
  · exact not_open_of_final (hok.exactTarget (state, finished) hstate hvisible hsome hread hold)
  · rw [← Bool.not_eq_true, hshown, not_or, Bool.not_eq_true, Bool.not_eq_true] at hhidden
    rw [hmode.2.1] at hpreset
    rw [hintensive] at hread
    rcases hcases with ⟨hshows, -⟩ | ⟨-, hmap, -, -, hkept⟩ | ⟨-, hunread, hkept⟩
    · rw [hshows] at hhidden
      cases hhidden.1
    · -- The map hides the base mode, so the quick mode is the cached one.
      have horigin : s.origin label .baseMode = .kept := by
        simp [RoomCoordinator.origin, hinput, hhidden.1]
      have hreads : label.reads .flowControl = true := by simpa [Label.reads, hreply] using hmap
      rw [hkept, hsame.presetMode] at hpreset
      obtain ⟨hfinal, hother⟩ := hok.quickMode hreads horigin hhidden.2 preset hpreset
      exact ⟨not_open_of_final hfinal, hother⟩
    · rw [hkept.presetMode] at hpreset
      exact hbefore.quickMode (by simpa [hunread] using hread) hhidden.2 preset hpreset

/-- **What the record says of a state that a step judges by.** -/
theorem ReadRecord.Fits.source (h : record.Fits s s.state)
    (hstartup : ∀ state ∈ s.startup, state.hasData = false)
    (hok : NoCarriedVerdict (s, record) label) (hwrite : s.writeOf label = none)
    (hsource : s.Source label state finished) : (recordReads s label record).Fits s state := by
  rcases hsource with ⟨hreply, hprevious⟩ | ⟨hstate, -⟩
  · have hsame : recordReads s label record = record := by
      funext key part
      exact recordReads_of_reply_none (writesKey_of_writeOf_none hwrite key) hreply
    rw [hsame]
    exact h.of_previous hprevious hstartup
  · exact h.read hstartup hok hstate

/-- The record keeps fitting while the writes that were open, and the quick mode that was
pending, are the only ones. -/
theorem ReadRecord.Fits.keep (h : record.Fits s state)
    (hopen : ∀ key confirmation, t.confirmations.Open key confirmation →
      ∃ before, s.confirmations.Open key before)
    (hpresets : ∀ pending ∈ t.optimisticPresets, pending ∈ s.optimisticPresets) :
    record.Fits t state where
  shown := h.shown
  targets := h.targets
  exactTarget hvisible hsome hread hold confirmation hc := by
    obtain ⟨before, hbefore⟩ := hopen _ confirmation hc
    exact h.exactTarget hvisible hsome hread hold before hbefore
  quickMode hread hhidden preset hpreset := by
    obtain ⟨hfinal, hother⟩ := h.quickMode hread hhidden preset hpreset
    refine ⟨fun confirmation hc => ?_, fun pending hpending =>
      hother pending (hpresets pending hpending)⟩
    obtain ⟨before, hbefore⟩ := hopen _ confirmation hc
    exact hfinal before hbefore

/-- A read that leaves no value has shown nothing of the base mode. -/
theorem ReadRecord.Fits.unread (h : record.Fits s s.state)
    (hstartup : ∀ state ∈ s.startup, state.hasData = false)
    (hstate : s.readState label = some (state, finished)) (hdata : state.hasData = false) :
    (recordReads s label record).Fits s s.state := by
  obtain ⟨previous, polled, reply, replied, hinput, -, hprevious, hwrite, hresult⟩ :=
    readState_eq_some hstate
  obtain ⟨-, readback, hframe⟩ := (s.atClock replied).applyReply_frame previous polled reply
  have hkey : ∀ key, s.writesKey label key = false := writesKey_of_writeOf_none hwrite
  have hnone : (reply.state s.room replied previous).intensiveActive = none ∧
      (reply.state s.room replied previous).operationMode = none := by
    rw [hresult, hframe] at hdata
    exact ⟨(RoomState.noValues hdata).intensiveActive, (RoomState.noValues hdata).operationMode⟩
  obtain ⟨hunread, hkept⟩ : reply.reads .flowControl = false ∧
      SameBase previous (reply.state s.room replied previous) := by
    rcases reply.baseMode_cases s.room replied previous with ⟨-, hactive⟩ | ⟨-, -, hactive, -⟩ |
      ⟨-, hunread, hkept⟩
    · rw [hnone.1] at hactive
      cases hactive
    · rw [hnone.1] at hactive
      cases hactive
    · exact ⟨hunread, hkept⟩
  have hbefore : ∀ {key part}, part ≠ .targets → recordReads s label record key part = false →
      record key part = false := by
    intro key part hpart hunread
    exact (recordReads_eq_false (hkey key) hpart hunread).2
  have hintensive : ∀ {key}, recordReads s label record key .intensive = true →
      record key .intensive = true := by
    intro key hread
    rw [recordReads_intensive hinput (hkey key), hunread] at hread
    simpa using hread
  refine ⟨fun key hread hvisible => ?_, fun key _ hunbalanced => ?_,
    fun hvisible hsome hread hold => ?_, fun hread hhidden => ?_⟩
  · exact (recordReads_iff (hkey key) (by decide)).mpr
      (.inr (h.shown key (hintensive hread) hvisible))
  · have hsame := hprevious.sameBase hstartup
    rw [← hsame.operationMode, ← hkept.operationMode, hnone.2] at hunbalanced
    cases hunbalanced
  · exact h.exactTarget hvisible hsome (hintensive hread) (hbefore (by decide) hold)
  · exact h.quickMode (hintensive hread) (hbefore (by decide) hhidden)

/-- **A step without a write keeps the record fitting**, under the condition on it. -/
theorem ReadRecord.Fits.step (h : record.Fits s s.state)
    (hstartup : ∀ state ∈ s.startup, state.hasData = false)
    (hok : NoCarriedVerdict (s, record) label) (hwrite : s.writeOf label = none)
    (hstep : s.step label = some t) : (recordReads s label record).Fits s t.state := by
  rcases hread : s.readState label with _ | ⟨state, finished⟩
  · have hprevious : s.Previous t.state := by
      rcases t.previous_state.of_step hstep with hprevious | ⟨-, hprevious⟩ | ⟨hsome, -⟩
      · exact hprevious
      · exact hprevious
      · rw [hread] at hsome
        cases hsome
    have hreply : label.reply = none := by
      cases label <;> first | rfl | cases hread
    have hsame : recordReads s label record = record := by
      funext key part
      exact recordReads_of_reply_none (writesKey_of_writeOf_none hwrite key) hreply
    rw [hsame]
    exact h.of_previous hprevious hstartup
  · rcases state_of_step hstep hread with hstate | ⟨hstate, hdata⟩
    · rw [hstate]
      exact h.read hstartup hok hread
    · rw [hstate]
      exact h.unread hstartup hread hdata

end Fits

/-! ### The invariant -/

/-- The health that a pending value was set with is watched. -/
def ReadRecord.WatchesPending {T : Type} (record : ReadRecord) (s : RoomCoordinator)
    (key : WriteKey) (groups : List ReadGroup) (pending : PendingValue T) : Prop :=
  ∀ baseline ∈ pending.baseline, baseline.1 ∈ groups ∧
    record.Watches s key baseline.1 baseline.2

/-- **The record of a run knows what its verdicts may use.** -/
structure Informed (s : RoomCoordinator) (record : ReadRecord) : Prop where
  settled : s.Settled
  known : s.ReadsKnown
  fits : record.Fits s s.state
  writes : ∀ key confirmation, s.confirmations.Open key confirmation →
    record.Watches s key (writeGroup key) confirmation.baseline
  presets : ∀ pending ∈ s.optimisticPresets,
    record.WatchesPending s .presetMode presetOverlay.readGroups pending
  intensive : ∀ pending ∈ s.optimisticIntensive,
    record.WatchesPending s .intensive intensiveOverlay.readGroups pending
  levels : ∀ pending ∈ s.optimisticLevels,
    record.WatchesPending s .airflowLevels levelsOverlay.readGroups pending

section Informed

variable {s t : RoomCoordinator} {label : Label} {record : ReadRecord} {key : WriteKey}
  {groups : List ReadGroup} {state : RoomState} {finished : Clock} {T C : Type}
  {pending : PendingValue T}

theorem informed_of_started (h : s.Started) : Informed s (fun _ _ => false) := by
  have hsettled := settled_of_started h
  have hknown := readsKnown_of_started h
  obtain ⟨room, clock, rfl⟩ := h
  refine ⟨hsettled, hknown, ⟨?_, ?_, ?_, ?_⟩, ?_, ?_, ?_, ?_⟩
  · rintro key ⟨⟩
  · rintro key ⟨⟩
  · rintro - - ⟨⟩
  · rintro ⟨⟩
  · rintro key confirmation ⟨hnone, -⟩
    cases hnone
  · rintro pending ⟨⟩
  · rintro pending ⟨⟩
  · rintro pending ⟨⟩

/-! #### Steps without a write -/

theorem ReadRecord.WatchesPending.step (h : record.WatchesPending s key groups pending)
    (hstep : s.step label = some t) (hkey : s.writesKey label key = false) :
    (recordReads s label record).WatchesPending t key groups pending :=
  fun baseline hbaseline =>
    ⟨(h baseline hbaseline).1, (h baseline hbaseline).2.step hstep hkey⟩

/-- **A step without a write keeps the record informed.** -/
theorem Informed.read (h : Informed s record) (hok : NoCarriedVerdict (s, record) label)
    (hwrite : s.writeOf label = none) (hstep : s.step label = some t) :
    Informed t (recordReads s label record) := by
  have hnarrows := narrows_of_step hstep hwrite
  have hkey : ∀ key, s.writesKey label key = false := writesKey_of_writeOf_none hwrite
  refine ⟨settled_step h.settled hstep, h.known.step hstep, ?_, fun key confirmation hopen => ?_,
    fun pending hpending => ?_, fun pending hpending => ?_, fun pending hpending => ?_⟩
  · refine (h.fits.step h.settled.startup hok hwrite hstep).keep
      (fun key confirmation hopen => ?_) hnarrows.presets
    obtain ⟨before, hbefore, -⟩ := hnarrows.opened key confirmation hopen
    exact ⟨before, hbefore⟩
  · obtain ⟨before, hbefore, hbaseline⟩ := hnarrows.opened key confirmation hopen
    rw [hbaseline]
    exact (h.writes key before hbefore).step hstep (hkey key)
  · exact (h.presets pending (hnarrows.presets pending hpending)).step hstep (hkey _)
  · exact (h.intensive pending (hnarrows.intensive pending hpending)).step hstep (hkey _)
  · exact (h.levels pending (hnarrows.levels pending hpending)).step hstep (hkey _)

/-! #### Steps with a write -/

/-- **A write keeps the record fitting**: it supersedes or replaces what the record no longer
speaks of. -/
theorem ReadRecord.Fits.restart {written : WriteKey} (h : record.Fits s s.state)
    (hwrites : s.Writes written t) (hstate : t.state = s.state) :
    (record.restart written).Fits t t.state := by
  rw [hstate]
  have hopened : ∀ {key}, key ≠ written → (∀ before, ¬ s.confirmations.Open key before) →
      ∀ confirmation, ¬ t.confirmations.Open key confirmation := by
    intro key hne hclosed confirmation hopen
    rcases hwrites.opened key confirmation hopen with ⟨hsame, -⟩ | ⟨-, before, hbefore, -⟩
    · exact hne hsame
    · exact hclosed before hbefore
  refine ⟨fun key hread hvisible => ?_, fun key hbase hunbalanced => ?_,
    fun hvisible hsome hread hold => ?_, fun hread hhidden preset hpreset => ?_⟩
  · obtain ⟨hne, hread⟩ := ReadRecord.restart_eq_true.mp hread
    exact ReadRecord.restart_eq_true.mpr ⟨hne, h.shown key hread hvisible⟩
  · obtain ⟨hne, hbase⟩ := ReadRecord.restart_eq_true.mp hbase
    exact ReadRecord.restart_eq_true.mpr ⟨hne, h.targets key hbase hunbalanced⟩
  · obtain ⟨hne, hread⟩ := ReadRecord.restart_eq_true.mp hread
    rw [ReadRecord.restart_of_ne hne] at hold
    exact hopened hne (h.exactTarget hvisible hsome hread hold)
  · obtain ⟨hne, hread⟩ := ReadRecord.restart_eq_true.mp hread
    rw [ReadRecord.restart_of_ne hne] at hhidden
    obtain ⟨hclosed, hother⟩ := h.quickMode hread hhidden preset hpreset
    refine ⟨hopened hne hclosed, fun pending hpending => ?_⟩
    rcases hwrites.presets pending hpending with ⟨hsame, -⟩ | ⟨-, hbefore⟩
    · exact absurd hsame.symm hne
    · exact hother pending hbefore

/-- **A write keeps the record informed.** -/
theorem Informed.write {written : WriteKey} (h : Informed s record) (hstep : s.step label = some t)
    (hwrites : s.Writes written t) (hdata : t.data = s.data) (hstartup : t.startup = s.startup) :
    Informed t (record.restart written) := by
  have hstate : t.state = s.state := by simp only [RoomCoordinator.state, hdata]
  have hprevious : ∀ state, t.Previous state → s.Previous state := by
    intro state hprevious
    rwa [Previous, hstate, hdata, hstartup] at hprevious
  have hpending : ∀ {T : Type} {key : WriteKey} {groups : List ReadGroup}
      {before : Option (PendingValue T)} {pending : PendingValue T}, groups ⊆ airflowReadGroups →
      (∀ pending ∈ before, record.WatchesPending s key groups pending) →
      (written = key ∧ pending.SetAt groups s.state) ∨ (written ≠ key ∧ pending ∈ before) →
      (record.restart written).WatchesPending t key groups pending := by
    rintro T key groups before pending hgroups hbefore (⟨-, hset⟩ | ⟨hne, hkept⟩) baseline hmem
    · obtain ⟨hgroup, hhealth⟩ := hset baseline hmem
      refine ⟨hgroup, fun _ state hstate => ?_⟩
      rw [hhealth]
      exact h.known.unread h.settled.startup (hprevious state hstate) (hgroups hgroup)
    · obtain ⟨hgroup, hwatches⟩ := hbefore pending hkept baseline hmem
      exact ⟨hgroup, hwatches.restart hne.symm hprevious⟩
  refine ⟨settled_step h.settled hstep, h.known.step hstep, h.fits.restart hwrites hstate,
    fun key confirmation hopen => ?_, fun pending hmem => ?_, fun pending hmem => ?_,
    fun pending hmem => ?_⟩
  · rcases hwrites.opened key confirmation hopen with ⟨rfl, hbaseline⟩ |
      ⟨hne, before, hbefore, hbaseline⟩
    · rw [hbaseline]
      exact fun _ state hstate => (hprevious state hstate).unread _
    · rw [hbaseline]
      exact (h.writes key before hbefore).restart hne hprevious
  · exact hpending (by decide) h.presets (hwrites.presets pending hmem)
  · exact hpending (by decide) h.intensive (hwrites.intensive pending hmem)
  · exact hpending (by decide) h.levels (hwrites.levels pending hmem)

/-- **Every step keeps the record informed**, under the condition on it. -/
theorem Informed.step (h : Informed s record) (hok : NoCarriedVerdict (s, record) label)
    (hstep : s.step label = some t) : Informed t (recordReads s label record) := by
  rcases hwrite : s.writeOf label with _ | ⟨write, outcome⟩
  · exact h.read hok hwrite hstep
  · obtain ⟨hwrites, hdata, hstartup⟩ := writes_of_step hstep hwrite
    rw [recordReads_of_writeOf hwrite]
    exact h.write hstep hwrites hdata hstartup

/-! ### Verdicts -/

theorem not_unread_of_readSince {clock : Clock} {group : ReadGroup} {health : ReadHealth}
    (h : readSince clock state group health = true) :
    ¬ Unread health (state.groupReadHealth group) := fun hunread =>
  ne_of_readSince h (eq_of_unread hunread (groupFresh_of_readSince h))

/-- The groups of a pending value that were read since it was set. -/
theorem ReadRecord.WatchesPending.read (h : record.WatchesPending s key groups pending)
    (hkey : s.writesKey label key = false)
    (hstate : s.Previous state ∨ s.Source label state finished) {clock : Clock}
    (hread : OverlayKind.readSinceSet clock (some state) (some pending) = true) :
    ∃ group ∈ groups, groupFresh clock state group = true ∧
      recordReads s label record key group.part = true := by
  obtain ⟨baseline, hmem, hsince⟩ := List.any_eq_true.mp hread
  obtain ⟨hgroup, hwatches⟩ := h baseline hmem
  exact ⟨baseline.1, hgroup, groupFresh_of_readSince hsince,
    hwatches.read hkey hstate (not_unread_of_readSince hsince)⟩

/-- **What is compared with an open write is on record**, once its group is and intensive does not
hide the value. -/
theorem ReadRecord.Fits.compared (h : record.Fits s state) {confirmation : WriteConfirmation}
    {actual : WriteValue} (hopen : s.confirmations.Open key confirmation)
    (hread : record key (writeGroup key).part = true)
    (hvisible : ¬ (key.hiddenByIntensive = true ∧ state.intensiveActive = some true))
    (hactual : readbackValue state key = some actual) :
    ∀ part ∈ comparedParts state key, record key part = true := by
  cases key with
  | airflowLevels =>
    have hactive : state.intensiveActive ≠ some true := fun hactive => hvisible ⟨rfl, hactive⟩
    have hshown := h.shown _ hread hactive
    have hexact : state.balancedTargetReadback.isSome = true →
        record .airflowLevels .exactTarget = true := by
      intro hsome
      by_contra hold
      rw [Bool.not_eq_true] at hold
      exact h.exactTarget hactive hsome hread hold confirmation hopen
    simp only [readbackValue] at hactual
    simp only [comparedParts]
    split at hactual
    · rename_i hmode
      obtain ⟨level, hlevel, -⟩ := Option.map_eq_some_iff.mp hactual
      simpa [hmode] using hexact (by rw [hlevel]; rfl)
    · rename_i hmode
      obtain ⟨level, hlevel, -⟩ := Option.map_eq_some_iff.mp hactual
      simpa [hmode] using hexact (by rw [hlevel]; rfl)
    · rename_i hmode
      simpa [hmode] using h.targets _ hshown hmode
    · cases hactual
  | operationMode =>
    have hactive : state.intensiveActive ≠ some true := fun hactive => hvisible ⟨rfl, hactive⟩
    simpa [comparedParts] using h.shown _ hread hactive
  | presetMode =>
    -- Intensive does not hide a quick-mode write: only the condition keeps the cached one away.
    obtain ⟨preset, hpreset, -⟩ := Option.map_eq_some_iff.mp hactual
    have hshown : record .presetMode .baseMode = true := by
      by_contra hhidden
      rw [Bool.not_eq_true] at hhidden
      exact (h.quickMode hread hhidden preset hpreset).1 confirmation hopen
    simpa [comparedParts] using hshown
  | intensive => simpa [comparedParts, writeGroup, ReadGroup.part] using hread
  | controlSetting setting => simpa [comparedParts, writeGroup, ReadGroup.part] using hread

/-- **A write that is judged was compared with values read after it.** -/
theorem Informed.compared (h : Informed s record) (hok : NoCarriedVerdict (s, record) label)
    (hwrite : s.writeOf label = none) (hsource : s.Source label state finished)
    {wall : WallTime} {before : WriteConfirmation} (hbefore : before ∈ s.confirmations.byKey key)
    (hchanged : (WriteConfirmations.confirmOne wall state key before).1 ≠ before)
    (hverdict : (WriteConfirmations.confirmOne wall state key before).1.status = .confirmed ∨
      (WriteConfirmations.confirmOne wall state key before).1.status = .mismatch) :
    ∀ part ∈ comparedParts state key, recordReads s label record key part = true := by
  obtain ⟨checked, hchecked⟩ := checked_of_verdict hchanged hverdict
  rw [confirmOne_status, hchecked, Option.getD_some] at hverdict
  obtain ⟨hopen, hnewer, htried, -, -, -, -, ⟨hstatus, -⟩ | ⟨herror, ⟨hstatus, -⟩ |
    ⟨hvisible, actual, hactual, -⟩⟩⟩ := checkedConfirmation_cases hchecked
  · rcases hverdict with hverdict | hverdict <;> rw [hstatus] at hverdict <;> cases hverdict
  · rcases hverdict with hverdict | hverdict <;> rw [hstatus] at hverdict <;> cases hverdict
  -- The health of the group is that of a read which was made after the write.
  have hread : recordReads s label record key (writeGroup key).part = true := by
    refine (h.writes key before ⟨hbefore, hopen⟩).read (writesKey_of_writeOf_none hwrite key)
      (.inr hsource) ?_
    rintro (heq | hempty | hfailed)
    · exact hnewer heq
    · rw [hempty] at htried
      exact htried rfl
    · exact hfailed herror
  exact (h.fits.source h.settled.startup hok hwrite hsource).compared ⟨hbefore, hopen⟩ hread
    hvisible hactual

/-- **A state that was known before settles no levels** while the status map is fresh. -/
theorem RoomCoordinator.Settled.levels_kept (h : s.Settled) (hprevious : s.Previous state)
    {clock : Clock} (hle : s.clock.monotonic ≤ clock.monotonic)
    {pending : PendingValue (ℤ × ℤ)} (hpending : pending ∈ s.optimisticLevels)
    (hfresh : groupFresh clock state .flowControl = true)
    (hread : OverlayKind.readSinceSet clock (some state) (some pending) = true) :
    levelsReached (reportedPair clock state) pending.value = false := by
  rw [← Bool.not_eq_true]
  intro hreached
  rcases UnitSystem.data_or_not_hasData hprevious h.startup with hdata | hnone
  · have hstamped := h.stamped_data hdata
    obtain ⟨judged, hjudged, hkept⟩ := h.levels state hdata
    rw [Option.mem_def.mp hpending] at hkept
    have hbefore := reportedLevels_reached.mp ((OverlayKind.settleIfRead_eq_some.mp hkept).2
      (OverlayKind.readSinceSet_earlier hstamped (hjudged.trans hle) hread))
    rcases reportedPair_earlier hstamped (hjudged.trans hle) hreached with hearly | ⟨hstale, -⟩
    · exact Bool.noConfusion (hbefore.symm.trans hearly)
    · exact Bool.noConfusion (hstale.symm.trans hfresh)
  · have hempty := RoomState.noValues hnone
    have hpair : reportedPair clock state = (none, none) := by
      simp [reportedPair, hempty.operationMode, hempty.supplyAirFlow, hempty.extractAirFlow]
    rw [hpair] at hreached
    cases hreached

/-- **Levels that a pass drops were compared with values read after the write.** -/
theorem Informed.levels_compared (h : Informed s record) (hok : NoCarriedVerdict (s, record) label)
    (hwrite : s.writeOf label = none) (hstep : s.step label = some t)
    {pending : PendingValue (ℤ × ℤ)} (hpending : pending ∈ s.optimisticLevels)
    (hread : OverlayKind.readSinceSet t.clock (some t.state) (some pending) = true)
    (hreached : levelsReached (reportedPair t.clock t.state) pending.value = true) :
    ∀ part ∈ reportedParts t.clock t.state,
      recordReads s label record .airflowLevels part = true := by
  have hkey := writesKey_of_writeOf_none hwrite .airflowLevels
  have hstate := t.previous_state.of_step hstep
  by_cases hfresh : groupFresh t.clock t.state .flowControl = true
  · have hknown : s.Previous t.state ∨ (s.readState label = some (t.state, t.clock) ∧
        ∀ reply replied, label.reply = some (reply, replied) →
          replied.monotonic ≤ t.clock.monotonic) := by
      rcases hstate with hprevious | ⟨-, hprevious⟩ | ⟨hsome, -, reply, replied, -, -, hreply, -,
        hle, -⟩
      · exact .inl hprevious
      · exact .inl hprevious
      · refine .inr ⟨hsome, fun reply' replied' hreply' => ?_⟩
        obtain ⟨-, rfl⟩ := Prod.mk.inj (Option.some.inj (hreply.symm.trans hreply'))
        exact hle
    rcases hknown with hprevious | ⟨hsome, hle⟩
    · rw [h.settled.levels_kept hprevious (healthStep hstep).clock hpending hfresh hread]
        at hreached
      cases hreached
    · intro part hpart
      by_contra hold
      rw [Bool.not_eq_true] at hold
      have hgroups : ∀ baseline ∈ pending.baseline, baseline.1 ∈ levelsOverlay.readGroups :=
        fun baseline hmem => (h.levels pending hpending baseline hmem).1
      have hdue := levelsDue_of_readSinceSet hsome h.settled h.known hle hgroups hread
      obtain ⟨levels, hlevels, hcarried⟩ :=
        carriedLevels_of_reached hsome h.settled h.known hle hfresh hreached hpart hold
      rw [hok.levels pending hpending hdue levels hlevels] at hcarried
      cases hcarried
  · -- Without the status map the levels are the measured ones, and the airflow was read.
    obtain ⟨group, hgroup, hgroupFresh, hrecord⟩ :=
      (h.levels pending hpending).read hkey hstate hread
    have hflow : group = .flow := by
      simp only [levelsOverlay, List.mem_cons, List.not_mem_nil, or_false] at hgroup
      rcases hgroup with rfl | rfl
      · rfl
      · exact absurd hgroupFresh hfresh
    subst hflow
    rw [Bool.not_eq_true] at hfresh
    simpa [reportedParts, hfresh, ReadGroup.part] using hrecord

/-- **Every verdict of a step rests on values read after the write.** -/
theorem Informed.judgedAfresh (h : Informed s record) (hok : NoCarriedVerdict (s, record) label)
    (hstep : s.step label = some t) : JudgedAfresh s label t (recordReads s label record) := by
  rcases hwrite : s.writeOf label with _ | ⟨write, outcome⟩
  · have hstate := t.previous_state.of_step hstep
    refine ⟨fun key before hbefore after hafter hne hverdict => ?_,
      fun _ pending hpending hdropped => ?_, fun _ pending hpending hdropped => ?_,
      fun _ pending hpending hdropped => ?_⟩
    · rcases source_of_verdict hstep hwrite hafter hverdict with hsame |
        ⟨hsource, wall, judged, hjudged, rfl⟩
      · exact absurd (Option.mem_unique hsame hbefore) hne
      · obtain rfl := Option.mem_unique hjudged hbefore
        exact h.compared hok hwrite hsource hbefore hne hverdict
    · obtain ⟨preset, hpreset, hread, hconfirms⟩ := confirms_of_dropped hdropped
      obtain ⟨group, hgroup, -, hrecord⟩ := (h.presets pending hpending).read
        (writesKey_of_writeOf_none hwrite _) hstate hread
      obtain rfl := List.mem_singleton.mp hgroup
      have hfits := h.fits.step h.settled.startup hok hwrite hstep
      by_contra hhidden
      rw [Bool.not_eq_true] at hhidden
      exact (hfits.quickMode hrecord hhidden preset hpreset).2 pending hpending
        (of_decide_eq_true hconfirms).symm
    · obtain ⟨active, -, hread, -⟩ := confirms_of_dropped hdropped
      obtain ⟨group, hgroup, -, hrecord⟩ := (h.intensive pending hpending).read
        (writesKey_of_writeOf_none hwrite _) hstate hread
      obtain rfl := List.mem_singleton.mp hgroup
      exact hrecord
    · obtain ⟨reported, hreported, hread, hconfirms⟩ := confirms_of_dropped hdropped
      refine h.levels_compared hok hwrite hstep hpending hread ?_
      rw [reportedLevels_fst] at hreported
      obtain ⟨-, hpair⟩ := Option.ite_none_left_eq_some.mp hreported
      rw [Option.some.inj hpair]
      exact hconfirms
  · -- A write gives no verdict, and is followed by no confirmation pass.
    have hwrites := (writes_of_step hstep hwrite).1
    have hconfirms : label.confirms = false := by
      cases label <;> first | rfl | cases hwrite
    refine ⟨fun key before hbefore after hafter hne hverdict => ?_, ?_, ?_, ?_⟩
    · exact absurd (Option.mem_unique (hwrites.verdicts key after hafter hverdict) hbefore) hne
    all_goals
      intro hconfirmed
      rw [hconfirms] at hconfirmed
      cases hconfirmed

end Informed

/-! ### Runs -/

/-- **Values from before a write do not judge it**: in every run whose steps leave no carried
value where it could judge a write or settle its pending value, every verdict of every step
rests on values that were read after the write. -/
theorem judgedAfresh_of_reach {x y : RoomCoordinator × ReadRecord} {label : Label}
    (h : Reach CarriedStep NoCarriedVerdict CarriedStart x) (hok : NoCarriedVerdict x label)
    (hstep : CarriedStep x label = some y) : JudgedAfresh x.1 label y.1 y.2 := by
  have hinformed : Informed x.1 x.2 := by
    refine h.invariant (P := fun x => Informed x.1 x.2) ?_ ?_
    · rintro ⟨s, record⟩ ⟨hstarted, hrecord⟩
      rw [hrecord]
      exact informed_of_started hstarted
    · intro x label y hinformed hok hstep
      obtain ⟨hnext, hrecord⟩ := recorded_eq_some.mp hstep
      rw [hrecord]
      exact hinformed.step hok hnext
  obtain ⟨hnext, hrecord⟩ := recorded_eq_some.mp hstep
  rw [hrecord]
  exact hinformed.judgedAfresh hok hnext

/-! ### A run, and three that fail -/

/-- A complete reply to an airflow poll, some seconds after the start of a run. -/
def pollAt (n : ℕ) (reply : PlanReply) : Label :=
  .poll reply ⟨false, false⟩ (atSecond n) (atSecond n)

/-- A quick mode is replaced by another one. -/
def quickModeChanged : List Label :=
  [pollAt 1 (replyAfter [.writePresetMode .low]),
    .command (.setPresetMode .medium) .accepted (atSecond 2)]

/-- The readback of the second quick mode. -/
def quickModeReadBack : Label :=
  .readBack (replyAfter [.writePresetMode .low, .writePresetMode .medium]) (atSecond 5)
    (atSecond 5)

theorem judgedAfresh_of_reach_quickModeChanged :
    ∃ x y, run CarriedStep quickModeChanged (sampleStart, fun _ _ => false) = some x ∧
      CarriedStep x quickModeReadBack = some y ∧
      ((y.1.confirmations.byKey .presetMode).any fun confirmation =>
        confirmation.status = .confirmed) = true ∧
      JudgedAfresh x.1 quickModeReadBack y.1 y.2 := by
  have hstart : Reach CarriedStep NoCarriedVerdict CarriedStart
      (sampleStart, fun _ _ => false) := .start ⟨sampleStart_started, rfl⟩
  obtain ⟨x, hrun, hreach, hx⟩ := hstart.exists_of_run quickModeChanged
    (fun x => NoCarriedVerdict x quickModeReadBack ∧ (CarriedStep x quickModeReadBack).any fun y =>
      (y.1.confirmations.byKey .presetMode).any fun confirmation =>
        confirmation.status = .confirmed) (by decide +kernel) (by decide +kernel)
  obtain ⟨hok, hx⟩ := of_decide_eq_true hx
  obtain ⟨y, hstep, hconfirmed⟩ := (Option.any_eq_true _ _).mp hx
  exact ⟨x, y, hrun, hstep, hconfirmed, judgedAfresh_of_reach hreach hok hstep⟩

/-- The same quick mode, but intensive was started by hand before it was read back. -/
def hiddenReadBack : Label :=
  .readBack (replyAfter [.writePresetMode .low, .writePresetMode .medium,
    .writePresetMode .intensive]) (atSecond 5) (atSecond 5)

/-- An airflow is confirmed by its exact target, and the next one is not read back for ten
minutes. -/
def secondLevelUnread : List Label :=
  [.command (.setLevel 60) .accepted (atSecond 1), pollAt 2 (replyAfter [.writeLevel 60]),
    .command (.setLevel 80) .accepted (atSecond 3), .elapse (atSecond 700)]

/-- An airflow is set again, the same as before. -/
def levelRepeated : List Label :=
  [pollAt 1 (replyAfter [.writeLevel 40]), .command (.setLevel 40) .accepted (atSecond 2)]

/-- A verdict of the step `last` after the run `labels` rests on a value from before the
write. -/
def JudgedStale (labels : List Label) (last : Label) : Prop :=
  ∃ x y, run CarriedStep labels (sampleStart, fun _ _ => false) = some x ∧
    CarriedStep x last = some y ∧ ¬ JudgedAfresh x.1 last y.1 y.2

/-- A mismatch with a part of the state that was not read since the write. -/
theorem judgedStale_of_mismatch {labels : List Label} {last : Label} (key : WriteKey)
    (part : StatePart)
    (h : ((run CarriedStep labels (sampleStart, fun _ _ => false)).any fun x =>
      (CarriedStep x last).any fun y =>
        ((x.1.confirmations.byKey key).any fun before => before.status = .pending) ∧
          ((y.1.confirmations.byKey key).any fun after => after.status = .mismatch) ∧
          part ∈ comparedParts y.1.state key ∧ y.2 key part = false) = true) :
    JudgedStale labels last := by
  obtain ⟨x, hrun, hx⟩ := (Option.any_eq_true _ _).mp h
  obtain ⟨y, hstep, hy⟩ := (Option.any_eq_true _ _).mp hx
  obtain ⟨hpending, hmismatch, hpart, hold⟩ := of_decide_eq_true hy
  obtain ⟨before, hbefore, hbeforeStatus⟩ := (Option.any_eq_true _ _).mp hpending
  obtain ⟨after, hafter, hafterStatus⟩ := (Option.any_eq_true _ _).mp hmismatch
  have hpendingStatus := of_decide_eq_true hbeforeStatus
  have hmismatchStatus := of_decide_eq_true hafterStatus
  refine ⟨x, y, hrun, hstep, fun hfresh => ?_⟩
  have hread := hfresh.writes key before hbefore after hafter
    (by rintro rfl; rw [hpendingStatus] at hmismatchStatus; cases hmismatchStatus)
    (.inr hmismatchStatus) part hpart
  rw [hold] at hread
  cases hread

/-- Pending levels that are dropped with a part of the state that was not read since. -/
theorem judgedStale_of_dropped {labels : List Label} {last : Label} (part : StatePart)
    (hconfirms : last.confirms = true)
    (h : ((run CarriedStep labels (sampleStart, fun _ _ => false)).any fun x =>
      (CarriedStep x last).any fun y => x.1.optimisticLevels.any fun pending =>
        (levelsOverlay.settleIfRead y.1.clock (some pending) y.1.state
          (reportedLevels y.1.clock y.1.state).1).isNone ∧
          part ∈ reportedParts y.1.clock y.1.state ∧ y.2 .airflowLevels part = false) = true) :
    JudgedStale labels last := by
  obtain ⟨x, hrun, hx⟩ := (Option.any_eq_true _ _).mp h
  obtain ⟨y, hstep, hy⟩ := (Option.any_eq_true _ _).mp hx
  obtain ⟨pending, hpending, hdropped⟩ := (Option.any_eq_true _ _).mp hy
  obtain ⟨hnone, hpart, hold⟩ := of_decide_eq_true hdropped
  refine ⟨x, y, hrun, hstep, fun hfresh => ?_⟩
  have hread := hfresh.levels hconfirms pending hpending (Option.isNone_iff_eq_none.mp hnone)
    part hpart
  rw [hold] at hread
  cases hread

/-- **Three runs in which a value from before a write judges it**: intensive hides the base
mode and the quick mode known before is compared with the new one; the exact target of the
airflow before is carried to a write that is too old to be read back exactly; and pending
levels are dropped under intensive, by the target known before. -/
theorem judgedAfresh_refuted :
    JudgedStale quickModeChanged hiddenReadBack ∧
      JudgedStale secondLevelUnread (pollAt 701 (replyAfter [.writeLevel 60])) ∧
      JudgedStale levelRepeated
        (pollAt 5 (replyAfter [.writeLevel 40, .writePresetMode .intensive])) := by
  constructor
  · exact judgedStale_of_mismatch .presetMode .baseMode (by decide +kernel)
  constructor
  · exact judgedStale_of_mismatch .airflowLevels .exactTarget (by decide +kernel)
  · exact judgedStale_of_dropped .targets rfl (by decide +kernel)

end MeltemVentilation
