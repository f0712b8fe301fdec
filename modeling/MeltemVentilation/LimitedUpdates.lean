import MeltemVentilation.IntensiveDisplay
import MeltemVentilation.Listeners
import MeltemVentilation.Settled

/-!
# Limited listener updates lose nothing

A listener update that is limited to some units leaves the entities of the others with what
the last update that reached them has shown (`Coordinator.lastShown`). That is right in every
run: at every limited update each unit outside it is `RoomCoordinator.Unchanged` since then
(`Coordinator.limitedUpdates_complete`), so that whatever an entity of it would read now is
what it would have read had nothing happened but the passing of time.

Two facts carry this through a run (`Coordinator.Told`). A step changes a unit only if its
listener update reaches the unit: the confirmation pass, which looks at all of them, changes
nothing on a unit that was not read, since that unit is `Settled`. And a unit that has a
state in `_startup_states` only gets its first entry in `safe_data` from a job of another unit
only after a failed refresh, when the update is complete.
-/

namespace MeltemVentilation

open RoomCoordinator (Unchanged Settled)

/-! ### Steps of one unit that nobody is told about -/

namespace RoomCoordinator

variable {s t : RoomCoordinator} {finished replied : Clock} {reply : PlanReply}
  {write : PreparedWrite} {others : Others} {state : RoomState}

theorem Settled.atClock {clock : Clock} (h : Settled s) (hle : s.clock.le clock = true) :
    Settled (s.atClock clock) :=
  h.quiet (quiet_atClock hle)

/-- The pass after the readback of another unit. -/
theorem unchanged_confirmKnown (h : Settled s) (hle : s.clock.le finished = true) :
    s.Unchanged (s.confirmKnown finished) := by
  have hclock : s.Unchanged (s.atClock finished) := unchanged_atClock (of_decide_eq_true hle)
  unfold confirmKnown
  split
  · rename_i state hdata
    exact hclock.trans (unchanged_confirmPendingWrites (h.atClock hle) hdata)
  · exact hclock

/-- An overlay that is not dropped was not pending. -/
theorem clearOverlay_of_not_drops {key : WriteKey}
    (h : s.dropsOverlay (s.clearOverlay key) = false) : s.clearOverlay key = s := by
  obtain ⟨room, clock, data, startup, confirmations, presets, intensive, levels, uncertain,
    fallback, phase⟩ := s
  cases key <;> simp_all [dropsOverlay, clearOverlay]

/-- What a command leaves that sends no write. -/
theorem prepare_unsent {command : Command}
    (h : (∃ error, s.prepare command = .refused error t) ∨ s.prepare command = .done t) :
    ∃ u, (u = s ∨ u = s.settleUncertainFlow) ∧ (t = u ∨ t = u.clearOverlay .presetMode) := by
  have hmode : ∀ mode u, (∃ error, s.prepareSetOperationMode mode = .refused error u) ∨
      s.prepareSetOperationMode mode = .done u → u = s.settleUncertainFlow := by
    intro mode u h
    rcases s.prepareSetOperationMode_cases mode with ⟨error, he⟩ | he | ⟨sent, -, -, -, he⟩ <;>
      rw [he] at h <;> simp_all
  cases command with
  | setLevel level => simp [prepare] at h
  | setUnbalancedLevels supply extract => simp [prepare] at h
  | setDirectionLevel direction level =>
    refine ⟨s.settleUncertainFlow, .inr rfl, .inl ?_⟩
    simp only [prepare, prepareSetDirectionLevel] at h
    split at h
    · simpa [eq_comm] using h
    · split at h <;> simp_all
  | setOperationMode mode => exact ⟨_, .inr rfl, .inl (hmode mode t h)⟩
  | setPresetMode preset => simp [prepare] at h
  | clearPresetMode =>
    rcases s.prepareClearPresetMode_cases with he | ⟨preset, -, ⟨error, u, hprepare, he⟩ |
      ⟨u, hprepare, he⟩ | ⟨u, inner, hprepare, he⟩⟩
    all_goals simp only [prepare, he] at h
    · exact ⟨s, .inl rfl, .inr (by simpa [eq_comm] using h)⟩
    · obtain rfl : u = t := by simpa using h
      exact ⟨_, .inr rfl, .inl (hmode _ u (.inl ⟨error, hprepare⟩))⟩
    · obtain rfl : u.clearOverlay .presetMode = t := by simpa using h
      exact ⟨u, .inr (hmode _ u (.inr hprepare)), .inr rfl⟩
    · simp at h
  | activateIntensive => simp [prepare] at h
  | deactivateIntensive => simp [prepare] at h
  | setControlSetting key value =>
    simp only [prepare] at h
    split at h
    · exact ⟨s, .inl rfl, .inl (by simpa [eq_comm] using h)⟩
    · simp at h

/-- A command that sends no write and drops no overlay. -/
theorem unchanged_prepare {command : Command}
    (h : (∃ error, s.prepare command = .refused error t) ∨ s.prepare command = .done t)
    (hkept : s.dropsOverlay t = false) : s.Unchanged t := by
  obtain ⟨u, hu, ht⟩ := prepare_unsent h
  have hquery : s.Unchanged u := by
    rcases hu with rfl | rfl
    · exact .refl _
    · exact unchanged_settleUncertainFlow s
  rcases ht with rfl | rfl
  · exact hquery
  · have hsame : u.clearOverlay .presetMode = u := by
      refine clearOverlay_of_not_drops ?_
      rcases hu with rfl | rfl <;> exact hkept
    rwa [hsame]

/-- The coordinator at the end of a read that has changed nothing but the table of writes. -/
def afterReply (s : RoomCoordinator) (previous : RoomState) (polled : Bool) (reply : PlanReply)
    (replied finished : Clock) : RoomCoordinator :=
  { s with
    confirmations := ((s.atClock replied).applyReply previous polled reply).1
    clock := finished }

/-- The read of a reply changes no outcome. -/
theorem Settled.afterReply (h : Settled s) (hlt : s.clock.lt replied = true)
    (hle : replied.le finished = true) (previous : RoomState) (polled : Bool) :
    Settled (s.afterReply previous polled reply replied finished) ∧
      s.Unchanged (s.afterReply previous polled reply replied finished) := by
  have hbyKey : ((s.atClock replied).applyReply previous polled reply).1.byKey =
      s.confirmations.byKey := ((s.atClock replied).applyReply_frame previous polled reply).1
  have hlt : s.clock.monotonic < replied.monotonic := of_decide_eq_true hlt
  have hclock : s.clock.monotonic ≤ finished.monotonic := hlt.le.trans (of_decide_eq_true hle)
  constructor
  · refine h.keep_overlays hclock rfl rfl ?_ ⟨.inl rfl, .inl rfl, .inl rfl⟩
    rw [RoomCoordinator.afterReply, hbyKey]
    exact h.statuses
  · exact unchanged_of_eq hclock rfl rfl rfl rfl rfl rfl hbyKey

/-- A readback that brings nothing new. -/
theorem unchanged_refreshAfterWrite (h : Settled s) (hlt : s.clock.lt replied = true)
    (hle : replied.le finished = true)
    (hsame : ((s.atClock replied).applyReply s.state false reply).2 = s.state) :
    s.Unchanged ((s.atClock replied).refreshAfterWrite reply finished) := by
  obtain ⟨hsettled, hunchanged⟩ : Settled (s.afterReply s.state false reply replied finished) ∧
    s.Unchanged (s.afterReply s.state false reply replied finished) := h.afterReply hlt hle _ _
  have hresult : (s.atClock replied).refreshAfterWrite reply finished =
      (s.afterReply s.state false reply replied finished).confirmPendingWrites
        (s.afterReply s.state false reply replied finished).state := by
    have hstate : (s.atClock replied).state = s.state := rfl
    unfold RoomCoordinator.refreshAfterWrite
    rw [hstate]
    dsimp only
    rw [if_pos hsame, hsame]
    rfl
  rw [hresult]
  exact hunchanged.trans (unchanged_confirmPendingWrites_state hsettled)

theorem confirmKnown_entries (s : RoomCoordinator) (finished : Clock) :
    (s.confirmKnown finished).data = s.data ∧ (s.confirmKnown finished).startup = s.startup := by
  unfold confirmKnown
  split <;> exact ⟨rfl, rfl⟩

theorem finishWrite_entries (s : RoomCoordinator) (write : PreparedWrite) (outcome : WriteOutcome) :
    (s.finishWrite write outcome).data = s.data ∧
      (s.finishWrite write outcome).startup = s.startup := by
  unfold RoomCoordinator.finishWrite
  split
  · obtain ⟨-, -, hdata, hstartup, -⟩ := accept_frame s write
    exact ⟨hdata, hstartup⟩
  · obtain ⟨-, -, hdata, hstartup, -⟩ := fail_frame s write _
    exact ⟨hdata, hstartup⟩
  · obtain ⟨-, -, hdata, hstartup, -⟩ := cancel_frame s write
    exact ⟨hdata, hstartup⟩

/-- A readback that brings something new becomes the state. -/
theorem refreshAfterWrite_data (hnew : (s.applyReply s.state false reply).2 ≠ s.state) :
    (s.refreshAfterWrite reply finished).data.isSome = true := by
  unfold RoomCoordinator.refreshAfterWrite
  dsimp only
  rw [if_neg hnew]
  rfl

/-- The end of a readback that finds nothing left to say. -/
theorem unchanged_finishReadBack
    (hopen : ((s.confirmations.byKey write.writeKey).any fun confirmation =>
      decide (confirmation.status = .pending)) = false)
    (hkept : s.dropsOverlay (s.finishReadBack write) = false) :
    s.Unchanged (s.finishReadBack write) := by
  have hconfirmations : s.confirmations.markUnconfirmed write.writeKey
      "No matching device readback was received" = s.confirmations := by
    rw [WriteConfirmations.markUnconfirmed, if_neg]
    rw [hopen]
    exact Bool.false_ne_true
  unfold RoomCoordinator.finishReadBack at hkept ⊢
  rw [hconfirmations] at hkept ⊢
  dsimp only at hkept ⊢
  split at hkept
  · rename_i hclear
    rw [if_pos hclear, clearOverlay_of_not_drops hkept]
    exact unchanged_of_eq (le_refl _) rfl rfl rfl rfl rfl rfl rfl
  · rename_i hclear
    rw [if_neg hclear]
    exact unchanged_of_eq (le_refl _) rfl rfl rfl rfl rfl rfl rfl

/-! ### A poll, seen from a unit that was not read -/

/-- A poll with values leaves a unit alone whose entry is the one it had. -/
theorem unchanged_finishPoll (h : Settled s) (hvalues : others.haveData = true) :
    s.Unchanged (s.finishPoll s.data others) := by
  unfold finishPoll
  rw [if_pos (by rw [hvalues, Bool.or_true])]
  rcases hdata : s.data with _ | state
  · exact unchanged_of_eq (le_refl _) hdata.symm rfl rfl rfl rfl rfl rfl
  · exact (unchanged_confirmPendingWrites h hdata).trans
      (unchanged_of_eq (le_refl _) hdata.symm rfl rfl rfl rfl rfl rfl)

/-- A poll with values leaves no startup state. -/
theorem finishPoll_startup {entry : Option RoomState} (hvalues : others.haveData = true) :
    (s.finishPoll entry others).startup = none := by
  unfold finishPoll
  rw [if_pos (by rw [hvalues, Bool.or_true])]
  cases entry <;> rfl

/-- A poll without any value changes nothing that is shown. -/
theorem unchanged_finishPoll_startup {entry : Option RoomState}
    (hentry : entry.any RoomState.hasData = false) (hvalues : others.haveData = false) :
    s.Unchanged (s.finishPoll entry others) := by
  unfold finishPoll
  rw [if_neg (by rw [hvalues, Bool.or_false, hentry]; exact Bool.false_ne_true)]
  exact unchanged_of_eq (le_refl _) rfl rfl rfl rfl rfl rfl rfl

theorem unchanged_poll_startup (h : Settled s) (hlt : s.clock.lt replied = true)
    (hle : replied.le finished = true)
    (hentry : ((s.atClock replied).polledEntry reply others).any RoomState.hasData = false)
    (hvalues : others.haveData = false) :
    s.Unchanged ((s.atClock replied).poll reply others finished) :=
  (h.afterReply hlt hle ((s.pollEntry others).getD emptyRoomState) true).2.trans
    (unchanged_finishPoll_startup hentry hvalues)

end RoomCoordinator

/-! ### Two looks at one unit -/

/-- **What an entity sees of `now` is what it would see of `before`**, had nothing happened since
but the passing of time: the polled state, the pending values at the time of `now`, the
fallback of the last fan write, and the status of each write at that time. Whether a write was
interrupted may change with the time in either direction, and a unit that was once found
certain stays so; so the marker is as `before` would have shown it at some time up to now. -/
structure RoomCoordinator.SameView (before now : RoomCoordinator) : Prop where
  data : now.data = before.data
  optimisticPresetMode :
    now.optimisticPresetMode = (before.atClock now.clock).optimisticPresetMode
  optimisticIntensive :
    now.optimisticIntensiveValue = (before.atClock now.clock).optimisticIntensiveValue
  pendingLevels : now.pendingLevels = (before.atClock now.clock).pendingLevels
  levelWriteFallback : now.levelWriteFallback = before.levelWriteFallback
  flowWriteUncertain : ∃ clock : Clock, before.clock.monotonic ≤ clock.monotonic ∧
    clock.monotonic ≤ now.clock.monotonic ∧
    now.flowWriteUncertain = (before.atClock clock).flowWriteUncertain
  confirmationStatus : ∀ key,
    (now.confirmations.byKey key).map (MeltemVentilation.confirmationStatus now.clock.wall) =
      (before.confirmations.byKey key).map (MeltemVentilation.confirmationStatus now.clock.wall)

theorem RoomCoordinator.Unchanged.sameView {before now : RoomCoordinator}
    (h : before.Unchanged now) : before.SameView now where
  data := h.data
  optimisticPresetMode := h.presets now.clock (le_refl _)
  optimisticIntensive := h.intensive now.clock (le_refl _)
  pendingLevels := h.levels now.clock (le_refl _)
  levelWriteFallback := h.levelFallback
  flowWriteUncertain := by
    rcases h.uncertainFlow with hsame | ⟨hnone, clock, hle, hle', hcertain⟩
    · exact ⟨now.clock, h.clock, le_refl _, RoomCoordinator.flowWriteUncertain_congr h.data hsame⟩
    · refine ⟨clock, hle, hle', ?_⟩
      rw [hcertain, RoomCoordinator.flowWriteUncertain, hnone]
  confirmationStatus := h.statuses now.clock.wall

/-! ### What the updates have shown -/

namespace Coordinator

variable {ι Rest : Type} {hasValues : Rest → Bool} {start c c' : Coordinator ι Rest}
  {updates : List (ListenerUpdate ι Rest)} {update : ListenerUpdate ι Rest} {unit other job : ι}
  {rooms : Finset ι} {finished replied : Clock} {reply : PlanReply} {write : PreparedWrite}
  {read : JobRead Rest} {label : CoordinatorLabel ι Rest} {s : RoomCoordinator}
  {values : Option Rest}

/-- A step that nobody has to be told about, seen from one unit. -/
structure Keeps (c c' : Coordinator ι Rest) (unit : ι) : Prop where
  unchanged : (c.units unit).Unchanged (c'.units unit)
  values : c'.values unit = c.values unit

theorem keeps_atClock {clock : Clock} (h : c.Before clock) (unit : ι) :
    Keeps c (c.atClock clock) unit :=
  ⟨RoomCoordinator.unchanged_atClock (of_decide_eq_true (h unit)), rfl⟩

section Shown

variable [DecidableEq ι]

theorem keeps_setUnit (h : (c.units unit).Unchanged s) (other : ι) :
    Keeps c (c.setUnit unit s) other := by
  refine ⟨?_, rfl⟩
  by_cases hother : other = unit
  · subst hother
    rwa [setUnit_self]
  · rw [setUnit_of_ne hother]
    exact .refl _

/-- **The pass after a readback** changes no unit but the one that was read. -/
theorem keeps_confirmAll (hsettled : ∀ unit, Settled (c.units unit))
    (hreads : c.ReadsAt replied finished) (hother : other ≠ unit) :
    Keeps c (c.confirmAll unit reply replied finished) other := by
  refine ⟨?_, rfl⟩
  rw [confirmAll_of_ne hother]
  exact RoomCoordinator.unchanged_confirmKnown (hsettled other) (le_of_readsAt hreads other)

/-- **What the last update that reached a unit has shown of it**; before any update, what it
started with. -/
def lastShown (start : Coordinator ι Rest) (updates : List (ListenerUpdate ι Rest)) (unit : ι) :
    RoomCoordinator × Option Rest :=
  match updates.find? (·.roomUpdated unit) with
  | some update => (update.units unit, update.values unit)
  | none => (start.units unit, start.values unit)

/-- The unit is as it was shown. -/
structure Shows (start : Coordinator ι Rest) (updates : List (ListenerUpdate ι Rest)) (unit : ι)
    (s : RoomCoordinator) (values : Option Rest) : Prop where
  unchanged : (lastShown start updates unit).1.Unchanged s
  values : values = (lastShown start updates unit).2

theorem Shows.keep (h : Shows start updates unit (c.units unit) (c.values unit))
    (hkeeps : Keeps c c' unit) : Shows start updates unit (c'.units unit) (c'.values unit) where
  unchanged := h.unchanged.trans hkeeps.unchanged
  values := hkeeps.values.trans h.values

/-- An update shows the units it concerns, and leaves the others as they were shown. -/
theorem lastShown_cons : lastShown start (update :: updates) unit =
    if update.roomUpdated unit then (update.units unit, update.values unit)
    else lastShown start updates unit := by
  unfold lastShown
  rw [List.find?_cons]
  cases update.roomUpdated unit <;> rfl

/-- Every update was right to leave out the units it left out. -/
def Complete (start : Coordinator ι Rest) : List (ListenerUpdate ι Rest) → Prop
  | [] => True
  | update :: earlier =>
    (∀ unit, update.roomUpdated unit = false →
      Shows start earlier unit (update.units unit) (update.values unit)) ∧ Complete start earlier

/-- Any update of a run can be looked at. -/
theorem Complete.of_append {later earlier : List (ListenerUpdate ι Rest)}
    (h : Complete start (later ++ update :: earlier)) (hunit : update.roomUpdated unit = false) :
    Shows start earlier unit (update.units unit) (update.values unit) := by
  induction later with
  | nil => exact h.1 unit hunit
  | cons latest later ih => exact ih h.2

end Shown

/-! ### The invariant -/

section Told

variable [Fintype ι]

theorem listed_congr (hdata : ∀ unit, (c'.units unit).data = (c.units unit).data)
    (hvalues : c'.values = c.values) : c'.listed = c.listed := by
  simp only [listed, hdata, hvalues]

theorem startupListed_congr (hstartup : ∀ unit, (c'.units unit).startup = (c.units unit).startup)
    (hvalues : c'.startupValues = c.startupValues) : c'.startupListed = c.startupListed := by
  simp only [startupListed, hstartup, hvalues]

/-- States that are known from the startup only go with a failed refresh. -/
def StartupFailed (c : Coordinator ι Rest) : Prop :=
  c.listed = false → c.startupListed = true → c.lastUpdateSuccess = false

/-- The entries of both dictionaries are those of `c`, and so is the last refresh. -/
theorem StartupFailed.congr (h : StartupFailed c)
    (hdata : ∀ unit, (c'.units unit).data = (c.units unit).data)
    (hstartup : ∀ unit, (c'.units unit).startup = (c.units unit).startup)
    (hvalues : c'.values = c.values) (hstartupValues : c'.startupValues = c.startupValues)
    (hsuccess : c'.lastUpdateSuccess = c.lastUpdateSuccess) : StartupFailed c' := by
  unfold StartupFailed
  rw [listed_congr hdata hvalues, startupListed_congr hstartup hstartupValues, hsuccess]
  exact h

theorem StartupFailed.atClock {clock : Clock} (h : StartupFailed c) :
    StartupFailed (c.atClock clock) :=
  h.congr (fun _ => rfl) (fun _ => rfl) rfl rfl rfl

variable [DecidableEq ι]

/-- **Every unit is as it was shown**, and every update so far was complete. -/
structure Told (start c : Coordinator ι Rest) : Prop where
  shows : ∀ unit, Shows start c.updates unit (c.units unit) (c.values unit)
  updatedRooms : c.updatedRooms = none
  complete : Complete start c.updates
  startup : StartupFailed c

/-- A step without an update. -/
theorem Told.keep (h : Told start c) (hkeeps : ∀ unit, Keeps c c' unit)
    (hupdates : c'.updates = c.updates) (hrooms : c'.updatedRooms = none)
    (hstartup : StartupFailed c') : Told start c' where
  shows unit := by
    rw [hupdates]
    exact (h.shows unit).keep (hkeeps unit)
  updatedRooms := hrooms
  complete := by
    rw [hupdates]
    exact h.complete
  startup := hstartup

/-- **A step with an update** that concerns every unit the step has changed. -/
theorem Told.notify (h : Told start c)
    (hkeeps : ∀ unit, c'.updatedRooms.all (fun rooms => unit ∈ rooms) = false → Keeps c c' unit)
    (hupdates : c'.updates = c.updates) (hstartup : StartupFailed c') :
    Told start c'.updateListeners where
  shows unit := by
    show Shows start (⟨c'.updatedRooms, c'.units, c'.values⟩ :: c'.updates) unit _ _
    rw [hupdates]
    rcases hunit : (⟨c'.updatedRooms, c'.units, c'.values⟩ : ListenerUpdate ι Rest).roomUpdated
      unit with _ | _
    · obtain ⟨hunchanged, hvalues⟩ := (h.shows unit).keep (hkeeps unit hunit)
      constructor
      · rwa [lastShown_cons, hunit]
      · rwa [lastShown_cons, hunit]
    · constructor
      · rw [lastShown_cons, if_pos hunit]
        exact .refl _
      · rw [lastShown_cons, if_pos hunit]
        rfl
  updatedRooms := rfl
  complete := by
    show Complete start (_ :: _)
    rw [hupdates]
    exact ⟨fun unit hunit => (h.shows unit).keep (hkeeps unit hunit), h.complete⟩
  startup := hstartup.congr (fun _ => rfl) (fun _ => rfl) rfl rfl rfl

/-- An update that concerns all units. -/
theorem Told.notify_all (h : Told start c) (hrooms : c'.updatedRooms = none)
    (hupdates : c'.updates = c.updates) (hstartup : StartupFailed c') :
    Told start c'.updateListeners :=
  h.notify (fun unit hunit => by rw [hrooms] at hunit; cases hunit) hupdates hstartup

/-- An update that may be limited to `rooms`. -/
theorem Told.limit (h : Told start c) (hrooms : c'.updatedRooms = none)
    (hkeeps : c'.lastUpdateSuccess = true → ∀ unit, unit ∉ rooms → Keeps c c' unit)
    (hupdates : c'.updates = c.updates) (hstartup : StartupFailed c') :
    Told start (c'.limitNextUpdateTo rooms).updateListeners := by
  unfold limitNextUpdateTo
  split
  · rename_i hsuccess
    refine h.notify (fun unit hunit => ?_) hupdates
      (hstartup.congr (fun _ => rfl) (fun _ => rfl) rfl rfl rfl)
    have hkept := hkeeps hsuccess unit (by simpa using hunit)
    exact ⟨hkept.unchanged, hkept.values⟩
  · exact h.notify_all hrooms hupdates hstartup

/-- The update after a refresh that returns, once there are no startup states. -/
theorem Told.succeed (h : Told start c) (hrooms : c'.updatedRooms = none)
    (hkeeps : c'.lastUpdateSuccess = true → ∀ unit, unit ∉ rooms → Keeps c c' unit)
    (hupdates : c'.updates = c.updates)
    (hstartup : c'.listed = true ∨ c'.startupListed = false) :
    Told start (c'.succeedRefresh rooms) := by
  have hdone : ∀ c'' : Coordinator ι Rest, c''.units = c'.units → c''.values = c'.values →
      c''.startupValues = c'.startupValues → StartupFailed c'' := by
    intro c'' hunits hvalues hstartupValues hlisted hstartupListed
    rw [listed_congr (fun _ => by rw [hunits]) hvalues] at hlisted
    rw [startupListed_congr (fun _ => by rw [hunits]) hstartupValues] at hstartupListed
    rcases hstartup with hsome | hnone
    · rw [hsome] at hlisted
      cases hlisted
    · rw [hnone] at hstartupListed
      cases hstartupListed
  unfold succeedRefresh limitNextUpdateTo
  split
  · rename_i hsuccess
    refine h.notify (fun unit hunit => ?_) hupdates (hdone _ rfl rfl rfl)
    have hkept := hkeeps hsuccess unit (by simpa using hunit)
    exact ⟨hkept.unchanged, hkept.values⟩
  · exact h.notify_all hrooms hupdates (hdone _ rfl rfl rfl)

/-- A refresh that raises. -/
theorem Told.failRefresh (h : Told start c) (hrooms : c'.updatedRooms = none)
    (hkeeps : ∀ unit, Keeps c c' unit) (hupdates : c'.updates = c.updates) :
    Told start c'.failRefresh := by
  unfold Coordinator.failRefresh
  dsimp only
  split
  · exact h.notify_all hrooms hupdates fun _ _ => rfl
  · exact h.keep (fun unit => ⟨(hkeeps unit).unchanged, (hkeeps unit).values⟩) hupdates hrooms
      fun _ _ => rfl

/-! ### The steps keep the invariant -/

theorem StartupFailed.setUnit (h : StartupFailed c) (hdata : s.data = (c.units unit).data)
    (hstartup : s.startup = (c.units unit).startup) : StartupFailed (c.setUnit unit s) := by
  refine h.congr (fun other => ?_) (fun other => ?_) rfl rfl rfl
  all_goals
    by_cases hother : other = unit
    · subst hother
      rwa [setUnit_self]
    · rw [setUnit_of_ne hother]

theorem Told.command (h : Told start c) (command : Command) (outcome : WriteOutcome) :
    Told start (c.command unit command outcome finished) := by
  have hsound := (c.units unit).sound_prepare command
  have hunsent : ∀ t, (c.units unit).Quiet t →
      ((∃ error, (c.units unit).prepare command = .refused error t) ∨
        (c.units unit).prepare command = .done t) →
      Told start (if (c.units unit).dropsOverlay t then (c.setUnit unit t).updateListeners
        else c.setUnit unit t) := by
    intro t hquiet hprepare
    have hstartup : StartupFailed (c.setUnit unit t) :=
      h.startup.setUnit hquiet.data hquiet.startup
    split
    · exact h.notify_all h.updatedRooms rfl hstartup
    · rename_i hkept
      refine h.keep (keeps_setUnit ?_) rfl h.updatedRooms hstartup
      exact RoomCoordinator.unchanged_prepare hprepare (Bool.eq_false_iff.mpr hkept)
  unfold Coordinator.command
  rcases hprepare : (c.units unit).prepare command with ⟨error, t⟩ | t | ⟨t, write⟩
  all_goals rw [hprepare] at hsound
  · exact hunsent t hsound (.inl ⟨error, hprepare⟩)
  · exact hunsent t hsound (.inr hprepare)
  · obtain ⟨hdata, hstartup⟩ : ((t.atClock finished).finishWrite write outcome).data = t.data ∧
        ((t.atClock finished).finishWrite write outcome).startup = t.startup :=
      (t.atClock finished).finishWrite_entries write outcome
    exact h.notify_all h.updatedRooms rfl
      (h.startup.atClock.setUnit (hdata.trans hsound.1.data) (hstartup.trans hsound.1.startup))

theorem Told.refreshAfterWrite (h : Told start c) (hsettled : ∀ unit, Settled (c.units unit))
    (hreads : c.ReadsAt replied finished) :
    Told start (c.refreshAfterWrite unit reply replied finished) := by
  have hkeeps : ∀ other, other ∉ ({unit} : Finset ι) →
      Keeps c (c.confirmAll unit reply replied finished) other := fun other hother =>
    keeps_confirmAll hsettled hreads (by simpa using hother)
  unfold Coordinator.refreshAfterWrite
  dsimp only
  split
  · rename_i hsame
    have hall : ∀ other, Keeps c (c.confirmAll unit reply replied finished) other := by
      intro other
      by_cases hother : other = unit
      · subst hother
        refine ⟨?_, rfl⟩
        rw [confirmAll_self]
        exact RoomCoordinator.unchanged_refreshAfterWrite (hsettled other) (hreads.1 other)
          hreads.2 hsame
      · exact keeps_confirmAll hsettled hreads hother
    have hstartup : StartupFailed (c.confirmAll unit reply replied finished) := by
      refine h.startup.congr (fun other => (hall other).unchanged.data) (fun other => ?_)
        rfl rfl rfl
      by_cases hother : other = unit
      · subst hother
        rw [confirmAll_self]
        rfl
      · rw [confirmAll_of_ne hother]
        exact (RoomCoordinator.confirmKnown_entries _ _).2
    split
    · exact h.limit h.updatedRooms (fun _ other _ => hall other) rfl hstartup
    · exact h.keep hall rfl h.updatedRooms hstartup
  · rename_i hnew
    -- A reply that changes the state leaves an entry, so the refresh counts as a success.
    have hlisted : (c.confirmAll unit reply replied finished).listed = true := by
      refine decide_eq_true ⟨unit, .inl ?_⟩
      rw [confirmAll_self]
      exact RoomCoordinator.refreshAfterWrite_data hnew
    split
    · exact h.limit h.updatedRooms (fun _ => hkeeps) rfl fun hnone => by
        rw [hlisted] at hnone
        cases hnone
    · exact h.succeed h.updatedRooms (fun _ => hkeeps) rfl (.inl hlisted)

theorem Told.finishReadBack (h : Told start c) : Told start (c.finishReadBack unit write) := by
  obtain ⟨-, -, hdata, hstartup, -⟩ := RoomCoordinator.finishReadBack_frame (c.units unit) write
  have hentries := h.startup.setUnit hdata hstartup
  unfold Coordinator.finishReadBack
  dsimp only
  split
  · exact h.notify_all h.updatedRooms rfl hentries
  · rename_i hsilent
    rw [Bool.or_eq_true, not_or, Bool.not_eq_true, Bool.not_eq_true] at hsilent
    exact h.keep (keeps_setUnit (RoomCoordinator.unchanged_finishReadBack hsilent.1 hsilent.2)) rfl
      h.updatedRooms hentries

/-- The entries of a unit that a refresh with a job starts from: while the last refresh has
succeeded, those of `safe_data`. -/
theorem Told.entries (h : Told start c) (hsuccess : c.lastUpdateSuccess = true) (others : Others)
    (hothers : others.listed = c.listed) (unit : ι) :
    (c.units unit).pollEntry others = (c.units unit).data ∧
      (if c.listed then c.values unit else c.startupValues unit) = c.values unit := by
  rcases hlisted : c.listed with _ | _
  · have hnone : c.startupListed = false := by
      rw [Bool.eq_false_iff]
      intro hstartup
      rw [h.startup hlisted hstartup] at hsuccess
      cases hsuccess
    have hlisted' := of_decide_eq_false hlisted
    have hnone' := of_decide_eq_false hnone
    push Not at hlisted' hnone'
    have hentries : ∀ {T : Type} {entry : Option T}, entry.isSome ≠ true → entry = none := by
      intro T entry hentry
      simpa using hentry
    rw [RoomCoordinator.pollEntry, hothers, hlisted, hentries (hlisted' unit).1,
      hentries (hnone' unit).1, hentries (hlisted' unit).2, hentries (hnone' unit).2]
    exact ⟨rfl, rfl⟩
  · rw [RoomCoordinator.pollEntry, hothers, hlisted, Bool.or_true]
    exact ⟨rfl, rfl⟩

/-- **A refresh with a job** changes no unit but the one that was read, unless the states come
from the startup. -/
theorem Told.poll (h : Told start c) (hsettled : ∀ unit, Settled (c.units unit))
    (hreads : c.ReadsAt replied finished) :
    Told start (c.poll hasValues job read rooms replied finished) := by
  have hfinished : ∀ unit, (c.units unit).clock.le finished = true := le_of_readsAt hreads
  unfold Coordinator.poll
  dsimp only
  split
  · rename_i hvalues
    refine h.succeed h.updatedRooms (fun hsuccess unit hunit => ?_) rfl (.inr ?_)
    · -- A unit that was not read goes through the poll with the entry it had.
      have hjob : unit ≠ job := fun heq => hunit (by simp [heq])
      obtain ⟨hentry, hvalue⟩ := h.entries hsuccess
        ⟨c.listed, c.haveData hasValues job read replied⟩ rfl unit
      constructor
      · have hclock : (c.units unit).Unchanged ((c.units unit).atClock finished) :=
          RoomCoordinator.unchanged_atClock (of_decide_eq_true (hfinished unit))
        simp only [pollUnit, replyTo, if_neg hjob, hentry]
        exact hclock.trans (RoomCoordinator.unchanged_finishPoll
          ((hsettled unit).atClock (hfinished unit)) hvalues)
      · simp only [polledValues, if_neg hjob]
        exact hvalue
    · refine decide_eq_false ?_
      rintro ⟨unit, hstartup | hstartup⟩
      · have hnone : (c.pollUnit ⟨c.listed, c.haveData hasValues job read replied⟩ job read replied
            finished unit).startup = none := by
          unfold pollUnit
          split <;> exact RoomCoordinator.finishPoll_startup hvalues
        rw [hnone] at hstartup
        cases hstartup
      · cases hstartup
  · rename_i hvalues
    -- Nobody had values, so even the unit that was read keeps what it shows.
    refine h.failRefresh h.updatedRooms (fun unit => ⟨?_, rfl⟩) rfl
    have hvalues := Bool.eq_false_iff.mpr hvalues
    have hnone := of_decide_eq_false hvalues
    push Not at hnone
    have hentry := Bool.eq_false_iff.mpr (hnone unit).1
    simp only [pollUnit]
    cases hreply : replyTo job read unit with
    | some reply =>
      rw [hreply] at hentry
      exact RoomCoordinator.unchanged_poll_startup (hsettled unit) (hreads.1 unit) hreads.2 hentry
        hvalues
    | none =>
      rw [hreply] at hentry
      exact (RoomCoordinator.unchanged_atClock (of_decide_eq_true (hfinished unit))).trans
        (RoomCoordinator.unchanged_finishPoll_startup hentry hvalues)

theorem told_started (h : start.Started) : Told start start := by
  obtain ⟨units, hunits, rfl⟩ := h
  refine ⟨fun unit => ⟨.refl _, rfl⟩, rfl, trivial, fun _ hstartup => ?_⟩
  obtain ⟨unit, hsome | hsome⟩ := of_decide_eq_true hstartup
  · obtain ⟨room, clock, hunit⟩ := hunits unit
    simp [hunit] at hsome
  · cases hsome

/-- **Every step keeps every unit as it was shown**, or tells the listeners. -/
theorem Told.step (h : Told start c) (hsettled : ∀ unit, Settled (c.units unit))
    (hstep : c.step hasValues label = some c') : Told start c' := by
  cases label with
  | elapse clock =>
    obtain ⟨hbefore, heq⟩ := Option.ite_none_right_eq_some.mp hstep
    cases heq
    exact h.keep (keeps_atClock hbefore) rfl h.updatedRooms h.startup.atClock
  | expire unit overlay =>
    have hentries : StartupFailed (c.setUnit unit
        ((c.units unit).clearOverlay overlay.writeKey)) :=
      h.startup.setUnit (RoomCoordinator.clearOverlay_data _)
        (RoomCoordinator.clearOverlay_startup _)
    simp only [Coordinator.step] at hstep
    split at hstep
    · cases hstep
      exact h.notify_all h.updatedRooms rfl hentries
    · rename_i hkept
      cases hstep
      refine h.keep (keeps_setUnit ?_) rfl h.updatedRooms hentries
      rw [RoomCoordinator.clearOverlay_of_not_drops (Bool.eq_false_iff.mpr hkept)]
      exact .refl _
  | queryLevels unit =>
    cases hstep
    exact h.keep (keeps_setUnit (RoomCoordinator.unchanged_settleUncertainFlow _)) rfl
      h.updatedRooms (h.startup.setUnit rfl rfl)
  | command unit command outcome finished =>
    obtain ⟨-, heq⟩ := Option.ite_none_right_eq_some.mp hstep
    cases heq
    exact h.command command outcome
  | readBack unit reply replied finished =>
    obtain ⟨⟨-, hreads⟩, hstep⟩ := Option.ite_none_right_eq_some.mp hstep
    have hrefreshed : Told start (c.refreshAfterWrite unit reply replied finished) :=
      h.refreshAfterWrite hsettled hreads
    rcases hphase : (c.units unit).phase with _ | write | write
    all_goals simp only [hphase] at hstep
    · cases hstep
    · obtain ⟨-, heq⟩ := Option.ite_none_right_eq_some.mp hstep
      cases heq
      exact hrefreshed.finishReadBack
    · obtain ⟨-, heq⟩ := Option.ite_none_right_eq_some.mp hstep
      cases heq
      exact hrefreshed.keep (keeps_setUnit (RoomCoordinator.unchanged_of_eq (le_refl _) rfl rfl rfl
        rfl rfl rfl rfl)) rfl hrefreshed.updatedRooms (hrefreshed.startup.setUnit rfl rfl)
  | cancelReadBack unit =>
    obtain ⟨-, heq⟩ := Option.ite_none_left_eq_some.mp hstep
    cases heq
    exact h.keep (keeps_setUnit (RoomCoordinator.unchanged_of_eq (le_refl _) rfl rfl rfl rfl rfl
      rfl rfl)) rfl h.updatedRooms (h.startup.setUnit rfl rfl)
  | poll job read rooms replied finished =>
    obtain ⟨⟨-, hreads⟩, heq⟩ := Option.ite_none_right_eq_some.mp hstep
    cases heq
    exact h.poll hsettled hreads
  | idlePoll rooms finished =>
    obtain ⟨⟨-, hbefore, hstartup⟩, heq⟩ := Option.ite_none_right_eq_some.mp hstep
    cases heq
    exact h.succeed h.updatedRooms (fun _ unit _ => keeps_atClock hbefore unit) rfl (.inr hstartup)
  | failedPoll finished =>
    obtain ⟨⟨-, hbefore⟩, heq⟩ := Option.ite_none_right_eq_some.mp hstep
    cases heq
    exact h.failRefresh h.updatedRooms (keeps_atClock hbefore) rfl

/-! ### Runs -/

/-- The runs from one start. -/
abbrev ReachedFrom (hasValues : Rest → Bool) (start : Coordinator ι Rest) :
    Coordinator ι Rest → Prop :=
  Transition.Reach (step hasValues) (fun _ _ => True) (· = start)

theorem reached_of_reachedFrom (hstart : start.Started) (h : ReachedFrom hasValues start c) :
    Reached hasValues c := by
  induction h with
  | start heq =>
    subst heq
    exact .start hstart
  | next _ _ hstep ih => exact ih.next trivial hstep

theorem told_of_reach (hstart : start.Started) (h : ReachedFrom hasValues start c) :
    Told start c := by
  induction h with
  | start heq =>
    subst heq
    exact told_started hstart
  | next hreach _ hstep ih =>
    refine ih.step (fun unit => ?_) hstep
    exact RoomCoordinator.settled_of_reach (reach_unit (reached_of_reachedFrom hstart hreach) unit)

/-- **Limited listener updates lose nothing.** In every run of commands, readbacks, polls,
expiries and queries over any number of units: at every listener update that is limited to
some units, each other unit shows what it showed at the last update that reached it, up to
the passing of time. -/
theorem limitedUpdates_complete (hstart : start.Started) (h : ReachedFrom hasValues start c)
    {later earlier : List (ListenerUpdate ι Rest)}
    (hupdates : c.updates = later ++ update :: earlier)
    (hlimited : update.updatedRooms = some rooms) (hunit : unit ∉ rooms) :
    (lastShown start earlier unit).1.SameView (update.units unit) ∧
      update.values unit = (lastShown start earlier unit).2 := by
  have hcomplete := (told_of_reach hstart h).complete
  rw [hupdates] at hcomplete
  have hleft : update.roomUpdated unit = false := by
    rw [ListenerUpdate.roomUpdated, hlimited]
    simpa using hunit
  obtain ⟨hunchanged, hvalues⟩ := hcomplete.of_append hleft
  exact ⟨hunchanged.sameView, hvalues⟩

end Told

/-- Two units before the first poll. -/
def twoUnitsStart : Coordinator Bool Unit := { units := fun _ => sampleStart }

/-- One unit is read and commanded, then the other is read. -/
def pollBesidePending : List (CoordinatorLabel Bool Unit) :=
  [.poll true ⟨some (.airflow manualRead .failed), none⟩ ∅ (atSecond 1) (atSecond 1),
    .command true (.setLevel 60) .accepted (atSecond 2),
    .poll false ⟨some (.airflow manualRead .failed), none⟩ ∅ (atSecond 3) (atSecond 3)]

/-- The update after the read of the other unit leaves the pending levels on display. -/
theorem limitedUpdates_complete_besidePending : ∃ before now : RoomCoordinator,
    before.SameView now ∧ before.clock = atSecond 2 ∧ now.clock = atSecond 3 ∧
      now.pendingLevels = some (60, 60) := by
  have hstarted : twoUnitsStart.Started := ⟨_, fun _ => sampleStart_started, rfl⟩
  have hstart : ReachedFrom (fun _ => true) twoUnitsStart twoUnitsStart := .start rfl
  obtain ⟨c, -, hreach, hc⟩ := hstart.exists_of_run pollBesidePending
    (fun c => match c.updates with
      | update :: earlier =>
        decide (update.updatedRooms = some {false} ∧
          (lastShown twoUnitsStart earlier true).1.clock = atSecond 2 ∧
          (update.units true).clock = atSecond 3 ∧
          (update.units true).pendingLevels = some (60, 60))
      | [] => false)
    (Transition.along_true _ (fun _ _ => trivial) _ _) (by decide +kernel)
  rcases hupdates : c.updates with _ | ⟨update, earlier⟩
  · rw [hupdates] at hc
    cases hc
  · rw [hupdates] at hc
    obtain ⟨hlimited, hbefore, hnow, hpending⟩ := of_decide_eq_true hc
    obtain ⟨hview, -⟩ := limitedUpdates_complete hstarted hreach
      (show c.updates = [] ++ update :: earlier from hupdates) hlimited
      (show true ∉ ({false} : Finset Bool) by decide)
    exact ⟨_, _, hview, hbefore, hnow, hpending⟩

end Coordinator

end MeltemVentilation
