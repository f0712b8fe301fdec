import MeltemVentilation.CoordinatorSteps
import MeltemVentilation.Lib.Transition

/-!
# All units of a coordinator, and its listeners

`Coordinator` puts the units of a gateway together: one `RoomCoordinator` for each, the state of
the last refresh, and the listener updates sent so far. The units share the gateway lock,
the dictionary of states and the confirmation pass. A step is a step of one unit, and what
the shared parts make of it for the others: time passes, or a pass judges the writes of
all of them (`Coordinator.unit_step`).

After a job or a readback only the entities of the unit that was read are updated
(`limitNextUpdateTo`); an update while the last refresh has failed, and every other update,
concerns all of them. Where several complete updates follow each other with nothing between
them – a command clears and sets overlays one after the other – only the last is recorded:
each of them reaches every unit, so no later update can tell.

`RoomState` does not carry all value fields of a polled state. The others, and the health of
their read groups, are a type parameter `Rest` here; a poll job of the unit may change them
to whatever it likes. Nothing but the question whether any value is known at all looks at
them.

What Home Assistant does with a refresh is that of its `DataUpdateCoordinator`: the result
becomes the data and the listeners are updated; a refresh that raises keeps the data, and
the listeners are updated if the one before had succeeded.
-/

namespace MeltemVentilation

/-! ### What one unit adds -/

/-- Whether `confirm` changes the outcome under one key. -/
def WriteConfirmations.keyChanges (confirmations : WriteConfirmations) (wall : WallTime)
    (state : RoomState) (key : WriteKey) : Bool :=
  (confirmations.byKey key).any fun confirmation =>
    (checkedConfirmation state key confirmation).isSome ||
      (decide (confirmation.status = .pending) && !confirmation.issueCounted &&
        confirmation.timedOut wall)

/-- What `confirm` returns: whether any outcome changed. -/
def WriteConfirmations.confirmChanges (confirmations : WriteConfirmations) (wall : WallTime)
    (state : RoomState) : Bool :=
  [.airflowLevels, .operationMode, .presetMode, .intensive].any
      (confirmations.keyChanges wall state) ||
    decide (∃ setting, confirmations.keyChanges wall state (.controlSetting setting) = true)

namespace RoomCoordinator

/-- The overlays that are pending in `s` and not in `t`. -/
def dropsOverlay (s t : RoomCoordinator) : Bool :=
  (s.optimisticPresets.isSome && t.optimisticPresets.isNone) ||
    (s.optimisticIntensive.isSome && t.optimisticIntensive.isNone) ||
    (s.optimisticLevels.isSome && t.optimisticLevels.isNone)

/-- `changed` in `_confirm_pending_writes`, for the state of this unit. -/
def confirmChanges (s : RoomCoordinator) (state : RoomState) : Bool :=
  s.confirmations.confirmChanges s.clock.wall state ||
    s.dropsOverlay (s.confirmPendingWrites state) ||
    (s.levelFallback.isSome && (s.confirmPendingWrites state).levelFallback.isNone)

/-- The entry of the unit after its own job. -/
def polledEntry (s : RoomCoordinator) (reply : PlanReply) (others : Others) : Option RoomState :=
  let entry := s.pollEntry others
  let refreshed := (s.applyReply (entry.getD emptyRoomState) true reply).2
  if refreshed = entry.getD emptyRoomState then entry else some refreshed

/-- What the pass after a readback of another unit does. -/
def confirmKnown (s : RoomCoordinator) (finished : Clock) : RoomCoordinator :=
  match s.data with
  | some state => (s.atClock finished).confirmPendingWrites state
  | none => s.atClock finished

end RoomCoordinator

/-! ### The state -/

/-- One update of the listeners: the units it is limited to, `none` for all, and what the
coordinator held then. -/
structure ListenerUpdate (ι Rest : Type) where
  updatedRooms : Option (Finset ι)
  units : ι → RoomCoordinator
  values : ι → Option Rest

/-- `room_updated`: whether an update concerns the entities of a unit. -/
def ListenerUpdate.roomUpdated {ι Rest : Type} [DecidableEq ι] (update : ListenerUpdate ι Rest)
    (unit : ι) : Bool :=
  update.updatedRooms.all fun rooms => unit ∈ rooms

/-- The coordinator of all units. -/
structure Coordinator (ι Rest : Type) where
  units : ι → RoomCoordinator
  /-- The other fields of the entries of `safe_data`. -/
  values : ι → Option Rest := fun _ => none
  /-- The other fields of the entries of `_startup_states`. -/
  startupValues : ι → Option Rest := fun _ => none
  lastUpdateSuccess : Bool := true
  updatedRooms : Option (Finset ι) := none
  /-- The listener updates so far, the latest first. -/
  updates : List (ListenerUpdate ι Rest) := []

/-- What a poll job of one unit has read: the replies to the airflow or the settings plan, or
the new values of the fields that `RoomState` does not carry. -/
structure JobRead (Rest : Type) where
  reply : Option PlanReply
  values : Option Rest

/-- What can happen next. -/
inductive CoordinatorLabel (ι Rest : Type) where
  | elapse (clock : Clock)
  | expire (unit : ι) (overlay : Overlay)
  | queryLevels (unit : ι)
  | command (unit : ι) (command : Command) (outcome : WriteOutcome) (finished : Clock)
  | readBack (unit : ι) (reply : PlanReply) (replied finished : Clock)
  | cancelReadBack (unit : ι)
  /-- A refresh with a job; the optional reads after it concern further units. -/
  | poll (unit : ι) (read : JobRead Rest) (optionalRooms : Finset ι) (replied finished : Clock)
  /-- A refresh without a job. -/
  | idlePoll (optionalRooms : Finset ι) (finished : Clock)
  /-- A refresh that raises without having read anything. -/
  | failedPoll (finished : Clock)

namespace Coordinator

section Definitions

variable {ι Rest : Type} [Fintype ι] [DecidableEq ι]

/-! ### Listener updates -/

/-- `async_update_listeners`. -/
def updateListeners (c : Coordinator ι Rest) : Coordinator ι Rest :=
  { c with
    updates := ⟨c.updatedRooms, c.units, c.values⟩ :: c.updates
    updatedRooms := none }

/-- `_limit_next_update_to`: after a failed refresh the update stays complete. -/
def limitNextUpdateTo (c : Coordinator ι Rest) (rooms : Finset ι) : Coordinator ι Rest :=
  if c.lastUpdateSuccess then { c with updatedRooms := some rooms } else c

/-- A refresh that raises: the listeners are told once. -/
def failRefresh (c : Coordinator ι Rest) : Coordinator ι Rest :=
  let failed := { c with lastUpdateSuccess := false }
  if c.lastUpdateSuccess then failed.updateListeners else failed

/-- A refresh that returns: the update may still be limited, which is decided before. -/
def succeedRefresh (c : Coordinator ι Rest) (rooms : Finset ι) : Coordinator ι Rest :=
  { c.limitNextUpdateTo rooms with lastUpdateSuccess := true }.updateListeners

/-- One unit replaced. -/
def setUnit (c : Coordinator ι Rest) (unit : ι) (s : RoomCoordinator) : Coordinator ι Rest :=
  { c with units := Function.update c.units unit s }

/-- All units at a later time. -/
def atClock (c : Coordinator ι Rest) (clock : Clock) : Coordinator ι Rest :=
  { c with units := fun unit => (c.units unit).atClock clock }

/-! ### Commands -/

/-- A command of one unit. Whatever becomes of a write, its end updates all listeners. -/
def command (c : Coordinator ι Rest) (unit : ι) (command : Command) (outcome : WriteOutcome)
    (finished : Clock) : Coordinator ι Rest :=
  match (c.units unit).prepare command with
  | .refused _ t | .done t =>
    if (c.units unit).dropsOverlay t then (c.setUnit unit t).updateListeners
    else c.setUnit unit t
  | .send t write =>
    ((c.atClock finished).setUnit unit
      ((t.atClock finished).finishWrite write outcome)).updateListeners

/-- The pass after a readback: every unit is judged by its state, the unit that was read by
the new one. -/
def confirmAll (c : Coordinator ι Rest) (unit : ι) (reply : PlanReply)
    (replied finished : Clock) : Coordinator ι Rest :=
  { c with
    units := fun other =>
      if other = unit then ((c.units unit).atClock replied).refreshAfterWrite reply finished
      else (c.units other).confirmKnown finished }

/-- Whether that pass changes anything. -/
def confirmAllChanges (c : Coordinator ι Rest) (unit : ι) (refreshed : RoomState)
    (finished : Clock) : Bool :=
  decide (∃ other, (if other = unit then some refreshed else (c.units other).data).any
    ((c.units other).atClock finished).confirmChanges = true)

/-- Whether `read_room` raised. -/
def raised : PlanReply → Bool
  | .airflow read _ => read.isRaised
  | .settings (.raised _) => true
  | .settings _ => false

/-- **`_async_refresh_room_after_write`.** -/
def refreshAfterWrite (c : Coordinator ι Rest) (unit : ι) (reply : PlanReply)
    (replied finished : Clock) : Coordinator ι Rest :=
  let s := (c.units unit).atClock replied
  let refreshed := (s.applyReply s.state false reply).2
  let confirmed := c.confirmAll unit reply replied finished
  if refreshed = s.state then
    if c.confirmAllChanges unit refreshed finished then
      (confirmed.limitNextUpdateTo {unit}).updateListeners
    else confirmed
  else if raised reply && !c.lastUpdateSuccess then
    (confirmed.limitNextUpdateTo {unit}).updateListeners
  else confirmed.succeedRefresh {unit}

/-- The end of a readback. -/
def finishReadBack (c : Coordinator ι Rest) (unit : ι) (write : PreparedWrite) :
    Coordinator ι Rest :=
  let s := c.units unit
  let finished := c.setUnit unit (s.finishReadBack write)
  if ((s.confirmations.byKey write.writeKey).any fun confirmation =>
      decide (confirmation.status = .pending)) || s.dropsOverlay (s.finishReadBack write) then
    finished.updateListeners
  else finished

/-! ### Polls -/

/-- Whether `safe_data` has an entry. -/
def listed (c : Coordinator ι Rest) : Bool :=
  decide (∃ unit, (c.units unit).data.isSome = true ∨ (c.values unit).isSome = true)

/-- Whether `_startup_states` has an entry. -/
def startupListed (c : Coordinator ι Rest) : Bool :=
  decide (∃ unit, (c.units unit).startup.isSome = true ∨ (c.startupValues unit).isSome = true)

/-- The other fields of an entry after a job of `job`. -/
def polledValues (c : Coordinator ι Rest) (job : ι) (read : JobRead Rest) (unit : ι) :
    Option Rest :=
  let values := if c.listed then c.values unit else c.startupValues unit
  if unit = job then read.values.or values else values

/-- The replies of a job, for the unit they are about. -/
def replyTo (job : ι) (read : JobRead Rest) (unit : ι) : Option PlanReply :=
  if unit = job then read.reply else none

/-- Whether any state has a value after the job. -/
def haveData (hasValues : Rest → Bool) (c : Coordinator ι Rest) (job : ι) (read : JobRead Rest)
    (replied : Clock) : Bool :=
  decide (∃ unit, (match replyTo job read unit with
      | some reply => ((c.units unit).atClock replied).polledEntry reply ⟨c.listed, false⟩
      | none => (c.units unit).pollEntry ⟨c.listed, false⟩).any RoomState.hasData = true ∨
    (c.polledValues job read unit).any hasValues = true)

/-- What a refresh with a job of `job` does to one unit. -/
def pollUnit (c : Coordinator ι Rest) (others : Others) (job : ι) (read : JobRead Rest)
    (replied finished : Clock) (unit : ι) : RoomCoordinator :=
  match replyTo job read unit with
  | some reply => ((c.units unit).atClock replied).poll reply others finished
  | none => ((c.units unit).atClock finished).finishPoll ((c.units unit).pollEntry others) others

/-- **`_async_update_data`** with a job. -/
def poll (hasValues : Rest → Bool) (c : Coordinator ι Rest) (job : ι) (read : JobRead Rest)
    (optionalRooms : Finset ι) (replied finished : Clock) : Coordinator ι Rest :=
  let haveData := c.haveData hasValues job read replied
  let units := c.pollUnit ⟨c.listed, haveData⟩ job read replied finished
  if haveData then
    { c with
      units := units
      values := c.polledValues job read
      startupValues := fun _ => none }.succeedRefresh (insert job optionalRooms)
  else { c with units := units, startupValues := c.polledValues job read }.failRefresh

/-! ### Steps -/

/-- The gateway lock is free. -/
def Unlocked (c : Coordinator ι Rest) : Prop := ∀ unit, (c.units unit).phase = .idle

instance (c : Coordinator ι Rest) : Decidable c.Unlocked :=
  inferInstanceAs (Decidable (∀ unit, (c.units unit).phase = .idle))

/-- No other unit holds it. -/
def UnlockedFor (c : Coordinator ι Rest) (unit : ι) : Prop :=
  ∀ other, other ≠ unit → (c.units other).phase = .idle

instance (c : Coordinator ι Rest) (unit : ι) : Decidable (c.UnlockedFor unit) :=
  inferInstanceAs (Decidable (∀ other, other ≠ unit → (c.units other).phase = .idle))

/-- The clock has not passed `clock` in any unit. -/
def Before (c : Coordinator ι Rest) (clock : Clock) : Prop :=
  ∀ unit, (c.units unit).clock.le clock = true

instance (c : Coordinator ι Rest) (clock : Clock) : Decidable (c.Before clock) :=
  inferInstanceAs (Decidable (∀ unit, (c.units unit).clock.le clock = true))

/-- The replies of a read come later than everything before it. -/
def ReadsAt (c : Coordinator ι Rest) (replied finished : Clock) : Prop :=
  (∀ unit, (c.units unit).clock.lt replied = true) ∧ replied.le finished = true

instance (c : Coordinator ι Rest) (replied finished : Clock) :
    Decidable (c.ReadsAt replied finished) :=
  inferInstanceAs (Decidable ((∀ unit, (c.units unit).clock.lt replied = true) ∧
    replied.le finished = true))

/-- **One step of the coordinator**, `none` where the label is not possible. -/
def step (hasValues : Rest → Bool) (c : Coordinator ι Rest) :
    CoordinatorLabel ι Rest → Option (Coordinator ι Rest)
  | .elapse clock => if c.Before clock then some (c.atClock clock) else none
  | .expire unit overlay =>
    let t := (c.units unit).clearOverlay overlay.writeKey
    if (c.units unit).dropsOverlay t then some (c.setUnit unit t).updateListeners
    else some (c.setUnit unit t)
  | .queryLevels unit => some (c.setUnit unit (c.units unit).settleUncertainFlow)
  | .command unit command outcome finished =>
    if c.Unlocked ∧ c.Before finished then some (c.command unit command outcome finished)
    else none
  | .readBack unit reply replied finished =>
    if c.UnlockedFor unit ∧ c.ReadsAt replied finished then
      match (c.units unit).phase with
      | .idle => none
      | .readBack write =>
        if reply.readsBack (writeGroup write.writeKey) then
          some ((c.refreshAfterWrite unit reply replied finished).finishReadBack unit write)
        else none
      | .failedRefresh write =>
        if reply.readsBack (writeGroup write.writeKey) then
          let refreshed := c.refreshAfterWrite unit reply replied finished
          some (refreshed.setUnit unit { refreshed.units unit with phase := .idle })
        else none
    else none
  | .cancelReadBack unit =>
    if (c.units unit).phase = .idle then none
    else some (c.setUnit unit { c.units unit with phase := .idle })
  | .poll unit read optionalRooms replied finished =>
    if c.Unlocked ∧ c.ReadsAt replied finished then
      some (c.poll hasValues unit read optionalRooms replied finished)
    else none
  | .idlePoll optionalRooms finished =>
    if c.Unlocked ∧ c.Before finished ∧ c.startupListed = false then
      some ((c.atClock finished).succeedRefresh optionalRooms)
    else none
  | .failedPoll finished =>
    if c.Unlocked ∧ c.Before finished then some (c.atClock finished).failRefresh else none

/-- A coordinator that has not polled or written anything. -/
def Started (c : Coordinator ι Rest) : Prop :=
  ∃ units, (∀ unit, (units unit).Started) ∧ c = { units := units }

end Definitions

/-! ### Each unit runs on its own -/

section Units

variable {ι Rest : Type} {hasValues : Rest → Bool} {c c' : Coordinator ι Rest}
  {label : CoordinatorLabel ι Rest} {unit other job : ι} {s t : RoomCoordinator}
  {rooms : Finset ι} {finished replied : Clock} {reply : PlanReply} {write : PreparedWrite}

@[simp] theorem updateListeners_units : c.updateListeners.units = c.units := rfl

@[simp] theorem limitNextUpdateTo_units : (c.limitNextUpdateTo rooms).units = c.units := by
  unfold limitNextUpdateTo
  split <;> rfl

@[simp] theorem succeedRefresh_units : (c.succeedRefresh rooms).units = c.units :=
  limitNextUpdateTo_units

@[simp] theorem failRefresh_units : c.failRefresh.units = c.units := by
  unfold failRefresh
  dsimp only
  split <;> rfl

/-- A unit does one step, or none. -/
def StepsOrStays (s t : RoomCoordinator) : Prop := t = s ∨ ∃ label, s.step label = some t

theorem stepsOrStays_atClock {clock : Clock} (h : s.clock.le clock = true) :
    StepsOrStays s (s.atClock clock) :=
  .inr ⟨.elapse clock, if_pos h⟩

theorem stepsOrStays_confirmKnown (hidle : s.phase = .idle) (hle : s.clock.le finished = true) :
    StepsOrStays s (s.confirmKnown finished) := by
  refine .inr ⟨.otherReadBack finished, ?_⟩
  rw [RoomCoordinator.step, if_pos ⟨hidle, hle⟩, RoomCoordinator.confirmKnown]
  cases s.data <;> rfl

theorem le_of_readsAt (h : c.ReadsAt replied finished) (unit : ι) :
    (c.units unit).clock.le finished = true := by
  have hlt : (c.units unit).clock.monotonic < replied.monotonic := of_decide_eq_true (h.1 unit)
  have hle : replied.monotonic ≤ finished.monotonic := of_decide_eq_true h.2
  exact decide_eq_true (hlt.le.trans hle)

variable [DecidableEq ι]

@[simp] theorem setUnit_self : (c.setUnit unit s).units unit = s := Function.update_self ..

theorem setUnit_of_ne (h : other ≠ unit) : (c.setUnit unit s).units other = c.units other :=
  Function.update_of_ne h ..

theorem stepsOrStays_setUnit (h : StepsOrStays (c.units unit) s) :
    StepsOrStays (c.units other) ((c.setUnit unit s).units other) := by
  by_cases hother : other = unit
  · subst hother
    rwa [setUnit_self]
  · rw [setUnit_of_ne hother]
    exact .inl rfl

theorem confirmAll_self : (c.confirmAll unit reply replied finished).units unit =
    ((c.units unit).atClock replied).refreshAfterWrite reply finished := if_pos rfl

theorem confirmAll_of_ne (h : other ≠ unit) :
    (c.confirmAll unit reply replied finished).units other =
      (c.units other).confirmKnown finished := if_neg h

theorem finishReadBack_units : (c.finishReadBack unit write).units =
    (c.setUnit unit ((c.units unit).finishReadBack write)).units := by
  unfold finishReadBack
  dsimp only
  split <;> rfl

variable [Fintype ι]

theorem refreshAfterWrite_units : (c.refreshAfterWrite unit reply replied finished).units =
    (c.confirmAll unit reply replied finished).units := by
  unfold refreshAfterWrite
  dsimp only
  split
  · split
    · rw [updateListeners_units, limitNextUpdateTo_units]
    · rfl
  · split
    · rw [updateListeners_units, limitNextUpdateTo_units]
    · exact succeedRefresh_units

theorem poll_units {read : JobRead Rest} :
    (c.poll hasValues job read rooms replied finished).units =
    c.pollUnit ⟨c.listed, c.haveData hasValues job read replied⟩ job read replied finished := by
  unfold poll
  dsimp only
  split
  · exact succeedRefresh_units
  · exact failRefresh_units

/-- **A step of the coordinator is a step of each unit**, or leaves the unit alone. -/
theorem unit_step (h : c.step hasValues label = some c') (other : ι) :
    StepsOrStays (c.units other) (c'.units other) := by
  cases label with
  | elapse clock =>
    obtain ⟨hbefore, heq⟩ := Option.ite_none_right_eq_some.mp h
    cases heq
    exact stepsOrStays_atClock (hbefore other)
  | expire unit overlay =>
    have hunit : (c.setUnit unit ((c.units unit).clearOverlay overlay.writeKey)).units =
        c'.units := by
      simp only [step] at h
      split at h <;> cases h <;> rfl
    rw [← hunit]
    exact stepsOrStays_setUnit (.inr ⟨.expire overlay, rfl⟩)
  | queryLevels unit =>
    cases h
    exact stepsOrStays_setUnit (.inr ⟨.queryLevels, rfl⟩)
  | command unit command outcome finished =>
    obtain ⟨⟨hidle, hbefore⟩, heq⟩ := Option.ite_none_right_eq_some.mp h
    cases heq
    have hguard : (c.units unit).phase = .idle ∧ (c.units unit).clock.le finished = true :=
      ⟨hidle unit, hbefore unit⟩
    -- The unit prepares the command as it does alone; who is told of it changes no unit.
    have hstep : ∀ t, (match (c.units unit).prepare command with
          | .refused _ t => some t
          | .done t => some t
          | .send t write => some ((t.atClock finished).finishWrite write outcome)) = some t →
        (c.units unit).step (.command command outcome finished) = some t := fun t ht => by
      rw [RoomCoordinator.step, if_pos hguard]
      exact ht
    unfold Coordinator.command
    rcases hprepare : (c.units unit).prepare command with ⟨error, t⟩ | t | ⟨t, write⟩
    · dsimp only
      have hunit : StepsOrStays (c.units unit) t := .inr ⟨_, hstep t (by rw [hprepare])⟩
      split <;> exact stepsOrStays_setUnit hunit
    · dsimp only
      have hunit : StepsOrStays (c.units unit) t := .inr ⟨_, hstep t (by rw [hprepare])⟩
      split <;> exact stepsOrStays_setUnit hunit
    · dsimp only
      rw [updateListeners_units]
      by_cases hother : other = unit
      · subst hother
        rw [setUnit_self]
        exact .inr ⟨_, hstep _ (by rw [hprepare])⟩
      · rw [setUnit_of_ne hother]
        exact stepsOrStays_atClock (hbefore other)
  | readBack unit reply replied finished =>
    obtain ⟨⟨hidle, hreads⟩, h⟩ := Option.ite_none_right_eq_some.mp h
    have hguard : ((c.units unit).clock.lt replied && replied.le finished) = true :=
      Bool.and_eq_true_iff.mpr ⟨hreads.1 unit, hreads.2⟩
    -- The other units are judged once more from the state they have.
    have hknown : other ≠ unit → StepsOrStays (c.units other)
        ((c.units other).confirmKnown finished) := fun hother =>
      stepsOrStays_confirmKnown (hidle other hother) (le_of_readsAt hreads other)
    rcases hphase : (c.units unit).phase with _ | write | write
    · rw [hphase] at h
      cases h
    · simp only [hphase] at h
      obtain ⟨hreply, heq⟩ := Option.ite_none_right_eq_some.mp h
      cases heq
      rw [finishReadBack_units]
      by_cases hother : other = unit
      · subst hother
        rw [setUnit_self, refreshAfterWrite_units, confirmAll_self]
        refine .inr ⟨.readBack reply replied finished, ?_⟩
        rw [RoomCoordinator.step, if_pos hguard, hphase]
        exact if_pos hreply
      · rw [setUnit_of_ne hother, refreshAfterWrite_units, confirmAll_of_ne hother]
        exact hknown hother
    · simp only [hphase] at h
      obtain ⟨hreply, heq⟩ := Option.ite_none_right_eq_some.mp h
      cases heq
      by_cases hother : other = unit
      · subst hother
        rw [setUnit_self, refreshAfterWrite_units, confirmAll_self]
        refine .inr ⟨.readBack reply replied finished, ?_⟩
        rw [RoomCoordinator.step, if_pos hguard, hphase]
        exact if_pos hreply
      · rw [setUnit_of_ne hother, refreshAfterWrite_units, confirmAll_of_ne hother]
        exact hknown hother
  | cancelReadBack unit =>
    obtain ⟨hphase, heq⟩ := Option.ite_none_left_eq_some.mp h
    cases heq
    exact stepsOrStays_setUnit (.inr ⟨.cancelReadBack, if_neg hphase⟩)
  | poll job read rooms replied finished =>
    obtain ⟨⟨hidle, hreads⟩, heq⟩ := Option.ite_none_right_eq_some.mp h
    cases heq
    rw [poll_units, pollUnit]
    generalize (⟨c.listed, c.haveData hasValues job read replied⟩ : Others) = others
    -- The unit that was read takes a poll of its own, each other one a poll without a reply.
    cases replyTo job read other with
    | some reply =>
      refine .inr ⟨.poll reply others replied finished, ?_⟩
      exact if_pos ⟨hidle other, hreads.1 other, hreads.2⟩
    | none =>
      refine .inr ⟨.otherPoll others finished, ?_⟩
      exact if_pos ⟨hidle other, le_of_readsAt hreads other⟩
  | idlePoll rooms finished =>
    obtain ⟨⟨-, hbefore, -⟩, heq⟩ := Option.ite_none_right_eq_some.mp h
    cases heq
    rw [succeedRefresh_units]
    exact stepsOrStays_atClock (hbefore other)
  | failedPoll finished =>
    obtain ⟨⟨-, hbefore⟩, heq⟩ := Option.ite_none_right_eq_some.mp h
    cases heq
    rw [failRefresh_units]
    exact stepsOrStays_atClock (hbefore other)

/-- The coordinator is in a state that a run reaches. -/
abbrev Reached (hasValues : Rest → Bool) : Coordinator ι Rest → Prop :=
  Transition.Reach (step hasValues) (fun _ _ => True) Started

/-- **Each unit of a run of the coordinator is in a run of its own**, so that whatever holds of
every run of one unit holds of every unit. -/
theorem reach_unit (h : Reached hasValues c) (unit : ι) :
    Transition.Reach RoomCoordinator.step (fun _ _ => True) RoomCoordinator.Started
      (c.units unit) := by
  induction h with
  | start h =>
    obtain ⟨units, hunits, rfl⟩ := h
    exact .start (hunits unit)
  | next _ _ hstep ih =>
    rcases unit_step hstep unit with hsame | ⟨label, hlabel⟩
    · rwa [hsame]
    · exact ih.next trivial hlabel

end Units

end Coordinator

end MeltemVentilation
