import MeltemVentilation.AlikeSteps
import MeltemVentilation.IntensiveDisplay

/-!
# Decisions about order and the wall clock

Reads and writes share the gateway lock, so the order of a write and a read can be told without
a clock, from the health of the read group; and how old a read is can be told by the monotonic
clock. This file compares two runs of a unit that get the same commands, the same replies and
failures at the same monotonic times, and arbitrary readings of the wall clock. The two
coordinators go in lockstep: a label is a step of the one, with the readings at which the other
takes the same step (`Label.withWalls`).

Freshness never depends on the readings. The decisions that compare two healths do, in two
places. A failed read of a group that has failed often enough already changes nothing in its
health but the time of the attempt, and if the clock reads the same again it does not even
change that; and the fallback of a fan write is dropped by comparing the wall times of two
successful reads alone. The exact condition on a read is `RoomCoordinator.Told`. Where it
holds, and the retention of the last airflow write, which the source leaves to the wall clock,
answers the same in both runs, all decisions are the same in every state the two runs reach.
-/

namespace MeltemVentilation

open Transition RoomCoordinator

/-! ### Polls of the other read groups -/

/-- The read groups whose values and writes the coordinator judges. -/
def judgedReadGroups : List ReadGroup := [.flow, .flowControl, .intensive, .controlSettings]

/-- `_updated_read_health` for a plan of the other read groups. -/
def readOtherGroups (clock : Clock) (reads : ReadGroup → BlockRead Unit) (state : RoomState) :
    RoomState :=
  { state with
    groupReadHealth := fun group =>
      if group ∈ judgedReadGroups then state.groupReadHealth group
      else (reads group).health clock (state.groupReadHealth group) }

/-- `_async_update_data` with a job of the other read groups. -/
def RoomCoordinator.pollOtherGroups (s : RoomCoordinator) (reads : ReadGroup → BlockRead Unit)
    (others : Others) (finished : Clock) : RoomCoordinator :=
  let entry := s.pollEntry others
  (s.atClock finished).finishPoll
    (keepEntry entry (readOtherGroups s.clock reads (entry.getD emptyRoomState))) others

/-- What can happen to a unit: a step of its coordinator, or a poll of the other groups. -/
inductive UnitLabel where
  | step (label : Label)
  | pollOtherGroups (reads : ReadGroup → BlockRead Unit) (others : Others)
    (replied finished : Clock)

/-- One step of a unit. -/
def unitStep (s : RoomCoordinator) : UnitLabel → Option RoomCoordinator
  | .step label => s.step label
  | .pollOtherGroups reads others replied finished =>
    if s.phase = .idle ∧ s.clock.lt replied = true ∧ replied.le finished = true then
      some ((s.atClock replied).pollOtherGroups reads others finished)
    else none

/-! ### Two runs -/

/-- What the wall clock reads when the replies of a step come, and at its end. -/
structure Walls where
  replied : WallTime
  finished : WallTime

/-- The same moment at another reading of the wall clock. -/
def Clock.withWall (clock : Clock) (wall : WallTime) : Clock := { clock with wall := wall }

/-- **The same step at other readings of the wall clock**: the same command or read, with the
same outcome or replies, at the same monotonic times. -/
def Label.withWalls (walls : Walls) : Label → Label
  | .elapse clock => .elapse (clock.withWall walls.finished)
  | .expire overlay => .expire overlay
  | .queryLevels => .queryLevels
  | .command issued outcome finished =>
    .command issued outcome (finished.withWall walls.finished)
  | .readBack reply replied finished =>
    .readBack reply (replied.withWall walls.replied) (finished.withWall walls.finished)
  | .cancelReadBack => .cancelReadBack
  | .poll reply others replied finished =>
    .poll reply others (replied.withWall walls.replied) (finished.withWall walls.finished)
  | .otherPoll others finished => .otherPoll others (finished.withWall walls.finished)
  | .otherReadBack finished => .otherReadBack (finished.withWall walls.finished)

def UnitLabel.withWalls (walls : Walls) : UnitLabel → UnitLabel
  | .step label => .step (label.withWalls walls)
  | .pollOtherGroups reads others replied finished =>
    .pollOtherGroups reads others (replied.withWall walls.replied)
      (finished.withWall walls.finished)

/-- **One step of two runs**: the same step, at two readings of the wall clock. -/
def clockStep (pair : RoomCoordinator × RoomCoordinator) (label : UnitLabel × Walls) :
    Option (RoomCoordinator × RoomCoordinator) :=
  match unitStep pair.1 label.1, unitStep pair.2 (label.1.withWalls label.2) with
  | some t, some t' => some (t, t')
  | _, _ => none

/-- Two runs start before the first poll and the first command, at the same monotonic time. -/
def ClockStart (pair : RoomCoordinator × RoomCoordinator) : Prop :=
  ∃ room clock wall,
    pair = ({ room := room, clock := clock }, { room := room, clock := clock.withWall wall })

/-! ### The condition -/

/-- The replies of a step of the coordinator, and when they came. -/
def UnitLabel.reply : UnitLabel → Option (PlanReply × Clock)
  | .step label => label.reply
  | .pollOtherGroups _ _ _ _ => none

/-- The state that the read of a step starts from. -/
def RoomCoordinator.readEntry (s : RoomCoordinator) : UnitLabel → RoomState
  | .step (.poll _ others _ _) => (s.pollEntry others).getD emptyRoomState
  | _ => s.state

/-- Whether that read is a poll. -/
def UnitLabel.polls : UnitLabel → Bool
  | .step (.poll _ _ _ _) => true
  | _ => false

/-- The wall times of a step tell what they have to. -/
def RoomCoordinator.ReadsTold (s : RoomCoordinator) (label : UnitLabel) : Prop :=
  ∀ read ∈ label.reply,
    s.Told read.2.wall (read.1.groupRead s.room) (s.readEntry label).groupReadHealth

/-- The last airflow write is recent in both runs or in neither, where a step reads the exact
target or may carry it. -/
def RetentionAgrees (pair : RoomCoordinator × RoomCoordinator) (label : UnitLabel × Walls) :
    Prop :=
  ∀ read ∈ label.1.reply,
    (pair.1.atClock read.2).RecentAlike (pair.2.atClock (read.2.withWall label.2.replied))
      (pair.1.readEntry label.1) label.1.polls read.1

instance (s s' : RoomCoordinator) (previous : RoomState) (polled : Bool) (reply : PlanReply) :
    Decidable (s.RecentAlike s' previous polled reply) :=
  inferInstanceAs (Decidable (s.asksRetention previous polled reply = true → _ = _))

instance (s : RoomCoordinator) (label : UnitLabel) : Decidable (s.ReadsTold label) :=
  inferInstanceAs (Decidable (∀ read ∈ label.reply, s.Told _ _ _))

instance (pair : RoomCoordinator × RoomCoordinator) (label : UnitLabel × Walls) :
    Decidable (RetentionAgrees pair label) :=
  inferInstanceAs (Decidable (∀ read ∈ label.1.reply, RecentAlike _ _ _ _ _))

/-- **The condition on a step of two runs.** -/
structure ClockTold (pair : RoomCoordinator × RoomCoordinator) (label : UnitLabel × Walls) :
    Prop where
  first : pair.1.ReadsTold label.1
  second : pair.2.ReadsTold (label.1.withWalls label.2)
  retention : RetentionAgrees pair label

instance (pair : RoomCoordinator × RoomCoordinator) (label : UnitLabel × Walls) :
    Decidable (ClockTold pair label) :=
  decidable_of_iff (pair.1.ReadsTold label.1 ∧ pair.2.ReadsTold (label.1.withWalls label.2) ∧
      RetentionAgrees pair label)
    ⟨fun h => ⟨h.1, h.2.1, h.2.2⟩, fun h => ⟨h.first, h.second, h.retention⟩⟩

/-! ### Decisions -/

/-- A pending value as the decisions see it: what it is, when its window ends, and the answers
of `read_since` to its baselines. -/
def PendingValue.view {T : Type} (s : RoomCoordinator) (pending : PendingValue T) :
    T × Monotonic × List Bool :=
  (pending.value, pending.expiresAt, pending.readSince s.clock s.state)

/-- What `_checked_confirmation` finds out about an open write: whether a read happened after
it. -/
def RoomCoordinator.openReads (s : RoomCoordinator) (key : WriteKey) : Option Bool :=
  ((s.confirmations.byKey key).filter fun confirmation => !confirmation.status.isFinal).map
    (readAfterWrite s.state key)

/-- **The decisions about order agree in two coordinators.** -/
structure DecisionsAgree (s s' : RoomCoordinator) : Prop where
  groupFresh : ∀ group, groupFresh s'.clock s'.state group = groupFresh s.clock s.state group
  groupAvailable : ∀ group,
    groupAvailable s'.clock s'.state group = groupAvailable s.clock s.state group
  /-- The overlays have been settled alike, and have been read since alike. -/
  presets : s'.optimisticPresets.map (·.view s') = s.optimisticPresets.map (·.view s)
  intensive : s'.optimisticIntensive.map (·.view s') = s.optimisticIntensive.map (·.view s)
  levels : s'.optimisticLevels.map (·.view s') = s.optimisticLevels.map (·.view s)
  shownPreset : s'.optimisticPresetMode = s.optimisticPresetMode
  shownIntensive : s'.optimisticIntensiveValue = s.optimisticIntensiveValue
  shownLevels : s'.pendingLevels = s.pendingLevels
  /-- The two groups of an interrupted flow write have been read since alike. -/
  uncertainGroups :
    (s'.uncertainFlow.map fun marker => (readSince s'.clock s'.state .flowControl marker.1,
        readSince s'.clock s'.state .flow marker.2)) =
      s.uncertainFlow.map fun marker => (readSince s.clock s.state .flowControl marker.1,
        readSince s.clock s.state .flow marker.2)
  flowWriteUncertain : s'.flowWriteUncertain = s.flowWriteUncertain
  levelWriteFallback : s'.levelWriteFallback = s.levelWriteFallback
  readAfterWrite : ∀ key, s'.openReads key = s.openReads key
  outcomes : ∀ key, (s'.confirmations.byKey key).map (·.status) =
    (s.confirmations.byKey key).map (·.status)

section Decisions

variable {now : Monotonic} {s s' : RoomCoordinator}

theorem view_alike {T : Type} {p p' : Option (PendingValue T)}
    (h : RoomCoordinator.Alike now s s')
    (hpending : Option.Rel (PendingValue.Alike now s.state.groupReadHealth
      s'.state.groupReadHealth) p p') :
    p'.map (·.view s') = p.map (·.view s) := by
  cases hpending with
  | none => rfl
  | some hpending =>
    simp only [Option.map_some, PendingValue.view, hpending.value, hpending.expiresAt,
      hpending.readSince h.state h.clock]

/-- **Alike coordinators decide alike.** -/
theorem RoomCoordinator.Alike.decisionsAgree (h : RoomCoordinator.Alike now s s') :
    DecisionsAgree s s' where
  groupFresh group := groupFresh_alike (h.state.health group) h.clock
  groupAvailable group := groupAvailable_alike (h.state.health group) h.clock
  presets := view_alike h h.markedState.presets
  intensive := view_alike h h.markedState.intensive
  levels := view_alike h h.markedState.levels
  shownPreset := h.optimisticPresetMode
  shownIntensive := h.optimisticIntensiveValue
  shownLevels := h.pendingLevels
  uncertainGroups := by
    obtain ⟨hnone, hnone'⟩ | ⟨marker, marker', hsome, hsome', hcontrol, hflow⟩ :=
      rel_cases h.markedState.uncertain
    · rw [hnone, hnone']
      rfl
    · rw [hsome, hsome', Option.map_some, Option.map_some,
        readSince_alike (h.state.health .flowControl) hcontrol h.clock,
        readSince_alike (h.state.health .flow) hflow h.clock]
  flowWriteUncertain := h.flowWriteUncertain
  levelWriteFallback := h.levelWriteFallback
  readAfterWrite key := by
    unfold RoomCoordinator.openReads
    obtain ⟨hnone, hnone'⟩ | ⟨confirmation, confirmation', hsome, hsome', halike⟩ :=
      rel_cases (h.markedState.confirmations.writes key)
    · rw [hnone, hnone']
      rfl
    · rw [hsome, hsome', Option.filter_some, Option.filter_some, halike.status]
      split
      · rename_i hopen
        rw [Option.map_some, Option.map_some,
          readAfterWrite_alike h.state halike (by simpa using hopen)]
      · rfl
  outcomes key := by
    obtain ⟨hnone, hnone'⟩ | ⟨confirmation, confirmation', hsome, hsome', halike⟩ :=
      rel_cases (h.marked.confirmations.writes key)
    · rw [hnone, hnone']
    · rw [hsome, hsome', Option.map_some, Option.map_some, halike.status]

end Decisions

/-! ### The step lemma -/

section Steps

variable {now : Monotonic} {s s' : RoomCoordinator} {walls : Walls}

/-- A poll of the other groups reads nothing that a write is judged by. -/
theorem told_otherGroups (s : RoomCoordinator) (wall : WallTime)
    (reads : ReadGroup → BlockRead Unit) (health : ReadGroup → ReadHealth) :
    s.Told wall (fun group => if group ∈ judgedReadGroups then .skipped else reads group)
      health := by
  refine ⟨fun key confirmation _ _ failure hfailure => ?_, fun fallback _ hread => ?_⟩
  · have hjudged : writeGroup key ∈ judgedReadGroups := by
      cases key <;> simp [writeGroup, judgedReadGroups]
    rw [if_pos hjudged] at hfailure
    cases hfailure
  · rw [if_pos (by decide)] at hread
    cases hread

/-- The health of each group after a poll of the other groups, as the reply of one block. -/
theorem readOtherGroups_health (clock : Clock) (reads : ReadGroup → BlockRead Unit)
    (state : RoomState) : (readOtherGroups clock reads state).groupReadHealth = fun group =>
      (if group ∈ judgedReadGroups then .skipped else reads group : BlockRead Unit).health clock
        (state.groupReadHealth group) := by
  funext group
  simp only [readOtherGroups]
  split <;> rfl

theorem readOtherGroups_alike {clock clock' : Clock} {reads : ReadGroup → BlockRead Unit}
    {state state' : RoomState} (h : RoomState.Alike now state state')
    (hclock : clock'.monotonic = clock.monotonic) (hle : now ≤ clock.monotonic) :
    RoomState.Alike clock.monotonic (readOtherGroups clock reads state)
      (readOtherGroups clock' reads state') := by
  refine .of ?_ fun group => ?_
  · cases h
    rfl
  · rw [readOtherGroups_health, readOtherGroups_health]
    exact (h.health group).read _ hclock hle

/-- **A poll of the other groups does not depend on the wall clock.** -/
theorem pollOtherGroups_alike {reads : ReadGroup → BlockRead Unit} {others : Others}
    {finished finished' : Clock} (h : RoomCoordinator.Alike now s s')
    (hlt : now < s.clock.monotonic) (hclock : finished'.monotonic = finished.monotonic)
    (hle : s.clock.monotonic ≤ finished.monotonic) :
    RoomCoordinator.Alike s.clock.monotonic (s.pollOtherGroups reads others finished)
      (s'.pollOtherGroups reads others finished') := by
  have hentry := h.toPolled.pollEntry others
  have hread := (h.markedAt hentry (s.pollEntry_health others) (s'.pollEntry_health others)).read
    hlt h.clock (told_otherGroups s _ reads _) (told_otherGroups s' _ reads _)
  rw [← readOtherGroups_health, ← readOtherGroups_health] at hread
  have hpolled := (h.atClock hclock (h.time.trans hle)).toPolled.mono h.time hle
  refine finishPoll_alike hpolled ((h.marked.mono h.time).atClock _ _)
    (keepEntry_alike hentry (readOtherGroups_alike (.getD hentry) h.clock h.time)) ?_
  rw [keepEntry_getD, keepEntry_getD]
  exact hread.atClock _ _

theorem RoomCoordinator.Told.atClock {wall : WallTime} {reads : ReadGroup → BlockRead Unit}
    {health : ReadGroup → ReadHealth} (h : s.Told wall reads health) (clock : Clock) :
    (s.atClock clock).Told wall reads health :=
  ⟨h.failures, h.successes⟩

theorem finishReadBack_alike (h : RoomCoordinator.Alike now s s') (write : PreparedWrite) :
    RoomCoordinator.Alike now (s.finishReadBack write) (s'.finishReadBack write) := by
  have hjudged := h.withWrites (h.marked.confirmations.markUnconfirmed write.writeKey
    "No matching device readback was received") .idle
  unfold RoomCoordinator.finishReadBack
  dsimp only
  split
  · exact hjudged.clearOverlay .presetMode
  · exact hjudged

/-- Judging the polled state once more. -/
theorem judged_alike {state state' : RoomState} (h : RoomCoordinator.Alike now s s')
    (hstate : RoomState.Alike now state state') (hsome : s.data = some state)
    (hsome' : s'.data = some state') :
    RoomCoordinator.Alike now (s.confirmPendingWrites state) (s'.confirmPendingWrites state') := by
  have hread := h.marked
  rw [s.groupHealth_of_data _ hsome, s'.groupHealth_of_data _ hsome'] at hread
  exact ⟨⟨h.room, h.clock, h.time, h.data, h.startup, h.phase⟩,
    hread.confirmPendingWrites hstate h.marked h.clock⟩

theorem le_withWall {clock clock' later : Clock} {wall : WallTime}
    (h : clock'.monotonic = clock.monotonic) :
    clock'.le (later.withWall wall) = clock.le later := by
  simp only [Clock.le, Clock.withWall, h]

theorem lt_withWall {clock clock' later : Clock} {wall : WallTime}
    (h : clock'.monotonic = clock.monotonic) :
    clock'.lt (later.withWall wall) = clock.lt later := by
  simp only [Clock.lt, Clock.withWall, h]

theorem withWall_le {clock later : Clock} {wall wall' : WallTime} :
    (clock.withWall wall).le (later.withWall wall') = clock.le later :=
  le_withWall rfl

theorem RoomCoordinator.Alike.atWall (h : RoomCoordinator.Alike now s s') (clock : Clock)
    (wall : WallTime) (hle : now ≤ clock.monotonic) :
    RoomCoordinator.Alike now (s.atClock clock) (s'.atClock (clock.withWall wall)) :=
  h.atClock rfl hle

/-- **The step lemma of the coordinator**: where the one takes a step the other can take it
too, and they stay alike. -/
theorem step_alike (h : RoomCoordinator.Alike now s s') (label : Label)
    (hok : ClockTold (s, s') (.step label, walls)) :
    ∃ later, Option.Rel (RoomCoordinator.Alike later) (s.step label)
      (s'.step (label.withWalls walls)) := by
  obtain ⟨hfirst, hsecond, hretention⟩ := hok
  have hfinished : ∀ {finished : Clock},
      (finished.withWall walls.finished).monotonic = finished.monotonic := rfl
  -- The guards compare monotonic times only, so both sides take the same branch throughout.
  cases label with
  | elapse clock =>
    simp only [Label.withWalls, RoomCoordinator.step, le_withWall h.clock]
    split
    · rename_i hle
      exact ⟨now, .some (h.atWall clock _ (h.time.trans (of_decide_eq_true hle)))⟩
    · exact ⟨now, .none⟩
  | expire overlay => exact ⟨now, .some (h.clearOverlay _)⟩
  | queryLevels => exact ⟨now, .some h.settleUncertainFlow⟩
  | command issued outcome finished =>
    simp only [Label.withWalls, RoomCoordinator.step, le_withWall h.clock, h.phase]
    split
    · rename_i hguard
      have hprepared := h.prepare issued
      generalize s.prepare issued = prepared at hprepared
      generalize s'.prepare issued = prepared' at hprepared
      cases hprepared with
      | refused error halike => exact ⟨now, .some halike⟩
      | done halike => exact ⟨now, .some halike⟩
      | send write halike =>
        have hle := h.time.trans (of_decide_eq_true hguard.2)
        exact ⟨now, .some ((halike.atWall finished _ hle).finishWrite write outcome)⟩
    · exact ⟨now, .none⟩
  | readBack reply replied finished =>
    simp only [Label.withWalls, RoomCoordinator.step, lt_withWall h.clock, withWall_le, h.phase]
    split
    · rename_i hguard
      obtain ⟨hlt, hle⟩ := Bool.and_eq_true_iff.mp hguard
      have hnow := h.time.trans_lt (of_decide_eq_true hlt)
      have hread := refreshAfterWrite_alike (h.atWall replied walls.replied hnow.le) hnow hfinished
        (of_decide_eq_true hle) ((hfirst _ rfl).atClock _) ((hsecond _ rfl).atClock _)
        (hretention _ rfl)
      split
      · exact ⟨now, .none⟩
      · split
        · exact ⟨_, .some (finishReadBack_alike hread _)⟩
        · exact ⟨now, .none⟩
      · split
        · exact ⟨_, .some (hread.withWrites hread.marked.confirmations .idle)⟩
        · exact ⟨now, .none⟩
    · exact ⟨now, .none⟩
  | cancelReadBack =>
    simp only [Label.withWalls, RoomCoordinator.step, h.phase]
    split
    · exact ⟨now, .none⟩
    · exact ⟨now, .some (h.withWrites h.marked.confirmations .idle)⟩
  | poll reply others replied finished =>
    simp only [Label.withWalls, RoomCoordinator.step, lt_withWall h.clock, withWall_le, h.phase]
    split
    · rename_i hguard
      obtain ⟨-, hlt, hle⟩ := hguard
      have hnow := h.time.trans_lt (of_decide_eq_true hlt)
      exact ⟨_, .some (poll_alike (h.atWall replied walls.replied hnow.le) hnow hfinished
        (of_decide_eq_true hle) ((hfirst _ rfl).atClock _) ((hsecond _ rfl).atClock _)
        (hretention _ rfl))⟩
    · exact ⟨now, .none⟩
  | otherPoll others finished =>
    simp only [Label.withWalls, RoomCoordinator.step, le_withWall h.clock, h.phase]
    split
    · rename_i hguard
      have hle := h.time.trans (of_decide_eq_true hguard.2)
      have hentry := h.toPolled.pollEntry others
      have hlater := h.atWall finished walls.finished hle
      exact ⟨now, .some (finishPoll_alike hlater.toPolled hlater.marked hentry
        ((h.markedAt hentry (s.pollEntry_health others)
          (s'.pollEntry_health others)).atClock _ _))⟩
    · exact ⟨now, .none⟩
  | otherReadBack finished =>
    simp only [Label.withWalls, RoomCoordinator.step, le_withWall h.clock, h.phase]
    split
    · rename_i hguard
      have hle := h.time.trans (of_decide_eq_true hguard.2)
      have hlater := h.atWall finished walls.finished hle
      obtain ⟨hnone, hnone'⟩ | ⟨state, state', hsome, hsome', hstate⟩ := rel_cases h.data
      · rw [hnone, hnone']
        exact ⟨now, .some hlater⟩
      · rw [hsome, hsome']
        exact ⟨now, .some (judged_alike hlater hstate hsome hsome')⟩
    · exact ⟨now, .none⟩

/-- The step lemma of a unit. -/
theorem unitStep_alike (h : RoomCoordinator.Alike now s s') (label : UnitLabel)
    (hok : ClockTold (s, s') (label, walls)) :
    ∃ later, Option.Rel (RoomCoordinator.Alike later) (unitStep s label)
      (unitStep s' (label.withWalls walls)) := by
  cases label with
  | step label => exact step_alike h label hok
  | pollOtherGroups reads others replied finished =>
    simp only [unitStep, UnitLabel.withWalls, lt_withWall h.clock, withWall_le, h.phase]
    split
    · rename_i hguard
      obtain ⟨-, hlt, hle⟩ := hguard
      have hnow := h.time.trans_lt (of_decide_eq_true hlt)
      exact ⟨_, .some (pollOtherGroups_alike (h.atWall replied walls.replied hnow.le) hnow rfl
        (of_decide_eq_true hle))⟩
    · exact ⟨now, .none⟩

end Steps

/-! ### Runs -/

variable {pair : RoomCoordinator × RoomCoordinator}

/-- **Two runs whose reads are told stay alike.** -/
theorem alike_of_reach (h : Reach clockStep ClockTold ClockStart pair) :
    ∃ now, RoomCoordinator.Alike now pair.1 pair.2 := by
  refine h.invariant (P := fun pair => ∃ now, RoomCoordinator.Alike now pair.1 pair.2) ?_ ?_
  · rintro _ ⟨room, clock, wall, rfl⟩
    refine ⟨0, ⟨⟨rfl, rfl, Nat.zero_le _, .none, .none, rfl⟩, ⟨⟨fun _ => .none, rfl⟩, .none, .none,
      .none, .none, .none⟩⟩⟩
  · rintro ⟨s, s'⟩ ⟨label, walls⟩ ⟨t, t'⟩ ⟨now, halike⟩ hok hstep
    obtain ⟨later, hsteps⟩ := unitStep_alike halike label hok
    simp only [clockStep] at hstep
    generalize unitStep s label = o at hsteps hstep
    generalize unitStep s' (label.withWalls walls) = o' at hsteps hstep
    cases hsteps with
    | none => cases hstep
    | some halike =>
      cases hstep
      exact ⟨later, halike⟩

/-- **Decisions about order do not depend on the wall clock** in any two runs in which, at every
read, the wall times tell what they have to: a failed read from the health that an open write
was sent at, and a successful mode read from the one before a pending fallback. -/
theorem decisionsAgree_of_reach (h : Reach clockStep ClockTold ClockStart pair) :
    DecisionsAgree pair.1 pair.2 := by
  obtain ⟨now, halike⟩ := alike_of_reach h
  exact halike.decisionsAgree

/-- Neither of two such runs comes to a step that the other cannot take. -/
theorem enabled_of_reach (h : Reach clockStep ClockTold ClockStart pair)
    {label : UnitLabel × Walls} (hok : ClockTold pair label) :
    (unitStep pair.2 (label.1.withWalls label.2)).isSome = (unitStep pair.1 label.1).isSome := by
  obtain ⟨now, halike⟩ := alike_of_reach h
  obtain ⟨later, hsteps⟩ := unitStep_alike halike label.1 hok
  generalize unitStep pair.1 label.1 = o at hsteps
  generalize unitStep pair.2 (label.1.withWalls label.2) = o' at hsteps
  cases hsteps <;> rfl

/-! ### The failing runs -/

/-- A step of a test run, at wall times of the second run that are given in seconds. -/
def atWalls (label : Label) (replied finished : ℕ) : UnitLabel × Walls :=
  (.step label, ⟨wallSeconds replied, wallSeconds finished⟩)

/-- A unit runs intensive when it is first read, a fan command leaves a fallback, and then the
mode is read: in the second run, when the clock has been set back to the first read. -/
def modeReadAtSameWall : List (UnitLabel × Walls) :=
  [atWalls (.poll (.airflow intensiveRead .failed) ⟨false, false⟩ (atSecond 1) (atSecond 1)) 1 1,
    atWalls (.command (.setDirectionLevel .supply 40) .accepted (atSecond 2)) 2 2,
    atWalls (.poll (.airflow manualRead .failed) ⟨false, false⟩ (atSecond 11) (atSecond 11)) 1 1]

/-- The measured airflow is read and the status map is refused. -/
def modeRefused : AirflowRead := .blocks (.values ⟨40, 40⟩) (.failed "Illegal data address" false)

/-- The status map is refused often enough, a fan command is accepted, and the map is refused
again: in the second run, when the clock reads the same as at the last refusal before. -/
def refusedAtSameWall : List (UnitLabel × Walls) :=
  [atWalls (.poll (.airflow modeRefused .failed) ⟨false, false⟩ (atSecond 1) (atSecond 1)) 1 1,
    atWalls (.poll (.airflow modeRefused .failed) ⟨false, false⟩ (atSecond 41) (atSecond 41)) 41 41,
    atWalls (.poll (.airflow modeRefused .failed) ⟨false, false⟩ (atSecond 111) (atSecond 111))
      111 111,
    atWalls (.command (.setLevel 60) .accepted (atSecond 112)) 112 112,
    atWalls (.poll (.airflow modeRefused .failed) ⟨false, false⟩ (atSecond 121) (atSecond 121))
      111 111]

theorem sampleStart_clockStart : ClockStart (sampleStart, sampleStart) :=
  ⟨sampleRoom, atSecond 0, wallSeconds 0, rfl⟩

/-- **Repeated wall times change decisions.** In the first pair of runs a successful read of the
mode drops the fallback of a fan command in one run and leaves it in the other; in the second a
failed read counts as made after a fan command in one run and not in the other. -/
theorem decisionsAgree_refuted :
    (∃ pair, run clockStep modeReadAtSameWall (sampleStart, sampleStart) = some pair ∧
      Reach clockStep RetentionAgrees ClockStart pair ∧
      pair.1.levelWriteFallback = none ∧ pair.2.levelWriteFallback = some .unknownMode ∧
      ¬ DecisionsAgree pair.1 pair.2) ∧
    ∃ pair, run clockStep refusedAtSameWall (sampleStart, sampleStart) = some pair ∧
      Reach clockStep RetentionAgrees ClockStart pair ∧
      pair.1.openReads .airflowLevels = some true ∧
      pair.2.openReads .airflowLevels = some false ∧ ¬ DecisionsAgree pair.1 pair.2 := by
  have hstart : Reach clockStep RetentionAgrees ClockStart (sampleStart, sampleStart) :=
    .start sampleStart_clockStart
  constructor
  · obtain ⟨pair, hrun, hreach, hpair⟩ := hstart.exists_of_run modeReadAtSameWall
      (fun pair => pair.1.levelWriteFallback = none ∧
        pair.2.levelWriteFallback = some .unknownMode) (by decide +kernel) (by decide +kernel)
    obtain ⟨hfirst, hsecond⟩ := of_decide_eq_true hpair
    refine ⟨pair, hrun, hreach, hfirst, hsecond, fun h => ?_⟩
    have hsame := h.levelWriteFallback
    rw [hfirst, hsecond] at hsame
    cases hsame
  · obtain ⟨pair, hrun, hreach, hpair⟩ := hstart.exists_of_run refusedAtSameWall
      (fun pair => pair.1.openReads .airflowLevels = some true ∧
        pair.2.openReads .airflowLevels = some false) (by decide +kernel) (by decide +kernel)
    obtain ⟨hfirst, hsecond⟩ := of_decide_eq_true hpair
    refine ⟨pair, hrun, hreach, hfirst, hsecond, fun h => ?_⟩
    have hsame := h.readAfterWrite .airflowLevels
    rw [hfirst, hsecond] at hsame
    cases hsame

/-- A fan command is sent at an unknown mode and the mode is read afterwards, while the clock of
the second run jumps forwards and is set back. -/
def modeReadAcrossJumps : List (UnitLabel × Walls) :=
  [atWalls (.poll (.airflow intensiveRead .failed) ⟨false, false⟩ (atSecond 1) (atSecond 1))
      9000 9000,
    atWalls (.command (.setDirectionLevel .supply 40) .accepted (atSecond 2)) 2 2,
    (.pollOtherGroups (fun _ => .values ()) ⟨false, false⟩ (atSecond 6) (atSecond 6),
      ⟨wallSeconds 9000, wallSeconds 9000⟩),
    atWalls (.poll (.airflow manualRead .failed) ⟨false, false⟩ (atSecond 11) (atSecond 11)) 3 3]

theorem decisionsAgree_of_reach_acrossJumps :
    ∃ pair, run clockStep modeReadAcrossJumps (sampleStart, sampleStart) = some pair ∧
      DecisionsAgree pair.1 pair.2 ∧ pair.1.levelWriteFallback = none ∧
      pair.1.openReads .airflowLevels = some true := by
  obtain ⟨pair, hrun, hreach, hpair⟩ := (Reach.start sampleStart_clockStart :
      Reach clockStep ClockTold ClockStart _).exists_of_run modeReadAcrossJumps
    (fun pair => pair.1.levelWriteFallback = none ∧
      pair.1.openReads .airflowLevels = some true) (by decide +kernel) (by decide +kernel)
  obtain ⟨hfallback, hread⟩ := of_decide_eq_true hpair
  exact ⟨pair, hrun, decisionsAgree_of_reach hreach, hfallback, hread⟩

end MeltemVentilation
