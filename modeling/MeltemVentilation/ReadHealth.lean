import MeltemVentilation.Models

/-!
# How fresh the values of a read group are

The predicates of `read_health.py`. Two questions are asked of a group's `ReadHealth`:
whether its values are recent (`groupFresh`, by the monotonic clock), and whether they were
read after some baseline (`readSince`, `modeReadSince`). The second is answered without any
clock, by comparing the health with the one recorded as the baseline.
-/

namespace MeltemVentilation

variable {clock : Clock} {state : RoomState} {group : ReadGroup} {health : ReadHealth}

/-- The age limit of a group: 30 s for the measured airflow, three intervals otherwise. -/
def staleAfterSeconds : ReadGroup → ℕ
  | .flow => airflowStaleAfterSeconds
  | group => readGroupIntervalSeconds group * 3

/-- Whether the last successful read of a group is past its age limit. A health without a
monotonic stamp falls back to the wall clock. -/
def readTooOld (clock : Clock) (group : ReadGroup) (health : ReadHealth) : Bool :=
  match health.lastSuccessMonotonic, health.lastSuccessfulRead with
  | some stamp, _ => decide (seconds (staleAfterSeconds group) < clock.monotonic - stamp)
  | none, none => true
  | none, some stamp => decide (wallSeconds (staleAfterSeconds group) < clock.wall - stamp)

/-- Whether the most recent attempt to read a group succeeded recently. -/
def groupFresh (clock : Clock) (state : RoomState) (group : ReadGroup) : Bool :=
  let health := state.groupReadHealth group
  if health.lastSuccessfulRead = none ∨ health.lastSuccessfulRead ≠ health.lastAttempt ∨
      health.consecutiveFailures ≠ 0 ∨ health.lastError ≠ none then
    false
  else
    !readTooOld clock group health

/-- Whether a group's values are recent and have recovered. -/
def groupAvailable (clock : Clock) (state : RoomState) (group : ReadGroup) : Bool :=
  let health := state.groupReadHealth group
  if health.lastSuccessfulRead = none ∨ readFailureThreshold ≤ health.consecutiveFailures then
    false
  else
    !readTooOld clock group health

/-- Whether a group has a fresh successful read made after `baseline`. -/
def readSince (clock : Clock) (state : RoomState) (group : ReadGroup)
    (baseline : ReadHealth) : Bool :=
  groupFresh clock state group && decide (state.groupReadHealth group ≠ baseline)

/-- Whether the mode registers were read successfully after `baseline`. -/
def modeReadSince (state : RoomState) (baseline : ReadHealth) : Bool :=
  let health := state.groupReadHealth .flowControl
  decide (health.lastError = none ∧ health.lastSuccessfulRead ≠ none ∧
    health.lastSuccessfulRead ≠ baseline.lastSuccessfulRead)

/-- `record_read_failures` over the groups of a plan that the room has. -/
def recordReadFailures (wall : WallTime) (room : RoomConfig) (error : String)
    (groups : List ReadGroup) (state : RoomState) : RoomState :=
  { state with
    groupReadHealth := fun group =>
      if group ∈ groups ∧ room.supportsGroup group = true then
        (state.groupReadHealth group).failed wall error false
      else state.groupReadHealth group }

/-! ### What the predicates say -/

/-- A fresh group has no error recorded. -/
theorem lastError_of_groupFresh (h : groupFresh clock state group = true) :
    (state.groupReadHealth group).lastError = none := by
  by_contra hne
  simp [groupFresh, hne] at h

theorem groupFresh_of_readSince {baseline : ReadHealth}
    (h : readSince clock state group baseline = true) : groupFresh clock state group = true :=
  (Bool.and_eq_true_iff.mp h).1

theorem ne_of_readSince {baseline : ReadHealth}
    (h : readSince clock state group baseline = true) :
    state.groupReadHealth group ≠ baseline := by
  simpa using (Bool.and_eq_true_iff.mp h).2

/-- **A successful read stays fresh for the age limit of its group.** -/
theorem groupFresh_of_succeeded {read : Clock}
    (h : state.groupReadHealth group = .succeeded read)
    (hage : clock.monotonic - read.monotonic ≤ seconds (staleAfterSeconds group)) :
    groupFresh clock state group = true := by
  simp only [groupFresh, h, ReadHealth.succeeded, readTooOld, reduceCtorEq, ne_eq,
    not_true_eq_false, or_self, if_false]
  simpa using hage

/-! ### Freshness as time passes -/

/-- A health that can be fresh carries a monotonic stamp, so that the monotonic clock alone
decides how long it stays fresh. -/
def ReadHealth.Stamped (health : ReadHealth) : Prop :=
  health.lastSuccessfulRead = none ∨ health.lastError ≠ none ∨ health.lastSuccessMonotonic ≠ none

theorem groupFresh_iff : groupFresh clock state group = true ↔
    ((state.groupReadHealth group).lastSuccessfulRead ≠ none ∧
      (state.groupReadHealth group).lastSuccessfulRead =
        (state.groupReadHealth group).lastAttempt ∧
      (state.groupReadHealth group).consecutiveFailures = 0 ∧
      (state.groupReadHealth group).lastError = none) ∧
    readTooOld clock group (state.groupReadHealth group) = false := by
  unfold groupFresh
  dsimp only
  split
  · rename_i hbad
    refine ⟨fun h => Bool.noConfusion h, fun ⟨hgood, _⟩ => ?_⟩
    tauto
  · rename_i hgood
    push Not at hgood
    rw [Bool.not_eq_true']
    exact ⟨fun hyoung => ⟨hgood, hyoung⟩, fun h => h.2⟩

/-- **Values only lose freshness as time passes.** -/
theorem groupFresh_earlier {later : Clock} (hstamped : (state.groupReadHealth group).Stamped)
    (hle : clock.monotonic ≤ later.monotonic) (h : groupFresh later state group = true) :
    groupFresh clock state group = true := by
  obtain ⟨hrecorded, hyoung⟩ := groupFresh_iff.mp h
  refine groupFresh_iff.mpr ⟨hrecorded, ?_⟩
  rcases hstamped with hnone | herror | hstamp
  · exact absurd hnone hrecorded.1
  · exact absurd hrecorded.2.2.2 herror
  · obtain ⟨stamp, hstamp⟩ := Option.ne_none_iff_exists'.mp hstamp
    simp only [readTooOld, hstamp, decide_eq_false_iff_not, not_lt] at hyoung ⊢
    exact (Nat.sub_le_sub_right hle stamp).trans hyoung

theorem readSince_earlier {later : Clock} {baseline : ReadHealth}
    (hstamped : (state.groupReadHealth group).Stamped)
    (hle : clock.monotonic ≤ later.monotonic) (h : readSince later state group baseline = true) :
    readSince clock state group baseline = true := by
  obtain ⟨hfresh, hne⟩ := Bool.and_eq_true_iff.mp h
  exact Bool.and_eq_true_iff.mpr ⟨groupFresh_earlier hstamped hle hfresh, hne⟩

end MeltemVentilation
