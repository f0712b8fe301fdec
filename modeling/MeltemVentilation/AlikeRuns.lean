import MeltemVentilation.CoordinatorSteps

/-!
# Two runs at different wall-clock readings

Two coordinators get the same commands and the same replies at the same monotonic times; only
the readings of the wall clock differ. This file says what the two have in common
(`RoomCoordinator.Alike`) and that every operation keeps it; the steps and the runs are those
of the next file.

The polled values are equal. Two healths of a group are alike when the same reads made them,
at whatever wall times (`ReadHealth.Alike`): all that is decided by one health alone comes out
the same, since a health that can be fresh carries a monotonic stamp. What is decided by two
healths, a current one and a baseline, needs more. A read that succeeds always gives a health
that is not the baseline, by its stamp; a read that fails gives one that differs in a wall
time at most, and a comparison of the wall times alone may not even see a success. So the
coordinators are alike relative to the current healths of the groups, and each stored baseline
carries the comparison it is made for (`ReadHealth.Compared`).
-/

namespace MeltemVentilation

open RoomCoordinator

variable {now later : Monotonic} {clock clock' : Clock} {group : ReadGroup}

/-- Two options that are related are both there or both not. -/
theorem rel_cases {α β : Type} {r : α → β → Prop} {o : Option α} {o' : Option β}
    (h : Option.Rel r o o') :
    (o = none ∧ o' = none) ∨ ∃ a b, o = some a ∧ o' = some b ∧ r a b := by
  cases h with
  | some hrel => exact .inr ⟨_, _, rfl, rfl, hrel⟩
  | none => exact .inl ⟨rfl, rfl⟩

theorem rel_mono {α β : Type} {r r' : α → β → Prop} (hr : ∀ a b, r a b → r' a b)
    {o : Option α} {o' : Option β} (h : Option.Rel r o o') : Option.Rel r' o o' := by
  cases h with
  | some hrel => exact .some (hr _ _ hrel)
  | none => exact .none

theorem rel_map {α β γ δ : Type} {r : α → β → Prop} {r' : γ → δ → Prop} {f : α → γ} {g : β → δ}
    (hr : ∀ a b, r a b → r' (f a) (g b)) {o : Option α} {o' : Option β}
    (h : Option.Rel r o o') : Option.Rel r' (o.map f) (o'.map g) := by
  cases h with
  | some hrel => exact .some (hr _ _ hrel)
  | none => exact .none

theorem rel_any {α β : Type} {r : α → β → Prop} {p : α → Bool} {q : β → Bool}
    (hr : ∀ a b, r a b → q b = p a) {o : Option α} {o' : Option β} (h : Option.Rel r o o') :
    o'.any q = o.any p := by
  cases h with
  | some hrel => exact hr _ _ hrel
  | none => rfl

/-! ### Healths -/

namespace ReadHealth

/-- **Two healths that the same reads made**, at other wall times; the successful ones were
made by `now`. -/
inductive Alike (now : Monotonic) : ReadHealth → ReadHealth → Prop
  | empty : Alike now emptyReadHealth emptyReadHealth
  | succeeded (read read' : Clock) : read'.monotonic = read.monotonic → read.monotonic ≤ now →
    Alike now (.succeeded read) (.succeeded read')
  | failed {health health' : ReadHealth} (wall wall' : WallTime) (error : String)
    (timedOut : Bool) : Alike now health health' →
    Alike now (health.failed wall error timedOut) (health'.failed wall' error timedOut)

variable {health health' baseline baseline' : ReadHealth}

theorem Alike.mono (h : Alike now health health') (hle : now ≤ later) :
    Alike later health health' := by
  induction h with
  | empty => exact .empty
  | succeeded read read' hsame hread => exact .succeeded read read' hsame (hread.trans hle)
  | failed wall wall' error timedOut _ ih => exact .failed wall wall' error timedOut ih

theorem Alike.lastError (h : Alike now health health') : health'.lastError = health.lastError := by
  cases h <;> rfl

theorem Alike.consecutiveFailures (h : Alike now health health') :
    health'.consecutiveFailures = health.consecutiveFailures := by
  induction h with
  | empty | succeeded => rfl
  | failed wall wall' error timedOut _ ih => simp only [ReadHealth.failed, ih]

theorem Alike.lastSuccessMonotonic (h : Alike now health health') :
    health'.lastSuccessMonotonic = health.lastSuccessMonotonic := by
  induction h with
  | empty => rfl
  | succeeded read read' hmonotonic => simp only [ReadHealth.succeeded, hmonotonic]
  | failed wall wall' error timedOut _ ih => exact ih

theorem Alike.lastAttempt_eq_none (h : Alike now health health') :
    health'.lastAttempt = none ↔ health.lastAttempt = none := by
  cases h <;> simp [emptyReadHealth, ReadHealth.succeeded, ReadHealth.failed]

theorem Alike.lastSuccessfulRead_eq_none (h : Alike now health health') :
    health'.lastSuccessfulRead = none ↔ health.lastSuccessfulRead = none := by
  induction h with
  | empty => rfl
  | succeeded => simp [ReadHealth.succeeded]
  | failed wall wall' error timedOut _ ih => exact ih

/-- A health with a successful read is stamped. -/
theorem Alike.stamped (h : Alike now health health') :
    health.lastSuccessfulRead = none ∨ health.lastSuccessMonotonic ≠ none := by
  induction h with
  | empty => exact .inl rfl
  | succeeded => exact .inr (Option.some_ne_none _)
  | failed wall wall' error timedOut _ ih => exact ih

/-- The stamp is not later than `now`. -/
theorem Alike.stamp_le (h : Alike now health health') {stamp : Monotonic}
    (hstamp : health.lastSuccessMonotonic = some stamp) : stamp ≤ now := by
  induction h with
  | empty => cases hstamp
  | succeeded read read' _ hle =>
    cases hstamp
    exact hle
  | failed wall wall' error timedOut _ ih => exact ih hstamp

theorem Alike.eq_empty_iff (h : Alike now health health') :
    health = emptyReadHealth ↔ health' = emptyReadHealth := by
  cases h <;> simp [emptyReadHealth, ReadHealth.succeeded, ReadHealth.failed]

/-- **A later successful read is not the health of an earlier one.** -/
theorem Alike.ne_succeeded (h : Alike now health health') {read : Clock}
    (hlt : now < read.monotonic) : ReadHealth.succeeded read ≠ health := by
  rintro rfl
  exact absurd (h.stamp_le rfl) (Nat.not_le.mpr hlt)

theorem Alike.ne_succeeded' (h : Alike now health health') {read : Clock}
    (hlt : now < read.monotonic) : ReadHealth.succeeded read ≠ health' := by
  intro heq
  have hstamp : health.lastSuccessMonotonic = some read.monotonic := by
    rw [← h.lastSuccessMonotonic, ← heq]
    rfl
  exact absurd (h.stamp_le hstamp) (Nat.not_le.mpr hlt)

theorem Alike.readTooOld (h : Alike now health health') (group : ReadGroup)
    (hclock : clock'.monotonic = clock.monotonic) :
    readTooOld clock' group health' = readTooOld clock group health := by
  unfold MeltemVentilation.readTooOld
  rw [h.lastSuccessMonotonic, hclock]
  rcases h.stamped with hnone | hstamp
  · have hnone' := h.lastSuccessfulRead_eq_none.mpr hnone
    rw [hnone, hnone']
    rcases health.lastSuccessMonotonic with _ | stamp <;> rfl
  · obtain ⟨stamp, hstamp⟩ := Option.ne_none_iff_exists'.mp hstamp
    rw [hstamp]

/-- The same read makes alike healths of alike ones. -/
theorem Alike.read (h : Alike now health health') (read : BlockRead Unit)
    (hclock : clock'.monotonic = clock.monotonic) (hle : now ≤ clock.monotonic) :
    Alike clock.monotonic (read.health clock health) (read.health clock' health') := by
  cases read with
  | values _ => exact .succeeded _ _ hclock le_rfl
  | failed error timedOut => exact (h.mono hle).failed _ _ _ _
  | skipped => exact h.mono hle

end ReadHealth

/-! ### Comparisons with a baseline -/

/-- A comparison of one part of a group's health with that of a baseline comes out the same in
both runs, where the current health is `relevant`. -/
structure ReadHealth.Compared {α : Type} (relevant : ReadHealth → Prop) (part : ReadHealth → α)
    (now : Monotonic) (health health' baseline baseline' : ReadHealth) : Prop where
  alike : baseline.Alike now baseline'
  same : relevant health → (part health = part baseline ↔ part health' = part baseline')

/-- What `_checked_confirmation` compares: the whole health, whatever it is. -/
abbrev ReadHealth.Attempted := Compared (fun _ => True) id

/-- What `read_since` compares: the whole health, of a group that is fresh. -/
abbrev ReadHealth.Since := Compared (fun health => health.lastError = none) id

/-- What `mode_read_since` compares: the wall time of the last successful read. -/
abbrev ReadHealth.ModeSince := Compared
  (fun health => health.lastError = none ∧ health.lastSuccessfulRead ≠ none)
  ReadHealth.lastSuccessfulRead

namespace ReadHealth

variable {health health' baseline baseline' : ReadHealth} {block : BlockRead Unit}

theorem Compared.mono {α : Type} {relevant : ReadHealth → Prop} {part : ReadHealth → α}
    (h : Compared relevant part now health health' baseline baseline') (hle : now ≤ later) :
    Compared relevant part later health health' baseline baseline' :=
  ⟨h.alike.mono hle, h.same⟩

/-- A health is compared with itself when a baseline is taken. -/
theorem Compared.refl {α : Type} {relevant : ReadHealth → Prop} {part : ReadHealth → α}
    (h : Alike now health health') : Compared relevant part now health health' health health' :=
  ⟨h, fun _ => iff_of_true rfl rfl⟩

/-- The health of a group that is forgotten is the empty one, in both runs or in neither. -/
theorem Alike.attempted (h : Alike now baseline baseline') :
    Attempted now emptyReadHealth emptyReadHealth baseline baseline' :=
  ⟨h, fun _ => by simpa only [id_eq, eq_comm] using h.eq_empty_iff⟩

theorem Attempted.since (h : Attempted now health health' baseline baseline') :
    Since now health health' baseline baseline' :=
  ⟨h.alike, fun _ => h.same trivial⟩

theorem Alike.modeSince (h : Alike now baseline baseline') :
    ModeSince now emptyReadHealth emptyReadHealth baseline baseline' :=
  ⟨h, fun hrelevant => absurd rfl hrelevant.2⟩

/-- After a read, the comparison is the same if a failure is told from the baseline. -/
theorem Attempted.read (h : Attempted now health health' baseline baseline')
    (hlt : now < clock.monotonic) (hclock : clock'.monotonic = clock.monotonic)
    (htold : ∀ error timedOut, block = .failed error timedOut →
      health.failed clock.wall error timedOut ≠ baseline ∧
        health'.failed clock'.wall error timedOut ≠ baseline') :
    Attempted clock.monotonic (block.health clock health) (block.health clock' health')
      baseline baseline' := by
  refine ⟨h.alike.mono hlt.le, fun _ => ?_⟩
  cases block with
  | values _ =>
    exact iff_of_false (h.alike.ne_succeeded hlt) (h.alike.ne_succeeded' (hclock ▸ hlt))
  | failed error timedOut =>
    obtain ⟨hne, hne'⟩ := htold error timedOut rfl
    exact iff_of_false hne hne'
  | skipped => exact h.same trivial

/-- A failed read makes no group fresh, so what `read_since` compares needs no condition. -/
theorem Since.read (h : Since now health health' baseline baseline')
    (hlt : now < clock.monotonic) (hclock : clock'.monotonic = clock.monotonic) :
    Since clock.monotonic (block.health clock health) (block.health clock' health')
      baseline baseline' := by
  refine ⟨h.alike.mono hlt.le, fun hnoError => ?_⟩
  cases block with
  | values _ =>
    exact iff_of_false (h.alike.ne_succeeded hlt) (h.alike.ne_succeeded' (hclock ▸ hlt))
  | failed error timedOut => cases hnoError
  | skipped => exact h.same hnoError

/-- A successful read must be told from the last one before the baseline by its wall time. -/
theorem ModeSince.read (h : ModeSince now health health' baseline baseline')
    (hle : now ≤ clock.monotonic)
    (htold : block = .values () → baseline.lastSuccessfulRead ≠ some clock.wall ∧
      baseline'.lastSuccessfulRead ≠ some clock'.wall) :
    ModeSince clock.monotonic (block.health clock health) (block.health clock' health')
      baseline baseline' := by
  refine ⟨h.alike.mono hle, fun hrelevant => ?_⟩
  cases block with
  | values _ =>
    obtain ⟨hne, hne'⟩ := htold rfl
    exact iff_of_false hne.symm hne'.symm
  | failed error timedOut => cases hrelevant.1
  | skipped => exact h.same hrelevant

end ReadHealth

/-! ### States -/

/-- Two polled states with the same values and alike healths. -/
inductive RoomState.Alike (now : Monotonic) (state : RoomState) : RoomState → Prop
  | mk (healths : ReadGroup → ReadHealth) :
    (∀ group, ReadHealth.Alike now (state.groupReadHealth group) (healths group)) →
    Alike now state { state with groupReadHealth := healths }

section States

variable {state state' : RoomState}

theorem RoomState.Alike.of
    (hvalues : state' = { state with groupReadHealth := state'.groupReadHealth })
    (hhealth : ∀ group, ReadHealth.Alike now (state.groupReadHealth group)
      (state'.groupReadHealth group)) : RoomState.Alike now state state' := by
  rw [hvalues]
  exact .mk _ hhealth

theorem RoomState.Alike.health (h : RoomState.Alike now state state') (group : ReadGroup) :
    ReadHealth.Alike now (state.groupReadHealth group) (state'.groupReadHealth group) := by
  cases h with
  | mk healths halike => exact halike group

theorem RoomState.Alike.mono (h : RoomState.Alike now state state') (hle : now ≤ later) :
    RoomState.Alike later state state' := by
  cases h with
  | mk healths halike => exact .mk healths fun group => (halike group).mono hle

theorem RoomState.Alike.withReadback (h : RoomState.Alike now state state') (readback : Option ℤ) :
    RoomState.Alike now { state with balancedTargetReadback := readback }
      { state' with balancedTargetReadback := readback } := by
  cases h with
  | mk healths halike => exact .mk healths halike

theorem emptyRoomState_alike : RoomState.Alike now emptyRoomState emptyRoomState :=
  .mk _ fun _ => .empty

theorem RoomState.Alike.getD {o o' : Option RoomState}
    (h : Option.Rel (RoomState.Alike now) o o') :
    RoomState.Alike now (o.getD emptyRoomState) (o'.getD emptyRoomState) := by
  cases h with
  | some h => exact h
  | none => exact emptyRoomState_alike

/-- A state without anything in it is one in both runs. -/
theorem RoomState.Alike.eq_empty_iff (h : RoomState.Alike now state state') :
    state = emptyRoomState ↔ state' = emptyRoomState := by
  have hhealth := h.health
  cases h with
  | mk healths halike =>
    constructor
    · rintro rfl
      have hempty : healths = fun _ => emptyReadHealth := by
        funext group
        exact (halike group).eq_empty_iff.mp rfl
      rw [hempty]
      rfl
    · intro hempty
      have hnone : state.groupReadHealth = fun _ => emptyReadHealth := by
        funext group
        exact (halike group).eq_empty_iff.mpr (congrFun (congrArg groupReadHealth hempty) group)
      have hstate : state = { state with groupReadHealth := fun _ => emptyReadHealth } := by
        rw [← hnone]
      rw [hstate]
      exact congrArg (fun s => { s with groupReadHealth := fun _ => emptyReadHealth }) hempty

/-! ### What is decided by the values -/

theorem RoomState.Alike.balancedTargetReadback (h : RoomState.Alike now state state') :
    state'.balancedTargetReadback = state.balancedTargetReadback := by
  cases h
  rfl

theorem RoomState.Alike.operationMode (h : RoomState.Alike now state state') :
    state'.operationMode = state.operationMode := by
  cases h
  rfl

theorem RoomState.Alike.presetMode (h : RoomState.Alike now state state') :
    state'.presetMode = state.presetMode := by
  cases h
  rfl

theorem RoomState.Alike.intensiveActive (h : RoomState.Alike now state state') :
    state'.intensiveActive = state.intensiveActive := by
  cases h
  rfl

theorem RoomState.Alike.hasData (h : RoomState.Alike now state state') :
    state'.hasData = state.hasData := by
  cases h
  rfl

theorem planDirectionWrite_alike {room : RoomConfig} {levels : LevelPair}
    {source : Option LevelSource} {direction : Direction} {level : ℤ}
    (h : RoomState.Alike now state state') :
    planDirectionWrite room state' levels source direction level =
      planDirectionWrite room state levels source direction level := by
  cases h
  rfl

theorem modeWriteLevels_alike {levels : LevelPair} (h : RoomState.Alike now state state') :
    modeWriteLevels state' levels = modeWriteLevels state levels := by
  cases h
  rfl

/-! ### What is decided by one health -/

/-- **Whether a group is fresh does not depend on the wall clock.** -/
theorem groupFresh_alike
    (h : ReadHealth.Alike now (state.groupReadHealth group) (state'.groupReadHealth group))
    (hclock : clock'.monotonic = clock.monotonic) :
    groupFresh clock' state' group = groupFresh clock state group := by
  have hold := h.readTooOld group hclock
  unfold groupFresh
  dsimp only
  rw [hold]
  generalize state.groupReadHealth group = health at h
  generalize state'.groupReadHealth group = health' at h
  cases h with
  | empty => rfl
  | succeeded read read' => simp [ReadHealth.succeeded]
  | failed wall wall' error timedOut h => simp [ReadHealth.failed]

/-- **Whether a group is available does not depend on the wall clock.** -/
theorem groupAvailable_alike
    (h : ReadHealth.Alike now (state.groupReadHealth group) (state'.groupReadHealth group))
    (hclock : clock'.monotonic = clock.monotonic) :
    groupAvailable clock' state' group = groupAvailable clock state group := by
  have hold := h.readTooOld group hclock
  unfold groupAvailable
  dsimp only
  rw [hold, h.consecutiveFailures]
  simp only [h.lastSuccessfulRead_eq_none]

theorem reportedLevels_alike (h : RoomState.Alike now state state')
    (hclock : clock'.monotonic = clock.monotonic) :
    reportedLevels clock' state' = reportedLevels clock state := by
  have hflow := groupFresh_alike (h.health .flow) hclock
  have hcontrol := groupFresh_alike (h.health .flowControl) hclock
  unfold reportedLevels
  rw [hflow, hcontrol]
  cases h with
  | mk healths halike => rfl

/-! ### What is decided by a comparison -/

theorem readSince_alike {baseline baseline' : ReadHealth}
    (h : ReadHealth.Alike now (state.groupReadHealth group) (state'.groupReadHealth group))
    (hsince : ReadHealth.Since now (state.groupReadHealth group) (state'.groupReadHealth group)
      baseline baseline')
    (hclock : clock'.monotonic = clock.monotonic) :
    readSince clock' state' group baseline' = readSince clock state group baseline := by
  unfold readSince
  rw [groupFresh_alike h hclock]
  rcases hfresh : groupFresh clock state group with _ | _
  · rfl
  · rw [Bool.true_and, Bool.true_and, decide_eq_decide]
    exact (hsince.same (lastError_of_groupFresh hfresh)).not.symm

theorem modeReadSince_alike {baseline baseline' : ReadHealth}
    (h : RoomState.Alike now state state')
    (hsince : ReadHealth.ModeSince now (state.groupReadHealth .flowControl)
      (state'.groupReadHealth .flowControl) baseline baseline') :
    modeReadSince state' baseline' = modeReadSince state baseline := by
  have hhealth := h.health .flowControl
  unfold modeReadSince
  dsimp only
  rw [decide_eq_decide, hhealth.lastError]
  constructor
  · rintro ⟨herror, hsuccess, hne⟩
    have hsome := mt hhealth.lastSuccessfulRead_eq_none.mpr hsuccess
    exact ⟨herror, hsome, mt (hsince.same ⟨herror, hsome⟩).mp hne⟩
  · rintro ⟨herror, hsuccess, hne⟩
    have hsome := mt hhealth.lastSuccessfulRead_eq_none.mp hsuccess
    exact ⟨herror, hsome, mt (hsince.same ⟨herror, hsuccess⟩).mpr hne⟩

end States

/-! ### Pending values -/

/-- One pending value in two runs whose groups have the healths `health` and `health'`. -/
structure PendingValue.Alike {T : Type} (now : Monotonic) (health health' : ReadGroup → ReadHealth)
    (pending pending' : PendingValue T) : Prop where
  value : pending'.value = pending.value
  expiresAt : pending'.expiresAt = pending.expiresAt
  baseline : List.Forall₂ (fun baseline baseline' => baseline'.1 = baseline.1 ∧
    ReadHealth.Since now (health baseline.1) (health' baseline.1) baseline.2 baseline'.2)
    pending.baseline pending'.baseline

section Pending

variable {T C : Type} {overlay : OverlayKind T C} {health health' : ReadGroup → ReadHealth}
  {state state' : RoomState} {o o' : Option RoomState} {pending pending' : PendingValue T}
  {p p' : Option (PendingValue T)} {confirmed : Option C}

/-- The baselines stay compared as the healths of the groups change. -/
theorem PendingValue.Alike.rebase {k k' : ReadGroup → ReadHealth}
    (h : PendingValue.Alike now health health' pending pending')
    (hrebase : ∀ group baseline baseline', ReadHealth.Since now (health group) (health' group)
      baseline baseline' → ReadHealth.Since later (k group) (k' group) baseline baseline') :
    PendingValue.Alike later k k' pending pending' :=
  ⟨h.value, h.expiresAt, h.baseline.imp fun _ _ hb => ⟨hb.1, hrebase _ _ _ hb.2⟩⟩

/-- The answers of `read_since` to the baselines of a pending value. -/
def PendingValue.readSince (clock : Clock) (state : RoomState) (pending : PendingValue T) :
    List Bool :=
  pending.baseline.map fun baseline => MeltemVentilation.readSince clock state baseline.1 baseline.2

theorem PendingValue.Alike.readSince (hstate : RoomState.Alike now state state')
    (h : PendingValue.Alike now state.groupReadHealth state'.groupReadHealth pending pending')
    (hclock : clock'.monotonic = clock.monotonic) :
    pending'.readSince clock' state' = pending.readSince clock state := by
  have hbaseline := h.baseline
  unfold PendingValue.readSince
  generalize pending.baseline = baselines at hbaseline
  generalize pending'.baseline = baselines' at hbaseline
  induction hbaseline with
  | nil => rfl
  | @cons baseline baseline' rest rest' hhead _ ih =>
    rw [List.map_cons, List.map_cons, ih, hhead.1]
    exact congrArg (· :: _) (readSince_alike (hstate.health _) hhead.2 hclock)

/-- The healths are those of the polled state, once there is one. -/
theorem readSinceSet_alike (ho : Option.Rel (RoomState.Alike now) o o')
    (hhealth : ∀ state ∈ o, health = state.groupReadHealth)
    (hhealth' : ∀ state ∈ o', health' = state.groupReadHealth)
    (h : Option.Rel (PendingValue.Alike now health health') p p')
    (hclock : clock'.monotonic = clock.monotonic) :
    OverlayKind.readSinceSet clock' o' p' = OverlayKind.readSinceSet clock o p := by
  cases ho with
  | none => cases h <;> rfl
  | some hstate =>
    cases h with
    | none => rfl
    | some h =>
      rw [hhealth _ rfl, hhealth' _ rfl] at h
      have hsame := congrArg (List.any · id) (h.readSince hstate hclock)
      simpa only [OverlayKind.readSinceSet, PendingValue.readSince, List.any_map,
        Function.id_comp] using hsame

theorem get_alike (h : Option.Rel (PendingValue.Alike now health health') p p')
    (hclock : clock'.monotonic = clock.monotonic) :
    overlay.get clock' p' confirmed = overlay.get clock p confirmed := by
  cases h with
  | none => rfl
  | some h => simp only [OverlayKind.get, h.value, h.expiresAt, hclock]

/-- **Which pending value is shown does not depend on the wall clock.** -/
theorem active_alike (ho : Option.Rel (RoomState.Alike now) o o')
    (hhealth : ∀ state ∈ o, health = state.groupReadHealth)
    (hhealth' : ∀ state ∈ o', health' = state.groupReadHealth)
    (h : Option.Rel (PendingValue.Alike now health health') p p')
    (hclock : clock'.monotonic = clock.monotonic) :
    overlay.active clock' p' o' confirmed = overlay.active clock p o confirmed := by
  unfold OverlayKind.active
  rw [readSinceSet_alike ho hhealth hhealth' h hclock]
  exact get_alike h hclock

/-- **Whether a pending value is settled does not depend on the wall clock.** -/
theorem settleIfRead_alike (hstate : RoomState.Alike now state state')
    (hread : Option.Rel (PendingValue.Alike now state.groupReadHealth state'.groupReadHealth) p p')
    (h : Option.Rel (PendingValue.Alike now health health') p p')
    (hclock : clock'.monotonic = clock.monotonic) :
    Option.Rel (PendingValue.Alike now health health')
      (overlay.settleIfRead clock p state confirmed)
      (overlay.settleIfRead clock' p' state' confirmed) := by
  unfold OverlayKind.settleIfRead
  rw [readSinceSet_alike (.some hstate) (fun _ hmem => by cases hmem; rfl)
    (fun _ hmem => by cases hmem; rfl) hread hclock]
  split
  · cases h with
    | none => exact .none
    | some h =>
      cases confirmed with
      | none => exact .some h
      | some reported =>
        simp only [OverlayKind.settle, h.value]
        split
        · exact .none
        · exact .some h
  · exact h

/-- A value that is set has its baselines taken from the groups as they are, or as they were
before the first poll. -/
theorem set_alike {t : T} (ho : Option.Rel (RoomState.Alike now) o o')
    (hhealth : ∀ state ∈ o, health = state.groupReadHealth)
    (hhealth' : ∀ state ∈ o', health' = state.groupReadHealth)
    (halike : ∀ group, ReadHealth.Alike now (health group) (health' group))
    (hclock : clock'.monotonic = clock.monotonic) :
    Option.Rel (PendingValue.Alike now health health') (overlay.set clock o t)
      (overlay.set clock' o' t) := by
  refine .some ⟨rfl, by simp only [hclock], ?_⟩
  simp only [List.forall₂_map_left_iff, List.forall₂_map_right_iff, List.forall₂_same, true_and]
  intro group _
  cases ho with
  | none => exact ⟨.empty, fun _ => (halike group).eq_empty_iff⟩
  | some hstate =>
    rw [hhealth _ rfl, hhealth' _ rfl]
    exact .refl (hstate.health group)

end Pending

/-! ### Writes -/

/-- The test of `_checked_confirmation` whether a read happened after the write. -/
def readAfterWrite (state : RoomState) (writeKey : WriteKey) (confirmation : WriteConfirmation) :
    Bool :=
  let health := state.groupReadHealth (writeGroup writeKey)
  !decide (health.lastAttempt = none ∨ health = confirmation.baseline)

/-- The outcome of one write in two runs whose confirming group has the healths `health` and
`health'`. When it was sent and whether its issue was counted is a matter of the wall clock;
the baselines are compared while the outcome is open. -/
inductive WriteConfirmation.Alike (now : Monotonic) (health health' : ReadHealth)
    (confirmation : WriteConfirmation) : WriteConfirmation → Prop
  | mk (startedAt : WallTime) (issueCounted : Bool) (baseline : ReadHealth) :
    (confirmation.status.isFinal = false →
      ReadHealth.Attempted now health health' confirmation.baseline baseline) →
    Alike now health health' confirmation { confirmation with
      startedAt := startedAt
      issueCounted := issueCounted
      baseline := baseline }

/-- The tables of writes in two runs. -/
structure WriteConfirmations.Alike (now : Monotonic) (health health' : ReadGroup → ReadHealth)
    (confirmations confirmations' : WriteConfirmations) : Prop where
  writes : ∀ key, Option.Rel (WriteConfirmation.Alike now (health (writeGroup key))
    (health' (writeGroup key))) (confirmations.byKey key) (confirmations'.byKey key)
  converged : confirmations'.balancedFlowConverged = confirmations.balancedFlowConverged

section Writes

variable {state state' : RoomState} {writeKey key : WriteKey} {wall wall' : WallTime}
  {confirmation confirmation' : WriteConfirmation} {health health' : ReadGroup → ReadHealth}
  {confirmations confirmations' : WriteConfirmations}

theorem WriteConfirmation.Alike.rebase {x x' y y' : ReadHealth}
    (h : WriteConfirmation.Alike now x x' confirmation confirmation')
    (hrebase : confirmation.status.isFinal = false →
      ReadHealth.Attempted now x x' confirmation.baseline confirmation'.baseline →
      ReadHealth.Attempted later y y' confirmation.baseline confirmation'.baseline) :
    WriteConfirmation.Alike later y y' confirmation confirmation' := by
  cases h with
  | mk startedAt issueCounted baseline htold =>
    exact .mk _ _ _ fun hopen => hrebase hopen (htold hopen)

theorem WriteConfirmation.Alike.told {x x' : ReadHealth}
    (h : WriteConfirmation.Alike now x x' confirmation confirmation')
    (hopen : confirmation.status.isFinal = false) :
    ReadHealth.Attempted now x x' confirmation.baseline confirmation'.baseline := by
  cases h with
  | mk startedAt issueCounted baseline htold => exact htold hopen

theorem WriteConfirmation.Alike.status {x x' : ReadHealth}
    (h : WriteConfirmation.Alike now x x' confirmation confirmation') :
    confirmation'.status = confirmation.status := by
  cases h
  rfl

/-- **Whether an open write is told to have been read since does not depend on the wall
clock.** -/
theorem readAfterWrite_alike (hstate : RoomState.Alike now state state')
    (h : WriteConfirmation.Alike now (state.groupReadHealth (writeGroup writeKey))
      (state'.groupReadHealth (writeGroup writeKey)) confirmation confirmation')
    (hopen : confirmation.status.isFinal = false) :
    readAfterWrite state' writeKey confirmation' =
      readAfterWrite state writeKey confirmation := by
  have hattempt := (hstate.health (writeGroup writeKey)).lastAttempt_eq_none
  cases h with
  | mk startedAt issueCounted baseline htold =>
    have hsame := (htold hopen).same trivial
    simp only [id_eq] at hsame
    simp only [readAfterWrite, hattempt, hsame]

/-- **A readback judges a write alike in both runs.** -/
theorem checkedConfirmation_alike (hstate : RoomState.Alike now state state')
    (h : WriteConfirmation.Alike now (state.groupReadHealth (writeGroup writeKey))
      (state'.groupReadHealth (writeGroup writeKey)) confirmation confirmation') :
    Option.Rel (WriteConfirmation.Alike now (state.groupReadHealth (writeGroup writeKey))
        (state'.groupReadHealth (writeGroup writeKey)))
      (checkedConfirmation state writeKey confirmation)
      (checkedConfirmation state' writeKey confirmation') := by
  have hattempt := (hstate.health (writeGroup writeKey)).lastAttempt_eq_none
  have herror := (hstate.health (writeGroup writeKey)).lastError
  obtain ⟨startedAt, issueCounted, baseline, htold⟩ := h
  obtain ⟨healths, halike⟩ := hstate
  dsimp only at hattempt herror
  have hvalue : readbackValue { state with groupReadHealth := healths } writeKey =
      readbackValue state writeKey := by cases writeKey <;> rfl
  unfold checkedConfirmation
  dsimp only
  rw [herror, hvalue]
  by_cases hopen : confirmation.status.isFinal = true
  · rw [if_pos hopen, if_pos hopen]
    exact .none
  rw [if_neg hopen, if_neg hopen]
  have htold := htold (Bool.eq_false_of_not_eq_true hopen)
  -- A baseline is compared only while open, and then is the health on both sides or on none.
  have hsame : state.groupReadHealth (writeGroup writeKey) = confirmation.baseline ↔
      healths (writeGroup writeKey) = baseline := htold.same trivial
  rw [if_congr (or_congr hattempt hsame.symm) rfl rfl]
  split
  · exact .none
  split
  · split
    · exact .none
    · exact .some (.mk _ _ _ fun _ => htold)
  · split
    · split
      · exact .none
      · exact .some (.mk _ _ _ fun _ => htold)
    · split
      · exact .none
      · rename_i actual _
        generalize (if valuesMatch writeKey confirmation.expectedValue actual = true then
          WriteStatus.confirmed else .mismatch) = status
        split
        · exact .none
        · exact .some (.mk _ _ _ fun _ => htold)

theorem confirmOne_alike {x x' : ReadHealth} (hstate : RoomState.Alike now state state')
    (hread : WriteConfirmation.Alike now (state.groupReadHealth (writeGroup writeKey))
      (state'.groupReadHealth (writeGroup writeKey)) confirmation confirmation')
    (h : WriteConfirmation.Alike now x x' confirmation confirmation') :
    WriteConfirmation.Alike now x x'
      (WriteConfirmations.confirmOne wall state writeKey confirmation).1
      (WriteConfirmations.confirmOne wall' state' writeKey confirmation').1 := by
  obtain ⟨counted, hcounted⟩ := confirmOne_fst wall state writeKey confirmation
  obtain ⟨counted', hcounted'⟩ := confirmOne_fst wall' state' writeKey confirmation'
  have hjudged : WriteConfirmation.Alike now (state.groupReadHealth (writeGroup writeKey))
      (state'.groupReadHealth (writeGroup writeKey))
      (WriteConfirmations.confirmOne wall state writeKey confirmation).1
      (WriteConfirmations.confirmOne wall' state' writeKey confirmation').1 := by
    rw [hcounted, hcounted']
    have hchecked := checkedConfirmation_alike hstate hread
    generalize checkedConfirmation state writeKey confirmation = checked at hchecked
    generalize checkedConfirmation state' writeKey confirmation' = checked' at hchecked
    cases hchecked with
    | none =>
      obtain ⟨startedAt, issueCounted, baseline, htold⟩ := hread
      exact .mk startedAt counted' baseline htold
    | some hchecked =>
      obtain ⟨startedAt, issueCounted, baseline, htold⟩ := hchecked
      exact .mk startedAt counted' baseline htold
  refine hjudged.rebase fun hopen _ => ?_
  rw [confirmOne_expectedValue.2, confirmOne_expectedValue.2]
  exact h.told (isFinal_of_confirmOne hopen)

namespace WriteConfirmations

theorem Alike.rebase {k k' : ReadGroup → ReadHealth}
    (h : Alike now health health' confirmations confirmations')
    (hrebase : ∀ key confirmation confirmation', confirmations.byKey key = some confirmation →
      confirmations'.byKey key = some confirmation' → confirmation.status.isFinal = false →
      confirmation'.status.isFinal = false →
      ReadHealth.Attempted now (health (writeGroup key)) (health' (writeGroup key))
        confirmation.baseline confirmation'.baseline →
      ReadHealth.Attempted later (k (writeGroup key)) (k' (writeGroup key))
        confirmation.baseline confirmation'.baseline) :
    Alike later k k' confirmations confirmations' := by
  refine ⟨fun key => ?_, h.converged⟩
  have hwrite := h.writes key
  obtain ⟨hnone, hnone'⟩ | ⟨confirmation, confirmation', hsome, hsome', halike⟩ :=
    rel_cases hwrite
  · rw [hnone, hnone']
    exact .none
  · rw [hsome, hsome']
    refine .some (halike.rebase fun hopen => hrebase key _ _ hsome hsome' hopen ?_)
    rw [halike.status, hopen]

theorem Alike.confirm (hstate : RoomState.Alike now state state')
    (hread : Alike now state.groupReadHealth state'.groupReadHealth confirmations confirmations')
    (h : Alike now health health' confirmations confirmations') (wall wall' : WallTime) :
    Alike now health health' (confirmations.confirm wall state)
      (confirmations'.confirm wall' state') := by
  refine ⟨fun key => ?_, h.converged⟩
  have hwrite := h.writes key
  have hreadWrite := hread.writes key
  simp only [WriteConfirmations.confirm]
  obtain ⟨hnone, hnone'⟩ | ⟨confirmation, confirmation', hsome, hsome', halike⟩ := rel_cases hwrite
  · rw [hnone, hnone']
    exact .none
  · rw [hsome, hsome'] at hreadWrite ⊢
    cases hreadWrite with
    | some hjudged => exact .some (confirmOne_alike hstate hjudged halike)

/-- The open writes are the same. -/
theorem Alike.superseded (h : Alike now health health' confirmations confirmations') :
    confirmations'.superseded writeKey = confirmations.superseded writeKey := by
  unfold WriteConfirmations.superseded
  split
  · refine List.filter_congr fun key _ => ?_
    rw [rel_any (fun _ _ halike => by rw [halike.status]) (h.writes key)]
  · rfl

theorem Alike.supersede (h : Alike now health health' confirmations confirmations')
    (writeKey : WriteKey) :
    Alike now health health' (confirmations.supersede writeKey)
      (confirmations'.supersede writeKey) := by
  refine ⟨fun key => ?_, h.converged⟩
  simp only [WriteConfirmations.supersede, h.superseded]
  split
  · refine rel_map (fun confirmation confirmation' halike => ?_) (h.writes key)
    obtain ⟨startedAt, issueCounted, baseline, -⟩ := halike
    exact .mk startedAt issueCounted baseline fun hopen => by cases hopen
  · exact h.writes key

theorem Alike.recordPending {baseline baseline' : ReadHealth}
    (h : Alike now health health' confirmations confirmations') (wall wall' : WallTime)
    (value : WriteValue) (hbaseline : ReadHealth.Attempted now (health (writeGroup writeKey))
      (health' (writeGroup writeKey)) baseline baseline') :
    Alike now health health' (confirmations.recordPending wall writeKey value baseline)
      (confirmations'.recordPending wall' writeKey value baseline') := by
  refine ⟨fun key => ?_, ?_⟩
  · by_cases hkey : key = writeKey
    · subst hkey
      rw [recordPending_self, recordPending_self]
      exact .some (.mk wall' false baseline' fun _ => hbaseline)
    · rw [recordPending_of_ne hkey, recordPending_of_ne hkey]
      exact h.writes key
  · simp only [WriteConfirmations.recordPending, h.converged]

theorem Alike.setStatus (h : Alike now health health' confirmations confirmations')
    (status : WriteStatus) (error : Option String) (actual : Option WriteValue)
    (hopen : ∀ confirmation, confirmations.byKey writeKey = some confirmation →
      confirmation.status.isFinal = false) :
    Alike now health health' (confirmations.setStatus writeKey status error actual)
      (confirmations'.setStatus writeKey status error actual) := by
  obtain ⟨hnone, hnone'⟩ | ⟨confirmation, confirmation', hsome, hsome', halike⟩ :=
    rel_cases (h.writes writeKey)
  · simpa only [WriteConfirmations.setStatus, hnone, hnone'] using h
  · refine ⟨fun key => ?_, by simpa only [WriteConfirmations.setStatus, hsome, hsome'] using
      h.converged⟩
    by_cases hkey : key = writeKey
    · subst hkey
      rw [setStatus_self hsome, setStatus_self hsome']
      obtain ⟨startedAt, issueCounted, baseline, htold⟩ := halike
      exact .some (.mk startedAt (issueCounted || status.unhealthy) baseline
        fun _ => htold (hopen _ hsome))
    · rw [setStatus_of_ne hkey, setStatus_of_ne hkey]
      exact h.writes key

theorem Alike.markUnconfirmed (h : Alike now health health' confirmations confirmations')
    (writeKey : WriteKey) (error : String) :
    Alike now health health' (confirmations.markUnconfirmed writeKey error)
      (confirmations'.markUnconfirmed writeKey error) := by
  have hpending : ((confirmations'.byKey writeKey).any fun confirmation =>
      confirmation.status = .pending) = (confirmations.byKey writeKey).any fun confirmation =>
        confirmation.status = .pending :=
    rel_any (fun _ _ halike => by rw [halike.status]) (h.writes writeKey)
  unfold WriteConfirmations.markUnconfirmed
  rw [hpending]
  split
  · rename_i hany
    refine h.setStatus _ _ _ fun confirmation hsome => ?_
    rw [hsome, Option.any_some, decide_eq_true_eq] at hany
    rw [hany]
    rfl
  · exact h

/-- The range of the sensor-control levels is checked against the same values. -/
theorem Alike.checkControlLevelRange {room : RoomConfig} {settingKey : ControlSetting} {value : ℤ}
    (hstate : RoomState.Alike now state state')
    (h : Alike now health health' confirmations confirmations') :
    confirmations'.checkControlLevelRange room state' settingKey value =
      confirmations.checkControlLevelRange room state settingKey value := by
  have hunconfirmed : ∀ key, confirmations'.unconfirmedControlSetting key =
      confirmations.unconfirmedControlSetting key := by
    intro key
    unfold WriteConfirmations.unconfirmedControlSetting
    obtain ⟨hnone, hnone'⟩ | ⟨confirmation, confirmation', hsome, hsome', halike⟩ :=
      rel_cases (h.writes (.controlSetting key))
    · rw [hnone, hnone']
    · rw [hsome, hsome']
      obtain ⟨startedAt, issueCounted, baseline, -⟩ := halike
      rfl
  have hbound : ∀ key, confirmations'.checkedBound state' key =
      confirmations.checkedBound state key := by
    intro key
    obtain ⟨healths, halike⟩ := hstate
    simp only [WriteConfirmations.checkedBound, hunconfirmed]
  simp only [WriteConfirmations.checkControlLevelRange]
  congr 1
  funext range
  simp only [WriteConfirmations.checkRange, hbound]

/-! ### The exact target of a balanced write -/

/-- Whether the last airflow write is recent is the one thing about the exact target that the
wall clock decides. -/
theorem Alike.needsConfirmation (h : Alike now health health' confirmations confirmations')
    (hrecent : confirmations'.hasRecentWrite wall' writeKey =
      confirmations.hasRecentWrite wall writeKey) :
    confirmations'.needsConfirmation wall' writeKey =
      confirmations.needsConfirmation wall writeKey := by
  unfold WriteConfirmations.needsConfirmation
  unfold WriteConfirmations.hasRecentWrite at hrecent
  obtain ⟨hnone, hnone'⟩ | ⟨confirmation, confirmation', hsome, hsome', halike⟩ :=
    rel_cases (h.writes writeKey)
  · rw [hnone, hnone']
    rfl
  · rw [hsome, hsome', Option.any_some, Option.any_some] at hrecent ⊢
    rw [halike.status, hrecent]

/-- A base mode has just been read, so that there may be an exact target. -/
def baseModeRead (clock : Clock) (state : RoomState) : Bool :=
  groupFresh clock state .flowControl && decide (state.intensiveActive ≠ some true) &&
    decide (state.operationMode = some .manual ∨ state.operationMode = some .off)

theorem baseModeRead_eq_false : baseModeRead clock state = false ↔
    groupFresh clock state .flowControl = false ∨ state.intensiveActive = some true ∨
      (state.operationMode ≠ some .manual ∧ state.operationMode ≠ some .off) := by
  cases hfresh : groupFresh clock state .flowControl <;>
    simp [baseModeRead, hfresh, or_iff_not_imp_left]

/-- **Whether preparing the read of the exact target asks how old the last airflow write is**:
there is a write that can be confirmed, or an exact target to carry. -/
def asksRetention (confirmations : WriteConfirmations) (clock : Clock)
    (state previous : RoomState) : Bool :=
  baseModeRead clock state &&
    ((confirmations.byKey .airflowLevels).any (·.status.confirmable) ||
      previous.balancedTargetReadback.isSome)

/-- Where it is not asked, register `41121` is not read and nothing is carried. -/
theorem prepareBalancedTargetReadback_of_not_asksRetention {previous : RoomState}
    (h : confirmations.asksRetention clock state previous = false) :
    confirmations.prepareBalancedTargetReadback clock state previous =
      ⟨{ confirmations with
          balancedFlowConverged :=
            !baseModeRead clock state && confirmations.balancedFlowConverged },
        state, false⟩ := by
  unfold WriteConfirmations.prepareBalancedTargetReadback
  rcases hread : baseModeRead clock state
  · rw [if_pos (baseModeRead_eq_false.mp hread)]
    rfl
  · rw [if_neg (baseModeRead_eq_false.not.mp (by simp [hread]))]
    rw [asksRetention, hread, Bool.true_and, Bool.or_eq_false_iff] at h
    obtain ⟨hconfirmable, hnothing⟩ := h
    have hneeds : confirmations.needsConfirmation clock.wall .airflowLevels = false := by
      unfold needsConfirmation
      cases hwrite : confirmations.byKey .airflowLevels with
      | none => rfl
      | some confirmation =>
        rw [hwrite, Option.any_some] at hconfirmable
        rw [Option.any_some, hconfirmable, Bool.false_and]
    rw [hneeds, Option.isNone_iff_eq_none.mp (Option.isSome_eq_false_iff.mp hnothing)]
    rfl

theorem Alike.asksRetention {previous previous' : RoomState}
    (hstate : RoomState.Alike now state state') (hprevious : RoomState.Alike now previous previous')
    (h : Alike later health health' confirmations confirmations')
    (hclock : clock'.monotonic = clock.monotonic) :
    baseModeRead clock' state' = baseModeRead clock state ∧
      confirmations'.asksRetention clock' state' previous' =
        confirmations.asksRetention clock state previous := by
  have hcontrol := groupFresh_alike (hstate.health .flowControl) hclock
  have hconfirmable : (confirmations'.byKey .airflowLevels).any (·.status.confirmable) =
      (confirmations.byKey .airflowLevels).any (·.status.confirmable) :=
    rel_any (fun _ _ halike => by rw [halike.status]) (h.writes .airflowLevels)
  obtain ⟨healths, -⟩ := hstate
  obtain ⟨healths', -⟩ := hprevious
  have hread : baseModeRead clock' { state with groupReadHealth := healths } =
      baseModeRead clock state := by
    simp only [baseModeRead, hcontrol]
  exact ⟨hread, by simp only [WriteConfirmations.asksRetention, hread, hconfirmable]⟩

/-- **Preparing the read of the exact target** comes to the same in both runs. -/
theorem Alike.prepareBalancedTargetReadback {previous previous' : RoomState}
    (hstate : RoomState.Alike now state state') (hprevious : RoomState.Alike now previous previous')
    (h : Alike later health health' confirmations confirmations')
    (hclock : clock'.monotonic = clock.monotonic)
    (hrecent : confirmations.asksRetention clock state previous = true →
      confirmations'.hasRecentWrite clock'.wall .airflowLevels =
        confirmations.hasRecentWrite clock.wall .airflowLevels) :
    ∃ converged readback mustRead,
      confirmations.prepareBalancedTargetReadback clock state previous =
        ⟨{ confirmations with balancedFlowConverged := converged },
          { state with balancedTargetReadback := readback }, mustRead⟩ ∧
      confirmations'.prepareBalancedTargetReadback clock' state' previous' =
        ⟨{ confirmations' with balancedFlowConverged := converged },
          { state' with balancedTargetReadback := readback }, mustRead⟩ := by
  obtain ⟨hread, hasks⟩ := h.asksRetention hstate hprevious hclock
  rcases Bool.eq_false_or_eq_true (confirmations.asksRetention clock state previous) with
    hask | hask
  swap
  · refine ⟨!baseModeRead clock state && confirmations.balancedFlowConverged,
      state.balancedTargetReadback, false,
      prepareBalancedTargetReadback_of_not_asksRetention hask, ?_⟩
    rw [prepareBalancedTargetReadback_of_not_asksRetention (hasks.trans hask), hread, h.converged,
      ← hstate.balancedTargetReadback]
  have hrecent := hrecent hask
  have hcontrol := groupFresh_alike (hstate.health .flowControl) hclock
  have hflow := groupFresh_alike (hstate.health .flow) hclock
  obtain ⟨healths, -⟩ := hstate
  obtain ⟨healths', -⟩ := hprevious
  -- The health is asked for freshness alone, which is the same on both sides.
  have hreached : ∀ readback, flowReachedReadback clock' { state with groupReadHealth := healths }
      { previous with groupReadHealth := healths' } readback =
        flowReachedReadback clock state previous readback := fun readback => by
    simp only [flowReachedReadback, hflow]
  have hsuperseded : ∀ readback recentWrite, balancedReadbackSupersededByFlow clock'
      { state with groupReadHealth := healths } { previous with groupReadHealth := healths' }
        readback recentWrite =
      balancedReadbackSupersededByFlow clock state previous readback recentWrite :=
    fun readback recentWrite => by simp only [balancedReadbackSupersededByFlow, hflow]
  unfold WriteConfirmations.prepareBalancedTargetReadback
  simp only [hcontrol, hreached, hsuperseded, h.needsConfirmation hrecent, hrecent, h.converged]
  split
  · exact ⟨confirmations.balancedFlowConverged, state.balancedTargetReadback, false, rfl,
      by rw [← h.converged]⟩
  split
  · exact ⟨confirmations.balancedFlowConverged, state.balancedTargetReadback, true, rfl,
      by rw [← h.converged]⟩
  split
  · exact ⟨false, state.balancedTargetReadback, false, rfl, rfl⟩
  · split
    · exact ⟨_, _, false, rfl, rfl⟩
    · exact ⟨false, state.balancedTargetReadback, false, rfl, rfl⟩

end WriteConfirmations

end Writes

end MeltemVentilation
