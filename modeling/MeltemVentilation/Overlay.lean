import MeltemVentilation.WriteConfirmation

/-!
# Optimistic display of a pending write

The class `OptimisticOverlay` of `overlay.py`, for one unit. A pending value is shown until
a readback made after it was set confirms it, or until its window ends.

The source keeps the pending values and their baselines in two dictionaries that are filled
and emptied together; here they are one record, `PendingValue`. The three overlays of the
coordinator differ in what they show, how long, which read groups settle them and when a
reported value confirms a pending one; these four are an `OverlayKind`.
-/

namespace MeltemVentilation

/-- What distinguishes one overlay from another: `T` is the type of the pending value and
`C` the type of what a readback reports. -/
structure OverlayKind (T C : Type) where
  ttlSeconds : ℕ
  /-- `matches` of the source. -/
  confirms : C → T → Bool
  readGroups : List ReadGroup

/-- The quick-mode overlay. -/
def presetOverlay : OverlayKind PresetMode PresetMode where
  ttlSeconds := presetOptimisticSeconds
  confirms := fun confirmed value => confirmed = value
  readGroups := [.flowControl]

/-- The intensive overlay. -/
def intensiveOverlay : OverlayKind Bool Bool where
  ttlSeconds := presetOptimisticSeconds
  confirms := fun confirmed value => confirmed = value
  readGroups := [.intensive]

/-- The airflow overlay. -/
def levelsOverlay : OverlayKind (ℤ × ℤ) LevelPair where
  ttlSeconds := targetOptimisticSeconds
  confirms := levelsReached
  readGroups := [.flow, .flowControl]

/-- A pending value, when its window ends, and the health of the read groups when it was
set. -/
structure PendingValue (T : Type) where
  value : T
  expiresAt : Monotonic
  baseline : List (ReadGroup × ReadHealth)

namespace OverlayKind

variable {T C : Type} (overlay : OverlayKind T C)

/-- `set`. -/
def set (clock : Clock) (state : Option RoomState) (value : T) : Option (PendingValue T) :=
  some {
    value := value
    expiresAt := clock.monotonic + seconds overlay.ttlSeconds
    baseline := overlay.readGroups.map fun group =>
      (group, (state.getD emptyRoomState).groupReadHealth group) }

/-- `read_since_set`: whether a fresh read of the read groups arrived after `set`. -/
def readSinceSet (clock : Clock) (state : Option RoomState)
    (pending : Option (PendingValue T)) : Bool :=
  match state, pending with
  | some state, some pending =>
    pending.baseline.any fun baseline => readSince clock state baseline.1 baseline.2
  | _, _ => false

/-- `get`: the pending value, or `none` once it is confirmed or stale. -/
def get (clock : Clock) (pending : Option (PendingValue T)) (confirmed : Option C) :
    Option T :=
  match pending with
  | none => none
  | some pending =>
    if pending.expiresAt ≤ clock.monotonic ∨
        confirmed.any (overlay.confirms · pending.value) = true then none
    else some pending.value

/-- `active`: the pending value, or `none` once a post-write read confirms it. -/
def active (clock : Clock) (pending : Option (PendingValue T)) (state : Option RoomState)
    (confirmed : Option C) : Option T :=
  overlay.get clock pending (if readSinceSet clock state pending then confirmed else none)

/-- `settle`: drop the pending value once a readback confirms it. -/
def settle (pending : Option (PendingValue T)) (confirmed : Option C) :
    Option (PendingValue T) :=
  match pending, confirmed with
  | some value, some reported =>
    if overlay.confirms reported value.value then none else some value
  | _, _ => pending

/-- `settle_if_read`: drop the pending value when a fresh post-write read confirms it. -/
def settleIfRead (clock : Clock) (pending : Option (PendingValue T)) (state : RoomState)
    (confirmed : Option C) : Option (PendingValue T) :=
  if readSinceSet clock (some state) pending then overlay.settle pending confirmed else pending

/-! ### What the operations do -/

variable {overlay} {clock : Clock} {pending : Option (PendingValue T)} {confirmed : Option C}
  {state : RoomState} {value : PendingValue T}

theorem settle_eq_some : overlay.settle pending confirmed = some value ↔
    pending = some value ∧ ∀ reported ∈ confirmed,
      overlay.confirms reported value.value = false := by
  cases pending <;> cases confirmed <;> simp only [settle, reduceCtorEq, false_and,
    Option.mem_def, IsEmpty.forall_iff, implies_true, and_true, Option.some.injEq,
    forall_eq']
  rename_i p reported
  by_cases h : overlay.confirms reported p.value = true
  · simp only [h, if_true, reduceCtorEq, false_iff, not_and]
    rintro rfl
    simp [h]
  · rw [if_neg h, Option.some.injEq]
    refine ⟨?_, fun hp => hp.1⟩
    rintro rfl
    exact ⟨rfl, by simpa using h⟩

/-- **A pending value that outlives a readback**: it was pending before, and if the readback
was made after it was set, the reported value does not confirm it. -/
theorem settleIfRead_eq_some : overlay.settleIfRead clock pending state confirmed = some value ↔
    pending = some value ∧ (readSinceSet clock (some state) (some value) = true →
      ∀ reported ∈ confirmed, overlay.confirms reported value.value = false) := by
  unfold settleIfRead
  split
  · rename_i hread
    rw [settle_eq_some]
    constructor
    · rintro ⟨rfl, h⟩
      exact ⟨rfl, fun _ => h⟩
    · rintro ⟨rfl, h⟩
      exact ⟨rfl, h hread⟩
  · rename_i hread
    refine ⟨?_, fun h => h.1⟩
    rintro rfl
    exact ⟨rfl, fun h => absurd h hread⟩

/-- A pass leaves a pending value alone, or a post-write read confirms it. -/
theorem settleIfRead_cases (overlay : OverlayKind T C) (clock : Clock)
    (pending : Option (PendingValue T)) (state : RoomState) (confirmed : Option C) :
    overlay.settleIfRead clock pending state confirmed = pending ∨
    overlay.settleIfRead clock pending state confirmed = none ∧
      ∃ value reported, pending = some value ∧ confirmed = some reported ∧
        readSinceSet clock (some state) (some value) = true ∧
        overlay.confirms reported value.value = true := by
  rcases h : overlay.settleIfRead clock pending state confirmed with _ | value
  · rcases pending with _ | value
    · exact .inl rfl
    · refine .inr ⟨rfl, value, ?_⟩
      by_contra hnot
      have hsome : overlay.settleIfRead clock (some value) state confirmed = some value := by
        refine settleIfRead_eq_some.mpr ⟨rfl, fun hread reported hreported => ?_⟩
        rw [Bool.eq_false_iff]
        exact fun hconfirms => hnot ⟨reported, rfl, hreported, hread, hconfirms⟩
      rw [h] at hsome
      cases hsome
  · exact .inl (settleIfRead_eq_some.mp h).1.symm

/-- A displayed value is pending, and its window has not ended. -/
theorem get_eq_some {t : T} (h : overlay.get clock pending confirmed = some t) :
    ∃ p, pending = some p ∧ p.value = t ∧ clock.monotonic < p.expiresAt := by
  rcases pending with _ | p
  · cases h
  · obtain ⟨hnot, heq⟩ := Option.ite_none_left_eq_some.mp h
    push Not at hnot
    exact ⟨p, rfl, Option.some.inj heq, hnot.1⟩

theorem active_eq_some {state : Option RoomState} {t : T}
    (h : overlay.active clock pending state confirmed = some t) :
    ∃ p, pending = some p ∧ p.value = t ∧ clock.monotonic < p.expiresAt :=
  get_eq_some h

/-! ### What is left after a pass -/

theorem settleIfRead_none : overlay.settleIfRead clock none state confirmed = none := by
  unfold settleIfRead
  split <;> rfl

/-- What a pass leaves pending, the same pass leaves pending. -/
theorem settleIfRead_self :
    overlay.settleIfRead clock (overlay.settleIfRead clock pending state confirmed) state
      confirmed = overlay.settleIfRead clock pending state confirmed := by
  rcases h : overlay.settleIfRead clock pending state confirmed with _ | value
  · exact settleIfRead_none
  · obtain ⟨-, hread⟩ := settleIfRead_eq_some.mp h
    exact settleIfRead_eq_some.mpr ⟨rfl, hread⟩

/-- A value that was just set is not settled by the state it was set at, however late. -/
theorem settleIfRead_set {later : Clock} {t : T} :
    overlay.settleIfRead later (overlay.set clock (some state) t) state confirmed =
      overlay.set clock (some state) t := by
  refine settleIfRead_eq_some.mpr ⟨rfl, fun hread => ?_⟩
  simp [readSinceSet, readSince] at hread

theorem readSinceSet_earlier {later : Clock}
    (hstamped : ∀ group, (state.groupReadHealth group).Stamped)
    (hle : clock.monotonic ≤ later.monotonic)
    (h : readSinceSet later (some state) (some value) = true) :
    readSinceSet clock (some state) (some value) = true := by
  obtain ⟨baseline, hmem, hread⟩ := List.any_eq_true.mp h
  exact List.any_eq_true.mpr ⟨baseline, hmem, readSince_earlier (hstamped _) hle hread⟩

/-- **What a state does not settle when it is read, it does not settle later**, as long as it
reports the same. -/
theorem settleIfRead_later {later : Clock}
    (hstamped : ∀ group, (state.groupReadHealth group).Stamped)
    (hle : clock.monotonic ≤ later.monotonic)
    (h : overlay.settleIfRead clock pending state confirmed = pending) :
    overlay.settleIfRead later pending state confirmed = pending := by
  rcases pending with _ | value
  · exact settleIfRead_none
  · obtain ⟨-, hread⟩ := settleIfRead_eq_some.mp h
    exact settleIfRead_eq_some.mpr
      ⟨rfl, fun hlater => hread (readSinceSet_earlier hstamped hle hlater)⟩

end OverlayKind

end MeltemVentilation
