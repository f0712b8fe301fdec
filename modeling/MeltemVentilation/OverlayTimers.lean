import MeltemVentilation.Lib.Dict
import MeltemVentilation.Lib.Transition
import MeltemVentilation.Overlay
import Mathlib.Data.String.Basic

/-!
# The overlays of all units, and their timers

`MeltemVentilation.Overlay` has a pending value as one record of one unit, and a value whose
window has ended stays in it until something else is set or read. The class `OptimisticOverlay`
of `overlay.py` is more than that: it keeps the values, their baselines and the cancellations
of their timers in three dictionaries over all units (`OptimisticOverlay`), and a timer of the
event loop takes each value out when its window has ended, so that the display follows even
if no poll does. Here is the class with its timers, and what connects it with the record of
one unit.

Everything rests on one invariant (`OptimisticOverlay.Consistent`): the three dictionaries
have the same units, each unit in them has exactly one running timer, which does not end before the
window does, and no other timer runs. So a timer that was started for one value never takes out
another one. Two results follow for every run of the class, in which the clock does not go back.

* **The class refines the record** (`overlay_refines`): what `get` and `active` display for a unit
  is what they display of a record that has gone through the operations on this unit only and has
  never heard of a timer.
* **A value does not outlive its window** (`overlay_expires`): as long as a value is pending, its
  timer runs; when it fires, nothing is displayed for the unit any more, the display is told,
  and the other units are as before.

Home Assistant cancels the timers when it shuts down; the overlay is not used any more then.
-/

namespace MeltemVentilation

/-- A timer that `async_call_later` has started. -/
structure OverlayTimer where
  roomKey : String
  due : Monotonic

/-- `OptimisticOverlay`, with the timers of the event loop that it has started. -/
structure OptimisticOverlay (T : Type) where
  pending : Dict String (T × Monotonic) := ∅
  baseline : Dict String (List ReadHealth) := ∅
  cancelExpiry : Dict String ℕ := ∅
  /-- The timers that are running. -/
  timers : Dict ℕ OverlayTimer := ∅
  /-- As many timers have been started so far. -/
  started : ℕ := 0
  /-- As often has `on_change` been called. -/
  changes : ℕ := 0

namespace OptimisticOverlay

variable {T C : Type} (kind : OverlayKind T C) (s : OptimisticOverlay T)

/-! ### The operations -/

/-- `_stop_expiry`. -/
def stopExpiry (roomKey : String) : OptimisticOverlay T :=
  match s.cancelExpiry.lookup roomKey with
  | some timer =>
    { s with cancelExpiry := s.cancelExpiry.erase roomKey, timers := s.timers.erase timer }
  | none => s

/-- `set`, while the timer is started a little later. -/
def set (clock : Clock) (roomKey : String) (state : Option RoomState) (value : T)
    (delay : Monotonic) : OptimisticOverlay T :=
  let s := s.stopExpiry roomKey
  { pending := s.pending.insert roomKey (value, clock.monotonic + seconds kind.ttlSeconds)
    baseline := s.baseline.insert roomKey
      (kind.readGroups.map (state.getD emptyRoomState).groupReadHealth)
    cancelExpiry := s.cancelExpiry.insert roomKey s.started
    timers := s.timers.insert s.started
      ⟨roomKey, clock.monotonic + delay + seconds kind.ttlSeconds⟩
    started := s.started + 1
    changes := s.changes + 1 }

/-- A value that is pending is taken out, and the display is told. -/
def popPending (roomKey : String) : OptimisticOverlay T :=
  if roomKey ∈ s.pending then
    { s with pending := s.pending.erase roomKey, changes := s.changes + 1 }
  else s

/-- `clear`. -/
def clear (roomKey : String) : OptimisticOverlay T :=
  let s := s.stopExpiry roomKey
  { s with baseline := s.baseline.erase roomKey }.popPending roomKey

/-- `read_since_set`. -/
def readSinceSet (clock : Clock) (roomKey : String) (state : Option RoomState) : Bool :=
  match state, s.baseline.lookup roomKey with
  | some state, some baseline =>
    (kind.readGroups.zip baseline).any fun group => readSince clock state group.1 group.2
  | _, _ => false

/-- `get`. -/
def get (clock : Clock) (roomKey : String) (confirmed : Option C) : Option T :=
  match s.pending.lookup roomKey with
  | none => none
  | some (value, expiresAt) =>
    if expiresAt ≤ clock.monotonic ∨ confirmed.any (kind.confirms · value) = true then none
    else some value

/-- `active`. -/
def active (clock : Clock) (roomKey : String) (state : Option RoomState) (confirmed : Option C) :
    Option T :=
  s.get kind clock roomKey (if s.readSinceSet kind clock roomKey state then confirmed else none)

/-- `settle`, with what it returns. -/
def settle (roomKey : String) (confirmed : Option C) : Bool × OptimisticOverlay T :=
  match s.pending.lookup roomKey, confirmed with
  | some (value, _), some reported =>
    if kind.confirms reported value then
      let s := s.stopExpiry roomKey
      (true, { s with
        pending := s.pending.erase roomKey, baseline := s.baseline.erase roomKey })
    else (false, s)
  | _, _ => (false, s)

/-- `settle_if_read`, with what it returns. -/
def settleIfRead (clock : Clock) (roomKey : String) (state : Option RoomState)
    (confirmed : Option C) : Bool × OptimisticOverlay T :=
  if s.readSinceSet kind clock roomKey state then s.settle kind roomKey confirmed else (false, s)

/-- `_expire`. -/
def expire (roomKey : String) : OptimisticOverlay T :=
  { s with
    cancelExpiry := s.cancelExpiry.erase roomKey
    baseline := s.baseline.erase roomKey }.popPending roomKey

/-- `shutdown`. -/
def shutdown : OptimisticOverlay T :=
  { s with
    timers := s.cancelExpiry.items.foldl (fun timers entry => timers.erase entry.2) s.timers
    cancelExpiry := ∅
    pending := ∅
    baseline := ∅ }

/-- A timer that is due fires. -/
def fire (clock : Clock) (timer : ℕ) : Option (OptimisticOverlay T) :=
  match s.timers.lookup timer with
  | some ⟨roomKey, due⟩ =>
    if due ≤ clock.monotonic then
      some ({ s with timers := s.timers.erase timer }.expire roomKey)
    else none
  | none => none

end OptimisticOverlay

/-- What happens to an overlay. -/
inductive OverlayEvent (T C : Type) where
  | set (roomKey : String) (state : Option RoomState) (value : T) (delay : Monotonic)
  | clear (roomKey : String)
  | settle (roomKey : String) (confirmed : Option C)
  | settleIfRead (roomKey : String) (state : Option RoomState) (confirmed : Option C)
  | fire (timer : ℕ)
  | shutdown

namespace OptimisticOverlay

variable {T C : Type}

/-- One step of an overlay. -/
def step (kind : OverlayKind T C) (s : OptimisticOverlay T) :
    Clock × OverlayEvent T C → Option (OptimisticOverlay T)
  | (clock, .set roomKey state value delay) => some (s.set kind clock roomKey state value delay)
  | (_, .clear roomKey) => some (s.clear roomKey)
  | (_, .settle roomKey confirmed) => some (s.settle kind roomKey confirmed).2
  | (clock, .settleIfRead roomKey state confirmed) =>
    some (s.settleIfRead kind clock roomKey state confirmed).2
  | (clock, .fire timer) => s.fire clock timer
  | (_, .shutdown) => some s.shutdown

/-! ### The invariant -/

/-- What the dictionaries have for a unit. -/
structure Slot (T : Type) where
  value : T
  expiresAt : Monotonic
  baseline : List ReadHealth
  timer : ℕ

variable (kind : OverlayKind T C) (s : OptimisticOverlay T)

/-- **The dictionaries have a unit or not**, and they agree about it. -/
structure Holds (roomKey : String) (slot : Option (Slot T)) : Prop where
  pending : s.pending.lookup roomKey = slot.map fun slot => (slot.value, slot.expiresAt)
  baseline : s.baseline.lookup roomKey = slot.map Slot.baseline
  cancelExpiry : s.cancelExpiry.lookup roomKey = slot.map Slot.timer

/-- A unit in the dictionaries has a timer that does not end before its window, and a health for
each read group. -/
structure Backed (roomKey : String) (slot : Slot T) : Prop where
  timer : ∃ due, s.timers.lookup slot.timer = some ⟨roomKey, due⟩ ∧ slot.expiresAt ≤ due
  baseline : slot.baseline.length = kind.readGroups.length

/-- **The invariant of an overlay.** -/
structure Consistent : Prop where
  rooms : ∀ roomKey, ∃ slot, s.Holds roomKey slot ∧ ∀ full ∈ slot, s.Backed kind roomKey full
  /-- A running timer is the one of its unit. -/
  owned : ∀ timer roomKey due, s.timers.lookup timer = some ⟨roomKey, due⟩ →
    s.cancelExpiry.lookup roomKey = some timer
  started : ∀ timer ∈ s.timers, timer < s.started

/-- Some unit has been taken out, and only this unit. -/
structure Released (roomKey : String) (t : OptimisticOverlay T) : Prop where
  slot : t.Holds roomKey none
  pending : ∀ key, key ≠ roomKey → t.pending.lookup key = s.pending.lookup key
  baseline : ∀ key, key ≠ roomKey → t.baseline.lookup key = s.baseline.lookup key
  cancelExpiry : ∀ key, key ≠ roomKey → t.cancelExpiry.lookup key = s.cancelExpiry.lookup key
  timers : ∀ timer, t.timers.lookup timer =
    if s.cancelExpiry.lookup roomKey = some timer then none else s.timers.lookup timer
  started : t.started = s.started

variable {kind} {s} {t : OptimisticOverlay T} {roomKey key : String}

/-- What the dictionaries have for a unit, where they are the same. -/
theorem Holds.congr {slot : Option (Slot T)} (h : s.Holds key slot)
    (hpending : t.pending.lookup key = s.pending.lookup key)
    (hbaseline : t.baseline.lookup key = s.baseline.lookup key)
    (hcancel : t.cancelExpiry.lookup key = s.cancelExpiry.lookup key) : t.Holds key slot :=
  ⟨hpending.trans h.pending, hbaseline.trans h.baseline, hcancel.trans h.cancelExpiry⟩

/-- Two units do not share a timer. -/
theorem Consistent.timer_injective (h : s.Consistent kind) {timer : ℕ}
    (hroom : s.cancelExpiry.lookup roomKey = some timer)
    (hkey : s.cancelExpiry.lookup key = some timer) : roomKey = key := by
  have howner : ∀ key, s.cancelExpiry.lookup key = some timer →
      ∃ due, s.timers.lookup timer = some ⟨key, due⟩ := by
    intro key hkey
    obtain ⟨slot, hholds, hbacked⟩ := h.rooms key
    obtain ⟨full, rfl, rfl⟩ := Option.map_eq_some_iff.mp (hholds.cancelExpiry ▸ hkey)
    obtain ⟨due, hdue, -⟩ := (hbacked full rfl).timer
    exact ⟨due, hdue⟩
  obtain ⟨due, hdue⟩ := howner roomKey hroom
  obtain ⟨due', hdue'⟩ := howner key hkey
  rw [hdue, Option.some.injEq, OverlayTimer.mk.injEq] at hdue'
  exact hdue'.1

/-- **Taking a unit out keeps the invariant.** -/
theorem Consistent.released (h : s.Consistent kind) (hr : s.Released roomKey t) :
    t.Consistent kind := by
  refine ⟨fun key => ?_, fun timer key due htimer => ?_, fun timer htimer => ?_⟩
  · by_cases hkey : key = roomKey
    · subst hkey
      exact ⟨none, hr.slot, fun full hfull => by cases hfull⟩
    obtain ⟨slot, hholds, hbacked⟩ := h.rooms key
    refine ⟨slot, hholds.congr (hr.pending key hkey) (hr.baseline key hkey)
      (hr.cancelExpiry key hkey), fun full hfull => ?_⟩
    obtain ⟨due, hdue, hle⟩ := (hbacked full hfull).timer
    refine ⟨⟨due, ?_, hle⟩, (hbacked full hfull).baseline⟩
    have hown : s.cancelExpiry.lookup key = some full.timer := h.owned _ _ _ hdue
    rw [hr.timers, if_neg fun hroom => hkey (h.timer_injective hown hroom), hdue]
  · rw [hr.timers] at htimer
    split at htimer
    · cases htimer
    rename_i hother
    have hown := h.owned _ _ _ htimer
    have hkey : key ≠ roomKey := by
      rintro rfl
      exact hother hown
    rw [hr.cancelExpiry key hkey, hown]
  · obtain ⟨started, hstarted⟩ := Finmap.mem_iff.mp htimer
    rw [hr.timers] at hstarted
    split at hstarted
    · cases hstarted
    · rw [hr.started]
      exact h.started timer (Finmap.mem_of_lookup_eq_some hstarted)

/-! ### What takes a unit out -/

@[simp] theorem pending_stopExpiry (s : OptimisticOverlay T) (roomKey : String) :
    (s.stopExpiry roomKey).pending = s.pending := by
  unfold stopExpiry
  split <;> rfl

@[simp] theorem baseline_stopExpiry (s : OptimisticOverlay T) (roomKey : String) :
    (s.stopExpiry roomKey).baseline = s.baseline := by
  unfold stopExpiry
  split <;> rfl

@[simp] theorem started_stopExpiry (s : OptimisticOverlay T) (roomKey : String) :
    (s.stopExpiry roomKey).started = s.started := by
  unfold stopExpiry
  split <;> rfl

theorem lookup_cancelExpiry_stopExpiry (s : OptimisticOverlay T) (roomKey key : String) :
    (s.stopExpiry roomKey).cancelExpiry.lookup key =
      if key = roomKey then none else s.cancelExpiry.lookup key := by
  unfold stopExpiry
  by_cases hkey : key = roomKey
  · subst hkey
    split
    · rw [if_pos rfl, Finmap.lookup_erase]
    · rename_i hnone
      rw [if_pos rfl, hnone]
  · split
    · rw [if_neg hkey, Finmap.lookup_erase_ne hkey]
    · rw [if_neg hkey]

theorem lookup_timers_stopExpiry (s : OptimisticOverlay T) (roomKey : String) (timer : ℕ) :
    (s.stopExpiry roomKey).timers.lookup timer =
      if s.cancelExpiry.lookup roomKey = some timer then none else s.timers.lookup timer := by
  unfold stopExpiry
  split
  · rename_i own hown
    by_cases htimer : timer = own
    · subst htimer
      rw [if_pos hown, Finmap.lookup_erase]
    · rw [if_neg, Finmap.lookup_erase_ne htimer]
      rw [hown, Option.some.injEq]
      exact fun hsame => htimer hsame.symm
  · rename_i hnone
    rw [if_neg]
    rw [hnone]
    rintro ⟨⟩

/-- The values that are pending after one is taken out. -/
theorem lookup_pending_popPending (s : OptimisticOverlay T) (roomKey key : String) :
    (s.popPending roomKey).pending.lookup key =
      if key = roomKey then none else s.pending.lookup key := by
  unfold popPending
  by_cases hkey : key = roomKey
  · subst hkey
    split
    · rw [if_pos rfl, Finmap.lookup_erase]
    · rename_i hnone
      rw [if_pos rfl, Finmap.lookup_eq_none.mpr hnone]
  · rw [if_neg hkey]
    split
    · exact Finmap.lookup_erase_ne hkey
    · rfl

/-- Taking a value out changes the values and the count of the changes only. -/
theorem popPending_frame (s : OptimisticOverlay T) (roomKey : String) :
    (s.popPending roomKey).baseline = s.baseline ∧
      (s.popPending roomKey).cancelExpiry = s.cancelExpiry ∧
      (s.popPending roomKey).timers = s.timers ∧ (s.popPending roomKey).started = s.started := by
  unfold popPending
  split <;> exact ⟨rfl, rfl, rfl, rfl⟩

theorem clear_released (s : OptimisticOverlay T) (roomKey : String) :
    s.Released roomKey (s.clear roomKey) := by
  obtain ⟨hbaseline, hcancel, htimers, hstarted⟩ := popPending_frame
    { s.stopExpiry roomKey with baseline := (s.stopExpiry roomKey).baseline.erase roomKey } roomKey
  refine ⟨⟨?_, ?_, ?_⟩, fun key hkey => ?_, fun key hkey => ?_, fun key hkey => ?_,
    fun timer => ?_, ?_⟩
  · rw [clear, lookup_pending_popPending, if_pos rfl]
    rfl
  · rw [clear, hbaseline, Finmap.lookup_erase]
    rfl
  · rw [clear, hcancel, lookup_cancelExpiry_stopExpiry, if_pos rfl]
    rfl
  · rw [clear, lookup_pending_popPending, if_neg hkey, pending_stopExpiry]
  · rw [clear, hbaseline, Finmap.lookup_erase_ne hkey, baseline_stopExpiry]
  · rw [clear, hcancel, lookup_cancelExpiry_stopExpiry, if_neg hkey]
  · rw [clear, htimers, lookup_timers_stopExpiry]
  · rw [clear, hstarted, started_stopExpiry]

/-- A unit of which the timer is stopped and the value dropped is taken out. -/
theorem stopExpiry_released (s : OptimisticOverlay T) (roomKey : String) :
    s.Released roomKey { s.stopExpiry roomKey with
      pending := s.pending.erase roomKey, baseline := s.baseline.erase roomKey } where
  slot := {
    pending := Finmap.lookup_erase roomKey s.pending
    baseline := Finmap.lookup_erase roomKey s.baseline
    cancelExpiry := (lookup_cancelExpiry_stopExpiry s roomKey roomKey).trans (if_pos rfl) }
  pending _ hkey := Finmap.lookup_erase_ne hkey
  baseline _ hkey := Finmap.lookup_erase_ne hkey
  cancelExpiry key hkey := (lookup_cancelExpiry_stopExpiry s roomKey key).trans (if_neg hkey)
  timers := lookup_timers_stopExpiry s roomKey
  started := started_stopExpiry s roomKey

/-- **A timer takes out its own unit.** -/
theorem fire_released (h : s.Consistent kind) {clock : Clock} {timer : ℕ}
    (hfire : s.fire clock timer = some t) :
    ∃ roomKey due, s.timers.lookup timer = some ⟨roomKey, due⟩ ∧ due ≤ clock.monotonic ∧
      s.Released roomKey t := by
  unfold fire at hfire
  split at hfire
  · rename_i roomKey due hdue
    split at hfire
    · rename_i hle
      cases hfire
      have hown := h.owned _ _ _ hdue
      obtain ⟨hbaseline, hcancel, htimers, hstarted⟩ := popPending_frame
        { s with
          timers := s.timers.erase timer
          cancelExpiry := s.cancelExpiry.erase roomKey
          baseline := s.baseline.erase roomKey } roomKey
      refine ⟨roomKey, due, hdue, hle, ⟨?_, ?_, ?_⟩, fun key hkey => ?_, fun key hkey => ?_,
        fun key hkey => ?_, fun other => ?_, ?_⟩
      · rw [expire, lookup_pending_popPending, if_pos rfl]
        rfl
      · rw [expire, hbaseline, Finmap.lookup_erase]
        rfl
      · rw [expire, hcancel, Finmap.lookup_erase]
        rfl
      · rw [expire, lookup_pending_popPending, if_neg hkey]
      · rw [expire, hbaseline, Finmap.lookup_erase_ne hkey]
      · rw [expire, hcancel, Finmap.lookup_erase_ne hkey]
      · rw [expire, htimers]
        by_cases hother : other = timer
        · subst hother
          rw [if_pos hown, Finmap.lookup_erase]
        · rw [if_neg fun hsame => hother (Option.some.inj (hown.symm.trans hsame)).symm]
          exact Finmap.lookup_erase_ne hother
      · rw [expire, hstarted]
    · cases hfire
  · cases hfire

/-! ### What puts a unit in -/

/-- The unit that is set has its dictionaries filled, the others are left alone. -/
theorem set_lookup (kind : OverlayKind T C) (s : OptimisticOverlay T) (clock : Clock)
    (roomKey : String) (state : Option RoomState) (value : T) (delay : Monotonic) :
    (s.set kind clock roomKey state value delay).Holds roomKey (some {
        value := value
        expiresAt := clock.monotonic + seconds kind.ttlSeconds
        baseline := kind.readGroups.map (state.getD emptyRoomState).groupReadHealth
        timer := s.started }) ∧
      ∀ key, key ≠ roomKey → ∀ slot, s.Holds key slot →
        (s.set kind clock roomKey state value delay).Holds key slot := by
  refine ⟨⟨Finmap.lookup_insert _, Finmap.lookup_insert _, ?_⟩,
    fun key hkey slot hslot => hslot.congr ?_ ?_ ?_⟩
  · rw [set, started_stopExpiry, Finmap.lookup_insert]
    rfl
  · rw [set, Finmap.lookup_insert_of_ne _ hkey, pending_stopExpiry]
  · rw [set, Finmap.lookup_insert_of_ne _ hkey, baseline_stopExpiry]
  · rw [set, Finmap.lookup_insert_of_ne _ hkey, lookup_cancelExpiry_stopExpiry, if_neg hkey]

/-- **Setting a unit keeps the invariant**: its old timer is stopped, its new one has a number of
its own. -/
theorem Consistent.set (h : s.Consistent kind) (clock : Clock) (roomKey : String)
    (state : Option RoomState) (value : T) (delay : Monotonic) :
    (s.set kind clock roomKey state value delay).Consistent kind := by
  obtain ⟨hset, hothers⟩ := set_lookup kind s clock roomKey state value delay
  have hold : ∀ timer, timer ≠ s.started →
      (s.set kind clock roomKey state value delay).timers.lookup timer =
        if s.cancelExpiry.lookup roomKey = some timer then none else s.timers.lookup timer := by
    intro timer htimer
    rw [OptimisticOverlay.set, started_stopExpiry, Finmap.lookup_insert_of_ne _ htimer,
      lookup_timers_stopExpiry]
  have hnew : (s.set kind clock roomKey state value delay).timers.lookup s.started =
      some ⟨roomKey, clock.monotonic + delay + seconds kind.ttlSeconds⟩ := by
    rw [OptimisticOverlay.set, started_stopExpiry, Finmap.lookup_insert]
  refine ⟨fun key => ?_, fun timer key due htimer => ?_, fun timer htimer => ?_⟩
  · by_cases hkey : key = roomKey
    · subst hkey
      refine ⟨_, hset, fun full hfull => ?_⟩
      cases hfull
      refine ⟨⟨_, hnew, ?_⟩, List.length_map _⟩
      exact Nat.add_le_add_right (Nat.le_add_right _ _) _
    obtain ⟨slot, hholds, hbacked⟩ := h.rooms key
    refine ⟨slot, hothers key hkey slot hholds, fun full hfull => ?_⟩
    obtain ⟨due, hdue, hle⟩ := (hbacked full hfull).timer
    have hown := h.owned _ _ _ hdue
    have hlt := h.started _ (Finmap.mem_of_lookup_eq_some hdue)
    refine ⟨⟨due, ?_, hle⟩, (hbacked full hfull).baseline⟩
    rw [hold _ hlt.ne, if_neg fun hroom => hkey (h.timer_injective hown hroom), hdue]
  · by_cases hstarted : timer = s.started
    · subst hstarted
      rw [hnew, Option.some.injEq, OverlayTimer.mk.injEq] at htimer
      rw [← htimer.1, hset.cancelExpiry]
      rfl
    · rw [hold timer hstarted] at htimer
      split at htimer
      · cases htimer
      rename_i hother
      have hown := h.owned _ _ _ htimer
      have hkey : key ≠ roomKey := by
        rintro rfl
        exact hother hown
      rw [OptimisticOverlay.set, Finmap.lookup_insert_of_ne _ hkey,
        lookup_cancelExpiry_stopExpiry, if_neg hkey, hown]
  · change timer < (s.stopExpiry roomKey).started + 1
    rw [started_stopExpiry]
    by_cases hstarted : timer = s.started
    · omega
    · obtain ⟨running, hrunning⟩ := Finmap.mem_iff.mp htimer
      rw [hold timer hstarted] at hrunning
      split at hrunning
      · cases hrunning
      · have := h.started timer (Finmap.mem_of_lookup_eq_some hrunning)
        omega

/-! ### The end of an overlay -/

theorem lookup_foldl_erase (entries : List (String × ℕ)) (timers : Dict ℕ OverlayTimer)
    (timer : ℕ) :
    (entries.foldl (fun timers entry => timers.erase entry.2) timers).lookup timer =
      if timer ∈ entries.map Prod.snd then none else timers.lookup timer := by
  induction entries generalizing timers with
  | nil => rfl
  | cons entry entries ih =>
    rw [List.foldl_cons, ih, List.map_cons]
    by_cases hentry : timer = entry.2
    · subst hentry
      rw [Finmap.lookup_erase, ite_self, if_pos List.mem_cons_self]
    · rw [Finmap.lookup_erase_ne hentry]
      simp only [List.mem_cons, hentry, false_or]

/-- **After the end no timer runs.** -/
theorem timers_shutdown (h : s.Consistent kind) (timer : ℕ) :
    s.shutdown.timers.lookup timer = none := by
  rw [shutdown, lookup_foldl_erase]
  split
  · rfl
  rename_i hnot
  by_contra hrunning
  obtain ⟨⟨roomKey, due⟩, hdue⟩ := Option.ne_none_iff_exists'.mp hrunning
  exact hnot (List.mem_map.mpr
    ⟨(roomKey, timer), Dict.mem_items.mpr (h.owned _ _ _ hdue), rfl⟩)

theorem shutdown_holds (s : OptimisticOverlay T) (roomKey : String) :
    s.shutdown.Holds roomKey none :=
  ⟨rfl, rfl, rfl⟩

theorem Consistent.shutdown (h : s.Consistent kind) : s.shutdown.Consistent kind where
  rooms roomKey := ⟨none, shutdown_holds s roomKey, fun full hfull => by cases hfull⟩
  owned timer roomKey due htimer := by
    rw [timers_shutdown h] at htimer
    cases htimer
  started timer htimer := by
    obtain ⟨running, hrunning⟩ := Finmap.mem_iff.mp htimer
    rw [timers_shutdown h] at hrunning
    cases hrunning

/-! ### The record of one unit -/

/-- What the dictionaries have for a unit, as its record. -/
def Slot.pendingValue (kind : OverlayKind T C) (slot : Slot T) : PendingValue T where
  value := slot.value
  expiresAt := slot.expiresAt
  baseline := kind.readGroups.zip slot.baseline

/-- The operations that ask read the dictionaries like the record. -/
theorem Holds.readSinceSet {slot : Option (Slot T)} (h : s.Holds roomKey slot) (clock : Clock)
    (state : Option RoomState) :
    s.readSinceSet kind clock roomKey state =
      OverlayKind.readSinceSet clock state (slot.map (Slot.pendingValue kind)) := by
  cases state with
  | none => cases slot <;> rfl
  | some state =>
    unfold OptimisticOverlay.readSinceSet
    rw [h.baseline]
    cases slot <;> rfl

theorem Holds.get {slot : Option (Slot T)} (h : s.Holds roomKey slot) (clock : Clock)
    (confirmed : Option C) :
    s.get kind clock roomKey confirmed =
      kind.get clock (slot.map (Slot.pendingValue kind)) confirmed := by
  rw [OptimisticOverlay.get, h.pending]
  cases slot <;> rfl

theorem Holds.active {slot : Option (Slot T)} (h : s.Holds roomKey slot) (clock : Clock)
    (state : Option RoomState) (confirmed : Option C) :
    s.active kind clock roomKey state confirmed =
      kind.active clock (slot.map (Slot.pendingValue kind)) state confirmed := by
  rw [OptimisticOverlay.active, h.readSinceSet, h.get, OverlayKind.active]

/-- **Settling**: the unit is left alone, or it is taken out, as the record says. -/
theorem Holds.settle {slot : Option (Slot T)} (h : s.Holds roomKey slot) (confirmed : Option C) :
    (s.settle kind roomKey confirmed).2 = s ∧
        kind.settle (slot.map (Slot.pendingValue kind)) confirmed =
          slot.map (Slot.pendingValue kind) ∨
      s.Released roomKey (s.settle kind roomKey confirmed).2 ∧
        kind.settle (slot.map (Slot.pendingValue kind)) confirmed = none := by
  unfold OptimisticOverlay.settle OverlayKind.settle
  rw [h.pending]
  cases slot with
  | none => exact .inl ⟨rfl, rfl⟩
  | some full =>
    cases confirmed with
    | none => exact .inl ⟨rfl, rfl⟩
    | some reported =>
      simp only [Option.map_some, Slot.pendingValue]
      split
      · refine .inr ⟨?_, rfl⟩
        rw [pending_stopExpiry, baseline_stopExpiry]
        exact stopExpiry_released s roomKey
      · exact .inl ⟨rfl, rfl⟩

theorem Holds.settleIfRead {slot : Option (Slot T)} (h : s.Holds roomKey slot) (clock : Clock)
    (state : Option RoomState) (confirmed : Option C) :
    (s.settleIfRead kind clock roomKey state confirmed).2 = s ∧
        (state.elim (slot.map (Slot.pendingValue kind)) fun state =>
          kind.settleIfRead clock (slot.map (Slot.pendingValue kind)) state confirmed) =
          slot.map (Slot.pendingValue kind) ∨
      s.Released roomKey (s.settleIfRead kind clock roomKey state confirmed).2 ∧
        (state.elim (slot.map (Slot.pendingValue kind)) fun state =>
          kind.settleIfRead clock (slot.map (Slot.pendingValue kind)) state confirmed) = none := by
  cases state with
  | none => exact .inl ⟨rfl, rfl⟩
  | some state =>
    rw [OptimisticOverlay.settleIfRead, h.readSinceSet, Option.elim_some, OverlayKind.settleIfRead]
    split
    · exact h.settle confirmed
    · exact .inl ⟨rfl, rfl⟩

end OptimisticOverlay

/-- The records of the units, without any timers, and when something has last happened. -/
structure OverlayRecords (T : Type) where
  now : Monotonic := 0
  values : String → Option (PendingValue T) := fun _ => none

namespace OverlayRecords

variable {T C : Type}

/-- The operations on the records. -/
def update (kind : OverlayKind T C) (_ : OptimisticOverlay T) :
    Clock × OverlayEvent T C → OverlayRecords T → OverlayRecords T
  | (clock, .set roomKey state value _), r =>
    ⟨clock.monotonic, Function.update r.values roomKey (kind.set clock state value)⟩
  | (clock, .clear roomKey), r => ⟨clock.monotonic, Function.update r.values roomKey none⟩
  | (clock, .settle roomKey confirmed), r =>
    ⟨clock.monotonic,
      Function.update r.values roomKey (kind.settle (r.values roomKey) confirmed)⟩
  | (clock, .settleIfRead roomKey state confirmed), r =>
    ⟨clock.monotonic, Function.update r.values roomKey
      (state.elim (r.values roomKey) fun state =>
        kind.settleIfRead clock (r.values roomKey) state confirmed)⟩
  | (clock, .fire _), r => ⟨clock.monotonic, r.values⟩
  | (clock, .shutdown), _ => ⟨clock.monotonic, fun _ => none⟩

/-- The clock does not go back. -/
def InOrder (s : OptimisticOverlay T × OverlayRecords T) (label : Clock × OverlayEvent T C) :
    Prop :=
  s.2.now ≤ label.1.monotonic

instance (s : OptimisticOverlay T × OverlayRecords T) (label : Clock × OverlayEvent T C) :
    Decidable (InOrder s label) :=
  inferInstanceAs (Decidable (_ ≤ _))

/-- What the overlay has for a unit is its record, or nothing if the window of the record has
ended. -/
def Alike (now : Monotonic) (value record : Option (PendingValue T)) : Prop :=
  value = record ∨ value = none ∧ ∀ pending ∈ record, pending.expiresAt ≤ now

theorem Alike.mono {now later : Monotonic} {value record : Option (PendingValue T)}
    (h : Alike now value record) (hle : now ≤ later) : Alike later value record := by
  rcases h with rfl | ⟨rfl, hrecord⟩
  · exact .inl rfl
  · exact .inr ⟨rfl, fun pending hpending => (hrecord pending hpending).trans hle⟩

/-- A record whose window has ended displays nothing. -/
theorem get_eq_none {kind : OverlayKind T C} {clock : Clock} {record : Option (PendingValue T)}
    (h : ∀ pending ∈ record, pending.expiresAt ≤ clock.monotonic) (confirmed : Option C) :
    kind.get clock record confirmed = none := by
  cases record with
  | none => rfl
  | some pending => exact if_pos (.inl (h pending rfl))

theorem Alike.get {kind : OverlayKind T C} {clock : Clock}
    {value record : Option (PendingValue T)} (h : Alike clock.monotonic value record)
    (confirmed : Option C) : kind.get clock value confirmed = kind.get clock record confirmed := by
  rcases h with rfl | ⟨rfl, hrecord⟩
  · rfl
  · rw [get_eq_none hrecord]
    rfl

theorem Alike.active {kind : OverlayKind T C} {clock : Clock}
    {value record : Option (PendingValue T)} (h : Alike clock.monotonic value record)
    (state : Option RoomState) (confirmed : Option C) :
    kind.active clock value state confirmed = kind.active clock record state confirmed := by
  rcases h with rfl | ⟨rfl, hrecord⟩
  · rfl
  · rw [OverlayKind.active, OverlayKind.active, get_eq_none hrecord]
    rfl

/-- What takes values out or leaves them alone. -/
theorem Alike.map {now : Monotonic} {value record : Option (PendingValue T)}
    (h : Alike now value record) {f : Option (PendingValue T) → Option (PendingValue T)}
    (hf : ∀ pending, f pending = pending ∨ f pending = none) :
    Alike now (f value) (f record) := by
  rcases h with rfl | ⟨rfl, hrecord⟩
  · exact .inl rfl
  · refine .inr ⟨(hf none).elim id id, ?_⟩
    rcases hf record with heq | heq
    · rwa [heq]
    · rw [heq]
      rintro _ ⟨⟩

theorem settle_cases (kind : OverlayKind T C) (confirmed : Option C)
    (record : Option (PendingValue T)) :
    kind.settle record confirmed = record ∨ kind.settle record confirmed = none := by
  unfold OverlayKind.settle
  split
  · split
    · exact .inr rfl
    · exact .inl rfl
  · exact .inl rfl

theorem settleIfRead_cases (kind : OverlayKind T C) (clock : Clock) (state : Option RoomState)
    (confirmed : Option C) (record : Option (PendingValue T)) :
    (state.elim record fun state => kind.settleIfRead clock record state confirmed) = record ∨
      (state.elim record fun state => kind.settleIfRead clock record state confirmed) = none := by
  cases state with
  | none => exact .inl rfl
  | some state =>
    rcases kind.settleIfRead_cases clock record state confirmed with h | ⟨h, -⟩
    · exact .inl h
    · exact .inr h

/-! ### A run -/

/-- The overlay keeps its invariant, and follows the records. -/
structure Follows (kind : OverlayKind T C) (s : OptimisticOverlay T) (r : OverlayRecords T) :
    Prop where
  consistent : s.Consistent kind
  alike : ∀ roomKey slot, s.Holds roomKey slot →
    Alike r.now (slot.map (OptimisticOverlay.Slot.pendingValue kind)) (r.values roomKey)

variable {kind : OverlayKind T C} {s t : OptimisticOverlay T} {r : OverlayRecords T}
  {roomKey : String} {now : Monotonic}

/-- The dictionaries have a unit in one way only. -/
theorem holds_unique {slot slot' : Option (OptimisticOverlay.Slot T)} (h : s.Holds roomKey slot)
    (h' : s.Holds roomKey slot') : slot = slot' := by
  have hpending := h.pending.symm.trans h'.pending
  have hbaseline := h.baseline.symm.trans h'.baseline
  have hcancel := h.cancelExpiry.symm.trans h'.cancelExpiry
  cases slot with
  | none =>
    cases slot' with
    | none => rfl
    | some full' => cases hpending
  | some full =>
    cases slot' with
    | none => cases hpending
    | some full' =>
      simp only [Option.map_some, Option.some.injEq, Prod.mk.injEq] at hpending hbaseline hcancel
      obtain ⟨value, expiresAt, baseline, timer⟩ := full
      obtain ⟨value', expiresAt', baseline', timer'⟩ := full'
      obtain ⟨rfl, rfl⟩ := hpending
      obtain rfl := hbaseline
      obtain rfl := hcancel
      rfl

/-- **A unit that is taken out**, while its record is gone or its window has ended. -/
theorem Follows.released (h : Follows kind s r) (hle : r.now ≤ now)
    (hr : s.Released roomKey t) {record : Option (PendingValue T)}
    (hrecord : Alike now none record) :
    Follows kind t ⟨now, Function.update r.values roomKey record⟩ := by
  refine ⟨h.consistent.released hr, fun key slot hslot => ?_⟩
  dsimp only
  by_cases hkey : key = roomKey
  · subst hkey
    rw [Function.update_self, holds_unique hslot hr.slot]
    exact hrecord
  · rw [Function.update_of_ne hkey]
    exact (h.alike key slot (hslot.congr (hr.pending key hkey).symm (hr.baseline key hkey).symm
      (hr.cancelExpiry key hkey).symm)).mono hle

/-- Nothing has happened to the overlay. -/
theorem Follows.unchanged (h : Follows kind s r) (hle : r.now ≤ now)
    {slot : Option (OptimisticOverlay.Slot T)} (hslot : s.Holds roomKey slot)
    {record : Option (PendingValue T)}
    (hrecord : Alike now (slot.map (OptimisticOverlay.Slot.pendingValue kind)) record) :
    Follows kind s ⟨now, Function.update r.values roomKey record⟩ := by
  refine ⟨h.consistent, fun key other hother => ?_⟩
  dsimp only
  by_cases hkey : key = roomKey
  · subst hkey
    rw [Function.update_self, holds_unique hother hslot]
    exact hrecord
  · rw [Function.update_of_ne hkey]
    exact (h.alike key other hother).mono hle

/-- **An operation that takes a unit out or leaves it alone**, in the overlay as in the record. -/
theorem Follows.shrunk (h : Follows kind s r) (hle : r.now ≤ now)
    {f : Option (PendingValue T) → Option (PendingValue T)}
    (hf : ∀ pending, f pending = pending ∨ f pending = none)
    (hstep : ∀ slot, s.Holds roomKey slot →
      t = s ∧ f (slot.map (OptimisticOverlay.Slot.pendingValue kind)) =
          slot.map (OptimisticOverlay.Slot.pendingValue kind) ∨
        s.Released roomKey t ∧ f (slot.map (OptimisticOverlay.Slot.pendingValue kind)) = none) :
    Follows kind t ⟨now, Function.update r.values roomKey (f (r.values roomKey))⟩ := by
  obtain ⟨slot, hslot, -⟩ := h.consistent.rooms roomKey
  have halike := ((h.alike roomKey slot hslot).mono hle).map hf
  rcases hstep slot hslot with ⟨rfl, hvalue⟩ | ⟨hout, hvalue⟩
  · rw [hvalue] at halike
    exact h.unchanged hle hslot halike
  · rw [hvalue] at halike
    exact h.released hle hout halike

/-- A unit that is set has its record set. -/
theorem Follows.set (h : Follows kind s r) (clock : Clock) (hle : r.now ≤ clock.monotonic)
    (roomKey : String) (state : Option RoomState) (value : T) (delay : Monotonic) :
    Follows kind (s.set kind clock roomKey state value delay)
      ⟨clock.monotonic, Function.update r.values roomKey (kind.set clock state value)⟩ := by
  obtain ⟨hset, hothers⟩ :=
    OptimisticOverlay.set_lookup kind s clock roomKey state value delay
  refine ⟨h.consistent.set clock roomKey state value delay, fun key slot hslot => ?_⟩
  dsimp only
  by_cases hkey : key = roomKey
  · subst hkey
    rw [Function.update_self, holds_unique hslot hset]
    have hzip : kind.readGroups.zip
        (kind.readGroups.map (state.getD emptyRoomState).groupReadHealth) =
          kind.readGroups.map fun group =>
            (group, (state.getD emptyRoomState).groupReadHealth group) := by
      conv_lhs => rw [← List.map_id kind.readGroups, List.map_map]
      exact List.zip_map'
    refine .inl ?_
    rw [OverlayKind.set, ← hzip]
    rfl
  · rw [Function.update_of_ne hkey]
    obtain ⟨slot', hslot', -⟩ := h.consistent.rooms key
    rw [holds_unique hslot (hothers key hkey slot' hslot')]
    exact (h.alike key slot' hslot').mono hle

/-- **What one step does.** -/
theorem Follows.step (h : Follows kind s r) {clock : Clock} {event : OverlayEvent T C}
    (hle : r.now ≤ clock.monotonic) (hstep : s.step kind (clock, event) = some t) :
    Follows kind t (r.update kind s (clock, event)) := by
  cases event with
  | set roomKey state value delay =>
    cases hstep
    exact h.set clock hle roomKey state value delay
  | clear roomKey =>
    cases hstep
    exact h.shrunk hle (fun _ => .inr rfl) fun slot _ => .inr ⟨s.clear_released roomKey, rfl⟩
  | settle roomKey confirmed =>
    cases hstep
    exact h.shrunk hle (settle_cases kind confirmed) fun slot hslot => hslot.settle confirmed
  | settleIfRead roomKey state confirmed =>
    cases hstep
    exact h.shrunk hle (settleIfRead_cases kind clock state confirmed) fun slot hslot =>
      hslot.settleIfRead clock state confirmed
  | fire timer =>
    obtain ⟨roomKey, due, hdue, hfired, hout⟩ :=
      OptimisticOverlay.fire_released h.consistent hstep
    have hown := h.consistent.owned _ _ _ hdue
    obtain ⟨slot, hslot, hbacked⟩ := h.consistent.rooms roomKey
    have hstale : Alike clock.monotonic none (r.values roomKey) := by
      obtain ⟨full, rfl, hfull⟩ := Option.map_eq_some_iff.mp (hslot.cancelExpiry ▸ hown)
      obtain ⟨due', hdue', hends⟩ := (hbacked full rfl).timer
      rw [hfull, hdue, Option.some.injEq, OverlayTimer.mk.injEq] at hdue'
      rcases (h.alike roomKey _ hslot).mono hle with hrecord | ⟨hnone, -⟩
      · refine .inr ⟨rfl, fun pending hpending => ?_⟩
        rw [← hrecord] at hpending
        cases hpending
        exact hends.trans (hdue'.2 ▸ hfired)
      · cases hnone
    have hsame := h.released hle hout hstale
    rwa [Function.update_eq_self] at hsame
  | shutdown =>
    cases hstep
    refine ⟨h.consistent.shutdown, fun key slot hslot => ?_⟩
    rw [holds_unique hslot (s.shutdown_holds key)]
    exact .inl rfl

end OverlayRecords

namespace OptimisticOverlay

variable {T C : Type} {kind : OverlayKind T C} {s t : OptimisticOverlay T}

theorem empty_holds (roomKey : String) : ({} : OptimisticOverlay T).Holds roomKey none :=
  ⟨rfl, rfl, rfl⟩

theorem consistent_empty (kind : OverlayKind T C) :
    ({} : OptimisticOverlay T).Consistent kind where
  rooms roomKey := ⟨none, empty_holds roomKey, fun full hfull => by cases hfull⟩
  owned timer roomKey due htimer := by cases htimer
  started timer htimer := absurd htimer Finmap.notMem_empty

/-- **Every step keeps the invariant**, whatever the clock says. -/
theorem Consistent.step (h : s.Consistent kind) {label : Clock × OverlayEvent T C}
    (hstep : s.step kind label = some t) : t.Consistent kind := by
  -- A step does not look at the records, so any will do that are in time and alike.
  obtain ⟨clock, event⟩ := label
  have hfollows : OverlayRecords.Follows kind s ⟨0, fun roomKey =>
      (h.rooms roomKey).choose.map (Slot.pendingValue kind)⟩ :=
    ⟨h, fun roomKey slot hslot => .inl (by
      rw [OverlayRecords.holds_unique hslot (h.rooms roomKey).choose_spec.1])⟩
  exact (hfollows.step (Nat.zero_le _) hstep).consistent

end OptimisticOverlay

section Runs

open Transition OptimisticOverlay

variable {T C : Type} {kind : OverlayKind T C}

/-- **The class refines the record.** In every run of an overlay in which the clock does not go
back, `get` and `active` display of a unit, from now on, what they display of its record, which
knows nothing of timers. -/
theorem overlay_refines {s : OptimisticOverlay T × OverlayRecords T}
    (h : Reach (recorded (OptimisticOverlay.step kind) (OverlayRecords.update kind))
      OverlayRecords.InOrder (· = ({}, {})) s)
    {clock : Clock} (hclock : s.2.now ≤ clock.monotonic) (roomKey : String)
    (state : Option RoomState) (confirmed : Option C) :
    s.1.get kind clock roomKey confirmed = kind.get clock (s.2.values roomKey) confirmed ∧
      s.1.active kind clock roomKey state confirmed =
        kind.active clock (s.2.values roomKey) state confirmed := by
  have hfollows : OverlayRecords.Follows kind s.1 s.2 := by
    refine h.invariant (P := fun s => OverlayRecords.Follows kind s.1 s.2) (fun s hs => ?_)
      fun s label t hs hle hstep => ?_
    · subst hs
      refine ⟨consistent_empty kind, fun key slot hslot => ?_⟩
      rw [OverlayRecords.holds_unique hslot (empty_holds key)]
      exact .inl rfl
    · obtain ⟨hnext, hrecord⟩ := recorded_eq_some.mp hstep
      rw [hrecord]
      exact hs.step hle hnext
  obtain ⟨slot, hslot, -⟩ := hfollows.consistent.rooms roomKey
  have halike := (hfollows.alike roomKey slot hslot).mono hclock
  exact ⟨(hslot.get clock confirmed).trans (halike.get confirmed),
    (hslot.active clock state confirmed).trans (halike.active state confirmed)⟩

/-- Two values are set, and the timer of the first one fires. -/
theorem overlay_refines_fired :
    ∃ s, run (recorded (OptimisticOverlay.step intensiveOverlay)
        (OverlayRecords.update intensiveOverlay))
        [(⟨0, 0⟩, .set "bath" none true 0), (⟨seconds 1, 1⟩, .set "kitchen" none true 0),
          (⟨seconds 15, 15⟩, .fire 0)] ({}, {}) = some s ∧
      s.1.changes = 3 ∧
      s.1.get intensiveOverlay ⟨seconds 15, 15⟩ "bath" none =
        intensiveOverlay.get ⟨seconds 15, 15⟩ (s.2.values "bath") none ∧
      s.1.active intensiveOverlay ⟨seconds 15, 15⟩ "kitchen" none (some true) =
        intensiveOverlay.active ⟨seconds 15, 15⟩ (s.2.values "kitchen") none (some true) := by
  have hstart : Reach (recorded (OptimisticOverlay.step intensiveOverlay)
      (OverlayRecords.update intensiveOverlay)) OverlayRecords.InOrder (· = ({}, {})) ({}, {}) :=
    .start rfl
  obtain ⟨s, hrun, hreach, hs⟩ := hstart.exists_of_run
    [(⟨0, 0⟩, .set "bath" none true 0), (⟨seconds 1, 1⟩, .set "kitchen" none true 0),
      (⟨seconds 15, 15⟩, .fire 0)]
    (fun s => s.1.changes = 3 ∧ s.2.now ≤ seconds 15) (by decide) (by decide)
  obtain ⟨hchanges, hnow⟩ := of_decide_eq_true hs
  have hclock : s.2.now ≤ (⟨seconds 15, 15⟩ : Clock).monotonic := hnow
  exact ⟨s, hrun, hchanges, (overlay_refines hreach hclock "bath" none none).1,
    (overlay_refines hreach hclock "kitchen" none (some true)).2⟩

/-- **A value does not outlive its window.** In every run, a pending value has a running timer
that is due at the end of its window or later, and every running timer is that of a pending
value; when it is due it can fire, which takes out this value and no other, stops no other timer,
and tells the display. -/
theorem overlay_expires {s : OptimisticOverlay T}
    (h : Reach (OptimisticOverlay.step kind) (fun _ _ => True) (· = {}) s) :
    (∀ roomKey value expiresAt, s.pending.lookup roomKey = some (value, expiresAt) →
      ∃ timer due, s.timers.lookup timer = some ⟨roomKey, due⟩ ∧ expiresAt ≤ due) ∧
    ∀ timer roomKey due, s.timers.lookup timer = some ⟨roomKey, due⟩ → ∀ clock : Clock,
      due ≤ clock.monotonic → ∃ t, s.fire clock timer = some t ∧
        t.pending.lookup roomKey = none ∧ t.changes = s.changes + 1 ∧
        (∀ key, key ≠ roomKey → t.pending.lookup key = s.pending.lookup key) ∧
        ∀ other, other ≠ timer → t.timers.lookup other = s.timers.lookup other := by
  have hconsistent : s.Consistent kind := by
    refine h.invariant (fun s hs => ?_) fun s label t hs _ hstep => hs.step hstep
    subst hs
    exact consistent_empty kind
  refine ⟨fun roomKey value expiresAt hpending => ?_,
    fun timer roomKey due hdue clock hle => ?_⟩
  · obtain ⟨slot, hslot, hbacked⟩ := hconsistent.rooms roomKey
    obtain ⟨full, rfl, hfull⟩ := Option.map_eq_some_iff.mp (hslot.pending ▸ hpending)
    obtain ⟨due, hdue, hends⟩ := (hbacked full rfl).timer
    cases hfull
    exact ⟨full.timer, due, hdue, hends⟩
  · have hown := hconsistent.owned _ _ _ hdue
    have hmem : roomKey ∈ s.pending := by
      obtain ⟨slot, hslot, -⟩ := hconsistent.rooms roomKey
      obtain ⟨full, rfl, -⟩ := Option.map_eq_some_iff.mp (hslot.cancelExpiry ▸ hown)
      exact Finmap.mem_of_lookup_eq_some hslot.pending
    have hfire : s.fire clock timer =
        some ({ s with timers := s.timers.erase timer }.expire roomKey) := by
      rw [OptimisticOverlay.fire, hdue]
      exact if_pos hle
    obtain ⟨roomKey', due', hdue', -, hout⟩ := fire_released hconsistent hfire
    rw [hdue, Option.some.injEq, OverlayTimer.mk.injEq] at hdue'
    obtain ⟨rfl, rfl⟩ := hdue'
    refine ⟨_, hfire, hout.slot.pending, ?_, hout.pending, fun other hother => ?_⟩
    · rw [expire, popPending, if_pos hmem]
    · rw [hout.timers, if_neg]
      rw [hown, Option.some.injEq]
      exact hother.symm

/-- Two values are set and the timer of the first one fires: the second one still has its timer,
which can fire, too. -/
theorem overlay_expires_fired :
    ∃ s, run (OptimisticOverlay.step intensiveOverlay)
        [(⟨0, 0⟩, .set "bath" none true 0), (⟨seconds 1, 1⟩, .set "kitchen" none true 0),
          (⟨seconds 15, 15⟩, .fire 0)] {} = some s ∧
      s.changes = 3 ∧ s.pending.lookup "bath" = none ∧
      (∃ timer due, s.timers.lookup timer = some ⟨"kitchen", due⟩ ∧ seconds 16 ≤ due) ∧
      ∃ t, s.fire ⟨seconds 16, 16⟩ 1 = some t ∧ t.pending.lookup "kitchen" = none := by
  have hstart : Reach (OptimisticOverlay.step intensiveOverlay) (fun _ _ => True) (· = {}) {} :=
    .start rfl
  obtain ⟨s, hrun, hreach, hs⟩ := hstart.exists_of_run
    [(⟨0, 0⟩, .set "bath" none true 0), (⟨seconds 1, 1⟩, .set "kitchen" none true 0),
      (⟨seconds 15, 15⟩, .fire 0)]
    (fun s => s.changes = 3 ∧ s.pending.lookup "bath" = none ∧
      s.pending.lookup "kitchen" = some (true, seconds 16) ∧
      (s.timers.lookup 1).map (fun timer => (timer.roomKey, timer.due)) =
        some ("kitchen", seconds 16))
    (along_true _ (fun _ _ => trivial) _ _) (by decide)
  obtain ⟨hchanges, hbath, hkitchen, htimer⟩ := of_decide_eq_true hs
  obtain ⟨⟨roomKey, due⟩, hdue, hsame⟩ := Option.map_eq_some_iff.mp htimer
  obtain ⟨rfl, rfl⟩ := Prod.mk.inj hsame
  obtain ⟨hpending, hfires⟩ := overlay_expires hreach
  obtain ⟨t, hfire, hgone, -⟩ := hfires 1 _ _ hdue ⟨seconds 16, 16⟩ le_rfl
  exact ⟨s, hrun, hchanges, hbath, hpending _ _ _ hkitchen, t, hfire, hgone⟩

end Runs

end MeltemVentilation
