import MeltemVentilation.Const
import MeltemVentilation.CumulativeDiagnostics
import MeltemVentilation.Lib.Transition

/-!
# When the counters are saved

`CumulativeDiagnostics` counts on every request, a few times per second, and keeps its counters in a
file. Writing the file each time would wear out the storage, writing it rarely would lose counts
when Home Assistant dies. `_schedule_save` therefore asks the `Store` of Home Assistant for a
delayed write, and asks again only after that one. The store is modelled by what is documented of
it: a delayed write is due so many seconds after it has been asked for, replaces the one that was
due before, and is done in any case when Home Assistant stops.

What holds of every run in which nothing is counted while `async_flush` waits for the store
(`InTime`) is told by a record of it: since when there is something to save, and when the delayed
writes were due.

* **Nothing waits longer than a minute** (`diagnostics_saved`): while no write is late by fifty
  seconds or more, everything that has been counted is in the file a minute later, and what has not
  been written is due. A crash loses the counts of the last minute, and an orderly stop or a reload
  loses none.
* **The writes are fifty seconds apart** (`saves_spaced`), however much is counted. The interval in
  the source is sixty seconds, but it is reckoned from ten seconds before a write is due to the
  time at which the next one is due.

A write that is later than that is the reason why `_schedule_save` looks at the time although a save
is pending: it is asked for again then.
-/

namespace MeltemVentilation

open Transition

/-- `SAVE_DELAY_SECONDS`. -/
def saveDelaySeconds : ℕ := 10

/-- `SAVE_INTERVAL_SECONDS`. -/
def saveIntervalSeconds : ℕ := 60

/-- A call that is followed by `_schedule_save`: every one, unless a status is no issue. -/
def DiagnosticsCall.schedulesSave : DiagnosticsCall → Bool
  | .recordWriteIssue _ _ status => (writeIssueCategories.lookup status).isSome
  | _ => true

/-- An instance with its file. -/
structure SavedDiagnostics where
  counters : CumulativeDiagnostics
  lastSaveScheduledAt : Option Monotonic := none
  savePending : Bool := false
  /-- The counters that are in the file. -/
  file : CumulativeDiagnostics
  /-- When the delayed write of the store is due. -/
  due : Option Monotonic := none
  /-- `async_flush` waits for the store. -/
  flushing : Bool := false
  /-- Home Assistant has stopped. -/
  stopped : Bool := false
  now : Monotonic

/-- What happens to it. -/
inductive SaveEvent where
  | call (call : DiagnosticsCall)
  | wait (duration : Monotonic)
  /-- The store does the delayed write. -/
  | write
  | flush
  /-- The store has written, and `async_flush` goes on. -/
  | flushed
  /-- Home Assistant stops, and the store does its final write. -/
  | stop

namespace SavedDiagnostics

variable (s : SavedDiagnostics)

/-- `async_delay_save`. -/
def delaySave (delay : Monotonic) : SavedDiagnostics := { s with due := some (s.now + delay) }

/-- **`_schedule_save`.** -/
def scheduleSave : SavedDiagnostics :=
  if s.savePending = true ∧
      s.lastSaveScheduledAt.any (fun last => s.now < last + seconds saveIntervalSeconds) = true then
    s
  else
    let delay :=
      match s.lastSaveScheduledAt with
      | none => seconds saveDelaySeconds
      | some last => max (seconds saveDelaySeconds) (last + seconds saveIntervalSeconds - s.now)
    { s with
      lastSaveScheduledAt := some (s.now + delay - seconds saveDelaySeconds)
      savePending := true }.delaySave delay

/-- What `_stored_data` returns is written. -/
def save : SavedDiagnostics := { s with savePending := false, file := s.counters, due := none }

/-- One event. -/
def step (s : SavedDiagnostics) (event : SaveEvent) : Option SavedDiagnostics :=
  if s.stopped then none
  else
    match event with
    | .call call =>
      let counted := { s with counters := call.perform s.counters }
      some (if call.schedulesSave then counted.scheduleSave else counted)
    | .wait duration => some { s with now := s.now + duration }
    | .write => if s.due.any (· ≤ s.now) then some s.save else none
    | .flush => some { s.save with flushing := true }
    | .flushed =>
      if s.flushing then some { s with flushing := false, lastSaveScheduledAt := some s.now }
      else none
    | .stop => some { (if s.due.isSome then s.save else s) with stopped := true }

end SavedDiagnostics

/-- An instance that has been constructed from what the file has. -/
def NewlyLoaded (s : SavedDiagnostics) : Prop :=
  ∃ counters now, s = { counters := counters, file := counters, now := now }

/-- The record of a run. -/
structure SaveRecord where
  /-- Since when there is something to save. -/
  unsavedSince : Option Monotonic := none
  /-- When the delayed writes were due, the last one first. -/
  writes : List Monotonic := []

namespace SaveRecord

/-- What happens to it. -/
def update (s : SavedDiagnostics) : SaveEvent → SaveRecord → SaveRecord
  | .call call, record =>
    if call.schedulesSave then
      { record with unsavedSince := some (record.unsavedSince.getD s.now) }
    else record
  | .write, record => { unsavedSince := none, writes := s.due.toList ++ record.writes }
  | .flush, record => { record with unsavedSince := none }
  | .stop, record => if s.due.isSome then { record with unsavedSince := none } else record
  | _, record => record

end SaveRecord

/-- Nothing is counted while `async_flush` waits for the store, and no delayed write is late by more
than a slack. The integration does not see to the former: the client is shut down after the flush,
and a poll tick that is still running is cancelled after that. -/
def InTime (slack : Monotonic) (s : SavedDiagnostics × SaveRecord) : SaveEvent → Prop
  | .call _ => s.1.flushing = false
  | .wait duration => ∀ due ∈ s.1.due, s.1.now + duration ≤ due + slack
  | _ => True

instance InTime.decidable (slack : Monotonic) (s : SavedDiagnostics × SaveRecord) :
    ∀ event, Decidable (InTime slack s event)
  | .call _ => inferInstanceAs (Decidable (_ = _))
  | .wait duration =>
    inferInstanceAs (Decidable (∀ due ∈ s.1.due, s.1.now + duration ≤ due + slack))
  | .write | .flush | .flushed | .stop => isTrue trivial

/-! ### What is due -/

section Saves

variable {s t : SavedDiagnostics} {record : SaveRecord} {slack : Monotonic}

/-- A minute has six times ten seconds. -/
theorem seconds_save : seconds saveIntervalSeconds = 6 * seconds saveDelaySeconds := rfl

/-- **A write is due ten seconds after the time of the schedule**, and one is due exactly if a save
is pending. -/
structure SavedDiagnostics.Scheduled (s : SavedDiagnostics) : Prop where
  pending : s.savePending = s.due.isSome
  due : ∀ due ∈ s.due, ∃ last, s.lastSaveScheduledAt = some last ∧
    due = last + seconds saveDelaySeconds
  /-- The time of the last schedule is over when nothing is due any more. -/
  last : s.due = none → s.flushing = false → s.stopped = false →
    ∀ last ∈ s.lastSaveScheduledAt, last ≤ s.now
  flushing : s.flushing = true → s.due = none

/-- A call that changes the counters is one that schedules a save. -/
theorem DiagnosticsCall.perform_of_not_schedulesSave {call : DiagnosticsCall}
    (h : call.schedulesSave = false) (counters : CumulativeDiagnostics) :
    call.perform counters = counters := by
  cases call with
  | recordWriteIssue roomKey writeKey status =>
    have hnone : writeIssueCategories.lookup status = none :=
      Option.isNone_iff_eq_none.mp (by simpa [schedulesSave] using h)
    simp only [perform, CumulativeDiagnostics.recordWriteIssue, hnone]
  | _ => cases h

/-- **What `_schedule_save` does**: nothing if a save is pending that is not late; else a write is
due after ten seconds, or a minute after the last schedule if that is later. -/
theorem SavedDiagnostics.Scheduled.scheduleSave (h : s.Scheduled) (hflushing : s.flushing = false)
    (hstopped : s.stopped = false) :
    (s.scheduleSave = s ∧ ∃ due, s.due = some due ∧ s.now + seconds saveDelaySeconds <
        due + seconds saveIntervalSeconds) ∨
      ∃ delay, s.scheduleSave = { s with
          lastSaveScheduledAt := some (s.now + delay - seconds saveDelaySeconds)
          savePending := true
          due := some (s.now + delay) } ∧
        seconds saveDelaySeconds ≤ delay ∧ delay ≤ seconds saveIntervalSeconds ∧
        (∀ last ∈ s.lastSaveScheduledAt, last + seconds saveIntervalSeconds ≤ s.now + delay) ∧
        ∀ due ∈ s.due, due + seconds saveIntervalSeconds ≤ s.now + seconds saveDelaySeconds := by
  have hminute := seconds_save
  unfold SavedDiagnostics.scheduleSave
  split
  · rename_i hwait
    obtain ⟨hpending, hrecent⟩ := hwait
    obtain ⟨due, hdue⟩ := Option.isSome_iff_exists.mp (h.pending ▸ hpending)
    obtain ⟨last, hlast, rfl⟩ := h.due due hdue
    rw [hlast, Option.any_some, decide_eq_true_eq] at hrecent
    exact .inl ⟨rfl, _, hdue, by lia⟩
  · rename_i hwait
    refine .inr ⟨_, rfl, ?_⟩
    cases hlast : s.lastSaveScheduledAt with
    | none =>
      refine ⟨le_rfl, by dsimp only; lia, ?_, fun due hdue => ?_⟩
      · rintro last ⟨⟩
      · obtain ⟨last, hlast', -⟩ := h.due due hdue
        rw [hlast] at hlast'
        cases hlast'
    | some last =>
      have hlate : ∀ due, s.due = some due → last + seconds saveIntervalSeconds ≤ s.now := by
        intro due hdue
        by_contra hearly
        refine hwait ⟨by rw [h.pending, hdue]; rfl, ?_⟩
        rw [hlast, Option.any_some]
        exact decide_eq_true (not_le.mp hearly)
      have hover : last ≤ s.now := by
        cases hdue : s.due with
        | none => exact h.last hdue hflushing hstopped last hlast
        | some due =>
          have := hlate due hdue
          lia
      dsimp only
      refine ⟨le_max_left _ _, max_le (by lia) (Nat.sub_le_iff_le_add.mpr (by lia)), ?_,
        fun due hdue => ?_⟩
      · rintro _ ⟨⟩
        exact Nat.sub_le_iff_le_add'.mp (le_max_right _ _)
      · obtain ⟨last', hlast', rfl⟩ := h.due due hdue
        obtain rfl := Option.some.inj (hlast.symm.trans hlast')
        have := hlate _ hdue
        lia

/-- **What a step does**: a call changes nothing, is counted while a write is due, or has one
scheduled. -/
inductive SaveStep (s : SavedDiagnostics) : SaveEvent → SavedDiagnostics → Prop where
  | ignored {call : DiagnosticsCall} (hcall : call.schedulesSave = false) :
    SaveStep s (.call call) s
  | counted {call : DiagnosticsCall} {due : Monotonic} (hcall : call.schedulesSave = true)
    (hdue : s.due = some due)
    (hrecent : s.now + seconds saveDelaySeconds < due + seconds saveIntervalSeconds) :
    SaveStep s (.call call) { s with counters := call.perform s.counters }
  | scheduled {call : DiagnosticsCall} {delay : Monotonic} (hcall : call.schedulesSave = true)
    (hten : seconds saveDelaySeconds ≤ delay) (hminute : delay ≤ seconds saveIntervalSeconds)
    (hlast : ∀ last ∈ s.lastSaveScheduledAt, last + seconds saveIntervalSeconds ≤ s.now + delay)
    (hlate : ∀ due ∈ s.due, due + seconds saveIntervalSeconds ≤ s.now + seconds saveDelaySeconds) :
    SaveStep s (.call call) { s with
      counters := call.perform s.counters
      lastSaveScheduledAt := some (s.now + delay - seconds saveDelaySeconds)
      savePending := true
      due := some (s.now + delay) }
  | waited (duration : Monotonic) : SaveStep s (.wait duration) { s with now := s.now + duration }
  | written {due : Monotonic} (hdue : s.due = some due) (hover : due ≤ s.now) :
    SaveStep s .write s.save
  | flush : SaveStep s .flush { s.save with flushing := true }
  | flushed (hflushing : s.flushing = true) :
    SaveStep s .flushed { s with flushing := false, lastSaveScheduledAt := some s.now }
  | stopped (hdue : s.due = none) : SaveStep s .stop { s with stopped := true }
  | stoppedSaving {due : Monotonic} (hdue : s.due = some due) :
    SaveStep s .stop { s.save with stopped := true }

/-- A step is one of these, and Home Assistant has not stopped. -/
theorem SavedDiagnostics.Scheduled.saveStep (h : s.Scheduled) {event : SaveEvent}
    (hok : InTime slack (s, record) event) (hstep : s.step event = some t) :
    SaveStep s event t ∧ s.stopped = false := by
  unfold SavedDiagnostics.step at hstep
  split at hstep
  · cases hstep
  rename_i hrunning
  have hstopped : s.stopped = false := by simpa using hrunning
  refine ⟨?_, hstopped⟩
  cases event with
  | call call =>
    obtain rfl := Option.some.inj hstep
    cases hcall : call.schedulesSave with
    | false =>
      rw [call.perform_of_not_schedulesSave hcall]
      exact .ignored hcall
    | true =>
      have hcounted : SavedDiagnostics.Scheduled { s with counters := call.perform s.counters } :=
        ⟨h.pending, h.due, h.last, h.flushing⟩
      rw [if_pos rfl]
      obtain ⟨heq, due, hdue, hrecent⟩ | ⟨delay, heq, hten, hminute, hlast, hlate⟩ :=
        hcounted.scheduleSave hok hstopped
      · rw [heq]
        exact .counted hcall hdue hrecent
      · rw [heq]
        exact .scheduled hcall hten hminute hlast hlate
  | wait duration =>
    obtain rfl := Option.some.inj hstep
    exact .waited duration
  | write =>
    dsimp only at hstep
    split at hstep
    · rename_i hover
      obtain ⟨due, hdue, hover⟩ := (Option.any_eq_true _ _).mp hover
      obtain rfl := Option.some.inj hstep
      exact .written hdue (of_decide_eq_true hover)
    · cases hstep
  | flush =>
    obtain rfl := Option.some.inj hstep
    exact .flush
  | flushed =>
    dsimp only at hstep
    split at hstep
    · rename_i hflushing
      obtain rfl := Option.some.inj hstep
      exact .flushed hflushing
    · cases hstep
  | stop =>
    obtain rfl := Option.some.inj hstep
    cases hdue : s.due with
    | none => exact .stopped hdue
    | some due => exact .stoppedSaving hdue

/-- **The schedule is kept.** -/
theorem SavedDiagnostics.Scheduled.step (h : s.Scheduled) {event : SaveEvent}
    (hstep : SaveStep s event t) (hok : InTime slack (s, record) event) : t.Scheduled := by
  cases hstep with
  | ignored => exact h
  | counted => exact ⟨h.pending, h.due, h.last, h.flushing⟩
  | scheduled hcall hten hminute hlast hlate =>
    refine ⟨rfl, ?_, fun hnone => (by cases hnone), fun hflushing => ?_⟩
    · rintro _ ⟨⟩
      exact ⟨_, rfl, by lia⟩
    · exact absurd (hok.symm.trans hflushing) Bool.false_ne_true
  | waited duration =>
    exact ⟨h.pending, h.due, fun hnone hflushing hstopped last hlast =>
      (h.last hnone hflushing hstopped last hlast).trans (Nat.le_add_right _ _), h.flushing⟩
  | written hdue hover =>
    refine ⟨rfl, fun _ hnone => (by cases hnone), fun _ _ _ last hlast => ?_, fun _ => rfl⟩
    obtain ⟨last', hlast', rfl⟩ := h.due _ hdue
    obtain rfl := Option.some.inj (hlast'.symm.trans hlast)
    exact (Nat.le_add_right _ _).trans hover
  | flush => exact ⟨rfl, fun _ hnone => (by cases hnone), fun _ hflushing => (by cases hflushing),
      fun _ => rfl⟩
  | flushed hflushing =>
    have hnone := h.flushing hflushing
    refine ⟨h.pending, fun due hdue => ?_, fun _ _ _ last hlast => ?_, fun _ => hnone⟩
    · rw [show s.due = none from hnone] at hdue
      cases hdue
    · obtain rfl := Option.some.inj hlast
      exact le_rfl
  | stopped => exact ⟨h.pending, h.due, fun _ _ hstopped => (by cases hstopped), h.flushing⟩
  | stoppedSaving => exact ⟨rfl, fun _ hnone => (by cases hnone),
      fun _ _ hstopped => (by cases hstopped), fun _ => rfl⟩

/-! ### What is in the file -/

/-- **The file follows**: it has what the instance has, or there is something to save and a write is
due within a minute of the first of it. -/
structure FileFollows (slack : Monotonic) (s : SavedDiagnostics) (record : SaveRecord) : Prop where
  scheduled : s.Scheduled
  saved : record.unsavedSince = none → s.file = s.counters ∧ s.due = none
  unsaved : ∀ since ∈ record.unsavedSince, ∃ due, s.due = some due ∧ since ≤ s.now ∧
    due ≤ since + seconds saveIntervalSeconds
  inTime : ∀ due ∈ s.due, s.now ≤ due + slack

/-- **A step**, while no write is late by fifty seconds: a write that is due is not put off. -/
theorem FileFollows.step (hslack : slack + seconds saveDelaySeconds < seconds saveIntervalSeconds)
    (h : FileFollows slack s record) {event : SaveEvent}
    (hok : InTime slack (s, record) event) (hstep : s.step event = some t) :
    FileFollows slack t (record.update s event) := by
  obtain ⟨hdone, -⟩ := h.scheduled.saveStep hok hstep
  have hscheduled := h.scheduled.step hdone hok
  cases hdone with
  | ignored hcall =>
    rw [SaveRecord.update, hcall]
    exact h
  | @counted call due hcall hdue hrecent =>
    rw [SaveRecord.update, hcall, if_pos rfl]
    refine ⟨hscheduled, fun hnone => (by cases hnone), ?_, h.inTime⟩
    rintro _ ⟨⟩
    cases hsince : record.unsavedSince with
    | none => exact absurd ((h.saved hsince).2.symm.trans hdue) (by simp)
    | some since => exact h.unsaved since hsince
  | @scheduled call delay hcall hten hminute hlast hlate =>
    rw [SaveRecord.update, hcall, if_pos rfl]
    refine ⟨hscheduled, fun hnone => (by cases hnone), ?_, ?_⟩
    · rintro _ ⟨⟩
      cases hsince : record.unsavedSince with
      | none => exact ⟨_, rfl, le_rfl, Nat.add_le_add_left hminute _⟩
      | some since =>
        -- A write would be late, which it is not.
        obtain ⟨due, hdue, -⟩ := h.unsaved since hsince
        have hover := hlate due hdue
        have hearly := h.inTime due hdue
        lia
    · rintro _ ⟨⟩
      dsimp only
      lia
  | waited duration =>
    refine ⟨hscheduled, h.saved, fun since hsince => ?_, hok⟩
    obtain ⟨due, hdue, hbefore, hminute⟩ := h.unsaved since hsince
    exact ⟨due, hdue, hbefore.trans (Nat.le_add_right _ _), hminute⟩
  | written =>
    exact ⟨hscheduled, fun _ => ⟨rfl, rfl⟩, fun _ hnone => (by cases hnone),
      fun _ hnone => (by cases hnone)⟩
  | flush =>
    exact ⟨hscheduled, fun _ => ⟨rfl, rfl⟩, fun _ hnone => (by cases hnone),
      fun _ hnone => (by cases hnone)⟩
  | flushed => exact ⟨hscheduled, h.saved, h.unsaved, h.inTime⟩
  | stopped hdue =>
    have hrecord : record.update s .stop = record := by
      rw [SaveRecord.update, hdue]
      rfl
    rw [hrecord]
    exact ⟨hscheduled, h.saved, h.unsaved, h.inTime⟩
  | stoppedSaving hdue =>
    rw [SaveRecord.update, hdue]
    exact ⟨hscheduled, fun _ => ⟨rfl, rfl⟩, fun _ hnone => (by cases hnone),
      fun _ hnone => (by cases hnone)⟩

/-- The runs of an instance in which no write is late by more than a slack. -/
abbrev SavesReach (slack : Monotonic) (s : SavedDiagnostics × SaveRecord) : Prop :=
  Reach (recorded SavedDiagnostics.step SaveRecord.update) (InTime slack)
    (fun s => NewlyLoaded s.1 ∧ s.2 = {}) s

theorem NewlyLoaded.scheduled (h : NewlyLoaded s) : s.Scheduled := by
  obtain ⟨counters, now, rfl⟩ := h
  exact ⟨rfl, fun _ hnone => (by cases hnone), fun _ _ _ _ hnone => (by cases hnone),
    fun hflushing => (by cases hflushing)⟩

/-- **Nothing waits longer than a minute.** In every run in which no write is late by fifty seconds
and nothing is counted during a flush, the file has what has been counted, or a write is due; what
has not been written yet has been counted in the last minute, and the time by which a write is
late. -/
theorem diagnostics_saved {s : SavedDiagnostics × SaveRecord}
    (hslack : slack + seconds saveDelaySeconds < seconds saveIntervalSeconds)
    (h : SavesReach slack s) :
    (s.2.unsavedSince = none → s.1.file = s.1.counters) ∧
      ∀ since ∈ s.2.unsavedSince, ∃ due, s.1.due = some due ∧
        due ≤ since + seconds saveIntervalSeconds ∧
        s.1.now ≤ since + seconds saveIntervalSeconds + slack := by
  have hfollows : FileFollows slack s.1 s.2 := by
    refine h.invariant (P := fun s => FileFollows slack s.1 s.2) ?_ fun s event t hs hok hstep => ?_
    · rintro ⟨s, record⟩ ⟨hs, rfl⟩
      have hscheduled := hs.scheduled
      obtain ⟨counters, now, rfl⟩ := hs
      exact ⟨hscheduled, fun _ => ⟨rfl, rfl⟩, fun _ hnone => (by cases hnone),
        fun _ hnone => (by cases hnone)⟩
    · obtain ⟨hstep, hrecord⟩ := recorded_eq_some.mp hstep
      rw [hrecord]
      exact hs.step hslack hok hstep
  refine ⟨fun hnone => (hfollows.saved hnone).1, fun since hsince => ?_⟩
  obtain ⟨due, hdue, -, hminute⟩ := hfollows.unsaved since hsince
  have hearly := hfollows.inTime due hdue
  exact ⟨due, hdue, hminute, by lia⟩

/-- An instance that has been constructed without a file. -/
def firstInstance : SavedDiagnostics :=
  { counters := ⟨"2026-01-01T00:00:00+00:00", 0, fun _ => 0, 0, [], []⟩
    file := ⟨"2026-01-01T00:00:00+00:00", 0, fun _ => 0, 0, [], []⟩
    now := 0 }

/-- A request has been counted. -/
theorem diagnostics_saved_request : ∃ s : SavedDiagnostics × SaveRecord,
    s.1.counters.requestAttempts = 1 ∧ s.1.file.requestAttempts = 0 ∧
      ∃ due, s.1.due = some due ∧ due ≤ seconds saveIntervalSeconds := by
  have hreach : SavesReach 0 _ :=
    .next (.start (s := (firstInstance, {})) ⟨⟨_, _, rfl⟩, rfl⟩)
      (l := .call (.recordRequest .success)) rfl rfl
  obtain ⟨due, hdue, hminute, -⟩ := (diagnostics_saved (by decide) hreach).2 0 rfl
  exact ⟨_, rfl, rfl, due, hdue, by simpa using hminute⟩

/-- What is counted during a flush may wait longer: the time of the last schedule is still ahead. -/
example :
    (run SavedDiagnostics.step
      [.call (.recordRequest .success), .wait (seconds 10), .write,
        .call (.recordRequest .success), .wait (seconds 1), .flush,
        .call (.recordRequest .success)] firstInstance).map (fun s => (s.now, s.due)) =
      some (seconds 11, some (seconds 110)) := by
  decide +kernel

/-! ### How often the file is written -/

/-- Each of the times, the last one first, is fifty seconds after the one before. -/
abbrev FiftySecondsApart (times : List Monotonic) : Prop :=
  times.Pairwise fun later earlier =>
    earlier + seconds saveIntervalSeconds ≤ later + seconds saveDelaySeconds

/-- **The writes are apart**, and no schedule is earlier than a write. -/
structure WritesApart (s : SavedDiagnostics) (writes : List Monotonic) : Prop where
  scheduled : s.Scheduled
  apart : FiftySecondsApart (s.due.toList ++ writes)
  past : ∀ write ∈ writes, write ≤ s.now ∧ ∃ last, s.lastSaveScheduledAt = some last ∧
    write ≤ last + seconds saveDelaySeconds

/-- **A step**: what is scheduled is fifty seconds after what has been written. -/
theorem WritesApart.step (h : WritesApart s record.writes) {event : SaveEvent}
    (hok : InTime slack (s, record) event) (hstep : s.step event = some t) :
    WritesApart t (record.update s event).writes := by
  have hminute := seconds_save
  obtain ⟨hdone, -⟩ := h.scheduled.saveStep hok hstep
  have hscheduled := h.scheduled.step hdone hok
  have hwritten : FiftySecondsApart record.writes := (List.pairwise_append.mp h.apart).2.1
  cases hdone with
  | ignored hcall =>
    rw [SaveRecord.update, hcall]
    exact h
  | counted hcall =>
    rw [SaveRecord.update, hcall]
    exact ⟨hscheduled, h.apart, h.past⟩
  | @scheduled call delay hcall hten _ hlast hlate =>
    rw [SaveRecord.update, hcall]
    refine ⟨hscheduled, List.pairwise_cons.mpr ⟨fun write hwrite => ?_, hwritten⟩,
      fun write hwrite => ?_⟩
    · obtain ⟨-, last, hlast', hbefore⟩ := h.past write hwrite
      have hafter := hlast last hlast'
      lia
    · obtain ⟨hover, -⟩ := h.past write hwrite
      exact ⟨hover, _, rfl, by lia⟩
  | waited duration =>
    refine ⟨hscheduled, h.apart, fun write hwrite => ?_⟩
    obtain ⟨hover, hlast⟩ := h.past write hwrite
    exact ⟨hover.trans (Nat.le_add_right _ _), hlast⟩
  | @written due hdue hover =>
    obtain ⟨last, hlast, hlastdue⟩ := h.scheduled.due due hdue
    refine ⟨hscheduled, h.apart, ?_⟩
    intro write hwrite
    rw [SaveRecord.update, hdue, Option.toList_some, List.singleton_append,
      List.mem_cons] at hwrite
    rcases hwrite with rfl | hwrite
    · exact ⟨hover, last, hlast, hlastdue.le⟩
    · exact h.past write hwrite
  | flush => exact ⟨hscheduled, hwritten, h.past⟩
  | flushed hflushing =>
    refine ⟨hscheduled, h.apart, fun write hwrite => ?_⟩
    obtain ⟨hover, -⟩ := h.past write hwrite
    exact ⟨hover, _, rfl, hover.trans (Nat.le_add_right _ _)⟩
  | stopped hdue =>
    have hrecord : record.update s .stop = record := by
      rw [SaveRecord.update, hdue]
      rfl
    rw [hrecord]
    exact ⟨hscheduled, h.apart, h.past⟩
  | stoppedSaving hdue =>
    rw [SaveRecord.update, hdue]
    exact ⟨hscheduled, hwritten, h.past⟩

/-- **The writes are fifty seconds apart**, those that have been done and the one that is due,
however much is counted, unless during a flush, and however late they are. -/
theorem saves_spaced {s : SavedDiagnostics × SaveRecord} (h : SavesReach slack s) :
    FiftySecondsApart (s.1.due.toList ++ s.2.writes) := by
  have hapart : WritesApart s.1 s.2.writes := by
    refine h.invariant (P := fun s => WritesApart s.1 s.2.writes) ?_
      fun s event t hs hok hstep => ?_
    · rintro ⟨s, record⟩ ⟨hs, rfl⟩
      have hscheduled := hs.scheduled
      obtain ⟨counters, now, rfl⟩ := hs
      exact ⟨hscheduled, .nil, fun _ hnone => (by cases hnone)⟩
    · obtain ⟨hstep, hrecord⟩ := recorded_eq_some.mp hstep
      rw [hrecord]
      exact hs.step hok hstep
  exact hapart.apart

/-- A request has been counted before and after a write. -/
theorem saves_spaced_request : ∃ s : SavedDiagnostics × SaveRecord,
    s.2.writes = [seconds 10] ∧ s.1.due = some (seconds 60) ∧
      FiftySecondsApart (s.1.due.toList ++ s.2.writes) := by
  have hstart : SavesReach 0 (firstInstance, {}) := .start ⟨⟨_, _, rfl⟩, rfl⟩
  obtain ⟨s, -, hreach, hs⟩ := hstart.exists_of_run
    [SaveEvent.call (.recordRequest .success), .wait (seconds 10), .write,
      .call (.recordRequest .success)]
    (fun s : SavedDiagnostics × SaveRecord =>
      decide (s.2.writes = [seconds 10] ∧ s.1.due = some (seconds 60)))
    (by decide +kernel) (by decide +kernel)
  obtain ⟨hwrites, hdue⟩ := of_decide_eq_true hs
  exact ⟨s, hwrites, hdue, saves_spaced hreach⟩

end Saves

end MeltemVentilation
