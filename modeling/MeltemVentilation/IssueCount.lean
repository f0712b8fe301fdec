import MeltemVentilation.WriteConfirmation

/-!
# Each problematic write is counted once

The diagnostics count the writes whose outcome is not what was asked for, and
`WriteConfirmations` reports each of them through `on_issue`. Three of its methods may do so:
a status that is set directly, a readback that is judged, and a write that stays pending for
too long, which has no status of its own but is reported as unconfirmed from then on. A write
may meet all three one after the other, and is still one write: the flag `issue_counted` of
its record is what the methods share.

The flag is the invariant (`Counted`): it is set exactly if the issue of the write has been
reported, and it is set if the status is a problematic one. Every call but another
`record_pending` keeps this, whatever states and times it is given. A time-out is noticed by
`confirm` alone. So a status that is set to “pending”, which nothing in the integration does,
leaves a write that has timed out reported as unconfirmed and not counted
(`countedOnce_refuted`); with every other status, `countedOnce` is the whole promise.
-/

namespace MeltemVentilation

/-! ### The calls -/

/-- `WriteConfirmations.by_room`: the outcomes of each unit, by its key. -/
abbrev ConfirmationsByRoom := String → WriteConfirmations

/-- A call of a method that changes the outcomes. -/
inductive ConfirmationCall where
  | recordPending (roomKey : String) (wall : WallTime) (writeKey : WriteKey)
      (expectedValue : WriteValue) (baseline : ReadHealth)
  | supersede (roomKey : String) (writeKey : WriteKey)
  | setStatus (roomKey : String) (writeKey : WriteKey) (status : WriteStatus)
      (error : Option String) (actualValue : Option WriteValue)
  | markUnconfirmed (roomKey : String) (writeKey : WriteKey) (error : String)
  | confirm (wall : WallTime) (states : String → Option RoomState)

namespace ConfirmationCall

/-- One call. All but `confirm` are about one unit. -/
def perform (byRoom : ConfirmationsByRoom) : ConfirmationCall → ConfirmationsByRoom
  | .recordPending roomKey wall writeKey expectedValue baseline =>
    Function.update byRoom roomKey
      ((byRoom roomKey).recordPending wall writeKey expectedValue baseline)
  | .supersede roomKey writeKey =>
    Function.update byRoom roomKey ((byRoom roomKey).supersede writeKey)
  | .setStatus roomKey writeKey status error actualValue =>
    Function.update byRoom roomKey
      ((byRoom roomKey).setStatus writeKey status error actualValue)
  | .markUnconfirmed roomKey writeKey error =>
    Function.update byRoom roomKey ((byRoom roomKey).markUnconfirmed writeKey error)
  | .confirm wall states => fun roomKey =>
    match states roomKey with
    | none => byRoom roomKey
    | some state => (byRoom roomKey).confirm wall state

/-- Calls one after the other. -/
def performAll (byRoom : ConfirmationsByRoom) (calls : List ConfirmationCall) :
    ConfirmationsByRoom :=
  calls.foldl perform byRoom

/-- The call records a new write of a unit under a key. -/
def Records (roomKey : String) (writeKey : WriteKey) : ConfirmationCall → Prop
  | .recordPending roomKey' _ writeKey' _ _ => roomKey' = roomKey ∧ writeKey' = writeKey
  | _ => False

/-- The call, at a time, has to count the write of a unit under a key if that is reported as
problematic afterwards: it sets its status, to any but “pending”, or judges the writes of the
unit. -/
def Judges (roomKey : String) (writeKey : WriteKey) (wall : WallTime) : ConfirmationCall → Prop
  | .setStatus roomKey' writeKey' status _ _ =>
    roomKey' = roomKey ∧ writeKey' = writeKey ∧ status ≠ .pending
  | .confirm wall' states => wall' = wall ∧ (states roomKey).isSome
  | _ => False

end ConfirmationCall

/-- `confirmation_status` reports the write under a key as failed, mismatched or
unconfirmed. -/
def WriteConfirmations.Problematic (confirmations : WriteConfirmations) (wall : WallTime)
    (writeKey : WriteKey) : Prop :=
  ∃ confirmation, confirmations.byKey writeKey = some confirmation ∧
    (confirmationStatus wall confirmation).unhealthy = true

/-! ### The invariant -/

/-- **The flag of a write says whether it has been counted**, after so many issues under its
key before it; and a problematic status comes with the flag. -/
structure Counted (before : ℕ) (writeKey : WriteKey) (confirmations : WriteConfirmations)
    (confirmation : WriteConfirmation) : Prop where
  recorded : confirmations.byKey writeKey = some confirmation
  issues : (confirmations.issues writeKey).length = before + confirmation.issueCounted.toNat
  flagged : confirmation.status.unhealthy = true → confirmation.issueCounted = true

section Steps

variable {before : ℕ} {writeKey key : WriteKey} {confirmations : WriteConfirmations}
  {confirmation : WriteConfirmation} {wall : WallTime} {state : RoomState} {status : WriteStatus}
  {error : Option String} {actualValue : Option WriteValue}

namespace WriteConfirmations

/-- A new write starts without its issue. -/
theorem counted_recordPending (confirmations : WriteConfirmations) (wall : WallTime)
    (writeKey : WriteKey) (expectedValue : WriteValue) (baseline : ReadHealth) :
    Counted ((confirmations.recordPending wall writeKey expectedValue baseline).issues
        writeKey).length writeKey (confirmations.recordPending wall writeKey expectedValue baseline)
      { expectedValue := expectedValue, startedAt := wall, baseline := baseline } where
  recorded := recordPending_self
  issues := rfl
  flagged h := by cases h

/-- A write under another key does not matter. -/
theorem counted_recordPending_of_ne {expectedValue : WriteValue} {baseline : ReadHealth}
    (h : Counted before writeKey confirmations confirmation) (hne : key ≠ writeKey) :
    Counted before writeKey (confirmations.recordPending wall key expectedValue baseline)
      confirmation where
  recorded := (recordPending_of_ne hne.symm).trans h.recorded
  issues := h.issues
  flagged := h.flagged

/-- A write that is superseded keeps its flag, and is no longer problematic. -/
theorem counted_supersede (h : Counted before writeKey confirmations confirmation) :
    ∃ confirmation', Counted before writeKey (confirmations.supersede key) confirmation' := by
  by_cases hkey : writeKey ∈ confirmations.superseded key
  · refine ⟨{ confirmation with status := .superseded }, ?_, h.issues, by rintro ⟨⟩⟩
    simp only [supersede, if_pos hkey, h.recorded, Option.map_some]
  · exact ⟨confirmation, by simp only [supersede, if_neg hkey, h.recorded], h.issues, h.flagged⟩

/-- **A status that is set** is counted if it is the first problematic one. -/
theorem counted_setStatus (h : Counted before writeKey confirmations confirmation) :
    Counted before writeKey (confirmations.setStatus writeKey status error actualValue)
      { confirmation with
        status := status, actualValue := actualValue, lastError := error
        issueCounted := confirmation.issueCounted || status.unhealthy } := by
  have hissues := h.issues
  refine ⟨setStatus_self h.recorded, ?_, fun hunhealthy => by simp [hunhealthy]⟩
  simp only [setStatus, h.recorded]
  cases hcounted : confirmation.issueCounted with
  | true => simpa [hcounted] using hissues
  | false =>
    cases hunhealthy : status.unhealthy with
    | true => simpa [hcounted, Function.update_self] using hissues
    | false => simpa [hcounted] using hissues

/-- The status of another key does not matter. -/
theorem counted_setStatus_of_ne (h : Counted before writeKey confirmations confirmation)
    (hne : key ≠ writeKey) :
    Counted before writeKey (confirmations.setStatus key status error actualValue)
      confirmation := by
  refine ⟨(setStatus_of_ne hne.symm).trans h.recorded, ?_, h.flagged⟩
  rw [← h.issues]
  unfold setStatus
  split
  · rfl
  · dsimp only
    split
    · rw [Function.update_of_ne hne.symm]
    · rfl

theorem exists_counted_setStatus (h : Counted before writeKey confirmations confirmation) :
    ∃ confirmation', Counted before writeKey
      (confirmations.setStatus key status error actualValue) confirmation' := by
  by_cases hkey : key = writeKey
  · subst hkey
    exact ⟨_, counted_setStatus h⟩
  · exact ⟨_, counted_setStatus_of_ne h hkey⟩

theorem exists_counted_markUnconfirmed {text : String}
    (h : Counted before writeKey confirmations confirmation) :
    ∃ confirmation', Counted before writeKey (confirmations.markUnconfirmed key text)
      confirmation' := by
  unfold markUnconfirmed
  split
  · exact exists_counted_setStatus h
  · exact ⟨_, h⟩

/-- **One round of `confirm`** counts a write that it finds problematic, if it has not been
counted. A judged write is no longer pending, so that its status is the one reported. -/
theorem confirmOne_counted (wall : WallTime) (state : RoomState) (writeKey : WriteKey)
    (hflagged : confirmation.status.unhealthy = true → confirmation.issueCounted = true) :
    confirmation.issueCounted.toNat +
        (confirmOne wall state writeKey confirmation).2.toList.length =
      (confirmOne wall state writeKey confirmation).1.issueCounted.toNat ∧
    ((confirmationStatus wall (confirmOne wall state writeKey confirmation).1).unhealthy = true →
      (confirmOne wall state writeKey confirmation).1.issueCounted = true) := by
  -- An issue is fired when the mark is set: by a bad verdict, or by the timeout of a pending one.
  cases hchecked : checkedConfirmation state writeKey confirmation with
  | some checked =>
    have hcases := checkedConfirmation_cases hchecked
    have hcounted : checked.issueCounted = confirmation.issueCounted := hcases.2.2.2.2.2.2.1
    have hnotPending : checked.status ≠ .pending := by
      rcases hcases.2.2.2.2.2.2.2 with ⟨hstatus, -⟩ | ⟨-, ⟨hstatus, -⟩ | ⟨-, _, -, hstatus⟩⟩
      · simp [hstatus]
      · simp [hstatus]
      · rw [hstatus]
        split <;> simp
    cases hunhealthy : checked.status.unhealthy with
    | false => simp [confirmOne, hchecked, hunhealthy, hcounted, confirmationStatus, hnotPending]
    | true =>
      cases hbefore : confirmation.issueCounted with
      | false => simp [confirmOne, hchecked, hunhealthy, hbefore]
      | true => simp [confirmOne, hchecked, hunhealthy, hbefore, hcounted]
  | none =>
    by_cases hpending : confirmation.status = .pending
    · cases hbefore : confirmation.issueCounted with
      | true => simp [confirmOne, hchecked, hbefore]
      | false =>
        cases htimedOut : confirmation.timedOut wall with
        | true => simp [confirmOne, hchecked, hpending, hbefore, htimedOut]
        | false =>
          simp [confirmOne, hchecked, hpending, hbefore, htimedOut, confirmationStatus,
            WriteStatus.unhealthy]
    · simpa [confirmOne, hchecked, hpending, confirmationStatus] using hflagged

/-- The flag after a status is problematic whenever the reported one is. -/
theorem flagged_of_confirmationStatus {confirmation : WriteConfirmation}
    (h : (confirmationStatus wall confirmation).unhealthy = true →
      confirmation.issueCounted = true) :
    confirmation.status.unhealthy = true → confirmation.issueCounted = true := by
  intro hunhealthy
  refine h ?_
  by_cases hpending : confirmation.status = .pending
  · rw [hpending] at hunhealthy
    cases hunhealthy
  · simpa [confirmationStatus, hpending] using hunhealthy

theorem counted_confirm (h : Counted before writeKey confirmations confirmation) :
    Counted before writeKey (confirmations.confirm wall state)
      (confirmOne wall state writeKey confirmation).1 := by
  obtain ⟨hissues, hflagged⟩ := confirmOne_counted wall state writeKey h.flagged
  refine ⟨?_, ?_, flagged_of_confirmationStatus hflagged⟩
  · simp only [confirm, h.recorded, Option.map_some]
  · simp only [confirm, h.recorded, Option.bind_some, List.length_append]
    have hbefore := h.issues
    omega

end WriteConfirmations

end Steps

/-! ### Sequences of calls -/

section Calls

open ConfirmationCall

variable {before : ℕ} {roomKey : String} {writeKey : WriteKey} {byRoom : ConfirmationsByRoom}
  {confirmation : WriteConfirmation} {wall : WallTime} {call : ConfirmationCall}

/-- A call for one unit: the outcomes of another are unchanged. -/
theorem exists_counted_update {key : String} {after : WriteConfirmations}
    (h : Counted before writeKey (byRoom roomKey) confirmation)
    (hafter : key = roomKey → ∃ confirmation', Counted before writeKey after confirmation') :
    ∃ confirmation', Counted before writeKey (Function.update byRoom key after roomKey)
      confirmation' := by
  by_cases hkey : key = roomKey
  · subst hkey
    rw [Function.update_self]
    exact hafter rfl
  · rw [Function.update_of_ne (Ne.symm hkey)]
    exact ⟨confirmation, h⟩

/-- **One call** keeps the invariant, unless it records a new write. -/
theorem exists_counted_perform (h : Counted before writeKey (byRoom roomKey) confirmation)
    (hrecords : ¬ call.Records roomKey writeKey) :
    ∃ confirmation', Counted before writeKey (perform byRoom call roomKey) confirmation' := by
  cases call with
  | recordPending key wall writeKey' expectedValue baseline =>
    refine exists_counted_update h fun hkey => ⟨confirmation, ?_⟩
    rw [hkey]
    exact WriteConfirmations.counted_recordPending_of_ne h fun heq => hrecords ⟨hkey, heq⟩
  | supersede key writeKey' =>
    exact exists_counted_update h fun hkey => hkey ▸ WriteConfirmations.counted_supersede h
  | setStatus key writeKey' status error actualValue =>
    exact exists_counted_update h fun hkey =>
      hkey ▸ WriteConfirmations.exists_counted_setStatus h
  | markUnconfirmed key writeKey' error =>
    exact exists_counted_update h fun hkey =>
      hkey ▸ WriteConfirmations.exists_counted_markUnconfirmed h
  | confirm wall states =>
    dsimp only [perform]
    split
    · exact ⟨confirmation, h⟩
    · exact ⟨_, WriteConfirmations.counted_confirm h⟩

/-- **All calls** keep it that do not record a new write. -/
theorem exists_counted_performAll {calls : List ConfirmationCall}
    (h : Counted before writeKey (byRoom roomKey) confirmation)
    (hrecords : ∀ call ∈ calls, ¬ call.Records roomKey writeKey) :
    ∃ confirmation', Counted before writeKey (performAll byRoom calls roomKey)
      confirmation' := by
  induction calls generalizing byRoom confirmation with
  | nil => exact ⟨confirmation, h⟩
  | cons call calls ih =>
    obtain ⟨after, hafter⟩ := exists_counted_perform h (hrecords call List.mem_cons_self)
    exact ih hafter fun call' hcall' => hrecords call' (List.mem_cons_of_mem _ hcall')

/-- What is counted, if the call that has to count a problematic write comes last. -/
theorem issueCounted_of_judges (h : Counted before writeKey (byRoom roomKey) confirmation)
    (hjudges : call.Judges roomKey writeKey wall)
    (hproblematic : (perform byRoom call roomKey).Problematic wall writeKey) :
    ((perform byRoom call roomKey).issues writeKey).length = before + 1 := by
  obtain ⟨after, hafter, hunhealthy⟩ := hproblematic
  -- The record after the call is the one of the invariant, and it has the flag.
  obtain ⟨confirmation', hcounted, hflag⟩ : ∃ confirmation',
      Counted before writeKey (perform byRoom call roomKey) confirmation' ∧
        ((confirmationStatus wall confirmation').unhealthy = true →
          confirmation'.issueCounted = true) := by
    cases call with
    | recordPending key wall writeKey' expectedValue baseline => cases hjudges
    | supersede key writeKey' => cases hjudges
    | markUnconfirmed key writeKey' error => cases hjudges
    | setStatus key writeKey' status error actualValue =>
      obtain ⟨rfl, rfl, hstatus⟩ := hjudges
      refine ⟨_, by rw [perform, Function.update_self]; exact
        WriteConfirmations.counted_setStatus h, fun hreported => ?_⟩
      have hset : status.unhealthy = true := by simpa [confirmationStatus, hstatus] using hreported
      simp [hset]
    | confirm wall' states =>
      obtain ⟨rfl, hstate⟩ := hjudges
      obtain ⟨state, hstate⟩ := Option.isSome_iff_exists.mp hstate
      refine ⟨_, by simpa only [perform, hstate] using WriteConfirmations.counted_confirm h,
        (WriteConfirmations.confirmOne_counted wall' state writeKey h.flagged).2⟩
  obtain rfl : confirmation' = after := Option.some.inj (hcounted.recorded.symm.trans hafter)
  rw [hcounted.issues, hflag hunhealthy, Bool.toNat_true]

/-- **Each problematic write is counted once.** After a write has been recorded, and until the
next one is recorded under its key, at most one issue is reported for it; and one has been as
soon as a call that judges the write leaves it reported as problematic. -/
theorem countedOnce (earlier calls : List ConfirmationCall) (roomKey : String)
    (writeKey : WriteKey) (wall : WallTime) (expectedValue : WriteValue) (baseline : ReadHealth)
    (hrecords : ∀ call ∈ calls, ¬ call.Records roomKey writeKey) :
    let recorded := performAll (fun _ => {})
      (earlier ++ [.recordPending roomKey wall writeKey expectedValue baseline])
    let fired := fun byRoom : ConfirmationsByRoom =>
      ((byRoom roomKey).issues writeKey).length
    fired (performAll recorded calls) ≤ fired recorded + 1 ∧
    ∀ first call rest now, calls = first ++ call :: rest → call.Judges roomKey writeKey now →
      (performAll recorded (first ++ [call]) roomKey).Problematic now writeKey →
        fired (performAll recorded (first ++ [call])) = fired recorded + 1 := by
  intro recorded fired
  obtain ⟨confirmation, hstart⟩ : ∃ confirmation,
      Counted (fired recorded) writeKey (recorded roomKey) confirmation := by
    have hlast : recorded roomKey =
        (performAll (fun _ => {}) earlier roomKey).recordPending wall writeKey expectedValue
          baseline := by
      simp only [recorded, performAll, List.foldl_append, List.foldl_cons, List.foldl_nil,
        perform, Function.update_self]
    simp only [fired, hlast]
    exact ⟨_, WriteConfirmations.counted_recordPending _ wall writeKey expectedValue baseline⟩
  refine ⟨?_, ?_⟩
  · obtain ⟨after, hafter⟩ := exists_counted_performAll hstart hrecords
    calc fired (performAll recorded calls)
        = fired recorded + after.issueCounted.toNat := hafter.issues
      _ ≤ fired recorded + 1 := Nat.add_le_add_left (Bool.toNat_le _) _
  · rintro first call rest now rfl hjudges hproblematic
    obtain ⟨reached, hreached⟩ := exists_counted_performAll hstart fun call' hcall' =>
      hrecords call' (List.mem_append_left _ hcall')
    have hsplit : performAll recorded (first ++ [call]) =
        perform (performAll recorded first) call := by
      simp only [performAll, List.foldl_append, List.foldl_cons, List.foldl_nil]
    rw [hsplit] at hproblematic ⊢
    exact issueCounted_of_judges hreached hjudges hproblematic

end Calls

/-! ### A write that times out -/

section TimedOut

open ConfirmationCall

/-- A setting that is written. -/
def settingWritten : ConfirmationCall :=
  .recordPending "slave_2" 0 (.controlSetting .humidityStartingPoint) (.setting 70) {}

/-- A readback of the unit without a new read, more than 30 s later. -/
def lateConfirm : ConfirmationCall := .confirm (wallSeconds 31) fun _ => some {}

/-- A write that has timed out is counted by the next `confirm`, and once by two. -/
theorem countedOnce_timedOut :
    let recorded := performAll (fun _ => {}) [settingWritten]
    let fired := fun byRoom : ConfirmationsByRoom =>
      ((byRoom "slave_2").issues (.controlSetting .humidityStartingPoint)).length
    fired (performAll recorded [lateConfirm, lateConfirm]) ≤ fired recorded + 1 ∧
      fired (performAll recorded [lateConfirm]) = fired recorded + 1 := by
  intro recorded fired
  obtain ⟨honce, hcounts⟩ := countedOnce [] [lateConfirm, lateConfirm] "slave_2"
    (.controlSetting .humidityStartingPoint) 0 (.setting 70) {} (by
      intro call hcall
      simp only [List.mem_cons, List.not_mem_nil, or_false, or_self] at hcall
      subst hcall
      exact fun h => h)
  refine ⟨honce, hcounts [] lateConfirm [lateConfirm] (wallSeconds 31) rfl ⟨rfl, rfl⟩ ?_⟩
  exact ⟨_, rfl, by decide⟩

/-- **A status set to “pending” is not counted**, although the write has timed out and is
reported as unconfirmed. -/
theorem countedOnce_refuted :
    let reset : ConfirmationCall :=
      .setStatus "slave_2" (.controlSetting .humidityStartingPoint) .pending none none
    let after := performAll (fun _ => {}) [settingWritten, reset] "slave_2"
    after.Problematic (wallSeconds 31) (.controlSetting .humidityStartingPoint) ∧
      after.issues (.controlSetting .humidityStartingPoint) = [] :=
  ⟨⟨_, rfl, by decide⟩, rfl⟩

end TimedOut

end MeltemVentilation
