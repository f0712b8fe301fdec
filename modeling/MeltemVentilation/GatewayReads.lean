import MeltemVentilation.Const
import MeltemVentilation.Lib.Transition
import Mathlib.Data.Finset.Basic
import Mathlib.Data.Nat.Log

/-!
# Values that are read while somebody needs them

The class `OptionalGatewayRead` of `gateway_reads.py`: one value that is read from time to time
as long as it has a consumer. The read is a task of its own, which the last consumer cancels
when it goes. Between the end of the task and the resumption of `async_read_if_due`, which
awaits it, the event loop may run anything else, so that these are two steps here, and the
calls of `set_enabled` may fall between any two steps.

Taking the last consumer away cancels the task and, with `clear_on_disable`, forgets the
value. That is enough while the task runs, since a task that is cancelled ends without a value:
nothing that is read here catches the cancellation. But cancelling a task that is already done
does nothing, and the resumption stores its value although it has been told, by the generation
counter, that the consumer is gone (`disabledStaysCleared_refuted`). In runs where the last
consumer never goes at such a moment, no value is returned of a request that was started before
the last consumer went (`disabledStaysCleared`).
-/

namespace MeltemVentilation

open Transition

/-! ### The object -/

/-- What the constructor is given, apart from the request itself. -/
structure OptionalReadSettings where
  refreshSeconds : Monotonic
  staleSeconds : Monotonic
  retrySeconds : Monotonic
  firstReadDelay : Monotonic
  clearOnDisable : Bool
deriving Repr

namespace OptionalReadSettings

variable (settings : OptionalReadSettings)

/-- `_retry_seconds`. -/
def retry : Monotonic := min settings.retrySeconds settings.refreshSeconds

/-- `_max_failures`: doublings until a retry waits for the full refresh interval. -/
def maxFailures : ℕ :=
  1 + if 0 < settings.retry then
    Nat.clog 2 ((settings.refreshSeconds + settings.retry - 1) / settings.retry) else 0

/-- The delay after so many failures in a row. -/
def retryDelay (failures : ℕ) : Monotonic :=
  min settings.refreshSeconds (settings.retry * 2 ^ (failures - 1))

end OptionalReadSettings

/-- How far the task of a read is. -/
inductive TaskState (T : Type) where
  /-- It runs; its cancellation may have been requested. -/
  | running (cancelled : Bool)
  | returned (value : T)
  /-- It raised `MeltemModbusError`. -/
  | modbusError
  /-- It raised another error. -/
  | otherError
  | cancelled
deriving DecidableEq, Repr

/-- The await of such a task has a value. -/
def TaskState.hasValue {T : Type} : TaskState T → Bool
  | .returned _ => true
  | _ => false

/-- A read that `async_read_if_due` awaits. -/
structure AwaitedRead (T : Type) where
  state : TaskState T
  /-- `generation`. -/
  generation : ℕ
  /-- The task that awaits it has been cancelled when the read was over already. -/
  interrupted : Bool := false
deriving DecidableEq, Repr

/-- `OptionalGatewayRead`. -/
structure OptionalGatewayRead (T : Type) where
  consumers : Finset String := ∅
  nextDue : Monotonic := 0
  /-- `_value`. -/
  lastValue : Option T := none
  readAt : Option Monotonic := none
  /-- `_task`, with what `async_read_if_due` knows of it. -/
  task : Option (AwaitedRead T) := none
  disableGeneration : ℕ := 0
  failures : ℕ := 0
deriving DecidableEq

/-- `task.cancel()`: nothing happens to a task that is done. -/
def AwaitedRead.cancel {T : Type} (read : AwaitedRead T) : AwaitedRead T :=
  match read.state with
  | .running _ => { read with state := .running true }
  | _ => read

/-- The await raises the cancellation of the task that awaits, in place of what the read has
returned. -/
def AwaitedRead.outcome {T : Type} (read : AwaitedRead T) : TaskState T :=
  if read.interrupted then .cancelled else read.state

namespace OptionalGatewayRead

variable {T : Type} (settings : OptionalReadSettings) (s : OptionalGatewayRead T)

/-- `enabled`. -/
def enabled : Bool := s.consumers ≠ ∅

/-- `value`: the last value while its observation is recent. -/
def value (now : Monotonic) : Option T :=
  match s.readAt with
  | none => none
  | some readAt => if settings.staleSeconds < now - readAt then none else s.lastValue

/-- `set_enabled`. -/
def setEnabled (now : Monotonic) (consumer : String) (enabled : Bool) : OptionalGatewayRead T :=
  let changed := { s with
    consumers := if enabled then insert consumer s.consumers else s.consumers.erase consumer }
  if changed.enabled = s.enabled then changed
  else if changed.enabled then { changed with nextDue := now + settings.firstReadDelay }
  else
    { changed with
      disableGeneration := s.disableGeneration + 1
      lastValue := if settings.clearOnDisable then none else s.lastValue
      readAt := if settings.clearOnDisable then none else s.readAt
      task := s.task.map AwaitedRead.cancel }

/-- `async_read_if_due` up to its await. -/
def startIfDue (now : Monotonic) : OptionalGatewayRead T :=
  if s.enabled = false ∨ now < s.nextDue then s
  else { s with task := some { state := .running false, generation := s.disableGeneration } }

/-- `async_read_if_due` from its await on, with the end of the task that it awaits. -/
def resumed (now : Monotonic) (generation : ℕ) (outcome : TaskState T) :
    OptionalGatewayRead T :=
  let stored : OptionalGatewayRead T :=
    match outcome with
    | .returned value => { s with lastValue := some value, readAt := some now, failures := 0 }
    | .modbusError => { s with failures := min (s.failures + 1) settings.maxFailures }
    | _ => s
  let delay :=
    if s.enabled ∧ s.disableGeneration ≠ generation then settings.firstReadDelay
    else if outcome matches .modbusError then settings.retryDelay stored.failures
    else settings.refreshSeconds
  { stored with task := none, nextDue := now + delay }

end OptionalGatewayRead

/-! ### Its steps -/

/-- What happens to the object. -/
inductive ReadStep (T : Type) where
  | setEnabled (now : Monotonic) (consumer : String) (enabled : Bool)
  /-- The poll tick calls `async_read_if_due`, under the gateway lock. -/
  | readIfDue (now : Monotonic)
  /-- The read ends. -/
  | finish (outcome : TaskState T)
  /-- The poll tick is cancelled while it awaits the read. -/
  | cancelTick
  /-- `async_read_if_due` goes on. -/
  | resume (now : Monotonic)
deriving DecidableEq

namespace OptionalGatewayRead

variable {T : Type}

/-- How the task of a read can end: a task that has been cancelled ends by that or with an
error, and another one with an error or a value. -/
def Ends (cancelled : Bool) : TaskState T → Bool
  | .running _ => false
  | .returned _ => !cancelled
  | .modbusError | .otherError => true
  | .cancelled => cancelled

/-- One step. -/
def step (settings : OptionalReadSettings) (s : OptionalGatewayRead T) :
    ReadStep T → Option (OptionalGatewayRead T)
  | .setEnabled now consumer enabled => some (s.setEnabled settings now consumer enabled)
  | .readIfDue now => if s.task.isSome then none else some (s.startIfDue now)
  | .finish outcome =>
    match s.task with
    | some read =>
      match read.state with
      | .running cancelled =>
        if Ends cancelled outcome then
          some { s with task := some { read with state := outcome } }
        else none
      | _ => none
    | none => none
  | .cancelTick =>
    match s.task with
    | some read =>
      match read.state with
      | .running _ => some { s with task := some { read with state := .running true } }
      | _ => some { s with task := some { read with interrupted := true } }
    | none => none
  | .resume now =>
    match s.task with
    | some read =>
      match read.state with
      | .running _ => none
      | _ => some (s.resumed settings now read.generation read.outcome)
    | none => none

/-! ### Requests that were started before the last consumer went -/

/-- The step takes the last consumer away. -/
def Disables (s : OptionalGatewayRead T) : ReadStep T → Bool
  | .setEnabled _ consumer enabled => !enabled && decide (s.consumers = {consumer})
  | _ => false

/-- Whether the request of the task and the one that the value is from were started before the
last consumer went for the last time. -/
structure Outdated where
  request : Bool := false
  value : Bool := false
deriving DecidableEq, Repr

/-- What a step does to this. -/
def Outdated.update (s : OptionalGatewayRead T) (l : ReadStep T) (record : Outdated) : Outdated :=
  if s.Disables l then ⟨true, true⟩
  else
    match l with
    | .readIfDue now =>
      if s.enabled = false ∨ now < s.nextDue then record else { record with request := false }
    | .resume _ =>
      match s.task with
      | some read =>
        match read.outcome with
        | .returned _ => { record with value := record.request }
        | _ => record
      | none => record
    | _ => record

/-- **The last consumer goes at another moment than between the end of a read that has returned
a value and the resumption of `async_read_if_due`.** -/
def DisablesInTime (s : OptionalGatewayRead T) (l : ReadStep T) : Prop :=
  s.Disables l = true → ∀ read ∈ s.task, read.outcome.hasValue = false

instance (s : OptionalGatewayRead T) (l : ReadStep T) : Decidable (s.DisablesInTime l) :=
  inferInstanceAs (Decidable (_ → _))

/-- **What is outdated cannot be returned any more**: an outdated value has been forgotten, and
an outdated request ends without a value. -/
structure Forgotten (s : OptionalGatewayRead T × Outdated) : Prop where
  value : s.2.value = true → s.1.lastValue = none
  request : s.2.request = true → ∀ read ∈ s.1.task,
    read.state ≠ .running false ∧ read.outcome.hasValue = false

section Runs

variable {settings : OptionalReadSettings} {s t : OptionalGatewayRead T} {record : Outdated}
  {now : Monotonic} {consumer : String} {enabled : Bool} {outcome : TaskState T}

/-- The last consumer goes: the value is forgotten, and the task cancelled. -/
theorem setEnabled_of_disables (hclear : settings.clearOnDisable = true)
    (h : s.Disables (.setEnabled now consumer enabled) = true) :
    (s.setEnabled settings now consumer enabled).lastValue = none ∧
      (s.setEnabled settings now consumer enabled).task = s.task.map AwaitedRead.cancel := by
  obtain ⟨henabled, hlast⟩ := (Bool.and_eq_true _ _).mp h
  obtain rfl : enabled = false := by simpa using henabled
  have hconsumers : s.consumers = {consumer} := of_decide_eq_true hlast
  simp [setEnabled, OptionalGatewayRead.enabled, hconsumers, hclear]

/-- Otherwise a change of the consumers leaves the value and the task alone. -/
theorem setEnabled_of_not_disables (settings : OptionalReadSettings)
    (h : s.Disables (.setEnabled now consumer enabled) = false) :
    (s.setEnabled settings now consumer enabled).lastValue = s.lastValue ∧
      (s.setEnabled settings now consumer enabled).task = s.task := by
  unfold setEnabled
  cases enabled with
  | true =>
    have hsome : ({ s with consumers := insert consumer s.consumers } :
        OptionalGatewayRead T).enabled = true := by simp [OptionalGatewayRead.enabled]
    simp only [if_true, hsome]
    split <;> exact ⟨rfl, rfl⟩
  | false =>
    simp only [Bool.false_eq_true, if_false]
    split
    · exact ⟨rfl, rfl⟩
    · rename_i hchanged
      split
      · exact ⟨rfl, rfl⟩
      · rename_i hnone
        -- The consumers were some, and are none: the one that goes was the last one.
        exfalso
        simp only [OptionalGatewayRead.enabled, decide_eq_true_eq, not_not, decide_eq_decide]
          at hchanged hnone
        rcases Finset.erase_eq_empty_iff _ _ |>.mp hnone with hempty | hlast
        · exact hchanged (by simp [hempty])
        · simp [Disables, hlast] at h

/-- A task that is cancelled before it returns does not return. -/
theorem cancel_ends {read : AwaitedRead T} (h : read.outcome.hasValue = false) :
    read.cancel.state ≠ .running false ∧ read.cancel.outcome.hasValue = false := by
  obtain ⟨state, generation, interrupted⟩ := read
  cases state with
  | running cancelled =>
    refine ⟨by simp [AwaitedRead.cancel], ?_⟩
    cases interrupted <;> rfl
  | returned _ | modbusError | otherError | cancelled =>
    exact ⟨by simp [AwaitedRead.cancel], h⟩

/-- **One step** in time keeps outdated what is outdated. -/
theorem Forgotten.step (hclear : settings.clearOnDisable = true)
    {p q : OptionalGatewayRead T × Outdated} {l : ReadStep T} (h : Forgotten p)
    (hok : p.1.DisablesInTime l)
    (hstep : recorded (step settings) Outdated.update p l = some q) : Forgotten q := by
  obtain ⟨s, record⟩ := p
  obtain ⟨t, record'⟩ := q
  obtain ⟨hstep, hrecord⟩ := recorded_eq_some.mp hstep
  obtain rfl : record' = Outdated.update s l record := hrecord
  cases l with
  | setEnabled now consumer enabled =>
    obtain rfl := Option.some.inj hstep
    cases hdisables : s.Disables (.setEnabled now consumer enabled) with
    | true =>
      obtain ⟨hvalue, htask⟩ := setEnabled_of_disables hclear hdisables
      refine ⟨fun _ => hvalue, fun _ read hread => ?_⟩
      rw [htask] at hread
      obtain ⟨before, hbefore, rfl⟩ := Option.map_eq_some_iff.mp hread
      exact cancel_ends (hok hdisables before hbefore)
    | false =>
      obtain ⟨hvalue, htask⟩ := setEnabled_of_not_disables settings hdisables
      have hsame : Outdated.update s (.setEnabled now consumer enabled) record = record := by
        simp [Outdated.update, hdisables]
      refine ⟨fun houtdated => ?_, fun houtdated => ?_⟩
      · rw [hvalue]
        exact h.value (hsame ▸ houtdated)
      · rw [htask]
        exact h.request (hsame ▸ houtdated)
  | readIfDue now =>
    obtain ⟨-, hstart⟩ := Option.ite_none_left_eq_some.mp hstep
    obtain rfl := Option.some.inj hstart
    by_cases hdue : s.enabled = false ∨ now < s.nextDue
    · have hsame : s.startIfDue now = s := if_pos hdue
      have hrecord : Outdated.update s (.readIfDue now) record = record := if_pos hdue
      rw [hsame, hrecord]
      exact h
    · have hstarted : s.startIfDue now = { s with
          task := some { state := .running false, generation := s.disableGeneration } } :=
        if_neg hdue
      have hrecord : Outdated.update s (.readIfDue now) record = { record with request := false } :=
        if_neg hdue
      rw [hstarted, hrecord]
      exact ⟨h.value, by rintro ⟨⟩⟩
  | finish outcome =>
    simp only [OptionalGatewayRead.step] at hstep
    split at hstep
    · rename_i read hread
      split at hstep
      · rename_i cancelled hrunning
        obtain ⟨hends, hfinished⟩ := Option.ite_none_right_eq_some.mp hstep
        obtain rfl := Option.some.inj hfinished
        refine ⟨h.value, fun houtdated read' hread' => ?_⟩
        obtain rfl := Option.some.inj hread'
        -- The request is outdated, so that its task has been cancelled.
        have hcancelled : cancelled = true := by
          simpa [hrunning] using (h.request houtdated read hread).1
        subst hcancelled
        cases outcome with
        | running _ => cases hends
        | returned _ => cases hends
        | modbusError | otherError | cancelled =>
          refine ⟨by simp, ?_⟩
          simp only [AwaitedRead.outcome]
          split <;> rfl
      · cases hstep
    · cases hstep
  | cancelTick =>
    simp only [OptionalGatewayRead.step] at hstep
    split at hstep
    · rename_i read hread
      split at hstep
      · obtain rfl := Option.some.inj hstep
        refine ⟨h.value, fun houtdated read' hread' => ?_⟩
        obtain rfl := Option.some.inj hread'
        refine ⟨by simp, ?_⟩
        simp only [AwaitedRead.outcome]
        split <;> rfl
      · obtain rfl := Option.some.inj hstep
        refine ⟨h.value, fun houtdated read' hread' => ?_⟩
        obtain rfl := Option.some.inj hread'
        exact ⟨(h.request houtdated read hread).1, rfl⟩
    · cases hstep
  | resume now =>
    simp only [OptionalGatewayRead.step] at hstep
    split at hstep
    · rename_i read hread
      have hresumed : some (s.resumed settings now read.generation read.outcome) = some t := by
        split at hstep
        · cases hstep
        · exact hstep
      obtain rfl := Option.some.inj hresumed
      have hrecord : Outdated.update s (.resume now) record =
          match read.outcome with
          | .returned _ => { record with value := record.request }
          | _ => record := by
        simp only [Outdated.update, Disables, Bool.false_eq_true, if_false, hread]
      refine ⟨fun houtdated => ?_, fun _ read' hread' => by cases hread'⟩
      rw [hrecord] at houtdated
      cases houtcome : read.outcome with
      | returned value =>
        rw [houtcome] at houtdated
        have hnone := (h.request houtdated read hread).2
        rw [houtcome] at hnone
        cases hnone
      | running _ | modbusError | otherError | cancelled =>
        rw [houtcome] at houtdated
        exact h.value houtdated
    · cases hstep

/-- A new object. -/
def Fresh (s : OptionalGatewayRead T × Outdated) : Prop := s = ({}, {})

/-- **A value that has been disabled stays cleared.** With `clear_on_disable`, and if the last
consumer never goes between the end of a read and the resumption that takes its value, no
value is returned of a request that was started before the last consumer went. -/
theorem disabledStaysCleared (hclear : settings.clearOnDisable = true)
    {p : OptionalGatewayRead T × Outdated}
    (h : Reach (recorded (step settings) Outdated.update) (fun p l => p.1.DisablesInTime l)
      Fresh p) (now : Monotonic) (result : T) (hvalue : p.1.value settings now = some result) :
    p.2.value = false := by
  have hforgotten : Forgotten p := h.invariant (by rintro _ rfl; exact ⟨by rintro ⟨⟩, by rintro ⟨⟩⟩)
    fun p l q hp hok hstep => hp.step hclear hok hstep
  by_contra houtdated
  have hnone : p.1.lastValue = none := hforgotten.value (by simpa using houtdated)
  unfold value at hvalue
  split at hvalue
  · cases hvalue
  · split at hvalue
    · cases hvalue
    · rw [hnone] at hvalue
      cases hvalue

end Runs

/-! ### Two runs -/

/-- The settings of an external-input value. -/
def externalInput : OptionalReadSettings where
  refreshSeconds := seconds 3600
  staleSeconds := seconds 10800
  retrySeconds := seconds 60
  firstReadDelay := 0
  clearOnDisable := true

/-- A value is enabled and read, its last consumer goes, and it is enabled and read again. -/
def readAgain : List (ReadStep ℕ) :=
  [.setEnabled 0 "co2_input" true, .readIfDue 0, .finish (.returned 5), .resume (seconds 1),
    .setEnabled (seconds 2) "co2_input" false, .setEnabled (seconds 3) "co2_input" true,
    .readIfDue (seconds 3), .finish (.returned 7), .resume (seconds 4)]

/-- A value that has been read since it was enabled again is not outdated. -/
theorem disabledStaysCleared_read : ∃ p : OptionalGatewayRead ℕ × Outdated,
    run (recorded (step externalInput) Outdated.update) readAgain ({}, {}) = some p ∧
      p.1.value externalInput (seconds 4) = some 7 ∧ p.2.value = false := by
  have hstart : Reach (recorded (step externalInput) Outdated.update)
      (fun p l => p.1.DisablesInTime l) Fresh (({}, {}) : OptionalGatewayRead ℕ × Outdated) :=
    .start rfl
  obtain ⟨p, hrun, hreach, hvalue⟩ := hstart.exists_of_run readAgain
    (fun p => p.1.value externalInput (seconds 4) = some 7) (by decide) (by decide)
  have hseven : p.1.value externalInput (seconds 4) = some 7 := of_decide_eq_true hvalue
  exact ⟨p, hrun, hseven, disabledStaysCleared rfl hreach (seconds 4) 7 hseven⟩

/-- The read has returned when the last consumer goes; another one comes afterwards. -/
def disabledTooLate : List (ReadStep ℕ) :=
  [.setEnabled 0 "co2_input" true, .readIfDue 0, .finish (.returned 5),
    .setEnabled (seconds 1) "co2_input" false, .resume (seconds 1),
    .setEnabled (seconds 2) "co2_input" true]

/-- **A value comes back**: the request was started before the last consumer went, and its
result is returned when there is a consumer again. -/
theorem disabledStaysCleared_refuted : ∃ p : OptionalGatewayRead ℕ × Outdated,
    run (recorded (step externalInput) Outdated.update) disabledTooLate ({}, {}) = some p ∧
      p.1.enabled = true ∧ p.1.value externalInput (seconds 2) = some 5 ∧ p.2.value = true :=
  ⟨_, rfl, by decide, by decide, by decide⟩

end OptionalGatewayRead

end MeltemVentilation
