import MeltemVentilation.Lib.Tally
import Mathlib.Data.List.Basic
import Mathlib.Order.Lattice

/-!
# Counters that outlive a restart

The class `CumulativeDiagnostics`: counters of the requests to the gateway, of the recycled
links, of the read groups that failed and of the problematic writes, kept for one configuration
entry and stored by Home Assistant as JSON. What it finds in the store when it is constructed
may be anything, and every part of it that is not as expected counts as missing.

Two things are settled here. What the instance writes, it reads back (`diagnostics_restored`):
the nested counters have no zero count and no empty dictionary, which is what the reader leaves
out, and the start of the period is written in UTC. But the failures are read without regard to
the attempts, of which they are a part. An instance starts with fewer attempts than failures if
that is what the store says, and it then reports a negative number of successful attempts
(`failuresWithinAttempts_iff`).

The module `datetime` is a parameter, `Datetime`, of which only what is documented of it is
used.
-/

namespace MeltemVentilation

open Tally

/-! ### JSON values -/

/-- A JSON value as Python has it. -/
inductive Json where
  | null
  | bool (value : Bool)
  | int (value : ℤ)
  /-- A number with a fraction or an exponent, by its text. -/
  | float (text : String)
  | str (value : String)
  | arr (items : List Json)
  | obj (entries : List (String × Json))

/-- `get`: the value of a key, `None` if there is none. What is not a mapping counts as one
without keys. -/
def Json.get (key : String) : Json → Json
  | .obj entries => (entries.lookup key).getD .null
  | _ => .null

/-- `_count`: a count of what is not a natural number is zero. -/
def count : Json → ℤ
  | .int value => if 0 ≤ value then value else 0
  | _ => 0

/-- **`_nested_counters`**, with a count at the depth zero. Nothing is kept of an entry that
counts nothing. -/
def nestedCounters : ∀ depth, Json → Nested String depth
  | 0, item => count item
  | depth + 1, .obj entries => entries.filterMap fun (key, item) =>
      let counted := nestedCounters depth item
      if counted.isEmpty then none else some (key, counted)
  | depth + 1, _ => .empty (depth + 1)

/-- A tally as JSON. -/
def nestedJson : ∀ {depth}, Nested String depth → Json
  | 0, count => .int count
  | _ + 1, entries => .obj (entries.map fun entry => (entry.1, nestedJson entry.2))

/-! ### Timestamps -/

/-- What is used of the module `datetime`. -/
structure Datetime (Moment : Type) where
  /-- `fromisoformat`, `none` where it raises `ValueError`. -/
  fromisoformat : String → Option Moment
  /-- Whether `tzinfo` is set. -/
  aware : Moment → Bool
  /-- `astimezone(UTC)`, `none` where it raises: the result may be out of range. -/
  astimezoneUtc : Moment → Option Moment
  isoformat : Moment → String
  /-- The moments whose `tzinfo` is `UTC`. -/
  InUtc : Moment → Prop

/-- **What is documented of it**, for moments in UTC: `fromisoformat` inverts `isoformat`, and
`astimezone` changes nothing. -/
structure Datetime.Documented {Moment : Type} (datetime : Datetime Moment) : Prop where
  inUtc : ∀ moment utc, datetime.astimezoneUtc moment = some utc → datetime.InUtc utc
  aware : ∀ moment, datetime.InUtc moment → datetime.aware moment = true
  fromisoformat : ∀ moment, datetime.InUtc moment →
    datetime.fromisoformat (datetime.isoformat moment) = some moment
  astimezone : ∀ moment, datetime.InUtc moment → datetime.astimezoneUtc moment = some moment

/-- `_valid_timestamp`: a timestamp with a time zone is converted to UTC, and in place of
anything else the period starts now. -/
def validTimestamp {Moment : Type} (datetime : Datetime Moment) (now : Moment) :
    Json → Option String
  | .str value =>
    match datetime.fromisoformat value with
    | none => some (datetime.isoformat now)
    | some parsed =>
      if datetime.aware parsed then (datetime.astimezoneUtc parsed).map datetime.isoformat
      else some (datetime.isoformat now)
  | _ => some (datetime.isoformat now)

/-! ### The instance -/

/-- `REQUEST_FAILURE_CATEGORIES`. -/
inductive RequestFailure where
  | noAnswer | modbusException | other
deriving DecidableEq, Repr

/-- The text of a category. -/
def RequestFailure.key : RequestFailure → String
  | .noAnswer => "no_answer"
  | .modbusException => "modbus_exception"
  | .other => "other"

/-- `RequestOutcome`: success, or a category of failures. -/
inductive RequestOutcome where
  | success
  | failure (category : RequestFailure)
deriving DecidableEq, Repr

/-- `WRITE_ISSUE_CATEGORIES`. -/
def writeIssueCategories : List (String × String) :=
  [("failed", "send_failure"), ("mismatch", "readback_mismatch"), ("unconfirmed", "unconfirmed")]

/-- `CumulativeDiagnostics`, its counters. -/
structure CumulativeDiagnostics where
  periodStartedAt : String
  requestAttempts : ℤ
  requestFailuresByCategory : RequestFailure → ℤ
  linkRecycles : ℤ
  /-- By room and group. -/
  readFailures : Nested String 2
  /-- By room, category and command. -/
  writeIssues : Nested String 3

/-- The keys of the diagnostic sensors. -/
inductive DiagnosticSensor where
  | modbusAttemptsTotal | modbusFailuresTotal | linkRecyclesTotal | failedReadGroupsTotal
  | writeIssuesTotal
deriving DecidableEq, Repr

/-- What `sensor_attributes` returns; `none` where a key is missing. -/
structure SensorAttributes where
  periodStartedAt : String
  failuresByCategory : Option (RequestFailure → ℤ) := none
  successfulAttempts : Option ℤ := none
  byRoomAndGroup : Option (Nested String 2) := none
  byRoomCategoryAndCommand : Option (Nested String 3) := none

/-- What `diagnostics` returns. -/
structure DiagnosticsSnapshot where
  periodStartedAt : String
  requestAttempts : ℤ
  requestFailures : ℤ
  requestFailuresByCategory : RequestFailure → ℤ
  successfulAttempts : ℤ
  linkRecycles : ℤ
  readFailures : Nested String 2
  writeIssues : Nested String 3

/-- The counts that are accepted from the store for the failed requests, in all. -/
def storedFailures (stored : Json) : ℤ :=
  let failures := (stored.get "transport").get "request_failures"
  count (failures.get "no_answer") + count (failures.get "modbus_exception") +
    count (failures.get "other")

/-- The count that is accepted from the store for the requests. -/
def storedAttempts (stored : Json) : ℤ := count ((stored.get "transport").get "request_attempts")

namespace CumulativeDiagnostics

/-- **`__init__`**; `none` where the period is out of the range of `datetime`. -/
def load {Moment : Type} (datetime : Datetime Moment) (now : Moment) (data : Json) :
    Option CumulativeDiagnostics :=
  (validTimestamp datetime now (data.get "period_started_at")).map fun periodStartedAt =>
    let transport := data.get "transport"
    { periodStartedAt := periodStartedAt
      requestAttempts := count (transport.get "request_attempts")
      requestFailuresByCategory := fun category =>
        count ((transport.get "request_failures").get category.key)
      linkRecycles := count (transport.get "link_recycles")
      readFailures := nestedCounters 2 (data.get "read_failures")
      writeIssues := nestedCounters 3 (data.get "write_issues") }

variable (diagnostics : CumulativeDiagnostics)

/-- `request_failures`. -/
def requestFailures : ℤ :=
  diagnostics.requestFailuresByCategory .noAnswer +
    diagnostics.requestFailuresByCategory .modbusException +
      diagnostics.requestFailuresByCategory .other

/-- `record_request`. -/
def recordRequest (outcome : RequestOutcome) : CumulativeDiagnostics :=
  { diagnostics with
    requestAttempts := diagnostics.requestAttempts + 1
    requestFailuresByCategory :=
      match outcome with
      | .success => diagnostics.requestFailuresByCategory
      | .failure failed => fun category =>
        if category = failed then diagnostics.requestFailuresByCategory category + 1
        else diagnostics.requestFailuresByCategory category }

/-- `record_link_recycle`. -/
def recordLinkRecycle : CumulativeDiagnostics :=
  { diagnostics with linkRecycles := diagnostics.linkRecycles + 1 }

/-- `record_read_failure`. -/
def recordReadFailure (roomKey groupKey : String) : CumulativeDiagnostics :=
  { diagnostics with
    readFailures := Nested.increment [roomKey, groupKey] diagnostics.readFailures }

/-- `record_write_issue`; a status that is no issue is ignored. -/
def recordWriteIssue (roomKey writeKey status : String) : CumulativeDiagnostics :=
  match writeIssueCategories.lookup status with
  | none => diagnostics
  | some category =>
    { diagnostics with
      writeIssues := Nested.increment [roomKey, category, writeKey] diagnostics.writeIssues }

/-- The difference that is reported as the successful attempts. -/
def successfulAttempts : ℤ := diagnostics.requestAttempts - diagnostics.requestFailures

/-- `sensor_value`. -/
def sensorValue : DiagnosticSensor → ℤ
  | .modbusAttemptsTotal => diagnostics.requestAttempts
  | .modbusFailuresTotal => diagnostics.requestFailures
  | .linkRecyclesTotal => diagnostics.linkRecycles
  | .failedReadGroupsTotal => Nested.total diagnostics.readFailures
  | .writeIssuesTotal => Nested.total diagnostics.writeIssues

/-- `sensor_attributes`. -/
def sensorAttributes (key : DiagnosticSensor) : SensorAttributes :=
  match key with
  | .modbusAttemptsTotal | .modbusFailuresTotal =>
    { periodStartedAt := diagnostics.periodStartedAt
      failuresByCategory := some diagnostics.requestFailuresByCategory
      successfulAttempts := some diagnostics.successfulAttempts }
  | .failedReadGroupsTotal =>
    { periodStartedAt := diagnostics.periodStartedAt
      byRoomAndGroup := some diagnostics.readFailures }
  | .writeIssuesTotal =>
    { periodStartedAt := diagnostics.periodStartedAt
      byRoomCategoryAndCommand := some diagnostics.writeIssues }
  | .linkRecyclesTotal => { periodStartedAt := diagnostics.periodStartedAt }

/-- `diagnostics`. -/
def snapshot : DiagnosticsSnapshot where
  periodStartedAt := diagnostics.periodStartedAt
  requestAttempts := diagnostics.requestAttempts
  requestFailures := diagnostics.requestFailures
  requestFailuresByCategory := diagnostics.requestFailuresByCategory
  successfulAttempts := diagnostics.successfulAttempts
  linkRecycles := diagnostics.linkRecycles
  readFailures := diagnostics.readFailures
  writeIssues := diagnostics.writeIssues

/-- **`_stored_data`**. -/
def storedData : Json :=
  .obj [
    ("period_started_at", .str diagnostics.periodStartedAt),
    ("transport", .obj [
      ("request_attempts", .int diagnostics.requestAttempts),
      ("request_failures", .obj [
        ("no_answer", .int (diagnostics.requestFailuresByCategory .noAnswer)),
        ("modbus_exception", .int (diagnostics.requestFailuresByCategory .modbusException)),
        ("other", .int (diagnostics.requestFailuresByCategory .other))]),
      ("link_recycles", .int diagnostics.linkRecycles)]),
    ("read_failures", nestedJson diagnostics.readFailures),
    ("write_issues", nestedJson diagnostics.writeIssues)]

end CumulativeDiagnostics

/-! ### Events -/

/-- A call of a method that counts. -/
inductive DiagnosticsCall where
  | recordRequest (outcome : RequestOutcome)
  | recordLinkRecycle
  | recordReadFailure (roomKey groupKey : String)
  | recordWriteIssue (roomKey writeKey status : String)

/-- One call. -/
def DiagnosticsCall.perform (diagnostics : CumulativeDiagnostics) :
    DiagnosticsCall → CumulativeDiagnostics
  | .recordRequest outcome => diagnostics.recordRequest outcome
  | .recordLinkRecycle => diagnostics.recordLinkRecycle
  | .recordReadFailure roomKey groupKey => diagnostics.recordReadFailure roomKey groupKey
  | .recordWriteIssue roomKey writeKey status =>
    diagnostics.recordWriteIssue roomKey writeKey status

/-- Calls one after the other. -/
def DiagnosticsCall.performAll (diagnostics : CumulativeDiagnostics)
    (calls : List DiagnosticsCall) : CumulativeDiagnostics :=
  calls.foldl perform diagnostics

/-! ### Counts that are read back -/

theorem count_nonneg (item : Json) : 0 ≤ count item := by
  unfold count
  split
  · split
    · assumption
    · exact le_refl 0
  · exact le_refl 0

/-- A count that is not negative is read back. -/
theorem count_int {value : ℤ} (h : 0 ≤ value) : count (.int value) = value := if_pos h

/-- **The reader leaves nothing out of what has been counted.** -/
theorem nestedCounters_nestedJson_of_positive {depth : ℕ} {tally : Nested String depth}
    (h : tally.Positive) : nestedCounters depth (nestedJson tally) = tally := by
  induction depth with
  | zero =>
    have hpos : 0 < (tally : ℤ) := h
    exact count_int hpos.le
  | succ depth ih =>
    change List.filterMap _ (List.map _ _) = _
    rw [List.filterMap_map]
    have hkept : ∀ entry ∈ (tally : List (String × Nested String depth)),
        (if (nestedCounters depth (nestedJson entry.2)).isEmpty then none
          else some (entry.1, nestedCounters depth (nestedJson entry.2))) = some entry := by
      intro entry hentry
      have hentryPos := h.2 entry hentry
      rw [ih hentryPos, if_neg (by rw [hentryPos.isEmpty]; exact Bool.false_ne_true)]
    exact (List.filterMap_congr hkept).trans List.filterMap_some

theorem nestedCounters_nestedJson {depth : ℕ} {tally : Nested String (depth + 1)}
    (h : tally.Counted) : nestedCounters (depth + 1) (nestedJson tally) = tally := by
  rcases h with hempty | hpos
  · obtain rfl : tally = Nested.empty (depth + 1) := List.isEmpty_iff.mp hempty
    rfl
  · exact nestedCounters_nestedJson_of_positive hpos

/-- **What is read has been counted.** -/
theorem counted_nestedCounters (depth : ℕ) (item : Json) :
    (nestedCounters depth item).Counted := by
  induction depth generalizing item with
  | zero =>
    rcases (count_nonneg item).eq_or_lt with hzero | hpos
    · exact .inl (decide_eq_true hzero.symm)
    · exact .inr hpos
  | succ depth ih =>
    cases item with
    | obj entries =>
      cases hempty : (nestedCounters (depth + 1) (.obj entries)).isEmpty with
      | true => exact .inl hempty
      | false =>
        refine .inr ⟨hempty, fun entry hentry => ?_⟩
        obtain ⟨⟨key, value⟩, -, hkept⟩ := List.mem_filterMap.mp hentry
        obtain ⟨hcounts, hentryEq⟩ := Option.ite_none_left_eq_some.mp hkept
        obtain rfl := Option.some.inj hentryEq
        exact (ih value).resolve_left hcounts
    | null | bool _ | int _ | float _ | str _ | arr _ => exact .inl rfl

/-! ### The invariant of an instance -/

/-- What holds of an instance from its construction on. -/
structure CumulativeDiagnostics.WellFormed {Moment : Type} (datetime : Datetime Moment)
    (diagnostics : CumulativeDiagnostics) : Prop where
  period : ∃ utc, datetime.InUtc utc ∧ diagnostics.periodStartedAt = datetime.isoformat utc
  attempts : 0 ≤ diagnostics.requestAttempts
  failures : ∀ category, 0 ≤ diagnostics.requestFailuresByCategory category
  linkRecycles : 0 ≤ diagnostics.linkRecycles
  readFailures : Nested.Counted diagnostics.readFailures
  writeIssues : Nested.Counted diagnostics.writeIssues

section Instance

open CumulativeDiagnostics DiagnosticsCall

variable {Moment : Type} {datetime : Datetime Moment} {now : Moment} {data : Json}
  {period : String} {diagnostics : CumulativeDiagnostics}

/-- The start of the period is in UTC. -/
theorem validTimestamp_inUtc (hdatetime : datetime.Documented) (hnow : datetime.InUtc now)
    (h : validTimestamp datetime now data = some period) :
    ∃ utc, datetime.InUtc utc ∧ period = datetime.isoformat utc := by
  unfold validTimestamp at h
  split at h
  · split at h
    · exact ⟨now, hnow, (Option.some.inj h).symm⟩
    · split at h
      · obtain ⟨utc, hutc, rfl⟩ := Option.map_eq_some_iff.mp h
        exact ⟨utc, hdatetime.inUtc _ utc hutc, rfl⟩
      · exact ⟨now, hnow, (Option.some.inj h).symm⟩
  · exact ⟨now, hnow, (Option.some.inj h).symm⟩

/-- A start in UTC is read back. -/
theorem validTimestamp_isoformat (hdatetime : datetime.Documented) {utc : Moment}
    (hutc : datetime.InUtc utc) (now : Moment) :
    validTimestamp datetime now (.str (datetime.isoformat utc)) =
      some (datetime.isoformat utc) := by
  simp only [validTimestamp, hdatetime.fromisoformat utc hutc, hdatetime.aware utc hutc, if_true,
    hdatetime.astimezone utc hutc, Option.map_some]

theorem wellFormed_load (hdatetime : datetime.Documented) (hnow : datetime.InUtc now)
    (h : load datetime now data = some diagnostics) : diagnostics.WellFormed datetime := by
  obtain ⟨period, hperiod, rfl⟩ := Option.map_eq_some_iff.mp h
  exact ⟨validTimestamp_inUtc hdatetime hnow hperiod, count_nonneg _, fun _ => count_nonneg _,
    count_nonneg _, counted_nestedCounters 2 _, counted_nestedCounters 3 _⟩

/-- Every call keeps an instance well-formed. -/
theorem CumulativeDiagnostics.WellFormed.perform (h : diagnostics.WellFormed datetime)
    (call : DiagnosticsCall) : (call.perform diagnostics).WellFormed datetime := by
  cases call with
  | recordRequest outcome =>
    refine { h with attempts := ?_, failures := ?_ }
    · exact Int.add_nonneg h.attempts (by decide)
    · intro category
      cases outcome with
      | success => exact h.failures category
      | failure failed =>
        have hbefore := h.failures category
        simp only [DiagnosticsCall.perform, recordRequest]
        split <;> omega
  | recordLinkRecycle =>
    exact { h with linkRecycles := Int.add_nonneg h.linkRecycles (by decide) }
  | recordReadFailure roomKey groupKey =>
    exact { h with
      readFailures := .inr (Nested.Counted.increment [roomKey, groupKey] h.readFailures) }
  | recordWriteIssue roomKey writeKey status =>
    simp only [DiagnosticsCall.perform, recordWriteIssue]
    split
    · exact h
    · rename_i category _
      exact { h with
        writeIssues := .inr
          (Nested.Counted.increment [roomKey, category, writeKey] h.writeIssues) }

theorem CumulativeDiagnostics.WellFormed.performAll (h : diagnostics.WellFormed datetime)
    (calls : List DiagnosticsCall) : (performAll diagnostics calls).WellFormed datetime := by
  induction calls generalizing diagnostics with
  | nil => exact h
  | cons call calls ih => exact ih (h.perform call)

/-! ### A restart -/

/-- **What a well-formed instance stores is read back.** -/
theorem CumulativeDiagnostics.WellFormed.load_storedData (h : diagnostics.WellFormed datetime)
    (hdatetime : datetime.Documented) (now : Moment) :
    load datetime now diagnostics.storedData = some diagnostics := by
  obtain ⟨utc, hutc, hperiod⟩ := h.period
  have hvalid : validTimestamp datetime now (.str diagnostics.periodStartedAt) =
      some diagnostics.periodStartedAt := by
    rw [hperiod]
    exact validTimestamp_isoformat hdatetime hutc now
  have hfailures : (fun category => count ((Json.obj [
        ("no_answer", .int (diagnostics.requestFailuresByCategory .noAnswer)),
        ("modbus_exception", .int (diagnostics.requestFailuresByCategory .modbusException)),
        ("other", .int (diagnostics.requestFailuresByCategory .other))]).get
          (RequestFailure.key category))) = diagnostics.requestFailuresByCategory := by
    funext category
    cases category with
    | noAnswer => exact count_int (h.failures _)
    | modbusException => exact count_int (h.failures _)
    | other => exact count_int (h.failures _)
  refine Option.map_eq_some_iff.mpr ⟨_, hvalid, ?_⟩
  obtain ⟨period, attempts, failures, recycles, readFailures, writeIssues⟩ := diagnostics
  rw [CumulativeDiagnostics.mk.injEq]
  exact ⟨rfl, count_int h.attempts, hfailures, count_int h.linkRecycles,
    nestedCounters_nestedJson h.readFailures, nestedCounters_nestedJson h.writeIssues⟩

/-- **A restart loses nothing**: whatever has been found in the store and counted since, a new
instance that is constructed from the stored data reports the same. -/
theorem diagnostics_restored (hdatetime : datetime.Documented) (hnow : datetime.InUtc now)
    (h : load datetime now data = some diagnostics) (calls : List DiagnosticsCall)
    (later : Moment) : ∃ restored,
      load datetime later (performAll diagnostics calls).storedData = some restored ∧
        restored.snapshot = (performAll diagnostics calls).snapshot ∧
          restored.sensorValue = (performAll diagnostics calls).sensorValue :=
  ⟨_, ((wellFormed_load hdatetime hnow h).performAll calls).load_storedData hdatetime later,
    rfl, rfl⟩

/-! ### Failures and attempts -/

/-- The failures are a part of the attempts, in the counters and in what is reported. -/
structure CumulativeDiagnostics.FailuresWithinAttempts (diagnostics : CumulativeDiagnostics) :
    Prop where
  nonneg : 0 ≤ diagnostics.requestFailures
  within : diagnostics.requestFailures ≤ diagnostics.requestAttempts
  snapshot : 0 ≤ diagnostics.snapshot.successfulAttempts
  attributes : ∀ key, ∀ successful ∈ (diagnostics.sensorAttributes key).successfulAttempts,
    0 ≤ successful

/-- What is reported follows from the counters. -/
theorem CumulativeDiagnostics.FailuresWithinAttempts.of_le
    (hnonneg : 0 ≤ diagnostics.requestFailures)
    (hle : diagnostics.requestFailures ≤ diagnostics.requestAttempts) :
    diagnostics.FailuresWithinAttempts := by
  have hsuccessful : 0 ≤ diagnostics.successfulAttempts := Int.sub_nonneg_of_le hle
  refine ⟨hnonneg, hle, hsuccessful, fun key successful hmem => ?_⟩
  cases key with
  | modbusAttemptsTotal =>
    obtain rfl := Option.some.inj hmem
    exact hsuccessful
  | modbusFailuresTotal =>
    obtain rfl := Option.some.inj hmem
    exact hsuccessful
  | linkRecyclesTotal | failedReadGroupsTotal | writeIssuesTotal => cases hmem

/-- **No call counts a failure without its attempt.** -/
theorem CumulativeDiagnostics.FailuresWithinAttempts.perform
    (h : diagnostics.FailuresWithinAttempts) (call : DiagnosticsCall) :
    (call.perform diagnostics).FailuresWithinAttempts := by
  have hnonneg := h.nonneg
  have hwithin := h.within
  cases call with
  | recordRequest outcome =>
    -- One category grows with the attempts, or none does.
    have hfailures : (diagnostics.recordRequest outcome).requestFailures =
        diagnostics.requestFailures + if outcome = .success then 0 else 1 := by
      cases outcome with
      | success => simp [recordRequest, requestFailures]
      | failure failed =>
        cases failed <;> simp [recordRequest, requestFailures] <;> omega
    have hattempts : (diagnostics.recordRequest outcome).requestAttempts =
        diagnostics.requestAttempts + 1 := rfl
    refine .of_le ?_ ?_
    · simp only [DiagnosticsCall.perform, hfailures]
      split <;> omega
    · simp only [DiagnosticsCall.perform, hfailures, hattempts]
      split <;> omega
  | recordLinkRecycle => exact .of_le hnonneg hwithin
  | recordReadFailure roomKey groupKey => exact .of_le hnonneg hwithin
  | recordWriteIssue roomKey writeKey status =>
    simp only [DiagnosticsCall.perform, recordWriteIssue]
    split
    · exact h
    · exact .of_le hnonneg hwithin

theorem CumulativeDiagnostics.FailuresWithinAttempts.performAll
    (h : diagnostics.FailuresWithinAttempts) (calls : List DiagnosticsCall) :
    (performAll diagnostics calls).FailuresWithinAttempts := by
  induction calls generalizing diagnostics with
  | nil => exact h
  | cons call calls ih => exact ih (h.perform call)

/-- **The failures stay within the attempts exactly if they are within them in the store**:
whatever is counted, in the first case; already before the first call, otherwise. -/
theorem failuresWithinAttempts_iff (h : load datetime now data = some diagnostics) :
    (∀ calls, (performAll diagnostics calls).FailuresWithinAttempts) ↔
      storedFailures data ≤ storedAttempts data := by
  obtain ⟨period, -, hloaded⟩ := Option.map_eq_some_iff.mp h
  have hfailures : diagnostics.requestFailures = storedFailures data := by
    rw [← hloaded]
    rfl
  have hattempts : diagnostics.requestAttempts = storedAttempts data := by
    rw [← hloaded]
    rfl
  rw [← hfailures, ← hattempts]
  constructor
  · intro hall
    exact (hall []).within
  · intro hstored calls
    have hnonneg : 0 ≤ diagnostics.requestFailures := by
      rw [hfailures]
      exact Int.add_nonneg (Int.add_nonneg (count_nonneg _) (count_nonneg _)) (count_nonneg _)
    exact FailuresWithinAttempts.performAll (.of_le hnonneg hstored) calls

end Instance

/-! ### Three stores -/

/-- A clock for which it is always the same moment, of which it knows the text. -/
def newYear : Datetime Unit where
  fromisoformat text := if text = "2026-01-01T00:00:00+00:00" then some () else none
  aware _ := true
  astimezoneUtc := some
  isoformat _ := "2026-01-01T00:00:00+00:00"
  InUtc _ := True

theorem newYear_documented : newYear.Documented where
  inUtc _ _ _ := trivial
  aware _ _ := rfl
  fromisoformat _ _ := rfl
  astimezone _ _ := rfl

/-- A store that is partly malformed. -/
def partlyMalformed : Json :=
  .obj [("period_started_at", .str "2026-01-01T00:00:00+00:00"), ("transport", .null),
    ("read_failures", .obj [("slave_2", .obj [("flow", .int 3), ("filter", .float "0.5")])])]

/-- What has been counted on top of a partly malformed store survives a restart. -/
theorem diagnostics_restored_partlyMalformed : ∃ diagnostics,
    CumulativeDiagnostics.load newYear () partlyMalformed = some diagnostics ∧
      (diagnostics.recordReadFailure "slave_2" "flow").readFailures =
        [("slave_2", [("flow", (4 : ℤ))])] ∧
      ∃ restored, CumulativeDiagnostics.load newYear ()
        (diagnostics.recordReadFailure "slave_2" "flow").storedData = some restored ∧
          restored.snapshot = (diagnostics.recordReadFailure "slave_2" "flow").snapshot := by
  refine ⟨_, rfl, by decide, ?_⟩
  obtain ⟨restored, hrestored, hsnapshot, -⟩ := diagnostics_restored newYear_documented trivial
    (show CumulativeDiagnostics.load newYear () partlyMalformed = some _ from rfl)
    [.recordReadFailure "slave_2" "flow"] ()
  exact ⟨restored, hrestored, hsnapshot⟩

/-- A store with a number of attempts and failures. -/
def storedRequests (attempts : Json) (noAnswer : ℤ) : Json :=
  .obj [("transport", .obj [("request_attempts", attempts),
    ("request_failures", .obj [("no_answer", .int noAnswer)])])]

/-- Attempts and failures that fit together. -/
theorem failuresWithinAttempts_iff_stored : ∃ diagnostics,
    CumulativeDiagnostics.load newYear () (storedRequests (.int 7) 5) = some diagnostics ∧
      (diagnostics.recordRequest (.failure .other)).FailuresWithinAttempts := by
  refine ⟨_, rfl, ?_⟩
  have hload : CumulativeDiagnostics.load newYear () (storedRequests (.int 7) 5) = some _ := rfl
  exact (failuresWithinAttempts_iff hload).mpr (by decide) [.recordRequest (.failure .other)]

/-- **The attempts are malformed, and the failures are kept**: the successful attempts are
negative. -/
theorem failuresWithinAttempts_refuted : ∃ diagnostics,
    CumulativeDiagnostics.load newYear () (storedRequests (.str "many") 5) = some diagnostics ∧
      diagnostics.snapshot.successfulAttempts = -5 ∧ ¬ diagnostics.FailuresWithinAttempts := by
  refine ⟨_, rfl, by decide, fun h => ?_⟩
  exact absurd h.within (by decide)

end MeltemVentilation
