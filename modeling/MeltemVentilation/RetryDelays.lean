import MeltemVentilation.GatewayReads
import MeltemVentilation.Lib.Doubling
import MeltemVentilation.ModbusClient.ReadBackoff
import Mathlib.Analysis.SpecialFunctions.Log.Base

/-!
# Counters that saturate

A failed read is tried again after a delay that doubles with every further failure up to a
maximum. `_ReadBackoff` and `OptionalGatewayRead` count the failures only up to a cap: the
former up to a constant, the latter up to the number of doublings it takes to reach its refresh
interval, a ceiling of a logarithm. Both caps are high enough. After the `k`-th failure in a
row the delay is `min maximum (start * 2 ^ (k - 1))`, `Doubling.delay`, whatever `k` is
(`retryDelays_uncapped`).

The invariant is the same for both. Beside the counter a run records the failures in a row,
without a cap, and the counter is the minimum of that number and the cap; the rest is the
arithmetic of `Doubling`. The delays of `OptionalGatewayRead` are those of the source in exact
arithmetic, in any ordered field: `RetrySettings` is the part of its settings they depend on,
and the object with its clock in ticks has the same (`OptionalReadSettings.retryDelay_cast`).
-/

namespace MeltemVentilation

open Transition

/-! ### Pauses of refused reads -/

/-- The calls of an instance of `_ReadBackoff`; a key is a unit and one of its components. -/
inductive BackoffCall (C : Type) where
  | isActive (now : Monotonic) (key : ℕ × C)
  | markFailure (now : Monotonic) (key : ℕ × C)
  | clear (key : ℕ × C)
  | clearSlave (slave : ℕ)
deriving DecidableEq

namespace ReadBackoff

variable {C : Type} [DecidableEq C]

/-- One call. -/
def step (settings : BackoffSettings) (backoff : ReadBackoff (ℕ × C)) :
    BackoffCall C → Option (ReadBackoff (ℕ × C))
  | .isActive now key => some (backoff.expire now key)
  | .markFailure now key => some (backoff.markFailure settings key now)
  | .clear key => some (backoff.clear key)
  | .clearSlave slave => some (backoff.clearSlave slave)

/-- The failures in a row of each key, not capped: those since it was cleared. -/
def countFailures (_ : ReadBackoff (ℕ × C)) (call : BackoffCall C) (failures : ℕ × C → ℕ) :
    ℕ × C → ℕ :=
  match call with
  | .isActive _ _ => failures
  | .markFailure _ key => Function.update failures key (failures key + 1)
  | .clear key => Function.update failures key 0
  | .clearSlave slave => fun key => if key.1 = slave then 0 else failures key

/-- **The runs of an instance**, with the failures in a row of each key: any calls, in any
order. -/
def Counted (settings : BackoffSettings) : ReadBackoff (ℕ × C) × (ℕ × C → ℕ) → Prop :=
  Reach (recorded (step settings) countFailures) (fun _ _ => True)
    fun x => x.1 = {} ∧ x.2 = fun _ => 0

/-- **The counter is the number of failures in a row**, up to the cap. -/
theorem counter_of_counted {settings : BackoffSettings}
    {x : ReadBackoff (ℕ × C) × (ℕ × C → ℕ)} (h : Counted settings x) (key : ℕ × C) :
    (x.1.failures key).getD 0 = min (x.2 key) settings.maxFailures := by
  revert key
  refine h.invariant (P := fun x => ∀ key, (x.1.failures key).getD 0 =
    min (x.2 key) settings.maxFailures) ?_ ?_
  · rintro ⟨_, _⟩ ⟨rfl, rfl⟩ key
    simp
  · rintro ⟨backoff, failures⟩ call ⟨after, failures'⟩ ih - hstep key
    obtain ⟨hstep, hcount⟩ := recorded_eq_some.mp hstep
    obtain rfl : failures' = countFailures backoff call failures := hcount
    have hkey : (backoff.failures key).getD 0 = min (failures key) settings.maxFailures := ih key
    cases call with
    | isActive now other =>
      obtain rfl := Option.some.inj hstep
      -- Only a pause is forgotten here, no failure.
      simp only [expire, countFailures]
      split <;> exact hkey
    | markFailure now other =>
      obtain rfl := Option.some.inj hstep
      by_cases heq : key = other
      · subst heq
        simp only [markFailure, countFailures, Function.update_self, Option.getD_some, hkey]
        exact Doubling.saturate_succ _ _
      · simpa [markFailure, countFailures, heq] using hkey
    | clear other =>
      obtain rfl := Option.some.inj hstep
      by_cases heq : key = other
      · subst heq
        simp [clear, countFailures]
      · simpa [clear, countFailures, heq] using hkey
    | clearSlave slave =>
      obtain rfl := Option.some.inj hstep
      by_cases heq : key.1 = slave
      · simp [clearSlave, countFailures, heq]
      · simpa [clearSlave, countFailures, heq] using hkey

/-- **The pause after a failure** is the uncapped one, where the maximum is reached at the
cap. -/
theorem pausedUntil_of_counted {settings : BackoffSettings}
    (hcap : settings.maxSeconds ≤ settings.startSeconds * 2 ^ (settings.maxFailures - 1))
    {x : ReadBackoff (ℕ × C) × (ℕ × C → ℕ)} (h : Counted settings x) (key : ℕ × C)
    (now : Monotonic) :
    (x.1.markFailure settings key now).pausedUntil key = some (now +
      seconds (Doubling.delay settings.maxSeconds settings.startSeconds (x.2 key + 1))) := by
  have hpause : (x.1.markFailure settings key now).pausedUntil key = some (now +
      seconds (Doubling.delay settings.maxSeconds settings.startSeconds
        (min ((x.1.failures key).getD 0 + 1) settings.maxFailures))) := by
    simp [markFailure, Doubling.delay]
  rw [hpause, counter_of_counted h, Doubling.saturate_succ,
    Doubling.delay_min_cap (Nat.zero_le _) hcap]

/-- In a run of the instance, the `k`-th failure of a key in a row pauses it for so long. -/
def PausesAfter (C : Type) [DecidableEq C] (settings : BackoffSettings) (k pause : ℕ) : Prop :=
  ∃ (x : ReadBackoff (ℕ × C) × (ℕ × C → ℕ)) (key : ℕ × C) (now : Monotonic),
    Counted settings x ∧ x.2 key + 1 = k ∧
      (x.1.markFailure settings key now).pausedUntil key = some (now + seconds pause)

/-- A key may fail any number of times. -/
theorem exists_counted (settings : BackoffSettings) (key : ℕ × C) (k : ℕ) :
    ∃ x, Counted settings x ∧ x.2 key = k := by
  induction k with
  | zero => exact ⟨({}, fun _ => 0), .start ⟨rfl, rfl⟩, rfl⟩
  | succ k ih =>
    obtain ⟨x, hx, hk⟩ := ih
    have hnext : Counted settings (x.1.markFailure settings key 0,
        countFailures x.1 (.markFailure 0 key) x.2) :=
      Reach.next (l := .markFailure 0 key) hx trivial (recorded_eq_some.mpr ⟨rfl, rfl⟩)
    exact ⟨_, hnext, by simp [countFailures, hk]⟩

/-- **The pauses of an instance** whose maximum is reached at the cap. -/
theorem uncapped_of_cap [Nonempty C] {settings : BackoffSettings}
    (hcap : settings.maxSeconds ≤ settings.startSeconds * 2 ^ (settings.maxFailures - 1)) :
    Doubling.Uncapped settings.maxSeconds settings.startSeconds (PausesAfter C settings) := by
  refine .of_eq (Nat.zero_le _) ?_ ?_
  · intro k hk
    obtain ⟨component⟩ := ‹Nonempty C›
    obtain ⟨x, hx, hcount⟩ := exists_counted settings ((0, component) : ℕ × C) (k - 1)
    have hsucc : x.2 (0, component) + 1 = k := by omega
    exact ⟨_, x, _, 0, hx, hsucc, pausedUntil_of_counted hcap hx _ 0⟩
  · rintro k pause ⟨x, key, now, hx, rfl, hpause⟩
    have hsame := (pausedUntil_of_counted hcap hx key now).symm.trans hpause
    have hpauses : seconds _ = seconds pause := Nat.add_left_cancel (Option.some.inj hsame)
    exact (Nat.eq_of_mul_eq_mul_right (by norm_num) hpauses).symm

end ReadBackoff

/-! ### Retries of optional values -/

/-- The part of the settings of `OptionalGatewayRead` that its retries depend on, in seconds
that need not be whole. -/
structure RetrySettings (F : Type*) where
  refreshSeconds : F
  retrySeconds : F
deriving Repr

namespace RetrySettings

section Delays

variable {F : Type*} [Field F] [LinearOrder F] [IsStrictOrderedRing F] [FloorSemiring F]
  (settings : RetrySettings F)

/-- `_retry_seconds`. -/
def retry : F := min settings.retrySeconds settings.refreshSeconds

/-- `_max_failures`: the ceiling of the binary logarithm is the upper logarithm. -/
def maxFailures : ℕ :=
  1 + if 0 < settings.retry then
    (Int.clog 2 (settings.refreshSeconds / settings.retry)).toNat else 0

/-- The delay after so many counted failures. -/
def retryDelay (failures : ℕ) : F :=
  min settings.refreshSeconds (settings.retry * 2 ^ (failures - 1))

/-- What the end of a read does to the counter. -/
def counted {T : Type} (failures : ℕ) : TaskState T → ℕ
  | .returned _ => 0
  | .modbusError => min (failures + 1) settings.maxFailures
  | _ => failures

variable {settings}

/-- **The delay does not depend on the cap.** -/
theorem retryDelay_min_cap (hrefresh : 0 < settings.refreshSeconds)
    (hretry : 0 < settings.retrySeconds) (k : ℕ) :
    settings.retryDelay (min k settings.maxFailures) =
      Doubling.delay settings.refreshSeconds settings.retrySeconds k := by
  have hpos : 0 < settings.retry := lt_min hretry hrefresh
  have hcap : settings.refreshSeconds ≤ settings.retry * 2 ^ (settings.maxFailures - 1) := by
    rw [maxFailures, if_pos hpos, Nat.add_sub_cancel_left]
    exact Doubling.le_mul_two_pow_clog hpos (min_le_right _ _)
  calc settings.retryDelay (min k settings.maxFailures)
      = Doubling.delay settings.refreshSeconds settings.retry (min k settings.maxFailures) :=
      (Doubling.delay_eq _).symm
    _ = Doubling.delay settings.refreshSeconds settings.retry k :=
      Doubling.delay_min_cap hpos.le hcap k
    _ = Doubling.delay settings.refreshSeconds settings.retrySeconds k :=
      Doubling.delay_min_start hrefresh.le k

end Delays

/-- Over the real numbers, the cap is written as the source writes it. -/
theorem maxFailures_real {settings : RetrySettings ℝ} (hrefresh : 0 < settings.refreshSeconds)
    (hretry : 0 < settings.retrySeconds) : (settings.maxFailures : ℤ) =
      1 + ⌈Real.logb 2 (settings.refreshSeconds / settings.retry)⌉ := by
  have hpos : 0 < settings.retry := lt_min hretry hrefresh
  have hratio : 1 ≤ settings.refreshSeconds / settings.retry :=
    (one_le_div hpos).mpr (min_le_right _ _)
  have hclog : ⌈Real.logb 2 (settings.refreshSeconds / settings.retry)⌉ =
      Int.clog 2 (settings.refreshSeconds / settings.retry) := by
    exact_mod_cast Real.ceil_logb_natCast (b := 2) (zero_le_one.trans hratio)
  have hnonneg : 0 ≤ Int.clog 2 (settings.refreshSeconds / settings.retry) := by
    rw [Int.clog_of_one_le_right _ hratio]
    exact Int.natCast_nonneg _
  rw [maxFailures, if_pos hpos, hclog]
  push_cast
  rw [Int.toNat_of_nonneg hnonneg]

end RetrySettings

/-- What the end of a read does to the number of failures in a row, without a cap. -/
def failuresAfter {T : Type} (failures : ℕ) : TaskState T → ℕ
  | .returned _ => 0
  | .modbusError => failures + 1
  | _ => failures

/-- The failures in a row after reads that ended so. -/
def failuresInRow {T : Type} (outcomes : List (TaskState T)) : ℕ :=
  outcomes.foldl failuresAfter 0

namespace RetrySettings

variable {F : Type*} [Field F] [LinearOrder F] [IsStrictOrderedRing F] [FloorSemiring F]
  {T : Type}

omit [IsStrictOrderedRing F] in
/-- One read keeps the counter at the failures in a row, up to the cap. -/
theorem counted_min (settings : RetrySettings F) (failures : ℕ) (outcome : TaskState T) :
    settings.counted (min failures settings.maxFailures) outcome =
      min (failuresAfter failures outcome) settings.maxFailures := by
  cases outcome with
  | modbusError => exact Doubling.saturate_succ _ _
  | returned _ => simp [counted, failuresAfter]
  | running _ | otherError | cancelled => rfl

omit [IsStrictOrderedRing F] in
/-- **The counter is the number of failures in a row**, up to the cap. -/
theorem foldl_counted (settings : RetrySettings F) (outcomes : List (TaskState T)) :
    outcomes.foldl settings.counted 0 =
      min (failuresInRow outcomes) settings.maxFailures := by
  -- From any number of failures on, not only from none.
  suffices h : ∀ failures, outcomes.foldl settings.counted (min failures settings.maxFailures) =
      min (outcomes.foldl failuresAfter failures) settings.maxFailures by
    simpa [failuresInRow] using h 0
  intro failures
  induction outcomes generalizing failures with
  | nil => rfl
  | cons outcome outcomes ih =>
    rw [List.foldl_cons, List.foldl_cons, counted_min, ih]

/-- After some reads, the next one is the `k`-th failure in a row and sets this delay. -/
def RetriesAfter (T : Type) (settings : RetrySettings F) (k : ℕ) (delay : F) : Prop :=
  ∃ outcomes : List (TaskState T), failuresInRow (outcomes ++ [TaskState.modbusError]) = k ∧
    settings.retryDelay ((outcomes ++ [TaskState.modbusError]).foldl settings.counted 0) = delay

/-- **The delays of an optional value**, for any interval and any first delay. -/
theorem uncapped {settings : RetrySettings F} (hrefresh : 0 < settings.refreshSeconds)
    (hretry : 0 < settings.retrySeconds) : Doubling.Uncapped settings.refreshSeconds
      settings.retrySeconds (settings.RetriesAfter T) := by
  refine .of_eq hretry.le ?_ ?_
  · intro k hk
    have hall : ∀ n, failuresInRow (List.replicate n (.modbusError : TaskState T)) = n := by
      intro n
      induction n with
      | zero => rfl
      | succ n ih =>
        rw [List.replicate_succ', failuresInRow, List.foldl_append]
        exact congrArg (· + 1) ih
    refine ⟨_, List.replicate (k - 1) TaskState.modbusError, ?_, rfl⟩
    rw [← List.replicate_succ', hall]
    omega
  · rintro k delay ⟨outcomes, rfl, rfl⟩
    rw [foldl_counted settings, retryDelay_min_cap hrefresh hretry]

end RetrySettings

/-! ### The object itself -/

namespace OptionalReadSettings

variable (settings : OptionalReadSettings) {F : Type*} [Field F] [LinearOrder F]
  [IsStrictOrderedRing F] [FloorSemiring F]

/-- The settings its retries depend on, in ticks. -/
def retrySettings (F : Type*) [NatCast F] : RetrySettings F where
  refreshSeconds := settings.refreshSeconds
  retrySeconds := settings.retrySeconds

omit [FloorSemiring F] in
theorem retry_cast : ((settings.retry : ℕ) : F) = (settings.retrySettings F).retry :=
  Nat.cast_min _ _

/-- **The cap of the object** is that of its settings. -/
theorem maxFailures_cast : settings.maxFailures = (settings.retrySettings F).maxFailures := by
  have hle : settings.retry ≤ settings.refreshSeconds := min_le_right _ _
  rw [maxFailures, RetrySettings.maxFailures, ← retry_cast]
  by_cases hpos : 0 < settings.retry
  · have hcast : (0 : F) < settings.retry := Nat.cast_pos.mpr hpos
    have hratio : 1 ≤ (settings.refreshSeconds : F) / settings.retry :=
      (one_le_div hcast).mpr (Nat.cast_le.mpr hle)
    rw [if_pos hpos, if_pos hcast]
    change _ = 1 + (Int.clog 2 ((settings.refreshSeconds : F) / settings.retry)).toNat
    rw [Int.clog_of_one_le_right _ hratio, Int.toNat_natCast, Doubling.natCeil_natCast_div _ hpos]
  · rw [if_neg hpos, if_neg (by simpa using hpos)]

omit [FloorSemiring F] in
/-- **The delays of the object** are those of its settings. -/
theorem retryDelay_cast (failures : ℕ) : ((settings.retryDelay failures : ℕ) : F) =
    (settings.retrySettings F).retryDelay failures := by
  rw [retryDelay, RetrySettings.retryDelay, ← retry_cast]
  push_cast
  rfl

/-- **The delay of the object does not depend on its cap.** -/
theorem retryDelay_min_cap {settings : OptionalReadSettings}
    (hrefresh : 0 < settings.refreshSeconds) (hretry : 0 < settings.retrySeconds) (k : ℕ) :
    settings.retryDelay (min k settings.maxFailures) =
      Doubling.delay settings.refreshSeconds settings.retrySeconds k := by
  have hcast : ((settings.retryDelay (min k settings.maxFailures) : ℕ) : ℚ) =
      Doubling.delay (settings.refreshSeconds : ℚ) settings.retrySeconds k := by
    rw [retryDelay_cast, settings.maxFailures_cast (F := ℚ)]
    have hcap : (settings.retrySettings ℚ).retryDelay
        (min k (settings.retrySettings ℚ).maxFailures) =
          Doubling.delay (settings.refreshSeconds : ℚ) settings.retrySeconds k :=
      RetrySettings.retryDelay_min_cap (Nat.cast_pos.mpr hrefresh) (Nat.cast_pos.mpr hretry) k
    exact hcap
  rw [← Nat.cast_inj (R := ℚ), hcast, Doubling.delay, Doubling.delay]
  push_cast
  rfl

end OptionalReadSettings

namespace OptionalGatewayRead

variable {T : Type} {settings : OptionalReadSettings}

/-- The failures in a row of the object, not capped. -/
def countFailures (s : OptionalGatewayRead T) (l : ReadStep T) (failures : ℕ) : ℕ :=
  match l, s.task with
  | .resume _, some read => failuresAfter failures read.outcome
  | _, _ => failures

/-- **The runs of the object**, with its failures in a row. -/
def Counted (settings : OptionalReadSettings) : OptionalGatewayRead T × ℕ → Prop :=
  Reach (recorded (step settings) countFailures) (fun _ _ => True) fun x => x.1 = {} ∧ x.2 = 0

/-- The resumption counts as the ends of the reads do. -/
theorem resumed_failures (s : OptionalGatewayRead T) (now : Monotonic) (generation : ℕ)
    (outcome : TaskState T) : (s.resumed settings now generation outcome).failures =
      (settings.retrySettings ℚ).counted s.failures outcome := by
  cases outcome with
  | modbusError =>
    rw [RetrySettings.counted, ← settings.maxFailures_cast]
    rfl
  | running _ | returned _ | otherError | cancelled => rfl

/-- Consumers that come and go leave the counter alone. -/
theorem setEnabled_failures (s : OptionalGatewayRead T) (now : Monotonic) (consumer : String)
    (enabled : Bool) : (s.setEnabled settings now consumer enabled).failures = s.failures := by
  cases enabled with
  | true =>
    simp only [setEnabled, if_true]
    split
    · rfl
    · split <;> rfl
  | false =>
    simp only [setEnabled, Bool.false_eq_true, if_false]
    split
    · rfl
    · split <;> rfl

/-- Apart from the resumption, no step counts. -/
theorem failures_of_step {s t : OptionalGatewayRead T} {l : ReadStep T}
    (hstep : step settings s l = some t) : (∃ now read, l = .resume now ∧ s.task = some read ∧
        t = s.resumed settings now read.generation read.outcome) ∨
      ((∀ now, l ≠ .resume now) ∧ t.failures = s.failures) := by
  cases l with
  | setEnabled now consumer enabled =>
    obtain rfl := Option.some.inj hstep
    exact .inr ⟨by simp, setEnabled_failures s now consumer enabled⟩
  | readIfDue now =>
    simp only [step, Option.ite_none_left_eq_some, Option.some.injEq] at hstep
    obtain ⟨-, rfl⟩ := hstep
    refine .inr ⟨by simp, ?_⟩
    rw [startIfDue]
    split <;> rfl
  | finish outcome =>
    simp only [step] at hstep
    grind
  | cancelTick =>
    simp only [step] at hstep
    grind
  | resume now =>
    simp only [step] at hstep
    grind

/-- **The counter of the object is its number of failures in a row**, up to the cap. -/
theorem counter_of_counted {x : OptionalGatewayRead T × ℕ} (h : Counted settings x) :
    x.1.failures = min x.2 settings.maxFailures := by
  refine h.invariant (P := fun x => x.1.failures = min x.2 settings.maxFailures) ?_ ?_
  · rintro ⟨_, _⟩ ⟨rfl, rfl⟩
    simp
  · rintro ⟨s, failures⟩ l ⟨t, failures'⟩ ih - hstep
    obtain ⟨hstep, hcount⟩ := recorded_eq_some.mp hstep
    obtain rfl : failures' = countFailures s l failures := hcount
    have hcounter : s.failures = min failures settings.maxFailures := ih
    change t.failures = min (countFailures s l failures) settings.maxFailures
    rcases failures_of_step hstep with ⟨now, read, rfl, htask, rfl⟩ | ⟨hother, hsame⟩
    · have htask : s.task = some read := htask
      have hcounts : countFailures s (.resume now) failures =
          failuresAfter failures read.outcome := by simp only [countFailures, htask]
      rw [hcounts, resumed_failures, hcounter, settings.maxFailures_cast (F := ℚ),
        RetrySettings.counted_min]
    · have hkept : countFailures s l failures = failures := by
        cases l with
        | resume now => exact absurd rfl (hother now)
        | setEnabled _ _ _ | readIfDue _ | finish _ | cancelTick => rfl
      rw [hkept, hsame, hcounter]

/-- **After a failure in a row**, the next read is due after the uncapped delay, unless the
value has got its first consumer again in the meantime. -/
theorem nextDue_of_counted (hrefresh : 0 < settings.refreshSeconds)
    (hretry : 0 < settings.retrySeconds) {x : OptionalGatewayRead T × ℕ}
    (h : Counted settings x) {generation : ℕ}
    (hgeneration : ¬(x.1.enabled ∧ x.1.disableGeneration ≠ generation)) (now : Monotonic) :
    (x.1.resumed settings now generation .modbusError).nextDue =
      now + Doubling.delay settings.refreshSeconds settings.retrySeconds (x.2 + 1) := by
  rw [← OptionalReadSettings.retryDelay_min_cap hrefresh hretry, ← Doubling.saturate_succ,
    ← counter_of_counted h]
  simp [resumed, hgeneration]

/-- In a run of the object, the `k`-th failure in a row delays the next read for so long. -/
def RetriesAfter (T : Type) (settings : OptionalReadSettings) (k delay : ℕ) : Prop :=
  ∃ (x : OptionalGatewayRead T × ℕ) (read : AwaitedRead T) (now : Monotonic),
    Counted settings x ∧ x.1.task = some read ∧ read.outcome = .modbusError ∧
      ¬(x.1.enabled ∧ x.1.disableGeneration ≠ read.generation) ∧ x.2 + 1 = k ∧
      (x.1.resumed settings now read.generation read.outcome).nextDue = now + delay

/-- Every number of failures in a row happens, and a read that fails once more. -/
theorem exists_counted (settings : OptionalReadSettings) (k : ℕ) :
    ∃ s : OptionalGatewayRead T, Counted settings (s, k) ∧ s.enabled = true ∧
      s.task = some { state := .modbusError, generation := s.disableGeneration } := by
  -- A read that is due is started and fails.
  have hfail : ∀ {s : OptionalGatewayRead T} {n}, Counted settings (s, n) → s.enabled = true →
      s.task = none → ∃ t : OptionalGatewayRead T, Counted settings (t, n) ∧ t.enabled = true ∧
        t.task = some { state := .modbusError, generation := t.disableGeneration } := by
    intro s n hs henabled htask
    have hstart : Counted settings (({ s with
        task := some { state := .running false, generation := s.disableGeneration } } :
        OptionalGatewayRead T), n) :=
      Reach.next (l := .readIfDue s.nextDue) hs trivial
        (recorded_eq_some.mpr ⟨by simp [step, startIfDue, htask, henabled], rfl⟩)
    exact ⟨_, Reach.next (l := .finish .modbusError) hstart trivial
      (recorded_eq_some.mpr ⟨rfl, rfl⟩), henabled, rfl⟩
  induction k with
  | zero =>
    have hstart : Counted (T := T) settings ({}, 0) := .start ⟨rfl, rfl⟩
    exact hfail (hstart.next (l := .setEnabled 0 "" true) trivial
      (recorded_eq_some.mpr ⟨rfl, rfl⟩)) rfl rfl
  | succ k ih =>
    obtain ⟨s, hs, henabled, htask⟩ := ih
    have hresumed : Counted settings
        (s.resumed settings 0 s.disableGeneration .modbusError, k + 1) :=
      Reach.next (l := .resume 0) hs trivial (recorded_eq_some.mpr
        ⟨by simp [step, htask, AwaitedRead.outcome],
          by simp [countFailures, htask, AwaitedRead.outcome, failuresAfter]⟩)
    exact hfail hresumed henabled rfl

/-- **The delays of the object.** -/
theorem uncapped (hrefresh : 0 < settings.refreshSeconds) (hretry : 0 < settings.retrySeconds) :
    Doubling.Uncapped settings.refreshSeconds settings.retrySeconds
      (RetriesAfter T settings) := by
  refine .of_eq hretry.le ?_ ?_
  · intro k hk
    obtain ⟨s, hs, -, htask⟩ := exists_counted (T := T) settings (k - 1)
    have hsucc : k - 1 + 1 = k := by omega
    have hgeneration : ¬(s.enabled ∧ s.disableGeneration ≠ s.disableGeneration) := by simp
    exact ⟨_, (s, k - 1), _, 0, hs, htask, rfl, hgeneration, hsucc,
      nextDue_of_counted hrefresh hretry hs hgeneration 0⟩
  · rintro k delay ⟨x, read, now, hx, -, houtcome, hgeneration, rfl, hdue⟩
    rw [houtcome, nextDue_of_counted hrefresh hretry hx hgeneration] at hdue
    exact (Nat.add_left_cancel hdue).symm

end OptionalGatewayRead

/-! ### The result -/

/-- **Counters that saturate never change a delay.** The pauses of both instances of
`_ReadBackoff`, the delays that follow from the settings of `OptionalGatewayRead` in exact
arithmetic, and the delays that the object sets are those of an uncapped counter. -/
theorem retryDelays_uncapped {C T : Type} [DecidableEq C] [Nonempty C] {F : Type*} [Field F]
    [LinearOrder F] [IsStrictOrderedRing F] [FloorSemiring F] :
    (∀ settings ∈ [optionalReadBackoff, componentReadBackoff], Doubling.Uncapped
      settings.maxSeconds settings.startSeconds (ReadBackoff.PausesAfter C settings)) ∧
    (∀ settings : RetrySettings F, 0 < settings.refreshSeconds → 0 < settings.retrySeconds →
      Doubling.Uncapped settings.refreshSeconds settings.retrySeconds
        (settings.RetriesAfter T)) ∧
    ∀ settings : OptionalReadSettings, 0 < settings.refreshSeconds →
      0 < settings.retrySeconds → Doubling.Uncapped settings.refreshSeconds
        settings.retrySeconds (OptionalGatewayRead.RetriesAfter T settings) := by
  refine ⟨fun settings hsettings => ?_, fun _ => RetrySettings.uncapped,
    fun _ => OptionalGatewayRead.uncapped⟩
  apply ReadBackoff.uncapped_of_cap
  -- Five failures reach 480 seconds of 300, four reach 80 of 60.
  have hall : ∀ settings ∈ [optionalReadBackoff, componentReadBackoff],
      settings.maxSeconds ≤ settings.startSeconds * 2 ^ (settings.maxFailures - 1) := by decide
  exact hall settings hsettings

/-- A value that is refreshed every 100 seconds and retried after 30: the third failure in a row
delays the next read for 100 seconds, and so does the seventh, which the counter does not tell
from it. -/
theorem retryDelays_uncapped_sample :
    Doubling.Uncapped (100 : ℚ) 30 ((⟨100, 30⟩ : RetrySettings ℚ).RetriesAfter Unit) ∧
      min (100 : ℚ) (30 * 2 ^ (3 - 1)) = 100 ∧ min (100 : ℚ) (30 * 2 ^ (7 - 1)) = 100 := by
  refine ⟨(retryDelays_uncapped (C := Unit)).2.1 ⟨100, 30⟩ ?_ ?_, ?_, ?_⟩
  all_goals norm_num

end MeltemVentilation
