import Mathlib.Algebra.Order.Field.Basic
import Mathlib.Algebra.Order.Floor.Div
import Mathlib.Data.Int.Log
import Mathlib.Tactic.Linarith

/-!
# Delays that double up to a maximum

After the `k`-th failure in a row one waits for `Doubling.delay maximum start k`: the first
time for `start`, each further time twice as long, and never longer than `maximum`. A program
that keeps only a capped count of the failures waits just as long, provided that the cap is
not reached before the maximum is (`Doubling.delay_min_cap`). That is so for every cap that is
one more than the upper logarithm of the ratio (`Doubling.le_mul_two_pow_clog`).

The times are those of an ordered semiring, the logarithm needs a field.
-/

namespace Doubling

/-! ### The delays -/

section Delays

variable {F : Type*} [Semiring F] [LinearOrder F] [IsStrictOrderedRing F]
  {maximum start : F} {j k cap : ℕ}

/-- The delay after the `k`-th failure in a row. -/
def delay (maximum start : F) (k : ℕ) : F := min maximum (start * (2 ^ (k - 1) : ℕ))

omit [IsStrictOrderedRing F] in
theorem delay_eq (k : ℕ) : delay maximum start k = min maximum (start * 2 ^ (k - 1)) := by
  simp [delay]

omit [IsStrictOrderedRing F] in
theorem delay_one : delay maximum start 1 = min maximum start := by
  simp [delay]

/-- Who has failed more often waits at least as long. -/
theorem delay_mono (hstart : 0 ≤ start) (h : j ≤ k) :
    delay maximum start j ≤ delay maximum start k := by
  have hpow : (2 : F) ^ (j - 1) ≤ 2 ^ (k - 1) :=
    pow_le_pow_right₀ one_le_two (by omega)
  rw [delay_eq, delay_eq]
  exact min_le_min_left _ (mul_le_mul_of_nonneg_left hpow hstart)

/-- **Once the maximum is reached, it stays.** -/
theorem delay_of_reached (hstart : 0 ≤ start) (h : j ≤ k)
    (hj : delay maximum start j = maximum) : delay maximum start k = maximum := by
  have hle : delay maximum start k ≤ maximum := min_le_left _ _
  apply le_antisymm hle
  calc maximum = delay maximum start j := hj.symm
    _ ≤ delay maximum start k := delay_mono hstart h

/-- **A cap on the count does not show**, if the maximum is reached at it. -/
theorem delay_min_cap (hstart : 0 ≤ start) (hcap : maximum ≤ start * 2 ^ (cap - 1)) (k : ℕ) :
    delay maximum start (min k cap) = delay maximum start k := by
  rcases le_total k cap with h | h
  · rw [min_eq_left h]
  · have hfull : delay maximum start cap = maximum := by
      rw [delay_eq, min_eq_left hcap]
    rw [min_eq_right h, hfull, delay_of_reached hstart h hfull]

/-- A start above the maximum may be taken down to it. -/
theorem delay_min_start (hmaximum : 0 ≤ maximum) (k : ℕ) :
    delay maximum (min start maximum) k = delay maximum start k := by
  rcases le_total start maximum with h | h
  · rw [min_eq_left h]
  · have hpow : (1 : F) ≤ 2 ^ (k - 1) := one_le_pow₀ one_le_two
    have hlow : maximum ≤ maximum * 2 ^ (k - 1) := le_mul_of_one_le_right hmaximum hpow
    have hhigh : maximum ≤ start * 2 ^ (k - 1) :=
      hlow.trans (mul_le_mul_of_nonneg_right h (by positivity))
    rw [min_eq_right h, delay_eq, delay_eq, min_eq_left hlow, min_eq_left hhigh]

/-- A count that saturates goes on from its saturated value. -/
theorem saturate_succ (k cap : ℕ) : min (min k cap + 1) cap = min (k + 1) cap := by
  omega

/-- **The delays are those of an uncapped count.** `sets k d` says of a program that in one of
its runs the `k`-th failure in a row sets the delay `d`. -/
structure Uncapped (maximum start : F) (sets : ℕ → F → Prop) : Prop where
  /-- Every number of failures in a row is possible. -/
  exists_delay : ∀ k, 1 ≤ k → ∃ d, sets k d
  /-- The delay is the uncapped one. -/
  eq : ∀ k d, sets k d → d = min maximum (start * 2 ^ (k - 1))
  /-- More failures, no shorter delay. -/
  mono : ∀ j k d e, sets j d → sets k e → j ≤ k → d ≤ e
  /-- Once reached, the maximum stays. -/
  stays : ∀ j k d, sets j maximum → sets k d → j ≤ k → d = maximum
  /-- The first failure after a success sets the first delay. -/
  first : ∀ d, sets 1 d → d = min maximum start

/-- The formula gives the rest. -/
theorem Uncapped.of_eq {sets : ℕ → F → Prop} (hstart : 0 ≤ start)
    (hexists : ∀ k, 1 ≤ k → ∃ d, sets k d) (heq : ∀ k d, sets k d → d = delay maximum start k) :
    Uncapped maximum start sets where
  exists_delay := hexists
  eq k d hd := (heq k d hd).trans (delay_eq k)
  mono j k d e hd he hle := by
    rw [heq j d hd, heq k e he]
    exact delay_mono hstart hle
  stays j k d hmaximum hd hle := by
    rw [heq k d hd]
    exact delay_of_reached hstart hle (heq j maximum hmaximum).symm
  first d hd := by rw [heq 1 d hd, delay_one]

end Delays

/-! ### The cap -/

section Cap

variable {F : Type*} [Field F] [LinearOrder F] [IsStrictOrderedRing F] [FloorSemiring F]
  {maximum start : F}

/-- The ceiling of a quotient of natural numbers. -/
theorem natCeil_natCast_div (a : ℕ) {b : ℕ} (hb : 0 < b) :
    ⌈(a : F) / b⌉₊ = (a + b - 1) / b := by
  apply eq_of_forall_ge_iff
  intro n
  calc ⌈(a : F) / b⌉₊ ≤ n ↔ (a : F) / b ≤ n := Nat.ceil_le
    _ ↔ (a : F) ≤ b * n := div_le_iff₀' (Nat.cast_pos.mpr hb)
    _ ↔ a ≤ b * n := by exact_mod_cast Iff.rfl
    _ ↔ (a + b - 1) / b ≤ n := (ceilDiv_le_iff_le_mul hb).symm

/-- So many doublings, the upper logarithm of the ratio, reach the maximum. -/
theorem le_mul_two_pow_clog (hstart : 0 < start) (hle : start ≤ maximum) :
    maximum ≤ start * 2 ^ (Int.clog 2 (maximum / start)).toNat := by
  have hratio : 1 ≤ maximum / start := (one_le_div hstart).mpr hle
  have hclog : (Int.clog 2 (maximum / start)).toNat = Nat.clog 2 ⌈maximum / start⌉₊ := by
    rw [Int.clog_of_one_le_right _ hratio, Int.toNat_natCast]
  have hpow : maximum / start ≤ 2 ^ Nat.clog 2 ⌈maximum / start⌉₊ := by
    calc maximum / start ≤ (⌈maximum / start⌉₊ : F) := Nat.le_ceil _
      _ ≤ ((2 ^ Nat.clog 2 ⌈maximum / start⌉₊ : ℕ) : F) :=
        Nat.cast_le.mpr (Nat.le_pow_clog one_lt_two _)
      _ = 2 ^ Nat.clog 2 ⌈maximum / start⌉₊ := by push_cast; rfl
  rw [hclog]
  exact (div_le_iff₀' hstart).mp hpow

end Cap

end Doubling
