import Mathlib.Algebra.Order.Group.Int
import Mathlib.Algebra.Order.Ring.Abs
import Mathlib.Algebra.Order.Ring.Int
import Mathlib.Tactic.Ring

/-!
# Rounding a quotient to the nearest integer, ties to even

The rounding of a floating-point library applied to a quotient of two integers:
`HalfEven.round n d` is the integer nearest to `n / d`, and the even one of the two
candidates when `n / d` lies exactly between them.

Nothing here computes with the definition beyond one bound,
`HalfEven.two_mul_abs_le`: the rounded quotient is at most half a unit away. It determines
the value wherever there is no tie (`HalfEven.eq_of_close`), and that is how a round trip
through two roundings is shown to be exact: the inner one errs by less than half a unit of
the outer one. It also keeps the rounded quotient between any two integers that the quotient
lies between (`HalfEven.le_round`, `HalfEven.round_le`).
-/

namespace HalfEven

/-- The integer nearest to `n / d`, ties to even, for a positive `d`. -/
def round (n d : ℤ) : ℤ :=
  if 2 * (n % d) < d then n / d
  else if d < 2 * (n % d) then n / d + 1
  else if n / d % 2 = 0 then n / d else n / d + 1

variable {n d : ℤ}

/-- **The rounded quotient is at most half a unit away**, measured in units of `1 / (2 d)`. -/
theorem two_mul_abs_le (hd : 0 < d) : 2 * |d * round n d - n| ≤ d := by
  have hdiv : d * (n / d) + n % d = n := Int.mul_ediv_add_emod n d
  have hnonneg : 0 ≤ n % d := Int.emod_nonneg n hd.ne'
  have hlt : n % d < d := Int.emod_lt_of_pos n hd
  have hsucc : d * (n / d + 1) = d * (n / d) + d := by ring
  rw [round]
  split
  · rw [abs_of_nonpos (by omega)]
    omega
  · split
    · rw [hsucc, abs_of_nonneg (by omega)]
      omega
    · split
      · rw [abs_of_nonpos (by omega)]
        omega
      · rw [hsucc, abs_of_nonneg (by omega)]
        omega

/-- **An integer closer than half a unit is the rounded quotient.** -/
theorem eq_of_close (hd : 0 < d) {m : ℤ} (h : 2 * |d * m - n| < d) : round n d = m := by
  have hr := two_mul_abs_le (n := n) hd
  have hdist : |d * (round n d - m)| < d := by
    have htri : |d * (round n d - m)| ≤ |d * round n d - n| + |d * m - n| := by
      have := abs_sub_le (d * round n d) n (d * m)
      rwa [← mul_sub, abs_sub_comm n] at this
    omega
  rw [abs_mul, abs_of_pos hd] at hdist
  have hlt : |round n d - m| < 1 := by
    by_contra hge
    have := mul_le_mul_of_nonneg_left (not_lt.mp hge) hd.le
    omega
  have hz : |round n d - m| = 0 := le_antisymm (by omega) (abs_nonneg _)
  exact sub_eq_zero.mp (abs_eq_zero.mp hz)

/-- Rounding does not fall below an integer that the quotient does not fall below. -/
theorem le_round (hd : 0 < d) {m : ℤ} (h : d * m ≤ n) : m ≤ round n d := by
  have hr := two_mul_abs_le (n := n) hd
  have habs := neg_abs_le (d * round n d - n)
  by_contra hlt
  have hstep : d * round n d ≤ d * (m - 1) := mul_le_mul_of_nonneg_left (by omega) hd.le
  rw [mul_sub, mul_one] at hstep
  omega

/-- Rounding does not rise above an integer that the quotient does not rise above. -/
theorem round_le (hd : 0 < d) {m : ℤ} (h : n ≤ d * m) : round n d ≤ m := by
  have hr := two_mul_abs_le (n := n) hd
  have habs := le_abs_self (d * round n d - n)
  by_contra hlt
  have hstep : d * (m + 1) ≤ d * round n d := mul_le_mul_of_nonneg_left (by omega) hd.le
  rw [mul_add, mul_one] at hstep
  omega

/-- An integer is its own rounding. -/
theorem round_mul_left (hd : 0 < d) (m : ℤ) : round (d * m) d = m :=
  eq_of_close hd (by simpa using hd)

end HalfEven
