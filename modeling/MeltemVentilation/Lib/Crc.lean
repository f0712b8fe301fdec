import Mathlib.Data.BitVec
import Mathlib.Algebra.Field.ZMod
import Mathlib.Algebra.BigOperators.Fin

/-!
# Cyclic redundancy checks

A cyclic redundancy check in its reflected form: a register of `w` bits takes in the bits of a
message one after the other, the least significant bit of a byte first. A bit is added to the
lowest bit of the register, which then moves down by one place, and the polynomial is added if
a set bit has been moved out (`Crc.bit`, `Crc.feed`).

Everything said here comes from two facts about one move. It is additive and loses nothing
(`Crc.shift_xor`, `Crc.shift_injective`, the latter when the polynomial has its top bit), so
that a register that takes in at most `w` bits remembers all of them. And it keeps the sum of
the bits of the register (`Crc.parity_shift`) when the polynomial has an odd number of terms.

| what happens to a message | why it shows | theorem |
|---|---|---|
| its check follows it | the register is empty afterwards | `Crc.feed_eq_zero_iff` |
| at most `w` bits in a row change | two registers never meet again | `Crc.feed_ne_of_burst` |
| an odd number of bits changes | the sum of the register's bits differs | `Crc.feed_ne_of_odd` |
-/

namespace Crc

variable {w : ℕ} (poly : BitVec w)

/-! ### The register -/

/-- The register moves down by one place. -/
def shift (crc : BitVec w) : BitVec w :=
  (crc >>> 1) ^^^ (if crc.getLsbD 0 then poly else 0#w)

/-- The register takes in a bit. -/
def bit (crc : BitVec w) (b : Bool) : BitVec w :=
  shift poly (crc ^^^ (BitVec.ofBool b).setWidth w)

/-- The register takes in the bits of a message. -/
def feed (crc : BitVec w) (bits : List Bool) : BitVec w :=
  bits.foldl (bit poly) crc

@[simp] theorem feed_nil (crc : BitVec w) : feed poly crc [] = crc := rfl

@[simp] theorem feed_cons (crc : BitVec w) (b : Bool) (bits : List Bool) :
    feed poly crc (b :: bits) = feed poly (bit poly crc b) bits := rfl

@[simp] theorem feed_append (crc : BitVec w) (bits bits' : List Bool) :
    feed poly crc (bits ++ bits') = feed poly (feed poly crc bits) bits' :=
  List.foldl_append

@[simp] theorem shift_zero : shift poly 0#w = 0#w := by
  simp [shift]

/-- Moving down is additive. -/
theorem shift_xor (x y : BitVec w) : shift poly (x ^^^ y) = shift poly x ^^^ shift poly y := by
  simp only [shift, BitVec.ushiftRight_xor_distrib, BitVec.getLsbD_xor]
  ext i hi
  cases x.getLsbD 0 <;> cases y.getLsbD 0 <;>
    simp [Bool.xor_comm, Bool.xor_left_comm]

/-! ### Nothing is lost -/

/-- The polynomial has its top bit. -/
abbrev Monic : Prop := poly.getLsbD (w - 1) = true

variable {poly}

/-- Only the empty register is moved to the empty one: a set bit that is moved out leaves the
top bit of the polynomial behind. -/
theorem eq_zero_of_shift (h : Monic poly) {x : BitVec w} (hx : shift poly x = 0#w) :
    x = 0#w := by
  rcases Nat.eq_zero_or_pos w with rfl | hw
  · exact Subsingleton.elim _ _
  have hbit : x.getLsbD 0 = false := by
    by_contra hset
    have htop := congrArg (BitVec.getLsbD · (w - 1)) hx
    rw [shift, if_pos (Bool.eq_true_of_not_eq_false hset)] at htop
    simp [h, BitVec.getLsbD_of_ge x (1 + (w - 1)) (by omega)] at htop
  rw [shift, if_neg (by simp [hbit]), BitVec.xor_zero] at hx
  apply BitVec.eq_of_getLsbD_eq
  intro i hi
  cases i with
  | zero => rw [hbit, BitVec.getLsbD_zero]
  | succ i =>
    have hnext := congrArg (BitVec.getLsbD · i) hx
    simpa [Nat.add_comm] using hnext

/-- **Moving down loses nothing.** -/
theorem shift_injective (h : Monic poly) : Function.Injective (shift poly) := by
  intro x y hxy
  refine BitVec.xor_eq_zero_iff.mp (eq_zero_of_shift h ?_)
  rw [shift_xor, BitVec.xor_eq_zero_iff.mpr hxy]

theorem iterate_shift_injective (h : Monic poly) (n : ℕ) :
    Function.Injective ((shift poly)^[n]) :=
  (shift_injective h).iterate n

/-- Two registers that differ still differ after both have taken in the same bits. -/
theorem feed_injective (h : Monic poly) (bits : List Bool) :
    Function.Injective fun crc => feed poly crc bits := by
  induction bits with
  | nil => exact fun _ _ hxy => hxy
  | cons b bits ih =>
    intro x y hxy
    exact BitVec.xor_left_inj _ |>.mp (shift_injective h (ih hxy))

/-! ### A few bits at once -/

/-- Some bits as a register, the first one lowest. -/
def ofBits (bits : List Bool) : BitVec w := (BitVec.ofBoolListLE bits).setWidth w

theorem getLsbD_ofBits (bits : List Bool) (i : ℕ) :
    (ofBits bits : BitVec w).getLsbD i = (decide (i < w) && bits.getD i false) := by
  rw [ofBits, BitVec.getLsbD_setWidth, BitVec.getLsbD_ofBoolListLE]

@[simp] theorem ofBits_nil : (ofBits [] : BitVec w) = 0#w := by
  apply BitVec.eq_of_getLsbD_eq
  intro i hi
  simp [getLsbD_ofBits]

theorem ofBits_cons (b : Bool) (bits : List Bool) :
    (ofBits (b :: bits) : BitVec w) = (BitVec.ofBool b).setWidth w ^^^ (ofBits bits <<< 1) := by
  apply BitVec.eq_of_getLsbD_eq
  intro i hi
  rw [BitVec.getLsbD_xor, BitVec.getLsbD_shiftLeft, getLsbD_ofBits, getLsbD_ofBits,
    BitVec.getLsbD_setWidth, BitVec.getLsbD_ofBool]
  cases i with
  | zero => simp [hi]
  | succ i => simp [hi, Nat.lt_of_succ_lt hi]

/-- Bits that leave the top place free are moved down together. -/
theorem shift_shiftLeft {bits : List Bool} (h : bits.length < w) :
    shift poly (ofBits bits <<< 1) = ofBits bits := by
  have hbit : (ofBits bits <<< 1 : BitVec w).getLsbD 0 = false := by simp
  rw [shift, if_neg (by simp [hbit]), BitVec.xor_zero]
  apply BitVec.eq_of_getLsbD_eq
  intro i hi
  rw [BitVec.getLsbD_ushiftRight, BitVec.getLsbD_shiftLeft, getLsbD_ofBits, getLsbD_ofBits]
  by_cases hnext : i + 1 < w
  · simp [hi, hnext, Nat.add_comm]
  · have hlast : bits[i]? = none := List.getElem?_eq_none (by omega)
    simp [hlast]

/-- **Bits that fit into the register** may be added at once and then be moved down. -/
theorem feed_eq_iterate_shift {bits : List Bool} (h : bits.length ≤ w) (crc : BitVec w) :
    feed poly crc bits = (shift poly)^[bits.length] (crc ^^^ ofBits bits) := by
  induction bits generalizing crc with
  | nil => simp
  | cons b bits ih =>
    have hshort : bits.length < w := h
    calc feed poly crc (b :: bits)
        = (shift poly)^[bits.length] (bit poly crc b ^^^ ofBits bits) := ih hshort.le _
      _ = (shift poly)^[bits.length] (shift poly (crc ^^^ ofBits (b :: bits))) := by
          rw [bit, ofBits_cons, ← BitVec.xor_assoc, shift_xor poly (crc ^^^ _),
            shift_shiftLeft hshort]
      _ = (shift poly)^[(b :: bits).length] (crc ^^^ ofBits (b :: bits)) := by
          rw [List.length_cons, Function.iterate_succ_apply]

theorem ofBits_injective {bits bits' : List Bool} (hlength : bits.length = bits'.length)
    (hshort : bits.length ≤ w) (h : (ofBits bits : BitVec w) = ofBits bits') : bits = bits' := by
  refine List.ext_getElem hlength fun i hi hi' => ?_
  have hbit := congrArg (BitVec.getLsbD · i) h
  have hw : i < w := by omega
  simp only [getLsbD_ofBits] at hbit
  simpa [hw, hi, hi'] using hbit

/-! ### What shows -/

/-- **The check of a message**: after `w` bits the register is empty if and only if these are
its own bits before them. -/
theorem feed_eq_zero_iff (h : Monic poly) {bits : List Bool} (hlength : bits.length = w)
    (crc : BitVec w) : feed poly crc bits = 0#w ↔ ofBits bits = crc := by
  have hzero : (shift poly)^[bits.length] 0#w = 0#w :=
    Function.iterate_fixed (shift_zero poly) _
  rw [feed_eq_iterate_shift hlength.le]
  constructor
  · intro hfeed
    have hsum : crc ^^^ ofBits bits = 0#w :=
      iterate_shift_injective h bits.length (hfeed.trans hzero.symm)
    exact (BitVec.xor_eq_zero_iff.mp hsum).symm
  · rintro rfl
    rw [BitVec.xor_self, hzero]

/-- **A burst shows**: two messages that differ in at most `w` bits in a row leave different
registers. -/
theorem feed_ne_of_burst (h : Monic poly) (crc : BitVec w) (before after : List Bool)
    {burst burst' : List Bool} (hne : burst ≠ burst') (hlength : burst.length = burst'.length)
    (hshort : burst.length ≤ w) :
    feed poly crc (before ++ burst ++ after) ≠ feed poly crc (before ++ burst' ++ after) := by
  intro hfeed
  rw [feed_append, feed_append, feed_append, feed_append] at hfeed
  have hmid := feed_injective h after hfeed
  have hshort' : burst'.length ≤ w := hlength ▸ hshort
  rw [feed_eq_iterate_shift hshort (feed poly crc before),
    feed_eq_iterate_shift hshort' (feed poly crc before), ← hlength] at hmid
  have hsum := iterate_shift_injective h _ hmid
  exact hne (ofBits_injective hlength hshort (BitVec.xor_right_inj _ |>.mp hsum))

/-! ### The sum of the bits -/

/-- The sum of the bits of a register. -/
def parity (x : BitVec w) : ZMod 2 := ∑ i : Fin w, if x.getLsbD i then 1 else 0

/-- The sum of the bits of a message. -/
def bitSum (bits : List Bool) : ZMod 2 := (bits.map fun b => if b then (1 : ZMod 2) else 0).sum

private theorem ite_xor (a b : Bool) : (if (a ^^ b) = true then (1 : ZMod 2) else 0) =
    (if a then 1 else 0) + if b then 1 else 0 := by
  cases a <;> cases b <;> decide

theorem parity_xor (x y : BitVec w) : parity (x ^^^ y) = parity x + parity y := by
  simp only [parity, BitVec.getLsbD_xor, ite_xor, Finset.sum_add_distrib]

@[simp] theorem parity_zero : parity 0#w = 0 := by
  simp [parity]

/-- The bit that is moved out is missing from the sum. -/
theorem parity_ushiftRight (x : BitVec w) :
    parity (x >>> 1) + (if x.getLsbD 0 then 1 else 0) = parity x := by
  cases w with
  | zero => simp [parity, BitVec.of_length_zero]
  | succ n =>
    simp only [parity, BitVec.getLsbD_ushiftRight]
    rw [Fin.sum_univ_castSucc, Fin.sum_univ_succ]
    simp [add_comm]

/-- **Moving down keeps the sum of the bits**, if the polynomial has an odd number of terms. -/
theorem parity_shift (h : parity poly = 1) (x : BitVec w) : parity (shift poly x) = parity x := by
  rw [shift, parity_xor, ← parity_ushiftRight x]
  split
  · rw [h]
  · rw [parity_zero]

theorem parity_ofBool (hw : 0 < w) (b : Bool) :
    parity ((BitVec.ofBool b).setWidth w) = if b then 1 else 0 := by
  obtain ⟨n, rfl⟩ : ∃ n, w = n + 1 := ⟨w - 1, by omega⟩
  have hrest : ∀ i : Fin n, ((BitVec.ofBool b).setWidth (n + 1)).getLsbD i.succ = false := by
    intro i
    simp
  rw [parity, Fin.sum_univ_succ, Finset.sum_eq_zero fun i _ => by rw [hrest]; rfl, add_zero,
    BitVec.getLsbD_setWidth, BitVec.getLsbD_ofBool]
  simp

theorem parity_feed (hw : 0 < w) (h : parity poly = 1) (crc : BitVec w) (bits : List Bool) :
    parity (feed poly crc bits) = parity crc + bitSum bits := by
  induction bits generalizing crc with
  | nil => simp [bitSum]
  | cons b bits ih =>
    rw [feed_cons, ih, bit, parity_shift h, parity_xor, parity_ofBool hw, bitSum, bitSum,
      List.map_cons, List.sum_cons, add_assoc]

/-- In how many places two messages differ. -/
def differences (bits bits' : List Bool) : ℕ :=
  (bits.zip bits').countP fun pair => pair.1 != pair.2

theorem bitSum_add_bitSum {bits bits' : List Bool} (h : bits.length = bits'.length) :
    bitSum bits + bitSum bits' = differences bits bits' := by
  induction bits generalizing bits' with
  | nil =>
    obtain rfl : bits' = [] := List.eq_nil_of_length_eq_zero h.symm
    simp [bitSum, differences]
  | cons b bits ih =>
    obtain _ | ⟨b', bits'⟩ := bits'
    · cases h
    · have hrest := ih (Nat.succ.inj h)
      simp only [bitSum, differences, List.map_cons, List.sum_cons, List.zip_cons_cons,
        List.countP_cons, Nat.cast_add] at hrest ⊢
      rw [add_add_add_comm, hrest, add_comm]
      congr 1
      cases b <;> cases b' <;> decide

/-- **An odd number of changed bits shows.** -/
theorem feed_ne_of_odd (hw : 0 < w) (h : parity poly = 1) (crc : BitVec w)
    {bits bits' : List Bool} (hlength : bits.length = bits'.length)
    (hodd : Odd (differences bits bits')) : feed poly crc bits ≠ feed poly crc bits' := by
  intro hfeed
  have hsum : bitSum bits = bitSum bits' := by
    have hparity := congrArg parity hfeed
    rwa [parity_feed hw h, parity_feed hw h, add_right_inj] at hparity
  have hzero : (differences bits bits' : ZMod 2) = 0 := by
    rw [← bitSum_add_bitSum hlength, hsum, CharTwo.add_self_eq_zero]
  exact Nat.not_even_iff_odd.mpr hodd ((ZMod.natCast_eq_zero_iff_even).mp hzero)

end Crc
