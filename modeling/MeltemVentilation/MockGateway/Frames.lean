import MeltemVentilation.Lib.Crc
import Mathlib.Data.Nat.Bitwise
import Mathlib.Data.List.Flatten

/-!
# The frames on the wire

The RTU frames of `tools/mock_gateway.py`: a payload is followed by its check (`rtuFrame`), a
register or a value is sent with its high byte first, a check with its low byte first. A reader
takes the check off and builds the frame again (`Intact`).

The check is the cyclic redundancy check of `MeltemVentilation.Lib.Crc` over sixteen bits, and
the polynomial `0xA001` has its top bit and an odd number of terms. Hence a frame in which at
most sixteen bits in a row, or an odd number of bits anywhere, have changed is not intact any
more (`Corrupted.not_intact`), wherever these bits are, in the check or before it.
-/

namespace MeltemVentilation

/-! ### Words -/

/-- `to_bytes(2, "big")`. -/
def bigEndian (word : UInt16) : List UInt8 :=
  [UInt8.ofNat (word.toNat / 256), UInt8.ofNat word.toNat]

/-- `int.from_bytes(…, "big")` of two bytes. -/
def fromBigEndian (high low : UInt8) : UInt16 :=
  UInt16.ofNat (high.toNat * 256 + low.toNat)

@[simp] theorem fromBigEndian_bigEndian (word : UInt16) :
    fromBigEndian (UInt8.ofNat (word.toNat / 256)) (UInt8.ofNat word.toNat) = word := by
  have hword : word.toNat < 65536 := word.toNat_lt
  apply UInt16.toNat_inj.mp
  rw [fromBigEndian, UInt16.toNat_ofNat', UInt8.toNat_ofNat', UInt8.toNat_ofNat']
  omega

/-- `request_echo`: an address and a value. -/
def requestEcho (address value : UInt16) : List UInt8 :=
  bigEndian address ++ bigEndian value

/-! ### The check -/

/-- The polynomial of the check. -/
def crcPolynomial : BitVec 16 := 0xA001#16

/-- The register takes in a byte, as in the loop of `rtu_frame`. -/
def crcByte (crc : BitVec 16) (byte : UInt8) : BitVec 16 :=
  (Crc.shift crcPolynomial)^[8] (crc ^^^ byte.toBitVec.setWidth 16)

/-- The check of a payload. -/
def crcOf (payload : List UInt8) : BitVec 16 := payload.foldl crcByte 0xFFFF#16

/-- `to_bytes(2, "little")`. -/
def littleEndian (crc : BitVec 16) : List UInt8 :=
  [UInt8.ofNat crc.toNat, UInt8.ofNat (crc.toNat / 256)]

/-- `rtu_frame`. -/
def rtuFrame (payload : List UInt8) : List UInt8 := payload ++ littleEndian (crcOf payload)

/-- `frame[:-2]`. -/
def withoutCheck (frame : List UInt8) : List UInt8 := frame.take (frame.length - 2)

/-- The check of a frame is that of the bytes before it: `rtu_frame(frame[:-2]) == frame`. -/
abbrev Intact (frame : List UInt8) : Prop := rtuFrame (withoutCheck frame) = frame

@[simp] theorem length_littleEndian (crc : BitVec 16) : (littleEndian crc).length = 2 := rfl

@[simp] theorem length_rtuFrame (payload : List UInt8) :
    (rtuFrame payload).length = payload.length + 2 := by
  rw [rtuFrame, List.length_append, length_littleEndian]

@[simp] theorem withoutCheck_rtuFrame (payload : List UInt8) :
    withoutCheck (rtuFrame payload) = payload := by
  rw [withoutCheck, length_rtuFrame, Nat.add_sub_cancel, rtuFrame, List.take_left]

/-- A frame that was built is intact. -/
theorem intact_rtuFrame (payload : List UInt8) : Intact (rtuFrame payload) := by
  rw [Intact, withoutCheck_rtuFrame]

/-! ### The bits of a frame -/

/-- The bits of a byte, in the order in which the check takes them in. -/
def byteBits (byte : UInt8) : List Bool := (List.range 8).map byte.toBitVec.getLsbD

/-- The bits of some bytes. -/
def wireBits (bytes : List UInt8) : List Bool := bytes.flatMap byteBits

@[simp] theorem length_byteBits (byte : UInt8) : (byteBits byte).length = 8 := by
  simp [byteBits]

@[simp] theorem wireBits_nil : wireBits [] = [] := rfl

@[simp] theorem wireBits_cons (byte : UInt8) (bytes : List UInt8) :
    wireBits (byte :: bytes) = byteBits byte ++ wireBits bytes := rfl

@[simp] theorem wireBits_append (bytes bytes' : List UInt8) :
    wireBits (bytes ++ bytes') = wireBits bytes ++ wireBits bytes' :=
  List.flatMap_append

@[simp] theorem length_wireBits (bytes : List UInt8) :
    (wireBits bytes).length = 8 * bytes.length := by
  induction bytes with
  | nil => rfl
  | cons byte bytes ih =>
    rw [wireBits_cons, List.length_append, length_byteBits, ih, List.length_cons]
    omega

theorem byteBits_injective : Function.Injective byteBits := by
  intro byte byte' h
  apply UInt8.toBitVec_inj.mp
  apply BitVec.eq_of_getLsbD_eq
  intro i hi
  exact List.map_inj_left.mp h i (List.mem_range.mpr hi)

theorem wireBits_injective : Function.Injective wireBits := by
  intro bytes bytes' h
  have hlength : bytes.length = bytes'.length := by
    have := congrArg List.length h
    rw [length_wireBits, length_wireBits] at this
    omega
  induction bytes generalizing bytes' with
  | nil => exact (List.eq_nil_of_length_eq_zero hlength.symm).symm
  | cons byte bytes ih =>
    obtain _ | ⟨byte', bytes'⟩ := bytes'
    · cases hlength
    · obtain ⟨hbyte, hbytes⟩ := List.append_inj h (by simp)
      rw [byteBits_injective hbyte, ih hbytes (Nat.succ.inj hlength)]

theorem ofBits_byteBits (byte : UInt8) :
    (Crc.ofBits (byteBits byte) : BitVec 16) = byte.toBitVec.setWidth 16 := by
  apply BitVec.eq_of_getLsbD_eq
  intro i hi
  rw [Crc.getLsbD_ofBits, BitVec.getLsbD_setWidth, byteBits]
  by_cases hbyte : i < 8
  · simp [hbyte]
  · simp [hbyte, BitVec.getLsbD_of_ge byte.toBitVec i (by omega)]

/-- A byte is taken in bit by bit. -/
theorem crcByte_eq_feed (crc : BitVec 16) (byte : UInt8) :
    crcByte crc byte = Crc.feed crcPolynomial crc (byteBits byte) := by
  have hshort : (byteBits byte).length ≤ 16 := by simp
  rw [Crc.feed_eq_iterate_shift hshort, ofBits_byteBits, length_byteBits, crcByte]

theorem foldl_crcByte (crc : BitVec 16) (bytes : List UInt8) :
    bytes.foldl crcByte crc = Crc.feed crcPolynomial crc (wireBits bytes) := by
  induction bytes generalizing crc with
  | nil => rfl
  | cons byte bytes ih => rw [List.foldl_cons, ih, crcByte_eq_feed, wireBits_cons, Crc.feed_append]

theorem monic_crcPolynomial : Crc.Monic crcPolynomial := by decide

theorem parity_crcPolynomial : Crc.parity crcPolynomial = 1 := by decide

/-- The bits of a check, its low byte first, are those of the register. -/
theorem ofBits_littleEndian (crc : BitVec 16) :
    (Crc.ofBits (wireBits (littleEndian crc)) : BitVec 16) = crc := by
  have hlow : byteBits (UInt8.ofNat crc.toNat) = (List.range 8).map crc.getLsbD := by
    refine List.map_congr_left fun i hi => ?_
    rw [UInt8.toBitVec_ofNat', BitVec.getLsbD_ofNat, decide_eq_true (List.mem_range.mp hi),
      Bool.true_and, BitVec.testBit_toNat]
  have hhigh : byteBits (UInt8.ofNat (crc.toNat / 256)) =
      (List.range 8).map fun i => crc.getLsbD (8 + i) := by
    refine List.map_congr_left fun i hi => ?_
    rw [UInt8.toBitVec_ofNat', BitVec.getLsbD_ofNat, decide_eq_true (List.mem_range.mp hi),
      Bool.true_and, show (256 : ℕ) = 2 ^ 8 from rfl, Nat.testBit_div_two_pow,
      BitVec.testBit_toNat, Nat.add_comm]
  have hrange : List.range 16 = List.range 8 ++ (List.range 8).map (8 + ·) := by decide
  have hbits : wireBits (littleEndian crc) = (List.range 16).map crc.getLsbD := by
    rw [littleEndian, wireBits_cons, wireBits_cons, wireBits_nil, List.append_nil, hlow, hhigh,
      hrange, List.map_append, List.map_map]
    rfl
  apply BitVec.eq_of_getLsbD_eq
  intro i hi
  rw [Crc.getLsbD_ofBits, hbits]
  simp [hi]

/-! ### Intact frames -/

/-- A frame is intact if and only if it leaves nothing in the register. -/
theorem intact_iff_feed {frame : List UInt8} (h : 2 ≤ frame.length) :
    Intact frame ↔ Crc.feed crcPolynomial 0xFFFF#16 (wireBits frame) = 0#16 := by
  obtain ⟨payload, check, rfl, hcheck⟩ : ∃ payload check, frame = payload ++ check ∧
      check.length = 2 :=
    ⟨_, _, (List.take_append_drop (frame.length - 2) frame).symm, by simp; omega⟩
  have hpayload : withoutCheck (payload ++ check) = payload := by
    rw [withoutCheck, List.length_append, hcheck, Nat.add_sub_cancel, List.take_left]
  have hlength : (wireBits check).length = 16 := by rw [length_wireBits, hcheck]
  have hlittle : (wireBits (littleEndian (crcOf payload))).length = (wireBits check).length := by
    rw [length_wireBits, hlength, length_littleEndian]
  have hcrc : Crc.feed crcPolynomial 0xFFFF#16 (wireBits payload) = crcOf payload :=
    (foldl_crcByte _ payload).symm
  rw [Intact, hpayload, rtuFrame, List.append_cancel_left_eq, wireBits_append, Crc.feed_append,
    hcrc, Crc.feed_eq_zero_iff monic_crcPolynomial hlength]
  constructor
  · rintro rfl
    exact ofBits_littleEndian _
  · intro hbits
    have hsame : (Crc.ofBits (wireBits (littleEndian (crcOf payload))) : BitVec 16) =
        Crc.ofBits (wireBits check) := by rw [ofBits_littleEndian, hbits]
    exact wireBits_injective (Crc.ofBits_injective hlittle (by simp) hsame)

/-- **What happens to a frame on a disturbed line**: some bits in a row have changed, at most
sixteen of them, or an odd number of bits anywhere. -/
inductive Corrupted (frame frame' : List UInt8) : Prop
  /-- From the first to the last changed bit, these are at most sixteen. -/
  | burst (before burst burst' after : List Bool) (h : wireBits frame = before ++ burst ++ after)
      (h' : wireBits frame' = before ++ burst' ++ after) (hne : burst ≠ burst')
      (hlength : burst.length = burst'.length) (hshort : burst.length ≤ 16)
  /-- The number of changed bits is odd. -/
  | odd (hlength : frame.length = frame'.length)
      (hodd : Odd (Crc.differences (wireBits frame) (wireBits frame')))

/-- No byte gets lost. -/
theorem Corrupted.length_eq {frame frame' : List UInt8} (h : Corrupted frame frame') :
    frame.length = frame'.length := by
  cases h with
  | burst before burst burst' after h h' _ hlength _ =>
    have hbits := congrArg List.length h
    have hbits' := congrArg List.length h'
    simp only [length_wireBits, List.length_append] at hbits hbits'
    omega
  | odd hlength _ => exact hlength

/-- **A corrupted frame is not intact.** -/
theorem Corrupted.not_intact {frame frame' : List UInt8} (h : Corrupted frame frame')
    (hlong : 2 ≤ frame.length) (hintact : Intact frame) : ¬Intact frame' := by
  rw [intact_iff_feed (h.length_eq ▸ hlong)]
  rw [intact_iff_feed hlong] at hintact
  rw [← hintact]
  cases h with
  | burst before burst burst' after h h' hne hlength hshort =>
    rw [h, h']
    exact (Crc.feed_ne_of_burst monic_crcPolynomial _ before after hne hlength hshort).symm
  | odd hlength hodd =>
    have hbits : (wireBits frame).length = (wireBits frame').length := by
      rw [length_wireBits, length_wireBits, hlength]
    exact (Crc.feed_ne_of_odd (by decide) parity_crcPolynomial _ hbits hodd).symm

end MeltemVentilation
