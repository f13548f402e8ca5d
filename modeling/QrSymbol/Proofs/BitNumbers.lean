import Mathlib.Algebra.Group.Nat.Defs
import QrSymbol.Bits

/-!
# Bits, numbers and bytes

Nothing is lost between bits and numbers or bytes.  A number comes back from its bits
up to their width (`toNat_ofNat`), a stream from its number and length
(`ofNat_toNat`), and a packed stream with no more than the zeros that fill it up
(`ofBytes_toBytes`).
-/

namespace QrSymbol.Bits

/-! ## Numbers -/

/-- Only the low bits of the number count. -/
theorem ofNat_congr {width v w : Nat} (h : ∀ i, i < width → v.testBit i = w.testBit i) :
    ofNat width v = ofNat width w := by
  induction width with
  | zero => rfl
  | succ width ih =>
      rw [ofNat, ofNat, h width (Nat.lt_succ_self width),
        ih fun i hi => h i (Nat.lt_succ_of_lt hi)]

/-- The bits of a number, from the highest of the width to the lowest. -/
theorem getElem?_ofNat {width value j : Nat} (hj : j < width) :
    (ofNat width value)[j]? = some (value.testBit (width - 1 - j)) := by
  induction width generalizing j with
  | zero => cases hj
  | succ width ih =>
      cases j with
      | zero => rfl
      | succ j =>
          rw [ofNat, List.getElem?_cons_succ, ih (Nat.lt_of_succ_lt_succ hj)]
          congr 2
          omega

/-- What was read before moves up by one place for every bit. -/
theorem readFrom_eq (high : Nat) (bits : Bits) :
    readFrom high bits = high * 2 ^ bits.length + toNat bits := by
  induction bits generalizing high with
  | nil => simp [readFrom]
  | cons b bits ih =>
      rw [toNat, readFrom, readFrom, ih, ih (2 * 0 + b.toNat), List.length_cons, Nat.pow_succ,
        Nat.mul_zero, Nat.zero_add, Nat.add_mul, Nat.mul_comm 2 high, Nat.mul_assoc, Nat.mul_comm 2,
        Nat.add_assoc]

theorem toNat_cons (b : Bool) (bits : Bits) :
    toNat (b :: bits) = b.toNat * 2 ^ bits.length + toNat bits := by
  rw [toNat, readFrom, readFrom_eq, Nat.mul_zero, Nat.zero_add]

theorem toNat_append (front back : Bits) :
    toNat (front ++ back) = toNat front * 2 ^ back.length + toNat back := by
  induction front with
  | nil => simp
  | cons b front ih =>
      rw [List.cons_append, toNat_cons, toNat_cons, ih, List.length_append, Nat.pow_add,
        Nat.add_mul, Nat.mul_assoc]
      omega

theorem toNat_lt (bits : Bits) : toNat bits < 2 ^ bits.length := by
  induction bits with
  | nil => decide
  | cons b bits ih =>
      rw [toNat_cons, List.length_cons, Nat.pow_succ]
      cases b <;> simp <;> omega

@[simp] theorem toNat_replicate_false (n : Nat) : toNat (List.replicate n false) = 0 := by
  induction n with
  | zero => rfl
  | succ n ih => simp [List.replicate_succ, toNat_cons, ih]

/-- A number comes back from its bits, up to their width. -/
theorem toNat_ofNat (width value : Nat) : toNat (ofNat width value) = value % 2 ^ width := by
  induction width with
  | zero => simp [Nat.mod_one]
  | succ width ih =>
      rw [ofNat, toNat_cons, ih, length_ofNat, Nat.mod_pow_succ, Nat.testBit_eq_decide_div_mod_eq]
      rcases Nat.mod_two_eq_zero_or_one (value / 2 ^ width) with even | odd
      · simp [even]
      · simp [odd]
        omega

theorem toNat_ofNat_of_lt {width value : Nat} (h : value < 2 ^ width) :
    toNat (ofNat width value) = value := by
  rw [toNat_ofNat, Nat.mod_eq_of_lt h]

/-- A stream comes back from its number and its length. -/
theorem ofNat_toNat (bits : Bits) : ofNat bits.length (toNat bits) = bits := by
  induction bits with
  | nil => rfl
  | cons b bits ih =>
      rw [List.length_cons, ofNat, toNat_cons]
      have hlow : ∀ i, i < bits.length →
          (b.toNat * 2 ^ bits.length + toNat bits).testBit i = (toNat bits).testBit i := by
        intro i hi
        rw [Nat.mul_comm, Nat.testBit_two_pow_mul_add _ (toNat_lt bits), if_pos hi]
      have hhigh : (b.toNat * 2 ^ bits.length + toNat bits).testBit bits.length = b := by
        rw [Nat.mul_comm, Nat.testBit_two_pow_mul_add _ (toNat_lt bits),
          if_neg (Nat.lt_irrefl _), Nat.sub_self]
        cases b <;> rfl
      rw [hhigh, ofNat_congr hlow, ih]

/-- The bits of zero are zeros. -/
theorem ofNat_zero_right (width : Nat) : ofNat width 0 = List.replicate width false := by
  have h := ofNat_toNat (List.replicate width false)
  rwa [List.length_replicate, toNat_replicate_false] at h

/-! ## Bytes -/

/-- A byte made of up to eight bits has them in front. -/
theorem ofByte_byte {bits : Bits} (h : bits.length ≤ 8) :
    ofByte (byte bits) = bits ++ List.replicate (8 - bits.length) false := by
  have hlen : (bits ++ List.replicate (8 - bits.length) false).length = 8 := by
    simp
    omega
  have hval : toNat (bits ++ List.replicate (8 - bits.length) false)
      = toNat bits * 2 ^ (8 - bits.length) := by
    simp [toNat_append]
  have hlt := toNat_lt (bits ++ List.replicate (8 - bits.length) false)
  rw [hlen, hval] at hlt
  rw [ofByte, byte, Nat.shiftLeft_eq, UInt8.toNat_ofNat_of_lt' hlt, ← hval]
  calc ofNat 8 _ = ofNat (bits ++ List.replicate (8 - bits.length) false).length _ := by rw [hlen]
    _ = _ := ofNat_toNat _

/-- A byte comes back from its bits. -/
theorem byte_ofByte (b : UInt8) : byte (ofByte b) = b := by
  apply UInt8.toNat_inj.mp
  rw [byte, length_ofByte, Nat.sub_self, Nat.shiftLeft_zero, ofByte,
    toNat_ofNat_of_lt b.toNat_lt, UInt8.toNat_ofNat_of_lt' b.toNat_lt]

/-- The bits of some bytes, each from its highest to its lowest. -/
theorem getElem?_ofBytes {bytes : List UInt8} {k j : Nat} (hj : j < 8) :
    (ofBytes bytes)[8 * k + j]? = bytes[k]?.map fun byte => byte.toNat.testBit (7 - j) := by
  induction bytes generalizing k with
  | nil => rfl
  | cons byte bytes ih =>
      rw [ofBytes_cons]
      cases k with
      | zero =>
          rw [Nat.mul_zero, Nat.zero_add, List.getElem?_append_left (by rwa [length_ofByte]),
            ofByte, getElem?_ofNat hj]
          rfl
      | succ k =>
          rw [List.getElem?_append_right (by rw [length_ofByte]; omega), length_ofByte,
            show 8 * (k + 1) + j - 8 = 8 * k + j by omega, ih, List.getElem?_cons_succ]

theorem ofBytes_packBehind {pending : Bits} (bits : Bits) (h : pending.length < 8) :
    ofBytes (packBehind pending bits)
      = pending ++ bits ++ fill (pending.length + bits.length) := by
  induction bits generalizing pending with
  | nil =>
      rw [packBehind, List.append_nil, List.length_nil, Nat.add_zero, fill]
      split
      · rename_i he
        rw [List.isEmpty_iff.mp he]
        rfl
      · rename_i he
        have hpos : 0 < pending.length := by
          rw [List.isEmpty_iff, ← List.length_eq_zero_iff] at he
          omega
        rw [ofBytes_cons, ofBytes_nil, List.append_nil, ofByte_byte (Nat.le_of_lt h),
          Nat.mod_eq_of_lt h, Nat.mod_eq_of_lt (by omega)]
  | cons b bits ih =>
      rw [packBehind]
      split
      · rename_i hlt
        rw [ih (by simp; omega)]
        simp [Nat.add_assoc, Nat.add_comm 1]
      · rename_i hge
        have hlen : (pending ++ [b]).length = 8 := by simp; omega
        rw [ofBytes_cons, ofByte_byte (Nat.le_of_eq hlen), ih (by decide), hlen]
        have hfill : fill (([] : Bits).length + bits.length)
            = fill (pending.length + (b :: bits).length) := by
          simp only [List.length_append, List.length_singleton] at hlen
          simp only [fill, List.length_nil, List.length_cons]
          congr 1
          omega
        rw [hfill]
        simp

/-- A packed stream comes back, with the zeros that fill it up. -/
theorem ofBytes_toBytes (bits : Bits) : ofBytes (toBytes bits) = bits ++ fill bits.length := by
  rw [toBytes, ofBytes_packBehind bits (by decide)]
  simp

theorem length_toBytes (bits : Bits) : (toBytes bits).length = (bits.length + 7) / 8 := by
  have h := congrArg List.length (ofBytes_toBytes bits)
  simp only [length_ofBytes, List.length_append, fill, List.length_replicate] at h
  omega

/-- Bytes are determined by their bits. -/
theorem ofBytes_injective {a b : List UInt8} (h : ofBytes a = ofBytes b) : a = b := by
  induction a generalizing b with
  | nil =>
      cases b with
      | nil => rfl
      | cons y b =>
          have := congrArg List.length h
          simp at this
          omega
  | cons x a ih =>
      cases b with
      | nil =>
          have := congrArg List.length h
          simp at this
      | cons y b =>
          rw [ofBytes_cons, ofBytes_cons] at h
          obtain ⟨hx, hrest⟩ := List.append_inj h (by simp)
          rw [← byte_ofByte x, ← byte_ofByte y, hx, ih hrest]

/-- Whole bytes come back when their bits are packed. -/
theorem toBytes_ofBytes (bytes : List UInt8) : toBytes (ofBytes bytes) = bytes := by
  apply ofBytes_injective
  rw [ofBytes_toBytes, length_ofBytes, fill]
  simp

end QrSymbol.Bits
