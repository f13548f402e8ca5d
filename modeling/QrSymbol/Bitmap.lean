import QrSymbol.Place

/-!
# Bitmaps

A bitmap is a rectangle of bits packed into bytes.  The bits lie row by row
without any gap between the rows, eight to a byte, the first in the lowest
place.  Outside the rectangle every bit reads as unset and no write has an
effect.  Inside it a write changes the one bit it is for and no other, though
that bit shares its byte with bits of other columns and rows
(`Bitmap.get_set`).
-/

namespace QrSymbol

/-- A rectangle of bits. -/
structure Bitmap where
  /-- The number of columns. -/
  width : Nat
  /-- The number of rows. -/
  height : Nat
  /-- The bits, eight to a byte. -/
  bytes : Array UInt8
  /-- There are just enough bytes. -/
  size_bytes : bytes.size = (width * height + 7) / 8
deriving DecidableEq

namespace Bitmap

/-! ## Bits of a byte -/

/-- Whether a byte has its bit number `i` set, the lowest being number 0. -/
def bitSet (byte : UInt8) (i : Nat) : Bool := byte.toNat.testBit i

@[simp] theorem bitSet_zero (i : Nat) : bitSet 0 i = false := by
  simp [bitSet]

/-- A byte with its bit number `i` set or cleared. -/
def withBit (byte : UInt8) (i : Nat) (value : Bool) : UInt8 :=
  if bitSet byte i = value then byte else byte ^^^ UInt8.ofNat (1 <<< i)

theorem bitSet_withBit {byte : UInt8} {i j : Nat} {value : Bool} (hi : i < 8) :
    bitSet (withBit byte i value) j = if j = i then value else bitSet byte j := by
  have hpow : 2 ^ i < 256 := Nat.pow_lt_pow_right (by decide) hi
  by_cases h : bitSet byte i = value
  · rw [withBit, if_pos h]
    split
    · rename_i e
      rw [e, h]
    · rfl
  · rw [withBit, if_neg h, Nat.one_shiftLeft]
    have hxor : bitSet (byte ^^^ UInt8.ofNat (2 ^ i)) j = (bitSet byte j ^^ decide (i = j)) := by
      rw [bitSet, UInt8.toNat_xor, UInt8.toNat_ofNat_of_lt' hpow, Nat.testBit_xor,
        Nat.testBit_two_pow, bitSet]
    rw [hxor]
    split
    · rename_i e
      subst e
      revert h
      cases bitSet byte j <;> cases value <;> simp
    · rename_i e
      simp [Ne.symm e]

/-! ## The rectangle -/

/-- The bitmap with no bit set. -/
def blank (width height : Nat) : Bitmap where
  width := width
  height := height
  bytes := Array.replicate ((width * height + 7) / 8) 0
  size_bytes := Array.size_replicate

/-- Bit number `n`, counted row by row. -/
def bitAt (b : Bitmap) (n : Nat) : Bool := bitSet (b.bytes[n / 8]?.getD 0) (n % 8)

/-- The bit in column `x` of row `y`. -/
def get (b : Bitmap) (x y : Nat) : Bool :=
  decide (x < b.width) && decide (y < b.height) && b.bitAt (place b.width x y)

/-- The bitmap with another bit in column `x` of row `y`. -/
def set (b : Bitmap) (x y : Nat) (value : Bool) : Bitmap :=
  let n := place b.width x y
  if x < b.width ∧ y < b.height then
    { b with
      bytes := b.bytes.modify (n / 8) fun byte => withBit byte (n % 8) value
      size_bytes := by rw [Array.size_modify, b.size_bytes] }
  else b

/-- The number of bits set. -/
def ones (b : Bitmap) : Nat :=
  (b.bytes.toList.flatMap fun byte => (List.range 8).filter (bitSet byte)).length

/-! ## Reading back -/

@[simp] theorem width_set (b : Bitmap) (x y : Nat) (value : Bool) :
    (b.set x y value).width = b.width := by
  unfold set
  dsimp only
  split <;> rfl

@[simp] theorem height_set (b : Bitmap) (x y : Nat) (value : Bool) :
    (b.set x y value).height = b.height := by
  unfold set
  dsimp only
  split <;> rfl

/-- A blank bitmap has no bit set. -/
@[simp] theorem get_blank (width height x y : Nat) : (blank width height).get x y = false := by
  simp [get, bitAt, blank, Array.getElem?_replicate]
  intro _ _
  split <;> simp

/-- A write inside the rectangle changes the one bit it is for. -/
theorem bitAt_set {b : Bitmap} {x y n : Nat} {value : Bool} (hx : x < b.width)
    (hy : y < b.height) :
    (b.set x y value).bitAt n = if n = place b.width x y then value else b.bitAt n := by
  have hlt := place_lt hx hy
  have hsize := b.size_bytes
  rw [set, if_pos ⟨hx, hy⟩, bitAt, bitAt, Array.getElem?_modify]
  by_cases hbyte : place b.width x y / 8 = n / 8
  · have hin : n / 8 < b.bytes.size := by omega
    rw [if_pos hbyte]
    simp only [hin, Array.getElem?_eq_getElem, Option.map_some, Option.getD_some]
    rw [bitSet_withBit (Nat.mod_lt _ (by decide))]
    by_cases hbit : n % 8 = place b.width x y % 8
    · rw [if_pos hbit, if_pos (by omega)]
    · rw [if_neg hbit, if_neg (fun e => hbit (by rw [e]))]
  · rw [if_neg hbyte, if_neg (fun e => hbyte (by rw [e]))]

/-- A write is read back where it lies inside the rectangle, and nowhere else. -/
theorem get_set {b : Bitmap} {x y x' y' : Nat} {value : Bool} :
    (b.set x y value).get x' y' =
      if x' = x ∧ y' = y ∧ x < b.width ∧ y < b.height then value else b.get x' y' := by
  by_cases h : x < b.width ∧ y < b.height
  · rw [get, width_set, height_set, bitAt_set h.1 h.2]
    by_cases e : x' = x ∧ y' = y
    · obtain ⟨rfl, rfl⟩ := e
      simp [h]
    · have hne : ¬(x' = x ∧ y' = y ∧ x < b.width ∧ y < b.height) := fun e' => e ⟨e'.1, e'.2.1⟩
      rw [if_neg hne, get]
      by_cases hx' : x' < b.width
      · rw [if_neg fun hp => e (place_injective hx' h.1 hp)]
      · simp [hx']
  · rw [if_neg (fun e => h e.2.2), set, if_neg h]

end Bitmap

end QrSymbol
