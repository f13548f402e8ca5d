import QrSymbol.Bitmap
import QrSymbol.Proofs.SquareCells

/-!
# Writes to a bitmap

A bitmap is a store.  Whatever is written to it in whatever order, a bit of the rectangle
reads as what was last written there (`Bitmap.get_afterWrites`).

The bytes have room for up to seven bits more than the rectangle has.  A blank bitmap has
them unset, and no write reaches them (`Bitmap.PaddingUnset.afterWrites`).  So the bits set
in the bytes are the bits that read as set (`Bitmap.PaddingUnset.ones_eq`), and the bytes
hold nothing that cannot be read (`Bitmap.PaddingUnset.bytes_eq_iff`).
-/

namespace QrSymbol

open Finset

namespace Bitmap

/-! ## Runs of writes -/

/-- A write to a bitmap. -/
structure Write where
  /-- The column. -/
  x : Nat
  /-- The row. -/
  y : Nat
  /-- The bit. -/
  value : Bool
deriving DecidableEq, Repr

/-- The bitmap that writes leave, one after the other. -/
def afterWrites (b : Bitmap) (writes : List Write) : Bitmap :=
  writes.foldl (fun b w => b.set w.x w.y w.value) b

/-- The bit last written to column `x` of row `y`, if one was. -/
def lastValue? (writes : List Write) (x y : Nat) : Option Bool :=
  ((writes.filter fun w => w.x = x ∧ w.y = y).map Write.value).getLast?

section

variable {b : Bitmap} {w : Write} {writes : List Write} {x y : Nat} {value : Bool}

theorem afterWrites_cons :
    b.afterWrites (w :: writes) = (b.set w.x w.y w.value).afterWrites writes := rfl

@[simp] theorem width_afterWrites : (b.afterWrites writes).width = b.width := by
  induction writes generalizing b with
  | nil => rfl
  | cons w writes ih => rw [afterWrites_cons, ih, width_set]

@[simp] theorem height_afterWrites : (b.afterWrites writes).height = b.height := by
  induction writes generalizing b with
  | nil => rfl
  | cons w writes ih => rw [afterWrites_cons, ih, height_set]

theorem lastValue?_cons :
    lastValue? (w :: writes) x y
      = (lastValue? writes x y).or (if w.x = x ∧ w.y = y then some w.value else none) := by
  by_cases h : w.x = x ∧ w.y = y
  · rw [if_pos h, lastValue?, List.filter_cons, if_pos (decide_eq_true h), List.map_cons,
      List.getLast?_cons, lastValue?]
    cases ((writes.filter fun w => w.x = x ∧ w.y = y).map Write.value).getLast? with
    | none => rfl
    | some value => rfl
  · rw [if_neg h, lastValue?, List.filter_cons, if_neg (fun e => h (of_decide_eq_true e)),
      Option.or_none, lastValue?]

/-- Where all writes set their bits, a bit was set if there was a write to it. -/
theorem lastValue?_getD_iff (h : ∀ w ∈ writes, w.value = true) :
    (lastValue? writes x y).getD false = true ↔ ⟨x, y, true⟩ ∈ writes := by
  rw [lastValue?]
  cases hlast : ((writes.filter fun w => w.x = x ∧ w.y = y).map Write.value).getLast? with
  | none =>
      refine iff_of_false nofun fun hmem => ?_
      rw [List.getLast?_eq_none_iff, List.map_eq_nil_iff, List.filter_eq_nil_iff] at hlast
      exact hlast _ hmem (decide_eq_true ⟨rfl, rfl⟩)
  | some value =>
      obtain ⟨w, hfiltered, rfl⟩ := List.mem_map.mp (List.mem_of_getLast? hlast)
      obtain ⟨hwrite, hcell⟩ := List.mem_filter.mp hfiltered
      obtain ⟨rfl, rfl⟩ := of_decide_eq_true hcell
      have hvalue : w.value = true := h w hwrite
      refine iff_of_true hvalue ?_
      rw [← hvalue]
      exact hwrite

/-- Outside the rectangle every bit reads as unset. -/
theorem get_outside (h : b.width ≤ x ∨ b.height ≤ y) : b.get x y = false := by
  rw [get, Bool.and_eq_false_iff, Bool.and_eq_false_iff, decide_eq_false_iff_not,
    decide_eq_false_iff_not, Nat.not_lt, Nat.not_lt]
  exact .inl h

/-- A write outside the rectangle has no effect. -/
theorem set_outside (h : b.width ≤ x ∨ b.height ≤ y) : b.set x y value = b :=
  if_neg fun hin => h.elim (Nat.not_le_of_lt hin.1) (Nat.not_le_of_lt hin.2)

/-- A bit of the rectangle reads as what was last written there, or else as before. -/
theorem get_afterWrites (hx : x < b.width) (hy : y < b.height) :
    (b.afterWrites writes).get x y = (lastValue? writes x y).getD (b.get x y) := by
  induction writes generalizing b with
  | nil => rfl
  | cons w writes ih =>
      -- What the rest writes hides what the first write did.
      rw [afterWrites_cons, ih (by rwa [width_set]) (by rwa [height_set]), lastValue?_cons]
      cases lastValue? writes x y with
      | some value => rfl
      | none =>
          rw [Option.none_or, Option.getD_none, get_set]
          by_cases h : w.x = x ∧ w.y = y
          · obtain ⟨rfl, rfl⟩ := h
            rw [if_pos ⟨rfl, rfl, hx, hy⟩, if_pos ⟨rfl, rfl⟩, Option.getD_some]
          · rw [if_neg h, if_neg fun e => h ⟨e.1.symm, e.2.1.symm⟩, Option.getD_none]

end

/-! ## The padding -/

/-- Whether the bits behind those of the rectangle are unset. -/
def PaddingUnset (b : Bitmap) : Prop := ∀ n, b.width * b.height ≤ n → b.bitAt n = false

theorem bitAt_blank (width height n : Nat) : (blank width height).bitAt n = false := by
  rw [bitAt, blank, Array.getElem?_replicate]
  split
  · exact bitSet_zero _
  · exact bitSet_zero _

theorem paddingUnset_blank (width height : Nat) : (blank width height).PaddingUnset :=
  fun n _ => bitAt_blank width height n

section

variable {b : Bitmap}

theorem get_of_lt {x y : Nat} (hx : x < b.width) (hy : y < b.height) :
    b.get x y = b.bitAt (place b.width x y) := by
  rw [get, decide_eq_true hx, decide_eq_true hy, Bool.true_and, Bool.true_and]

/-- A bit of the rectangle, by its number. -/
theorem bitAt_eq_get {n : Nat} (h : n < b.width * b.height) :
    b.bitAt n = b.get (n % b.width) (n / b.width) := by
  obtain ⟨hx, hy⟩ := mod_lt_and_div_lt h
  rw [get_of_lt hx hy, place_mod_div]

/-- There is room for all bits of the rectangle. -/
theorem mul_le_size_bytes (b : Bitmap) : b.width * b.height ≤ b.bytes.size * 8 := by
  have hsize := b.size_bytes
  omega

/-- The bits set in some bytes, counted by their numbers. -/
theorem length_flatMap_filter_bitSet (bytes : List UInt8) :
    (bytes.flatMap fun byte => (List.range 8).filter (bitSet byte)).length
      = (List.range (bytes.length * 8)).countP
          fun n => bitSet (bytes[n / 8]?.getD 0) (n % 8) := by
  induction bytes with
  | nil => rfl
  | cons byte bytes ih =>
      have hlength : (byte :: bytes).length * 8 = 8 + bytes.length * 8 := by
        rw [List.length_cons]
        omega
      have hfirst : (List.range 8).countP (bitSet byte) = (List.range 8).countP
          fun n => bitSet ((byte :: bytes)[n / 8]?.getD 0) (n % 8) := rfl
      rw [List.flatMap_cons, List.length_append, ih, hlength, List.range_add, List.countP_append,
        List.countP_map, ← List.countP_eq_length_filter, hfirst]
      congr 1
      refine List.countP_congr fun n _ => ?_
      rw [Function.comp_apply, Nat.add_div_left n (by decide), Nat.add_mod_left,
        List.getElem?_cons_succ]

theorem ones_eq_countP (b : Bitmap) :
    b.ones = (List.range (b.bytes.size * 8)).countP b.bitAt := by
  rw [ones, length_flatMap_filter_bitSet, Array.length_toList]
  refine List.countP_congr fun n _ => ?_
  rw [bitAt, Array.getElem?_toList]

/-- A write keeps the padding unset. -/
theorem PaddingUnset.set (h : b.PaddingUnset) (x y : Nat) (value : Bool) :
    (b.set x y value).PaddingUnset := by
  by_cases hin : x < b.width ∧ y < b.height
  · intro n hn
    rw [width_set, height_set] at hn
    have hplace := place_lt hin.1 hin.2
    rw [bitAt_set hin.1 hin.2, if_neg (by omega), h n hn]
  · rwa [set_outside (by omega)]

theorem PaddingUnset.afterWrites (h : b.PaddingUnset) (writes : List Write) :
    (b.afterWrites writes).PaddingUnset := by
  induction writes generalizing b with
  | nil => exact h
  | cons w writes ih => exact ih (h.set w.x w.y w.value)

/-- The bits set in the bytes are the bits of the rectangle that read as set. -/
theorem PaddingUnset.ones_eq (h : b.PaddingUnset) :
    b.ones = #{c ∈ range b.width ×ˢ range b.height | b.get c.1 c.2} := by
  have hbits : {n ∈ range (b.bytes.size * 8) | b.bitAt n}
      = {n ∈ range (b.width * b.height) | b.bitAt n} := by
    ext n
    rw [mem_filter, mem_filter, mem_range, mem_range, and_congr_left_iff]
    intro hset
    constructor
    · intro _
      by_contra hout
      rw [h n (Nat.le_of_not_lt hout)] at hset
      cases hset
    · exact fun hin => Nat.lt_of_lt_of_le hin b.mul_le_size_bytes
  rw [ones_eq_countP, countP_range_eq_card, hbits, card_filter_range_mul]
  refine congrArg card (filter_congr fun c hc => ?_)
  obtain ⟨hx, hy⟩ := mem_product.mp hc
  rw [get_of_lt (mem_range.mp hx) (mem_range.mp hy)]

end

/-- Bytes with the same eight bits are equal. -/
theorem eq_of_bitSet {a b : UInt8} (h : ∀ i < 8, bitSet a i = bitSet b i) : a = b := by
  refine UInt8.toNat_inj.mp (Nat.eq_of_testBit_eq fun i => ?_)
  by_cases hi : i < 8
  · exact h i hi
  · have hhigh : ∀ byte : UInt8, byte.toNat.testBit i = false := fun byte =>
      Nat.testBit_lt_two_pow (Nat.lt_of_lt_of_le byte.toNat_lt
        (Nat.pow_le_pow_right (by decide) (Nat.le_of_not_lt hi)))
    rw [hhigh a, hhigh b]

/-- The bytes hold nothing that cannot be read. -/
theorem PaddingUnset.bytes_eq_iff {a b : Bitmap} (ha : a.PaddingUnset) (hb : b.PaddingUnset)
    (hwidth : a.width = b.width) (hheight : a.height = b.height) :
    a.bytes = b.bytes ↔ ∀ x y, a.get x y = b.get x y := by
  constructor
  · intro h x y
    simp only [get, bitAt, h, hwidth, hheight]
  · intro h
    have hbits : ∀ n, a.bitAt n = b.bitAt n := by
      intro n
      by_cases hn : n < a.width * a.height
      · rw [bitAt_eq_get hn, bitAt_eq_get (by rwa [← hwidth, ← hheight]), h, hwidth]
      · -- What lies behind the rectangle is unset on both sides.
        rw [ha n (Nat.le_of_not_lt hn), hb n (by rw [← hwidth, ← hheight]; omega)]
    refine Array.ext (by rw [a.size_bytes, b.size_bytes, hwidth, hheight]) fun k hka hkb => ?_
    refine eq_of_bitSet fun i hi => ?_
    have hbit := hbits (8 * k + i)
    rw [bitAt, bitAt, show (8 * k + i) / 8 = k by omega, show (8 * k + i) % 8 = i by omega,
      Array.getElem?_eq_getElem hka, Array.getElem?_eq_getElem hkb] at hbit
    exact hbit

/-! ## The store -/

/-- What a bitmap of the given sides is after some writes. -/
structure Stores (b : Bitmap) (width height : Nat) (writes : List Write) : Prop where
  /-- It has the given sides. -/
  sides_eq : b.width = width ∧ b.height = height
  /-- A bit of the rectangle reads as what was last written there, or else as unset. -/
  get_eq : ∀ x y, x < width → y < height → b.get x y = (lastValue? writes x y).getD false
  /-- Outside the rectangle every bit reads as unset. -/
  get_outside : ∀ x y, width ≤ x ∨ height ≤ y → b.get x y = false
  /-- A write outside the rectangle leaves the bytes as they are. -/
  bytes_set_outside : ∀ x y value, width ≤ x ∨ height ≤ y → (b.set x y value).bytes = b.bytes
  /-- The bits set are the bits of the rectangle that read as set. -/
  ones_eq : b.ones = #{c ∈ range width ×ˢ range height | b.get c.1 c.2}
  /-- The bits behind those of the rectangle are unset. -/
  padding_eq : ∀ n, width * height ≤ n → b.bitAt n = false
  /-- Other writes leave the same bytes if they leave the same bits to be read, and only
  then. -/
  bytes_eq_iff : ∀ others : List Write,
    b.bytes = ((blank width height).afterWrites others).bytes ↔
      ∀ x y, b.get x y = ((blank width height).afterWrites others).get x y

/-- The ninth bit of a rectangle is the first of its second byte. -/
example : ((blank 3 3).afterWrites [⟨2, 2, true⟩, ⟨1, 0, true⟩, ⟨3, 0, true⟩, ⟨1, 0, false⟩]).bytes
    = #[0, 1] := by decide

end Bitmap

end QrSymbol
