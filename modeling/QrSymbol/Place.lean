/-!
# Numbering places row by row

The cells of a rectangle are numbered row by row, each row from its left.  The
number of a cell in a rectangle of known width tells its column and row
(`place_mod`, `place_div`), so no two cells have one number
(`place_injective`).
-/

namespace QrSymbol

/-- The number of the cell in column `x` of row `y`. -/
def place (width x y : Nat) : Nat := y * width + x

/-- The column is what is left of a number over whole rows. -/
theorem place_mod {width x y : Nat} (hx : x < width) : place width x y % width = x := by
  rw [place, Nat.add_comm, Nat.add_mul_mod_self_right, Nat.mod_eq_of_lt hx]

/-- The row is the number of whole rows before a cell. -/
theorem place_div {width x y : Nat} (hx : x < width) : place width x y / width = y := by
  rw [place, Nat.add_comm, Nat.add_mul_div_right _ _ (Nat.zero_lt_of_lt hx), Nat.div_eq_of_lt hx,
    Nat.zero_add]

/-- A number is that of its column and row. -/
theorem place_mod_div (width n : Nat) : place width (n % width) (n / width) = n := by
  rw [place, Nat.mul_comm, Nat.div_add_mod]

/-- The cell of a number below the size of a rectangle lies in it. -/
theorem mod_lt_and_div_lt {width height n : Nat} (h : n < width * height) :
    n % width < width ∧ n / width < height :=
  ⟨Nat.mod_lt n (Nat.pos_of_mul_pos_right (Nat.zero_lt_of_lt h)), Nat.div_lt_of_lt_mul h⟩

theorem place_lt {width height x y : Nat} (hx : x < width) (hy : y < height) :
    place width x y < width * height := by
  calc y * width + x < y * width + width := Nat.add_lt_add_left hx _
    _ = width * (y + 1) := by rw [Nat.mul_add, Nat.mul_one, Nat.mul_comm]
    _ ≤ width * height := Nat.mul_le_mul_left width hy

theorem place_injective {width x y x' y' : Nat} (hx : x < width) (hx' : x' < width)
    (h : place width x y = place width x' y') : x = x' ∧ y = y' := by
  constructor
  · rw [← place_mod (y := y) hx, h, place_mod hx']
  · rw [← place_div (y := y) hx, h, place_div hx']

end QrSymbol
