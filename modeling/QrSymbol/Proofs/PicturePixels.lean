import QrSymbol.Proofs.PenaltyRules
import QrSymbol.Raster

/-!
# The pixels of a picture

A picture has a block of pixels for each module, and the border lies around the blocks
(`Raster.InModules`).  Along either side the pixels are numbered block after block, so
pixel `i` of block `x` has the number `place scale i x`.  The pixels of a block have the
colour of its module (`Raster.pixel_block`), and every pixel that is not in the border is in
one block.  So a dark pixel is the same as a dark module together with a place in a block
(`Raster.card_darkPixels`).

One pixel of each block is enough to read the colours of the grid off its picture again
(`Raster.colours`).
-/

namespace QrSymbol

open Finset

namespace Raster

/-- Whether a column or a row of pixels belongs to the modules and not to the border. -/
def InModules (side scale quietZone p : Nat) : Prop :=
  quietZone * scale ≤ p ∧ p < (quietZone + side) * scale

/-- The colours of the modules, read off the first pixel of each block. -/
def colours (r : Raster) (scale quietZone : Nat) : List (List Bool) :=
  let side := r.side / scale - 2 * quietZone
  (List.range side).map fun y => (List.range side).map fun x =>
    (r.get? (place scale 0 (quietZone + x)) (place scale 0 (quietZone + y))).getD false

section

variable {g : Grid} {side scale quietZone p px py x y i j : Nat}

/-! ## Blocks -/

theorem inModules_iff (hscale : 0 < scale) :
    InModules side scale quietZone p ↔
      quietZone ≤ p / scale ∧ p / scale - quietZone < side := by
  rw [InModules, ← Nat.le_div_iff_mul_le hscale, ← Nat.div_lt_iff_lt_mul hscale]
  omega

/-- The blocks of the modules end in front of the border. -/
theorem block_lt (quietZone : Nat) (hx : x < side) (hi : i < scale) :
    place scale i (quietZone + x) < (side + 2 * quietZone) * scale := by
  rw [Nat.mul_comm]
  exact place_lt hi (by omega)

/-- The pixels of a block have the colour of its module. -/
theorem pixel_block (hi : i < scale) (hj : j < scale) :
    pixel g scale quietZone (place scale i (quietZone + x)) (place scale j (quietZone + y))
      = g.isDark x y := by
  simp only [pixel, place_div hi, place_div hj, Nat.le_add_right, decide_true, Bool.true_and,
    Nat.add_sub_cancel_left]

/-- A pixel is dark if it lies in the block of a dark module. -/
theorem pixel_eq_true_iff (hscale : 0 < scale) :
    pixel g scale quietZone px py = true ↔
      InModules g.side scale quietZone px ∧ InModules g.side scale quietZone py ∧
        g.isDark (px / scale - quietZone) (py / scale - quietZone) = true := by
  rw [inModules_iff hscale, inModules_iff hscale]
  simp only [pixel, Bool.and_eq_true, decide_eq_true_eq]
  constructor
  · rintro ⟨⟨hx, hy⟩, hdark⟩
    -- A dark module lies in the grid.
    have hin : ¬(g.side ≤ px / scale - quietZone ∨ g.side ≤ py / scale - quietZone) := by
      intro hout
      rw [Grid.isDark_outside hout] at hdark
      cases hdark
    exact ⟨⟨hx, by omega⟩, ⟨hy, by omega⟩, hdark⟩
  · rintro ⟨⟨hx, -⟩, ⟨hy, -⟩, hdark⟩
    exact ⟨⟨hx, hy⟩, hdark⟩

/-! ## Counting -/

/-- A dark pixel is a dark module with a place in its block. -/
theorem card_darkPixels (g : Grid) (quietZone : Nat) (hscale : 0 < scale) :
    #{p ∈ squareCells ((g.side + 2 * quietZone) * scale) | pixel g scale quietZone p.1 p.2}
      = scale ^ 2 * #g.darkCells := by
  have hblocks : #(g.darkCells ×ˢ squareCells scale) = scale ^ 2 * #g.darkCells := by
    rw [card_product, squareCells, card_product, card_range, Nat.mul_comm, Nat.pow_two]
  rw [← hblocks]
  refine card_nbij'
    (fun p => ((p.1 / scale - quietZone, p.2 / scale - quietZone), (p.1 % scale, p.2 % scale)))
    (fun c => (place scale c.2.1 (quietZone + c.1.1), place scale c.2.2 (quietZone + c.1.2)))
    ?_ ?_ ?_ ?_
  · rintro ⟨px, py⟩ hp
    obtain ⟨hx, hy, hdark⟩ := (pixel_eq_true_iff hscale).mp (mem_filter.mp hp).2
    rw [inModules_iff hscale] at hx hy
    refine mem_product.mpr ⟨mem_filter.mpr ⟨mem_squareCells.mpr ⟨hx.2, hy.2⟩, hdark⟩, ?_⟩
    exact mem_squareCells.mpr ⟨Nat.mod_lt px hscale, Nat.mod_lt py hscale⟩
  · rintro ⟨⟨x, y⟩, ⟨i, j⟩⟩ hc
    obtain ⟨hcell, hplace⟩ := mem_product.mp hc
    obtain ⟨hcell, hdark⟩ := mem_filter.mp hcell
    obtain ⟨hx, hy⟩ := mem_squareCells.mp hcell
    obtain ⟨hi, hj⟩ := mem_squareCells.mp hplace
    refine mem_filter.mpr ⟨mem_squareCells.mpr ⟨block_lt _ hx hi, block_lt _ hy hj⟩, ?_⟩
    rw [pixel_block hi hj]
    exact hdark
  · rintro ⟨px, py⟩ hp
    obtain ⟨hx, hy, -⟩ := (pixel_eq_true_iff hscale).mp (mem_filter.mp hp).2
    rw [inModules_iff hscale] at hx hy
    simp only [Nat.add_sub_of_le hx.1, Nat.add_sub_of_le hy.1, place_mod_div]
  · rintro ⟨⟨x, y⟩, ⟨i, j⟩⟩ hc
    obtain ⟨hi, hj⟩ := mem_squareCells.mp (mem_product.mp hc).2
    simp only [place_div hi, place_div hj, place_mod hi, place_mod hj, Nat.add_sub_cancel_left]

end

/-! ## The picture of a grid -/

variable (g : Grid) (scale quietZone : Nat)

theorem get?_ofGrid_of_lt {px py : Nat} (hx : px < (ofGrid g scale quietZone).side)
    (hy : py < (ofGrid g scale quietZone).side) :
    (ofGrid g scale quietZone).get? px py = some (pixel g (max scale 1) quietZone px py) := by
  rw [get?_ofGrid, if_pos ⟨hx, hy⟩]

theorem darkCount_ofGrid :
    (ofGrid g scale quietZone).darkCount = max scale 1 ^ 2 * g.darkCount := by
  rw [Grid.darkCount_eq, ← card_darkPixels g quietZone (Nat.le_max_right scale 1),
    darkCount, Square.count_eq_card, side_ofGrid]
  refine congrArg card (filter_congr fun p hp => ?_)
  obtain ⟨hx, hy⟩ := mem_squareCells.mp hp
  rw [get?_ofGrid_of_lt g scale quietZone hx hy]
  exact Iff.rfl

theorem colours_ofGrid :
    (ofGrid g scale quietZone).colours (max scale 1) quietZone = g.darkRows := by
  have hscale : 0 < max scale 1 := Nat.le_max_right scale 1
  have hside : (ofGrid g scale quietZone).side / max scale 1 - 2 * quietZone = g.side := by
    rw [side_ofGrid, Nat.mul_div_cancel _ hscale, Nat.add_sub_cancel]
  rw [colours, hside, Grid.darkRows_eq]
  refine List.map_congr_left fun y hy => List.map_congr_left fun x hx => ?_
  have hpx := block_lt quietZone (List.mem_range.mp hx) hscale
  have hpy := block_lt quietZone (List.mem_range.mp hy) hscale
  rw [get?_ofGrid_of_lt g scale quietZone hpx hpy, Option.getD_some]
  exact pixel_block hscale hscale

/-- What a picture shows of a grid, at `scale` pixels to a module behind a border of
`quietZone` modules. -/
structure Shows (r : Raster) (g : Grid) (scale quietZone : Nat) : Prop where
  /-- It has room for the modules and the border on both sides. -/
  side_eq : r.side = (g.side + 2 * quietZone) * scale
  /-- A pixel is dark if it lies in the block of a dark module, and only then. -/
  pixel_eq : ∀ px py, px < r.side → py < r.side → ∃ dark, r.get? px py = some dark ∧
    (dark = true ↔ InModules g.side scale quietZone px ∧ InModules g.side scale quietZone py ∧
      g.isDark (px / scale - quietZone) (py / scale - quietZone) = true)
  /-- The border is light. -/
  border_eq : ∀ px py, px < r.side → py < r.side →
    ¬(InModules g.side scale quietZone px ∧ InModules g.side scale quietZone py) →
    r.get? px py = some false
  /-- A dark module makes a square of dark pixels. -/
  darkCount_eq : r.darkCount = scale ^ 2 * g.darkCount
  /-- The colours of the grid are read off the picture. -/
  colours_eq : r.colours scale quietZone = g.darkRows

/-- The picture of a grid shows it, with one pixel at least to a module. -/
theorem shows_ofGrid : (ofGrid g scale quietZone).Shows g (max scale 1) quietZone where
  side_eq := side_ofGrid g scale quietZone
  pixel_eq := fun px py hx hy =>
    ⟨_, get?_ofGrid_of_lt g scale quietZone hx hy, pixel_eq_true_iff (Nat.le_max_right scale 1)⟩
  border_eq := by
    intro px py hx hy hborder
    rw [get?_ofGrid_of_lt g scale quietZone hx hy, Option.some.injEq, ← Bool.not_eq_true,
      pixel_eq_true_iff (Nat.le_max_right scale 1)]
    exact fun h => hborder ⟨h.1, h.2.1⟩
  darkCount_eq := darkCount_ofGrid g scale quietZone
  colours_eq := colours_ofGrid g scale quietZone

end Raster

end QrSymbol
