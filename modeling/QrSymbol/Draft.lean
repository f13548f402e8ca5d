import QrSymbol.Bits
import QrSymbol.FunctionPattern
import QrSymbol.Grid

/-!
# Drafts

A draft is a symbol under construction: a square in which some cells have their
module and the others are free.  It starts with the function patterns of its
version (`Draft.blank`).  The data goes into the free cells in a fixed order
(`Draft.freeCells`): in strips of two columns from the right edge to the left, going
up and down by turns, the right cell of each row first.  The column of the
vertical timing pattern belongs to no strip.
-/

namespace QrSymbol

/-- A symbol under construction. -/
structure Draft where
  /-- The version it is laid out for. -/
  version : Version
  /-- Its cells, free or with their module. -/
  cells : Square (Option Module)
  /-- It has the side of its version. -/
  side_cells : cells.side = version.side
deriving DecidableEq

namespace Draft

/-- The draft of a version with its function patterns and nothing else. -/
def blank (v : Version) : Draft :=
  let centres := Pattern.alignmentCentres v.number
  ⟨v, .ofFn v.side (functionModule? v centres), rfl⟩

/-- The number of modules on a side. -/
def side (d : Draft) : Nat := d.cells.side

/-- The module in column `x` of row `y`, if it has one.  The cells are numbered
row by row, so a column beyond the right edge goes on in the next row. -/
def module? (d : Draft) (x y : Nat) : Option Module :=
  (d.cells.entries[place d.side x y]?).join

/-- Within the columns of the draft the numbering shows nothing but the cell. -/
theorem module?_eq {d : Draft} {x y : Nat} (hx : x < d.side) :
    d.module? x y = (d.cells.get? x y).join := by
  have hx' : x < d.cells.side := hx
  unfold module? Square.get?
  by_cases hy : y < d.cells.side
  · rw [if_pos ⟨hx', hy⟩, side]
  · have hout : d.cells.entries.size ≤ place d.side x y := by
      rw [d.cells.size_entries]
      exact Nat.le_trans (Nat.mul_le_mul_right _ (Nat.le_of_not_lt hy)) (Nat.le_add_right _ _)
    rw [if_neg fun h => hy h.2, Array.getElem?_eq_none hout]

/-- Whether a cell is free. -/
def isFree (d : Draft) (x y : Nat) : Bool := (d.module? x y).isNone

/-- The number of free cells. -/
def freeCount (d : Draft) : Nat := d.cells.count Option.isNone

/-! ## The order of the data -/

/-- The right columns of the strips, from the right edge on.  A strip that would
touch the timing column lies one further left. -/
def stripColumns (side : Nat) : List Nat :=
  (List.range (side / 2)).map fun k =>
    let right := side - 1 - 2 * k
    if right ≤ 6 then right - 1 else right

/-- Whether the strip with the given right column is filled from the bottom. -/
def goesUp (right : Nat) : Bool := (right + 1) / 2 % 2 == 0

/-- The cells of a strip, in order. -/
def strip (side right : Nat) : List (Nat × Nat) :=
  let rows := List.range side
  (if goesUp right then rows.reverse else rows).flatMap fun y => [(right, y), (right - 1, y)]

/-- The cells of all strips of a square, in order. -/
def zigzag (side : Nat) : List (Nat × Nat) := (stripColumns side).flatMap (strip side)

/-- The free cells, in the order in which they take data. -/
def freeCells (d : Draft) : List (Nat × Nat) :=
  (zigzag d.side).filter fun p => d.isFree p.1 p.2

/-! ## Filling -/

/-- The draft with a module in column `x` of row `y`. -/
def put (d : Draft) (x y : Nat) (m : Module) : Draft :=
  ⟨d.version, d.cells.set x y (some m), (d.cells.side_set x y (some m)).trans d.side_cells⟩

@[simp] theorem side_put (d : Draft) (x y : Nat) (m : Module) : (d.put x y m).side = d.side :=
  d.cells.side_set x y (some m)

/-- A module is put in one cell and no other. -/
theorem get?_cells_put {d : Draft} {x y x' y' : Nat} {m : Module} :
    (d.put x y m).cells.get? x' y' =
      if x' = x ∧ y' = y ∧ x < d.side ∧ y < d.side then some (some m) else d.cells.get? x' y' :=
  Square.get?_set

/-- The draft with the free cells filled by bits, which must be exactly as many. -/
def fill (d : Draft) (bits : Bits) : Except EncodeError Draft := do
  let cells := d.freeCells
  EncodeError.checkCount cells.length bits.length
  return (cells.zip bits).foldl (fun d p => d.put p.1.1 p.1.2 ⟨.data, p.2⟩) d

/-- The finished grid.  A cell still free becomes a light data module. -/
def toGrid (d : Draft) : Grid := d.cells.mapEntries fun _ _ c => c.getD ⟨.data, false⟩

@[simp] theorem side_toGrid (d : Draft) : d.toGrid.side = d.side := rfl

theorem get?_toGrid {d : Draft} {x y : Nat} :
    d.toGrid.get? x y = (d.cells.get? x y).map fun c => c.getD ⟨.data, false⟩ :=
  Square.get?_mapEntries

end Draft

end QrSymbol
