import QrSymbol.Grid

/-!
# Pictures of a grid

A picture of a grid has a square of pixels for each module and a light border,
the quiet zone, whose width is counted in modules.  A module has at least one
pixel.
-/

namespace QrSymbol

/-- A picture: its pixels, `true` for dark. -/
abbrev Raster := Square Bool

namespace Raster

/-- Whether a pixel is dark, at `scale` pixels to a module behind a border of
`quietZone` modules.  Left of the border and beyond the grid it is light. -/
def pixel (g : Grid) (scale quietZone px py : Nat) : Bool :=
  let x := px / scale
  let y := py / scale
  decide (quietZone ≤ x) && decide (quietZone ≤ y)
    && Grid.isDark g (x - quietZone) (y - quietZone)

/-- The picture of a grid. -/
def ofGrid (g : Grid) (scale quietZone : Nat) : Raster :=
  let scale := max scale 1
  .ofFn ((g.side + 2 * quietZone) * scale) (pixel g scale quietZone)

@[simp] theorem side_ofGrid (g : Grid) (scale quietZone : Nat) :
    (ofGrid g scale quietZone).side = (g.side + 2 * quietZone) * max scale 1 := rfl

theorem get?_ofGrid {g : Grid} {scale quietZone px py : Nat} :
    (ofGrid g scale quietZone).get? px py =
      if px < (g.side + 2 * quietZone) * max scale 1 ∧ py < (g.side + 2 * quietZone) * max scale 1
      then some (pixel g (max scale 1) quietZone px py) else none :=
  Square.get?_ofFn

/-- The number of dark pixels. -/
def darkCount (r : Raster) : Nat := r.count id

end Raster

end QrSymbol
