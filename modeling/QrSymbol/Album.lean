import QrSymbol.Raster

/-!
# Albums

An album collects pictures of grids, all at one scale and with one border.  It
takes pictures until it is closed, and it can be closed only once.
-/

namespace QrSymbol

/-- The pictures of the grids written so far. -/
structure Album where
  /-- Pixels to a module. -/
  scale : Nat := 8
  /-- The width of the border, in modules. -/
  quietZone : Nat := 4
  /-- The pictures, oldest first. -/
  pictures : List Raster := []
  /-- Whether the album takes no more pictures. -/
  closed : Bool := false

/-- A reason why an album refuses a request. -/
inductive AlbumError where
  /-- It is closed. -/
  | closed
deriving DecidableEq, Repr

/-- The text of a refusal. -/
def AlbumError.message : AlbumError → String
  | .closed => "writer is already closed"

namespace Album

/-- The album with at least one pixel to a module. -/
def withScale (a : Album) (scale : Nat) : Album := { a with scale := max scale 1 }

/-- The album with a border of another width. -/
def withQuietZone (a : Album) (quietZone : Nat) : Album := { a with quietZone }

/-- The album with the picture of one more grid. -/
def write (a : Album) (g : Grid) : Except AlbumError Album :=
  if a.closed then .error .closed
  else .ok { a with pictures := a.pictures ++ [Raster.ofGrid g a.scale a.quietZone] }

/-- The album, closed. -/
def close (a : Album) : Except AlbumError Album :=
  if a.closed then .error .closed else .ok { a with closed := true }

theorem write_of_open {a : Album} (h : a.closed = false) (g : Grid) :
    a.write g = .ok { a with pictures := a.pictures ++ [Raster.ofGrid g a.scale a.quietZone] } := by
  simp [write, h]

theorem write_of_closed {a : Album} (h : a.closed = true) (g : Grid) :
    a.write g = .error .closed := by
  simp [write, h]

theorem close_of_open {a : Album} (h : a.closed = false) :
    a.close = .ok { a with closed := true } := by
  simp [close, h]

theorem close_of_closed {a : Album} (h : a.closed = true) : a.close = .error .closed := by
  simp [close, h]

end Album

end QrSymbol
