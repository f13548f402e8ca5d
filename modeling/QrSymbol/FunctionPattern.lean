import QrSymbol.Module
import QrSymbol.Version

/-!
# Function patterns

Which modules of a symbol have a function is decided by its version and their
place.  Each pattern is a partial function of the column `x` and the row `y`:
it gives the modules it covers and is silent on the rest.

Patterns meet in two places.  An alignment pattern covers the timing pattern
where it lies on it, and the always-dark module takes the end of the format
area.  `functionModule?` asks the patterns in that order of precedence.  The
format and version areas are only reserved here, as light modules.  What is in
them depends on the mask, which is chosen last.
-/

namespace QrSymbol

/-- The distance between two coordinates. -/
def distance (a b : Nat) : Nat := (a - b) + (b - a)

/-- The larger of the distances in column and row. -/
def ringOf (x y cx cy : Nat) : Nat := max (distance x cx) (distance y cy)

namespace Pattern

/-- A finder with its separator, around the centre of the finder: dark but for
the second ring, and the fourth ring is the separator. -/
def finderAround (cx cy x y : Nat) : Option Module :=
  let ring := ringOf x y cx cy
  if ring ≤ 3 then some ⟨.finder, ring ≠ 2⟩
  else if ring = 4 then some ⟨.separator, false⟩
  else none

/-- The finders in all corners but the lower right. -/
def finder? (side x y : Nat) : Option Module :=
  finderAround 3 3 x y <|> finderAround (side - 4) 3 x y <|> finderAround 3 (side - 4) x y

/-- The row and the column between the separators, dark in every other module. -/
def timing? (side x y : Nat) : Option Module :=
  if y = 6 ∧ 8 ≤ x ∧ x < side - 8 then some ⟨.timing, x % 2 = 0⟩
  else if x = 6 ∧ 8 ≤ y ∧ y < side - 8 then some ⟨.timing, y % 2 = 0⟩
  else none

/-- The columns, and rows, on which alignment patterns are centred: the first
near the edge, the last as far from the other edge, and the rest in even steps
down from the last.  Version 1 has none. -/
def alignmentCentres (number : Nat) : List Nat :=
  if number = 1 then []
  else
    let count := number / 7 + 2
    let last := 4 * number + 10
    let step := (8 * number + 3 * count + 5) / (4 * count - 4) * 2
    6 :: ((List.range (count - 1)).map fun i => last - i * step).reverse

/-- Whether an alignment pattern would lie on a finder. -/
def inFinderCorner (side cx cy : Nat) : Bool :=
  (decide (cx ≤ 8) && decide (cy ≤ 8))
    || (decide (side - 9 ≤ cx) && decide (cy ≤ 8))
    || (decide (cx ≤ 8) && decide (side - 9 ≤ cy))

/-- The alignment pattern that covers a place, dark but for the first ring
around its centre. -/
def alignment? (centres : List Nat) (side x y : Nat) : Option Module :=
  match centres.find? fun c => decide (distance x c ≤ 2),
        centres.find? fun c => decide (distance y c ≤ 2) with
  | some cx, some cy =>
      if inFinderCorner side cx cy then none
      else some ⟨.alignment, ringOf x y cx cy ≠ 1⟩
  | _, _ => none

/-- The two copies of the format information, around the upper left finder and
split between the other two. -/
def format? (side x y : Nat) : Option Module :=
  if (x = 8 ∧ (y ≤ 8 ∧ y ≠ 6 ∨ side - 8 ≤ y ∧ y < side))
      ∨ (y = 8 ∧ (x ≤ 8 ∧ x ≠ 6 ∨ side - 8 ≤ x ∧ x < side)) then
    some ⟨.format, false⟩
  else none

/-- The module beside the lower left finder that is always dark. -/
def alwaysDark? (side x y : Nat) : Option Module :=
  if x = 8 ∧ y = side - 8 then some ⟨.alwaysDark, true⟩ else none

/-- The two copies of the version, beside the upper right and above the lower
left finder. -/
def version? (v : Version) (x y : Nat) : Option Module :=
  let block (a b : Nat) : Bool := decide (v.side - 11 ≤ a ∧ a < v.side - 8 ∧ b < 6)
  if v.hasInfo && (block x y || block y x) then some ⟨.version, false⟩ else none

end Pattern

open Pattern in
/-- The function module in column `x` of row `y`, given the alignment centres of
the version, or nothing where data goes. -/
def functionModule? (v : Version) (centres : List Nat) (x y : Nat) : Option Module :=
  version? v x y <|> alwaysDark? v.side x y <|> format? v.side x y
    <|> alignment? centres v.side x y <|> timing? v.side x y <|> finder? v.side x y

end QrSymbol
