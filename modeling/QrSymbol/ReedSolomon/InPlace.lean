import QrSymbol.Gf256.Logarithm
import QrSymbol.ReedSolomon

/-!
# The generator in place

The generator can be computed in a buffer that has as many places as the degree.  At
the end of the buffer stands a product of factors `X - root` with its leading one, and
before that are zeros.  At first the product has no factor and is the one itself.  A
step multiplies by the next factor in one sweep over the places.  The last step has no
place for the leading one any more, and the other coefficients are those of the
generator.
-/

namespace QrSymbol.ReedSolomon

/-- The new coefficient at a place: the old one times the root, and what stands at
the next place, if there is one. -/
def updateCoefficient (root : Gf256) (buffer : List Gf256) (place : Nat) : List Gf256 :=
  buffer.modify place fun coefficient =>
    coefficient.mulByLog root + (buffer[place + 1]?).getD 0

/-- A sweep over the places from the first to the last. -/
def sweep (root : Gf256) (buffer : List Gf256) : List Gf256 :=
  (List.range buffer.length).foldl (updateCoefficient root) buffer

/-- The state between two sweeps. -/
structure Construction where
  /-- The coefficients so far. -/
  buffer : List Gf256
  /-- The root of the next factor. -/
  root : Gf256

namespace Construction

/-- The product of no factor. -/
def start (degree : Nat) : Construction := ⟨(List.replicate degree 0).set (degree - 1) 1, 1⟩

/-- One more factor.  The next root is the next power of `α`. -/
def step (construction : Construction) : Construction :=
  ⟨sweep construction.root construction.buffer, construction.root.mulByLog ⟨2⟩⟩

/-- The state after a number of steps. -/
def after (degree : Nat) : (steps : Nat) → Construction
  | 0 => start degree
  | steps + 1 => (after degree steps).step

end Construction

/-- The coefficients after as many steps as the degree. -/
def generatorInPlace (degree : Nat) : List Gf256 := (Construction.after degree degree).buffer

end QrSymbol.ReedSolomon
