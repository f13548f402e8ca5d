import QrSymbol.Gf256

/-!
# Reed-Solomon codes

A block of data is read as a polynomial over the field of 256 elements, its
first codeword being the highest coefficient.  The error correction codewords
are what is left of it, shifted up by their number `d`, after division by the
generator

`(X - α^0) (X - α^1) ⋯ (X - α^(d-1))`.

So data and error correction together are a multiple of the generator.  A
polynomial with leading coefficient one is written as the list of its other
coefficients, highest first.
-/

namespace QrSymbol.ReedSolomon

/-- A polynomial with leading coefficient one, times `X - root`.  Addition is
subtraction in this field. -/
def timesRoot (poly : List Gf256) (root : Gf256) : List Gf256 :=
  List.zipWith (· + ·) (poly ++ [0]) ((1 :: poly).map (root * ·))

@[simp] theorem length_timesRoot (poly : List Gf256) (root : Gf256) :
    (timesRoot poly root).length = poly.length + 1 := by
  simp [timesRoot]

/-- The generator of a degree, without its leading one. -/
def generator : (degree : Nat) → List Gf256
  | 0 => []
  | degree + 1 => timesRoot (generator degree) (Gf256.exp degree)

@[simp] theorem length_generator (degree : Nat) : (generator degree).length = degree := by
  induction degree with
  | zero => rfl
  | succ degree ih => simp [generator, ih]

/-- One step of the division.  The register holds the remainder so far; the
next coefficient of the dividend comes in, and the multiple of the divisor that
cancels the highest one is taken off. -/
def divideStep (divisor register : List Gf256) (coefficient : Gf256) : List Gf256 :=
  match register with
  | [] => []
  | high :: rest =>
      List.zipWith (· + ·) (rest ++ [0]) (divisor.map ((coefficient + high) * ·))

/-- The remainder of a polynomial, shifted up by the degree of the divisor. -/
def remainder (divisor data : List Gf256) : List Gf256 :=
  data.foldl (divideStep divisor) (List.replicate divisor.length 0)

/-- The error correction codewords of a block of data. -/
def correction (divisor : List Gf256) (data : List UInt8) : List UInt8 :=
  (remainder divisor (data.map Gf256.ofByte)).map Gf256.toByte

end QrSymbol.ReedSolomon
