/-!
# The field of 256 elements

The codewords of a symbol are protected by arithmetic on bytes, read as
polynomials over two elements modulo `x^8 + x^4 + x^3 + x^2 + 1`.  Bit `i` of an
element is its coefficient of `x^i`.  Addition is exclusive or.  Multiplication
is Horner's rule on the bits of one factor, where multiplying by `x` is a shift
that folds the ninth bit back in (`Gf256.double`).  The powers of `x`, which is
written `α`, run through all 255 elements but zero.
-/

namespace QrSymbol

/-- An element of the field, by its coefficients. -/
structure Gf256 where
  /-- The coefficients, that of `x^i` in bit `i`. -/
  bits : BitVec 8
deriving DecidableEq, Repr

namespace Gf256

/-- The element a byte stands for. -/
def ofByte (byte : UInt8) : Gf256 := ⟨byte.toBitVec⟩

/-- The byte of an element. -/
def toByte (a : Gf256) : UInt8 := UInt8.ofBitVec a.bits

@[simp] theorem toByte_ofByte (byte : UInt8) : (ofByte byte).toByte = byte := rfl

@[simp] theorem ofByte_toByte (a : Gf256) : ofByte a.toByte = a := rfl

instance : Zero Gf256 := ⟨⟨0⟩⟩

instance : One Gf256 := ⟨⟨1⟩⟩

/-- The sum, coefficient by coefficient. -/
def add (a b : Gf256) : Gf256 := ⟨a.bits ^^^ b.bits⟩

instance : Add Gf256 := ⟨add⟩

/-- An element times `x`. -/
def double (a : Gf256) : Gf256 :=
  if a.bits.msb then ⟨(a.bits <<< 1) ^^^ 0x1D⟩ else ⟨a.bits <<< 1⟩

/-- An element times the polynomial with the given coefficients, that of
`x^0` first. -/
def timesBits (a : Gf256) : List Bool → Gf256
  | [] => 0
  | b :: coefficients => (if b then a else 0) + (a.timesBits coefficients).double

/-- The coefficients of an element, that of `x^0` first. -/
def coefficients (a : Gf256) : List Bool := (List.range 8).map a.bits.getLsbD

/-- The product. -/
def mul (a b : Gf256) : Gf256 := a.timesBits b.coefficients

instance : Mul Gf256 := ⟨mul⟩

/-- The powers of `x`. -/
def powerOfX : Nat → Gf256
  | 0 => 1
  | n + 1 => (powerOfX n).double

/-- The power `α^n`.  The powers repeat after 255 steps. -/
def exp (n : Nat) : Gf256 := powerOfX (n % 255)

end Gf256

end QrSymbol
