/-!
# BCH codes

Two short words in a symbol, the format and the version information, carry
check bits of their own.  A word is a polynomial over two elements, bit `i`
being the coefficient of `x^i`.  A word of the code is a multiple of the code's
generator.  It holds the data in its high bits, and the check bits below make
it a multiple.

The check bits come from a shift register (`BchCode.remainder`).  A received
word is tested by long division from its top (`BchCode.syndrome`).
-/

namespace QrSymbol

/-- A code, by its generator. -/
structure BchCode where
  /-- The coefficients of the generator. -/
  generator : Nat
  /-- The degree of the generator, which is the number of check bits. -/
  degree : Nat
  /-- The number of data bits. -/
  dataBits : Nat
deriving DecidableEq, Repr

namespace BchCode

/-- The code of the format information. -/
def format : BchCode := ⟨0x537, 10, 5⟩

/-- The code of the version information. -/
def version : BchCode := ⟨0x1F25, 12, 6⟩

/-- A register multiplied by `x` and reduced by the generator. -/
def shift (code : BchCode) (register : Nat) : Nat :=
  (register <<< 1) ^^^ ((register >>> (code.degree - 1)) * code.generator)

/-- A register after a number of shifts. -/
def shifts (code : BchCode) : Nat → Nat → Nat
  | 0, register => register
  | n + 1, register => code.shifts n (code.shift register)

/-- The remainder of the data, shifted up by the degree of the generator. -/
def remainder (code : BchCode) (data : Nat) : Nat :=
  code.shifts code.degree data % (1 <<< code.degree)

/-- The word of the code with the given data, of which the low bits count. -/
def encode (code : BchCode) (data : Nat) : Nat :=
  let kept := data % (1 <<< code.dataBits)
  (kept <<< code.degree) ||| code.remainder kept

/-- A word with its highest coefficients divided out, the `n` from the degree
of the generator up. -/
def reduce (code : BchCode) : (n word : Nat) → Nat
  | 0, word => word
  | n + 1, word =>
      code.reduce n <|
        if word.testBit (n + code.degree) then word ^^^ (code.generator <<< n) else word

/-- What is left of a word of the code's length.  It is zero for the words of
the code. -/
def syndrome (code : BchCode) (word : Nat) : Nat := code.reduce code.dataBits word

/-- Whether a word is a word of the code. -/
def check (code : BchCode) (word : Nat) : Bool := code.syndrome word == 0

end BchCode

end QrSymbol
