import QrSymbol.BlockPlan
import QrSymbol.Capacity
import QrSymbol.Payload

/-!
# The data stream

The data codewords of a symbol are one stream of bits: the mode indicator, the
number of characters, the payload, a terminator of four zeros, zeros up to the
next byte and then padding bytes.  The terminator is cut short where the
capacity ends.  The padding bytes alternate.
-/

namespace QrSymbol

/-- The bits of a text before any padding. -/
def segmentBits (text : List Char) (mode : Mode) (version : Version) :
    Except EncodeError Bits :=
  (mode.encode text).map fun payload =>
    Bits.ofNat 4 mode.indicator ++ Bits.ofNat (version.countBits mode) text.length ++ payload

/-- The padding bytes, `EC` and `11` in turn. -/
def padBytes (n : Nat) : List UInt8 :=
  (List.range n).map fun i => if i % 2 = 0 then 0xEC else 0x11

/-- The bits behind a segment of `length` bits in a stream of `capacity` bits. -/
def padding (capacity length : Nat) : Bits :=
  let terminator := min 4 (capacity - length)
  let alignment := (8 - (length + terminator) % 8) % 8
  let rest := capacity - (length + terminator + alignment)
  List.replicate terminator false ++ List.replicate alignment false
    ++ Bits.ofBytes (padBytes (rest / 8))

/-- The data codewords of a text.  The mode is not compared with the one that
the text needs. -/
def dataStream (text : List Char) (mode : Mode) (plan : BlockPlan) :
    Except EncodeError (List UInt8) := do
  let segment ← segmentBits text mode plan.version
  if plan.dataBits < segment.length then
    .error (.tooManyBits plan.dataBits segment.length)
  else
    .ok (Bits.toBytes (segment ++ padding plan.dataBits segment.length))

end QrSymbol
