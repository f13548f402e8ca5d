/-!
# Bits and bytes

A stream of bits is a list, first bit first.  Numbers are written and read most
significant bit first (`Bits.ofNat`, `Bits.toNat`).  A stream is packed into
bytes from its front, and the last byte is filled up with zeros
(`Bits.toBytes`).  It grows at its end, by a number, a bit or a byte at a time
(`Bits.push`).
-/

namespace QrSymbol

/-- A stream of bits, first bit first. -/
abbrev Bits := List Bool

namespace Bits

/-! ## Numbers -/

/-- The low `width` bits of a number, most significant first. -/
def ofNat : (width value : Nat) → Bits
  | 0, _ => []
  | width + 1, value => value.testBit width :: ofNat width value

@[simp] theorem ofNat_zero (value : Nat) : ofNat 0 value = [] := rfl

@[simp] theorem length_ofNat (width value : Nat) : (ofNat width value).length = width := by
  induction width with
  | zero => rfl
  | succ width ih => simp [ofNat, ih]

/-- The number a stream spells, most significant bit first, behind the number
`high` already read. -/
def readFrom (high : Nat) : Bits → Nat
  | [] => high
  | b :: bits => readFrom (2 * high + b.toNat) bits

/-- The number a stream spells, most significant bit first. -/
def toNat (bits : Bits) : Nat := readFrom 0 bits

@[simp] theorem toNat_nil : toNat [] = 0 := rfl

/-! ## Bytes -/

/-- The eight bits of a byte. -/
def ofByte (byte : UInt8) : Bits := ofNat 8 byte.toNat

@[simp] theorem length_ofByte (byte : UInt8) : (ofByte byte).length = 8 := length_ofNat 8 _

/-- The bits of a sequence of bytes. -/
def ofBytes (bytes : List UInt8) : Bits := bytes.flatMap ofByte

@[simp] theorem ofBytes_nil : ofBytes [] = [] := rfl

@[simp] theorem ofBytes_cons (byte : UInt8) (bytes : List UInt8) :
    ofBytes (byte :: bytes) = ofByte byte ++ ofBytes bytes := rfl

@[simp] theorem ofBytes_append (front back : List UInt8) :
    ofBytes (front ++ back) = ofBytes front ++ ofBytes back := List.flatMap_append

@[simp] theorem length_ofBytes (bytes : List UInt8) :
    (ofBytes bytes).length = bytes.length * 8 := by
  induction bytes with
  | nil => rfl
  | cons byte bytes ih => simp [ih]; omega

/-- Up to eight bits as a byte, filled up with zeros. -/
def byte (bits : Bits) : UInt8 := UInt8.ofNat (toNat bits <<< (8 - bits.length))

/-- Packs a stream behind `pending`, the bits of a byte not yet full. -/
def packBehind (pending : Bits) : Bits → List UInt8
  | [] => if pending.isEmpty then [] else [byte pending]
  | b :: bits =>
      if pending.length < 7 then packBehind (pending ++ [b]) bits
      else byte (pending ++ [b]) :: packBehind [] bits

/-- A stream packed into bytes, the last one filled up with zeros. -/
def toBytes (bits : Bits) : List UInt8 := packBehind [] bits

/-- The zeros that fill up the last byte of `n` bits. -/
def fill (n : Nat) : Bits := List.replicate ((8 - n % 8) % 8) false

/-! ## Pushes -/

/-- What is put behind a stream at a time. -/
inductive Push where
  /-- The low bits of a number, as many as the width says. -/
  | number (width value : Nat)
  /-- One bit. -/
  | bit (value : Bool)
  /-- A whole byte. -/
  | byte (value : UInt8)
deriving DecidableEq, Repr

/-- The stream with a push behind it. -/
def push (stream : Bits) : Push → Bits
  | .number width value => stream ++ ofNat width value
  | .bit value => stream ++ [value]
  | .byte value => stream ++ ofByte value

/-- The stream with pushes behind it, one after the other. -/
def afterPushes (stream : Bits) (pushes : List Push) : Bits := pushes.foldl push stream

end Bits

end QrSymbol
