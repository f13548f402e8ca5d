import QrSymbol.Codewords
import QrSymbol.Draft
import QrSymbol.FormatInformation
import QrSymbol.Payload

/-!
# Reading a symbol

A reader is given the grid of a symbol and nothing else.  The side tells the
version and the format information the level and the mask.  With the mask taken
back, the cells that the version leaves free spell the codewords, in the order
in which data is placed.  The level tells how they were interleaved
(`deinterleave`).  The data codewords then open with the mode and the number of
characters, and the payload is unpacked by them (`Mode.unpack`).

Nothing is corrected here: a reader of this kind expects an undamaged symbol.
-/

namespace QrSymbol

/-! ## Unpacking numbers -/

/-- The digits in groups of ten, seven or four bits. -/
def unpackDigits : (count : Nat) → Bits → List Nat
  | count + 3, bits =>
      let group := Bits.toNat (bits.take 10)
      group / 100 :: group / 10 % 10 :: group % 10 :: unpackDigits count (bits.drop 10)
  | 2, bits =>
      let group := Bits.toNat (bits.take 7)
      [group / 10, group % 10]
  | 1, bits => [Bits.toNat (bits.take 4)]
  | 0, _ => []

/-- The values in pairs of eleven bits, or a last one in six. -/
def unpackPairs : (count : Nat) → Bits → List Nat
  | count + 2, bits =>
      let pair := Bits.toNat (bits.take 11)
      pair / 45 :: pair % 45 :: unpackPairs count (bits.drop 11)
  | 1, bits => [Bits.toNat (bits.take 6)]
  | 0, _ => []

/-- The numbers of one width. -/
def unpackEach (width : Nat) : (count : Nat) → Bits → List Nat
  | 0, _ => []
  | count + 1, bits =>
      Bits.toNat (bits.take width) :: unpackEach width count (bits.drop width)

/-- The code of a thirteen-bit value. -/
def Kanji.expand (value : Nat) : Nat :=
  let offset := value / 0xC0 * 0x100 + value % 0xC0
  if offset + 0x8140 ≤ 0x9FFC then offset + 0x8140 else offset + 0xC140

namespace Mode

/-- The mode of a four-bit indicator, if it is the indicator of any. -/
def ofIndicator? (bits : Nat) : Option Mode := all.find? fun mode => mode.indicator == bits

/-- The numbers of `count` characters at the front of a stream. -/
def unpack : Mode → (count : Nat) → Bits → List Nat
  | .numeric, count, bits => unpackDigits count bits
  | .alphanumeric, count, bits => unpackPairs count bits
  | .byte, count, bits => unpackEach 8 count bits
  | .kanji, count, bits => (unpackEach 13 count bits).map Kanji.expand

end Mode

/-! ## Content -/

/-- What a payload says.  The codes of kanji mode are left as they are. -/
inductive Content where
  /-- The characters of a text. -/
  | characters (text : List Char)
  /-- The Shift-JIS codes of a text. -/
  | codes (codes : List Nat)
deriving DecidableEq, Repr

/-- The content that the numbers of a mode stand for. -/
def Mode.content : Mode → List Nat → Content
  | .numeric, values => .characters (values.map fun value => Char.ofNat ('0'.toNat + value))
  | .alphanumeric, values => .characters (values.filterMap fun value => alphabet[value]?)
  | .byte, values => .characters (values.map Char.ofNat)
  | .kanji, values => .codes values

/-- What a reader learns from a symbol. -/
structure Reading where
  /-- The mode. -/
  mode : Mode
  /-- The number of characters. -/
  count : Nat
  /-- What they are. -/
  content : Content
deriving DecidableEq, Repr

/-- What the data bits of a version say. -/
def Reading.ofBits (version : Version) (bits : Bits) : Option Reading := do
  let mode ← Mode.ofIndicator? (Bits.toNat (bits.take 4))
  let width := version.countBits mode
  let count := Bits.toNat ((bits.drop 4).take width)
  return ⟨mode, count, mode.content (mode.unpack count (bits.drop (4 + width)))⟩

/-! ## The codewords -/

/-- The place of element `i` of block number `b` among the interleaved blocks of
the given sizes.  Before it stand the first `i` elements of every block, as far
as there are so many, and those elements `i` that earlier blocks have. -/
def interleavedPlace (sizes : List Nat) (i b : Nat) : Nat :=
  sizes.foldr (fun size n => min i size + n) 0
    + (sizes.take b).countP fun size => decide (i < size)

/-- The blocks of the given sizes, read off the interleaved stream. -/
def deinterleave {α : Type} (sizes : List Nat) (stream : List α) : List (List α) :=
  sizes.zipIdx.map fun (size, b) =>
    (List.range size).filterMap fun i => stream[interleavedPlace sizes i b]?

/-- The colours of the cells that a version leaves free, in the order of the
data. -/
def Grid.dataBits (g : Grid) (version : Version) : Bits :=
  (Draft.blank version).freeCells.map fun p => g.isDark p.1 p.2

/-- What the grid of a symbol says. -/
def Grid.read (g : Grid) : Option Reading := do
  let version ← Version.ofNat? ((g.side - 17) / 4)
  let info ← FormatInformation.read g
  let plan := BlockPlan.standard version info.level
  let bits := Grid.dataBits (Grid.masked g info.mask) version
  let codewords := Bits.toBytes (bits.take (plan.codewords * 8))
  Reading.ofBits version (Bits.ofBytes (deinterleave plan.blockSizes codewords).flatten)

end QrSymbol
