import QrSymbol.Bch
import QrSymbol.Bits
import QrSymbol.Grid
import QrSymbol.Level

/-!
# Format information

The format information tells a reader the level and the mask of a symbol.  Its
five data bits become a word of fifteen bits, which is combined with a fixed
pattern so that it is never all light.  The symbol holds the word twice.  Bit
`i` of the first copy lies around the upper left finder; the second copy is
split between the other two finders (`FormatInformation.places`).
-/

namespace QrSymbol

/-- The level and the mask of a symbol. -/
structure FormatInformation where
  /-- The error correction level. -/
  level : Level
  /-- The mask of the data modules. -/
  mask : Mask
deriving DecidableEq, Repr

namespace FormatInformation

/-- The pattern that every word is combined with. -/
def pattern : Nat := 0x5412

/-- The word of fifteen bits for five data bits. -/
def wordOf (data : Nat) : Nat := BchCode.format.encode data ^^^ pattern

/-- Whether a word is the word of some data. -/
def check (word : Nat) : Bool := BchCode.format.check (word ^^^ pattern)

/-- The five data bits: the code of the level and the number of the mask. -/
def data (info : FormatInformation) : Nat := info.level.code * 8 + info.mask.id.val

/-- The word of fifteen bits. -/
def word (info : FormatInformation) : Nat := wordOf info.data

/-- The level and mask that five data bits stand for. -/
def ofData (data : Nat) : FormatInformation :=
  ⟨.ofCode (data / 8), ⟨⟨data % 8, Nat.mod_lt data (by decide)⟩⟩⟩

/-- The level and mask of a word, if it is the word of any. -/
def ofWord? (word : Nat) : Option FormatInformation :=
  if check word then some (ofData ((word ^^^ pattern) >>> 10)) else none

/-- The place of bit `i` of the first copy. -/
def firstPlace (i : Nat) : Nat × Nat :=
  if i ≤ 5 then (8, i)
  else if i = 6 then (8, 7)
  else if i = 7 then (8, 8)
  else if i = 8 then (7, 8)
  else (14 - i, 8)

/-- The place of bit `i` of the second copy. -/
def secondPlace (side i : Nat) : Nat × Nat :=
  if i < 8 then (side - 1 - i, 8) else (8, side - 15 + i)

/-- The places of bit `i`. -/
def places (side i : Nat) : List (Nat × Nat) := [firstPlace i, secondPlace side i]

/-- The grid with both copies written. -/
def write (info : FormatInformation) (g : Grid) : Grid :=
  (List.range 15).foldl
    (fun g i => Grid.setAll g (places g.side i) ⟨.format, info.word.testBit i⟩) g

/-- The word that the first copy in a grid spells. -/
def spelled (g : Grid) : Nat :=
  Bits.toNat ((List.range 15).reverse.map fun i => g.isDark (firstPlace i).1 (firstPlace i).2)

/-- The level and mask in the first copy, if it spells any. -/
def read (g : Grid) : Option FormatInformation := ofWord? (spelled g)

end FormatInformation

end QrSymbol
