import QrSymbol.ModeChoice
import QrSymbol.Codewords
import QrSymbol.DataStream
import QrSymbol.Draft
import QrSymbol.FormatInformation
import QrSymbol.MaskChoice
import QrSymbol.Options
import QrSymbol.VersionInformation

/-!
# Symbols

A text becomes a symbol in steps, each of which may stop the encoding.  The
mode is settled first and then the version.  The text becomes data codewords,
these become the bits of the symbol, and the bits fill the draft of the version
(`unmaskedGrid`).  The mask is chosen while the format and version areas are
still light; what they say is written at the end (`Symbol.ofChoice`).
-/

namespace QrSymbol

/-- A finished symbol and what it was made from. -/
structure Symbol where
  /-- The finished modules. -/
  grid : Grid
  /-- The text. -/
  content : String
  /-- The version. -/
  version : Version
  /-- The error correction level. -/
  level : Level
  /-- The mask of the data modules. -/
  mask : Mask
  /-- The mode of the text. -/
  mode : Mode
deriving DecidableEq

/-- The number of modules on a side of a symbol. -/
def Symbol.side (s : Symbol) : Nat := s.grid.side

/-- The draft of a version filled with the bits of a symbol, as a grid without a
mask. -/
def unmaskedGrid (version : Version) (bits : Bits) : Except EncodeError Grid :=
  ((Draft.blank version).fill bits).map Draft.toGrid

/-- The symbol of a text, once its mode, plan and mask are settled. -/
def Symbol.ofChoice (text : String) (mode : Mode) (plan : BlockPlan)
    (winner : MaskTrial) : Symbol :=
  let formatted := FormatInformation.write ⟨plan.level, winner.mask⟩ winner.grid
  { grid := VersionInformation.write plan.version formatted
    content := text
    version := plan.version
    level := plan.level
    mask := winner.mask
    mode }

/-- The symbol of a text under the given options. -/
def encode (text : String) (options : Options) : Except EncodeError Symbol := do
  let characters := text.toList
  let mode ← chooseMode characters options.mode
  let plan ← choosePlan characters.length mode options.level options.minVersion
  let data ← dataStream characters mode plan
  let bits ← plan.symbolBits data
  let unmasked ← unmaskedGrid plan.version bits
  return Symbol.ofChoice text mode plan (chooseMask unmasked options.mask)

end QrSymbol
