import QrSymbol.Bits
import QrSymbol.BlockPlan
import QrSymbol.EncodeError
import QrSymbol.ReedSolomon

/-!
# The codewords of a symbol

The data codewords are cut into the blocks of a plan, and each block gets its
error correction codewords.  The symbol holds the first codeword of every
block, then the second of every block, and so on, blocks that are used up being
passed over.  The error correction codewords follow in the same order
(`interleave`).  Behind the last codeword come the zero bits that fill the
symbol (`symbolBits`).
-/

namespace QrSymbol

/-- Cuts a list into consecutive blocks of the given sizes. -/
def splitBlocks {α : Type} : List Nat → List α → List (List α)
  | [], _ => []
  | size :: sizes, data => data.take size :: splitBlocks sizes (data.drop size)

@[simp] theorem length_splitBlocks {α : Type} (sizes : List Nat) (data : List α) :
    (splitBlocks sizes data).length = sizes.length := by
  induction sizes generalizing data with
  | nil => rfl
  | cons size sizes ih => rw [splitBlocks, List.length_cons, List.length_cons, ih]

/-- The size of the largest block. -/
def longestBlock {α : Type} (blocks : List (List α)) : Nat :=
  (blocks.map List.length).foldl max 0

/-- The first elements of all blocks, then the second ones, and so on. -/
def interleave {α : Type} (blocks : List (List α)) : List α :=
  (List.range (longestBlock blocks)).flatMap fun i => blocks.filterMap (·[i]?)

namespace BlockPlan

/-- The data codewords by block. -/
def dataBlocks (plan : BlockPlan) (data : List UInt8) : List (List UInt8) :=
  splitBlocks plan.blockSizes data

/-- The error correction codewords by block. -/
def correctionBlocks (plan : BlockPlan) (data : List UInt8) : List (List UInt8) :=
  let divisor := ReedSolomon.generator plan.correctionPerBlock
  (plan.dataBlocks data).map (ReedSolomon.correction divisor)

/-- All codewords of a symbol, in the order in which the symbol holds them. -/
def symbolCodewords (plan : BlockPlan) (data : List UInt8) : Except EncodeError (List UInt8) := do
  EncodeError.checkCount (plan.dataCodewords * 8) (data.length * 8)
  return interleave (plan.dataBlocks data) ++ interleave (plan.correctionBlocks data)

/-- The bits of a symbol: its codewords and the remainder.  They must be as many
as the modules that the version leaves for data. -/
def symbolBits (plan : BlockPlan) (data : List UInt8) : Except EncodeError Bits := do
  let codewords ← plan.symbolCodewords data
  let bits := Bits.ofBytes codewords ++ List.replicate plan.remainderBits false
  EncodeError.checkCount plan.version.dataModules bits.length
  return bits

end BlockPlan

end QrSymbol
