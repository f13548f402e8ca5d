import QrSymbol.Level
import QrSymbol.Version

/-!
# Error correction blocks

The codewords of a symbol are split into blocks, and each block is protected on
its own.  The standard gives two tables by level and version: the number of
blocks and the number of error correction codewords in each.  All else about a
symbol's codewords follows from these and from the number of modules that the
version leaves for data (`Version.dataModules`).

The codewords seldom divide evenly.  Then the last blocks hold one data
codeword more than the first, and the blocks form two groups
(`BlockPlan.standard`).  A plan may also be made by hand, with any groups.
-/

namespace QrSymbol

/-- The error correction codewords of each block, by version. -/
def Level.correctionTable : Level → Vector Nat 40
  | .low => #v[
      7, 10, 15, 20, 26, 18, 20, 24, 30, 18, 20, 24, 26, 30, 22, 24, 28, 30, 28, 28, 28, 28, 30,
      30, 26, 28, 30, 30, 30, 30, 30, 30, 30, 30, 30, 30, 30, 30, 30, 30]
  | .medium => #v[
      10, 16, 26, 18, 24, 16, 18, 22, 22, 26, 30, 22, 22, 24, 24, 28, 28, 26, 26, 26, 26, 28,
      28, 28, 28, 28, 28, 28, 28, 28, 28, 28, 28, 28, 28, 28, 28, 28, 28, 28]
  | .quartile => #v[
      13, 22, 18, 26, 18, 24, 18, 22, 20, 24, 28, 26, 24, 20, 30, 24, 28, 28, 26, 30, 28, 30,
      30, 30, 30, 28, 30, 30, 30, 30, 30, 30, 30, 30, 30, 30, 30, 30, 30, 30]
  | .high => #v[
      17, 28, 22, 16, 22, 28, 26, 26, 24, 28, 24, 28, 22, 24, 24, 30, 28, 28, 26, 28, 30, 24,
      30, 30, 30, 30, 30, 30, 30, 30, 30, 30, 30, 30, 30, 30, 30, 30, 30, 30]

/-- The number of blocks, by version. -/
def Level.blockTable : Level → Vector Nat 40
  | .low => #v[
      1, 1, 1, 1, 1, 2, 2, 2, 2, 4, 4, 4, 4, 4, 6, 6, 6, 6, 7, 8, 8, 9, 9, 10, 12, 12, 12, 13,
      14, 15, 16, 17, 18, 19, 19, 20, 21, 22, 24, 25]
  | .medium => #v[
      1, 1, 1, 2, 2, 4, 4, 4, 5, 5, 5, 8, 9, 9, 10, 10, 11, 13, 14, 16, 17, 17, 18, 20, 21, 23,
      25, 26, 28, 29, 31, 33, 35, 37, 38, 40, 43, 45, 47, 49]
  | .quartile => #v[
      1, 1, 2, 2, 4, 4, 6, 6, 8, 8, 8, 10, 12, 16, 12, 17, 16, 18, 21, 20, 23, 23, 25, 27, 29,
      34, 34, 35, 38, 40, 43, 45, 48, 51, 53, 56, 59, 62, 65, 68]
  | .high => #v[
      1, 1, 2, 4, 4, 4, 5, 6, 8, 8, 11, 11, 16, 16, 18, 16, 19, 21, 25, 25, 25, 34, 30, 32, 35,
      37, 40, 42, 45, 48, 51, 54, 57, 60, 63, 66, 70, 74, 77, 81]

namespace Version

/-- The error correction codewords of each block of a version at a level. -/
def correctionPerBlock (v : Version) (level : Level) : Nat :=
  level.correctionTable.get v.index

/-- The number of blocks of a version at a level. -/
def blockCount (v : Version) (level : Level) : Nat :=
  level.blockTable.get v.index

/-- The modules that a version leaves for data once its function patterns are
in place: the square less the finder, timing and format patterns, less the
alignment patterns from version 2 on and the version information from version
7 on. -/
def dataModules (v : Version) : Nat :=
  let n := v.number
  let aligned := n / 7 + 2
  (16 * n + 128) * n + 64
    - (if 2 ≤ n then (25 * aligned - 10) * aligned - 55 else 0)
    - (if 7 ≤ n then 36 else 0)

end Version

/-- Blocks of one size. -/
structure BlockPlan.Group where
  /-- The number of blocks. -/
  count : Nat
  /-- The data codewords of each. -/
  dataPerBlock : Nat
  /-- The error correction codewords of each. -/
  correctionPerBlock : Nat
deriving DecidableEq, Repr

/-- How the codewords of a symbol are split into blocks. -/
structure BlockPlan where
  /-- The version of the symbol. -/
  version : Version
  /-- The error correction level. -/
  level : Level
  /-- The groups of blocks, in the order of the data. -/
  groups : List BlockPlan.Group
  /-- The zero bits behind the last codeword. -/
  remainderBits : Nat
deriving DecidableEq, Repr

namespace BlockPlan

/-- The data codewords of all blocks. -/
def dataCodewords (plan : BlockPlan) : Nat :=
  plan.groups.foldr (fun g n => g.count * g.dataPerBlock + n) 0

/-- The bits of all data codewords. -/
def dataBits (plan : BlockPlan) : Nat := plan.dataCodewords * 8

/-- The number of blocks. -/
def blockCount (plan : BlockPlan) : Nat := plan.groups.foldr (fun g n => g.count + n) 0

/-- The error correction codewords of each block, which the first group gives
for all. -/
def correctionPerBlock (plan : BlockPlan) : Nat :=
  match plan.groups with
  | [] => 0
  | g :: _ => g.correctionPerBlock

/-- The codewords of the symbol, data and error correction. -/
def codewords (plan : BlockPlan) : Nat :=
  plan.dataCodewords + plan.blockCount * plan.correctionPerBlock

/-- The data codewords of each block, in the order of the data. -/
def blockSizes (plan : BlockPlan) : List Nat :=
  plan.groups.flatMap fun g => List.replicate g.count g.dataPerBlock

/-- The plan of the standard for a version at a level. -/
def standard (version : Version) (level : Level) : BlockPlan :=
  let correction := version.correctionPerBlock level
  let blocks := version.blockCount level
  let total := version.dataModules / 8
  let long := total % blocks
  let data := total / blocks - correction
  let short : BlockPlan.Group := ⟨blocks - long, data, correction⟩
  { version, level
    groups := if 0 < long then [short, ⟨long, data + 1, correction⟩] else [short]
    remainderBits := version.dataModules % 8 }

/-- The plans of the standard, by version and then by level. -/
def standardTable : List BlockPlan :=
  Version.all.flatMap fun version => Level.all.map fun level => standard version level

end BlockPlan

end QrSymbol
