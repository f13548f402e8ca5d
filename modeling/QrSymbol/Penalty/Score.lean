import QrSymbol.Grid
import QrSymbol.Penalty.Occurrences

/-!
# The penalty of a grid

Four rules say how much a grid disturbs a reader.  The mask of a symbol is the
one whose grid has the least sum.

* runs: five or more modules of one colour in a row or column cost 3, and 1
  more for every module beyond the fifth.
* blocks: every square of two by two modules of one colour costs 3.
* finders: every light run of four beside a sequence in the proportions of a
  finder costs 40, in rows and in columns.
* balance: every full five percent that the share of dark modules is away from
  one half costs 10.
-/

namespace QrSymbol

/-- The penalty of a grid, by rule. -/
structure Penalty where
  /-- Long runs of one colour. -/
  runs : Nat
  /-- Blocks of one colour. -/
  blocks : Nat
  /-- Sequences like those of a finder. -/
  finders : Nat
  /-- Uneven colours. -/
  balance : Nat
deriving DecidableEq, Repr

namespace Penalty

/-- The sum of the four rules. -/
def total (p : Penalty) : Nat := p.runs + p.blocks + p.finders + p.balance

/-- The cost of a run of `length` modules. -/
def ofRun (length : Nat) : Nat := if 5 ≤ length then 3 + (length - 5) else 0

/-- The cost of the runs in a line behind `length` modules of one colour. -/
def ofRunsFrom (colour : Bool) (length : Nat) : List Bool → Nat
  | [] => ofRun length
  | c :: line =>
      if c = colour then ofRunsFrom colour (length + 1) line
      else ofRun length + ofRunsFrom c 1 line

/-- The cost of the runs in a line. -/
def ofRuns : List Bool → Nat
  | [] => 0
  | c :: line => ofRunsFrom c 1 line

/-- The number of one-coloured blocks between two lines. -/
def blocksBetween : List Bool → List Bool → Nat
  | a :: b :: upper, c :: d :: lower =>
      (if a = b ∧ a = c ∧ a = d then 1 else 0) + blocksBetween (b :: upper) (d :: lower)
  | _, _ => 0

/-- The number of one-coloured blocks in consecutive lines. -/
def blocksIn : List (List Bool) → Nat
  | upper :: lower :: lines => blocksBetween upper lower + blocksIn (lower :: lines)
  | _ => 0

/-- A finder's sequence with four light modules behind it. -/
def finderBefore : List Bool :=
  [true, false, true, true, true, false, true, false, false, false, false]

/-- A finder's sequence with four light modules in front of it. -/
def finderAfter : List Bool :=
  [false, false, false, false, true, false, true, true, true, false, true]

/-- The search for `finderBefore`. -/
def finderBeforeTable : BorderTable := .ofPattern finderBefore

/-- The search for `finderAfter`. -/
def finderAfterTable : BorderTable := .ofPattern finderAfter

/-- The cost of the sequences like those of a finder in a line. -/
def ofFinders (line : List Bool) : Nat :=
  (finderBeforeTable.count line + finderAfterTable.count line) * 40

/-- The cost of `dark` dark modules among `total`. -/
def ofBalance (dark total : Nat) : Nat :=
  ((20 * dark - 10 * total) + (10 * total - 20 * dark)) / total * 10

/-- The penalty of a grid. -/
def ofGrid (g : Grid) : Penalty :=
  let rows := g.darkRows
  let columns := g.darkColumns
  { runs := (rows ++ columns).foldr (fun line n => ofRuns line + n) 0
    blocks := blocksIn rows * 3
    finders := (rows ++ columns).foldr (fun line n => ofFinders line + n) 0
    balance := ofBalance g.darkCount (g.side * g.side) }

end Penalty

end QrSymbol
