import QrSymbol.Bch
import QrSymbol.Grid
import QrSymbol.Version

/-!
# Version information

From version 7 on a symbol holds its version number, as a word of eighteen bits
in two blocks.  One block lies above the lower left finder and the other beside
the upper right one.  They differ only in that column and row are exchanged
(`VersionInformation.places`).
-/

namespace QrSymbol.VersionInformation

/-- The word of eighteen bits for a version number. -/
def wordOf (number : Nat) : Nat := BchCode.version.encode number

/-- Whether a word is the word of some number. -/
def check (word : Nat) : Bool := BchCode.version.check word

/-- The word of a version, if its symbols hold one. -/
def word? (v : Version) : Option Nat := if v.hasInfo then some (wordOf v.number) else none

/-- The places of bit `i`. -/
def places (side i : Nat) : List (Nat × Nat) :=
  let a := side - 11 + i % 3
  let b := i / 3
  [(a, b), (b, a)]

/-- The grid with both copies of a version's word written, if it has one. -/
def write (v : Version) (g : Grid) : Grid :=
  match word? v with
  | none => g
  | some word =>
      (List.range 18).foldl
        (fun g i => Grid.setAll g (places g.side i) ⟨.version, word.testBit i⟩) g

end QrSymbol.VersionInformation
