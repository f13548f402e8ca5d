import QrSymbol.BlockPlan
import QrSymbol.EncodeError

/-!
# Capacities

The capacity of a version at a level is the largest number of characters whose
mode indicator, count and payload fit its data codewords.  It has a closed form
for each mode (`maxCharacters`).  The version of a symbol is the smallest one,
from a given floor up, whose capacity holds the text (`choosePlan`).
-/

namespace QrSymbol

/-- The bits in front of the payload: the mode indicator and the count. -/
def Version.headerBits (v : Version) (mode : Mode) : Nat := 4 + v.countBits mode

/-- The largest number of characters that a mode packs into `bits` bits. -/
def Mode.charactersIn (mode : Mode) (bits : Nat) : Nat :=
  match mode with
  | .numeric =>
      bits / 10 * 3 + (if 7 ≤ bits % 10 then 2 else if 4 ≤ bits % 10 then 1 else 0)
  | .alphanumeric => bits / 11 * 2 + (if 6 ≤ bits % 11 then 1 else 0)
  | .byte => bits / 8
  | .kanji => bits / 13

/-- The largest number of characters that a segment of `dataBits` bits holds,
none if it does not even hold the header. -/
def maxCharacters (mode : Mode) (version : Version) (dataBits : Nat) : Nat :=
  if dataBits < version.headerBits mode then 0
  else mode.charactersIn (dataBits - version.headerBits mode)

/-- The characters of a mode that a version holds at a level. -/
def Version.capacity (v : Version) (level : Level) (mode : Mode) : Nat :=
  maxCharacters mode v (BlockPlan.standard v level).dataBits

/-- The standard plan of the smallest version from `floor` up that holds
`length` characters. -/
def choosePlan (length : Nat) (mode : Mode) (level : Level) (floor : Option Version) :
    Except EncodeError BlockPlan :=
  let versions := (floor.getD .least).upward
  match versions.find? fun v => decide (length ≤ v.capacity level mode) with
  | some v => .ok (.standard v level)
  | none => .error (.textTooLong length mode level)

end QrSymbol
