import QrSymbol.Kanji.Code
import QrSymbol.Mode

/-!
# Character sets of the modes

Each mode writes a character as a number (`Mode.value?`): a digit as its value,
a character of the 45-character alphabet as its place there, a Latin-1
character as its code point and a double-byte character as its Shift-JIS code.
A mode accepts the characters that have such a number.
-/

namespace QrSymbol

/-- The characters of alphanumeric mode, in the order of their values. -/
def alphabet : List Char := "0123456789ABCDEFGHIJKLMNOPQRSTUVWXYZ $%*+-./:".toList

namespace Mode

/-- The number that stands for a character in a mode. -/
def value? : Mode → Char → Option Nat
  | .numeric, c => if c.isDigit then some (c.toNat - '0'.toNat) else none
  | .alphanumeric, c => alphabet.idxOf? c
  | .byte, c => if c.toNat ≤ 0xFF then some c.toNat else none
  | .kanji, c => Kanji.code? c

/-- Whether a mode can write a character. -/
def accepts (mode : Mode) (c : Char) : Bool := (mode.value? c).isSome

end Mode

end QrSymbol
