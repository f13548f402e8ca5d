import QrSymbol.Text.Unprintable

/-!
# Quoted characters

A message names a character between single quotes.  Six characters have an
escape of their own, an unprintable one is written by its code point, and every
other character stands for itself.
-/

namespace QrSymbol.Text

/-- A number in lower-case hexadecimal, without leading zeros. -/
def hexadecimal (n : Nat) : String := String.ofList (Nat.toDigits 16 n)

/-- A character as it stands between the quotes. -/
def escaped (c : Char) : String :=
  match c.toNat with
  | 0x00 => "\\0"
  | 0x09 => "\\t"
  | 0x0a => "\\n"
  | 0x0d => "\\r"
  | 0x27 => "\\'"
  | 0x5c => "\\\\"
  | n => if isUnprintable c then "\\u\x7b" ++ hexadecimal n ++ "\x7d" else c.toString

/-- A character between single quotes. -/
def quoted (c : Char) : String := "'" ++ escaped c ++ "'"

end QrSymbol.Text
