import QrSymbol.Kanji.Repertoire

/-!
# Shift-JIS codes

The Shift-JIS code of a character follows from its cell in the repertoire
(`Kanji.codeOfCell`).  Two rows share a lead byte: the odd row has the trail
bytes from 40 to 9E without 7F, the even one those from 9F to FC.  The lead
bytes run from 81 to 9F and go on at E0.

Kanji mode writes a code in thirteen bits (`Kanji.compact`).  The two ranges of
codes are moved together, and what is left is read as a number whose low digit
is the trail byte, in base 192.

Two characters need a word.  An ASCII character is a single byte in Shift-JIS
and has no code here.  The minus sign U+2212 has no cell of its own and shares
the one of the full-width hyphen-minus U+FF0D.
-/

namespace QrSymbol.Kanji

/-- The code of a cell, by row and cell number from 1. -/
def codeOfCell (row cell : Nat) : Nat :=
  let lead := (row - 1) / 2 + if row ≤ 62 then 0x81 else 0xC1
  let trail :=
    if row % 2 = 0 then cell + 0x9E
    else if cell ≤ 63 then cell + 0x3F else cell + 0x40
  lead * 0x100 + trail

/-- The characters of a row, each with its code. -/
def rowCodes (row : Nat) (cells : String) : List (Char × Nat) :=
  ((cells.toList.take 94).zipIdx 1).filterMap fun c =>
    if c.1 = '.' then none else some (c.1, codeOfCell row c.2)

/-- Every character of the repertoire with its code, in the order of the rows. -/
def codes : List (Char × Nat) := rows.flatMap fun r => rowCodes r.1 r.2

/-- The character whose cell a character is written with.  Only the minus sign
borrows one. -/
def cellCharacter (c : Char) : Char := if c = '−' then '－' else c

/-- The Shift-JIS code of a character, if kanji mode can write it. -/
def code? (c : Char) : Option Nat :=
  if c.toNat < 0x80 then none else codes.lookup (cellCharacter c)

/-- An ASCII character is a single byte and has no code. -/
theorem code?_of_ascii {c : Char} (h : c.toNat < 0x80) : code? c = none := if_pos h

/-- Every character in a cell of the repertoire has a code.  Beside ASCII, U+2212 is left
out, which is looked up in the cell of another character. -/
theorem isSome_code?_of_mem {row : Nat} {cells : String} {c : Char}
    (hrow : (row, cells) ∈ rows) (hc : c ∈ cells.toList.take 94) (hascii : 0x80 ≤ c.toNat)
    (hminus : c ≠ '−') : (code? c).isSome = true := by
  have hdot : c ≠ '.' := by
    rintro rfl
    exact absurd hascii (by decide)
  obtain ⟨i, hcell⟩ := List.mem_iff_getElem?.mp hc
  have hmem : (c, i + 1) ∈ (cells.toList.take 94).zipIdx 1 :=
    List.mk_mem_zipIdx_iff_le_and_getElem?_sub.mpr ⟨Nat.le_add_left 1 i, hcell⟩
  have hcode : (c, codeOfCell row (i + 1)) ∈ codes := by
    refine List.mem_flatMap.mpr ⟨(row, cells), hrow, List.mem_filterMap.mpr ⟨_, hmem, ?_⟩⟩
    rw [if_neg hdot]
  rw [code?, if_neg (Nat.not_lt_of_le hascii), cellCharacter, if_neg hminus,
    List.lookup_isSome_iff]
  exact ⟨_, hcode, beq_self_eq_true c⟩

/-- The thirteen-bit value of a code. -/
def compact (code : Nat) : Nat :=
  let offset := if code ≤ 0x9FFC then code - 0x8140 else code - 0xC140
  offset / 0x100 * 0xC0 + offset % 0x100

end QrSymbol.Kanji
