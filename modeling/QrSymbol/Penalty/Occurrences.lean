/-!
# Occurrences of a pattern

The penalty of a grid counts how often a pattern of bits occurs in a line,
occurrences that overlap included.  The search reads the line once.  It keeps
the length of the longest beginning of the pattern that ends where it has read
to (`BorderTable.advance`).

A *border* of a list is a proper beginning of it that is also its end.  The
table holds, with each bit of the pattern, the length of the longest border of
the pattern up to and with that bit.  When the next bit of the line does not
extend the beginning found so far, the search goes on with its longest border.
Borders are shorter than what they are borders of, so this ends.
-/

namespace QrSymbol

/-- A pattern of bits with its borders. -/
structure BorderTable where
  /-- Each bit, with the longest border of the pattern up to and with it. -/
  entries : Array (Bool × Nat)
  /-- A border is a proper beginning. -/
  border_le : ∀ (i : Nat) (_ : i < entries.size), entries[i].2 ≤ i

namespace BorderTable

/-- The table of the pattern with no bits. -/
def empty : BorderTable := ⟨#[], fun i h => absurd h (Nat.not_lt_zero i)⟩

/-- The length of the pattern. -/
def size (t : BorderTable) : Nat := t.entries.size

/-- Bit number `i` of the pattern. -/
def bit? (t : BorderTable) (i : Nat) : Option Bool := t.entries[i]?.map (·.1)

/-- The longest border of the first `k` bits. -/
def border (t : BorderTable) (k : Nat) : Nat := (t.entries[k - 1]?.map (·.2)).getD 0

theorem border_lt (t : BorderTable) {k : Nat} (hk : 0 < k) : t.border k < k := by
  unfold border
  by_cases h : k - 1 < t.entries.size
  · have := t.border_le (k - 1) h
    simp [h]
    omega
  · simp [h]
    exact hk

/-- The longest beginning of the pattern after one more bit, if it was `k` long
before. -/
def advance (t : BorderTable) (bit : Bool) (k : Nat) : Nat :=
  if t.bit? k = some bit then k + 1
  else if _ : 0 < k then t.advance bit (t.border k)
  else 0
termination_by k
decreasing_by exact t.border_lt ‹0 < k›

theorem advance_le (t : BorderTable) (bit : Bool) (k : Nat) : t.advance bit k ≤ k + 1 := by
  fun_induction advance t bit k with
  | case1 k _ => exact Nat.le_refl _
  | case2 k _ hk ih => have := t.border_lt hk; omega
  | case3 => omega

/-- The longest border of a pattern with one more bit. -/
def nextBorder (t : BorderTable) (bit : Bool) : Nat :=
  if t.size = 0 then 0 else t.advance bit (t.border t.size)

theorem nextBorder_le (t : BorderTable) (bit : Bool) : t.nextBorder bit ≤ t.size := by
  unfold nextBorder
  split
  · exact Nat.zero_le _
  · have := t.advance_le bit (t.border t.size)
    have := t.border_lt (k := t.size) (by omega)
    omega

/-- The table of a pattern with one more bit. -/
def push (t : BorderTable) (bit : Bool) : BorderTable where
  entries := t.entries.push (bit, t.nextBorder bit)
  border_le := by
    intro i h
    rw [Array.getElem_push]
    split
    · exact t.border_le i _
    · have := t.nextBorder_le bit
      simp only [size] at this
      omega

/-- The table of a pattern. -/
def ofPattern (pattern : List Bool) : BorderTable := pattern.foldl push empty

/-- The occurrences that end in `line`, if the longest beginning before it is
`k` bits long. -/
def countFrom (t : BorderTable) (k : Nat) : List Bool → Nat
  | [] => 0
  | bit :: line =>
      let reached := t.advance bit k
      if reached = t.size then 1 + t.countFrom (t.border reached) line
      else t.countFrom reached line

/-- The number of occurrences of the pattern in a line. -/
def count (t : BorderTable) (line : List Bool) : Nat := t.countFrom 0 line

end BorderTable

end QrSymbol
