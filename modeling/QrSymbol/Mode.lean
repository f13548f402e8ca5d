/-!
# Encoding modes

A symbol carries its whole text in one mode.  The four modes are ordered from
narrow to broad, `numeric < alphanumeric < byte < kanji`.  The order is the order
of `Mode.rank`, and each mode but the last has a next broader one
(`Mode.wider?`).  The analysis of a text climbs that ladder.

The order is about climbing only.  It does not say that a broader mode accepts
every character of a narrower one: kanji mode accepts no ASCII at all.
-/

namespace QrSymbol

/-- How the characters of a text become bits. -/
inductive Mode where
  /-- Decimal digits, three to ten bits. -/
  | numeric
  /-- The 45-character alphabet, two characters to eleven bits. -/
  | alphanumeric
  /-- One byte for each character up to U+00FF. -/
  | byte
  /-- Double-byte Shift-JIS characters, thirteen bits each. -/
  | kanji
deriving DecidableEq, Repr

namespace Mode

/-- The place of a mode on the ladder, narrowest first. -/
def rank : Mode → Nat
  | .numeric => 0
  | .alphanumeric => 1
  | .byte => 2
  | .kanji => 3

instance : LE Mode := ⟨fun a b => a.rank ≤ b.rank⟩

instance : LT Mode := ⟨fun a b => a.rank < b.rank⟩

instance (a b : Mode) : Decidable (a ≤ b) := inferInstanceAs (Decidable (a.rank ≤ b.rank))

instance (a b : Mode) : Decidable (a < b) := inferInstanceAs (Decidable (a.rank < b.rank))

theorem le_def {a b : Mode} : a ≤ b ↔ a.rank ≤ b.rank := Iff.rfl

theorem lt_def {a b : Mode} : a < b ↔ a.rank < b.rank := Iff.rfl

theorem rank_injective {a b : Mode} (h : a.rank = b.rank) : a = b := by
  cases a <;> cases b <;> simp_all [rank]

/-- The four modes, narrowest first. -/
def all : List Mode := [.numeric, .alphanumeric, .byte, .kanji]

theorem mem_all (m : Mode) : m ∈ all := by cases m <;> simp [all]

instance decidableForall {p : Mode → Prop} [DecidablePred p] : Decidable (∀ m, p m) :=
  decidable_of_iff (∀ m ∈ all, p m) ⟨fun h m => h m (mem_all m), fun h m _ => h m⟩

/-- The next broader mode.  Kanji has none. -/
def wider? : Mode → Option Mode
  | .numeric => some .alphanumeric
  | .alphanumeric => some .byte
  | .byte => some .kanji
  | .kanji => none

/-- One step up the ladder is one rank up. -/
theorem rank_of_wider? {a b : Mode} (h : a.wider? = some b) : b.rank = a.rank + 1 := by
  cases a <;> simp [wider?] at h <;> subst h <;> rfl

/-- The four-bit mode indicator at the start of the data. -/
def indicator : Mode → Nat
  | .numeric => 1
  | .alphanumeric => 2
  | .byte => 4
  | .kanji => 8

theorem indicator_lt (m : Mode) : m.indicator < 16 := by cases m <;> decide

theorem indicator_injective {a b : Mode} (h : a.indicator = b.indicator) : a = b := by
  cases a <;> cases b <;> simp_all [indicator]

/-- The name of a mode in messages. -/
def name : Mode → String
  | .numeric => "numeric"
  | .alphanumeric => "alphanumeric"
  | .byte => "byte"
  | .kanji => "kanji"

end Mode

end QrSymbol
