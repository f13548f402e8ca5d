/-!
# Error correction levels

The level says how much of a symbol may be lost: about 7, 15, 25 or 30 percent.
A level has a letter, which is how callers name it, and a two-bit code in the
format information.  The codes are not in the order of strength.
-/

namespace QrSymbol

/-- The strength of the error correction. -/
inductive Level where
  /-- About 7 percent. -/
  | low
  /-- About 15 percent. -/
  | medium
  /-- About 25 percent. -/
  | quartile
  /-- About 30 percent. -/
  | high
deriving DecidableEq, Repr

namespace Level

/-- The four levels, weakest first. -/
def all : List Level := [.low, .medium, .quartile, .high]

theorem mem_all (l : Level) : l ∈ all := by cases l <;> simp [all]

instance decidableForall {p : Level → Prop} [DecidablePred p] : Decidable (∀ l, p l) :=
  decidable_of_iff (∀ l ∈ all, p l) ⟨fun h l => h l (mem_all l), fun h l _ => h l⟩

/-- The place of a level in the order of strength. -/
def rank : Level → Nat
  | .low => 0
  | .medium => 1
  | .quartile => 2
  | .high => 3

/-- The letter of a level. -/
def letter : Level → Char
  | .low => 'L'
  | .medium => 'M'
  | .quartile => 'Q'
  | .high => 'H'

/-- The level a letter names, in either ASCII case. -/
def ofLetter? : Char → Option Level
  | 'L' | 'l' => some .low
  | 'M' | 'm' => some .medium
  | 'Q' | 'q' => some .quartile
  | 'H' | 'h' => some .high
  | _ => none

@[simp] theorem ofLetter?_letter (l : Level) : ofLetter? l.letter = some l := by
  cases l <;> rfl

/-- The name of a level in messages, its letter. -/
def name (l : Level) : String := l.letter.toString

/-- The two-bit code in the format information. -/
def code : Level → Nat
  | .low => 1
  | .medium => 0
  | .quartile => 3
  | .high => 2

/-- The level of a code, read off its two low bits. -/
def ofCode (bits : Nat) : Level :=
  match bits % 4 with
  | 0 => .medium
  | 1 => .low
  | 2 => .high
  | _ => .quartile

theorem code_lt (l : Level) : l.code < 4 := by cases l <;> decide

@[simp] theorem ofCode_code (l : Level) : ofCode l.code = l := by
  cases l <;> rfl

end Level

end QrSymbol
