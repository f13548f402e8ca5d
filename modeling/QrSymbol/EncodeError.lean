import QrSymbol.Level
import QrSymbol.Mode
import QrSymbol.Text.Quoted

/-!
# Encoding errors

Everything that can stop an encoding, as causes.  The wording is in
`EncodeError.message` and nowhere else.  Seven causes are the caller's: a text
or an option that cannot be served.  The other three say that two parts of the
symbol do not fit together, and `EncodeError.isUserError` tells them apart.
-/

namespace QrSymbol

/-- A reason why an encoding stopped. -/
inductive EncodeError where
  /-- The requested mode is narrower than the one the text needs. -/
  | modeTooNarrow (requested required : Mode)
  /-- A character at which the climb through the modes found none. -/
  | noViableMode (character : Char) (position : Nat)
  /-- A character the chosen mode cannot write. -/
  | unencodable (character : Char) (mode : Mode)
  /-- More characters than the largest version holds. -/
  | textTooLong (length : Nat) (mode : Mode) (level : Level)
  /-- A version number outside 1 to 40. -/
  | invalidVersion (number : Nat)
  /-- A mask number outside 0 to 7. -/
  | invalidMask (id : Nat)
  /-- A letter that names no level. -/
  | invalidLevel (letter : Char)
  /-- Fewer bits than the place for them. -/
  | tooFewBits (expected actual : Nat)
  /-- More bits than the place for them. -/
  | tooManyBits (expected actual : Nat)
  /-- A coordinate outside a matrix. -/
  | outsideMatrix (x y side : Nat)
deriving DecidableEq, Repr

namespace EncodeError

/-- The text of an error. -/
def message : EncodeError → String
  | .modeTooNarrow requested required =>
      s!"mode {requested.name} cannot represent the input, it needs at least {required.name}"
  | .noViableMode character position =>
      s!"character {Text.quoted character} at position {position} has no viable encoding mode"
  | .unencodable character mode =>
      s!"character {Text.quoted character} cannot be encoded in {mode.name} mode"
  | .textTooLong length mode level =>
      s!"{length} characters in {mode.name} mode exceed the capacity of version 40 at level " ++
        level.name
  | .invalidVersion number => s!"invalid version {number}, expected 1-40"
  | .invalidMask id => s!"invalid mask pattern {id}, expected 0-7"
  | .invalidLevel letter =>
      s!"invalid error correction level {Text.quoted letter}, expected one of L, M, Q, H"
  | .tooFewBits expected actual =>
      s!"codeword stream underflow: {actual} bits for {expected} data modules"
  | .tooManyBits expected actual =>
      s!"codeword stream overflow: {actual} bits for {expected} data modules"
  | .outsideMatrix x y side => s!"coordinate ({x}, {y}) outside {side}x{side} matrix"

/-- Whether the caller's text or options are the cause. -/
def isUserError : EncodeError → Bool
  | .tooFewBits .. | .tooManyBits .. | .outsideMatrix .. => false
  | _ => true

/-- Accepts a number of bits that is exactly the number of places for them. -/
def checkCount (expected actual : Nat) : Except EncodeError Unit :=
  if actual < expected then .error (.tooFewBits expected actual)
  else if expected < actual then .error (.tooManyBits expected actual)
  else .ok ()

/-- The count is accepted only if it is exact. -/
theorem checkCount_eq_ok_iff {expected actual : Nat} :
    checkCount expected actual = .ok () ↔ actual = expected := by
  unfold checkCount
  split
  · simp; omega
  · split
    · simp; omega
    · simp; omega

theorem checkCount_of_lt {expected actual : Nat} (h : actual < expected) :
    checkCount expected actual = .error (.tooFewBits expected actual) := if_pos h

theorem checkCount_of_gt {expected actual : Nat} (h : expected < actual) :
    checkCount expected actual = .error (.tooManyBits expected actual) :=
  (if_neg (Nat.lt_asymm h)).trans (if_pos h)

@[simp] theorem checkCount_self (n : Nat) : checkCount n n = .ok () :=
  checkCount_eq_ok_iff.mpr rfl

end EncodeError

/-- Two steps in a row succeed if the first does and then the second. -/
theorem bind_eq_ok_iff {ε α β : Type} {first : Except ε α} {second : α → Except ε β} {b : β} :
    first >>= second = .ok b ↔ ∃ a, first = .ok a ∧ second a = .ok b := by
  cases first with
  | error e => simp [bind, Except.bind]
  | ok a => simp [bind, Except.bind]

/-- A result behind a count is there if the count is exact. -/
theorem EncodeError.checkCount_bind_eq_ok_iff {α : Type} {expected actual : Nat} {a b : α} :
    (checkCount expected actual >>= fun _ => pure a) = .ok b ↔ actual = expected ∧ a = b := by
  rw [bind_eq_ok_iff]
  constructor
  · rintro ⟨⟨⟩, hcount, hresult⟩
    exact ⟨checkCount_eq_ok_iff.mp hcount, Except.ok.inj hresult⟩
  · rintro ⟨hcount, rfl⟩
    exact ⟨(), checkCount_eq_ok_iff.mpr hcount, rfl⟩

end QrSymbol
