import QrSymbol.Charset
import QrSymbol.EncodeError

/-!
# Choosing the mode

The mode of a text is found by reading it from its first character and climbing
the ladder of modes.  A character that the mode reached so far does not accept
moves the climb to the first broader mode that does (`Mode.climb?`).  The climb
takes one step at a time: a mode that refuses the character hands it on to the
next broader one (`Mode.climb?_of_refuses`).  If there is none, the text has no
mode.

Characters already read are not looked at again.  So the mode reached at the end
may refuse one of them: kanji mode accepts no ASCII, but a text may start with
ASCII and go on in kanji.

A caller may ask for a mode of its own.  It is taken if it is at least as broad
as the one the text requires (`chooseMode`).
-/

namespace QrSymbol

/-- The modes from a given one up the ladder. -/
def Mode.upward (mode : Mode) : List Mode := Mode.all.filter fun m => decide (mode ≤ m)

/-- The first mode from a given one up that accepts a character. -/
def Mode.climb? (mode : Mode) (c : Char) : Option Mode := mode.upward.find? (·.accepts c)

/-- A mode that accepts a character stays. -/
theorem Mode.climb?_of_accepts {mode : Mode} {c : Char} (h : mode.accepts c = true) :
    mode.climb? c = some mode := by
  cases mode <;> simp [climb?, upward, all, le_def, rank, h]

/-- A mode that refuses a character hands it on to the next broader one. -/
theorem Mode.climb?_of_refuses {mode : Mode} {c : Char} (h : mode.accepts c = false) :
    mode.climb? c = mode.wider?.bind fun wider => wider.climb? c := by
  cases mode with
  | kanji => exact List.find?_eq_none.mpr (by simp [upward, all, le_def, rank, h])
  | _ => exact List.find?_cons_of_neg (by simp [h])

/-- A climb ends in a mode that accepts the character and is no narrower. -/
theorem Mode.le_of_climb? {mode m : Mode} {c : Char} (h : mode.climb? c = some m) :
    mode ≤ m ∧ m.accepts c = true := by
  unfold climb? at h
  have hmem := (List.mem_filter.mp (List.mem_of_find?_eq_some h)).2
  exact ⟨of_decide_eq_true hmem, List.find?_some (p := fun m : Mode => m.accepts c) h⟩

/-- The mode reached from `mode` by the characters from `position` on. -/
def modeReached (mode : Mode) (position : Nat) : List Char → Except EncodeError Mode
  | [] => .ok mode
  | c :: text =>
      match mode.climb? c with
      | some m => modeReached m (position + 1) text
      | none => .error (.noViableMode c position)

/-- The mode that a text requires. -/
def requiredMode (text : List Char) : Except EncodeError Mode := modeReached .numeric 0 text

/-- The mode to write a text in: the requested one, or else the one it requires. -/
def chooseMode (text : List Char) (requested : Option Mode) : Except EncodeError Mode := do
  let required ← requiredMode text
  match requested with
  | none => .ok required
  | some mode => if mode < required then .error (.modeTooNarrow mode required) else .ok mode

end QrSymbol
