import QrSymbol.Proofs.SymbolLayout
import QrSymbol.Proofs.VersionChoice

/-!
# The choices of an encoding

An encoding chooses a mode, a version and a mask.  It succeeds exactly if a mode and a
version can be chosen and the mode accepts the text, and its symbol is then settled by
the choices (`encode_eq_ok_iff`).  So two encodings are compared through their choices
and nothing of what lies between a choice and the grid is opened again.

A narrower mode never costs anything.  It accepts what the text asks of it, since the
required mode does, and it holds more characters.  A shorter text costs nothing
either, so both together still get a symbol, and no larger one
(`exists_encode_of_narrower`).  The automatic mode is the narrowest of all that may be
asked for (`encode_automatic_of_forced`), and the front of a text requires no broader
mode than the whole (`encode_of_append`).

A choice that is asked for is made again.  The options that ask for a symbol's own
mode, version or mask, or for several of these, give the symbol itself
(`encode_pin`).
-/

namespace QrSymbol

/-! ## The choice of a mode -/

theorem modeReached_append (mode : Mode) (position : Nat) (front back : List Char) :
    modeReached mode position (front ++ back) =
      modeReached mode position front >>= fun m => modeReached m (position + front.length) back := by
  induction front generalizing mode position with
  | nil => rfl
  | cons c front ih =>
      rw [List.cons_append, modeReached, modeReached, List.length_cons]
      cases mode.climb? c with
      | none => rfl
      | some m =>
          simp only
          rw [ih, Nat.add_assoc, Nat.add_comm 1]

/-- The front of a text requires no broader mode than the whole text. -/
theorem requiredMode_of_append {front back : List Char} {required : Mode}
    (h : requiredMode (front ++ back) = .ok required) :
    ∃ r, requiredMode front = .ok r ∧ r ≤ required := by
  rw [requiredMode, modeReached_append, bind_eq_ok_iff] at h
  obtain ⟨r, hfront, hback⟩ := h
  exact ⟨r, hfront, (accepts_of_modeReached hback).1⟩

/-- A mode is chosen if it is no narrower than the required one, which is chosen if
none is requested. -/
theorem chooseMode_eq_ok_iff {text : List Char} {requested : Option Mode} {mode : Mode} :
    chooseMode text requested = .ok mode ↔
      ∃ required, requiredMode text = .ok required ∧ required ≤ mode ∧
        requested.getD required = mode := by
  cases hrequired : requiredMode text with
  | error e =>
      rw [chooseMode, hrequired]
      simp [bind, Except.bind]
  | ok required =>
      rw [chooseMode_of_ok hrequired]
      split
      · rename_i hnarrow
        simp only [reduceCtorEq, Except.ok.injEq, exists_eq_left', false_iff, not_and]
        rintro hle rfl
        exact Nat.not_lt_of_le hle hnarrow
      · rename_i hwide
        simp only [Except.ok.injEq, exists_eq_left']
        refine ⟨?_, fun h => h.2⟩
        rintro rfl
        exact ⟨Nat.le_of_not_lt hwide, rfl⟩

/-- Short of kanji the chosen mode accepts the text. -/
theorem accepts_of_chooseMode {text : List Char} {requested : Option Mode} {mode : Mode}
    (h : chooseMode text requested = .ok mode) (hmode : mode ≠ .kanji) :
    ∀ c ∈ text, mode.accepts c = true := by
  obtain ⟨required, hrequired, hle, -⟩ := chooseMode_eq_ok_iff.mp h
  exact Mode.firstRefused_eq_none_iff.mp (firstRefused_eq_none_of_le hrequired hle hmode)

/-- A mode that was chosen is chosen when it is requested. -/
theorem chooseMode_chosen {text : List Char} {requested : Option Mode} {mode : Mode}
    (h : chooseMode text requested = .ok mode) : chooseMode text (some mode) = .ok mode := by
  obtain ⟨required, hrequired, hle, -⟩ := chooseMode_eq_ok_iff.mp h
  exact chooseMode_eq_ok_iff.mpr ⟨required, hrequired, hle, rfl⟩

/-- No mode that may be requested is narrower than the automatic one. -/
theorem chooseMode_automatic {text : List Char} {requested : Option Mode} {mode : Mode}
    (h : chooseMode text requested = .ok mode) :
    ∃ m, chooseMode text none = .ok m ∧ m ≤ mode := by
  obtain ⟨required, hrequired, hle, -⟩ := chooseMode_eq_ok_iff.mp h
  exact ⟨required, chooseMode_eq_ok_iff.mpr ⟨required, hrequired, Nat.le_refl _, rfl⟩, hle⟩

/-- The front of a text gets no broader mode than the whole text. -/
theorem chooseMode_of_append {front back : List Char} {requested : Option Mode} {mode : Mode}
    (h : chooseMode (front ++ back) requested = .ok mode) :
    ∃ m, chooseMode front requested = .ok m ∧ m ≤ mode := by
  obtain ⟨required, hrequired, hle, hmode⟩ := chooseMode_eq_ok_iff.mp h
  obtain ⟨r, hfront, hr⟩ := requiredMode_of_append hrequired
  have hle' : r ≤ mode := Nat.le_trans hr hle
  cases requested with
  | none => exact ⟨r, chooseMode_eq_ok_iff.mpr ⟨r, hfront, Nat.le_refl _, rfl⟩, hle'⟩
  | some requested =>
      exact ⟨mode, chooseMode_eq_ok_iff.mpr ⟨r, hfront, hle', hmode⟩, Nat.le_refl _⟩

/-! ## The choice of a mask -/

/-- A mask that was chosen wins when it is forced. -/
theorem chooseMask_chosen (g : Grid) (forced : Option Mask) :
    chooseMask g (some (chooseMask g forced).mask) = chooseMask g forced :=
  (chooseMask_eq g forced).symm

/-! ## Success -/

/-- An encoding succeeds if a mode and a version are chosen and the mode accepts the
text.  The symbol is that of the two choices. -/
theorem encode_eq_ok_iff {text : String} {options : Options} {s : Symbol} :
    encode text options = .ok s ↔ ∃ mode v, chooseMode text.toList options.mode = .ok mode ∧
      v.IsLeastHolding text.toList.length mode options.level options.minVersion ∧
      (∀ c ∈ text.toList, mode.accepts c = true) ∧ s = Symbol.ofText text mode v options := by
  constructor
  · intro h
    have hsteps := h
    simp only [encode, bind_eq_ok_iff] at hsteps
    obtain ⟨mode, hmode, plan, hplan, data, hdata, -⟩ := hsteps
    obtain ⟨v, hv, rfl⟩ := choosePlan_eq_ok_iff.mp hplan
    have hnone : mode.firstRefused text.toList = none := by
      cases hrefused : mode.firstRefused text.toList with
      | none => rfl
      | some c =>
          rw [dataStream_of_refused hrefused] at hdata
          cases hdata
    have haccepts := Mode.firstRefused_eq_none_iff.mp hnone
    rw [encode_eq_ok hmode hplan haccepts hv.holds] at h
    cases h
    exact ⟨mode, v, hmode, hv, haccepts, rfl⟩
  · rintro ⟨mode, v, hmode, hv, haccepts, rfl⟩
    exact encode_eq_ok hmode (choosePlan_eq_ok_iff.mpr ⟨v, hv, rfl⟩) haccepts hv.holds

/-- A part of a text that is encoded is encoded in any narrower mode that may be
chosen for it, and in no larger version. -/
theorem exists_encode_of_narrower {text part : String} {options narrower : Options} {mode : Mode}
    {s : Symbol} (h : encode text options = .ok s)
    (hmode : chooseMode part.toList narrower.mode = .ok mode) (hle : mode ≤ s.mode)
    (hpart : part.toList.Sublist text.toList) (hlevel : narrower.level = options.level)
    (hfloor : narrower.minVersion = options.minVersion) :
    ∃ s', encode part narrower = .ok s' ∧ s'.version.number ≤ s.version.number := by
  obtain ⟨broad, v, -, hv, hbroad, rfl⟩ := encode_eq_ok_iff.mp h
  have hle : mode ≤ broad := hle
  have haccepts : ∀ c ∈ part.toList, mode.accepts c = true := by
    by_cases hkanji : mode = .kanji
    · -- Nothing is broader than kanji mode, so the two modes are one.
      subst hkanji
      obtain rfl : broad = .kanji := by
        cases broad with
        | kanji => rfl
        | _ => exact absurd hle (by decide)
      exact fun c hc => hbroad c (hpart.subset hc)
    · exact accepts_of_chooseMode hmode hkanji
  obtain ⟨w, hw, hsmaller⟩ := hv.exists_le hpart.length_le hle (Nat.le_refl _) (Nat.le_refl _)
  rw [← hlevel, ← hfloor] at hw
  exact ⟨_, encode_eq_ok_iff.mpr ⟨mode, w, hmode, hw, haccepts, rfl⟩, hsmaller⟩

/-! ## The automatic mode -/

/-- A text that is encoded in a forced mode is encoded without it, in no larger version. -/
theorem encode_automatic_of_forced {text : String} {options : Options} {mode : Mode} {s : Symbol}
    (hauto : options.mode = none) (h : encode text (options.withMode mode) = .ok s) :
    ∃ s', encode text options = .ok s' ∧ s'.version.number ≤ s.version.number := by
  obtain ⟨forced, v, hforced, -, -, rfl⟩ := encode_eq_ok_iff.mp h
  obtain ⟨m, hchosen, hle⟩ := chooseMode_automatic hforced
  rw [← hauto] at hchosen
  exact exists_encode_of_narrower h hchosen hle (List.Sublist.refl _) rfl rfl

/-- A time of day, which alphanumeric mode holds, forced into byte mode. -/
theorem encode_automatic_of_forced_byte :
    let options : Options := { level := .quartile }
    ∃ s, options.mode = none ∧ encode "10:30" (options.withMode .byte) = .ok s ∧
      ∃ s', encode "10:30" options = .ok s' ∧ s'.version.number ≤ s.version.number := by
  intro options
  have hnone : encodeFailure "10:30" (options.withMode .byte) = none := by decide
  obtain ⟨s, hs⟩ := exists_encode_eq_ok hnone
  exact ⟨s, rfl, hs, encode_automatic_of_forced rfl hs⟩

/-! ## The front of a text -/

/-- The front of a text that is encoded is encoded, in no larger version. -/
theorem encode_of_append {front back : String} {options : Options} {s : Symbol}
    (h : encode (front ++ back) options = .ok s) :
    ∃ s', encode front options = .ok s' ∧ s'.version.number ≤ s.version.number := by
  obtain ⟨mode, v, hmode, -, -, rfl⟩ := encode_eq_ok_iff.mp h
  rw [String.toList_append] at hmode
  obtain ⟨m, hchosen, hle⟩ := chooseMode_of_append hmode
  have hfront : front.toList.Sublist (front ++ back).toList := by
    rw [String.toList_append]
    exact List.sublist_append_left _ _
  exact exists_encode_of_narrower h hchosen hle hfront rfl rfl

/-- A front in alphanumeric mode of a text in byte mode. -/
theorem encode_of_append_latin :
    let options : Options := { level := .high }
    ∃ s, encode ("10:30 " ++ "Grüße aus Köln") options = .ok s ∧
      ∃ s', encode "10:30 " options = .ok s' ∧ s'.version.number ≤ s.version.number := by
  intro options
  have hnone : encodeFailure ("10:30 " ++ "Grüße aus Köln") options = none := by decide
  obtain ⟨s, hs⟩ := exists_encode_eq_ok hnone
  exact ⟨s, hs, encode_of_append hs⟩

/-! ## Asking for the choices of a symbol -/

/-- Options that leave each choice as it was, or ask for the one that was made, give the
same symbol. -/
theorem encode_of_same_choices {text : String} {options pinned : Options} {s : Symbol}
    (h : encode text options = .ok s) (hlevel : pinned.level = options.level)
    (hmode : pinned.mode = some s.mode ∨ pinned.mode = options.mode)
    (hversion : pinned.minVersion = some s.version ∨ pinned.minVersion = options.minVersion)
    (hmask : pinned.mask = some s.mask ∨ pinned.mask = options.mask) :
    encode text pinned = .ok s := by
  obtain ⟨mode, v, hchosen, hv, haccepts, rfl⟩ := encode_eq_ok_iff.mp h
  have hchosen' : chooseMode text.toList pinned.mode = .ok mode := by
    rcases hmode with hmode | hmode
    · rw [hmode]
      exact chooseMode_chosen hchosen
    · rw [hmode, hchosen]
  have hv' : v.IsLeastHolding text.toList.length mode pinned.level pinned.minVersion := by
    rcases hversion with hversion | hversion
    · rw [hlevel, hversion]
      exact hv.as_floor
    · rw [hlevel, hversion]
      exact hv
  have hwinner : ∀ g : Grid, (Symbol.ofText text mode v options).mask
      = (chooseMask g options.mask).mask → chooseMask g pinned.mask = chooseMask g options.mask := by
    intro g hg
    rcases hmask with hmask | hmask
    · rw [hmask, hg, chooseMask_chosen]
    · rw [hmask]
  have hsymbol : Symbol.ofText text mode v options = Symbol.ofText text mode v pinned := by
    rw [Symbol.ofText, Symbol.ofText, hlevel, hwinner _ rfl]
  exact encode_eq_ok_iff.mpr ⟨mode, v, hchosen', hv', haccepts, hsymbol⟩

/-- The choices of a symbol that options may ask for. -/
structure Pins where
  /-- Whether to ask for its mode. -/
  mode : Bool
  /-- Whether to ask for its version, as the smallest. -/
  version : Bool
  /-- Whether to ask for its mask. -/
  mask : Bool
deriving DecidableEq, Repr

/-- The options that ask for choices of a symbol. -/
def Options.pin (options : Options) (s : Symbol) (pins : Pins) : Options where
  mode := if pins.mode then some s.mode else options.mode
  level := options.level
  minVersion := if pins.version then some s.version else options.minVersion
  mask := if pins.mask then some s.mask else options.mask

/-- A symbol is what its own choices give, whichever of them are asked for. -/
theorem encode_pin {text : String} {options : Options} {s : Symbol}
    (h : encode text options = .ok s) (pins : Pins) :
    encode text (options.pin s pins) = .ok s :=
  encode_of_same_choices h rfl (ite_eq_or_eq _ _ _) (ite_eq_or_eq _ _ _) (ite_eq_or_eq _ _ _)

/-- A symbol in a broader mode and a larger version than its text needs. -/
theorem encode_pin_version_seven :
    let options : Options := ⟨some .byte, .low, some ⟨7, by decide, by decide⟩, none⟩
    ∃ s, encode "2024" options = .ok s ∧
      ∀ pins, encode "2024" (options.pin s pins) = .ok s := by
  intro options
  have hnone : encodeFailure "2024" options = none := by decide
  obtain ⟨s, hs⟩ := exists_encode_eq_ok hnone
  exact ⟨s, hs, fun pins => encode_pin hs pins⟩

end QrSymbol
