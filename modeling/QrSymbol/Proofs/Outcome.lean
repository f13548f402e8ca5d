import QrSymbol.Proofs.DataCapacity
import QrSymbol.Proofs.GridLayout

/-!
# The outcome of an encoding

An encoding fails for one of four reasons, looked for in order: the text has no
mode, the requested mode is too narrow, the text is longer than the largest version
holds, or the mode refuses a character (`encodeFailure`).  The last can only happen
in kanji mode, since every other mode accepts what the narrower ones do
(`Mode.accepts_of_le`) and the required mode is at least as broad as every
character needs (`accepts_of_modeReached`).

If there is no such reason, every count that is checked on the way agrees and the
encoding ends in a symbol (`encode_cases`).  So no error of an encoding is internal
(`encode_outcome`).
-/

namespace QrSymbol

/-! ## What the modes accept -/

namespace Mode

theorem accepts_numeric {c : Char} : numeric.accepts c = true ↔ c.isDigit = true := by
  simp only [accepts, value?]
  split <;> simp_all

theorem accepts_alphanumeric {c : Char} : alphanumeric.accepts c = true ↔ c ∈ alphabet := by
  rw [accepts, value?, List.isSome_idxOf?]

theorem accepts_byte {c : Char} : byte.accepts c = true ↔ c.toNat ≤ 0xFF := by
  simp only [accepts, value?]
  split <;> simp_all

theorem mem_alphabet_of_isDigit {c : Char} (h : c.isDigit = true) : c ∈ alphabet := by
  have hdigits : ∀ n < 10, Char.ofNat (48 + n) ∈ alphabet := by decide
  obtain ⟨hlow, hhigh⟩ : 48 ≤ c.toNat ∧ c.toNat ≤ 57 := Char.isDigit_iff_toNat.mp h
  have hmem := hdigits (c.toNat - 48) (by omega)
  rwa [Nat.add_sub_cancel' hlow, Char.ofNat_toNat] at hmem

theorem toNat_le_of_mem_alphabet {c : Char} (h : c ∈ alphabet) : c.toNat ≤ 0xFF := by
  have hall : alphabet.all (fun c => decide (c.toNat ≤ 0xFF)) = true := by decide
  exact of_decide_eq_true (List.all_eq_true.mp hall c h)

/-- Short of kanji, a broader mode accepts what a narrower one does. -/
theorem accepts_of_le {a b : Mode} {c : Char} (hle : a ≤ b) (hb : b ≠ .kanji)
    (h : a.accepts c = true) : b.accepts c = true := by
  rw [le_def] at hle
  cases a with
  | numeric =>
      have hc := mem_alphabet_of_isDigit (accepts_numeric.mp h)
      cases b with
      | numeric => exact h
      | alphanumeric => exact accepts_alphanumeric.mpr hc
      | byte => exact accepts_byte.mpr (toNat_le_of_mem_alphabet hc)
      | kanji => exact absurd rfl hb
  | alphanumeric =>
      cases b with
      | numeric => exact absurd hle (by decide)
      | alphanumeric => exact h
      | byte => exact accepts_byte.mpr (toNat_le_of_mem_alphabet (accepts_alphanumeric.mp h))
      | kanji => exact absurd rfl hb
  | byte =>
      cases b with
      | numeric => exact absurd hle (by decide)
      | alphanumeric => exact absurd hle (by decide)
      | byte => exact h
      | kanji => exact absurd rfl hb
  | kanji =>
      cases b with
      | kanji => exact absurd rfl hb
      | _ => exact absurd hle (by decide)

end Mode

/-! ## The mode of a text -/

/-- The mode reached is no narrower than the first.  Short of kanji it accepts
every character read. -/
theorem accepts_of_modeReached {mode r : Mode} {position : Nat} {text : List Char}
    (h : modeReached mode position text = .ok r) :
    mode ≤ r ∧ (r ≠ .kanji → ∀ c ∈ text, r.accepts c = true) := by
  induction text generalizing mode position with
  | nil =>
      cases h
      exact ⟨Nat.le_refl _, fun _ c hc => by cases hc⟩
  | cons c text ih =>
      rw [modeReached] at h
      split at h
      · rename_i m hclimb
        obtain ⟨hle, haccepts⟩ := Mode.le_of_climb? hclimb
        obtain ⟨hreached, hrest⟩ := ih h
        refine ⟨Nat.le_trans hle hreached, fun hr d hd => ?_⟩
        rcases List.mem_cons.mp hd with rfl | hd
        · exact Mode.accepts_of_le hreached hr haccepts
        · exact hrest hr d hd
      · cases h

/-- The only error of the analysis is that a character has no mode. -/
theorem modeReached_eq_error {mode : Mode} {position : Nat} {text : List Char} {e : EncodeError}
    (h : modeReached mode position text = .error e) : ∃ c i, e = .noViableMode c i := by
  induction text generalizing mode position with
  | nil => cases h
  | cons c text ih =>
      rw [modeReached] at h
      split at h
      · exact ih h
      · cases h
        exact ⟨c, position, rfl⟩

/-- A mode at least as broad as the required one refuses a character only if it is
kanji mode. -/
theorem firstRefused_eq_none_of_le {text : List Char} {required mode : Mode}
    (h : requiredMode text = .ok required) (hle : required ≤ mode) (hmode : mode ≠ .kanji) :
    mode.firstRefused text = none := by
  obtain ⟨-, haccepts⟩ := accepts_of_modeReached h
  have hrequired : required ≠ .kanji := by
    rintro rfl
    cases mode with
    | kanji => exact hmode rfl
    | _ => exact absurd hle (by decide)
  exact Mode.firstRefused_eq_none_iff.mpr fun c hc =>
    Mode.accepts_of_le hle hmode (haccepts hrequired c hc)

theorem chooseMode_of_ok {text : List Char} {required : Mode}
    (h : requiredMode text = .ok required) (requested : Option Mode) :
    chooseMode text requested = if requested.getD required < required
      then .error (.modeTooNarrow (requested.getD required) required)
      else .ok (requested.getD required) := by
  rw [chooseMode, h]
  cases requested with
  | none => exact (if_neg (Nat.lt_irrefl _)).symm
  | some mode => rfl

/-! ## The reasons of failure -/

/-- The reason why a text is not encoded, if there is one. -/
def encodeFailure (text : String) (options : Options) : Option EncodeError :=
  let characters := text.toList
  match requiredMode characters with
  | .error e => some e
  | .ok required =>
      let mode := options.mode.getD required
      if mode < required then some (.modeTooNarrow mode required)
      else if Version.greatest.capacity options.level mode < characters.length then
        some (.textTooLong characters.length mode options.level)
      else (mode.firstRefused characters).map fun c => .unencodable c mode

/-- The symbol of a text that a mode accepts and a version holds. -/
def Symbol.ofText (text : String) (mode : Mode) (v : Version) (options : Options) : Symbol :=
  let plan := BlockPlan.standard v options.level
  let bits := plan.streamBits (dataCodewords mode plan text.toList)
  Symbol.ofChoice text mode plan (chooseMask (filledGrid v bits) options.mask)

/-- Once the mode and the version are settled, nothing fails any more. -/
theorem encode_eq_ok {text : String} {options : Options} {mode : Mode} {v : Version}
    (hmode : chooseMode text.toList options.mode = .ok mode)
    (hplan : choosePlan text.toList.length mode options.level options.minVersion
      = .ok (.standard v options.level))
    (haccepts : ∀ c ∈ text.toList, mode.accepts c = true)
    (hlen : text.toList.length ≤ v.capacity options.level mode) :
    encode text options = .ok (Symbol.ofText text mode v options) := by
  have hdata := length_dataCodewords haccepts hlen
  have hgrid := unmaskedGrid_eq (BlockPlan.length_streamBits hdata)
  rw [encode, hmode]
  show (choosePlan _ _ _ _ >>= _) = _
  rw [hplan]
  show (dataStream _ _ _ >>= _) = _
  rw [dataStream_eq haccepts hlen]
  show (BlockPlan.symbolBits _ _ >>= _) = _
  rw [BlockPlan.symbolBits_eq hdata]
  show (unmaskedGrid v _ >>= _) = _
  rw [hgrid]
  rfl

/-- An encoding fails for a reason, or it ends in the symbol of the text. -/
theorem encode_cases (text : String) (options : Options) :
    (∃ e, encodeFailure text options = some e ∧ encode text options = .error e) ∨
    (encodeFailure text options = none ∧ ∃ mode v,
      (∀ c ∈ text.toList, mode.accepts c = true) ∧
      text.toList.length ≤ v.capacity options.level mode ∧
      encode text options = .ok (Symbol.ofText text mode v options)) := by
  cases hrequired : requiredMode text.toList with
  | error e =>
      refine .inl ⟨e, ?_, ?_⟩
      · simp only [encodeFailure, hrequired]
      · rw [encode, chooseMode, hrequired]
        rfl
  | ok required =>
      have hchoose := chooseMode_of_ok hrequired options.mode
      generalize hmode : options.mode.getD required = mode at hchoose
      by_cases hnarrow : mode < required
      · rw [if_pos hnarrow] at hchoose
        refine .inl ⟨.modeTooNarrow mode required, ?_, ?_⟩
        · simp only [encodeFailure, hrequired, hmode, if_pos hnarrow]
        · rw [encode, hchoose]
          rfl
      rw [if_neg hnarrow] at hchoose
      by_cases hlong : Version.greatest.capacity options.level mode < text.toList.length
      · refine .inl ⟨.textTooLong text.toList.length mode options.level, ?_, ?_⟩
        · simp only [encodeFailure, hrequired, hmode, if_neg hnarrow, if_pos hlong]
        · rw [encode, hchoose]
          show (choosePlan _ _ _ _ >>= _) = _
          rw [choosePlan_of_lt hlong]
          rfl
      obtain ⟨v, hplan, hlen⟩ := choosePlan_of_le (Nat.le_of_not_lt hlong)
        options.minVersion
      cases hrefused : mode.firstRefused text.toList with
      | some c =>
          refine .inl ⟨.unencodable c mode, ?_, ?_⟩
          · simp only [encodeFailure, hrequired, hmode, if_neg hnarrow, if_neg hlong, hrefused,
              Option.map_some]
          · rw [encode, hchoose]
            show (choosePlan _ _ _ _ >>= _) = _
            rw [hplan]
            show (dataStream _ _ _ >>= _) = _
            rw [dataStream_of_refused hrefused]
            rfl
      | none =>
          have haccepts := Mode.firstRefused_eq_none_iff.mp hrefused
          refine .inr ⟨?_, mode, v, haccepts, hlen, encode_eq_ok hchoose hplan haccepts hlen⟩
          simp only [encodeFailure, hrequired, hmode, if_neg hnarrow, if_neg hlong, hrefused,
            Option.map_none]

/-- A text that something speaks against is not encoded. -/
theorem encode_eq_error {text : String} {options : Options} {e : EncodeError}
    (h : encodeFailure text options = some e) : encode text options = .error e := by
  rcases encode_cases text options with ⟨e', hfailure, hencode⟩ | ⟨hfailure, -⟩
  · obtain rfl : e = e' := Option.some.inj (h.symm.trans hfailure)
    exact hencode
  · cases h.symm.trans hfailure

/-- A text is encoded if nothing speaks against it. -/
theorem exists_encode_eq_ok {text : String} {options : Options}
    (h : encodeFailure text options = none) : ∃ s, encode text options = .ok s := by
  rcases encode_cases text options with ⟨e, hfailure, -⟩ | ⟨-, mode, v, -, -, hencode⟩
  · rw [h] at hfailure
    cases hfailure
  · exact ⟨_, hencode⟩

/-- An encoding that succeeds ends in the symbol of the text. -/
theorem eq_ofText_of_encode {text : String} {options : Options} {s : Symbol}
    (h : encode text options = .ok s) : ∃ mode v,
      (∀ c ∈ text.toList, mode.accepts c = true) ∧
      text.toList.length ≤ v.capacity options.level mode ∧
      s = Symbol.ofText text mode v options := by
  rcases encode_cases text options with ⟨e, -, hencode⟩ | ⟨-, mode, v, haccepts, hlen, hencode⟩
  · rw [h] at hencode
    cases hencode
  · rw [h] at hencode
    cases hencode
    exact ⟨mode, v, haccepts, hlen, rfl⟩

/-- The four reasons.  A mode that is not kanji refuses no character of the text. -/
theorem encodeFailure_cases {text : String} {options : Options} {e : EncodeError}
    (h : encodeFailure text options = some e) :
    (∃ c i, e = .noViableMode c i ∧ requiredMode text.toList = .error e) ∨
    (∃ requested required, e = .modeTooNarrow requested required ∧
      options.mode = some requested ∧ requiredMode text.toList = .ok required) ∨
    (∃ mode, e = .textTooLong text.toList.length mode options.level) ∨
    ∃ c, e = .unencodable c .kanji ∧ Mode.kanji.firstRefused text.toList = some c := by
  cases hrequired : requiredMode text.toList with
  | error e' =>
      simp only [encodeFailure, hrequired, Option.some.injEq] at h
      subst h
      obtain ⟨c, i, rfl⟩ := modeReached_eq_error hrequired
      exact .inl ⟨c, i, rfl, rfl⟩
  | ok required =>
      simp only [encodeFailure, hrequired] at h
      split at h
      · rename_i hnarrow
        cases h
        cases hmode : options.mode with
        | none =>
            rw [hmode] at hnarrow
            exact absurd hnarrow (Nat.lt_irrefl _)
        | some requested => exact .inr (.inl ⟨requested, required, rfl, rfl, rfl⟩)
      · rename_i hwide
        split at h
        · cases h
          exact .inr (.inr (.inl ⟨_, rfl⟩))
        · obtain ⟨c, hrefused, rfl⟩ := Option.map_eq_some_iff.mp h
          have hmode : options.mode.getD required = .kanji := by
            by_contra hne
            rw [firstRefused_eq_none_of_le hrequired (Nat.le_of_not_lt hwide) hne] at hrefused
            cases hrefused
          rw [hmode] at hrefused ⊢
          exact .inr (.inr (.inr ⟨c, rfl, hrefused⟩))

/-- An encoding fails for the first of the four reasons that applies and succeeds if
none does, so all its errors are the caller's. -/
theorem encode_outcome (text : String) (options : Options) :
    (∀ e, encode text options = .error e ↔ encodeFailure text options = some e) ∧
    ((∃ s, encode text options = .ok s) ↔ encodeFailure text options = none) ∧
    ∀ e, encode text options = .error e → e.isUserError = true ∧
      ((∃ c i, e = .noViableMode c i ∧ requiredMode text.toList = .error e) ∨
      (∃ requested required, e = .modeTooNarrow requested required ∧
        options.mode = some requested ∧ requiredMode text.toList = .ok required) ∨
      (∃ mode, e = .textTooLong text.toList.length mode options.level) ∨
      ∃ c, e = .unencodable c .kanji ∧ Mode.kanji.firstRefused text.toList = some c) := by
  rcases encode_cases text options with ⟨e, hfailure, hencode⟩ | ⟨hfailure, mode, v, -, -, hencode⟩
  · rw [hfailure, hencode]
    refine ⟨fun e' => by simp, by simp, fun e' he' => ?_⟩
    cases he'
    have hcases := encodeFailure_cases hfailure
    refine ⟨?_, hcases⟩
    rcases hcases with ⟨_, _, rfl, -⟩ | ⟨_, _, rfl, -⟩ | ⟨_, rfl⟩ | ⟨_, rfl, -⟩ <;> rfl
  · rw [hfailure, hencode]
    refine ⟨fun e' => by simp, by simp, fun e' he' => ?_⟩
    cases he'

end QrSymbol
