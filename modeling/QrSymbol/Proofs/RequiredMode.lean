import QrSymbol.Proofs.Choices
import QrSymbol.Proofs.OrderedSearch

/-!
# The mode that a text requires

The analysis of a text climbs the modes one character at a time, and byte mode is the
turning point.  It accepts every character up to U+00FF and no other, and it accepts what
the two narrower modes do.  So as long as no character lies above U+00FF, the climb stays
at byte mode or below and ends in the narrowest mode that accepts the whole text
(`modeReached_of_latin`).

At the first character above U+00FF the climb goes on to kanji mode, from wherever it
stood, or it fails (`Mode.climb?_of_isWide`).  Nothing is broader than kanji mode, so
from there on each character needs a Shift-JIS code.  What stands before that character
does not matter any more (`requiredMode_of_firstWide?`).

A Latin-1 character without a code therefore has two fates.  In front of the first
character above U+00FF the analysis accepts it, and kanji mode refuses to write it.
Behind it, the analysis itself fails and reports that no mode is viable for it, although
byte mode accepts it (`noViableMode_behind_kanji`).  The report is right of a character
above U+00FF, and of no other (`noViableMode_outside_iff`).
-/

namespace QrSymbol

/-! ## One character -/

/-- Whether a character lies above U+00FF. -/
def isWide (c : Char) : Bool := decide (0xFF < c.toNat)

theorem isWide_eq_true_iff {c : Char} : isWide c = true ↔ 0xFF < c.toNat := decide_eq_true_iff

theorem isWide_eq_false_iff {c : Char} : isWide c = false ↔ c.toNat ≤ 0xFF := by
  rw [isWide, decide_eq_false_iff_not, Nat.not_lt]

namespace Mode

theorem pairwise_upward (mode : Mode) : mode.upward.Pairwise fun a b => a.rank < b.rank :=
  List.Pairwise.filter _ (by decide)

theorem mem_upward {mode m : Mode} : m ∈ mode.upward ↔ mode ≤ m := by
  simp [upward, mem_all]

/-- A climb ends in the narrowest mode that accepts the character. -/
theorem climb?_eq_some_iff {mode m : Mode} {c : Char} : mode.climb? c = some m ↔
    mode ≤ m ∧ m.accepts c = true ∧ ∀ m' : Mode, mode ≤ m' → m'.accepts c = true → m ≤ m' := by
  rw [climb?, find?_eq_some_iff_of_ordered mode.pairwise_upward]
  simp only [mem_upward, le_def]

theorem climb?_eq_none_iff {mode : Mode} {c : Char} :
    mode.climb? c = none ↔ ∀ m : Mode, mode ≤ m → m.accepts c = false := by
  simp only [climb?, List.find?_eq_none, mem_upward, Bool.not_eq_true]

theorem numeric_le (mode : Mode) : numeric ≤ mode := Nat.zero_le _

theorem le_byte_iff {mode : Mode} : mode ≤ .byte ↔ mode ≠ .kanji := by
  cases mode <;> decide

theorem kanji_le_iff {mode : Mode} : kanji ≤ mode ↔ mode = .kanji := by
  cases mode <;> decide

theorem le_kanji (mode : Mode) : mode ≤ .kanji := by
  cases mode <;> decide

/-- No mode but kanji accepts a character above U+00FF. -/
theorem refuses_of_isWide {mode : Mode} {c : Char} (hc : isWide c = true) (hmode : mode ≠ .kanji) :
    mode.accepts c = false := by
  by_contra haccepts
  rw [Bool.not_eq_false] at haccepts
  have hlatin := accepts_byte.mp (accepts_of_le (le_byte_iff.mpr hmode) (by decide) haccepts)
  exact Nat.not_lt_of_le hlatin (isWide_eq_true_iff.mp hc)

/-- Every climb at a character above U+00FF is one from kanji mode. -/
theorem climb?_of_isWide (mode : Mode) {c : Char} (hc : isWide c = true) :
    mode.climb? c = kanji.climb? c := by
  cases hkanji : kanji.accepts c with
  | true =>
      rw [climb?_of_accepts hkanji, climb?_eq_some_iff]
      refine ⟨mode.le_kanji, hkanji, fun m _ haccepts => kanji_le_iff.mpr ?_⟩
      by_contra hm
      rw [refuses_of_isWide hc hm] at haccepts
      cases haccepts
  | false =>
      have hrefused : ∀ m : Mode, m.accepts c = false := by
        intro m
        by_cases hm : m = .kanji
        · rw [hm, hkanji]
        · exact refuses_of_isWide hc hm
      rw [climb?_eq_none_iff.mpr fun m _ => hrefused m, climb?_eq_none_iff.mpr fun m _ => hrefused m]

/-- From kanji mode there is nothing to climb to. -/
theorem kanji_climb?_of_uncoded {c : Char} (h : Kanji.code? c = none) : kanji.climb? c = none := by
  have hrefused : kanji.accepts c = false := by
    rw [accepts, value?, h]
    rfl
  exact climb?_of_refuses hrefused

end Mode

/-! ## A whole text -/

/-- Short of the first character above U+00FF, the narrowest mode that accepts all
characters is reached. -/
theorem modeReached_of_latin {text : List Char} (hlatin : ∀ c ∈ text, c.toNat ≤ 0xFF) {mode : Mode}
    (hmode : mode ≤ .byte) (position : Nat) :
    ∃ m, modeReached mode position text = .ok m ∧ m ≤ .byte ∧
      ∀ m' : Mode, mode ≤ m' → (∀ c ∈ text, m'.accepts c = true) → m ≤ m' := by
  induction text generalizing mode position with
  | nil => exact ⟨mode, rfl, hmode, fun _ hle _ => hle⟩
  | cons c text ih =>
      obtain ⟨hc, htext⟩ := List.forall_mem_cons.mp hlatin
      have hbyte := Mode.accepts_byte.mpr hc
      cases hclimb : mode.climb? c with
      | none =>
          rw [Mode.climb?_eq_none_iff.mp hclimb .byte hmode] at hbyte
          cases hbyte
      | some next =>
          obtain ⟨-, -, hleast⟩ := Mode.climb?_eq_some_iff.mp hclimb
          obtain ⟨m, hm, hle, hnarrowest⟩ := ih htext (hleast .byte hmode hbyte) (position + 1)
          refine ⟨m, ?_, hle, fun m' hm' haccepts => ?_⟩
          · rw [modeReached, hclimb]
            exact hm
          · obtain ⟨hfirst, hrest⟩ := List.forall_mem_cons.mp haccepts
            exact hnarrowest m' (hleast m' hm' hfirst) hrest

/-- In kanji mode the climb stays as long as there are codes. -/
theorem modeReached_of_coded {text : List Char} (h : ∀ c ∈ text, (Kanji.code? c).isSome = true)
    (position : Nat) : modeReached .kanji position text = .ok .kanji := by
  induction text generalizing position with
  | nil => rfl
  | cons c text ih =>
      obtain ⟨hc, htext⟩ := List.forall_mem_cons.mp h
      have haccepts : Mode.kanji.accepts c = true := hc
      rw [modeReached, Mode.climb?_of_accepts haccepts]
      exact ih htext (position + 1)

/-- The first character without a code ends it. -/
theorem modeReached_of_uncoded {coded rest : List Char} {c : Char}
    (hcoded : ∀ d ∈ coded, (Kanji.code? d).isSome = true) (hc : Kanji.code? c = none)
    (position : Nat) : modeReached .kanji position (coded ++ c :: rest)
      = .error (.noViableMode c (position + coded.length)) := by
  rw [modeReached_append, modeReached_of_coded hcoded]
  show modeReached .kanji _ (c :: rest) = _
  rw [modeReached, Mode.kanji_climb?_of_uncoded hc]

/-- Characters all have codes, or there is a first that has none. -/
theorem coded_or_exists_uncoded (text : List Char) :
    (∀ c ∈ text, (Kanji.code? c).isSome = true) ∨
    ∃ coded c rest, text = coded ++ c :: rest ∧
      (∀ d ∈ coded, (Kanji.code? d).isSome = true) ∧ Kanji.code? c = none := by
  cases hfound : Mode.kanji.firstRefused text with
  | none => exact .inl (Mode.firstRefused_eq_none_iff.mp hfound)
  | some c =>
      obtain ⟨hc, coded, rest, hsplit, hcoded⟩ := List.find?_eq_some_iff_append.mp hfound
      refine .inr ⟨coded, c, rest, hsplit, fun d hd => ?_, ?_⟩
      · have haccepts := hcoded d hd
        rwa [Bool.not_not] at haccepts
      · refine Option.not_isSome_iff_eq_none.mp fun hsome => ?_
        have haccepts : Mode.kanji.accepts c = true := hsome
        rw [haccepts] at hc
        cases hc

/-- The index of the first character above U+00FF. -/
def firstWide? (text : List Char) : Option Nat := text.findIdx? isWide

theorem firstWide?_eq_none_iff {text : List Char} :
    firstWide? text = none ↔ ∀ c ∈ text, c.toNat ≤ 0xFF := by
  rw [firstWide?, List.findIdx?_eq_none_iff]
  simp only [isWide_eq_false_iff]

/-- From the first character above U+00FF on, the analysis is one in kanji mode. -/
theorem requiredMode_of_firstWide? {text : List Char} {p : Nat} (h : firstWide? text = some p) :
    requiredMode text = modeReached .kanji p (text.drop p) := by
  obtain ⟨hp, hwide, hbefore⟩ := List.findIdx?_eq_some_iff_getElem.mp h
  have hlatin : ∀ c ∈ text.take p, c.toNat ≤ 0xFF := by
    intro c hc
    obtain ⟨j, hj, rfl⟩ := List.mem_take_iff_getElem.mp hc
    rw [← isWide_eq_false_iff, ← Bool.not_eq_true]
    exact hbefore j (Nat.lt_of_lt_of_le hj (Nat.min_le_left _ _))
  obtain ⟨m, hm, -⟩ := modeReached_of_latin hlatin (Mode.numeric_le .byte) 0
  calc requiredMode text
      = requiredMode (text.take p ++ text.drop p) := by rw [List.take_append_drop]
    _ = modeReached m (0 + (text.take p).length) (text.drop p) := by
        rw [requiredMode, modeReached_append, hm]
        rfl
    _ = modeReached m p (text.drop p) := by
        rw [Nat.zero_add, List.length_take_of_le (Nat.le_of_lt hp)]
    _ = modeReached .kanji p (text.drop p) := by
        rw [List.drop_eq_getElem_cons hp, modeReached, modeReached, m.climb?_of_isWide hwide]

/-- The three ends of an analysis: a text of Latin-1 characters, one whose characters from
the first above U+00FF on have codes, and one where the first without a code is behind. -/
theorem requiredMode_cases (text : List Char) :
    (firstWide? text = none ∧ ∃ m, requiredMode text = .ok m ∧ m ≤ .byte) ∨
    (∃ p, firstWide? text = some p ∧ (∀ c ∈ text.drop p, (Kanji.code? c).isSome = true) ∧
      requiredMode text = .ok .kanji) ∨
    ∃ p coded c rest, firstWide? text = some p ∧ text.drop p = coded ++ c :: rest ∧
      (∀ d ∈ coded, (Kanji.code? d).isSome = true) ∧ Kanji.code? c = none ∧
      requiredMode text = .error (.noViableMode c (p + coded.length)) := by
  cases hfirst : firstWide? text with
  | none =>
      obtain ⟨m, hm, hle, -⟩ := modeReached_of_latin
        (firstWide?_eq_none_iff.mp hfirst) (Mode.numeric_le .byte) 0
      exact .inl ⟨rfl, m, hm, hle⟩
  | some p =>
      have hkanji := requiredMode_of_firstWide? hfirst
      rcases coded_or_exists_uncoded (text.drop p) with hcoded | ⟨coded, c, rest, hsplit, hcoded, hc⟩
      · exact .inr (.inl ⟨p, rfl, hcoded, hkanji.trans (modeReached_of_coded hcoded p)⟩)
      · refine .inr (.inr ⟨p, coded, c, rest, rfl, hsplit, hcoded, hc, ?_⟩)
        rw [hkanji, hsplit, modeReached_of_uncoded hcoded hc]

theorem requiredMode_eq_kanji_iff {text : List Char} : requiredMode text = .ok .kanji ↔
    ∃ p, firstWide? text = some p ∧ ∀ c ∈ text.drop p, (Kanji.code? c).isSome = true := by
  constructor
  · intro h
    rcases requiredMode_cases text with ⟨-, m, hm, hle⟩ | ⟨p, hfirst, hcoded, -⟩ |
      ⟨p, coded, c, rest, -, -, -, -, herror⟩
    · rw [h] at hm
      cases hm
      exact absurd hle (by decide)
    · exact ⟨p, hfirst, hcoded⟩
    · rw [h] at herror
      cases herror
  · rintro ⟨p, hfirst, hcoded⟩
    rw [requiredMode_of_firstWide? hfirst, modeReached_of_coded hcoded]

theorem requiredMode_eq_error_iff {text : List Char} {e : EncodeError} :
    requiredMode text = .error e ↔ ∃ p coded c rest, firstWide? text = some p ∧
      text.drop p = coded ++ c :: rest ∧ (∀ d ∈ coded, (Kanji.code? d).isSome = true) ∧
      Kanji.code? c = none ∧ e = .noViableMode c (p + coded.length) := by
  constructor
  · intro h
    rcases requiredMode_cases text with ⟨-, m, hm, -⟩ | ⟨p, -, -, hkanji⟩ |
      ⟨p, coded, c, rest, hfirst, hsplit, hcoded, hc, herror⟩
    · rw [h] at hm
      cases hm
    · rw [h] at hkanji
      cases hkanji
    · rw [h] at herror
      exact ⟨p, coded, c, rest, hfirst, hsplit, hcoded, hc, Except.error.inj herror⟩
  · rintro ⟨p, coded, c, rest, hfirst, hsplit, hcoded, hc, rfl⟩
    rw [requiredMode_of_firstWide? hfirst, hsplit, modeReached_of_uncoded hcoded hc]

/-- What the analysis of a text comes to. -/
structure ClimbsAsNeeded (text : List Char) : Prop where
  /-- If no character lies above U+00FF, the mode is the narrowest that accepts all. -/
  latin : (∀ c ∈ text, c.toNat ≤ 0xFF) → ∃ m, requiredMode text = .ok m ∧ m ≤ .byte ∧
    (∀ c ∈ text, m.accepts c = true) ∧
    ∀ m' : Mode, (∀ c ∈ text, m'.accepts c = true) → m ≤ m'
  /-- The empty text needs no more than numeric mode. -/
  empty : text = [] → requiredMode text = .ok .numeric
  /-- The mode is kanji if there is a character above U+00FF and from the first on all
  have codes, and only then. -/
  kanji_iff : requiredMode text = .ok .kanji ↔
    ∃ p, firstWide? text = some p ∧ ∀ c ∈ text.drop p, (Kanji.code? c).isSome = true
  /-- The analysis fails if one of these has no code, and only then.  It reports the first
  such character with its index. -/
  error_iff : ∀ {e : EncodeError}, requiredMode text = .error e ↔
    ∃ p coded c rest, firstWide? text = some p ∧ text.drop p = coded ++ c :: rest ∧
      (∀ d ∈ coded, (Kanji.code? d).isSome = true) ∧ Kanji.code? c = none ∧
      e = .noViableMode c (p + coded.length)
  /-- The characters in front of the first above U+00FF have no say in that. -/
  front_irrelevant : ∀ {other : List Char} {p : Nat}, firstWide? text = some p →
    firstWide? other = some p → other.drop p = text.drop p →
    requiredMode other = requiredMode text

/-- The analysis of every text ends where its characters need it to. -/
theorem climbsAsNeeded (text : List Char) : ClimbsAsNeeded text where
  latin := by
    intro hlatin
    obtain ⟨m, hm, hle, hnarrowest⟩ := modeReached_of_latin hlatin (Mode.numeric_le .byte) 0
    obtain ⟨-, haccepts⟩ := accepts_of_modeReached hm
    exact ⟨m, hm, hle, haccepts (Mode.le_byte_iff.mp hle), fun m' => hnarrowest m' m'.numeric_le⟩
  empty := by
    rintro rfl
    rfl
  kanji_iff := requiredMode_eq_kanji_iff
  error_iff := requiredMode_eq_error_iff
  front_irrelevant := by
    intro other p htext hother hsame
    rw [requiredMode_of_firstWide? hother, requiredMode_of_firstWide? htext, hsame]

/-! ## What a failure reports -/

/-- A character without a code is outside every mode exactly if it lies above U+00FF. -/
theorem Mode.refuses_iff_of_uncoded {c : Char} (h : Kanji.code? c = none) :
    (∀ mode : Mode, mode.accepts c = false) ↔ 0xFF < c.toNat := by
  constructor
  · intro hrefused
    have hbyte := hrefused .byte
    by_contra hlatin
    rw [accepts_byte.mpr (Nat.le_of_not_lt hlatin)] at hbyte
    cases hbyte
  · intro hwide mode
    by_cases hmode : mode = .kanji
    · rw [hmode, accepts, value?, h]
      rfl
    · exact refuses_of_isWide (isWide_eq_true_iff.mpr hwide) hmode

/-- The character that is reported stands where the report says and has no code.  It is
outside every mode exactly if it lies above U+00FF, so the report is right of a text
exactly if the first character without a code, from the first above U+00FF on, lies above
U+00FF itself. -/
theorem noViableMode_outside_iff (text : List Char) :
    (∀ {c : Char} {i : Nat}, requiredMode text = .error (.noViableMode c i) →
      text[i]? = some c ∧ Kanji.code? c = none ∧
        ((∀ mode : Mode, mode.accepts c = false) ↔ 0xFF < c.toNat)) ∧
    ((∀ {c : Char} {i : Nat}, requiredMode text = .error (.noViableMode c i) →
      ∀ mode : Mode, mode.accepts c = false) ↔
    ∀ {p : Nat} {coded : List Char} {c : Char} {rest : List Char}, firstWide? text = some p →
      text.drop p = coded ++ c :: rest → (∀ d ∈ coded, (Kanji.code? d).isSome = true) →
      Kanji.code? c = none → 0xFF < c.toNat) := by
  refine ⟨fun h => ?_, fun h => ?_, fun h => ?_⟩
  · obtain ⟨p, coded, c, rest, -, hsplit, -, hc, hreport⟩ := requiredMode_eq_error_iff.mp h
    cases hreport
    refine ⟨?_, hc, Mode.refuses_iff_of_uncoded hc⟩
    rw [← List.getElem?_drop, hsplit, List.getElem?_append_right (Nat.le_refl _), Nat.sub_self]
    rfl
  · intro p coded c rest hfirst hsplit hcoded hc
    have hreport : requiredMode text = .error (.noViableMode c (p + coded.length)) :=
      requiredMode_eq_error_iff.mpr ⟨p, coded, c, rest, hfirst, hsplit, hcoded, hc, rfl⟩
    exact (Mode.refuses_iff_of_uncoded hc).mp (h hreport)
  · intro c i hreport
    obtain ⟨p, coded, c, rest, hfirst, hsplit, hcoded, hc, heq⟩ :=
      requiredMode_eq_error_iff.mp hreport
    cases heq
    exact (Mode.refuses_iff_of_uncoded hc).mpr (h hfirst hsplit hcoded hc)

/-- Without a requested mode, the required one may refuse a character of a text that is
short enough. -/
theorem encodeFailure_of_refused {text : String} {options : Options} {mode : Mode} {c : Char}
    (hmode : requiredMode text.toList = .ok mode) (hauto : options.mode = none)
    (hholds : text.toList.length ≤ Version.greatest.capacity options.level mode)
    (hc : mode.firstRefused text.toList = some c) :
    encodeFailure text options = some (.unencodable c mode) := by
  have hwide : ¬ mode < mode := Nat.lt_irrefl _
  simp only [encodeFailure, hmode, hauto, Option.getD_none, if_neg hwide,
    if_neg (Nat.not_lt_of_le hholds), hc, Option.map_some]

/-- A Latin letter is reported as outside every mode behind a kanji, although byte mode
accepts it.  In front of the kanji it is reported as one that kanji mode refuses. -/
theorem noViableMode_behind_kanji :
    requiredMode "遙a".toList = .error (.noViableMode 'a' 1) ∧
    Mode.byte.accepts 'a' = true ∧
    encode "遙a" {} = .error (.noViableMode 'a' 1) ∧
    encode "a遙" {} = .error (.unencodable 'a' .kanji) := by
  have hcode : (Kanji.code? '遙').isSome = true :=
    Kanji.isSome_code?_of_mem (List.mem_of_getLast? rfl : (84, "堯槇遙瑤凜熙") ∈ Kanji.rows)
      (by decide) (by decide) (by decide)
  have hcoded : ∀ c ∈ ['遙'], (Kanji.code? c).isSome = true := by
    intro c hc
    rw [List.mem_singleton.mp hc]
    exact hcode
  have huncoded : Kanji.code? 'a' = none := Kanji.code?_of_ascii (by decide)
  have hbehind : requiredMode "遙a".toList = .error (.noViableMode 'a' 1) :=
    requiredMode_eq_error_iff.mpr
      ⟨0, ['遙'], 'a', [], by decide, by decide, hcoded, huncoded, by decide⟩
  have htext : "a遙".toList = ['a', '遙'] := by decide
  have hfront : requiredMode "a遙".toList = .ok .kanji := by
    rw [htext]
    exact requiredMode_eq_kanji_iff.mpr ⟨1, by decide, hcoded⟩
  have hrefused : Mode.kanji.firstRefused "a遙".toList = some 'a' := by
    rw [htext, Mode.firstRefused, List.find?_cons_of_pos]
    rw [Mode.accepts, Mode.value?, huncoded]
    rfl
  refine ⟨hbehind, by decide, encode_eq_error ?_, encode_eq_error ?_⟩
  · rw [encodeFailure, hbehind]
  · refine encodeFailure_of_refused hfront rfl ?_ hrefused
    decide +kernel

end QrSymbol
