import QrSymbol.Proofs.PayloadFields
import QrSymbol.Proofs.RequiredMode
import QrSymbol.Proofs.RoundTrip

/-!
# Characters that share a code

A code names its cell: neither the row nor the place in the row gets lost
(`Kanji.codeOfCell_injective`).  No row is listed twice, so a cell holds one character at
most and a code has one character in the repertoire (`Kanji.eq_of_mem_codes`).

One character is written without a cell of its own.  The minus sign U+2212 borrows the cell
of the full-width hyphen-minus U+FF0D, so these two are written alike
(`Kanji.code?_eq_iff`).  Nothing that comes after the codes confuses texts any further.
Payloads are equal if the codes are (`Mode.eq_of_pack_eq`), and a reader of a symbol finds
the codes.  So kanji mode tells two texts apart unless they differ in the two minus signs
alone (`tellsApart`), and then it does not (`minusSigns_written_alike`).
-/

namespace QrSymbol

/-! ## Characters -/

namespace Kanji

/-- Different cells have different codes. -/
theorem codeOfCell_injective {row cell row' cell' : Nat} (hrow : 1 ≤ row ∧ row ≤ 84)
    (hrow' : 1 ≤ row' ∧ row' ≤ 84) (hcell : 1 ≤ cell ∧ cell ≤ 94)
    (hcell' : 1 ≤ cell' ∧ cell' ≤ 94) (h : codeOfCell row cell = codeOfCell row' cell') :
    row = row' ∧ cell = cell' := by
  simp only [codeOfCell] at h
  split_ifs at h <;> omega

theorem nodup_rows : (rows.map Prod.fst).Nodup := by decide +kernel

/-- A code has one character at most in the repertoire. -/
theorem eq_of_mem_codes {a b : Char} {code : Nat} (ha : (a, code) ∈ codes)
    (hb : (b, code) ∈ codes) : a = b := by
  obtain ⟨row, cells, i, hrow, hi, hcell, rfl⟩ := exists_cell_of_mem_codes ha
  obtain ⟨row', cells', j, hrow', hj, hcell', hcode⟩ := exists_cell_of_mem_codes hb
  obtain ⟨rfl, hplace⟩ := codeOfCell_injective (rows_bounds _ hrow) (rows_bounds _ hrow')
    ⟨Nat.le_add_left 1 i, hi⟩ ⟨Nat.le_add_left 1 j, hj⟩ hcode
  obtain rfl : i = j := Nat.succ_injective hplace
  have hcells := List.inj_on_of_nodup_map nodup_rows hrow hrow' rfl
  rw [Prod.mk.injEq] at hcells
  rw [← hcells.2, hcell, Option.some.injEq] at hcell'
  exact hcell'

/-- Whether two characters are one, or the two minus signs that share a cell. -/
def SharesCell (a b : Char) : Prop := a = b ∨ a = '−' ∧ b = '－' ∨ a = '－' ∧ b = '−'

theorem cellCharacter_eq_iff {a b : Char} :
    cellCharacter a = cellCharacter b ↔ SharesCell a b := by
  unfold cellCharacter SharesCell
  split_ifs <;> simp_all [eq_comm]

/-- Of characters that have codes, those that share a cell have the same, and no others. -/
theorem code?_eq_iff {a b : Char} (ha : (code? a).isSome = true) (hb : (code? b).isSome = true) :
    code? a = code? b ↔ SharesCell a b := by
  rw [← cellCharacter_eq_iff]
  constructor
  · intro h
    obtain ⟨code, hcode⟩ := Option.isSome_iff_exists.mp ha
    exact eq_of_mem_codes (mem_codes_of_code? hcode) (mem_codes_of_code? (h ▸ hcode))
  · intro h
    have hlookup : ∀ {c : Char}, (code? c).isSome = true →
        code? c = codes.lookup (cellCharacter c) := by
      intro c hc
      rw [code?]
      refine if_neg fun hascii => ?_
      rw [code?_of_ascii hascii] at hc
      cases hc
    rw [hlookup ha, hlookup hb, h]

theorem map_code?_eq_iff {s t : List Char} (hs : ∀ c ∈ s, (code? c).isSome = true)
    (ht : ∀ c ∈ t, (code? c).isSome = true) :
    s.map code? = t.map code? ↔ List.Forall₂ SharesCell s t := by
  induction s generalizing t with
  | nil => simp [eq_comm]
  | cons a s ih =>
      cases t with
      | nil => simp
      | cons b t =>
          obtain ⟨ha, hs⟩ := List.forall_mem_cons.mp hs
          obtain ⟨hb, ht⟩ := List.forall_mem_cons.mp ht
          rw [List.map_cons, List.map_cons, List.cons.injEq, List.forall₂_cons,
            code?_eq_iff ha hb, ih hs ht]

end Kanji

/-! ## Payloads -/

namespace Mode

/-- The length of a payload tells the number of characters. -/
theorem payloadLength_injective (mode : Mode) : Function.Injective mode.payloadLength := by
  intro m n h
  cases mode with
  | numeric =>
      simp only [payloadLength] at h
      split_ifs at h <;> omega
  | _ =>
      simp only [payloadLength] at h
      omega

/-- Numbers in the range of a mode are packed alike only if they are the same. -/
theorem eq_of_pack_eq {mode : Mode} {a b : List Nat} (ha : ∀ v ∈ a, mode.InRange v)
    (hb : ∀ v ∈ b, mode.InRange v) (h : mode.pack a = mode.pack b) : a = b := by
  have hlength : a.length = b.length := by
    refine mode.payloadLength_injective ?_
    rw [← length_pack, ← length_pack, h]
  calc a = mode.unpack a.length (mode.pack a ++ []) := (unpack_pack ha []).symm
    _ = mode.unpack b.length (mode.pack b ++ []) := by rw [h, hlength]
    _ = b := unpack_pack hb []

section

variable {mode : Mode} {s t : List Char} (hs : ∀ c ∈ s, mode.accepts c = true)
  (ht : ∀ c ∈ t, mode.accepts c = true)

include hs ht

theorem values_eq_iff : mode.values s = mode.values t ↔ s.map mode.value? = t.map mode.value? := by
  rw [← map_some_values hs, ← map_some_values ht, List.map_inj_right fun _ _ => Option.some.inj]

/-- Texts that a mode accepts are written alike if their characters have the same numbers,
and only then. -/
theorem writeTo_eq_iff {stream : Bits} :
    mode.writeTo stream s = mode.writeTo stream t ↔ s.map mode.value? = t.map mode.value? := by
  rw [writeTo_of_accepts hs, writeTo_of_accepts ht, Prod.mk.injEq, and_iff_left rfl,
    List.append_cancel_left_eq, ← values_eq_iff hs ht]
  exact ⟨eq_of_pack_eq (inRange_of_mem_values hs) (inRange_of_mem_values ht), congrArg mode.pack⟩

end

end Mode

/-! ## Symbols -/

/-- The mode of a symbol accepts every character of its text. -/
theorem accepts_of_encode {s : String} {options : Options} {a : Symbol}
    (h : encode s options = .ok a) : ∀ c ∈ s.toList, a.mode.accepts c = true := by
  obtain ⟨mode, v, haccepts, -, rfl⟩ := eq_ofText_of_encode h
  exact haccepts

/-- The grid depends on the text through the numbers of its characters alone. -/
theorem Symbol.grid_ofText_congr {s t : String} {mode : Mode} (v : Version) (options : Options)
    (hvalues : mode.values s.toList = mode.values t.toList)
    (hlength : s.toList.length = t.toList.length) :
    (ofText s mode v options).grid = (ofText t mode v options).grid := by
  have hdata : dataCodewords mode (.standard v options.level) s.toList
      = dataCodewords mode (.standard v options.level) t.toList := by
    rw [dataCodewords, dataCodewords, Mode.segment, Mode.segment, hvalues, hlength]
  rw [ofText, ofText, hdata]
  rfl

/-- A text of characters with codes, one of them above U+00FF, is encoded in kanji mode if it
is short enough. -/
theorem exists_encode_kanji {s : String} (options : Options)
    (hs : ∀ c ∈ s.toList, (Kanji.code? c).isSome = true)
    (hwide : (firstWide? s.toList).isSome = true) (hmode : options.mode = none)
    (hlen : s.toList.length ≤ Version.greatest.capacity options.level .kanji) :
    ∃ a, encode s options = .ok a ∧ a.mode = .kanji := by
  obtain ⟨p, hp⟩ := Option.isSome_iff_exists.mp hwide
  obtain ⟨v, hv⟩ := Version.exists_isLeastHolding hlen options.minVersion
  have hrequired : requiredMode s.toList = .ok .kanji :=
    requiredMode_eq_kanji_iff.mpr ⟨p, hp, fun c hc => hs c (List.mem_of_mem_drop hc)⟩
  have hchosen : chooseMode s.toList options.mode = .ok .kanji := by
    rw [hmode]
    exact chooseMode_eq_ok_iff.mpr ⟨.kanji, hrequired, Nat.le_refl _, rfl⟩
  exact ⟨_, encode_eq_ok_iff.mpr ⟨.kanji, v, hchosen, hv, hs, rfl⟩, rfl⟩

/-- Symbols in kanji mode are alike if the codes of their texts are the same, and only then. -/
theorem grid_eq_iff {s t : String} {options : Options} {a b : Symbol}
    (ha : encode s options = .ok a) (hb : encode t options = .ok b) (hamode : a.mode = .kanji)
    (hbmode : b.mode = .kanji) :
    a.grid = b.grid ↔ s.toList.map Kanji.code? = t.toList.map Kanji.code? := by
  obtain ⟨m, v, -, hv, hs, rfl⟩ := encode_eq_ok_iff.mp ha
  obtain ⟨n, w, -, hw, ht, rfl⟩ := encode_eq_ok_iff.mp hb
  obtain rfl : m = .kanji := hamode
  obtain rfl : n = .kanji := hbmode
  have hcodes : s.toList.map Kanji.code? = t.toList.map Kanji.code?
      ↔ Mode.kanji.values s.toList = Mode.kanji.values t.toList := (Mode.values_eq_iff hs ht).symm
  rw [hcodes]
  constructor
  · -- A reader finds the codes in the grid.
    intro h
    have hreading := read_ofText hs hv.holds
    rw [h, read_ofText ht hw.holds, Option.some.injEq, Reading.mk.injEq] at hreading
    exact (Content.codes.inj hreading.2.2).symm
  · intro h
    have hlength : s.toList.length = t.toList.length := by
      rw [← Mode.length_values hs, ← Mode.length_values ht, h]
    rw [hlength] at hv
    rw [hv.unique hw]
    exact Symbol.grid_ofText_congr w options h hlength

/-! ## Two texts -/

/-- How far kanji mode tells two texts apart. -/
structure TellsApart (s t : String) : Prop where
  /-- Texts whose characters have codes are written alike, behind any stream, exactly if
  they differ in the two minus signs alone. -/
  payload_iff : (∀ c ∈ s.toList, (Kanji.code? c).isSome = true) →
    (∀ c ∈ t.toList, (Kanji.code? c).isSome = true) → ∀ stream,
    (Mode.kanji.writeTo stream s.toList = Mode.kanji.writeTo stream t.toList ↔
      List.Forall₂ Kanji.SharesCell s.toList t.toList)
  /-- So are the symbols of texts that are encoded in kanji mode with the same options. -/
  grid_iff : ∀ {options : Options} {a b : Symbol}, encode s options = .ok a →
    encode t options = .ok b → a.mode = .kanji → b.mode = .kanji →
    (a.grid = b.grid ↔ List.Forall₂ Kanji.SharesCell s.toList t.toList)

/-- Kanji mode tells any two texts apart, up to the minus signs in them. -/
theorem tellsApart (s t : String) : TellsApart s t where
  payload_iff := by
    intro hs ht stream
    rw [Mode.writeTo_eq_iff hs ht]
    exact Kanji.map_code?_eq_iff hs ht
  grid_iff := by
    intro options a b ha hb hamode hbmode
    have hs := accepts_of_encode ha
    have ht := accepts_of_encode hb
    rw [hamode] at hs
    rw [hbmode] at ht
    rw [grid_eq_iff ha hb hamode hbmode]
    exact Kanji.map_code?_eq_iff hs ht

/-- The full-width hyphen-minus stands in the first row. -/
theorem Kanji.isSome_code?_hyphenMinus : (code? '－').isSome = true := by
  have hrow : rows.head (by decide) ∈ rows := List.head_mem (by decide)
  have hcell : '－' ∈ (rows.head (by decide)).2.toList.take 94 := by decide +kernel
  exact isSome_code?_of_mem hrow hcell (by decide) (by decide)

/-- A text of two minus signs alone shows that kanji mode does not tell them apart. -/
theorem minusSigns_written_alike :
    (∀ c ∈ "−".toList, (Kanji.code? c).isSome = true) ∧
    (∀ c ∈ "－".toList, (Kanji.code? c).isSome = true) ∧
    Mode.kanji.writeTo [] "−".toList = Mode.kanji.writeTo [] "－".toList ∧ "−" ≠ "－" ∧
    ∃ a b, encode "−" {} = .ok a ∧ encode "－" {} = .ok b ∧ a.mode = .kanji ∧ b.mode = .kanji ∧
      a.grid = b.grid := by
  have hminus : "−".toList = ['−'] := by decide
  have hhyphen : "－".toList = ['－'] := by decide
  have hcode : Kanji.code? '−' = Kanji.code? '－' := rfl
  have hcodes : "−".toList.map Kanji.code? = "－".toList.map Kanji.code? := by
    rw [hminus, hhyphen, List.map_singleton, List.map_singleton, hcode]
  have hs : ∀ c ∈ "−".toList, (Kanji.code? c).isSome = true := by
    rw [hminus, List.forall_mem_singleton, hcode]
    exact Kanji.isSome_code?_hyphenMinus
  have ht : ∀ c ∈ "－".toList, (Kanji.code? c).isSome = true := by
    rw [hhyphen, List.forall_mem_singleton]
    exact Kanji.isSome_code?_hyphenMinus
  refine ⟨hs, ht, (Mode.writeTo_eq_iff hs ht).mpr hcodes, by decide, ?_⟩
  obtain ⟨a, ha, hamode⟩ := exists_encode_kanji {} hs (by decide) rfl (by decide)
  obtain ⟨b, hb, hbmode⟩ := exists_encode_kanji {} ht (by decide) rfl (by decide)
  exact ⟨a, b, ha, hb, hamode, hbmode, (grid_eq_iff ha hb hamode hbmode).mpr hcodes⟩

end QrSymbol
