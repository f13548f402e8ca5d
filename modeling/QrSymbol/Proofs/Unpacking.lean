import QrSymbol.Proofs.DataCapacity
import QrSymbol.Reading

/-!
# Unpacking what was packed

Each mode packs numbers of a range of its own (`Mode.InRange`), and numbers in that
range come back from their bits, whatever follows (`Mode.unpack_pack`).  The numbers
of a text are in the range of its mode (`Mode.inRange_of_value?`).  For kanji mode that
rests on the cells of the repertoire: a code has a lead byte in one of two ranges and
a trail byte from `40` to `FC`, so nothing is lost in thirteen bits
(`Kanji.expand_compact`).

Together with the mode indicator and the character count this gives the segment
back (`Reading.ofBits_segment`).  The characters of a text come back from their
numbers, except in kanji mode, where the codes are left as they are
(`Mode.content_values`).
-/

namespace QrSymbol

/-! ## Codes in thirteen bits -/

namespace Kanji

/-- Whether a number is the code of a cell. -/
def IsCode (code : Nat) : Prop :=
  ∃ row cell, 1 ≤ row ∧ row ≤ 84 ∧ 1 ≤ cell ∧ cell ≤ 94 ∧ code = codeOfCell row cell

theorem rows_bounds : ∀ r ∈ rows, 1 ≤ r.1 ∧ r.1 ≤ 84 := by decide +kernel

/-- A code is that of the cell that its character stands in. -/
theorem exists_cell_of_mem_codes {c : Char} {code : Nat} (h : (c, code) ∈ codes) :
    ∃ row cells i, (row, cells) ∈ rows ∧ i < 94 ∧ cells.toList[i]? = some c ∧
      code = codeOfCell row (i + 1) := by
  obtain ⟨⟨row, cells⟩, hrow, hcode⟩ := List.mem_flatMap.mp h
  obtain ⟨⟨a, cell⟩, hcell, hsome⟩ := List.mem_filterMap.mp hcode
  obtain ⟨hfirst, hplace⟩ := List.mk_mem_zipIdx_iff_le_and_getElem?_sub.mp hcell
  rw [List.getElem?_take, Option.ite_none_right_eq_some] at hplace
  simp only [Option.ite_none_left_eq_some, Option.some.injEq, Prod.mk.injEq] at hsome
  obtain ⟨-, rfl, rfl⟩ := hsome
  exact ⟨row, cells, cell - 1, hrow, hplace.1, hplace.2, by rw [Nat.sub_add_cancel hfirst]⟩

theorem mem_codes_of_code? {c : Char} {code : Nat} (h : code? c = some code) :
    (cellCharacter c, code) ∈ codes := by
  rw [code?, Option.ite_none_left_eq_some] at h
  obtain ⟨front, back, hcodes, -⟩ := List.lookup_eq_some_iff.mp h.2
  rw [hcodes]
  exact List.mem_append_right _ List.mem_cons_self

theorem isCode_of_code? {c : Char} {code : Nat} (h : code? c = some code) : IsCode code := by
  obtain ⟨row, cells, i, hrow, hi, -, rfl⟩ := exists_cell_of_mem_codes (mem_codes_of_code? h)
  obtain ⟨hlow, hhigh⟩ := rows_bounds _ hrow
  exact ⟨row, i + 1, hlow, hhigh, Nat.le_add_left 1 i, hi, rfl⟩

/-- A code by its lead byte and what its trail byte is above `40`. -/
theorem exists_of_isCode {code : Nat} (h : IsCode code) : ∃ lead trail, trail ≤ 0xBC ∧
    (lead < 0x1F ∧ code = lead * 0x100 + trail + 0x8140 ∨
      0x1F ≤ lead ∧ lead < 0x2A ∧ code = lead * 0x100 + trail + 0xC140) := by
  obtain ⟨row, cell, hrow, hrow', hcell, hcell', rfl⟩ := h
  refine ⟨(row - 1) / 2, if row % 2 = 0 then cell + 0x5E
    else if cell ≤ 63 then cell - 1 else cell, by split_ifs <;> omega, ?_⟩
  simp only [codeOfCell]
  split_ifs <;> omega

theorem compact_lt {code : Nat} (h : IsCode code) : compact code < 2 ^ 13 := by
  obtain ⟨lead, trail, htrail, hcode⟩ := exists_of_isCode h
  simp only [compact]
  split <;> omega

/-- A code comes back from its thirteen bits. -/
theorem expand_compact {code : Nat} (h : IsCode code) : expand (compact code) = code := by
  obtain ⟨lead, trail, htrail, hcode⟩ := exists_of_isCode h
  have hcompact : compact code = lead * 0xC0 + trail := by
    simp only [compact]
    split <;> omega
  simp only [expand, hcompact]
  split <;> omega

end Kanji

/-! ## Packed numbers -/

/-- The front of a stream is taken as a number of its width. -/
theorem Bits.toNat_take_append {width value : Nat} (h : value < 2 ^ width) (rest : Bits) :
    toNat ((ofNat width value ++ rest).take width) = value := by
  rw [List.take_left' (length_ofNat width value), toNat_ofNat_of_lt h]

theorem Bits.drop_append {width value : Nat} (rest : Bits) :
    (ofNat width value ++ rest).drop width = rest :=
  List.drop_left' (length_ofNat width value)

theorem unpackDigits_packDigits {digits : List Nat} (h : ∀ d ∈ digits, d < 10) (rest : Bits) :
    unpackDigits digits.length (packDigits digits ++ rest) = digits := by
  fun_induction packDigits digits with
  | case1 a b c digits ih =>
      simp only [List.forall_mem_cons] at h
      obtain ⟨ha, hb, hc, hdigits⟩ := h
      have hgroup : 100 * a + 10 * b + c < 2 ^ 10 := by omega
      simp only [List.length_cons, unpackDigits, List.append_assoc]
      rw [Bits.toNat_take_append hgroup, Bits.drop_append, ih hdigits]
      congr 1
      · omega
      · congr 1
        · omega
        · congr 1
          omega
  | case2 a b =>
      simp only [List.forall_mem_cons] at h
      obtain ⟨ha, hb, -⟩ := h
      have hgroup : 10 * a + b < 2 ^ 7 := by omega
      simp only [List.length_cons, List.length_nil, unpackDigits]
      rw [Bits.toNat_take_append hgroup]
      congr 1
      · omega
      · congr 1
        omega
  | case3 a =>
      have ha := h a List.mem_cons_self
      have hgroup : a < 2 ^ 4 := by omega
      simp only [List.length_cons, List.length_nil, unpackDigits]
      rw [Bits.toNat_take_append hgroup]
  | case4 => rfl

theorem unpackPairs_packPairs {values : List Nat} (h : ∀ v ∈ values, v < 45) (rest : Bits) :
    unpackPairs values.length (packPairs values ++ rest) = values := by
  fun_induction packPairs values with
  | case1 a b values ih =>
      simp only [List.forall_mem_cons] at h
      obtain ⟨ha, hb, hvalues⟩ := h
      have hpair : 45 * a + b < 2 ^ 11 := by omega
      simp only [List.length_cons, unpackPairs, List.append_assoc]
      rw [Bits.toNat_take_append hpair, Bits.drop_append, ih hvalues]
      congr 1
      · omega
      · congr 1
        omega
  | case2 a =>
      have ha := h a List.mem_cons_self
      have hpair : a < 2 ^ 6 := by omega
      simp only [List.length_cons, List.length_nil, unpackPairs]
      rw [Bits.toNat_take_append hpair]
  | case3 => rfl

theorem unpackEach_flatMap {width : Nat} {values : List Nat} (h : ∀ v ∈ values, v < 2 ^ width)
    (rest : Bits) :
    unpackEach width values.length (values.flatMap (Bits.ofNat width) ++ rest) = values := by
  induction values with
  | nil => rfl
  | cons value values ih =>
      obtain ⟨hvalue, hvalues⟩ := List.forall_mem_cons.mp h
      rw [List.length_cons, unpackEach, List.flatMap_cons, List.append_assoc,
        Bits.toNat_take_append hvalue, Bits.drop_append, ih hvalues]

namespace Mode

/-- Whether a number is one that a mode can pack. -/
def InRange : Mode → Nat → Prop
  | .numeric, value => value < 10
  | .alphanumeric, value => value < 45
  | .byte, value => value < 2 ^ 8
  | .kanji, value => Kanji.IsCode value

/-- Numbers in the range of a mode come back from their bits. -/
theorem unpack_pack {mode : Mode} {values : List Nat} (h : ∀ v ∈ values, mode.InRange v)
    (rest : Bits) : mode.unpack values.length (mode.pack values ++ rest) = values := by
  cases mode with
  | numeric => exact unpackDigits_packDigits h rest
  | alphanumeric => exact unpackPairs_packPairs h rest
  | byte => exact unpackEach_flatMap h rest
  | kanji =>
      have hcompact : ∀ v ∈ values.map Kanji.compact, v < 2 ^ 13 := by
        intro v hv
        obtain ⟨code, hcode, rfl⟩ := List.mem_map.mp hv
        exact Kanji.compact_lt (h code hcode)
      have hunpacked := unpackEach_flatMap hcompact rest
      rw [List.length_map, List.flatMap_map] at hunpacked
      rw [unpack, pack, hunpacked, List.map_map]
      calc values.map (Kanji.expand ∘ Kanji.compact) = values.map id := by
            refine List.map_congr_left fun code hmem => ?_
            have hcode : Kanji.IsCode code := h code hmem
            rw [Function.comp_apply, Kanji.expand_compact hcode, id_eq]
        _ = values := List.map_id values

/-! ## The numbers of a text -/

theorem alphabet_of_idxOf? {c : Char} {value : Nat} (h : alphabet.idxOf? c = some value) :
    value < 45 ∧ alphabet[value]? = some c := by
  obtain ⟨hlt, hget, -⟩ := List.idxOf?_eq_some_iff.mp h
  have hlength : alphabet.length = 45 := by decide
  exact ⟨hlength ▸ hlt, List.getElem?_eq_some_iff.mpr ⟨hlt, hget⟩⟩

theorem inRange_of_value? {mode : Mode} {c : Char} {value : Nat} (h : mode.value? c = some value) :
    mode.InRange value := by
  cases mode with
  | numeric =>
      rw [value?, Option.ite_none_right_eq_some] at h
      obtain ⟨hdigit, hvalue⟩ := h
      have hbounds := Char.isDigit_iff_toNat.mp hdigit
      cases hvalue
      show c.toNat - 48 < 10
      have hhigh : c.toNat ≤ 57 := hbounds.2
      omega
  | alphanumeric => exact (alphabet_of_idxOf? h).1
  | byte =>
      rw [value?, Option.ite_none_right_eq_some] at h
      obtain ⟨hle, hvalue⟩ := h
      cases hvalue
      exact Nat.lt_succ_of_le hle
  | kanji => exact Kanji.isCode_of_code? h

/-- The numbers of a text that a mode accepts, character by character. -/
theorem map_some_values {mode : Mode} {text : List Char}
    (h : ∀ c ∈ text, mode.accepts c = true) :
    (mode.values text).map some = text.map mode.value? := by
  induction text with
  | nil => rfl
  | cons c text ih =>
      obtain ⟨hc, htext⟩ := List.forall_mem_cons.mp h
      obtain ⟨value, hvalue⟩ := Option.isSome_iff_exists.mp hc
      simp only [values, hvalue]
      rw [List.map_cons, List.map_cons, ih htext, hvalue]

theorem inRange_of_mem_values {mode : Mode} {text : List Char}
    (h : ∀ c ∈ text, mode.accepts c = true) : ∀ v ∈ mode.values text, mode.InRange v := by
  intro v hv
  have hmem := List.mem_map_of_mem (f := some) hv
  rw [map_some_values h] at hmem
  obtain ⟨c, -, hvalue⟩ := List.mem_map.mp hmem
  exact inRange_of_value? hvalue

/-- The characters come back from their numbers, one by one. -/
theorem filterMap_values {mode : Mode} {f : Nat → Option Char}
    (hf : ∀ c value, mode.value? c = some value → f value = some c) {text : List Char}
    (h : ∀ c ∈ text, mode.accepts c = true) : (mode.values text).filterMap f = text := by
  induction text with
  | nil => rfl
  | cons c text ih =>
      obtain ⟨hc, htext⟩ := List.forall_mem_cons.mp h
      obtain ⟨value, hvalue⟩ := Option.isSome_iff_exists.mp hc
      simp only [values, hvalue]
      rw [List.filterMap_cons_some (hf c value hvalue), ih htext]

/-- Short of kanji, the numbers of a text stand for the text. -/
theorem content_values {mode : Mode} (hmode : mode ≠ .kanji) {text : List Char}
    (h : ∀ c ∈ text, mode.accepts c = true) :
    mode.content (mode.values text) = .characters text := by
  cases mode with
  | numeric =>
      rw [content, ← List.filterMap_eq_map, filterMap_values ?_ h]
      intro c value hvalue
      rw [value?, Option.ite_none_right_eq_some] at hvalue
      obtain ⟨hdigit, hvalue⟩ := hvalue
      have hlow : '0'.toNat ≤ c.toNat := (Char.isDigit_iff_toNat.mp hdigit).1
      cases hvalue
      show some (Char.ofNat ('0'.toNat + (c.toNat - '0'.toNat))) = some c
      rw [Nat.add_sub_cancel' hlow, Char.ofNat_toNat]
  | alphanumeric =>
      rw [content, filterMap_values ?_ h]
      intro c value hvalue
      exact (alphabet_of_idxOf? hvalue).2
  | byte =>
      rw [content, ← List.filterMap_eq_map, filterMap_values ?_ h]
      intro c value hvalue
      rw [value?, Option.ite_none_right_eq_some] at hvalue
      obtain ⟨-, hvalue⟩ := hvalue
      cases hvalue
      show some (Char.ofNat c.toNat) = some c
      rw [Char.ofNat_toNat]
  | kanji => exact absurd rfl hmode

theorem ofIndicator?_indicator (mode : Mode) : ofIndicator? mode.indicator = some mode := by
  cases mode <;> rfl

end Mode

/-! ## The segment -/

/-- A segment is read back, whatever follows it. -/
theorem Reading.ofBits_segment {mode : Mode} {v : Version} {text : List Char}
    (haccepts : ∀ c ∈ text, mode.accepts c = true) (hcount : text.length < 2 ^ v.countBits mode)
    (rest : Bits) :
    Reading.ofBits v (mode.segment v text ++ rest)
      = some ⟨mode, text.length, mode.content (mode.values text)⟩ := by
  have hstream : mode.segment v text ++ rest = Bits.ofNat 4 mode.indicator
      ++ (Bits.ofNat (v.countBits mode) text.length ++ (mode.pack (mode.values text) ++ rest)) := by
    rw [Mode.segment, List.append_assoc, List.append_assoc]
  rw [hstream, Reading.ofBits, Bits.toNat_take_append mode.indicator_lt,
    Mode.ofIndicator?_indicator]
  show some _ = _
  have hunpacked := Mode.unpack_pack (Mode.inRange_of_mem_values haccepts) rest
  rw [Mode.length_values haccepts] at hunpacked
  simp only [← List.drop_drop, Bits.drop_append, Bits.toNat_take_append hcount, hunpacked]

end QrSymbol
