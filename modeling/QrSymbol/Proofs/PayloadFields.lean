import QrSymbol.Proofs.StreamLayout

/-!
# The fields of a payload

A payload is a row of fields, each a number in a width of its own (`Mode.fields`).  A
field of numeric mode holds three digits and one of alphanumeric mode two characters, and
the last field is narrower if it holds fewer.  The numbers of a text never exceed their
fields (`Mode.fits_of_mem_fields`), so they are read back from the payload and the number
of characters (`Mode.unpack_pack`).

A refused character is met in two ways.  Byte and kanji mode write the text one character
at a time (`Mode.writeTo_cons`), so what stands in front of the refused character is
written as if there were nothing behind it (`Mode.writeTo_append`).  The other two modes
have read the whole text before they write, and write nothing
(`Mode.writeTo_of_refused`).
-/

namespace QrSymbol

/-! ## Fields -/

/-- A number and the width that it is written in. -/
structure BitField where
  /-- The number of bits. -/
  width : Nat
  /-- The number. -/
  value : Nat
deriving DecidableEq, Repr

namespace BitField

/-- The bits of a field. -/
def bits (field : BitField) : Bits := Bits.ofNat field.width field.value

/-- Whether the number of a field is not too large for its width. -/
def Fits (field : BitField) : Prop := field.value < 2 ^ field.width

@[simp] theorem length_bits (field : BitField) : field.bits.length = field.width :=
  Bits.length_ofNat _ _

end BitField

/-- The fields of digits. -/
def digitFields : List Nat → List BitField
  | a :: b :: c :: digits => ⟨10, 100 * a + 10 * b + c⟩ :: digitFields digits
  | [a, b] => [⟨7, 10 * a + b⟩]
  | [a] => [⟨4, a⟩]
  | [] => []

/-- The fields of alphanumeric values. -/
def pairFields : List Nat → List BitField
  | a :: b :: values => ⟨11, 45 * a + b⟩ :: pairFields values
  | [a] => [⟨6, a⟩]
  | [] => []

/-- The fields that the numbers of a text are written in. -/
def Mode.fields : Mode → List Nat → List BitField
  | .numeric, values => digitFields values
  | .alphanumeric, values => pairFields values
  | .byte, values => values.map fun value => ⟨8, value⟩
  | .kanji, values => values.map fun code => ⟨13, Kanji.compact code⟩

theorem packDigits_eq (digits : List Nat) :
    packDigits digits = (digitFields digits).flatMap BitField.bits := by
  fun_induction digitFields digits with
  | case1 a b c digits ih =>
      rw [packDigits, ih, List.flatMap_cons]
      rfl
  | case2 a b => rw [packDigits, List.flatMap_singleton, BitField.bits]
  | case3 a => rw [packDigits, List.flatMap_singleton, BitField.bits]
  | case4 => rfl

theorem packPairs_eq (values : List Nat) :
    packPairs values = (pairFields values).flatMap BitField.bits := by
  fun_induction pairFields values with
  | case1 a b values ih =>
      rw [packPairs, ih, List.flatMap_cons]
      rfl
  | case2 a => rw [packPairs, List.flatMap_singleton, BitField.bits]
  | case3 => rfl

theorem fits_of_mem_digitFields {digits : List Nat} (h : ∀ d ∈ digits, d < 10) :
    ∀ field ∈ digitFields digits, field.Fits := by
  fun_induction digitFields digits with
  | case1 a b c digits ih =>
      simp only [List.forall_mem_cons] at h ⊢
      obtain ⟨ha, hb, hc, hdigits⟩ := h
      have hgroup : 100 * a + 10 * b + c < 2 ^ 10 := by omega
      exact ⟨hgroup, ih hdigits⟩
  | case2 a b =>
      simp only [List.forall_mem_cons] at h
      obtain ⟨ha, hb, -⟩ := h
      have hgroup : 10 * a + b < 2 ^ 7 := by omega
      exact List.forall_mem_singleton.mpr hgroup
  | case3 a =>
      have ha := h a List.mem_cons_self
      have hgroup : a < 2 ^ 4 := by omega
      exact List.forall_mem_singleton.mpr hgroup
  | case4 => exact fun field hfield => absurd hfield List.not_mem_nil

theorem fits_of_mem_pairFields {values : List Nat} (h : ∀ v ∈ values, v < 45) :
    ∀ field ∈ pairFields values, field.Fits := by
  fun_induction pairFields values with
  | case1 a b values ih =>
      simp only [List.forall_mem_cons] at h ⊢
      obtain ⟨ha, hb, hvalues⟩ := h
      have hpair : 45 * a + b < 2 ^ 11 := by omega
      exact ⟨hpair, ih hvalues⟩
  | case2 a =>
      have ha := h a List.mem_cons_self
      have hsingle : a < 2 ^ 6 := by omega
      exact List.forall_mem_singleton.mpr hsingle
  | case3 => exact fun field hfield => absurd hfield List.not_mem_nil

namespace Mode

/-- The packed numbers are the fields one after the other. -/
theorem pack_eq (mode : Mode) (values : List Nat) :
    mode.pack values = (mode.fields values).flatMap BitField.bits := by
  cases mode with
  | numeric => exact packDigits_eq values
  | alphanumeric => exact packPairs_eq values
  | byte =>
      rw [pack, fields, List.flatMap_map]
      rfl
  | kanji =>
      rw [pack, fields, List.flatMap_map]
      rfl

/-- Numbers in the range of a mode fit their fields. -/
theorem fits_of_mem_fields {mode : Mode} {values : List Nat} (h : ∀ v ∈ values, mode.InRange v) :
    ∀ field ∈ mode.fields values, field.Fits := by
  cases mode with
  | numeric => exact fits_of_mem_digitFields h
  | alphanumeric => exact fits_of_mem_pairFields h
  | byte => exact List.forall_mem_map.mpr h
  | kanji => exact List.forall_mem_map.mpr fun code hcode => Kanji.compact_lt (h code hcode)

/-! ## Writing -/

section

variable {mode : Mode} {stream : Bits} {text front back : List Char} {c : Char}

@[simp] theorem pack_nil (mode : Mode) : mode.pack [] = [] := by
  cases mode <;> rfl

/-- A text that a mode accepts is written behind the stream. -/
theorem writeTo_of_accepts (h : ∀ c ∈ text, mode.accepts c = true) :
    mode.writeTo stream text = (stream ++ mode.pack (mode.values text), .ok ()) := by
  simp only [writeTo, Payload.ofText, firstRefused_eq_none_iff.mpr h, Option.isSome_none,
    Bool.and_false, Bool.false_eq_true, if_false]

/-- A mode that reads ahead writes nothing of a text with a refused character. -/
theorem writeTo_of_refused (hahead : mode.readsAhead = true)
    (hrefused : mode.firstRefused text = some c) :
    mode.writeTo stream text = (stream, .error (.unencodable c mode)) := by
  simp only [writeTo, Payload.ofText, hahead, hrefused, Option.isSome_some, Bool.and_self, if_true,
    pack_nil, List.append_nil]

/-- A mode that does not read ahead packs number by number. -/
theorem pack_cons (halong : mode.readsAhead = false) (value : Nat) (values : List Nat) :
    mode.pack (value :: values) = mode.pack [value] ++ mode.pack values := by
  cases mode with
  | byte => rw [pack, pack, pack, List.flatMap_cons, List.flatMap_singleton]
  | kanji => rw [pack, pack, pack, List.flatMap_cons, List.flatMap_singleton]
  | _ => cases halong

/-- It writes a character that it accepts and goes on with the rest of the text. -/
theorem writeTo_cons (halong : mode.readsAhead = false) {value : Nat}
    (hvalue : mode.value? c = some value) :
    mode.writeTo stream (c :: text) = mode.writeTo (stream ++ mode.pack [value]) text := by
  have hrefused : mode.firstRefused (c :: text) = mode.firstRefused text := by
    rw [firstRefused, List.find?_cons_of_neg, firstRefused]
    rw [accepts, hvalue, Option.isSome_some]
    decide
  simp only [writeTo, Payload.ofText, halong, hrefused, Bool.false_and, Bool.false_eq_true,
    if_false, values, hvalue]
  rw [pack_cons halong, List.append_assoc]

/-- It stops at a character that it refuses. -/
theorem writeTo_cons_of_refused (halong : mode.readsAhead = false) (hc : mode.accepts c = false) :
    mode.writeTo stream (c :: text) = (stream, .error (.unencodable c mode)) := by
  have hvalue : mode.value? c = none := by
    rw [accepts, ← Bool.not_eq_true, Option.not_isSome_iff_eq_none] at hc
    exact hc
  have hrefused : mode.firstRefused (c :: text) = some c := by
    rw [firstRefused, List.find?_cons_of_pos]
    rw [hc]
    rfl
  simp only [writeTo, Payload.ofText, halong, hrefused, Bool.false_and, Bool.false_eq_true,
    if_false, values, hvalue, pack_nil, List.append_nil]

/-- So the front of a text is written before anything behind it is read. -/
theorem writeTo_append (halong : mode.readsAhead = false)
    (hfront : ∀ d ∈ front, mode.accepts d = true) :
    mode.writeTo stream (front ++ back) = mode.writeTo (mode.writeTo stream front).1 back := by
  induction front generalizing stream with
  | nil =>
      have hnil : mode.writeTo stream [] = (stream, .ok ()) := by
        rw [writeTo_of_accepts hfront, values, pack_nil, List.append_nil]
      rw [List.nil_append, hnil]
  | cons d front ih =>
      obtain ⟨hd, hfront⟩ := List.forall_mem_cons.mp hfront
      obtain ⟨value, hvalue⟩ := Option.isSome_iff_exists.mp hd
      rw [List.cons_append, writeTo_cons halong hvalue, writeTo_cons halong hvalue, ih hfront]

end

end Mode

/-! ## Payloads -/

/-- What the payload of a text is in a mode that accepts it. -/
structure IsPayload (mode : Mode) (text : List Char) (payload : Bits) : Prop where
  /-- It is the fields of the characters' numbers, none of which exceeds its field. -/
  fields : ∃ values, values.map some = text.map mode.value? ∧
    payload = (mode.fields values).flatMap BitField.bits ∧ ∀ field ∈ mode.fields values, field.Fits
  /-- Its length depends on the number of characters alone. -/
  length_eq : payload.length = mode.payloadLength text.length
  /-- Together with their number it gives back the numbers of the characters, whatever
  follows. -/
  unpack_eq : ∀ rest, (mode.unpack text.length (payload ++ rest)).map some = text.map mode.value?

/-- What writing a text behind a stream comes to. -/
structure WritesPayload (mode : Mode) (stream : Bits) (text : List Char) : Prop where
  /-- A text that the mode accepts has its payload written behind the stream. -/
  accepted : (∀ c ∈ text, mode.accepts c = true) → ∃ payload,
    mode.writeTo stream text = (stream ++ payload, .ok ()) ∧ IsPayload mode text payload
  /-- If the mode refuses a character, the first one is reported. -/
  refused : ∀ {front back : List Char} {c : Char}, text = front ++ c :: back →
    (∀ d ∈ front, mode.accepts d = true) → mode.accepts c = false →
    (mode.writeTo stream text).2 = .error (.unencodable c mode)
  /-- Numeric and alphanumeric mode then leave the stream as it was. -/
  unchanged : (∃ c ∈ text, mode.accepts c = false) → mode = .numeric ∨ mode = .alphanumeric →
    (mode.writeTo stream text).1 = stream
  /-- Byte and kanji mode leave it with the payload of what stands in front of the
  character. -/
  cut : ∀ {front back : List Char} {c : Char}, text = front ++ c :: back →
    (∀ d ∈ front, mode.accepts d = true) → mode.accepts c = false →
    mode = .byte ∨ mode = .kanji → ∃ payload,
    (mode.writeTo stream text).1 = stream ++ payload ∧ IsPayload mode front payload

/-- The payload of a text that a mode accepts. -/
theorem isPayload_pack {mode : Mode} {text : List Char} (h : ∀ c ∈ text, mode.accepts c = true) :
    IsPayload mode text (mode.pack (mode.values text)) where
  fields := ⟨mode.values text, Mode.map_some_values h, mode.pack_eq _,
    Mode.fits_of_mem_fields (Mode.inRange_of_mem_values h)⟩
  length_eq := by rw [Mode.length_pack, Mode.length_values h]
  unpack_eq := by
    intro rest
    rw [← Mode.length_values h, Mode.unpack_pack (Mode.inRange_of_mem_values h),
      Mode.map_some_values h]

/-- Every text is written as its payload, or as far as the mode accepts it. -/
theorem writesPayload (mode : Mode) (stream : Bits) (text : List Char) :
    WritesPayload mode stream text where
  accepted := fun h => ⟨_, Mode.writeTo_of_accepts h, isPayload_pack h⟩
  refused := by
    rintro front back c rfl hfront hc
    cases hahead : mode.readsAhead with
    | true => rw [Mode.writeTo_of_refused hahead (Mode.firstRefused_append hfront hc)]
    | false => rw [Mode.writeTo_append hahead hfront, Mode.writeTo_cons_of_refused hahead hc]
  unchanged := by
    rintro ⟨c, hmem, hc⟩ hmode
    have hahead : mode.readsAhead = true := by
      rcases hmode with rfl | rfl <;> rfl
    cases hrefused : mode.firstRefused text with
    | none =>
        rw [Mode.firstRefused_eq_none_iff.mp hrefused c hmem] at hc
        cases hc
    | some d => rw [Mode.writeTo_of_refused hahead hrefused]
  cut := by
    rintro front back c rfl hfront hc hmode
    have halong : mode.readsAhead = false := by
      rcases hmode with rfl | rfl <;> rfl
    refine ⟨_, ?_, isPayload_pack hfront⟩
    rw [Mode.writeTo_append halong hfront, Mode.writeTo_cons_of_refused halong hc,
      Mode.writeTo_of_accepts hfront]

end QrSymbol
