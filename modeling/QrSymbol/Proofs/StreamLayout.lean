import QrSymbol.Proofs.DataCapacity
import QrSymbol.Proofs.Unpacking

/-!
# The layout of the data

The bits of the data codewords are six parts (`StreamParts`): the mode indicator, the
character count and the payload, then the terminator, the zeros up to the next byte and
the padding bytes.  The nearer the payload comes to the capacity, the fewer of the last
three are left, and at last the terminator is cut short.  Since the capacity is whole
bytes, the zeros never go beyond it and the padding bytes end where it does
(`areFor_streamParts`).

Any plan writes a text in that way, or says why it does not (`writesText_of_lt`).  The
count must fit its field, as it would not be the number of characters otherwise.
-/

namespace QrSymbol

/-! ## The parts of the data -/

/-- The parts that the bits of data codewords consist of. -/
structure StreamParts where
  /-- The mode indicator. -/
  indicator : Bits
  /-- The character count. -/
  count : Bits
  /-- The payload. -/
  payload : Bits
  /-- The terminator. -/
  terminator : Bits
  /-- The zeros up to the next byte. -/
  alignment : Bits
  /-- The padding bytes. -/
  pads : List UInt8

namespace StreamParts

/-- The bits of all parts. -/
def bits (parts : StreamParts) : Bits :=
  parts.indicator ++ parts.count ++ parts.payload ++ parts.terminator ++ parts.alignment
    ++ Bits.ofBytes parts.pads

/-- What the parts are for a text of `n` characters and a number of bits to be filled. -/
structure AreFor (parts : StreamParts) (mode : Mode) (version : Version) (n capacity : Nat) :
    Prop where
  /-- The indicator has four bits. -/
  length_indicator : parts.indicator.length = 4
  /-- It spells the mode. -/
  indicator_eq : parts.indicator.toNat = mode.indicator
  /-- The count is as wide as the version says. -/
  length_count : parts.count.length = version.countBits mode
  /-- It spells the number of characters. -/
  count_eq : parts.count.toNat = n
  /-- The terminator is four zeros, or fewer if the capacity ends before. -/
  terminator_eq : parts.terminator = List.replicate
    (min 4 (capacity - (4 + version.countBits mode + parts.payload.length))) false
  /-- The alignment is zeros. -/
  alignment_eq : parts.alignment = List.replicate parts.alignment.length false
  /-- They are fewer than a byte. -/
  length_alignment : parts.alignment.length < 8
  /-- They end at a byte. -/
  boundary : (4 + version.countBits mode + parts.payload.length + parts.terminator.length
    + parts.alignment.length) % 8 = 0
  /-- The padding bytes alternate. -/
  pads_eq : ∀ {i : Nat} {byte : UInt8}, parts.pads[i]? = some byte →
    byte = if i % 2 = 0 then 0xEC else 0x11
  /-- All parts together fill the capacity. -/
  length_bits : parts.bits.length = capacity

end StreamParts

/-- The parts of a text's data. -/
def streamParts (mode : Mode) (plan : BlockPlan) (text : List Char) : StreamParts :=
  let length := (mode.segment plan.version text).length
  let terminator := min 4 (plan.dataBits - length)
  let alignment := (8 - (length + terminator) % 8) % 8
  { indicator := Bits.ofNat 4 mode.indicator
    count := Bits.ofNat (plan.version.countBits mode) text.length
    payload := mode.pack (mode.values text)
    terminator := List.replicate terminator false
    alignment := List.replicate alignment false
    pads := padBytes ((plan.dataBits - (length + terminator + alignment)) / 8) }

theorem getElem?_padBytes {n i : Nat} {byte : UInt8} (h : (padBytes n)[i]? = some byte) :
    byte = if i % 2 = 0 then 0xEC else 0x11 := by
  obtain ⟨hi, rfl⟩ := List.getElem?_eq_some_iff.mp h
  simp only [padBytes, List.getElem_map, List.getElem_range]

section

variable {mode : Mode} {plan : BlockPlan} {text : List Char}

theorem bits_streamParts : (streamParts mode plan text).bits = mode.segment plan.version text
    ++ padding plan.dataBits (mode.segment plan.version text).length := by
  simp only [StreamParts.bits, streamParts, Mode.segment, padding, List.append_assoc]

theorem length_segment_eq : (mode.segment plan.version text).length
    = 4 + plan.version.countBits mode + (mode.pack (mode.values text)).length := by
  rw [Mode.segment, List.length_append, List.length_append, Bits.length_ofNat, Bits.length_ofNat]

theorem areFor_streamParts (hcount : text.length < 2 ^ plan.version.countBits mode)
    (hfits : (mode.segment plan.version text).length ≤ plan.dataBits) :
    (streamParts mode plan text).AreFor mode plan.version text.length plan.dataBits where
  length_indicator := Bits.length_ofNat _ _
  indicator_eq := Bits.toNat_ofNat_of_lt mode.indicator_lt
  length_count := Bits.length_ofNat _ _
  count_eq := Bits.toNat_ofNat_of_lt hcount
  terminator_eq := by
    rw [streamParts, length_segment_eq]
  alignment_eq := by
    simp only [streamParts, List.length_replicate]
  length_alignment := by
    simp only [streamParts, List.length_replicate]
    omega
  boundary := by
    simp only [streamParts, List.length_replicate, ← length_segment_eq]
    omega
  pads_eq := getElem?_padBytes
  length_bits := by
    rw [bits_streamParts, List.length_append, length_padding hfits (Nat.mul_mod_left _ 8)]

end

/-! ## The data of a text -/

theorem Mode.encode_eq_ok_iff {mode : Mode} {text : List Char} {payload : Bits} :
    mode.encode text = .ok payload ↔
      (∀ c ∈ text, mode.accepts c = true) ∧ mode.pack (mode.values text) = payload := by
  cases hrefused : mode.firstRefused text with
  | some c =>
      rw [encode_of_refused hrefused]
      refine iff_of_false nofun fun h => ?_
      rw [firstRefused_eq_none_iff.mpr h.1] at hrefused
      cases hrefused
  | none =>
      have haccepts := firstRefused_eq_none_iff.mp hrefused
      rw [encode_of_accepts haccepts, Except.ok.injEq, and_iff_right haccepts]

/-- The first character that the mode refuses. -/
theorem Mode.firstRefused_append {mode : Mode} {front back : List Char} {c : Char}
    (hfront : ∀ d ∈ front, mode.accepts d = true) (hc : mode.accepts c = false) :
    mode.firstRefused (front ++ c :: back) = some c := by
  rw [firstRefused, List.find?_eq_some_iff_append]
  exact ⟨by rw [hc]; rfl, front, back, rfl, fun d hd => by rw [hfront d hd]; rfl⟩

/-- What is said of a text that is written in a mode for a plan. -/
structure WritesText (plan : BlockPlan) (mode : Mode) (text : List Char) : Prop where
  /-- The first character that the mode refuses stops the writing. -/
  refused : ∀ {front back : List Char} {c : Char}, text = front ++ c :: back →
    (∀ d ∈ front, mode.accepts d = true) → mode.accepts c = false →
    dataStream text mode plan = .error (.unencodable c mode)
  /-- If there is none, the payload packs the numbers of the characters. -/
  payload_ok : (∀ c ∈ text, mode.accepts c = true) →
    ∃ values, values.map some = text.map mode.value? ∧
      mode.encode text = .ok (mode.pack values) ∧
      (mode.pack values).length = mode.payloadLength text.length
  /-- A payload that goes beyond the capacity with what is in front of it is refused. -/
  exceeds : ∀ {payload : Bits}, mode.encode text = .ok payload →
    plan.dataBits < 4 + plan.version.countBits mode + payload.length →
    dataStream text mode plan = .error
      (.tooManyBits plan.dataBits (4 + plan.version.countBits mode + payload.length))
  /-- Any other is laid out in the data codewords of the plan. -/
  fits : ∀ {payload : Bits}, mode.encode text = .ok payload →
    4 + plan.version.countBits mode + payload.length ≤ plan.dataBits →
    ∃ (bytes : List UInt8) (parts : StreamParts), dataStream text mode plan = .ok bytes ∧
      bytes.length = plan.dataCodewords ∧ Bits.ofBytes bytes = parts.bits ∧
      parts.payload = payload ∧ parts.AreFor mode plan.version text.length plan.dataBits

/-- Text whose number of characters fits the count is written for any plan. -/
theorem writesText_of_lt {plan : BlockPlan} {mode : Mode} {text : List Char}
    (hcount : text.length < 2 ^ plan.version.countBits mode) : WritesText plan mode text where
  refused := by
    rintro front back c rfl hfront hc
    exact dataStream_of_refused (Mode.firstRefused_append hfront hc)
  payload_ok := by
    intro haccepts
    refine ⟨mode.values text, Mode.map_some_values haccepts, Mode.encode_of_accepts haccepts, ?_⟩
    rw [Mode.length_pack, Mode.length_values haccepts]
  exceeds := by
    intro payload hpayload hexceeds
    obtain ⟨haccepts, rfl⟩ := Mode.encode_eq_ok_iff.mp hpayload
    rw [← length_segment_eq] at hexceeds ⊢
    exact dataStream_of_exceeds haccepts hexceeds
  fits := by
    intro payload hpayload hfits
    obtain ⟨haccepts, rfl⟩ := Mode.encode_eq_ok_iff.mp hpayload
    rw [← length_segment_eq] at hfits
    exact ⟨_, streamParts mode plan text, dataStream_of_fits haccepts hfits,
      length_dataCodewords_of_fits hfits,
      (ofBytes_dataCodewords hfits).trans bits_streamParts.symm, rfl,
      areFor_streamParts hcount hfits⟩

/-- Text that fills a plan of the standard, and text that leaves three bits of one with two
groups. -/
theorem writesText_of_lt_near_capacity :
    let full : BlockPlan := .standard ⟨1, by decide, by decide⟩ .low
    let grouped : BlockPlan := ⟨⟨1, by decide, by decide⟩, .low, [⟨2, 3, 7⟩, ⟨1, 2, 7⟩], 5⟩
    17 < 2 ^ full.version.countBits .byte ∧ 14 < 2 ^ grouped.version.countBits .numeric ∧
      WritesText full .byte (List.replicate 17 'q') ∧
      WritesText grouped .numeric (List.replicate 14 '7') :=
  ⟨by decide, by decide, writesText_of_lt (by decide), writesText_of_lt (by decide)⟩

end QrSymbol
