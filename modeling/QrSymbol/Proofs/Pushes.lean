import QrSymbol.Proofs.PayloadFields

/-!
# Pushes on a stream

Every push puts a field behind the stream, a number in a width of its own (`Push.field`).
So a run of pushes leaves the stream that it began with and all fields in order
(`afterPushes_eq`), and a field begins where the widths of those in front of it end
(`drop_pushed`).

The bytes of a stream do not show where a field ends.  They have the bits of the stream,
eight in each, and zeros behind the last (`byteBit?_toBytes`), so of the streams of one
length no two have the same bytes (`eq_of_toBytes_eq`).  Both together say what pushes on an
empty stream come to (`holdsPushes_afterPushes`).

The data codewords of a text are the bytes of such a stream (`dataStream_eq_afterPushes`).
None of the numbers pushed is too large for its width (`fits_of_mem_dataPushes`).
-/

namespace QrSymbol

namespace Bits

/-! ## Fields -/

namespace Push

/-- The field that a push puts behind a stream. -/
def field : Push → BitField
  | .number width value => ⟨width, value⟩
  | .bit value => ⟨1, value.toNat⟩
  | .byte value => ⟨8, value.toNat⟩

/-- The push of a field. -/
def ofField (field : BitField) : Push := .number field.width field.value

/-- Whether a push holds no number too large for its width. -/
def Fits : Push → Prop
  | .number width value => value < 2 ^ width
  | .bit _ | .byte _ => True

theorem fits_field {p : Push} (h : p.Fits) : p.field.Fits := by
  cases p with
  | number width value => exact h
  | bit value => exact value.toNat_lt
  | byte value => exact value.toNat_lt

end Push

/-- The bits of pushes, one after the other. -/
def pushed (pushes : List Push) : Bits := pushes.flatMap fun p => p.field.bits

/-- The number of bits of pushes. -/
def totalWidth (pushes : List Push) : Nat := (pushes.map fun p => p.field.width).sum

section

variable {stream : Bits} {pushes front back : List Push} {p : Push}

theorem push_eq (stream : Bits) (p : Push) : stream.push p = stream ++ p.field.bits := by
  cases p with
  | number width value => rfl
  | bit value => cases value <;> rfl
  | byte value => rfl

theorem afterPushes_cons : stream.afterPushes (p :: pushes) = (stream.push p).afterPushes pushes :=
  rfl

theorem pushed_nil : pushed [] = [] := rfl

theorem pushed_cons : pushed (p :: pushes) = p.field.bits ++ pushed pushes := List.flatMap_cons

theorem pushed_append : pushed (front ++ back) = pushed front ++ pushed back :=
  List.flatMap_append

/-- Pushes leave a stream as it was and put their bits behind it. -/
theorem afterPushes_eq (stream : Bits) (pushes : List Push) :
    stream.afterPushes pushes = stream ++ pushed pushes := by
  induction pushes generalizing stream with
  | nil => exact (List.append_nil stream).symm
  | cons p pushes ih => rw [afterPushes_cons, ih, push_eq, pushed_cons, List.append_assoc]

theorem length_pushed (pushes : List Push) : (pushed pushes).length = totalWidth pushes := by
  induction pushes with
  | nil => rfl
  | cons p pushes ih =>
      rw [pushed_cons, List.length_append, BitField.length_bits, ih, totalWidth, totalWidth,
        List.map_cons, List.sum_cons]

/-- A push stands behind those in front of it. -/
theorem drop_pushed :
    (pushed (front ++ p :: back)).drop (totalWidth front) = p.field.bits ++ pushed back := by
  rw [pushed_append, pushed_cons]
  exact List.drop_left' (length_pushed front)

/-- It stands there from its highest bit to its lowest. -/
theorem getElem?_pushed {j : Nat} (hj : j < p.field.width) :
    (pushed (front ++ p :: back))[totalWidth front + j]?
      = some (p.field.value.testBit (p.field.width - 1 - j)) := by
  rw [← List.getElem?_drop, drop_pushed,
    List.getElem?_append_left (by rwa [BitField.length_bits]), BitField.bits, getElem?_ofNat hj]

/-- Its number is read back from there. -/
theorem toNat_pushed (h : p.Fits) :
    toNat (((pushed (front ++ p :: back)).drop (totalWidth front)).take p.field.width)
      = p.field.value := by
  rw [drop_pushed]
  exact toNat_take_append (Push.fits_field h) (pushed back)

/-- Fields are pushed as they are written. -/
theorem pushed_map_ofField (fields : List BitField) :
    pushed (fields.map Push.ofField) = fields.flatMap BitField.bits := by
  rw [pushed, List.flatMap_map]
  rfl

/-- Bytes are pushed with all their bits. -/
theorem pushed_map_byte (bytes : List UInt8) : pushed (bytes.map Push.byte) = ofBytes bytes := by
  rw [pushed, List.flatMap_map]
  rfl

end

/-! ## Bits of bytes -/

/-- Bit number `i` of some bytes, each counted from its highest bit to its lowest. -/
def byteBit? (bytes : List UInt8) (i : Nat) : Option Bool :=
  bytes[i / 8]?.map fun byte => byte.toNat.testBit (7 - i % 8)

theorem byteBit?_eq (bytes : List UInt8) (i : Nat) : byteBit? bytes i = (ofBytes bytes)[i]? := by
  have hbit : (ofBytes bytes)[8 * (i / 8) + i % 8]? = byteBit? bytes i :=
    getElem?_ofBytes (Nat.mod_lt i (by decide))
  rw [← hbit, Nat.div_add_mod]

section

variable {stream other : Bits} {i : Nat}

/-- The bits of the bytes are those of the stream, with zeros behind them. -/
theorem byteBit?_toBytes :
    byteBit? (toBytes stream) i = (stream ++ fill stream.length)[i]? := by
  rw [byteBit?_eq, ofBytes_toBytes]

theorem byteBit?_toBytes_of_lt (h : i < stream.length) :
    byteBit? (toBytes stream) i = stream[i]? := by
  rw [byteBit?_toBytes, List.getElem?_append_left h]

theorem byteBit?_toBytes_of_le (hle : stream.length ≤ i) (hlt : i < 8 * (toBytes stream).length) :
    byteBit? (toBytes stream) i = some false := by
  have hfill : i - stream.length < (8 - stream.length % 8) % 8 := by
    rw [length_toBytes] at hlt
    omega
  rw [byteBit?_toBytes, List.getElem?_append_right hle, fill, List.getElem?_replicate,
    if_pos hfill]

/-- Streams of one length with the same bytes are the same. -/
theorem eq_of_toBytes_eq (hbytes : toBytes other = toBytes stream)
    (hlength : other.length = stream.length) : other = stream := by
  have hbits := congrArg ofBytes hbytes
  rw [ofBytes_toBytes, ofBytes_toBytes] at hbits
  exact List.append_inj_left hbits hlength

end

/-! ## Runs of pushes -/

/-- What pushes on an empty stream make of it and of its bytes. -/
structure HoldsPushes (stream : Bits) (pushes : List Push) : Prop where
  /-- It is as long as the pushes are wide together. -/
  length_eq : stream.length = totalWidth pushes
  /-- Each push stands where the widths of those in front of it end, from its highest bit to
  its lowest. -/
  bit_eq : ∀ {front back : List Push} {p : Push} {j : Nat}, pushes = front ++ p :: back →
    j < p.field.width →
    stream[totalWidth front + j]? = some (p.field.value.testBit (p.field.width - 1 - j))
  /-- Its number is read back from there, unless it is too large for its width. -/
  read_eq : ∀ {front back : List Push} {p : Push}, pushes = front ++ p :: back → p.Fits →
    toNat ((stream.drop (totalWidth front)).take p.field.width) = p.field.value
  /-- There are as many bytes as the stream fills or begins. -/
  length_toBytes : (toBytes stream).length = (stream.length + 7) / 8
  /-- The bits of the stream are those of the bytes. -/
  byteBit_eq : ∀ {i : Nat}, i < stream.length → byteBit? (toBytes stream) i = stream[i]?
  /-- The rest of the last byte is zeros. -/
  byteBit_fill : ∀ {i : Nat}, stream.length ≤ i → i < 8 * (toBytes stream).length →
    byteBit? (toBytes stream) i = some false
  /-- No other stream of the same length has the same bytes. -/
  unique : ∀ {other : Bits}, toBytes other = toBytes stream → other.length = stream.length →
    other = stream
  /-- Bytes come back if nothing else was pushed. -/
  bytes_eq : ∀ {bytes : List UInt8}, pushes = bytes.map Push.byte → toBytes stream = bytes

/-- A stream holds what was pushed on it, and so do its bytes. -/
theorem holdsPushes_afterPushes (pushes : List Push) :
    HoldsPushes (afterPushes [] pushes) pushes := by
  rw [afterPushes_eq, List.nil_append]
  exact {
    length_eq := length_pushed pushes
    bit_eq := by
      rintro front back p j rfl hj
      exact getElem?_pushed hj
    read_eq := by
      rintro front back p rfl hfits
      exact toNat_pushed hfits
    length_toBytes := Bits.length_toBytes (pushed pushes)
    byteBit_eq := byteBit?_toBytes_of_lt
    byteBit_fill := byteBit?_toBytes_of_le
    unique := eq_of_toBytes_eq
    bytes_eq := by
      rintro bytes rfl
      rw [pushed_map_byte, toBytes_ofBytes] }

/-- A byte that straddles two. -/
example : toBytes (afterPushes [] [.number 3 5, .byte 0xFF, .bit true]) = [0xBF, 0xF0] := by decide

end Bits

/-! ## The data of a text -/

/-- The pushes of a text's data: the mode indicator, the character count and the fields of
the characters, then the terminator, the alignment and the padding bytes. -/
def dataPushes (mode : Mode) (plan : BlockPlan) (text : List Char) : List Bits.Push :=
  let parts := streamParts mode plan text
  [.number 4 mode.indicator, .number (plan.version.countBits mode) text.length]
    ++ (mode.fields (mode.values text)).map Bits.Push.ofField
    ++ [.number parts.terminator.length 0, .number parts.alignment.length 0]
    ++ parts.pads.map Bits.Push.byte

section

variable {mode : Mode} {plan : BlockPlan} {text : List Char}

theorem pushed_dataPushes :
    Bits.pushed (dataPushes mode plan text) = (streamParts mode plan text).bits := by
  simp only [dataPushes, Bits.pushed_append, Bits.pushed_cons, Bits.pushed_nil,
    Bits.pushed_map_ofField, Bits.pushed_map_byte, Bits.Push.field, BitField.bits, ← Mode.pack_eq,
    Bits.ofNat_zero_right, StreamParts.bits, streamParts, List.length_replicate, List.append_nil,
    List.append_assoc]

/-- A text that the mode accepts and the plan holds becomes the bytes that its pushes
leave. -/
theorem dataStream_eq_afterPushes (haccepts : ∀ c ∈ text, mode.accepts c = true)
    (hfits : (mode.segment plan.version text).length ≤ plan.dataBits) :
    dataStream text mode plan
      = .ok (Bits.toBytes (Bits.afterPushes [] (dataPushes mode plan text))) := by
  rw [dataStream_of_fits haccepts hfits, dataCodewords, ← bits_streamParts, ← pushed_dataPushes,
    Bits.afterPushes_eq, List.nil_append]

/-- No push of a text that the mode accepts has a number too large for its width. -/
theorem fits_of_mem_dataPushes (haccepts : ∀ c ∈ text, mode.accepts c = true)
    (hcount : text.length < 2 ^ plan.version.countBits mode) :
    ∀ p ∈ dataPushes mode plan text, p.Fits := by
  intro p hp
  simp only [dataPushes, List.mem_append, List.mem_cons, List.not_mem_nil, or_false,
    List.mem_map] at hp
  rcases hp with (((rfl | rfl) | ⟨field, hfield, rfl⟩) | (rfl | rfl)) | ⟨byte, -, rfl⟩
  · exact mode.indicator_lt
  · exact hcount
  · exact Mode.fits_of_mem_fields (Mode.inRange_of_mem_values haccepts) field hfield
  · exact Nat.two_pow_pos _
  · exact Nat.two_pow_pos _
  · exact trivial

end

end QrSymbol
