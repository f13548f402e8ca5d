import QrSymbol.Bits
import QrSymbol.Charset
import QrSymbol.EncodeError

/-!
# Payloads

The payload is the text itself as bits.  A mode turns its characters into
numbers (`Mode.value?`) and packs the numbers (`Mode.pack`): digits three to ten
bits, alphanumeric characters two to eleven bits, bytes in eight bits and kanji
in thirteen.  A group cut short at the end of the text takes fewer bits.  So the
length of a payload depends on the number of characters alone (`length_pack`).

A text may hold a character that the mode refuses.  The two modes that pack in
groups read the whole text before they write, so they then write nothing.  The
other two write character by character and stop at the refused one.  A
`Payload` holds both what was written and what was refused.
-/

namespace QrSymbol

/-! ## Packing numbers -/

/-- Digits in groups of three, two or one. -/
def packDigits : List Nat → Bits
  | a :: b :: c :: digits => Bits.ofNat 10 (100 * a + 10 * b + c) ++ packDigits digits
  | [a, b] => Bits.ofNat 7 (10 * a + b)
  | [a] => Bits.ofNat 4 a
  | [] => []

/-- Alphanumeric values in pairs, the last one alone if it has to be. -/
def packPairs : List Nat → Bits
  | a :: b :: values => Bits.ofNat 11 (45 * a + b) ++ packPairs values
  | [a] => Bits.ofNat 6 a
  | [] => []

/-- The numbers of a text's characters as bits. -/
def Mode.pack : Mode → List Nat → Bits
  | .numeric, values => packDigits values
  | .alphanumeric, values => packPairs values
  | .byte, values => values.flatMap (Bits.ofNat 8)
  | .kanji, values => values.flatMap fun code => Bits.ofNat 13 (Kanji.compact code)

/-- The number of bits that `n` characters take. -/
def Mode.payloadLength : Mode → Nat → Nat
  | .numeric, n => n / 3 * 10 + (if n % 3 = 0 then 0 else if n % 3 = 1 then 4 else 7)
  | .alphanumeric, n => n / 2 * 11 + n % 2 * 6
  | .byte, n => n * 8
  | .kanji, n => n * 13

theorem length_packDigits (digits : List Nat) :
    (packDigits digits).length = Mode.numeric.payloadLength digits.length := by
  fun_induction packDigits digits with
  | case1 a b c digits ih =>
      simp only [List.length_append, Bits.length_ofNat, ih, Mode.payloadLength, List.length_cons]
      have hdiv : (digits.length + 1 + 1 + 1) / 3 = digits.length / 3 + 1 := by omega
      have hmod : (digits.length + 1 + 1 + 1) % 3 = digits.length % 3 := by omega
      simp only [hdiv, hmod]
      omega
  | case2 a b => simp [Mode.payloadLength]
  | case3 a => simp [Mode.payloadLength]
  | case4 => rfl

theorem length_packPairs (values : List Nat) :
    (packPairs values).length = Mode.alphanumeric.payloadLength values.length := by
  fun_induction packPairs values with
  | case1 a b values ih =>
      simp only [List.length_append, Bits.length_ofNat, ih, Mode.payloadLength, List.length_cons]
      omega
  | case2 a => simp [Mode.payloadLength]
  | case3 => rfl

/-- The length of a payload depends on the number of characters alone. -/
theorem Mode.length_pack (mode : Mode) (values : List Nat) :
    (mode.pack values).length = mode.payloadLength values.length := by
  cases mode with
  | numeric => exact length_packDigits values
  | alphanumeric => exact length_packPairs values
  | byte =>
      induction values with
      | nil => rfl
      | cons value values ih => simp_all [pack, payloadLength]; omega
  | kanji =>
      induction values with
      | nil => rfl
      | cons value values ih => simp_all [pack, payloadLength]; omega

/-! ## Reading characters -/

/-- The numbers of the characters before the first that a mode refuses. -/
def Mode.values (mode : Mode) : List Char → List Nat
  | [] => []
  | c :: text =>
      match mode.value? c with
      | some value => value :: mode.values text
      | none => []

/-- The first character that a mode refuses. -/
def Mode.firstRefused (mode : Mode) (text : List Char) : Option Char :=
  text.find? fun c => !mode.accepts c

theorem Mode.firstRefused_eq_none_iff {mode : Mode} {text : List Char} :
    mode.firstRefused text = none ↔ ∀ c ∈ text, mode.accepts c = true := by
  simp [firstRefused]

/-- A text that a mode accepts as a whole has a number for every character. -/
theorem Mode.length_values {mode : Mode} {text : List Char}
    (h : ∀ c ∈ text, mode.accepts c = true) : (mode.values text).length = text.length := by
  induction text with
  | nil => rfl
  | cons c text ih =>
      have hc := h c List.mem_cons_self
      rw [accepts, Option.isSome_iff_exists] at hc
      obtain ⟨value, hvalue⟩ := hc
      simp only [values, hvalue, List.length_cons]
      rw [ih fun d hd => h d (List.mem_cons_of_mem _ hd)]

/-! ## Payloads -/

/-- Whether a mode reads the whole text before it writes. -/
def Mode.readsAhead : Mode → Bool
  | .numeric | .alphanumeric => true
  | .byte | .kanji => false

/-- What writing a text in a mode leaves behind. -/
structure Payload where
  /-- The bits written. -/
  bits : Bits
  /-- The character that stopped the writing. -/
  refused : Option Char

/-- The payload of a text in a mode. -/
def Payload.ofText (mode : Mode) (text : List Char) : Payload :=
  let refused := mode.firstRefused text
  let values := if mode.readsAhead && refused.isSome then [] else mode.values text
  { bits := mode.pack values, refused }

/-- What writing a text behind a stream leaves of the stream, and the error if the mode
refuses a character. -/
def Mode.writeTo (mode : Mode) (stream : Bits) (text : List Char) :
    Bits × Except EncodeError Unit :=
  let payload := Payload.ofText mode text
  (stream ++ payload.bits,
    match payload.refused with
    | some c => .error (.unencodable c mode)
    | none => .ok ())

/-- The bits of a text that a mode accepts as a whole. -/
def Mode.encode (mode : Mode) (text : List Char) : Except EncodeError Bits :=
  let payload := Payload.ofText mode text
  match payload.refused with
  | some c => .error (.unencodable c mode)
  | none => .ok payload.bits

/-- A text that a mode accepts as a whole is encoded. -/
theorem Mode.encode_of_accepts {mode : Mode} {text : List Char}
    (h : ∀ c ∈ text, mode.accepts c = true) :
    mode.encode text = .ok (mode.pack (mode.values text)) := by
  have hnone := firstRefused_eq_none_iff.mpr h
  simp [encode, Payload.ofText, hnone]

end QrSymbol
