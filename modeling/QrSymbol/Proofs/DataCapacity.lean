import QrSymbol.DataStream
import QrSymbol.Proofs.BitNumbers
import QrSymbol.Proofs.CodewordStream

/-!
# What a version holds

The data stream of a text exists if its segment fits the plan.  Then the padding fills
the plan with whole bytes (`dataStream_of_fits`, `ofBytes_dataCodewords`).

A text no longer than the capacity of a version fits the plans of the standard: the
closed form of the capacity is the inverse of the length of a payload
(`Mode.payloadLength_le_iff`).  So its data stream is exactly as long as the plan wants
it (`dataStream_eq`, `length_dataCodewords`), and the symbol's bits are exactly as many
as the version has data modules (`symbolBits_eq`, `length_streamBits`).

Capacities only grow with the version.  The largest version decides whether a text
is encoded at all (`choosePlan_of_le`, `choosePlan_of_lt`).
-/

namespace QrSymbol

/-! ## The tables -/

/-- The codewords and the remainder of a standard plan fill the data modules. -/
theorem BlockPlan.standard_fills : ∀ (v : Version) (level : Level),
    (standard v level).codewords * 8 + (standard v level).remainderBits = v.dataModules := by
  decide +kernel

namespace Version

theorem headerBits_le_dataBits : ∀ (v : Version) (level : Level) (mode : Mode),
    v.headerBits mode ≤ (BlockPlan.standard v level).dataBits := by decide +kernel

/-- No version holds more than the largest. -/
theorem capacity_le_greatest : ∀ (v : Version) (level : Level) (mode : Mode),
    v.capacity level mode ≤ greatest.capacity level mode := by decide +kernel

/-- The character count of a text that a version holds fits its field. -/
theorem capacity_lt : ∀ (v : Version) (level : Level) (mode : Mode),
    v.capacity level mode < 2 ^ v.countBits mode := by decide +kernel

end Version

/-! ## The version of a text -/

/-- A text that the largest version holds gets a version that holds it. -/
theorem choosePlan_of_le {length : Nat} {mode : Mode} {level : Level}
    (h : length ≤ Version.greatest.capacity level mode) (floor : Option Version) :
    ∃ v : Version, choosePlan length mode level floor = .ok (.standard v level) ∧
      length ≤ v.capacity level mode := by
  have hsome : ((floor.getD .least).upward.find?
      fun v => decide (length ≤ v.capacity level mode)).isSome := by
    rw [List.find?_isSome]
    exact ⟨.greatest, Version.mem_upward.mpr (floor.getD .least).le_forty, decide_eq_true h⟩
  obtain ⟨v, hv⟩ := Option.isSome_iff_exists.mp hsome
  have hholds :=
    List.find?_some (p := fun v : Version => decide (length ≤ v.capacity level mode)) hv
  refine ⟨v, ?_, of_decide_eq_true hholds⟩
  rw [choosePlan]
  simp only [hv]

/-- A text that the largest version does not hold gets none, whatever the floor. -/
theorem choosePlan_of_lt {length : Nat} {mode : Mode} {level : Level} {floor : Option Version}
    (h : Version.greatest.capacity level mode < length) :
    choosePlan length mode level floor = .error (.textTooLong length mode level) := by
  have hnone : (floor.getD .least).upward.find?
      (fun v => decide (length ≤ v.capacity level mode)) = none := by
    rw [List.find?_eq_none]
    intro v _ hv
    have hle := (of_decide_eq_true hv).trans (v.capacity_le_greatest level mode)
    exact absurd h (Nat.not_lt_of_le hle)
  rw [choosePlan]
  simp only [hnone]

/-! ## Characters and bits -/

/-- Characters fit a number of bits exactly if they are no more than the closed form. -/
theorem Mode.payloadLength_le_iff {mode : Mode} {n bits : Nat} :
    mode.payloadLength n ≤ bits ↔ n ≤ mode.charactersIn bits := by
  cases mode with
  | numeric =>
      simp only [payloadLength, charactersIn]
      split_ifs <;> omega
  | alphanumeric =>
      simp only [payloadLength, charactersIn]
      split_ifs <;> omega
  | byte =>
      simp only [payloadLength, charactersIn]
      omega
  | kanji =>
      simp only [payloadLength, charactersIn]
      omega

/-- Behind the header, a segment fits exactly if its characters are no more than the
closed form. -/
theorem le_maxCharacters_iff {mode : Mode} {v : Version} {dataBits n : Nat}
    (h : v.headerBits mode ≤ dataBits) :
    n ≤ maxCharacters mode v dataBits ↔
      v.headerBits mode + mode.payloadLength n ≤ dataBits := by
  rw [maxCharacters, if_neg (Nat.not_lt_of_le h), ← Mode.payloadLength_le_iff]
  omega

theorem Version.le_capacity_iff {v : Version} {level : Level} {mode : Mode} {n : Nat} :
    n ≤ v.capacity level mode ↔
      v.headerBits mode + mode.payloadLength n ≤ (BlockPlan.standard v level).dataBits :=
  le_maxCharacters_iff (v.headerBits_le_dataBits level mode)

/-! ## The data stream -/

/-- The bits of a text that the mode accepts, before any padding. -/
def Mode.segment (mode : Mode) (version : Version) (text : List Char) : Bits :=
  Bits.ofNat 4 mode.indicator ++ Bits.ofNat (version.countBits mode) text.length
    ++ mode.pack (mode.values text)

theorem segmentBits_eq {text : List Char} {mode : Mode} {version : Version}
    (h : ∀ c ∈ text, mode.accepts c = true) :
    segmentBits text mode version = .ok (mode.segment version text) := by
  rw [segmentBits, Mode.encode_of_accepts h]
  rfl

theorem Mode.length_segment {mode : Mode} {version : Version} {text : List Char}
    (h : ∀ c ∈ text, mode.accepts c = true) :
    (mode.segment version text).length
      = version.headerBits mode + mode.payloadLength text.length := by
  rw [segment, List.length_append, List.length_append, Bits.length_ofNat, Bits.length_ofNat,
    length_pack, length_values h, Version.headerBits]

/-- The padding fills a capacity of whole bytes. -/
theorem length_padding {capacity length : Nat} (h : length ≤ capacity) (hbytes : capacity % 8 = 0) :
    length + (padding capacity length).length = capacity := by
  simp only [padding, List.length_append, List.length_replicate, Bits.length_ofBytes, padBytes,
    List.length_map, List.length_range]
  omega

/-- The data codewords of a text that the mode accepts and the plan holds. -/
def dataCodewords (mode : Mode) (plan : BlockPlan) (text : List Char) : List UInt8 :=
  Bits.toBytes (mode.segment plan.version text
    ++ padding plan.dataBits (mode.segment plan.version text).length)

section

variable {text : List Char} {mode : Mode} {plan : BlockPlan}

/-- A text that the mode accepts and the plan holds becomes data codewords. -/
theorem dataStream_of_fits (haccepts : ∀ c ∈ text, mode.accepts c = true)
    (hfits : (mode.segment plan.version text).length ≤ plan.dataBits) :
    dataStream text mode plan = .ok (dataCodewords mode plan text) := by
  rw [dataStream, segmentBits_eq haccepts]
  exact if_neg (Nat.not_lt_of_le hfits)

/-- One that the plan does not hold is refused. -/
theorem dataStream_of_exceeds (haccepts : ∀ c ∈ text, mode.accepts c = true)
    (hexceeds : plan.dataBits < (mode.segment plan.version text).length) :
    dataStream text mode plan
      = .error (.tooManyBits plan.dataBits (mode.segment plan.version text).length) := by
  rw [dataStream, segmentBits_eq haccepts]
  exact if_pos hexceeds

/-- The segment and its padding are whole bytes. -/
theorem ofBytes_dataCodewords (hfits : (mode.segment plan.version text).length ≤ plan.dataBits) :
    Bits.ofBytes (dataCodewords mode plan text) = mode.segment plan.version text
      ++ padding plan.dataBits (mode.segment plan.version text).length := by
  have hwhole := length_padding hfits (Nat.mul_mod_left _ 8)
  rw [dataCodewords, Bits.ofBytes_toBytes, List.length_append, hwhole, Bits.fill,
    BlockPlan.dataBits, Nat.mul_mod_left]
  exact List.append_nil _

/-- The data codewords are as many as the plan wants. -/
theorem length_dataCodewords_of_fits
    (hfits : (mode.segment plan.version text).length ≤ plan.dataBits) :
    (dataCodewords mode plan text).length = plan.dataCodewords := by
  have hlength := congrArg List.length (ofBytes_dataCodewords hfits)
  rw [Bits.length_ofBytes, List.length_append, length_padding hfits (Nat.mul_mod_left _ 8),
    BlockPlan.dataBits] at hlength
  exact Nat.eq_of_mul_eq_mul_right (by decide) hlength

end

section

variable {text : List Char} {mode : Mode} {v : Version} {level : Level}

theorem length_segment_le (haccepts : ∀ c ∈ text, mode.accepts c = true)
    (hlen : text.length ≤ v.capacity level mode) :
    (mode.segment v text).length ≤ (BlockPlan.standard v level).dataBits := by
  rw [Mode.length_segment haccepts]
  exact Version.le_capacity_iff.mp hlen

/-- A text that the mode accepts and the version holds becomes data codewords. -/
theorem dataStream_eq (haccepts : ∀ c ∈ text, mode.accepts c = true)
    (hlen : text.length ≤ v.capacity level mode) :
    dataStream text mode (.standard v level)
      = .ok (dataCodewords mode (.standard v level) text) :=
  dataStream_of_fits haccepts (length_segment_le haccepts hlen)

/-- They are as many as the standard wants. -/
theorem length_dataCodewords (haccepts : ∀ c ∈ text, mode.accepts c = true)
    (hlen : text.length ≤ v.capacity level mode) :
    (dataCodewords mode (.standard v level) text).length
      = (BlockPlan.standard v level).dataCodewords :=
  length_dataCodewords_of_fits (length_segment_le haccepts hlen)

end

theorem Mode.encode_of_refused {text : List Char} {mode : Mode} {c : Char}
    (h : mode.firstRefused text = some c) : mode.encode text = .error (.unencodable c mode) := by
  simp [encode, Payload.ofText, h]

/-- A text with a character that the mode refuses has no data stream. -/
theorem dataStream_of_refused {text : List Char} {mode : Mode} {plan : BlockPlan} {c : Char}
    (h : mode.firstRefused text = some c) :
    dataStream text mode plan = .error (.unencodable c mode) := by
  rw [dataStream, segmentBits, Mode.encode_of_refused h]
  rfl

/-! ## The bits of a symbol -/

/-- The bits of a symbol: its codewords and the remainder. -/
def BlockPlan.streamBits (plan : BlockPlan) (data : List UInt8) : Bits :=
  Bits.ofBytes (interleave (plan.dataBlocks data) ++ interleave (plan.correctionBlocks data))
    ++ List.replicate plan.remainderBits false

theorem BlockPlan.length_streamBits_eq {plan : BlockPlan} {data : List UInt8}
    (h : data.length = plan.dataCodewords) :
    (plan.streamBits data).length = plan.codewords * 8 + plan.remainderBits := by
  rw [streamBits, List.length_append, Bits.length_ofBytes, length_codewords h,
    List.length_replicate]

/-- Their number is compared with that of the data modules. -/
theorem BlockPlan.symbolBits_eq_checkCount {plan : BlockPlan} {data : List UInt8}
    (h : data.length = plan.dataCodewords) :
    plan.symbolBits data = EncodeError.checkCount plan.version.dataModules
      (plan.codewords * 8 + plan.remainderBits) >>= fun _ => pure (plan.streamBits data) := by
  rw [symbolBits, symbolCodewords_eq h, ← length_streamBits_eq h]
  rfl

/-- In a standard plan they are as many as the version has data modules. -/
theorem BlockPlan.length_streamBits {v : Version} {level : Level} {data : List UInt8}
    (h : data.length = (standard v level).dataCodewords) :
    ((standard v level).streamBits data).length = v.dataModules :=
  (length_streamBits_eq h).trans (standard_fills v level)

theorem BlockPlan.symbolBits_eq {v : Version} {level : Level} {data : List UInt8}
    (h : data.length = (standard v level).dataCodewords) :
    (standard v level).symbolBits data = .ok ((standard v level).streamBits data) := by
  rw [symbolBits_eq_checkCount h]
  exact EncodeError.checkCount_bind_eq_ok_iff.mpr ⟨standard_fills v level, rfl⟩

end QrSymbol
