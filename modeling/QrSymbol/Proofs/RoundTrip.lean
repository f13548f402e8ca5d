import QrSymbol.Proofs.SymbolLayout
import QrSymbol.Proofs.Unpacking

/-!
# Reading a symbol back

The grid of a symbol says what was encoded, and nothing but the grid is needed.  The
reader takes every step of the encoding back, the last one first.  The side gives the
version and the format information the level and the mask.  The mask takes itself back
on the free cells, where the information words are not written
(`dataBits_masked_finishedGrid`).  The stream is deinterleaved into the blocks of data
(`deinterleave_streamBits`), and these are the segment of the text and its padding
(`ofBytes_dataCodewords`).

What is read is the mode, the number of characters and the text; of a text in kanji
mode it is the codes of its characters (`read_of_encode`).
-/

namespace QrSymbol

/-! ## From the grid to the stream -/

theorem Version.ofNat?_of_side (v : Version) : ofNat? ((v.side - 17) / 4) = some v := by
  have hnumber : (v.side - 17) / 4 = v.number := by
    rw [side]
    omega
  rw [hnumber, ofNat?_number]

/-- With the mask taken back, the free cells hold the bits of the symbol. -/
theorem dataBits_masked_finishedGrid {v : Version} {info : FormatInformation} {bits : Bits}
    (hlen : bits.length = v.dataModules) :
    Grid.dataBits (Grid.masked (finishedGrid v info bits) info.mask) v = bits := by
  calc Grid.dataBits (Grid.masked (finishedGrid v info bits) info.mask) v
      = Grid.dataBits (filledGrid v bits) v := by
        refine Grid.dataBits_congr fun x y hkind => ?_
        rw [Grid.get?_masked, get?_finishedGrid_of_data hlen hkind, ← Grid.get?_masked,
          Grid.masked_masked]
    _ = bits := dataBits_filledGrid hlen

/-! ## From the stream to the data -/

/-- The stream without its remainder is deinterleaved into the blocks of data. -/
theorem deinterleave_streamBits {plan : BlockPlan} {data : List UInt8}
    (h : data.length = plan.dataCodewords) :
    (deinterleave plan.blockSizes
      (Bits.toBytes ((plan.streamBits data).take (plan.codewords * 8)))).flatten = data := by
  have htake : (plan.streamBits data).take (plan.codewords * 8) = Bits.ofBytes
      (interleave (plan.dataBlocks data) ++ interleave (plan.correctionBlocks data)) := by
    rw [BlockPlan.streamBits]
    refine List.take_left' ?_
    rw [Bits.length_ofBytes, BlockPlan.length_codewords h]
  rw [htake, Bits.toBytes_ofBytes, ← BlockPlan.map_length_dataBlocks h, deinterleave_interleave,
    BlockPlan.flatten_dataBlocks h]

/-! ## From the data to the text -/

/-- The content of a text in a mode, as a reader finds it. -/
theorem content_eq {mode : Mode} {text : List Char} (h : ∀ c ∈ text, mode.accepts c = true) :
    (mode ≠ .kanji → mode.content (mode.values text) = .characters text) ∧
    (mode = .kanji → ∃ codes, mode.content (mode.values text) = .codes codes ∧
      codes.map some = text.map Kanji.code?) := by
  refine ⟨fun hmode => Mode.content_values hmode h, ?_⟩
  rintro rfl
  exact ⟨Mode.kanji.values text, rfl, Mode.map_some_values h⟩

/-- The grid of the symbol of a text is read back. -/
theorem read_ofText {text : String} {mode : Mode} {v : Version} {options : Options}
    (haccepts : ∀ c ∈ text.toList, mode.accepts c = true)
    (hlen : text.toList.length ≤ v.capacity options.level mode) :
    (Symbol.ofText text mode v options).grid.read
      = some ⟨mode, text.toList.length, mode.content (mode.values text.toList)⟩ := by
  have hdata := length_dataCodewords haccepts hlen
  have hbits := BlockPlan.length_streamBits hdata
  have hcount := Nat.lt_of_le_of_lt hlen (v.capacity_lt options.level mode)
  have hfits : (mode.segment (BlockPlan.standard v options.level).version text.toList).length ≤ _ :=
    length_segment_le haccepts hlen
  rw [Symbol.grid_ofText, Grid.read, (finished_finishedGrid hbits).side_eq]
  show (Version.ofNat? ((v.side - 17) / 4) >>= _) = _
  rw [v.ofNat?_of_side]
  show (FormatInformation.read _ >>= _) = _
  rw [(finished_finishedGrid hbits).read_eq]
  show Reading.ofBits v _ = _
  rw [dataBits_masked_finishedGrid hbits, deinterleave_streamBits hdata,
    ofBytes_dataCodewords hfits]
  exact Reading.ofBits_segment haccepts hcount _

/-- What is read off the grid of a symbol is its mode, the number of characters of
the text and the text itself, or the codes of its characters in kanji mode. -/
theorem read_of_encode {text : String} {options : Options} {s : Symbol}
    (h : encode text options = .ok s) :
    ∃ content, s.grid.read = some ⟨s.mode, text.toList.length, content⟩ ∧
      (s.mode ≠ .kanji → content = .characters text.toList) ∧
      (s.mode = .kanji → ∃ codes, content = .codes codes ∧
        codes.map some = text.toList.map Kanji.code?) := by
  obtain ⟨mode, v, haccepts, hlen, rfl⟩ := eq_ofText_of_encode h
  exact ⟨_, read_ofText haccepts hlen, content_eq haccepts⟩

/-- A text in two groups of blocks. -/
theorem read_of_encode_latin :
    let options : Options := ⟨none, .quartile, some ⟨5, by decide, by decide⟩, none⟩
    ∃ s, encode "Grüße, 10:30" options = .ok s ∧
      ∃ content, s.grid.read = some ⟨s.mode, 12, content⟩ ∧
        (s.mode ≠ .kanji → content = .characters "Grüße, 10:30".toList) ∧
        (s.mode = .kanji → ∃ codes, content = .codes codes ∧
          codes.map some = "Grüße, 10:30".toList.map Kanji.code?) := by
  have hnone : encodeFailure "Grüße, 10:30"
      ⟨none, .quartile, some ⟨5, by decide, by decide⟩, none⟩ = none := by decide +kernel
  obtain ⟨s, hs⟩ := exists_encode_eq_ok hnone
  exact ⟨s, hs, read_of_encode hs⟩

end QrSymbol
