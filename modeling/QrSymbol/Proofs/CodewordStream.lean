import QrSymbol.Proofs.BlockDistance
import QrSymbol.Proofs.Interleaving

/-!
# The stream of codewords

The blocks of a plan have the sizes that its groups say (`map_length_dataBlocks`),
so the streams of two sequences of data codewords have one shape.  They differ
where the blocks differ, and a block that differs in its data differs in more
codewords than it has error correction codewords (`lt_differences_block`).  Summed
over the blocks, that is the strength of the error correction of a whole symbol
(`differences_symbolCodewords`).

The distance of a block needs that it fits the field: data and correction
together have no more than 255 codewords.  All plans of the standard do
(`fitsField_of_mem_standardTable`).
-/

namespace QrSymbol

/-- The blocks are the list again if the sizes add up to its length. -/
theorem flatten_splitBlocks {α : Type} {sizes : List Nat} {data : List α}
    (h : data.length = sizes.sum) : (splitBlocks sizes data).flatten = data := by
  induction sizes generalizing data with
  | nil => exact (List.eq_nil_of_length_eq_zero h).symm
  | cons size sizes ih =>
      rw [List.sum_cons] at h
      rw [splitBlocks, List.flatten_cons, ih (by rw [List.length_drop]; omega),
        List.take_append_drop]

/-- The blocks have the given sizes if the sizes add up to the length of the list. -/
theorem map_length_splitBlocks {α : Type} {sizes : List Nat} {data : List α}
    (h : data.length = sizes.sum) : (splitBlocks sizes data).map List.length = sizes := by
  induction sizes generalizing data with
  | nil => rfl
  | cons size sizes ih =>
      rw [List.sum_cons] at h
      rw [splitBlocks, List.map_cons, List.length_take, ih (by rw [List.length_drop]; omega),
        Nat.min_eq_left (by omega)]

namespace BlockPlan

/-! ## The blocks of a plan -/

theorem dataCodewords_eq_sum (plan : BlockPlan) :
    plan.dataCodewords = (plan.groups.map fun g => g.count * g.dataPerBlock).sum := by
  rw [dataCodewords, List.sum_eq_foldr, List.foldr_map]

theorem blockCount_eq_sum (plan : BlockPlan) :
    plan.blockCount = (plan.groups.map (·.count)).sum := by
  rw [blockCount, List.sum_eq_foldr, List.foldr_map]

theorem sum_blockSizes (plan : BlockPlan) : plan.blockSizes.sum = plan.dataCodewords := by
  simp [blockSizes, dataCodewords_eq_sum, List.flatMap, List.sum_flatten, Function.comp_def]

theorem length_blockSizes (plan : BlockPlan) : plan.blockSizes.length = plan.blockCount := by
  simp [blockSizes, blockCount_eq_sum, List.length_flatMap]

theorem map_length_dataBlocks {plan : BlockPlan} {data : List UInt8}
    (h : data.length = plan.dataCodewords) :
    (plan.dataBlocks data).map List.length = plan.blockSizes :=
  map_length_splitBlocks (h.trans plan.sum_blockSizes.symm)

theorem flatten_dataBlocks {plan : BlockPlan} {data : List UInt8}
    (h : data.length = plan.dataCodewords) : (plan.dataBlocks data).flatten = data :=
  flatten_splitBlocks (h.trans plan.sum_blockSizes.symm)

/-- The stream lists the data and then the correction. -/
theorem symbolCodewords_eq_ok_iff {plan : BlockPlan} {data codewords : List UInt8} :
    plan.symbolCodewords data = .ok codewords ↔ data.length = plan.dataCodewords ∧
      interleave (plan.dataBlocks data) ++ interleave (plan.correctionBlocks data)
        = codewords := by
  rw [symbolCodewords, EncodeError.checkCount_bind_eq_ok_iff, Nat.mul_left_inj (by decide)]

theorem symbolCodewords_eq {plan : BlockPlan} {data : List UInt8}
    (h : data.length = plan.dataCodewords) :
    plan.symbolCodewords data
      = .ok (interleave (plan.dataBlocks data) ++ interleave (plan.correctionBlocks data)) :=
  symbolCodewords_eq_ok_iff.mpr ⟨h, rfl⟩

/-- Every block has the same number of correction codewords. -/
theorem map_length_correctionBlocks (plan : BlockPlan) (data : List UInt8) :
    (plan.correctionBlocks data).map List.length
      = List.replicate plan.blockCount plan.correctionPerBlock := by
  rw [correctionBlocks, List.map_map, ← length_blockSizes, dataBlocks,
    ← length_splitBlocks plan.blockSizes data, ← List.map_const']
  refine List.map_congr_left fun block _ => ?_
  exact ReedSolomon.length_correction _ _

/-- The stream holds all codewords of the plan. -/
theorem length_codewords {plan : BlockPlan} {data : List UInt8}
    (h : data.length = plan.dataCodewords) :
    (interleave (plan.dataBlocks data) ++ interleave (plan.correctionBlocks data)).length
      = plan.codewords := by
  rw [List.length_append, length_interleave, length_interleave, map_length_dataBlocks h,
    map_length_correctionBlocks, sum_blockSizes, List.sum_replicate, codewords]
  rfl

/-! ## Plans that fit the field -/

/-- Whether every block of a plan has no more codewords than the field has
elements other than zero. -/
def FitsField (plan : BlockPlan) : Prop :=
  ∀ g ∈ plan.groups, g.dataPerBlock + plan.correctionPerBlock ≤ 255

instance (plan : BlockPlan) : Decidable plan.FitsField :=
  inferInstanceAs (Decidable (∀ g ∈ plan.groups, _))

theorem fitsField_standard : ∀ (version : Version) (level : Level),
    (standard version level).FitsField := by decide +kernel

/-- The table holds the plans of all versions at all levels. -/
theorem mem_standardTable {plan : BlockPlan} :
    plan ∈ standardTable ↔ ∃ version level, standard version level = plan := by
  constructor
  · intro h
    obtain ⟨version, -, h⟩ := List.mem_flatMap.mp h
    obtain ⟨level, -, h⟩ := List.mem_map.mp h
    exact ⟨version, level, h⟩
  · rintro ⟨version, level, rfl⟩
    exact List.mem_flatMap.mpr ⟨version, version.mem_all, List.mem_map_of_mem level.mem_all⟩

theorem fitsField_of_mem_standardTable {plan : BlockPlan} (h : plan ∈ standardTable) :
    plan.FitsField := by
  obtain ⟨version, level, rfl⟩ := mem_standardTable.mp h
  exact fitsField_standard version level

theorem FitsField.length_dataBlock {plan : BlockPlan} (hfits : plan.FitsField)
    {data block : List UInt8} (hlen : data.length = plan.dataCodewords)
    (hblock : block ∈ plan.dataBlocks data) :
    block.length + plan.correctionPerBlock ≤ 255 := by
  have hsize : block.length ∈ plan.blockSizes := by
    rw [← map_length_dataBlocks hlen]
    exact List.mem_map_of_mem hblock
  obtain ⟨g, hg, hsize⟩ := List.mem_flatMap.mp hsize
  rw [List.eq_of_mem_replicate hsize]
  exact hfits g hg

/-! ## The distance of two streams -/

/-- Over blocks of the same sizes, each block that differs counts for one place
more than there are correction codewords. -/
theorem mul_differences_le_sum {degree : Nat} {a b : List (List UInt8)} (h : SameSizes a b)
    (hshort : ∀ block ∈ a, block.length + degree ≤ 255) :
    (degree + 1) * differences a b ≤ (List.zipWith differences a b).sum
      + (List.zipWith differences (a.map (ReedSolomon.correction (ReedSolomon.generator degree)))
          (b.map (ReedSolomon.correction (ReedSolomon.generator degree)))).sum := by
  revert hshort
  refine SameSizes.induction ?_ ?_ h
  · intro _
    exact Nat.le_refl _
  · intro x y a b hxy ih hshort
    obtain ⟨hx, ha⟩ := List.forall_mem_cons.mp hshort
    specialize ih ha
    rw [differences_cons, List.map_cons, List.map_cons, List.zipWith_cons_cons,
      List.zipWith_cons_cons, List.sum_cons, List.sum_cons, Nat.mul_add]
    by_cases hne : x = y
    · rw [if_pos hne]
      omega
    · have hblock := ReedSolomon.lt_differences_block hxy hx hne
      rw [if_neg hne]
      omega

/-- The streams of two sequences of data codewords differ in at least `e + 1`
places for each block in which the data differs, if a block has `e` correction
codewords. -/
theorem differences_symbolCodewords {plan : BlockPlan}
    (hplan : plan ∈ standardTable ∨ plan.FitsField) {a b : List UInt8}
    (ha : a.length = plan.dataCodewords) (hb : b.length = plan.dataCodewords) :
    ∃ c d, plan.symbolCodewords a = .ok c ∧ plan.symbolCodewords b = .ok d ∧
      c.length = plan.codewords ∧ d.length = plan.codewords ∧
      (plan.correctionPerBlock + 1) * differences (plan.dataBlocks a) (plan.dataBlocks b)
        ≤ differences c d := by
  have hfits : plan.FitsField := hplan.elim fitsField_of_mem_standardTable id
  have hdata : SameSizes (plan.dataBlocks a) (plan.dataBlocks b) :=
    (map_length_dataBlocks ha).trans (map_length_dataBlocks hb).symm
  have hcorrection : SameSizes (plan.correctionBlocks a) (plan.correctionBlocks b) :=
    (plan.map_length_correctionBlocks a).trans (plan.map_length_correctionBlocks b).symm
  have hstream : (interleave (plan.dataBlocks a)).length
      = (interleave (plan.dataBlocks b)).length := by
    rw [length_interleave, length_interleave, hdata]
  refine ⟨_, _, symbolCodewords_eq ha, symbolCodewords_eq hb, length_codewords ha,
    length_codewords hb, ?_⟩
  rw [differences_append hstream, hdata.differences_interleave,
    hcorrection.differences_interleave]
  exact mul_differences_le_sum hdata fun _ hblock => hfits.length_dataBlock ha hblock

/-- Two groups of blocks, and data that differs in the last block alone. -/
theorem differences_symbolCodewords_of_last_block :
    let plan := standard ⟨5, by decide, by decide⟩ .quartile
    let a := List.replicate 62 0
    let b := List.replicate 61 0 ++ [1]
    plan.groups.length = 2 ∧ differences (plan.dataBlocks a) (plan.dataBlocks b) = 1 ∧
      ∃ c d, plan.symbolCodewords a = .ok c ∧ plan.symbolCodewords b = .ok d ∧
        c.length = plan.codewords ∧ d.length = plan.codewords ∧
        (plan.correctionPerBlock + 1) * differences (plan.dataBlocks a) (plan.dataBlocks b)
          ≤ differences c d :=
  ⟨by decide +kernel, by decide +kernel,
    differences_symbolCodewords (.inl (mem_standardTable.mpr ⟨_, _, rfl⟩)) (by decide +kernel)
      (by decide +kernel)⟩

end BlockPlan

end QrSymbol
