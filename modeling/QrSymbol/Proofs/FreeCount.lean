import Mathlib.Algebra.BigOperators.Group.Finset.Basic
import Mathlib.Order.Interval.Finset.Nat
import Mathlib.Tactic.Ring
import QrSymbol.BlockPlan
import QrSymbol.Proofs.PatternAreas
import QrSymbol.Proofs.SquareCells

/-!
# The number of free cells

The function modules of a version fill disjoint rectangles, whose sides are
intervals or the coordinates near the middle centres.  So they can be counted:
the frame, the alignment patterns outside the frame and the version information
one after the other (`card_frameArea`, `card_alignmentArea`, `card_infoArea`).
What they leave of the square is the number of modules that the block plans
count on (`card_freeCells`).
-/

namespace QrSymbol

open Finset Pattern

/-! ## Rectangles -/

/-- The cells of some rectangles, each given by its columns and its rows. -/
def rectangles (areas : List (Finset Nat × Finset Nat)) : Finset (Nat × Nat) :=
  areas.foldr (fun r cells => r.1 ×ˢ r.2 ∪ cells) ∅

theorem mem_rectangles {areas : List (Finset Nat × Finset Nat)} {p : Nat × Nat} :
    p ∈ rectangles areas ↔ ∃ r ∈ areas, p.1 ∈ r.1 ∧ p.2 ∈ r.2 := by
  induction areas with
  | nil => simp [rectangles]
  | cons r areas ih =>
      rw [rectangles, List.foldr_cons, mem_union, mem_product, List.exists_mem_cons_iff, ← ih]
      rfl

/-- Disjoint rectangles have as many cells as they have together. -/
theorem card_rectangles {areas : List (Finset Nat × Finset Nat)}
    (h : areas.Pairwise fun r s => Disjoint (r.1 ×ˢ r.2) (s.1 ×ˢ s.2)) :
    (rectangles areas).card = (areas.map fun r => r.1.card * r.2.card).sum := by
  induction areas with
  | nil => rfl
  | cons r areas ih =>
      obtain ⟨hr, hareas⟩ := List.pairwise_cons.mp h
      have hdisjoint : Disjoint (r.1 ×ˢ r.2) (rectangles areas) := by
        rw [disjoint_left]
        intro p hp hmem
        obtain ⟨s, hs, hps⟩ := mem_rectangles.mp hmem
        exact disjoint_left.mp (hr s hs) hp (mem_product.mpr hps)
      rw [List.map_cons, List.sum_cons, ← ih hareas, ← card_product]
      exact card_union_of_disjoint hdisjoint

/-! ## The frame -/

/-- The frame of a square. -/
def frameArea (side : Nat) : Finset (Nat × Nat) :=
  rectangles [(range 9, range 9), (Ico (side - 8) side, range 9), (range 9, Ico (side - 8) side),
    ({6}, Ico 9 (side - 8)), (Ico 9 (side - 8), {6})]

theorem mem_frameArea {side x y : Nat} (hside : 21 ≤ side) :
    (x, y) ∈ frameArea side ↔ (x < side ∧ y < side) ∧ InFrame side x y := by
  simp only [frameArea, mem_rectangles, List.exists_mem_cons_iff, List.not_mem_nil, false_and,
    exists_false, or_false, mem_range, mem_Ico, mem_singleton, InFrame]
  omega

theorem card_frameArea {side : Nat} (hside : 21 ≤ side) :
    (frameArea side).card = 2 * side + 191 := by
  rw [frameArea, card_rectangles]
  · simp
    omega
  · simp only [List.pairwise_cons, List.forall_mem_cons, disjoint_left, mem_product, Prod.forall,
      mem_range, mem_Ico, mem_singleton]
    refine ⟨⟨?_, ?_, ?_, ?_, ?_⟩, ⟨?_, ?_, ?_, ?_⟩, ⟨?_, ?_, ?_⟩, ⟨?_, ?_⟩, ?_, ?_⟩
    all_goals first
      | omega
      | simp

/-! ## The alignment patterns -/

/-- The coordinates near a middle centre. -/
def middleBand (number : Nat) : Finset Nat :=
  (range (number / 7)).biUnion fun i =>
    Icc (middleCentre number i - 2) (middleCentre number i + 2)

theorem mem_middleBand_bounds {v : Version} (h : v.number ≠ 1) {x : Nat}
    (hx : x ∈ middleBand v.number) : 16 ≤ x ∧ x + 17 ≤ v.side := by
  obtain ⟨i, hi, hnear⟩ := mem_biUnion.mp hx
  have hbounds := middleCentre_bounds h (mem_range.mp hi)
  rw [mem_Icc] at hnear
  rw [Version.side]
  omega

theorem card_middleBand {v : Version} (h : v.number ≠ 1) :
    (middleBand v.number).card = v.number / 7 * 5 := by
  have hdisjoint : ((range (v.number / 7) : Finset Nat) : Set Nat).PairwiseDisjoint
      fun i => Icc (middleCentre v.number i - 2) (middleCentre v.number i + 2) := by
    intro i hi j hj hne
    refine disjoint_left.mpr fun x hxi hxj => hne ?_
    rw [mem_Icc] at hxi hxj
    exact middleCentre_unique h (mem_range.mp hi) (mem_range.mp hj) (by omega) (by omega)
  have hfive : ∀ i ∈ range (v.number / 7),
      (Icc (middleCentre v.number i - 2) (middleCentre v.number i + 2)).card = 5 := by
    intro i hi
    have hbounds := middleCentre_bounds h (mem_range.mp hi)
    rw [Nat.card_Icc]
    omega
  rw [middleBand, card_biUnion hdisjoint, sum_congr rfl hfive, sum_const, card_range]
  rfl

theorem nearCentre_iff {v : Version} (h : v.number ≠ 1) {x : Nat} :
    NearCentre v.number x ↔ (4 ≤ x ∧ x ≤ 8) ∨ (v.side - 9 ≤ x ∧ x ≤ v.side - 5) ∨
      x ∈ middleBand v.number := by
  have hnumber := v.one_le
  have hside : v.side = 4 * v.number + 17 := rfl
  constructor
  · rintro ⟨c, hc, hnear⟩
    rw [distance] at hnear
    obtain ⟨-, rfl | rfl | ⟨i, hi, rfl⟩⟩ := mem_alignmentCentres.mp hc
    · left
      omega
    · right
      left
      omega
    · refine .inr (.inr (mem_biUnion.mpr ⟨i, mem_range.mpr hi, mem_Icc.mpr ?_⟩))
      omega
  · rintro (hx | hx | hx)
    · refine ⟨6, mem_alignmentCentres.mpr ⟨h, .inl rfl⟩, ?_⟩
      rw [distance]
      omega
    · refine ⟨4 * v.number + 10, mem_alignmentCentres.mpr ⟨h, .inr (.inl rfl)⟩, ?_⟩
      rw [distance]
      omega
    · obtain ⟨i, hi, hnear⟩ := mem_biUnion.mp hx
      rw [mem_range] at hi
      refine ⟨_, mem_alignmentCentres.mpr ⟨h, .inr (.inr ⟨i, hi, rfl⟩)⟩, ?_⟩
      rw [mem_Icc] at hnear
      rw [distance]
      omega

/-- A coordinate near a centre is near the first, near the last or far from both
edges. -/
theorem nearCentre_bounds {v : Version} {x : Nat} (hx : NearCentre v.number x) :
    25 ≤ v.side ∧ ((4 ≤ x ∧ x ≤ 8) ∨ (v.side - 9 ≤ x ∧ x ≤ v.side - 5) ∨
      (16 ≤ x ∧ x + 17 ≤ v.side)) := by
  obtain ⟨c, hc, -⟩ := id hx
  have h := (mem_alignmentCentres.mp hc).1
  have hside : v.side = 4 * v.number + 17 := rfl
  have hnumber := v.one_le
  refine ⟨by omega, ?_⟩
  rcases (nearCentre_iff h).mp hx with hx | hx | hx
  · exact .inl hx
  · exact .inr (.inl hx)
  · exact .inr (.inr (mem_middleBand_bounds h hx))

theorem inFinderCorner_eq_false_iff {side x y : Nat} : inFinderCorner side x y = false ↔
    (8 < x ∨ 8 < y) ∧ (x < side - 9 ∨ 8 < y) ∧ (8 < x ∨ y < side - 9) := by
  simp [inFinderCorner]
  omega

/-- The cells of the alignment patterns outside the frame. -/
def alignmentArea (v : Version) : Finset (Nat × Nat) :=
  if v.number = 1 then ∅
  else
    let band := middleBand v.number
    let last := Ico (v.side - 9) (v.side - 4)
    rectangles [(band ∪ last, band ∪ last), ({4, 5, 7, 8}, band), (band, {4, 5, 7, 8})]

theorem mem_alignmentArea {v : Version} {x y : Nat} :
    (x, y) ∈ alignmentArea v ↔ NearCentre v.number x ∧ NearCentre v.number y ∧
      inFinderCorner v.side x y = false ∧ x ≠ 6 ∧ y ≠ 6 := by
  by_cases h : v.number = 1
  · simp [alignmentArea, h, NearCentre, alignmentCentres]
  have hx := fun hx => mem_middleBand_bounds (v := v) h (x := x) hx
  have hy := fun hy => mem_middleBand_bounds (v := v) h (x := y) hy
  have hside : v.side = 4 * v.number + 17 := rfl
  have hnumber := v.one_le
  rw [nearCentre_iff h, nearCentre_iff h, inFinderCorner_eq_false_iff, alignmentArea, if_neg h]
  simp only [mem_rectangles, List.exists_mem_cons_iff, List.not_mem_nil, false_and,
    exists_false, or_false, mem_union, mem_Ico, mem_insert, mem_singleton]
  by_cases hbx : x ∈ middleBand v.number
  · by_cases hby : y ∈ middleBand v.number
    · have := hx hbx
      have := hy hby
      simp only [hbx, hby, true_or, or_true, true_and, true_iff]
      omega
    · have := hx hbx
      simp only [hbx, hby, true_or, or_true, true_and, or_false, false_or, and_false]
      omega
  · by_cases hby : y ∈ middleBand v.number
    · have := hy hby
      simp only [hbx, hby, true_or, or_true, true_and, or_false, false_or, false_and, and_true]
      omega
    · simp only [hbx, hby, or_false, false_or, false_and, and_false]
      omega

theorem card_alignmentArea (v : Version) : (alignmentArea v).card
    = if v.number = 1 then 0 else (v.number / 7 * 5 + 5) ^ 2 + v.number / 7 * 40 := by
  rw [alignmentArea]
  split
  · rfl
  rename_i h
  have hside : v.side = 4 * v.number + 17 := rfl
  have hnumber := v.one_le
  have hlast : (Ico (v.side - 9) (v.side - 4)).card = 5 := by
    rw [Nat.card_Ico]
    omega
  have hband : Disjoint (middleBand v.number) (Ico (v.side - 9) (v.side - 4)) := by
    refine disjoint_left.mpr fun x hx hlast => ?_
    have := mem_middleBand_bounds h hx
    rw [mem_Ico] at hlast
    omega
  rw [card_rectangles]
  · rw [List.map_cons, List.map_cons, List.map_cons, List.map_nil, List.sum_cons, List.sum_cons,
      List.sum_cons, List.sum_nil, card_union_of_disjoint hband, card_middleBand h, hlast,
      show ({4, 5, 7, 8} : Finset Nat).card = 4 from rfl]
    ring
  · simp only [List.pairwise_cons, List.forall_mem_cons, disjoint_left, mem_product, Prod.forall,
      mem_union, mem_Ico, mem_insert, mem_singleton]
    refine ⟨⟨?_, ?_, ?_⟩, ⟨?_, ?_⟩, ?_, ?_⟩
    · rintro x y ⟨hx | hx, -⟩ ⟨hx', -⟩
      · have := mem_middleBand_bounds h hx
        omega
      · omega
    · rintro x y ⟨-, hy | hy⟩ ⟨-, hy'⟩
      · have := mem_middleBand_bounds h hy
        omega
      · omega
    · simp
    · rintro x y ⟨hx, -⟩ ⟨hx', -⟩
      have := mem_middleBand_bounds h hx'
      omega
    all_goals simp

/-! ## The version information -/

/-- The cells of the version information. -/
def infoArea (v : Version) : Finset (Nat × Nat) :=
  if v.number < 7 then ∅
  else
    let block := Ico (v.side - 11) (v.side - 8)
    rectangles [(block, range 6), (range 6, block)]

theorem mem_infoArea {v : Version} {x y : Nat} : (x, y) ∈ infoArea v ↔ InInfo v x y := by
  rw [infoArea, InInfo]
  split
  · rename_i h
    simp
    omega
  · simp only [mem_rectangles, List.exists_mem_cons_iff, List.not_mem_nil, false_and,
      exists_false, or_false, mem_range, mem_Ico]
    omega

theorem card_infoArea (v : Version) :
    (infoArea v).card = if 7 ≤ v.number then 36 else 0 := by
  have hside : v.side = 4 * v.number + 17 := rfl
  rw [infoArea]
  split
  · rename_i h
    rw [if_neg (by omega), card_empty]
  rename_i h
  have hthree : (Ico (v.side - 11) (v.side - 8)).card = 3 := by
    rw [Nat.card_Ico]
    omega
  rw [if_pos (by omega), card_rectangles]
  · rw [List.map_cons, List.map_cons, List.map_nil, List.sum_cons, List.sum_cons, List.sum_nil,
      hthree, card_range]
    rfl
  · simp only [List.pairwise_cons, List.forall_mem_cons, disjoint_left, mem_product, Prod.forall,
      mem_range, mem_Ico]
    refine ⟨⟨?_, ?_⟩, ?_, ?_⟩
    · omega
    all_goals simp

/-! ## The free cells -/

theorem not_inFrame_of_inInfo {v : Version} {x y : Nat} (h : InInfo v x y) :
    ¬InFrame v.side x y := by
  obtain ⟨hnumber, h⟩ := h
  rw [InFrame, Version.side]
  rw [Version.side] at h
  omega

theorem not_inFrame_of_mem_alignmentArea {v : Version} {x y : Nat} (h : (x, y) ∈ alignmentArea v) :
    ¬InFrame v.side x y := by
  obtain ⟨hx, hy, hcorner, hx6, hy6⟩ := mem_alignmentArea.mp h
  have hboundx := nearCentre_bounds hx
  have hboundy := nearCentre_bounds hy
  rw [inFinderCorner_eq_false_iff] at hcorner
  rw [InFrame]
  omega

theorem not_inInfo_of_mem_alignmentArea {v : Version} {x y : Nat} (h : (x, y) ∈ alignmentArea v) :
    ¬InInfo v x y := by
  obtain ⟨hx, hy, hcorner, -⟩ := mem_alignmentArea.mp h
  have hboundx := nearCentre_bounds hx
  have hboundy := nearCentre_bounds hy
  rw [inFinderCorner_eq_false_iff] at hcorner
  rw [InInfo]
  omega

/-- The function modules stand in the three areas. -/
theorem filter_isSome_eq (v : Version) :
    ((squareCells v.side).filter fun p => (v.module? p.1 p.2).isSome)
      = infoArea v ∪ (frameArea v.side ∪ alignmentArea v) := by
  ext ⟨x, y⟩
  rw [mem_filter, mem_squareCells, mem_union, mem_union, mem_infoArea,
    mem_frameArea v.twentyOne_le_side, mem_alignmentArea]
  by_cases hin : x < v.side ∧ y < v.side
  · have hmiddle : x = 6 ∨ y = 6 → InFrame v.side x y := by
      rintro (h | h)
      · exact .inl h
      · exact .inr (.inl h)
    rw [Version.module?_isSome_iff hin.1 hin.2]
    tauto
  · have hinfo : ¬InInfo v x y := by
      rintro ⟨-, h⟩
      omega
    have hcentre : ¬(NearCentre v.number x ∧ NearCentre v.number y) := by
      rintro ⟨hx, hy⟩
      have hboundx := nearCentre_bounds hx
      have hboundy := nearCentre_bounds hy
      omega
    tauto

/-- The areas and the data modules make up the square. -/
theorem dataModules_eq : ∀ v : Version,
    v.side * v.side = v.dataModules + ((if 7 ≤ v.number then 36 else 0) + (2 * v.side + 191 +
      if v.number = 1 then 0 else (v.number / 7 * 5 + 5) ^ 2 + v.number / 7 * 40)) := by
  decide +kernel

/-- The cells that a version leaves free are as many as its data modules. -/
theorem card_freeCells (v : Version) :
    ((squareCells v.side).filter fun p => v.module? p.1 p.2 = none).card = v.dataModules := by
  have hframe : Disjoint (frameArea v.side) (alignmentArea v) :=
    disjoint_left.mpr fun p hp hq => not_inFrame_of_mem_alignmentArea hq
      ((mem_frameArea v.twentyOne_le_side).mp hp).2
  have hinfo : Disjoint (infoArea v) (frameArea v.side ∪ alignmentArea v) := by
    refine disjoint_left.mpr fun p hp hq => ?_
    rcases mem_union.mp hq with hq | hq
    · exact not_inFrame_of_inInfo (mem_infoArea.mp hp) ((mem_frameArea v.twentyOne_le_side).mp hq).2
    · exact not_inInfo_of_mem_alignmentArea hq (mem_infoArea.mp hp)
  have hfunction := congrArg card (filter_isSome_eq v)
  rw [card_union_of_disjoint hinfo, card_union_of_disjoint hframe, card_infoArea,
    card_frameArea v.twentyOne_le_side, card_alignmentArea] at hfunction
  have hsquare := card_filter_add_card_filter_not (s := squareCells v.side)
    (fun p => (v.module? p.1 p.2).isSome)
  simp only [Option.not_isSome_iff_eq_none] at hsquare
  rw [hfunction, squareCells, card_product, card_range, dataModules_eq] at hsquare
  rw [squareCells]
  omega

end QrSymbol
