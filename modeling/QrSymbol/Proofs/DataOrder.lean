import QrSymbol.Proofs.FreeCount

/-!
# The order of the data

The strips visit every cell off the timing column once (`mem_zigzag`,
`nodup_zigzag`).  So if that column is taken, the order of the data runs through all
free cells of a draft, and once through each (`mem_freeCells`, `nodup_freeCells`).

In the blank draft of a version the column has function modules throughout.  There
the order runs through the cells that the version leaves free (`mem_freeCells_blank`),
and there are as many of them as the version has data modules
(`length_freeCells_blank`).
-/

namespace QrSymbol.Draft

/-! ## Strips -/

theorem mem_strip {side right x y : Nat} :
    (x, y) ∈ strip side right ↔ (x = right ∨ x = right - 1) ∧ y < side := by
  have hrows : ∀ rows : List Nat,
      (x, y) ∈ rows.flatMap (fun y => [(right, y), (right - 1, y)]) ↔
        (x = right ∨ x = right - 1) ∧ y ∈ rows := by
    intro rows
    simp only [List.mem_flatMap, List.mem_cons, List.not_mem_nil, or_false, Prod.mk.injEq]
    constructor
    · rintro ⟨z, hz, ⟨rfl, rfl⟩ | ⟨rfl, rfl⟩⟩
      · exact ⟨.inl rfl, hz⟩
      · exact ⟨.inr rfl, hz⟩
    · rintro ⟨rfl | rfl, hy⟩
      · exact ⟨y, hy, .inl ⟨rfl, rfl⟩⟩
      · exact ⟨y, hy, .inr ⟨rfl, rfl⟩⟩
  rw [strip, hrows]
  split
  · rw [List.mem_reverse, List.mem_range]
  · rw [List.mem_range]

theorem nodup_strip {side right : Nat} (h : 0 < right) : (strip side right).Nodup := by
  have hrows : ∀ rows : List Nat, rows.Nodup →
      (rows.flatMap fun y => [(right, y), (right - 1, y)]).Nodup := by
    intro rows hnodup
    refine List.nodup_flatMap.mpr ⟨?_, ?_⟩
    · intro y _
      refine List.nodup_cons.mpr ⟨fun hmem => ?_, List.nodup_singleton _⟩
      have := congrArg Prod.fst (List.mem_singleton.mp hmem)
      simp only at this
      omega
    · refine hnodup.imp ?_
      intro y z hne p hp hq
      simp only [List.mem_cons, List.not_mem_nil, or_false] at hp hq
      rcases hp with rfl | rfl
      · simp_all
      · simp_all
  rw [strip]
  split
  · exact hrows _ (List.nodup_reverse.mpr List.nodup_range)
  · exact hrows _ List.nodup_range

/-- The right columns of the strips, in a square of odd side. -/
theorem mem_stripColumns {side right : Nat} (hodd : side % 2 = 1) :
    right ∈ stripColumns side ↔
      (6 < right ∧ right < side ∧ right % 2 = 0) ∨
        (right < 6 ∧ right < side - 1 ∧ right % 2 = 1) := by
  simp only [stripColumns, List.mem_map, List.mem_range]
  constructor
  · rintro ⟨k, hk, rfl⟩
    split
    · omega
    · omega
  · rintro (⟨hlow, hhigh, heven⟩ | ⟨hlow, hhigh, hright⟩)
    · exact ⟨(side - 1 - right) / 2, by omega, by split <;> omega⟩
    · exact ⟨(side - 2 - right) / 2, by omega, by split <;> omega⟩

/-- Two strips share no column. -/
theorem strip_unique {side r s x y z : Nat} (hodd : side % 2 = 1) (hr : r ∈ stripColumns side)
    (hs : s ∈ stripColumns side) (hxr : (x, y) ∈ strip side r) (hxs : (x, z) ∈ strip side s) :
    r = s := by
  rw [mem_stripColumns hodd] at hr hs
  rw [mem_strip] at hxr hxs
  omega

theorem nodup_stripColumns {side : Nat} (hodd : side % 2 = 1) : (stripColumns side).Nodup := by
  refine List.nodup_range.map_on ?_
  intro j hj k hk heq
  rw [List.mem_range] at hj hk
  simp only at heq
  split at heq <;> split at heq <;> omega

/-! ## All strips -/

/-- Every cell off the timing column is visited. -/
theorem mem_zigzag {side x y : Nat} (hodd : side % 2 = 1) (hside : 7 ≤ side) :
    (x, y) ∈ zigzag side ↔ (x < side ∧ y < side) ∧ x ≠ 6 := by
  simp only [zigzag, List.mem_flatMap, mem_strip, mem_stripColumns hodd]
  constructor
  · rintro ⟨right, hright, hx, hy⟩
    omega
  · rintro ⟨⟨hx, hy⟩, hne⟩
    by_cases hlow : x < 6
    · exact ⟨if x % 2 = 1 then x else x + 1, by split <;> omega, by split <;> omega, hy⟩
    · exact ⟨if x % 2 = 0 then x else x + 1, by split <;> omega, by split <;> omega, hy⟩

/-- No cell is visited twice. -/
theorem nodup_zigzag {side : Nat} (hodd : side % 2 = 1) : (zigzag side).Nodup := by
  refine List.nodup_flatMap.mpr ⟨?_, ?_⟩
  · intro right hright
    rw [mem_stripColumns hodd] at hright
    exact nodup_strip (by omega)
  · refine (nodup_stripColumns hodd).imp_of_mem ?_
    intro r s hr hs hne p hp hq
    exact hne (strip_unique hodd hr hs hp hq)

/-! ## Drafts with their timing column -/

/-- Whether all cells of the timing column have their module. -/
def TimingColumnTaken (d : Draft) : Prop := ∀ y < d.side, d.isFree 6 y = false

instance (d : Draft) : Decidable d.TimingColumnTaken :=
  inferInstanceAs (Decidable (∀ y < d.side, _))

theorem side_eq (d : Draft) : d.side = d.version.side := d.side_cells

theorem side_odd (d : Draft) : d.side % 2 = 1 := by
  rw [side_eq, Version.side]
  omega

theorem twentyOne_le_side (d : Draft) : 21 ≤ d.side := d.side_eq ▸ d.version.twentyOne_le_side

/-- A cell of the square is free if it has no module. -/
theorem get?_eq_some_none_iff {d : Draft} {x y : Nat} :
    d.cells.get? x y = some none ↔ (x < d.side ∧ y < d.side) ∧ d.module? x y = none := by
  by_cases hcell : x < d.side ∧ y < d.side
  · obtain ⟨c, hc⟩ := Square.exists_get?_eq_some hcell.1 hcell.2
    rw [module?_eq hcell.1, hc, and_iff_right hcell, Option.some.injEq]
    rfl
  · rw [Square.get?_eq_none_iff.mpr (by rw [side] at hcell; omega)]
    exact iff_of_false (Option.some_ne_none _).symm fun h => hcell h.1

/-- With the timing column taken, the order of the data runs through all free cells. -/
theorem mem_freeCells {d : Draft} (h : d.TimingColumnTaken) {x y : Nat} :
    (x, y) ∈ d.freeCells ↔ d.cells.get? x y = some none := by
  have hside := d.twentyOne_le_side
  rw [freeCells, List.mem_filter, mem_zigzag d.side_odd (by omega), get?_eq_some_none_iff,
    isFree, Option.isNone_iff_eq_none, and_assoc, and_congr_right_iff]
  rintro ⟨-, hy⟩
  refine and_iff_right_of_imp fun hfree => ?_
  rintro rfl
  have htaken := h y hy
  rw [isFree, hfree] at htaken
  cases htaken

theorem nodup_freeCells (d : Draft) : d.freeCells.Nodup := (nodup_zigzag d.side_odd).filter _

/-- The order of the data is as long as there are free cells. -/
theorem length_freeCells {d : Draft} (h : d.TimingColumnTaken) :
    d.freeCells.length = d.freeCount := by
  rw [freeCount, Square.count_eq_card, ← List.toFinset_card_of_nodup d.nodup_freeCells]
  refine congrArg Finset.card ?_
  ext ⟨x, y⟩
  rw [List.mem_toFinset, mem_freeCells h, Finset.mem_filter, mem_squareCells]
  constructor
  · intro hfree
    rw [hfree]
    exact ⟨(get?_eq_some_none_iff.mp hfree).1, rfl⟩
  · rintro ⟨-, hfree⟩
    cases hget : d.cells.get? x y with
    | none => simp [hget] at hfree
    | some c =>
        rw [hget] at hfree
        rw [Option.isNone_iff_eq_none.mp hfree]

/-! ## The free cells of a version -/

@[simp] theorem side_blank (v : Version) : (blank v).side = v.side := rfl

theorem get?_cells_blank {v : Version} {x y : Nat} :
    (blank v).cells.get? x y = if x < v.side ∧ y < v.side then some (v.module? x y) else none :=
  Square.get?_ofFn

theorem module?_blank {v : Version} {x y : Nat} (hx : x < v.side) (hy : y < v.side) :
    (blank v).module? x y = v.module? x y := by
  rw [module?_eq hx, get?_cells_blank, if_pos ⟨hx, hy⟩]
  rfl

/-- The timing column has function modules throughout. -/
theorem module?_ne_none_of_timing_column {v : Version} {y : Nat} (hy : y < v.side) :
    v.module? 6 y ≠ none := by
  have hside := v.twentyOne_le_side
  rw [Option.ne_none_iff_isSome, Version.module?_isSome_iff (by omega) hy]
  exact .inr (.inl (.inl rfl))

theorem timingColumnTaken_blank (v : Version) : (blank v).TimingColumnTaken := by
  intro y hy
  have hside := v.twentyOne_le_side
  rw [isFree, module?_blank (by omega) hy, Option.isNone_eq_false_iff, Option.isSome_iff_ne_none]
  exact module?_ne_none_of_timing_column hy

/-- The order of the data runs through the cells that the version leaves free. -/
theorem mem_freeCells_blank {v : Version} {x y : Nat} :
    (x, y) ∈ (blank v).freeCells ↔ (x < v.side ∧ y < v.side) ∧ v.module? x y = none := by
  rw [mem_freeCells (timingColumnTaken_blank v), get?_cells_blank]
  split
  · rename_i hcell
    rw [Option.some.injEq, and_iff_right hcell]
  · rename_i hcell
    exact iff_of_false (Option.some_ne_none _).symm fun h => hcell h.1

theorem nodup_freeCells_blank (v : Version) : (blank v).freeCells.Nodup := nodup_freeCells _

/-- A version leaves as many cells free as it has data modules. -/
theorem freeCount_blank (v : Version) : (blank v).freeCount = v.dataModules := by
  rw [freeCount, Square.count_eq_card, ← card_freeCells]
  refine congrArg Finset.card (Finset.filter_congr fun p hp => ?_)
  have hcell : p.1 < v.side ∧ p.2 < v.side := mem_squareCells.mp hp
  rw [get?_cells_blank, if_pos hcell, Option.any_some, Option.isNone_iff_eq_none]

/-- The order of the data is as long. -/
theorem length_freeCells_blank (v : Version) : (blank v).freeCells.length = v.dataModules :=
  (length_freeCells (timingColumnTaken_blank v)).trans (freeCount_blank v)

end QrSymbol.Draft
