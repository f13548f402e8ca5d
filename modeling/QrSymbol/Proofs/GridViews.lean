import QrSymbol.Proofs.BitmapWrites
import QrSymbol.Proofs.PenaltyRules

/-!
# The views of a grid

A grid can be looked at module by module, in a visit row by row or column by column, as
rows of colours and as a bitmap.  Each view finds a cell by its column and row in a way of
its own, and all of them find the same module there (`Grid.viewsAgree`).

They are compared with `Square.get?`.  The rows are cut out of the entries
(`Square.rows_eq`).  A visit meets the cells that have an entry there
(`Square.mem_byRow_iff`, `Square.mem_byColumn_iff`), and it meets them in a strict order, so
it meets none of them twice.  The bitmap comes from a blank one by a write for each dark
module that the visit row by row meets (`Grid.bitmap_eq`).  What such writes leave is known
(`Bitmap.get_afterWrites`).
-/

namespace QrSymbol

/-- Whether a pair of numbers stands before another, by the first number and then by the
second. -/
def StandsBefore (p q : Nat × Nat) : Prop := p.1 < q.1 ∨ p.1 = q.1 ∧ p.2 < q.2

theorem StandsBefore.ne {p q : Nat × Nat} (h : StandsBefore p q) : p ≠ q := by
  rintro rfl
  rcases h with h | ⟨-, h⟩
  · exact lt_irrefl _ h
  · exact lt_irrefl _ h

/-- Cells of a larger number stand in a later row, or farther right in the same one. -/
theorem standsBefore_of_lt {width i j : Nat} (h : i < j) :
    StandsBefore (i / width, i % width) (j / width, j % width) := by
  rcases Nat.lt_or_eq_of_le (Nat.div_le_div_right (c := width) (Nat.le_of_lt h)) with hrow | hrow
  · exact .inl hrow
  · refine .inr ⟨hrow, ?_⟩
    have hi := Nat.div_add_mod i width
    have hj := Nat.div_add_mod j width
    rw [hrow] at hi
    omega

/-! ## Visits -/

namespace Square

variable {α : Type} {s : Square α} {x y : Nat} {a : α}

theorem mem_byRow_iff : (x, y, a) ∈ s.byRow ↔ s.get? x y = some a := by
  rw [byRow, List.mem_map]
  constructor
  · rintro ⟨⟨b, i⟩, hmem, hcell⟩
    obtain ⟨rfl, hrest⟩ := Prod.mk.inj hcell
    obtain ⟨rfl, rfl⟩ := Prod.mk.inj hrest
    rw [List.mem_zipIdx_iff_getElem?, Array.getElem?_toList] at hmem
    have hi : i < s.side * s.side := s.size_entries ▸ (Array.getElem?_eq_some_iff.mp hmem).1
    rw [get?, if_pos (mod_lt_and_div_lt hi), place_mod_div, hmem]
  · intro h
    obtain ⟨⟨hx, hy⟩, hentry⟩ := Option.ite_none_right_eq_some.mp h
    refine ⟨(a, place s.side x y), ?_, ?_⟩
    · rwa [List.mem_zipIdx_iff_getElem?, Array.getElem?_toList]
    · rw [place_mod hx, place_div hx]

theorem pairwise_byRow (s : Square α) :
    s.byRow.Pairwise fun v w => StandsBefore (v.2.1, v.1) (w.2.1, w.1) := by
  have hnumbers : (s.entries.toList.zipIdx.map Prod.snd).Pairwise (· < ·) := by
    rw [List.zipIdx_map_snd]
    exact List.pairwise_lt_range'
  rw [byRow, List.pairwise_map]
  exact (List.pairwise_map.mp hnumbers).imp standsBefore_of_lt

theorem mem_byColumn_iff : (x, y, a) ∈ s.byColumn ↔ s.get? x y = some a := by
  simp only [byColumn, List.mem_flatMap, List.mem_filterMap, List.mem_range,
    Option.map_eq_some_iff, Prod.mk.injEq]
  constructor
  · rintro ⟨_, -, _, -, _, hentry, rfl, rfl, rfl⟩
    exact hentry
  · intro hentry
    obtain ⟨hx, hy⟩ := get?_isSome_iff.mp (Option.isSome_of_eq_some hentry)
    exact ⟨x, hx, y, hy, a, hentry, rfl, rfl, rfl⟩

theorem pairwise_byColumn (s : Square α) :
    s.byColumn.Pairwise fun v w => StandsBefore (v.1, v.2.1) (w.1, w.2.1) := by
  rw [byColumn, List.pairwise_flatMap]
  constructor
  · intro x _
    rw [List.pairwise_filterMap]
    refine List.pairwise_lt_range.imp ?_
    intro y y' hlt v hv w hw
    obtain ⟨_, -, rfl⟩ := Option.map_eq_some_iff.mp hv
    obtain ⟨_, -, rfl⟩ := Option.map_eq_some_iff.mp hw
    exact .inr ⟨rfl, hlt⟩
  · refine List.pairwise_lt_range.imp ?_
    intro x x' hlt v hv w hw
    obtain ⟨_, -, hv⟩ := List.mem_filterMap.mp hv
    obtain ⟨_, -, hw⟩ := List.mem_filterMap.mp hw
    obtain ⟨_, -, rfl⟩ := Option.map_eq_some_iff.mp hv
    obtain ⟨_, -, rfl⟩ := Option.map_eq_some_iff.mp hw
    exact .inl hlt

end Square

namespace Grid

/-- What it is to visit the cells of a grid in the order of a key of their columns and
rows. -/
structure IsVisit (g : Grid) (key : Nat → Nat → Nat × Nat) (visit : List (Nat × Nat × Module)) :
    Prop where
  /-- A cell is met with its module. -/
  module_eq : ∀ x y m, (x, y, m) ∈ visit → g.module x y = .ok m
  /-- Every cell is met once. -/
  count_eq : ∀ x y, x < g.side → y < g.side → (visit.map fun v => (v.1, v.2.1)).count (x, y) = 1
  /-- A cell is met before those of larger keys. -/
  sorted : visit.Pairwise fun v w => StandsBefore (key v.1 v.2.1) (key w.1 w.2.1)

variable {g : Grid} {x y : Nat} {m : Module}

theorem module_eq_ok_iff : g.module x y = .ok m ↔ g.get? x y = some m := by
  rw [module]
  cases g.get? x y with
  | none => exact iff_of_false nofun nofun
  | some m => rw [Except.ok.injEq, Option.some.injEq]

theorem module_outside (h : g.side ≤ x ∨ g.side ≤ y) :
    g.module x y = .error (.outsideMatrix x y g.side) := by
  rw [module, Square.get?_eq_none_iff.mpr h]

/-- A list of the modules of a grid in a strict order of their cells is a visit. -/
theorem isVisit_of_sorted {key : Nat → Nat → Nat × Nat} {visit : List (Nat × Nat × Module)}
    (hmem : ∀ {x y m}, (x, y, m) ∈ visit ↔ g.get? x y = some m)
    (hsorted : visit.Pairwise fun v w => StandsBefore (key v.1 v.2.1) (key w.1 w.2.1)) :
    g.IsVisit key visit where
  module_eq := fun _ _ _ h => module_eq_ok_iff.mpr (hmem.mp h)
  count_eq := by
    intro x y hx hy
    obtain ⟨m, hm⟩ := Square.exists_get?_eq_some hx hy
    refine List.count_eq_one_of_mem ?_ (List.mem_map.mpr ⟨_, hmem.mpr hm, rfl⟩)
    rw [List.nodup_iff_pairwise_ne, List.pairwise_map]
    refine hsorted.imp fun hbefore hcell => hbefore.ne ?_
    obtain ⟨hx, hy⟩ := Prod.mk.inj hcell
    rw [hx, hy]
  sorted := hsorted

/-! ## The bitmap -/

/-- The writes that set the bits of the dark modules, in the order of the rows. -/
def darkWrites (g : Grid) : List Bitmap.Write :=
  (g.byRow.filter fun v => v.2.2.dark).map fun v => ⟨v.1, v.2.1, true⟩

theorem bitmap_eq (g : Grid) :
    g.bitmap = (Bitmap.blank g.side g.side).afterWrites g.darkWrites := by
  rw [bitmap, Bitmap.afterWrites, darkWrites, List.foldl_map, List.foldl_filter]

theorem width_bitmap (g : Grid) : g.bitmap.width = g.side := by
  rw [bitmap_eq, Bitmap.width_afterWrites, Bitmap.blank]

theorem height_bitmap (g : Grid) : g.bitmap.height = g.side := by
  rw [bitmap_eq, Bitmap.height_afterWrites, Bitmap.blank]

theorem isDark_eq_true_iff : g.isDark x y = true ↔ ∃ m, g.get? x y = some m ∧ m.dark = true := by
  rw [isDark]
  cases g.get? x y with
  | none =>
      refine iff_of_false Bool.false_ne_true ?_
      rintro ⟨_, hm, -⟩
      cases hm
  | some m =>
      constructor
      · exact fun h => ⟨m, rfl, h⟩
      · rintro ⟨_, hm, h⟩
        rwa [← Option.some.inj hm] at h

theorem mem_darkWrites {w : Bitmap.Write} :
    w ∈ g.darkWrites ↔ w.value = true ∧ g.isDark w.x w.y = true := by
  rw [darkWrites, List.mem_map, isDark_eq_true_iff]
  constructor
  · rintro ⟨⟨x, y, m⟩, hmem, rfl⟩
    obtain ⟨hmem, hdark⟩ := List.mem_filter.mp hmem
    exact ⟨rfl, m, Square.mem_byRow_iff.mp hmem, hdark⟩
  · obtain ⟨x, y, value⟩ := w
    rintro ⟨rfl, m, hm, hdark⟩
    exact ⟨(x, y, m), List.mem_filter.mpr ⟨Square.mem_byRow_iff.mpr hm, hdark⟩, rfl⟩

/-- The bitmap has the bits of the dark modules set. -/
theorem get_bitmap (g : Grid) (x y : Nat) : g.bitmap.get x y = g.isDark x y := by
  by_cases hin : x < g.side ∧ y < g.side
  · rw [bitmap_eq, Bitmap.get_afterWrites hin.1 hin.2, Bitmap.get_blank, Bool.eq_iff_iff,
      Bitmap.lastValue?_getD_iff fun w hw => (mem_darkWrites.mp hw).1, mem_darkWrites]
    exact and_iff_right rfl
  · have hout : g.side ≤ x ∨ g.side ≤ y := by omega
    rw [isDark_outside hout]
    exact Bitmap.get_outside (by rwa [width_bitmap, height_bitmap])

theorem ones_bitmap (g : Grid) : g.bitmap.ones = g.darkCount := by
  have hpadding := (Bitmap.paddingUnset_blank g.side g.side).afterWrites g.darkWrites
  rw [← bitmap_eq] at hpadding
  rw [hpadding.ones_eq, width_bitmap, height_bitmap, darkCount_eq, darkCells, squareCells]
  simp only [get_bitmap]

/-! ## All views -/

/-- What it means that the views of a grid agree. -/
structure ViewsAgree (g : Grid) : Prop where
  /-- The visit row by row meets every cell once, the upper rows first. -/
  byRow_visits : g.IsVisit (fun x y => (y, x)) g.byRow
  /-- The visit column by column meets every cell once, the left columns first. -/
  byColumn_visits : g.IsVisit (fun x y => (x, y)) g.byColumn
  /-- Inside the grid all views find the colour of one module. -/
  inside : ∀ x y, x < g.side → y < g.side → ∃ m : Module, g.module x y = .ok m ∧
    g.isDark x y = m.dark ∧ g.bitmap.get x y = m.dark ∧
    g.darkRows[y]?.bind (fun row => row[x]?) = some m.dark
  /-- The bitmap has as many bits set as the grid has dark modules. -/
  ones_eq : g.bitmap.ones = g.darkCount
  /-- Outside the grid there is no module and nothing is dark. -/
  outside : ∀ x y, g.side ≤ x ∨ g.side ≤ y →
    g.module x y = .error (.outsideMatrix x y g.side) ∧ g.isDark x y = false ∧
    g.bitmap.get x y = false

theorem getElem?_darkRows (hx : x < g.side) (hy : y < g.side) :
    g.darkRows[y]?.bind (fun row => row[x]?) = some (g.isDark x y) := by
  rw [darkRows_eq, List.getElem?_map, List.getElem?_range hy, Option.map_some, Option.bind_some,
    rowColours, List.getElem?_map, List.getElem?_range hx, Option.map_some]

/-- The views of a grid agree. -/
theorem viewsAgree (g : Grid) : g.ViewsAgree where
  byRow_visits := isVisit_of_sorted Square.mem_byRow_iff (Square.pairwise_byRow g)
  byColumn_visits := isVisit_of_sorted Square.mem_byColumn_iff (Square.pairwise_byColumn g)
  inside := by
    intro x y hx hy
    obtain ⟨m, hm⟩ := Square.exists_get?_eq_some hx hy
    have hdark : g.isDark x y = m.dark := by rw [isDark, hm]
    exact ⟨m, module_eq_ok_iff.mpr hm, hdark, by rw [get_bitmap, hdark],
      by rw [getElem?_darkRows hx hy, hdark]⟩
  ones_eq := ones_bitmap g
  outside := fun x y h =>
    ⟨module_outside h, isDark_outside h, by rw [get_bitmap, isDark_outside h]⟩

end Grid

end QrSymbol
