import Mathlib.Algebra.BigOperators.Group.Finset.Piecewise
import Mathlib.Algebra.BigOperators.Group.Finset.Sigma
import Mathlib.Algebra.BigOperators.Ring.Finset
import Mathlib.Algebra.Order.BigOperators.Group.Finset
import Mathlib.Algebra.Order.Floor.Semifield
import Mathlib.Data.Rat.Floor
import Mathlib.Tactic.FieldSimp
import Mathlib.Tactic.Ring
import QrSymbol.Proofs.MaximalRuns
import QrSymbol.Proofs.OccurrenceSearch
import QrSymbol.Proofs.SquareCells

/-!
# The rules of the penalty

The penalty of a grid is said here once more by the colours of its modules
(`Penalty.Measures`): the cost of the maximal runs of its rows and columns, the number
of its one-coloured blocks, the number of places at which a finder's sequence begins in
a row or a column, and the share of its dark modules as a rational number.

The grid is read line by line.  Its lines are the colours along a row or a column
(`Grid.darkRows_eq`, `Grid.darkColumns_eq`), so a sum over the lines is a sum over the
numbers of rows and columns (`Grid.foldr_lines`).  Then each rule has its own lemma, and
`Penalty.measures_ofGrid` puts them together.
-/

namespace QrSymbol

open Finset

/-! ## Lines -/

namespace Grid

/-- The colours of row `y`, from the left. -/
def rowColours (g : Grid) (y : Nat) : List Bool := (List.range g.side).map fun x => g.isDark x y

/-- The colours of column `x`, from the top. -/
def columnColours (g : Grid) (x : Nat) : List Bool :=
  (List.range g.side).map fun y => g.isDark x y

variable (g : Grid)

theorem length_rowColours (y : Nat) : (g.rowColours y).length = g.side := by
  rw [rowColours, List.length_map, List.length_range]

theorem length_columnColours (x : Nat) : (g.columnColours x).length = g.side := by
  rw [columnColours, List.length_map, List.length_range]

variable {g} in
theorem map_dark_get? {x y : Nat} (hx : x < g.side) (hy : y < g.side) :
    (g.get? x y).map Module.dark = some (g.isDark x y) := by
  obtain ⟨m, hm⟩ := Square.exists_get?_eq_some hx hy
  rw [isDark, hm, Option.map_some]

theorem darkRows_eq : g.darkRows = (List.range g.side).map g.rowColours := by
  rw [darkRows, Square.rows_eq, List.map_map]
  refine List.map_congr_left fun y hy => ?_
  rw [Function.comp_apply, Square.row, List.map_filterMap, rowColours, ← List.filterMap_eq_map]
  refine List.filterMap_congr fun x hx => ?_
  exact map_dark_get? (List.mem_range.mp hx) (List.mem_range.mp hy)

theorem darkColumns_eq : g.darkColumns = (List.range g.side).map g.columnColours := by
  rw [darkColumns, Square.columns, List.map_map]
  refine List.map_congr_left fun x hx => ?_
  rw [Function.comp_apply, Square.column, List.map_filterMap, columnColours,
    ← List.filterMap_eq_map]
  refine List.filterMap_congr fun y hy => ?_
  exact map_dark_get? (List.mem_range.mp hx) (List.mem_range.mp hy)

/-- What all lines cost is the sum over the rows and the columns. -/
theorem foldr_lines (cost : List Bool → Nat) :
    (g.darkRows ++ g.darkColumns).foldr (fun line n => cost line + n) 0
      = ∑ i ∈ range g.side, (cost (g.rowColours i) + cost (g.columnColours i)) := by
  calc (g.darkRows ++ g.darkColumns).foldr (fun line n => cost line + n) 0
      = ((g.darkRows ++ g.darkColumns).map cost).sum := by
        rw [List.sum_eq_foldr, List.foldr_map]
    _ = ((List.range g.side).map fun y => cost (g.rowColours y)).sum
          + ((List.range g.side).map fun x => cost (g.columnColours x)).sum := by
        rw [List.map_append, List.sum_append, darkRows_eq, darkColumns_eq, List.map_map,
          List.map_map]
        rfl
    _ = _ := by
        rw [sum_add_distrib]
        rfl

/-- Whether the four modules from column `x` of row `y` on have one colour. -/
def IsBlock (x y : Nat) : Prop :=
  g.isDark x y = g.isDark (x + 1) y ∧ g.isDark x y = g.isDark x (y + 1) ∧
    g.isDark x y = g.isDark (x + 1) (y + 1)

instance (x y : Nat) : Decidable (g.IsBlock x y) := inferInstanceAs (Decidable (_ ∧ _ ∧ _))

/-- The places of the one-coloured blocks. -/
def blocks : Finset (Nat × Nat) := {c ∈ squareCells (g.side - 1) | g.IsBlock c.1 c.2}

/-- The places of the dark modules. -/
def darkCells : Finset (Nat × Nat) := {c ∈ squareCells g.side | g.isDark c.1 c.2}

theorem darkCount_eq : g.darkCount = #g.darkCells := by
  rw [darkCount, Square.count_eq_card, darkCells]
  refine congrArg card (filter_congr fun c _ => ?_)
  rw [isDark]
  cases g.get? c.1 c.2 with
  | none => exact Iff.rfl
  | some m => exact Iff.rfl

theorem card_darkCells_le : #g.darkCells ≤ g.side * g.side := by
  calc #g.darkCells ≤ #(squareCells g.side) := card_filter_le _ _
    _ = g.side * g.side := by rw [squareCells, card_product, card_range]

end Grid

namespace Penalty

/-! ## Blocks -/

/-- Between two lines, the blocks are counted from the left. -/
theorem blocksBetween_map_range (upper lower : Nat → Bool) (n : Nat) :
    blocksBetween ((List.range n).map upper) ((List.range n).map lower)
      = ∑ x ∈ range (n - 1), if upper x = upper (x + 1) ∧ upper x = lower x
          ∧ upper x = lower (x + 1) then 1 else 0 := by
  induction n generalizing upper lower with
  | zero => rfl
  | succ n ih =>
      cases n with
      | zero => rfl
      | succ n =>
          specialize ih (fun x => upper (x + 1)) (fun x => lower (x + 1))
          rw [Nat.add_sub_cancel] at ih ⊢
          rw [sum_range_succ', ← ih, List.range_succ_eq_map, List.range_succ_eq_map]
          simp only [List.map_cons, List.map_map, Function.comp_def, blocksBetween,
            Nat.zero_add, Nat.succ_eq_add_one]
          exact Nat.add_comm _ _

/-- The blocks are counted between each line and the next. -/
theorem blocksIn_map_range (line : Nat → List Bool) (n : Nat) :
    blocksIn ((List.range n).map line)
      = ∑ y ∈ range (n - 1), blocksBetween (line y) (line (y + 1)) := by
  induction n generalizing line with
  | zero => rfl
  | succ n ih =>
      cases n with
      | zero => rfl
      | succ n =>
          specialize ih fun y => line (y + 1)
          rw [Nat.add_sub_cancel] at ih ⊢
          rw [sum_range_succ', ← ih, List.range_succ_eq_map, List.range_succ_eq_map]
          simp only [List.map_cons, List.map_map, Function.comp_def, blocksIn,
            Nat.zero_add, Nat.succ_eq_add_one]
          exact Nat.add_comm _ _

theorem blocksIn_darkRows (g : Grid) : blocksIn g.darkRows = #g.blocks := by
  rw [Grid.darkRows_eq, blocksIn_map_range, Grid.blocks, card_filter, squareCells,
    sum_product_right]
  refine sum_congr rfl fun y _ => ?_
  exact blocksBetween_map_range (fun x => g.isDark x y) (fun x => g.isDark x (y + 1)) g.side

/-! ## Finders -/

/-- The places of a line at which a finder's sequence begins, with the light run on
either side. -/
def finderOccurrences (line : List Bool) : Nat :=
  occurrences finderBefore line + occurrences finderAfter line

theorem ofFinders_eq (line : List Bool) : ofFinders line = finderOccurrences line * 40 := by
  have hbefore : finderBeforeTable.count line = occurrences finderBefore line :=
    (BorderTable.describes_ofPattern finderBefore).count_eq (by decide) line
  have hafter : finderAfterTable.count line = occurrences finderAfter line :=
    (BorderTable.describes_ofPattern finderAfter).count_eq (by decide) line
  rw [ofFinders, hbefore, hafter, finderOccurrences]

theorem finderOccurrences_le (line : List Bool) : finderOccurrences line ≤ 2 * line.length := by
  have hplaces : ∀ pattern, occurrences pattern line ≤ line.length := by
    intro pattern
    calc occurrences pattern line ≤ #(range line.length) := card_filter_le _ _
      _ = line.length := card_range _
  have hbefore := hplaces finderBefore
  have hafter := hplaces finderAfter
  rw [finderOccurrences]
  omega

/-! ## Balance -/

/-- The steps of five percent between the share of dark modules and one half. -/
def balanceSteps (dark total : Nat) : Nat := ⌊|100 * (dark : ℚ) / total - 50| / 5⌋₊

theorem balanceSteps_eq {dark total : Nat} (htotal : 0 < total) :
    balanceSteps dark total
      = ((20 * dark - 10 * total) + (10 * total - 20 * dark)) / total := by
  have hpos : (0 : ℚ) < total := by exact_mod_cast htotal
  have hdistance : |(20 : ℚ) * dark - 10 * total|
      = ((20 * dark - 10 * total) + (10 * total - 20 * dark) : Nat) := by
    rcases Nat.le_total (20 * dark) (10 * total) with hle | hle
    · have hcast : (20 : ℚ) * dark ≤ 10 * total := by exact_mod_cast hle
      rw [Nat.sub_eq_zero_of_le hle, Nat.zero_add, abs_of_nonpos (sub_nonpos.mpr hcast),
        Nat.cast_sub hle]
      push_cast
      ring
    · have hcast : (10 : ℚ) * total ≤ 20 * dark := by exact_mod_cast hle
      rw [Nat.sub_eq_zero_of_le hle, Nat.add_zero, abs_of_nonneg (sub_nonneg.mpr hcast),
        Nat.cast_sub hle]
      push_cast
      ring
  have hshare : |100 * (dark : ℚ) / total - 50| / 5 = |(20 : ℚ) * dark - 10 * total| / total := by
    calc |100 * (dark : ℚ) / total - 50| / 5 = |(100 * (dark : ℚ) / total - 50) / 5| := by
          rw [abs_div, abs_of_pos (by norm_num : (0 : ℚ) < 5)]
      _ = |(20 * (dark : ℚ) - 10 * total) / total| := by
          congr 1
          field_simp
          ring
      _ = _ := by rw [abs_div, abs_of_pos hpos]
  rw [balanceSteps, hshare, hdistance, Nat.floor_div_eq_div]

theorem ofBalance_eq {dark total : Nat} (htotal : 0 < total) :
    ofBalance dark total = balanceSteps dark total * 10 := by
  rw [ofBalance, balanceSteps_eq htotal]

theorem balanceSteps_le {dark total : Nat} (htotal : 0 < total) (hdark : dark ≤ total) :
    balanceSteps dark total ≤ 10 := by
  rw [balanceSteps_eq htotal]
  refine Nat.div_le_of_le_mul ?_
  omega

/-! ## All rules -/

/-- What the penalty of a grid says of the colours of its modules. -/
structure Measures (p : Penalty) (g : Grid) : Prop where
  /-- A run of five or more modules costs two less than its length. -/
  runs_eq : p.runs = ∑ i ∈ range g.side, (runCost (g.rowColours i) + runCost (g.columnColours i))
  /-- A block costs three. -/
  blocks_eq : p.blocks = 3 * #g.blocks
  /-- A finder's sequence with a light run beside it costs forty. -/
  finders_eq : p.finders = 40 * ∑ i ∈ range g.side,
    (finderOccurrences (g.rowColours i) + finderOccurrences (g.columnColours i))
  /-- A step of five percent away from one half costs ten. -/
  balance_eq : p.balance = 10 * balanceSteps #g.darkCells (g.side ^ 2)
  /-- The penalty is the sum of the four. -/
  total_eq : p.total = p.runs + p.blocks + p.finders + p.balance
  /-- In a grid no larger than the largest symbol it fits a word of 32 bits. -/
  total_lt : g.side ≤ Version.greatest.side → p.total < 2 ^ 32

/-- Lines that cost no more than a multiple of their length cost no more than that of
all modules, each being in two lines. -/
theorem sum_lines_le {g : Grid} {cost : List Bool → Nat} {factor : Nat}
    (h : ∀ line, cost line ≤ factor * line.length) :
    ∑ i ∈ range g.side, (cost (g.rowColours i) + cost (g.columnColours i))
      ≤ g.side * (2 * factor * g.side) := by
  calc _ ≤ ∑ _i ∈ range g.side, 2 * factor * g.side := by
        refine sum_le_sum fun i _ => ?_
        have hrow := h (g.rowColours i)
        have hcolumn := h (g.columnColours i)
        rw [g.length_rowColours] at hrow
        rw [g.length_columnColours] at hcolumn
        rw [Nat.mul_assoc, Nat.two_mul]
        exact Nat.add_le_add hrow hcolumn
    _ = _ := by
        rw [sum_const, card_range]
        rfl

/-- No rule overflows a word of 32 bits in a grid no larger than the largest symbol. -/
theorem sum_rules_lt {g : Grid} (hside : 1 ≤ g.side) (hle : g.side ≤ Version.greatest.side) :
    ∑ i ∈ range g.side, (runCost (g.rowColours i) + runCost (g.columnColours i)) + 3 * #g.blocks
      + 40 * ∑ i ∈ range g.side,
        (finderOccurrences (g.rowColours i) + finderOccurrences (g.columnColours i))
      + 10 * balanceSteps #g.darkCells (g.side ^ 2) < 2 ^ 32 := by
  have hlines : ∀ factor, g.side * (2 * factor * g.side) ≤ 177 * (2 * factor * 177) :=
    fun factor => Nat.mul_le_mul hle (Nat.mul_le_mul_left _ hle)
  have hruns := (sum_lines_le (g := g) fun line =>
    (ofRuns_eq line ▸ ofRuns_le line).trans_eq (Nat.one_mul _).symm).trans (hlines 1)
  have hfinders := (sum_lines_le (g := g) finderOccurrences_le).trans (hlines 2)
  have hblocks : #g.blocks ≤ 177 * 177 := by
    calc #g.blocks ≤ #(squareCells (g.side - 1)) := card_filter_le _ _
      _ = (g.side - 1) * (g.side - 1) := by rw [squareCells, card_product, card_range]
      _ ≤ 177 * 177 := Nat.mul_le_mul ((Nat.sub_le _ _).trans hle) ((Nat.sub_le _ _).trans hle)
  have hbalance : balanceSteps #g.darkCells (g.side ^ 2) ≤ 10 := by
    rw [Nat.pow_two]
    exact balanceSteps_le (Nat.mul_pos hside hside) g.card_darkCells_le
  omega

/-- The penalty of a grid is that of its colours. -/
theorem measures_ofGrid {g : Grid} (hside : 1 ≤ g.side) : (ofGrid g).Measures g := by
  have htotal : 0 < g.side * g.side := Nat.mul_pos hside hside
  have hruns : (ofGrid g).runs
      = ∑ i ∈ range g.side, (runCost (g.rowColours i) + runCost (g.columnColours i)) := by
    simp only [← ofRuns_eq]
    exact g.foldr_lines ofRuns
  have hblocks : (ofGrid g).blocks = 3 * #g.blocks := by
    rw [← blocksIn_darkRows, Nat.mul_comm]
    rfl
  have hfinders : (ofGrid g).finders = 40 * ∑ i ∈ range g.side,
      (finderOccurrences (g.rowColours i) + finderOccurrences (g.columnColours i)) := by
    rw [Nat.mul_comm, sum_mul]
    simp only [Nat.add_mul, ← ofFinders_eq]
    exact g.foldr_lines ofFinders
  have hbalance : (ofGrid g).balance = 10 * balanceSteps #g.darkCells (g.side ^ 2) := by
    rw [Nat.pow_two, Nat.mul_comm, ← ofBalance_eq htotal, ← Grid.darkCount_eq]
    rfl
  refine ⟨hruns, hblocks, hfinders, hbalance, rfl, fun hle => ?_⟩
  rw [total, hruns, hblocks, hfinders, hbalance]
  exact sum_rules_lt hside hle

/-- A light grid but for a row that holds a finder's sequence. -/
theorem measures_ofGrid_finder_row :
    let g : Grid := .ofFn 11 fun x y => ⟨.data, decide (y = 2) && finderBefore.getD x false⟩
    1 ≤ g.side ∧ ofGrid g = ⟨174, 258, 40, 90⟩ ∧ (ofGrid g).Measures g :=
  ⟨by decide, by decide +kernel, measures_ofGrid (by decide)⟩

end Penalty

end QrSymbol
