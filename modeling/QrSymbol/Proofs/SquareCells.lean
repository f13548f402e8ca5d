import Mathlib.Data.Finset.Prod
import Mathlib.Order.Interval.Finset.Nat
import QrSymbol.Proofs.Interleaving
import QrSymbol.Square

/-!
# Counting in a rectangle

The cells of a rectangle are numbered row by row.  So a count over the numbers below its
size is a count over its cells (`card_filter_range_mul`), and the entries of a square array
that satisfy a test can be counted as the cells of the square that hold such an entry
(`Square.count_eq_card`).  For the same reason the entries, cut into pieces as long as a
row, are the rows (`Square.rows_eq`).
-/

namespace QrSymbol

open Finset

/-- A count over the first numbers, as the size of a set. -/
theorem countP_range_eq_card (p : Nat → Bool) (n : Nat) :
    (List.range n).countP p = #{i ∈ range n | p i} := by
  rw [List.countP_eq_length_filter, ← List.toFinset_card_of_nodup (List.nodup_range.filter _),
    List.toFinset_filter, List.toFinset_range]

/-- The numbers below the size of a rectangle are the numbers of its cells. -/
theorem card_filter_range_mul (width height : Nat) (p : Nat → Prop) [DecidablePred p] :
    #{i ∈ range (width * height) | p i}
      = #{c ∈ range width ×ˢ range height | p (place width c.1 c.2)} := by
  refine card_nbij' (fun i => (i % width, i / width)) (fun c => place width c.1 c.2) ?_ ?_ ?_ ?_
  · intro i hi
    obtain ⟨hlt, hp⟩ := mem_filter.mp hi
    obtain ⟨hx, hy⟩ := mod_lt_and_div_lt (mem_range.mp hlt)
    refine mem_filter.mpr ⟨mem_product.mpr ⟨mem_range.mpr hx, mem_range.mpr hy⟩, ?_⟩
    rwa [place_mod_div]
  · rintro ⟨x, y⟩ hc
    obtain ⟨hcell, hp⟩ := mem_filter.mp hc
    obtain ⟨hx, hy⟩ := mem_product.mp hcell
    exact mem_filter.mpr
      ⟨mem_range.mpr (place_lt (mem_range.mp hx) (mem_range.mp hy)), hp⟩
  · intro i _
    exact place_mod_div width i
  · rintro ⟨x, y⟩ hc
    have hx := mem_range.mp (mem_product.mp (mem_filter.mp hc).1).1
    exact Prod.ext (place_mod hx) (place_div hx)

/-- The pieces that the entries are cut into are the rows of the square. -/
theorem Square.rows_eq {α : Type} (s : Square α) : s.rows = (List.range s.side).map s.row := by
  rw [rows, cut_eq]
  refine List.map_congr_left fun y hy => ?_
  rw [← filterMap_range_getElem? (List.length_take_le s.side _), row]
  refine List.filterMap_congr fun x hx => ?_
  have hcell := And.intro (List.mem_range.mp hx) (List.mem_range.mp hy)
  rw [List.getElem?_take, if_pos hcell.1, List.getElem?_drop, Array.getElem?_toList, get?,
    if_pos hcell, place]

/-- The cells of a square. -/
def squareCells (side : Nat) : Finset (Nat × Nat) := range side ×ˢ range side

theorem mem_squareCells {side x y : Nat} : (x, y) ∈ squareCells side ↔ x < side ∧ y < side := by
  rw [squareCells, mem_product, mem_range, mem_range]

/-- An array has as many entries that satisfy a test as its square has such cells. -/
theorem Square.count_eq_card {α : Type} (s : Square α) (p : α → Bool) :
    s.count p = ((squareCells s.side).filter fun q => (s.get? q.1 q.2).any p).card := by
  calc s.count p
      = ((List.range (s.side * s.side)).filterMap fun i => s.entries.toList[i]?).countP p := by
        rw [filterMap_range_getElem? (by rw [Array.length_toList, s.size_entries]), count]
    _ = (List.range (s.side * s.side)).countP fun i => (s.entries.toList[i]?).any p := by
        rw [List.countP_filterMap]
        refine List.countP_congr fun i _ => ?_
        cases s.entries.toList[i]? with
        | none => rfl
        | some a => rfl
    _ = #{c ∈ squareCells s.side | (s.entries.toList[place s.side c.1 c.2]?).any p} := by
        rw [countP_range_eq_card, card_filter_range_mul, squareCells]
    _ = _ := by
        refine congrArg card (filter_congr fun c hc => ?_)
        rw [get?, if_pos (mem_squareCells.mp hc), ← Array.getElem?_toList]

end QrSymbol
