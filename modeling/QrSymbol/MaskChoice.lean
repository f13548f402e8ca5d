import QrSymbol.Grid
import QrSymbol.Penalty.Score

/-!
# Choosing the mask

Every mask is tried on the grid, and each trial has a penalty.  The least
penalty wins, and of equal ones the mask with the smallest number
(`chooseMask`).  A mask the caller asked for wins whatever its penalty.
-/

namespace QrSymbol

/-- A mask tried on a grid. -/
structure MaskTrial where
  /-- The mask. -/
  mask : Mask
  /-- The masked grid. -/
  grid : Grid
  /-- The penalty of the masked grid. -/
  penalty : Penalty

namespace MaskTrial

/-- The trial of a mask. -/
def ofMask (unmasked : Grid) (mask : Mask) : MaskTrial :=
  let grid := Grid.masked unmasked mask
  ⟨mask, grid, Penalty.ofGrid grid⟩

@[simp] theorem mask_ofMask (unmasked : Grid) (mask : Mask) :
    (ofMask unmasked mask).mask = mask := rfl

@[simp] theorem grid_ofMask (unmasked : Grid) (mask : Mask) :
    (ofMask unmasked mask).grid = Grid.masked unmasked mask := rfl

@[simp] theorem penalty_ofMask (unmasked : Grid) (mask : Mask) :
    (ofMask unmasked mask).penalty = Penalty.ofGrid (Grid.masked unmasked mask) := rfl

/-- The trials of all masks, by number. -/
def all (unmasked : Grid) : List MaskTrial := Mask.all.map (ofMask unmasked)

/-- The first trial with the least penalty, of `best` and those after it. -/
def leastFrom (best : MaskTrial) : List MaskTrial → MaskTrial
  | [] => best
  | t :: trials => leastFrom (if t.penalty.total < best.penalty.total then t else best) trials

/-- The least penalty is that of one of the trials. -/
theorem leastFrom_mem (best : MaskTrial) (trials : List MaskTrial) :
    best.leastFrom trials ∈ best :: trials := by
  induction trials generalizing best with
  | nil => exact List.mem_cons_self
  | cons t trials ih =>
      rw [leastFrom]
      split
      · exact List.mem_cons_of_mem _ (ih t)
      · rcases List.mem_cons.mp (ih best) with h | h
        · rw [h]; exact List.mem_cons_self
        · exact List.mem_cons_of_mem _ (List.mem_cons_of_mem _ h)

/-- No trial has less than the least penalty. -/
theorem total_leastFrom_le (best : MaskTrial) (trials : List MaskTrial) :
    ∀ t ∈ best :: trials, (best.leastFrom trials).penalty.total ≤ t.penalty.total := by
  induction trials generalizing best with
  | nil =>
      intro t ht
      rw [List.mem_singleton.mp ht]
      exact Nat.le_refl _
  | cons u trials ih =>
      intro t ht
      rw [leastFrom]
      split
      · rename_i hlt
        rcases List.mem_cons.mp ht with rfl | ht
        · exact Nat.le_trans (ih u u List.mem_cons_self) (Nat.le_of_lt hlt)
        · exact ih u t ht
      · rename_i hle
        rcases List.mem_cons.mp ht with rfl | ht
        · exact ih t t List.mem_cons_self
        · rcases List.mem_cons.mp ht with rfl | ht
          · exact Nat.le_trans (ih best best List.mem_cons_self) (Nat.le_of_not_lt hle)
          · exact ih best t (List.mem_cons_of_mem _ ht)

end MaskTrial

/-- The winning trial: that of the forced mask, or else the first one with the
least penalty. -/
def chooseMask (unmasked : Grid) (forced : Option Mask) : MaskTrial :=
  match forced with
  | some mask => .ofMask unmasked mask
  | none => MaskTrial.leastFrom (.ofMask unmasked ⟨0⟩) (MaskTrial.all unmasked).tail

end QrSymbol
