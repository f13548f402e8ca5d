import QrSymbol.Proofs.GridRuns

/-!
# The mask with the least penalty

A free choice goes through the trials in the order of their masks and keeps the best so
far, which only a trial with a smaller penalty replaces.  So no trial has less than the
winner, and those in front of it have more (`MaskTrial.total_leastFrom_lt`).  Equal
penalties are common, and it is the order of the trials that settles them.

The winner is a trial of its mask, whether the choice was free or not (`chooseMask_eq`).
What is said of its grid and its penalty therefore follows from what a mask does to a
grid: it inverts the data modules that it selects and nothing else
(`isChosen_chooseMask`).
-/

namespace QrSymbol

/-! ## The order of the trials -/

namespace MaskTrial

/-- The trials of all masks start with that of mask 0. -/
theorem all_eq_cons (unmasked : Grid) :
    all unmasked = ofMask unmasked ⟨0⟩ :: (all unmasked).tail := rfl

theorem ofMask_mem_all (unmasked : Grid) (mask : Mask) : ofMask unmasked mask ∈ all unmasked :=
  List.mem_map_of_mem (Mask.mem_all mask)

/-- They stand in the order of their masks. -/
theorem pairwise_all (unmasked : Grid) :
    (all unmasked).Pairwise fun a b => a.mask.id < b.mask.id := by
  rw [all, Mask.all, List.map_map, List.pairwise_map]
  exact List.pairwise_lt_finRange 8

/-- Of trials in the order of their masks, those in front of the winner have a greater
penalty. -/
theorem total_leastFrom_lt {best : MaskTrial} {trials : List MaskTrial}
    (hordered : (best :: trials).Pairwise fun a b => a.mask.id < b.mask.id) :
    ∀ t ∈ best :: trials, t.mask.id < (best.leastFrom trials).mask.id →
      (best.leastFrom trials).penalty.total < t.penalty.total := by
  induction trials generalizing best with
  | nil =>
      intro t ht hearlier
      rw [List.mem_singleton.mp ht] at hearlier
      exact absurd hearlier (lt_irrefl _)
  | cons u trials ih =>
      obtain ⟨hbest, htrials⟩ := List.pairwise_cons.mp hordered
      obtain ⟨hu, hrest⟩ := List.pairwise_cons.mp htrials
      intro t ht hearlier
      rw [leastFrom] at hearlier ⊢
      split
      · rename_i hless
        rw [if_pos hless] at hearlier
        rcases List.mem_cons.mp ht with rfl | ht
        · exact Nat.lt_of_le_of_lt (total_leastFrom_le u trials u List.mem_cons_self) hless
        · exact ih htrials t ht hearlier
      · rename_i hnotless
        rw [if_neg hnotless] at hearlier
        have hordered' := List.pairwise_cons.mpr
          ⟨fun a ha => hbest a (List.mem_cons_of_mem _ ha), hrest⟩
        rcases List.mem_cons.mp ht with rfl | ht
        · exact ih hordered' t List.mem_cons_self hearlier
        rcases List.mem_cons.mp ht with rfl | ht
        · -- `t` did not replace `best`, so the winner comes from behind both of them.
          have hbefore := lt_trans (hbest t List.mem_cons_self) hearlier
          exact Nat.lt_of_lt_of_le (ih hordered' best List.mem_cons_self hbefore)
            (Nat.le_of_not_lt hnotless)
        · exact ih hordered' t (List.mem_cons_of_mem _ ht) hearlier

/-- A free choice falls on one of the trials of all masks, and on the first with the least
penalty. -/
theorem least_chooseMask (unmasked : Grid) : ∀ t ∈ all unmasked,
    (chooseMask unmasked none).penalty.total ≤ t.penalty.total ∧
      (t.mask.id < (chooseMask unmasked none).mask.id →
        (chooseMask unmasked none).penalty.total < t.penalty.total) := by
  intro t ht
  have hordered := pairwise_all unmasked
  rw [all_eq_cons] at ht hordered
  have hchoice : chooseMask unmasked none
      = leastFrom (ofMask unmasked ⟨0⟩) (all unmasked).tail := rfl
  rw [hchoice]
  exact ⟨total_leastFrom_le _ _ t ht, total_leastFrom_lt hordered t ht⟩

end MaskTrial

/-! ## The winning trial -/

/-- What a trial is that was chosen for an unmasked grid. -/
structure MaskTrial.IsChosen (trial : MaskTrial) (unmasked : Grid) (forced : Option Mask) :
    Prop where
  /-- A forced mask wins. -/
  forced_eq : ∀ {mask : Mask}, forced = some mask → trial.mask = mask
  /-- If there is none, no mask has a smaller penalty than the winner. -/
  least : forced = none → ∀ mask : Mask,
    trial.penalty.total ≤ (Penalty.ofGrid (Grid.masked unmasked mask)).total
  /-- The masks with smaller numbers have greater ones. -/
  first : forced = none → ∀ mask : Mask, mask.id < trial.mask.id →
    trial.penalty.total < (Penalty.ofGrid (Grid.masked unmasked mask)).total
  /-- The side does not change. -/
  side_eq : trial.grid.side = unmasked.side
  /-- A data module is inverted if the mask selects it. -/
  data_eq : ∀ {x y : Nat} {m : Module}, unmasked.get? x y = some m → m.kind = .data →
    trial.grid.get? x y = some ⟨.data, m.dark ^^ trial.mask.inverts x y⟩
  /-- Every other module is left alone. -/
  function_eq : ∀ {x y : Nat} {m : Module}, unmasked.get? x y = some m → m.kind ≠ .data →
    trial.grid.get? x y = some m
  /-- The kinds do not change. -/
  kind_eq : ∀ x y, (trial.grid.get? x y).map Module.kind = (unmasked.get? x y).map Module.kind
  /-- The mask takes itself back. -/
  masked_eq : Grid.masked trial.grid trial.mask = unmasked
  /-- The penalty is that of the grid. -/
  penalty_eq : trial.penalty = Penalty.ofGrid trial.grid

/-- The trial that is chosen for a grid has the forced mask, or else the first of those
with the least penalty.  Its grid and its penalty are those of its mask. -/
theorem isChosen_chooseMask (unmasked : Grid) (forced : Option Mask) :
    (chooseMask unmasked forced).IsChosen unmasked forced := by
  have htrial := chooseMask_eq unmasked forced
  have hgrid : (chooseMask unmasked forced).grid
      = Grid.masked unmasked (chooseMask unmasked forced).mask := congrArg MaskTrial.grid htrial
  exact {
    forced_eq := by
      rintro mask rfl
      rfl
    least := by
      rintro rfl mask
      exact (MaskTrial.least_chooseMask unmasked _ (MaskTrial.ofMask_mem_all unmasked mask)).1
    first := by
      rintro rfl mask hearlier
      exact (MaskTrial.least_chooseMask unmasked _ (MaskTrial.ofMask_mem_all unmasked mask)).2
        hearlier
    side_eq := by rw [hgrid, Grid.side_masked]
    data_eq := by
      intro x y m hm hkind
      rw [hgrid, Grid.get?_masked, hm, Option.map_some, Grid.maskModule_of_data hkind,
        Module.invertedIf, hkind]
    function_eq := by
      intro x y m hm hkind
      rw [hgrid, Grid.get?_masked, hm, Option.map_some, Grid.maskModule_of_function hkind]
    kind_eq := fun x y => by rw [hgrid, Grid.map_kind_masked]
    masked_eq := by rw [hgrid, Grid.masked_masked]
    penalty_eq := by
      rw [hgrid]
      exact congrArg MaskTrial.penalty htrial }

end QrSymbol
