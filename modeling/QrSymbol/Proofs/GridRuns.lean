import QrSymbol.Proofs.SymbolLayout

/-!
# Runs of grid operations

Between a filled grid and a finished one stand four operations: a mask is put on, a
mask is chosen and put on, and either information word is written (`GridOperation`).
A run takes any number of them in any order (`Grid.run`).

The operations do not disturb one another.  A mask inverts data modules only, and a
word is written to the cells of its own kind.  So a run keeps the layout of a version
(`Grid.LaidOut.run`), and two things about it say the rest.  A data module is inverted
once for each mask that selects it (`Grid.LaidOut.get?_run_of_data`), and the format
information that is read is the one written last (`Grid.LaidOut.read_run`).  Each of
the three is proved for one operation and then, by induction, for all of a run.  From a
filled grid they give what any run leaves (`afterRun_of_fill`).

The mask of a choice depends on the grid that the choice finds, so the masks of a run
are those of its operations along the way (`Grid.masksApplied`).
-/

namespace QrSymbol

/-! ## Operations -/

/-- A step on the way from a filled grid to a finished one. -/
inductive GridOperation where
  /-- Put a mask on the data modules. -/
  | maskBy (mask : Mask)
  /-- Choose a mask, unless one is forced, and put it on. -/
  | maskByChoice (forced : Option Mask)
  /-- Write the format information. -/
  | writeFormat (info : FormatInformation)
  /-- Write the number of a version. -/
  | writeVersion (version : Version)
deriving DecidableEq, Repr

namespace GridOperation

/-- The grid that an operation leaves. -/
def apply (g : Grid) : GridOperation → Grid
  | .maskBy mask => Grid.masked g mask
  | .maskByChoice forced => (chooseMask g forced).grid
  | .writeFormat info => FormatInformation.write info g
  | .writeVersion version => VersionInformation.write version g

/-- The masks that an operation puts on a grid, one or none. -/
def masks (g : Grid) : GridOperation → List Mask
  | .maskBy mask => [mask]
  | .maskByChoice forced => [(chooseMask g forced).mask]
  | .writeFormat _ | .writeVersion _ => []

/-- The format information that an operation writes. -/
def written? : GridOperation → Option FormatInformation
  | .writeFormat info => some info
  | .maskBy _ | .maskByChoice _ | .writeVersion _ => none

/-- Whether a version has room for what an operation writes.  Only the number of a
large version needs room that small versions do not have. -/
def Fits (v : Version) : GridOperation → Prop
  | .writeVersion version => version.number < 7 ∨ 7 ≤ v.number
  | .maskBy _ | .maskByChoice _ | .writeFormat _ => True

instance decidableFits (v : Version) : (op : GridOperation) → Decidable (op.Fits v)
  | .writeVersion version => inferInstanceAs (Decidable (version.number < 7 ∨ 7 ≤ v.number))
  | .maskBy _ | .maskByChoice _ | .writeFormat _ => isTrue trivial

end GridOperation

namespace Grid

/-- The grid that operations leave, one after the other. -/
def run (g : Grid) (ops : List GridOperation) : Grid := ops.foldl GridOperation.apply g

@[simp] theorem run_nil (g : Grid) : run g [] = g := rfl

@[simp] theorem run_cons (g : Grid) (op : GridOperation) (ops : List GridOperation) :
    run g (op :: ops) = run (op.apply g) ops := rfl

/-- The masks that operations put on, one after the other. -/
def masksApplied (g : Grid) : List GridOperation → List Mask
  | [] => []
  | op :: ops => op.masks g ++ masksApplied (op.apply g) ops

end Grid

/-- The format information that operations write last. -/
def lastWritten (ops : List GridOperation) : Option FormatInformation :=
  (ops.filterMap GridOperation.written?).getLast?

theorem lastWritten_cons (op : GridOperation) (ops : List GridOperation) :
    lastWritten (op :: ops) = (lastWritten ops).or op.written? := by
  cases h : op.written? with
  | none => rw [lastWritten, List.filterMap_cons_none h, Option.or_none, lastWritten]
  | some info =>
      rw [lastWritten, List.filterMap_cons_some h, List.getLast?_cons, lastWritten]
      cases (ops.filterMap GridOperation.written?).getLast? with
      | none => rfl
      | some last => rfl

/-! ## Modules under several masks -/

/-- Whether an odd number of masks inverts the data module in column `x` and row `y`. -/
def Mask.oddlyInvert (masks : List Mask) (x y : Nat) : Bool :=
  decide (masks.countP (fun mask => mask.inverts x y) % 2 = 1)

theorem Mask.oddlyInvert_nil (x y : Nat) : oddlyInvert [] x y = false := rfl

theorem Mask.oddlyInvert_singleton (mask : Mask) (x y : Nat) :
    oddlyInvert [mask] x y = mask.inverts x y := by
  rw [oddlyInvert, List.countP_singleton]
  cases mask.inverts x y with
  | false => rfl
  | true => rfl

theorem Mask.oddlyInvert_append (front back : List Mask) (x y : Nat) :
    oddlyInvert (front ++ back) x y = (oddlyInvert front x y ^^ oddlyInvert back x y) := by
  rw [oddlyInvert, oddlyInvert, oddlyInvert, List.countP_append, Bool.eq_iff_iff,
    Bool.xor_iff_ne, ne_eq, decide_eq_decide, decide_eq_true_iff]
  omega

/-- The module, in the other colour if it is to be inverted. -/
def Module.invertedIf (m : Module) (odd : Bool) : Module := { m with dark := m.dark ^^ odd }

@[simp] theorem Module.invertedIf_false (m : Module) : m.invertedIf false = m := by
  rw [invertedIf, Bool.xor_false]

@[simp] theorem Module.invertedIf_invertedIf (m : Module) (a b : Bool) :
    (m.invertedIf a).invertedIf b = m.invertedIf (a ^^ b) := by
  rw [invertedIf, invertedIf, invertedIf, Bool.xor_assoc]

/-- Without masks a cell stays as it is. -/
theorem Module.map_invertedIf_nil (cell : Option Module) (x y : Nat) :
    cell.map (·.invertedIf (Mask.oddlyInvert [] x y)) = cell := by
  simp only [Mask.oddlyInvert_nil, invertedIf_false, Option.map_id']

/-- A data module under a mask is inverted if the mask selects it. -/
theorem Grid.maskModule_of_data {mask : Mask} {x y : Nat} {m : Module} (h : m.kind = .data) :
    maskModule mask x y m = m.invertedIf (mask.inverts x y) := by
  rw [maskModule, h, ModuleKind.isFunction, Bool.not_false, Bool.true_and]
  cases mask.inverts x y with
  | false => rw [if_neg Bool.false_ne_true, Module.invertedIf_false]
  | true => rw [if_pos rfl, Module.inverted, Module.invertedIf, Bool.xor_true]

/-! ## One operation -/

namespace GridOperation

/-- An operation puts a mask on or writes one of the two words. -/
theorem apply_cases (g : Grid) (op : GridOperation) :
    (∃ mask, op.apply g = Grid.masked g mask ∧ op.masks g = [mask] ∧ op.written? = none) ∨
    (∃ info, op = .writeFormat info) ∨ ∃ version, op = .writeVersion version := by
  cases op with
  | maskBy mask => exact .inl ⟨mask, rfl, rfl, rfl⟩
  | maskByChoice forced =>
      have hgrid : (chooseMask g forced).grid = Grid.masked g (chooseMask g forced).mask :=
        congrArg MaskTrial.grid (chooseMask_eq g forced)
      exact .inl ⟨(chooseMask g forced).mask, hgrid, rfl, rfl⟩
  | writeFormat info => exact .inr (.inl ⟨info, rfl⟩)
  | writeVersion version => exact .inr (.inr ⟨version, rfl⟩)

/-- A version that fits carries its number only where the grid's version does. -/
theorem hasInfo_of_fits {v version : Version} (hfits : (writeVersion version).Fits v)
    (h : version.hasInfo = true) : v.hasInfo = true := by
  have hnumber : 7 ≤ version.number := of_decide_eq_true h
  rcases hfits with hsmall | hlarge
  · exact absurd hnumber (Nat.not_le_of_lt hsmall)
  · exact decide_eq_true hlarge

end GridOperation

/-- The format information is read off the modules of its kind. -/
theorem FormatInformation.read_congr {g h : Grid} {v : Version}
    (heq : ∀ x y, v.kind x y = .format → g.get? x y = h.get? x y) : read g = read h := by
  have hdark : ∀ i ∈ (List.range 15).reverse,
      g.isDark (firstPlace i).1 (firstPlace i).2 = h.isDark (firstPlace i).1 (firstPlace i).2 := by
    intro i hi
    have hkind : v.kind (firstPlace i).1 (firstPlace i).2 = .format :=
      Version.kind_eq_format_iff.mpr
        ⟨i, List.mem_range.mp (List.mem_reverse.mp hi), mem_places.mpr (.inl rfl)⟩
    rw [Grid.isDark, Grid.isDark, heq _ _ hkind]
  rw [read, read, spelled, spelled, List.map_congr_left hdark]

namespace Grid.LaidOut

variable {g : Grid} {v : Version} {op : GridOperation} {ops : List GridOperation} {x y : Nat}

/-- A mask inverts the data modules that it selects. -/
theorem get?_masked_of_data (h : g.LaidOut v) (mask : Mask) (hkind : v.kind x y = .data) :
    (Grid.masked g mask).get? x y = (g.get? x y).map (·.invertedIf (mask.inverts x y)) := by
  rw [get?_masked]
  exact Option.map_congr fun m hm => maskModule_of_data ((h.kind_eq hm).trans hkind)

/-- A mask leaves the other modules alone. -/
theorem get?_masked_of_function (h : g.LaidOut v) (mask : Mask) (hkind : v.kind x y ≠ .data) :
    (Grid.masked g mask).get? x y = g.get? x y := by
  rw [get?_masked]
  refine (Option.map_congr fun m hm => ?_).trans Option.map_id'
  rw [← h.kind_eq hm] at hkind
  exact maskModule_of_function hkind

/-- An operation keeps the layout. -/
theorem apply (h : g.LaidOut v) (hfits : op.Fits v) : (op.apply g).LaidOut v := by
  obtain ⟨mask, happly, -⟩ | ⟨info, rfl⟩ | ⟨version, rfl⟩ := op.apply_cases g
  · rw [happly]
    exact h.masked mask
  · exact h.writeFormat info
  · exact h.writeVersion (GridOperation.hasInfo_of_fits hfits)

/-- An operation inverts a data module if the mask that it puts on selects it. -/
theorem get?_apply_of_data (h : g.LaidOut v) (hfits : op.Fits v) (hkind : v.kind x y = .data) :
    (op.apply g).get? x y
      = (g.get? x y).map (·.invertedIf (Mask.oddlyInvert (op.masks g) x y)) := by
  obtain ⟨mask, happly, hmasks, -⟩ | ⟨info, rfl⟩ | ⟨version, rfl⟩ := op.apply_cases g
  · rw [happly, hmasks, Mask.oddlyInvert_singleton]
    exact h.get?_masked_of_data mask hkind
  · rw [GridOperation.masks, Module.map_invertedIf_nil]
    exact FormatInformation.get?_write_of_kind h.side_eq (by rw [hkind]; decide)
  · rw [GridOperation.masks, Module.map_invertedIf_nil]
    exact VersionInformation.get?_write_of_kind h.side_eq (GridOperation.hasInfo_of_fits hfits)
      (by rw [hkind]; decide)

/-- What an operation writes is read, or else what was read before. -/
theorem read_apply (h : g.LaidOut v) (hfits : op.Fits v) :
    FormatInformation.read (op.apply g) = op.written?.or (FormatInformation.read g) := by
  obtain ⟨mask, happly, -, hwritten⟩ | ⟨info, rfl⟩ | ⟨version, rfl⟩ := op.apply_cases g
  · rw [happly, hwritten, Option.none_or]
    exact FormatInformation.read_congr fun x y hkind =>
      h.get?_masked_of_function mask (by rw [hkind]; decide)
  · exact FormatInformation.read_write (h.side_eq ▸ v.twentyOne_le_side)
  · exact FormatInformation.read_congr fun x y hkind =>
      VersionInformation.get?_write_of_kind h.side_eq (GridOperation.hasInfo_of_fits hfits)
        (by rw [hkind]; decide)

/-! ## Runs -/

/-- A run keeps the layout. -/
theorem run (h : g.LaidOut v) (hfits : ∀ op ∈ ops, op.Fits v) : (g.run ops).LaidOut v := by
  induction ops generalizing g with
  | nil => exact h
  | cons op ops ih =>
      obtain ⟨hop, hops⟩ := List.forall_mem_cons.mp hfits
      exact ih (h.apply hop) hops

/-- A run inverts a data module once for each mask that selects it. -/
theorem get?_run_of_data (h : g.LaidOut v) (hfits : ∀ op ∈ ops, op.Fits v)
    (hkind : v.kind x y = .data) : (g.run ops).get? x y
      = (g.get? x y).map (·.invertedIf (Mask.oddlyInvert (g.masksApplied ops) x y)) := by
  induction ops generalizing g with
  | nil => rw [run_nil, masksApplied, Module.map_invertedIf_nil]
  | cons op ops ih =>
      obtain ⟨hop, hops⟩ := List.forall_mem_cons.mp hfits
      -- The masks of the rest are counted from the grid that the first operation leaves.
      rw [run_cons, ih (h.apply hop) hops, h.get?_apply_of_data hop hkind, Option.map_map,
        masksApplied, Mask.oddlyInvert_append]
      simp only [Function.comp_def, Module.invertedIf_invertedIf]

/-- What a run writes last is read, or else what was read before. -/
theorem read_run (h : g.LaidOut v) (hfits : ∀ op ∈ ops, op.Fits v) :
    FormatInformation.read (g.run ops) = (lastWritten ops).or (FormatInformation.read g) := by
  induction ops generalizing g with
  | nil => rfl
  | cons op ops ih =>
      obtain ⟨hop, hops⟩ := List.forall_mem_cons.mp hfits
      -- What the rest writes hides what the first operation wrote.
      rw [run_cons, ih (h.apply hop) hops, h.read_apply hop, lastWritten_cons, Option.or_assoc]

/-- The kind of every module is that of its cell. -/
theorem map_kind (h : g.LaidOut v) :
    (g.get? x y).map Module.kind = if x < v.side ∧ y < v.side then some (v.kind x y) else none := by
  split
  · rename_i hcell
    obtain ⟨m, hm, hkind⟩ := h.exists_get? hcell.1 hcell.2
    rw [hm, Option.map_some, hkind]
  · rename_i hcell
    rw [Square.get?_eq_none_iff.mpr (by rw [h.side_eq]; omega), Option.map_none]

/-- A module of a fixed pattern is the same in all grids laid out for the version. -/
theorem get?_eq_of_pattern {start : Grid} (h : g.LaidOut v) (hstart : start.LaidOut v) {m : Module}
    (hm : start.get? x y = some m) (hformat : m.kind ≠ .format) (hversion : m.kind ≠ .version)
    (hdata : m.kind ≠ .data) : g.get? x y = some m := by
  obtain ⟨hx, hy⟩ := Square.get?_isSome_iff.mp (Option.isSome_of_mem hm)
  rw [hstart.side_eq] at hx hy
  have hkind := hstart.kind_eq hm
  cases hmodule : v.module? x y with
  | none => exact absurd (hkind.trans (Version.kind_of_free hmodule)) hdata
  | some n =>
      rw [Version.kind_of_module? hmodule] at hkind
      rw [hkind] at hformat hversion
      rw [h.pattern_eq hx hy hmodule hformat hversion, ← hm,
        hstart.pattern_eq hx hy hmodule hformat hversion]

end Grid.LaidOut

/-! ## Runs from a filled grid -/

/-- No format information is read before any is written. -/
theorem read_filledGrid (v : Version) (bits : Bits) :
    FormatInformation.read (filledGrid v bits) = none := by
  have hlight : ∀ i ∈ (List.range 15).reverse, Grid.isDark (filledGrid v bits)
      (FormatInformation.firstPlace i).1 (FormatInformation.firstPlace i).2 = false := by
    intro i hi
    have hi := List.mem_range.mp (List.mem_reverse.mp hi)
    have hplace : FormatInformation.firstPlace i ∈ FormatInformation.places v.side i :=
      FormatInformation.mem_places.mpr (.inl rfl)
    obtain ⟨hx, hy⟩ := FormatInformation.places_lt v.twentyOne_le_side hi hplace
    have hmodule := Version.module?_of_kind_format
      (Version.kind_eq_format_iff.mpr ⟨i, hi, hplace⟩)
    rw [Grid.isDark, get?_filledGrid_of_module? hx hy hmodule]
  rw [FormatInformation.read, FormatInformation.spelled, List.map_congr_left hlight]
  -- What is left is that fifteen light modules spell no word of the code.
  decide

/-- What a run leaves of a start that the bits of a version filled, given the masks that
it put on and the format information that it wrote last. -/
structure Grid.AfterRun (g start : Grid) (v : Version) (bits : Bits) (masks : List Mask)
    (written : Option FormatInformation) : Prop where
  /-- Every module keeps its kind. -/
  kind_eq : ∀ x y, (g.get? x y).map Module.kind = (start.get? x y).map Module.kind
  /-- The modules of the fixed patterns keep their colours. -/
  pattern_eq : ∀ {x y : Nat} {m : Module}, start.get? x y = some m →
    m.kind ≠ .format → m.kind ≠ .version → m.kind ≠ .data → g.get? x y = some m
  /-- The data modules stand in the cells that take the bits. -/
  data_iff : ∀ {x y : Nat}, (∃ m, g.get? x y = some m ∧ m.kind = .data) ↔
    (x, y) ∈ (Draft.blank v).freeCells
  /-- Each is the bit of its cell, inverted if an odd number of the masks inverts it. -/
  data_eq : ∀ {x y : Nat} {b : Bool}, ((x, y), b) ∈ (Draft.blank v).freeCells.zip bits →
    g.get? x y = some ⟨.data, b ^^ Mask.oddlyInvert masks x y⟩
  /-- A reader finds the format information that was written, if any was. -/
  read_eq : FormatInformation.read g = written

/-- Bits as many as the free cells fill the grid of a version, and any run from there
keeps the kinds of all modules and the colours of the fixed patterns, inverts each bit
once for each mask that selects it and leaves the format information written last. -/
theorem afterRun_of_fill {v : Version} {bits : Bits} {ops : List GridOperation}
    (hlen : bits.length = (Draft.blank v).freeCount) (hfits : ∀ op ∈ ops, op.Fits v) :
    ∃ start, unmaskedGrid v bits = .ok start ∧
      (start.run ops).AfterRun start v bits (start.masksApplied ops) (lastWritten ops) := by
  rw [Draft.freeCount_blank] at hlen
  have hstart := laidOut_filledGrid hlen
  have hend := hstart.run hfits
  exact ⟨filledGrid v bits, unmaskedGrid_eq hlen, {
    kind_eq := fun x y => by rw [hend.map_kind, hstart.map_kind]
    pattern_eq := fun hm hformat hversion hdata =>
      hend.get?_eq_of_pattern hstart hm hformat hversion hdata
    data_iff := by
      intro x y
      rw [hend.exists_kind_iff, Version.kind_eq_data_iff, Draft.mem_freeCells_blank]
    data_eq := by
      intro x y b hmem
      have hkind := Version.kind_of_free (Draft.mem_freeCells_blank.mp (List.of_mem_zip hmem).1).2
      rw [hstart.get?_run_of_data hfits hkind, get?_filledGrid_of_mem hlen hmem]
      rfl
    read_eq := by rw [hstart.read_run hfits, read_filledGrid, Option.or_none] }⟩

/-- A run that writes both words over and puts one mask on twice, with a choice between. -/
theorem afterRun_of_fill_version_seven :
    let v : Version := ⟨7, by decide, by decide⟩
    let bits : Bits := List.replicate v.dataModules true
    let ops : List GridOperation :=
      [.writeVersion v, .maskBy ⟨5⟩, .writeFormat ⟨.low, ⟨1⟩⟩, .maskByChoice none,
        .writeVersion .greatest, .writeFormat ⟨.high, ⟨3⟩⟩, .maskBy ⟨5⟩]
    bits.length = (Draft.blank v).freeCount ∧ (∀ op ∈ ops, op.Fits v) ∧
      ∃ start, unmaskedGrid v bits = .ok start ∧
        (start.run ops).AfterRun start v bits (start.masksApplied ops) (lastWritten ops) := by
  intro v bits ops
  have hlen : bits.length = (Draft.blank v).freeCount := by
    rw [Draft.freeCount_blank, List.length_replicate]
  have hfits : ∀ op ∈ ops, op.Fits v := by decide
  exact ⟨hlen, hfits, afterRun_of_fill hlen hfits⟩

end QrSymbol
