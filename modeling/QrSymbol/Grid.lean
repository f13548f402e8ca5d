import QrSymbol.Bitmap
import QrSymbol.EncodeError
import QrSymbol.Mask
import QrSymbol.Module
import QrSymbol.Square

/-!
# Grids of modules

A grid is a square array of modules.  It can be read module by module, as rows
or columns of colours, or as a bitmap.  Beyond its sides it has no modules and
counts as light.  A mask inverts the data modules it selects and leaves every
function module alone (`Grid.masked`), so it takes itself back
(`Grid.masked_masked`).
-/

namespace QrSymbol

/-- A square of modules. -/
abbrev Grid := Square Module

namespace Grid

/-! ## Reading -/

/-- The module in column `x` of row `y`, or the error that there is none. -/
def module (g : Grid) (x y : Nat) : Except EncodeError Module :=
  match g.get? x y with
  | some m => .ok m
  | none => .error (.outsideMatrix x y g.side)

/-- Whether the module in column `x` of row `y` is dark. -/
def isDark (g : Grid) (x y : Nat) : Bool :=
  match g.get? x y with
  | some m => m.dark
  | none => false

/-- A place outside the grid is light. -/
theorem isDark_outside {g : Grid} {x y : Nat} (h : g.side ≤ x ∨ g.side ≤ y) :
    isDark g x y = false := by
  simp [isDark, Square.get?_eq_none_iff.mpr h]

/-- The rows of colours, `true` for dark. -/
def darkRows (g : Grid) : List (List Bool) := g.rows.map fun row => row.map Module.dark

/-- The columns of colours, `true` for dark. -/
def darkColumns (g : Grid) : List (List Bool) :=
  g.columns.map fun column => column.map Module.dark

/-- The number of dark modules. -/
def darkCount (g : Grid) : Nat := g.count Module.dark

/-- The dark modules as a bitmap. -/
def bitmap (g : Grid) : Bitmap :=
  g.byRow.foldl (fun b (x, y, m) => if m.dark then b.set x y true else b)
    (Bitmap.blank g.side g.side)

/-! ## Masking -/

/-- A module under a mask, in column `x` of row `y`. -/
def maskModule (mask : Mask) (x y : Nat) (m : Module) : Module :=
  if !m.kind.isFunction && mask.inverts x y then m.inverted else m

@[simp] theorem kind_maskModule (mask : Mask) (x y : Nat) (m : Module) :
    (maskModule mask x y m).kind = m.kind := by
  unfold maskModule
  split <;> rfl

/-- A function module is left alone. -/
theorem maskModule_of_function {mask : Mask} {x y : Nat} {m : Module} (h : m.kind ≠ .data) :
    maskModule mask x y m = m := by
  rw [maskModule, ModuleKind.isFunction_eq_true_iff.mpr h, Bool.not_true, Bool.false_and]
  rfl

@[simp] theorem maskModule_maskModule (mask : Mask) (x y : Nat) (m : Module) :
    maskModule mask x y (maskModule mask x y m) = m := by
  unfold maskModule
  split <;> simp_all

/-- The grid with its data modules masked. -/
def masked (g : Grid) (mask : Mask) : Grid := g.mapEntries (maskModule mask)

@[simp] theorem side_masked (g : Grid) (mask : Mask) : (masked g mask).side = g.side := rfl

theorem get?_masked {g : Grid} {mask : Mask} {x y : Nat} :
    (masked g mask).get? x y = (g.get? x y).map (maskModule mask x y) := Square.get?_mapEntries

/-- A mask keeps the kind of every module. -/
theorem map_kind_masked {g : Grid} {mask : Mask} {x y : Nat} :
    ((masked g mask).get? x y).map Module.kind = (g.get? x y).map Module.kind := by
  rw [get?_masked, Option.map_map]
  exact Option.map_congr fun m _ => kind_maskModule mask x y m

/-- A mask takes itself back. -/
theorem masked_masked (g : Grid) (mask : Mask) : masked (masked g mask) mask = g := by
  apply Square.ext_get?
  · rfl
  · intro x y
    rw [get?_masked, get?_masked, Option.map_map]
    cases g.get? x y <;> simp

/-! ## Writing -/

/-- The grid with the listed places set to one module. -/
def setAll (g : Grid) (places : List (Nat × Nat)) (m : Module) : Grid :=
  places.foldl (fun g p => g.set p.1 p.2 m) g

@[simp] theorem side_setAll (g : Grid) (places : List (Nat × Nat)) (m : Module) :
    (setAll g places m).side = g.side := by
  induction places generalizing g with
  | nil => rfl
  | cons p places ih =>
      have := ih (g.set p.1 p.2 m)
      rw [Square.side_set] at this
      exact this

/-- The listed places that lie in the grid hold the module, and no other place
changes. -/
theorem get?_setAll {g : Grid} {places : List (Nat × Nat)} {m : Module} {x y : Nat} :
    (setAll g places m).get? x y =
      if (x, y) ∈ places ∧ x < g.side ∧ y < g.side then some m else g.get? x y := by
  induction places generalizing g with
  | nil => simp [setAll]
  | cons p places ih =>
      have step : setAll g (p :: places) m = setAll (g.set p.1 p.2 m) places m := rfl
      rw [step, ih, Square.side_set, Square.get?_set]
      by_cases hin : x < g.side ∧ y < g.side
      · by_cases hmem : (x, y) ∈ places
        · simp [hin, hmem]
        · by_cases hp : x = p.1 ∧ y = p.2
          · obtain ⟨rfl, rfl⟩ := hp
            simp [hin]
          · have hne : ¬((x, y) = p) := fun e => hp ⟨congrArg Prod.fst e, congrArg Prod.snd e⟩
            have hne' : ¬(x = p.1 ∧ y = p.2 ∧ p.1 < g.side ∧ p.2 < g.side) :=
              fun e => hp ⟨e.1, e.2.1⟩
            simp [hmem, hne, hne']
      · have hne : ¬(x = p.1 ∧ y = p.2 ∧ p.1 < g.side ∧ p.2 < g.side) := by
          rintro ⟨rfl, rfl, h⟩
          exact hin h
        simp [hin, hne]

end Grid

end QrSymbol
