/-!
# Modules

A module is one cell of a symbol, dark or light.  Its kind says what it is for.
Only modules of kind `data` carry codewords, and only they are masked; the
others have a function of their own.
-/

namespace QrSymbol

/-- What a module is for. -/
inductive ModuleKind where
  /-- A mark in three corners by which a reader finds the symbol. -/
  | finder
  /-- The light border of a finder. -/
  | separator
  /-- The alternating row and column that give the scale. -/
  | timing
  /-- A mark by which a reader corrects a bent symbol. -/
  | alignment
  /-- Level and mask. -/
  | format
  /-- The version, from version 7 on. -/
  | version
  /-- The one module that is always dark. -/
  | alwaysDark
  /-- A bit of a codeword. -/
  | data
deriving DecidableEq, Repr

/-- Whether a module of a kind has a function other than carrying data. -/
def ModuleKind.isFunction : ModuleKind → Bool
  | .data => false
  | _ => true

theorem ModuleKind.isFunction_eq_true_iff {kind : ModuleKind} :
    kind.isFunction = true ↔ kind ≠ .data := by
  cases kind <;> decide

/-- A cell of a symbol. -/
structure Module where
  /-- What it is for. -/
  kind : ModuleKind
  /-- Whether it is dark. -/
  dark : Bool
deriving DecidableEq, Repr

namespace Module

/-- The module in the other colour. -/
def inverted (m : Module) : Module := { m with dark := !m.dark }

@[simp] theorem kind_inverted (m : Module) : m.inverted.kind = m.kind := rfl

@[simp] theorem dark_inverted (m : Module) : m.inverted.dark = !m.dark := rfl

@[simp] theorem inverted_inverted (m : Module) : m.inverted.inverted = m := by
  simp [inverted]

end Module

end QrSymbol
