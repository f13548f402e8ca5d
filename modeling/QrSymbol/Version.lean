import QrSymbol.Mode

/-!
# Symbol versions

The version is the size class of a symbol, 1 to 40.  Each version is four
modules wider than the one before, from 21 to 177 modules a side.  Versions
from 7 on carry their own number in two blocks of the symbol
(`Version.hasInfo`).  The version and the mode together fix the width of the
character count in front of the payload (`Version.countBits`).
-/

namespace QrSymbol

/-- A size class, 1 to 40. -/
structure Version where
  /-- The number of the version. -/
  number : Nat
  /-- There is no version 0. -/
  one_le : 1 ≤ number
  /-- There is no version 41. -/
  le_forty : number ≤ 40
deriving DecidableEq, Repr

namespace Version

@[ext] theorem ext_number {v w : Version} (h : v.number = w.number) : v = w := by
  cases v; cases w; cases h; rfl

/-- The version of a number, if there is one. -/
def ofNat? (n : Nat) : Option Version :=
  if h : 1 ≤ n ∧ n ≤ 40 then some ⟨n, h.1, h.2⟩ else none

@[simp] theorem ofNat?_number (v : Version) : ofNat? v.number = some v := by
  simp [ofNat?, v.one_le, v.le_forty]

theorem ofNat?_eq_none_iff {n : Nat} : ofNat? n = none ↔ n = 0 ∨ 40 < n := by
  unfold ofNat?
  split <;> simp <;> omega

/-- The smallest version. -/
def least : Version := ⟨1, by decide, by decide⟩

/-- The largest version. -/
def greatest : Version := ⟨40, by decide, by decide⟩

/-- The forty versions, smallest first. -/
def all : List Version :=
  (List.finRange 40).map fun i => ⟨i.val + 1, Nat.le_add_left 1 i.val, i.isLt⟩

theorem mem_all (v : Version) : v ∈ all := by
  refine List.mem_map.mpr ⟨⟨v.number - 1, ?_⟩, List.mem_finRange _, ?_⟩
  · have := v.one_le
    have := v.le_forty
    omega
  · ext
    have := v.one_le
    simp
    omega

instance decidableForall {p : Version → Prop} [DecidablePred p] : Decidable (∀ v, p v) :=
  decidable_of_iff (∀ v ∈ all, p v) ⟨fun h v => h v (mem_all v), fun h v _ => h v⟩

/-- A version and every larger one, smallest first. -/
def upward (v : Version) : List Version :=
  all.filter fun w => decide (v.number ≤ w.number)

theorem mem_upward {v w : Version} : w ∈ v.upward ↔ v.number ≤ w.number := by
  simp [upward, mem_all]

/-- The place of a version among the forty, from 0. -/
def index (v : Version) : Fin 40 :=
  ⟨v.number - 1, by have := v.one_le; have := v.le_forty; omega⟩

/-- The number of modules on a side. -/
def side (v : Version) : Nat := 4 * v.number + 17

/-- Whether the symbol carries its version number. -/
def hasInfo (v : Version) : Bool := decide (7 ≤ v.number)

/-- The width of the character count.  It grows at version 10 and again at
version 27. -/
def countBits (v : Version) (mode : Mode) : Nat :=
  let step (small medium large : Nat) : Nat :=
    if v.number ≤ 9 then small else if v.number ≤ 26 then medium else large
  match mode with
  | .numeric => step 10 12 14
  | .alphanumeric => step 9 11 13
  | .byte => step 8 16 16
  | .kanji => step 8 10 12

end Version

end QrSymbol
