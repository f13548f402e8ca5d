/-!
# Mask patterns

A mask inverts some of the data modules, so that a finished symbol has few
shapes that disturb a reader.  There are eight, numbered 0 to 7 by the three
bits that stand for them in the format information.  Which modules a mask
inverts depends on the column `x` and the row `y` alone (`Mask.inverts`).
-/

namespace QrSymbol

/-- One of the eight mask patterns. -/
structure Mask where
  /-- The number in the format information. -/
  id : Fin 8
deriving DecidableEq, Repr

namespace Mask

/-- The mask of a number, if there is one. -/
def ofNat? (n : Nat) : Option Mask :=
  if h : n < 8 then some ⟨n, h⟩ else none

@[simp] theorem ofNat?_id (m : Mask) : ofNat? m.id.val = some m := by
  simp [ofNat?]

theorem ofNat?_eq_none_iff {n : Nat} : ofNat? n = none ↔ 8 ≤ n := by
  unfold ofNat?
  split <;> simp <;> omega

/-- The eight masks, by number. -/
def all : List Mask := (List.finRange 8).map Mask.mk

theorem mem_all (m : Mask) : m ∈ all :=
  List.mem_map.mpr ⟨m.id, List.mem_finRange _, rfl⟩

instance decidableForall {p : Mask → Prop} [DecidablePred p] : Decidable (∀ m, p m) :=
  decidable_of_iff (∀ m ∈ all, p m) ⟨fun h m => h m (mem_all m), fun h m _ => h m⟩

/-- Whether a mask inverts the data module in column `x` and row `y`. -/
def inverts (m : Mask) (x y : Nat) : Bool :=
  match m.id.val with
  | 0 => (x + y) % 2 == 0
  | 1 => y % 2 == 0
  | 2 => x % 3 == 0
  | 3 => (x + y) % 3 == 0
  | 4 => (x / 3 + y / 2) % 2 == 0
  | 5 => x * y % 2 + x * y % 3 == 0
  | 6 => (x * y % 2 + x * y % 3) % 2 == 0
  | _ => ((x + y) % 2 + x * y % 3) % 2 == 0

end Mask

end QrSymbol
