import Mathlib.Algebra.Field.ZMod
import Mathlib.RingTheory.AdjoinRoot
import Mathlib.Tactic.ComputeDegree
import Mathlib.Tactic.LinearCombination
import QrSymbol.Proofs.FieldOf256

/-!
# The elements as residues

The 256 elements stand for the polynomials over two elements modulo
`x^8 + x^4 + x^3 + x^2 + 1` (`Residue`).  Bit `i` of an element is its coefficient of
`x^i` (`Gf256.residue`).  The sum is taken coefficient by coefficient, and doubling
shifts the coefficients up, where the ninth one is folded back in by the modulus
(`Gf256.residue_double`).  The product is made of these two, so it is the product of the
residues (`Gf256.residue_mul`).

Every element but zero has an inverse, being a power of `α`, so different elements have
different residues (`Gf256.residue_injective`).  What is said of residues is so said of the
elements themselves.
-/

namespace QrSymbol

open Polynomial

/-! ## Residues -/

/-- The polynomial modulo which elements are taken. -/
noncomputable def modulus : (ZMod 2)[X] := X ^ 8 + X ^ 4 + X ^ 3 + X ^ 2 + 1

/-- The polynomials over two elements, modulo the modulus. -/
abbrev Residue := AdjoinRoot modulus

namespace Residue

/-- The residue of `x`. -/
noncomputable def x : Residue := AdjoinRoot.root modulus

theorem two_eq_zero : (2 : Residue) = 0 := by
  have h : AdjoinRoot.of modulus 2 = 2 := map_ofNat _ 2
  rw [← h]
  exact map_zero _

theorem add_self (a : Residue) : a + a = 0 := by rw [← two_mul, two_eq_zero, zero_mul]

/-- What a ninth coefficient is folded into. -/
theorem x_pow_eight : x ^ 8 = x ^ 4 + x ^ 3 + x ^ 2 + 1 := by
  have h : x ^ 8 + x ^ 4 + x ^ 3 + x ^ 2 + 1 = 0 := by
    have hmodulus : AdjoinRoot.mk modulus (X ^ 8 + X ^ 4 + X ^ 3 + X ^ 2 + 1) = 0 :=
      AdjoinRoot.mk_self
    simpa only [map_add, map_pow, map_one, AdjoinRoot.mk_X, x] using hmodulus
  linear_combination h - (x ^ 4 + x ^ 3 + x ^ 2 + 1) * two_eq_zero

instance : Nontrivial Residue := by
  have hdegree : modulus.degree = 8 := by
    rw [modulus]
    compute_degree!
  exact AdjoinRoot.nontrivial modulus (by rw [hdegree]; decide)

end Residue

/-! ## The residue of an element -/

namespace Gf256

/-- The residue of an element: bit `i` is the coefficient of `x^i`. -/
noncomputable def residue (a : Gf256) : Residue :=
  ∑ i ∈ Finset.range 8, if a.bits.getLsbD i then Residue.x ^ i else 0

theorem residue_zero : residue 0 = 0 := by
  have hbits : (0 : Gf256).bits = 0 := rfl
  simp [residue, hbits]

theorem residue_one : residue 1 = 1 := by
  have hbits : (1 : Gf256).bits = 1 := rfl
  simp [residue, hbits]

theorem residue_add (a b : Gf256) : residue (a + b) = residue a + residue b := by
  rw [residue, residue, residue, ← Finset.sum_add_distrib]
  refine Finset.sum_congr rfl fun i _ => ?_
  rw [add_def, BitVec.getLsbD_xor]
  cases a.bits.getLsbD i <;> cases b.bits.getLsbD i <;> simp [Residue.add_self]

/-- Shifting the coefficients up multiplies by `x`, but for the highest one. -/
theorem residue_shiftLeft (a : Gf256) :
    residue ⟨a.bits <<< 1⟩ + (if a.bits.msb then Residue.x ^ 8 else 0) = residue a * Residue.x := by
  have hlow : residue ⟨a.bits <<< 1⟩
      = ∑ i ∈ Finset.range 7, if a.bits.getLsbD i then Residue.x ^ (i + 1) else 0 := by
    rw [residue, Finset.sum_range_succ', if_neg (by simp), add_zero]
    refine Finset.sum_congr rfl fun i hi => ?_
    have hbound : i + 1 < 8 := Nat.succ_lt_succ (Finset.mem_range.mp hi)
    rw [BitVec.getLsbD_shiftLeft]
    simp [hbound, -BitVec.getLsbD_eq_getElem]
  have hall : residue a * Residue.x
      = ∑ i ∈ Finset.range 8, if a.bits.getLsbD i then Residue.x ^ (i + 1) else 0 := by
    rw [residue, Finset.sum_mul]
    refine Finset.sum_congr rfl fun i _ => ?_
    rw [ite_mul, zero_mul, pow_succ]
  rw [hlow, hall, Finset.sum_range_succ _ 7, BitVec.msb_eq_getLsbD_last]

/-- Doubling is multiplication by `x`: the ninth coefficient is folded back in. -/
theorem residue_double (a : Gf256) : residue a.double = residue a * Residue.x := by
  have hfold : residue ⟨0x1D⟩ = Residue.x ^ 8 := by
    have hbits : residue ⟨0x1D⟩ = 1 + Residue.x ^ 2 + Residue.x ^ 3 + Residue.x ^ 4 := by
      simp [residue, Finset.sum_range_succ]
    rw [hbits, Residue.x_pow_eight]
    ring
  rw [← residue_shiftLeft, double]
  cases a.bits.msb with
  | false => simp
  | true => rw [if_pos rfl, if_pos rfl, ← hfold, ← residue_add, add_def]

/-- Horner's rule on a factor is the product by what it makes of one. -/
theorem residue_timesBits (a : Gf256) (l : List Bool) :
    residue (a.timesBits l) = residue a * residue ((1 : Gf256).timesBits l) := by
  induction l with
  | nil => rw [timesBits_nil, timesBits_nil, residue_zero, mul_zero]
  | cons b l ih =>
      rw [timesBits_cons, timesBits_cons, residue_add, residue_add, residue_double, residue_double,
        ih, mul_add, mul_assoc]
      cases b with
      | false => simp [residue_zero]
      | true => simp [residue_one]

theorem residue_mul (a b : Gf256) : residue (a * b) = residue a * residue b := by
  rw [mul_def, residue_timesBits, one_timesBits]

/-- The elements are read as residues along with their sums and products. -/
noncomputable def residueHom : Gf256 →+* Residue where
  toFun := residue
  map_one' := residue_one
  map_mul' := residue_mul
  map_zero' := residue_zero
  map_add' := residue_add

@[simp] theorem residueHom_apply (a : Gf256) : residueHom a = residue a := rfl

theorem residue_alpha : residue alpha = Residue.x := by
  have h := residue_double 1
  rwa [double_eq, one_mul, residue_one, one_mul] at h

theorem residue_alpha_pow (n : Nat) : residue (alpha ^ n) = Residue.x ^ n := by
  rw [← residueHom_apply, map_pow, residueHom_apply, residue_alpha]

/-- Different elements have different residues: every element but zero has an inverse,
which its residue keeps. -/
theorem residue_injective : Function.Injective residue := by
  refine (injective_iff_map_eq_zero residueHom).mpr fun a ha => ?_
  by_contra hne
  obtain ⟨n, hn, rfl⟩ := exists_alpha_pow hne
  have hinverse : alpha ^ n * alpha ^ (255 - n) = 1 := by
    rw [← pow_add, Nat.add_sub_of_le hn.le, alpha_pow_255]
  have hone := congrArg residueHom hinverse
  rw [map_mul, ha, zero_mul, map_one] at hone
  exact zero_ne_one hone

end Gf256

end QrSymbol
