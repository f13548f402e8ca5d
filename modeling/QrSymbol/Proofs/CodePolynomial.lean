import Mathlib.Algebra.Polynomial.BigOperators
import Mathlib.Algebra.Polynomial.Roots
import Mathlib.Tactic.LinearCombination
import QrSymbol.Proofs.FieldOf256
import QrSymbol.ReedSolomon

/-!
# Code polynomials

A list of field elements is the polynomial with these coefficients, highest
first (`ReedSolomon.polynomial`).  Under this reading the generator of degree `d`
is the product of the `X - α^i` with `i < d` (`monic_generator`).  The shift
register divides by it: what it holds after the data is congruent to the data
shifted up by `d`.  So data and correction together are a multiple of the
generator (`dvd_append_remainder`).

Every element of the field is its own negative, so the polynomials have no signs
either (`add_self_polynomial`).
-/

namespace QrSymbol.ReedSolomon

open Polynomial

/-! ## Lists as polynomials -/

/-- The polynomial with the given coefficients, highest first. -/
noncomputable def polynomial : List Gf256 → Gf256[X]
  | [] => 0
  | c :: l => C c * X ^ l.length + polynomial l

@[simp] theorem polynomial_nil : polynomial [] = 0 := rfl

theorem polynomial_cons (c : Gf256) (l : List Gf256) :
    polynomial (c :: l) = C c * X ^ l.length + polynomial l := rfl

theorem polynomial_append (l m : List Gf256) :
    polynomial (l ++ m) = polynomial l * X ^ m.length + polynomial m := by
  induction l with
  | nil => simp
  | cons c l ih =>
      rw [List.cons_append, polynomial_cons, polynomial_cons, ih, List.length_append]
      ring

/-- A zero behind the coefficients shifts them up by one. -/
theorem polynomial_append_zero (l : List Gf256) : polynomial (l ++ [0]) = polynomial l * X := by
  rw [polynomial_append, polynomial_cons]
  simp

theorem polynomial_replicate_zero (n : Nat) : polynomial (List.replicate n 0) = 0 := by
  induction n with
  | zero => rfl
  | succ n ih => rw [List.replicate_succ, polynomial_cons, ih, C_0, zero_mul, add_zero]

/-- Sums are taken coefficient by coefficient. -/
theorem polynomial_zipWith_add {l m : List Gf256} (h : l.length = m.length) :
    polynomial (List.zipWith (· + ·) l m) = polynomial l + polynomial m := by
  induction l generalizing m with
  | nil =>
      rw [List.eq_nil_of_length_eq_zero h.symm]
      simp
  | cons a l ih =>
      cases m with
      | nil => cases h
      | cons b m =>
          have hlen : l.length = m.length := Nat.succ.inj h
          have hzip : (List.zipWith (· + ·) l m).length = m.length := by
            rw [List.length_zipWith, hlen, Nat.min_self]
          rw [List.zipWith_cons_cons, polynomial_cons, polynomial_cons, polynomial_cons, ih hlen,
            hzip, hlen, C_add]
          ring

theorem polynomial_map_mul (a : Gf256) (l : List Gf256) :
    polynomial (l.map (a * ·)) = C a * polynomial l := by
  induction l with
  | nil => simp
  | cons c l ih =>
      rw [List.map_cons, polynomial_cons, polynomial_cons, ih, List.length_map, C_mul]
      ring

/-- A polynomial has a lower degree than its list has coefficients. -/
theorem degree_polynomial_lt (l : List Gf256) : (polynomial l).degree < l.length := by
  induction l with
  | nil => exact WithBot.bot_lt_coe 0
  | cons c l ih =>
      rw [polynomial_cons, List.length_cons]
      refine lt_of_le_of_lt (degree_add_le _ _) (max_lt ?_ ?_)
      · exact lt_of_le_of_lt (degree_C_mul_X_pow_le l.length c)
          (by exact_mod_cast Nat.lt_succ_self _)
      · exact ih.trans (by exact_mod_cast Nat.lt_succ_self _)

/-- The zero polynomial has no coefficient but zero. -/
theorem eq_zero_of_polynomial_eq_zero {l : List Gf256} (h : polynomial l = 0) :
    ∀ c ∈ l, c = 0 := by
  induction l with
  | nil => simp
  | cons a l ih =>
      have hlow : (polynomial l).coeff l.length = 0 :=
        coeff_eq_zero_of_degree_lt (degree_polynomial_lt l)
      have ha : a = 0 := by
        have htop := congrArg (fun p => coeff p l.length) h
        simpa [polynomial_cons, hlow] using htop
      intro c hc
      rcases List.mem_cons.mp hc with rfl | hc
      · exact ha
      · refine ih ?_ c hc
        rw [polynomial_cons, ha, C_0, zero_mul, zero_add] at h
        exact h

/-- In a field where every element is its own negative, so is every polynomial. -/
theorem add_self_polynomial (p : Gf256[X]) : p + p = 0 := by
  ext1 n
  rw [coeff_add, Gf256.add_self, coeff_zero]

/-! ## The generator -/

/-- The polynomial with leading coefficient one and the given others. -/
noncomputable def monic (l : List Gf256) : Gf256[X] := X ^ l.length + polynomial l

theorem monic_timesRoot (l : List Gf256) (root : Gf256) :
    monic (timesRoot l root) = monic l * (X - C root) := by
  have hneg : -C root = C root := by rw [← C_neg, Gf256.neg_eq]
  have hlen : (l ++ [0]).length = ((1 :: l).map (root * ·)).length := by simp
  rw [monic, length_timesRoot, timesRoot, polynomial_zipWith_add hlen, polynomial_append_zero,
    polynomial_map_mul, polynomial_cons, monic, sub_eq_add_neg, hneg, C_1]
  ring

/-- The generator is the product of its roots' factors. -/
theorem monic_generator (degree : Nat) :
    monic (generator degree) = ∏ i ∈ Finset.range degree, (X - C (Gf256.alpha ^ i)) := by
  induction degree with
  | zero => simp [monic, generator]
  | succ degree ih =>
      rw [generator, monic_timesRoot, ih, Gf256.exp_eq, Finset.prod_range_succ]

/-- A multiple of the generator vanishes at the generator's roots. -/
theorem eval_eq_zero_of_dvd {degree i : Nat} {p : Gf256[X]} (h : monic (generator degree) ∣ p)
    (hi : i < degree) : p.eval (Gf256.alpha ^ i) = 0 := by
  have hfactor : X - C (Gf256.alpha ^ i) ∣ p := by
    rw [monic_generator] at h
    have hdvd := Finset.dvd_prod_of_mem (fun j : Nat => X - C (Gf256.alpha ^ j))
      (Finset.mem_range.mpr hi)
    exact hdvd.trans h
  exact dvd_iff_isRoot.mp hfactor

/-! ## The shift register -/

theorem length_divideStep {divisor register : List Gf256} (coefficient : Gf256)
    (h : register.length = divisor.length) :
    (divideStep divisor register coefficient).length = divisor.length := by
  cases register with
  | nil => exact h
  | cons high rest =>
      rw [List.length_cons] at h
      simp [divideStep, h]

/-- One step shifts the register up, brings the next coefficient in above it and
takes a multiple of the divisor off. -/
theorem polynomial_divideStep {divisor register : List Gf256} (coefficient : Gf256)
    (h : register.length = divisor.length) :
    ∃ factor : Gf256[X], polynomial (divideStep divisor register coefficient)
      = polynomial register * X + C coefficient * X ^ divisor.length + factor * monic divisor := by
  cases register with
  | nil =>
      obtain rfl := List.eq_nil_of_length_eq_zero h.symm
      refine ⟨C coefficient, ?_⟩
      simp [divideStep, monic, add_self_polynomial]
  | cons high rest =>
      rw [List.length_cons] at h
      refine ⟨C (coefficient + high), ?_⟩
      have hlen : (rest ++ [0]).length = (divisor.map ((coefficient + high) * ·)).length := by
        simp [h]
      rw [divideStep, polynomial_zipWith_add hlen, polynomial_append_zero, polynomial_map_mul,
        polynomial_cons, monic, ← h, C_add]
      have hlow := add_self_polynomial (C coefficient * X ^ (rest.length + 1))
      have hhigh := add_self_polynomial (C high * X ^ (rest.length + 1))
      linear_combination - hlow - hhigh

/-- The register after some data, if the data before it left `register`. -/
theorem dvd_foldl_divideStep {divisor : List Gf256} (data register : List Gf256)
    (h : register.length = divisor.length) :
    (data.foldl (divideStep divisor) register).length = divisor.length ∧
      monic divisor ∣ polynomial register * X ^ data.length
        + polynomial data * X ^ divisor.length
        + polynomial (data.foldl (divideStep divisor) register) := by
  induction data generalizing register with
  | nil =>
      refine ⟨h, ?_⟩
      simp [add_self_polynomial]
  | cons c data ih =>
      obtain ⟨hlen, hdvd⟩ := ih _ (length_divideStep c h)
      refine ⟨hlen, ?_⟩
      obtain ⟨factor, hstep⟩ := polynomial_divideStep c h
      rw [hstep] at hdvd
      rw [List.foldl_cons, List.length_cons, polynomial_cons]
      have hmul : monic divisor ∣ factor * monic divisor * X ^ data.length :=
        (dvd_mul_left (monic divisor) factor).mul_right _
      have hsub := dvd_sub hdvd hmul
      convert hsub using 1
      ring

@[simp] theorem length_remainder (divisor data : List Gf256) :
    (remainder divisor data).length = divisor.length :=
  (dvd_foldl_divideStep data _ List.length_replicate).1

/-- Data with its remainder is a multiple of the divisor. -/
theorem dvd_append_remainder (divisor data : List Gf256) :
    monic divisor ∣ polynomial (data ++ remainder divisor data) := by
  have h := (dvd_foldl_divideStep data (List.replicate divisor.length 0)
    List.length_replicate).2
  rw [polynomial_replicate_zero, zero_mul, zero_add] at h
  rw [polynomial_append, length_remainder]
  exact h

end QrSymbol.ReedSolomon
