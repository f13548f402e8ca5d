import Mathlib.LinearAlgebra.Vandermonde
import QrSymbol.Proofs.CodePolynomial
import QrSymbol.Proofs.Differences

/-!
# The distance of two blocks

A block of up to 255 codewords is a polynomial of degree below 255.  If it is a
multiple of the generator of degree `d`, it vanishes at `d` successive powers of
`α`.  Suppose that no more than `d` of its coefficients differ from zero.  Then
these equations are a Vandermonde system for the coefficients, whose points are
different powers of `α`, and all coefficients are zero
(`eq_zero_of_card_support_le`).  So a multiple of the generator that is not zero
has more than `d` coefficients, and two different blocks with their correction
differ in more than `d` places (`lt_differences_block`).
-/

namespace QrSymbol.ReedSolomon

open Polynomial

/-! ## The weight of a multiple of the generator -/

/-- A multiple of the generator with no more terms than the generator has roots
is zero. -/
theorem eq_zero_of_card_support_le {degree : Nat} {p : Gf256[X]}
    (hdvd : monic (generator degree) ∣ p) (hdeg : p.degree < 255)
    (hcard : p.support.card ≤ degree) : p = 0 := by
  -- The terms of `p` in order: term `j` has the exponent `e j`.
  let e := p.support.orderEmbOfFin rfl
  have hlt : ∀ j, e j < 255 := by
    intro j
    have hmem := p.support.orderEmbOfFin_mem rfl j
    have hle := le_degree_of_mem_supp _ hmem
    exact_mod_cast lt_of_le_of_lt hle hdeg
  have hpoints : Function.Injective fun j => Gf256.alpha ^ e j := by
    intro i j hij
    exact e.injective (Gf256.alpha_pow_injOn (hlt i) (hlt j) hij)
  have hsystem : ∀ i, i < degree → ∑ j, p.coeff (e j) * (Gf256.alpha ^ e j) ^ i = 0 := by
    intro i hi
    have hroot := eval_eq_zero_of_dvd hdvd hi
    rw [eval_eq_sum, sum_def, ← p.support.map_orderEmbOfFin_univ rfl, Finset.sum_map] at hroot
    rw [← hroot]
    refine Finset.sum_congr rfl fun j _ => ?_
    rw [← pow_mul, ← pow_mul, mul_comm (e j)]
    rfl
  have hzero := Matrix.eq_zero_of_forall_pow_sum_mul_pow_eq_zero hpoints
    fun i => hsystem i (lt_of_lt_of_le i.isLt hcard)
  rw [← support_eq_empty, Finset.eq_empty_iff_forall_notMem]
  intro n hn
  rw [← Finset.mem_coe, ← p.support.range_orderEmbOfFin rfl] at hn
  obtain ⟨j, rfl⟩ := hn
  exact mem_support_iff.mp (p.support.orderEmbOfFin_mem rfl j) (congrFun hzero j)

/-- The terms of a polynomial are among the coefficients other than zero. -/
theorem card_support_polynomial_le (l : List Gf256) :
    (polynomial l).support.card ≤ l.countP fun c => decide (c ≠ 0) := by
  induction l with
  | nil => simp
  | cons c l ih =>
      rw [polynomial_cons, List.countP_cons]
      by_cases hc : c = 0
      · simpa [hc] using ih
      · have hunion := Finset.card_le_card (support_add (p := C c * X ^ l.length)
          (q := polynomial l))
        have htop := card_support_C_mul_X_pow_le_one (c := c) (n := l.length)
        have hcards := Finset.card_union_le (C c * X ^ l.length).support (polynomial l).support
        rw [if_pos (decide_eq_true hc)]
        omega

/-! ## Two multiples of the generator -/

theorem add_eq_zero_iff {a b : Gf256} : a + b = 0 ↔ a = b := by
  rw [add_eq_zero_iff_eq_neg, Gf256.neg_eq]

/-- The coefficients of a sum are zero where the two lists agree. -/
theorem countP_zipWith_add (a b : List Gf256) :
    (List.zipWith (· + ·) a b).countP (fun c => decide (c ≠ 0)) = differences a b := by
  rw [differences, ← List.map_uncurry_zip_eq_zipWith, List.countP_map]
  refine List.countP_congr fun p _ => ?_
  simp [Function.uncurry, add_eq_zero_iff]

/-- Two lists whose sum is zero are equal. -/
theorem eq_of_polynomial_zipWith_eq_zero {a b : List Gf256} (hlen : a.length = b.length)
    (h : polynomial (List.zipWith (· + ·) a b) = 0) : a = b := by
  have hall := eq_zero_of_polynomial_eq_zero h
  refine List.ext_getElem hlen fun i ha hb => ?_
  have hi : i < (List.zipWith (· + ·) a b).length := by
    rw [List.length_zipWith]
    omega
  have hmem := hall _ (List.getElem_mem hi)
  rw [List.getElem_zipWith] at hmem
  exact add_eq_zero_iff.mp hmem

/-- Two different multiples of the generator differ in more places than the
generator has roots. -/
theorem lt_differences_of_dvd {degree : Nat} {a b : List Gf256} (hlen : a.length = b.length)
    (hshort : a.length ≤ 255) (ha : monic (generator degree) ∣ polynomial a)
    (hb : monic (generator degree) ∣ polynomial b) (hne : a ≠ b) :
    degree < differences a b := by
  have hdvd : monic (generator degree) ∣ polynomial (List.zipWith (· + ·) a b) := by
    rw [polynomial_zipWith_add hlen]
    exact dvd_add ha hb
  have hdeg : (polynomial (List.zipWith (· + ·) a b)).degree < 255 := by
    refine lt_of_lt_of_le (degree_polynomial_lt _) ?_
    rw [List.length_zipWith]
    exact_mod_cast (Nat.min_le_left _ _).trans hshort
  by_contra hle
  have hcard := (card_support_polynomial_le (List.zipWith (· + ·) a b)).trans_eq
    (countP_zipWith_add a b)
  exact hne (eq_of_polynomial_zipWith_eq_zero hlen
    (eq_zero_of_card_support_le hdvd hdeg (hcard.trans (Nat.le_of_not_lt hle))))

/-! ## Blocks of bytes -/

@[simp] theorem length_correction (degree : Nat) (data : List UInt8) :
    (correction (generator degree) data).length = degree := by
  rw [correction, List.length_map, length_remainder, length_generator]

/-- A block of bytes, read in the field, is data with its remainder. -/
theorem map_ofByte_append_correction (divisor : List Gf256) (data : List UInt8) :
    (data ++ correction divisor data).map Gf256.ofByte
      = data.map Gf256.ofByte ++ remainder divisor (data.map Gf256.ofByte) := by
  rw [List.map_append, correction, List.map_map]
  exact congrArg _ (List.map_id _)

/-- Two different blocks of data with their correction differ in more places
than there are correction codewords, if a block has no more than 255 codewords. -/
theorem lt_differences_block {degree : Nat} {a b : List UInt8} (hlen : a.length = b.length)
    (hshort : a.length + degree ≤ 255) (hne : a ≠ b) :
    degree < differences a b
      + differences (correction (generator degree) a) (correction (generator degree) b) := by
  have hinj : Function.Injective Gf256.ofByte := Function.LeftInverse.injective
    Gf256.toByte_ofByte
  have hdvd : ∀ data : List UInt8, monic (generator degree)
      ∣ polynomial ((data ++ correction (generator degree) data).map Gf256.ofByte) := by
    intro data
    rw [map_ofByte_append_correction]
    exact dvd_append_remainder _ _
  have hdist := lt_differences_of_dvd (by simp [hlen]) (by simpa using hshort) (hdvd a) (hdvd b)
    fun h => hne (List.append_inj (List.map_injective_iff.mpr hinj h) hlen).1
  rwa [differences_map hinj, differences_append hlen] at hdist

end QrSymbol.ReedSolomon
