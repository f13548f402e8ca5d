import Mathlib.Algebra.Polynomial.Div
import Mathlib.LinearAlgebra.Lagrange
import QrSymbol.Proofs.BlockDistance
import QrSymbol.Proofs.Residues

/-!
# What the correction codewords are

The correction codewords of a block are the remainder of its data, shifted up, by the
generator (`polynomial_remainder`).  Data and correction together vanish at the
generator's roots.  Two words that do so behind the same data differ by a polynomial
that vanishes there too.  It has fewer coefficients than roots, so it is zero, and the
correction is the only word of its length that vanishes (`eq_of_eval_append_eq_zero`).

All this is said once more of bytes, read as residues (`bytePolynomial`).  The polynomial
of some elements is mapped to that of their bytes (`map_residueHom_polynomial`).  Since
different elements have different residues, bytes vanish where their elements do
(`eval_bytePolynomial_eq_zero_iff`).  So the statements about elements hold of the bytes
that are written (`isEncoder_generator`).
-/

namespace QrSymbol.ReedSolomon

open Polynomial

/-! ## The remainder -/

theorem monic_monic (l : List Gf256) : (monic l).Monic :=
  monic_X_pow_add (degree_polynomial_lt l)

theorem degree_monic (l : List Gf256) : (monic l).degree = l.length := by
  rw [monic, degree_add_eq_left_of_degree_lt, degree_X_pow]
  rw [degree_X_pow]
  exact degree_polynomial_lt l

/-- The register is left with the remainder of the division. -/
theorem polynomial_remainder (divisor data : List Gf256) :
    polynomial (remainder divisor data)
      = (polynomial data * X ^ divisor.length) %ₘ monic divisor := by
  obtain ⟨quotient, hquotient⟩ := dvd_append_remainder divisor data
  rw [polynomial_append, length_remainder] at hquotient
  have hdivision : polynomial (remainder divisor data) + monic divisor * quotient
      = polynomial data * X ^ divisor.length := by
    rw [← hquotient, add_left_comm, add_self_polynomial, add_zero]
  have hdegree : (polynomial (remainder divisor data)).degree < (monic divisor).degree := by
    rw [degree_monic, ← length_remainder divisor data]
    exact degree_polynomial_lt _
  exact (div_modByMonic_unique _ _ (monic_monic divisor) ⟨hdivision, hdegree⟩).2.symm

/-- A word is determined by the data before it, if the two vanish at as many powers of `α`
as the word has coefficients. -/
theorem eq_of_eval_append_eq_zero {degree : Nat} (hdegree : degree ≤ 255)
    (data : List Gf256) {word other : List Gf256} (hword : word.length = degree)
    (hother : other.length = degree)
    (hwordRoots : ∀ i < degree, (polynomial (data ++ word)).eval (Gf256.alpha ^ i) = 0)
    (hotherRoots : ∀ i < degree, (polynomial (data ++ other)).eval (Gf256.alpha ^ i) = 0) :
    word = other := by
  have hlen : word.length = other.length := hword.trans hother.symm
  refine eq_of_polynomial_zipWith_eq_zero hlen ?_
  refine eq_zero_of_degree_lt_of_eval_index_eq_zero (s := Finset.range degree)
    (v := fun i => Gf256.alpha ^ i) ?points ?short ?roots
  case points =>
    intro i hi j hj hij
    have hbelow : ∀ k ∈ Finset.range degree, k < 255 := fun k hk =>
      (Finset.mem_range.mp hk).trans_le hdegree
    exact Gf256.alpha_pow_injOn (hbelow i hi) (hbelow j hj) hij
  case short =>
    have h := degree_polynomial_lt (List.zipWith (· + ·) word other)
    rwa [List.length_zipWith, ← hlen, Nat.min_self, hword, ← Finset.card_range degree] at h
  case roots =>
    intro i hi
    have hi := Finset.mem_range.mp hi
    have hsum : polynomial (data ++ word) + polynomial (data ++ other)
        = polynomial (List.zipWith (· + ·) word other) := by
      rw [polynomial_append, polynomial_append, ← hlen, polynomial_zipWith_add hlen,
        add_add_add_comm, add_self_polynomial, zero_add]
    rw [← hsum, eval_add, hwordRoots i hi, hotherRoots i hi, add_zero]

/-! ## Bytes as coefficients -/

/-- The polynomial whose coefficients are bytes, highest first, read as residues. -/
noncomputable def bytePolynomial : List UInt8 → Residue[X]
  | [] => 0
  | byte :: bytes => C (Gf256.ofByte byte).residue * X ^ bytes.length + bytePolynomial bytes

/-- A polynomial of elements is mapped to that of their bytes. -/
theorem map_residueHom_polynomial (l : List Gf256) :
    (polynomial l).map Gf256.residueHom = bytePolynomial (l.map Gf256.toByte) := by
  induction l with
  | nil => exact Polynomial.map_zero _
  | cons c l ih =>
      rw [polynomial_cons, List.map_cons, bytePolynomial, List.length_map, Polynomial.map_add,
        Polynomial.map_mul, Polynomial.map_C, Polynomial.map_pow, Polynomial.map_X, ih,
        Gf256.ofByte_toByte, Gf256.residueHom_apply]

/-- The polynomial of bytes is that of the elements they stand for. -/
theorem bytePolynomial_eq_map (bytes : List UInt8) :
    bytePolynomial bytes = (polynomial (bytes.map Gf256.ofByte)).map Gf256.residueHom := by
  rw [map_residueHom_polynomial, List.map_map]
  exact (congrArg bytePolynomial (List.map_id bytes)).symm

/-- Bytes vanish at a power of `x` when their elements do at that power of `α`. -/
theorem eval_bytePolynomial_eq_zero_iff (bytes : List UInt8) (i : Nat) :
    (bytePolynomial bytes).eval (Residue.x ^ i) = 0
      ↔ (polynomial (bytes.map Gf256.ofByte)).eval (Gf256.alpha ^ i) = 0 := by
  rw [bytePolynomial_eq_map, ← Gf256.residue_alpha_pow, ← Gf256.residueHom_apply,
    eval_map_apply]
  exact map_eq_zero_iff Gf256.residueHom Gf256.residue_injective

/-! ## The correction of bytes -/

/-- The product of the factors `X - x^i` for the powers below a degree. -/
noncomputable def rootProduct (degree : Nat) : Residue[X] :=
  ∏ i ∈ Finset.range degree, (X - C (Residue.x ^ i))

theorem map_monic_generator (degree : Nat) :
    (monic (generator degree)).map Gf256.residueHom = rootProduct degree := by
  rw [monic_generator, Polynomial.map_prod, rootProduct]
  refine Finset.prod_congr rfl fun i _ => ?_
  rw [Polynomial.map_sub, Polynomial.map_X, Polynomial.map_C, Gf256.residueHom_apply,
    Gf256.residue_alpha_pow]

/-- With a leading one, the bytes of the generator are the product of the roots' factors. -/
theorem bytePolynomial_generator (degree : Nat) :
    X ^ degree + bytePolynomial ((generator degree).map Gf256.toByte) = rootProduct degree := by
  rw [← map_residueHom_polynomial, ← map_monic_generator, monic, length_generator,
    Polynomial.map_add, Polynomial.map_pow, Polynomial.map_X]

/-- The correction codewords are the remainder of the data, shifted up. -/
theorem bytePolynomial_correction (degree : Nat) (data : List UInt8) :
    bytePolynomial (correction (generator degree) data)
      = (bytePolynomial data * X ^ degree) %ₘ rootProduct degree := by
  rw [correction, ← map_residueHom_polynomial, polynomial_remainder, length_generator,
    map_modByMonic Gf256.residueHom (monic_monic _), map_monic_generator, Polynomial.map_mul,
    Polynomial.map_pow, Polynomial.map_X, bytePolynomial_eq_map]

/-- Data and correction together vanish at the roots. -/
theorem eval_append_correction {degree i : Nat} (hi : i < degree) (data : List UInt8) :
    (bytePolynomial (data ++ correction (generator degree) data)).eval (Residue.x ^ i) = 0 := by
  rw [eval_bytePolynomial_eq_zero_iff, map_ofByte_append_correction]
  exact eval_eq_zero_of_dvd (dvd_append_remainder _ _) hi

/-- No other word of the length of the correction vanishes at the roots behind the data. -/
theorem eq_correction_of_eval_eq_zero {degree : Nat} (hdegree : degree ≤ 255)
    {data word : List UInt8} (hword : word.length = degree)
    (hroots : ∀ i < degree, (bytePolynomial (data ++ word)).eval (Residue.x ^ i) = 0) :
    word = correction (generator degree) data := by
  have hread : word.map Gf256.ofByte = remainder (generator degree) (data.map Gf256.ofByte) := by
    refine eq_of_eval_append_eq_zero hdegree (data.map Gf256.ofByte) ?_ ?_ (fun i hi => ?_)
      (fun i hi => ?_)
    · rw [List.length_map, hword]
    · rw [length_remainder, length_generator]
    · rw [← List.map_append]
      exact (eval_bytePolynomial_eq_zero_iff _ i).mp (hroots i hi)
    · exact eval_eq_zero_of_dvd (dvd_append_remainder _ _) hi
  rw [correction, ← hread, List.map_map]
  exact (List.map_id word).symm

/-- A divisor and the correction codewords it leads to are those of a degree. -/
structure IsEncoder (degree : Nat) (divisor : List UInt8)
    (encode : List UInt8 → List UInt8) : Prop where
  /-- The divisor has a coefficient for each root. -/
  length_divisor : divisor.length = degree
  /-- Behind a leading one, they are those of the product of the roots' factors. -/
  divisor_eq : X ^ degree + bytePolynomial divisor = rootProduct degree
  /-- There is a correction codeword for each root. -/
  length_encode : ∀ data, (encode data).length = degree
  /-- The correction is the remainder of the data, shifted up by the degree. -/
  encode_eq : ∀ data,
    bytePolynomial (encode data) = (bytePolynomial data * X ^ degree) %ₘ rootProduct degree
  /-- Data and correction together vanish at the roots. -/
  eval_eq_zero : ∀ data, ∀ i < degree,
    (bytePolynomial (data ++ encode data)).eval (Residue.x ^ i) = 0
  /-- No other word of this length does so behind the data. -/
  eq_encode : ∀ data word, word.length = degree →
    (∀ i < degree, (bytePolynomial (data ++ word)).eval (Residue.x ^ i) = 0) →
    word = encode data

/-- The generator and the correction codewords are those of their degree. -/
theorem isEncoder_generator {degree : Nat} (hdegree : degree ≤ 255) :
    IsEncoder degree ((generator degree).map Gf256.toByte) (correction (generator degree)) where
  length_divisor := by rw [List.length_map, length_generator]
  divisor_eq := bytePolynomial_generator degree
  length_encode := length_correction degree
  encode_eq := bytePolynomial_correction degree
  eval_eq_zero := fun data _ hi => eval_append_correction hi data
  eq_encode := fun _ _ hword hroots => eq_correction_of_eval_eq_zero hdegree hword hroots

/-- The generator of degree seven, and the correction codewords it leads to. -/
theorem isEncoder_generator_degree_seven :
    7 ≤ 255 ∧ IsEncoder 7 [127, 122, 154, 164, 11, 68, 117] (correction (generator 7)) := by
  have hdivisor : (generator 7).map Gf256.toByte = [127, 122, 154, 164, 11, 68, 117] := by
    decide +kernel
  have hencoder := isEncoder_generator (by decide : 7 ≤ 255)
  rw [hdivisor] at hencoder
  exact ⟨by decide, hencoder⟩

end QrSymbol.ReedSolomon
