import QrSymbol.Proofs.Logarithms
import QrSymbol.ReedSolomon.InPlace

/-!
# The generator in place

A sweep overwrites a place with a value made from the place and the next one, which
the sweep has not reached.  So the new coefficients are a function of the old ones
(`ReedSolomon.sweep_eq`).  In a buffer of zeros, a one and a polynomial, the last zero
becomes the leading one, and behind it stands the polynomial times `X - root`
(`ReedSolomon.Construction.step_eq`).

So after `k` steps the buffer holds `k` zeros less than at the start, a one and the
generator of degree `k`, and the next root is `α^k` (`ReedSolomon.Construction.after_eq`).
When no zero is left, the next step drops the one, and the generator remains
(`ReedSolomon.generatorInPlace_eq`).
-/

namespace QrSymbol.ReedSolomon

/-! ## A sweep -/

/-- The coefficients after a sweep, from those before. -/
def swept (root : Gf256) : List Gf256 → List Gf256
  | [] => []
  | coefficient :: rest => (coefficient * root + rest.headD 0) :: swept root rest

@[simp] theorem updateCoefficient_zero (root coefficient : Gf256) (rest : List Gf256) :
    updateCoefficient root (coefficient :: rest) 0
      = (coefficient * root + rest.headD 0) :: rest := by
  cases rest <;> simp [updateCoefficient, Gf256.mulByLog_eq]

@[simp] theorem updateCoefficient_succ (root coefficient : Gf256) (rest : List Gf256)
    (place : Nat) :
    updateCoefficient root (coefficient :: rest) (place + 1)
      = coefficient :: updateCoefficient root rest place := rfl

/-- One write of the sweep.  It leaves what is before the place and after it alone. -/
theorem updateCoefficient_append (root coefficient : Gf256) (front rest : List Gf256) :
    updateCoefficient root (front ++ coefficient :: rest) front.length
      = front ++ (coefficient * root + rest.headD 0) :: rest := by
  induction front with
  | nil => exact updateCoefficient_zero root coefficient rest
  | cons first front ih => simp [ih]

/-- The sweep from a place on.  The induction is on the places still to come, so the
front holds new coefficients and the rest old ones. -/
theorem foldl_updateCoefficient (root : Gf256) (front rest : List Gf256) :
    (List.range' front.length rest.length).foldl (updateCoefficient root) (front ++ rest)
      = front ++ swept root rest := by
  induction rest generalizing front with
  | nil => rfl
  | cons coefficient rest ih =>
      rw [List.length_cons, List.range'_succ, List.foldl_cons, updateCoefficient_append]
      have h := ih (front ++ [coefficient * root + rest.headD 0])
      simpa [swept] using h

theorem sweep_eq (root : Gf256) (buffer : List Gf256) : sweep root buffer = swept root buffer := by
  rw [sweep, List.range_eq_range']
  exact foldl_updateCoefficient root [] buffer

/-- A sweep is a shift by one place with the multiples of the coefficients added. -/
theorem swept_cons (root coefficient : Gf256) (poly : List Gf256) :
    swept root (coefficient :: poly)
      = List.zipWith (· + ·) (poly ++ [0]) ((coefficient :: poly).map (root * ·)) := by
  induction poly generalizing coefficient with
  | nil => simp [swept, mul_comm, add_comm]
  | cons next poly ih =>
      rw [swept, ih]
      simp [mul_comm root, add_comm next]

/-- Behind a leading one a sweep multiplies by `X - root`. -/
theorem swept_one_cons (root : Gf256) (poly : List Gf256) :
    swept root (1 :: poly) = timesRoot poly root := swept_cons root 1 poly

/-- Zeros stay, but the last of them becomes the leading one. -/
theorem swept_replicate (root : Gf256) (zeros : Nat) (poly : List Gf256) :
    swept root (List.replicate (zeros + 1) 0 ++ 1 :: poly)
      = List.replicate zeros 0 ++ 1 :: timesRoot poly root := by
  induction zeros with
  | zero => simp [swept, ← swept_one_cons]
  | succ zeros ih =>
      rw [List.replicate_succ, List.cons_append, swept, ih]
      simp [List.replicate_succ]

/-! ## The run -/

namespace Construction

theorem start_eq (rest : Nat) :
    start (rest + 1) = ⟨List.replicate rest 0 ++ [1], 1⟩ := by
  rw [start, List.replicate_succ']
  simp

theorem step_eq (zeros : Nat) (poly : List Gf256) (root : Gf256) :
    step ⟨List.replicate (zeros + 1) 0 ++ 1 :: poly, root⟩
      = ⟨List.replicate zeros 0 ++ 1 :: timesRoot poly root, root * Gf256.alpha⟩ := by
  rw [step, sweep_eq, swept_replicate, Gf256.mulByLog_eq]
  rfl

/-- The state after some steps, while there is still a place for the leading one. -/
theorem after_eq (steps rest : Nat) :
    after (rest + steps + 1) steps
      = ⟨List.replicate rest 0 ++ 1 :: generator steps, Gf256.exp steps⟩ := by
  induction steps generalizing rest with
  | zero => exact start_eq rest
  | succ steps ih =>
      have h := ih (rest + 1)
      rw [Nat.add_right_comm rest 1 steps] at h
      rw [after, ← Nat.add_assoc, h, step_eq, Gf256.exp_eq (steps + 1), pow_succ, ← Gf256.exp_eq]
      rfl

end Construction

/-- The construction in place ends in the generator. -/
theorem generatorInPlace_eq (degree : Nat) : generatorInPlace degree = generator degree := by
  cases degree with
  | zero => rfl
  | succ degree =>
      have h := Construction.after_eq degree 0
      rw [Nat.zero_add] at h
      rw [generatorInPlace, Construction.after, h, Construction.step, sweep_eq]
      exact swept_one_cons (Gf256.exp degree) (generator degree)

end QrSymbol.ReedSolomon
