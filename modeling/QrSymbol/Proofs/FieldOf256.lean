import Mathlib.GroupTheory.OrderOfElement
import Mathlib.Tactic.NormNum.Prime
import QrSymbol.Gf256

/-!
# The field laws of the 256 elements

The sum is exclusive or, so it makes the elements a group in which every element
is its own negative.  The product is Horner's rule on the bits of the second
factor (`Gf256.timesBits`), which is additive in the first factor and goes with
`double`.  From these two facts alone the product is commutative
(`timesBits_one_comm`), and then associative.  The elements form a commutative
ring.

The powers of `α` repeat after 255 steps and no sooner (`orderOf_alpha`).  So
they are 255 different elements, and by counting they are all elements but zero
(`exists_alpha_pow`).  A product of two powers is a power, so there are no zero
divisors.
-/

namespace QrSymbol.Gf256

@[ext] theorem ext_bits {a b : Gf256} (h : a.bits = b.bits) : a = b := by
  cases a
  cases b
  cases h
  rfl

/-! ## The sum -/

theorem add_def (a b : Gf256) : a + b = ⟨a.bits ^^^ b.bits⟩ := rfl

/-- Every element is its own negative. -/
theorem add_self (a : Gf256) : a + a = 0 := by
  ext1
  exact BitVec.xor_self

instance : Neg Gf256 := ⟨fun a => a⟩

instance : AddCommGroup Gf256 where
  add_assoc a b c := ext_bits (BitVec.xor_assoc a.bits b.bits c.bits)
  zero_add a := ext_bits BitVec.zero_xor
  add_zero a := ext_bits BitVec.xor_zero
  add_comm a b := ext_bits (BitVec.xor_comm a.bits b.bits)
  neg_add_cancel a := add_self a
  nsmul := nsmulRec
  zsmul := zsmulRec

theorem neg_eq (a : Gf256) : -a = a := rfl

/-! ## Horner's rule -/

@[simp] theorem double_zero : (0 : Gf256).double = 0 := rfl

/-- Doubling is additive: the ninth bit of a sum is the sum of the ninth bits. -/
theorem double_add (a b : Gf256) : (a + b).double = a.double + b.double := by
  simp only [add_def, double, BitVec.msb_xor]
  cases a.bits.msb <;> cases b.bits.msb <;> simp [BitVec.shiftLeft_xor_distrib]
  all_goals grind

@[simp] theorem timesBits_nil (a : Gf256) : a.timesBits [] = 0 := rfl

theorem timesBits_cons (a : Gf256) (b : Bool) (l : List Bool) :
    a.timesBits (b :: l) = (if b then a else 0) + (a.timesBits l).double := rfl

@[simp] theorem zero_timesBits (l : List Bool) : (0 : Gf256).timesBits l = 0 := by
  induction l with
  | nil => rfl
  | cons b l ih => simp [timesBits_cons, ih]

/-- Horner's rule is additive in the factor. -/
theorem add_timesBits (a b : Gf256) (l : List Bool) :
    (a + b).timesBits l = a.timesBits l + b.timesBits l := by
  induction l with
  | nil => exact (add_zero (0 : Gf256)).symm
  | cons c l ih =>
      rw [timesBits_cons, timesBits_cons, timesBits_cons, ih, double_add]
      cases c with
      | false => simp
      | true => exact add_add_add_comm a b (a.timesBits l).double (b.timesBits l).double

theorem double_timesBits (a : Gf256) (l : List Bool) :
    a.double.timesBits l = (a.timesBits l).double := by
  induction l with
  | nil => exact double_zero.symm
  | cons b l ih =>
      rw [timesBits_cons, timesBits_cons, ih, double_add]
      cases b with
      | false => simp
      | true => rfl

/-- Two lists of coefficients can be multiplied in either order.  The induction
is on the first list.  The second passes through the sum and the doubling of a
Horner step by the two laws above. -/
theorem timesBits_one_comm (l m : List Bool) :
    ((1 : Gf256).timesBits l).timesBits m = ((1 : Gf256).timesBits m).timesBits l := by
  induction l with
  | nil => simp
  | cons b l ih =>
      rw [timesBits_cons, timesBits_cons, add_timesBits, double_timesBits, ih]
      cases b with
      | false => simp
      | true => rfl

/-! ## The product -/

theorem mul_def (a b : Gf256) : a * b = a.timesBits b.coefficients := rfl

/-- An element is read back from its coefficients. -/
theorem one_timesBits (a : Gf256) : (1 : Gf256).timesBits a.coefficients = a := by
  have readBack : ∀ bits : BitVec 8, (1 : Gf256).timesBits (coefficients ⟨bits⟩) = ⟨bits⟩ := by
    decide +kernel
  exact readBack a.bits

protected theorem mul_comm (a b : Gf256) : a * b = b * a := by
  calc a * b = ((1 : Gf256).timesBits a.coefficients).timesBits b.coefficients := by
        rw [one_timesBits, mul_def]
    _ = ((1 : Gf256).timesBits b.coefficients).timesBits a.coefficients :=
        timesBits_one_comm _ _
    _ = b * a := by rw [one_timesBits, mul_def]

protected theorem add_mul (a b c : Gf256) : (a + b) * c = a * c + b * c :=
  add_timesBits a b c.coefficients

theorem double_mul (a b : Gf256) : a.double * b = (a * b).double :=
  double_timesBits a b.coefficients

theorem mul_double (a b : Gf256) : a * b.double = (a * b).double := by
  rw [Gf256.mul_comm, double_mul, Gf256.mul_comm]

protected theorem mul_add (a b c : Gf256) : a * (b + c) = a * b + a * c := by
  rw [Gf256.mul_comm, Gf256.add_mul, Gf256.mul_comm b, Gf256.mul_comm c]

protected theorem zero_mul (a : Gf256) : 0 * a = 0 := zero_timesBits a.coefficients

/-- A product times a list of coefficients. -/
theorem mul_timesBits (a b : Gf256) (l : List Bool) :
    (a * b).timesBits l = a * b.timesBits l := by
  induction l with
  | nil => rw [timesBits_nil, timesBits_nil, Gf256.mul_comm, Gf256.zero_mul]
  | cons c l ih =>
      rw [timesBits_cons, timesBits_cons, Gf256.mul_add, mul_double, ih]
      cases c with
      | false => rw [if_neg Bool.false_ne_true, if_neg Bool.false_ne_true, Gf256.mul_comm a 0,
          Gf256.zero_mul]
      | true => rfl

instance : CommRing Gf256 where
  mul_assoc a b c := mul_timesBits a b c.coefficients
  mul_comm := Gf256.mul_comm
  one_mul := one_timesBits
  mul_one a := (Gf256.mul_comm a 1).trans (one_timesBits a)
  left_distrib := Gf256.mul_add
  right_distrib := Gf256.add_mul
  zero_mul := Gf256.zero_mul
  mul_zero a := (Gf256.mul_comm a 0).trans (Gf256.zero_mul a)
  neg_add_cancel a := add_self a
  zsmul := zsmulRec

/-! ## The powers of `α` -/

/-- The element `x`. -/
def alpha : Gf256 := ⟨2⟩

theorem double_eq (a : Gf256) : a.double = a * alpha := by
  calc a.double = (a * 1).double := by rw [mul_one]
    _ = a * (1 : Gf256).double := (mul_double a 1).symm
    _ = a * alpha := rfl

theorem powerOfX_eq (n : Nat) : powerOfX n = alpha ^ n := by
  induction n with
  | zero => rfl
  | succ n ih => rw [powerOfX, double_eq, ih, pow_succ]

theorem alpha_pow_255 : alpha ^ 255 = 1 := by
  rw [← powerOfX_eq]
  decide +kernel

/-- The powers of `α` repeat after 255 steps and no sooner. -/
theorem orderOf_alpha : orderOf alpha = 255 := by
  apply orderOf_eq_of_pow_and_pow_div_prime (by decide) alpha_pow_255
  intro p hp hdvd
  have hcases : p = 3 ∨ p = 5 ∨ p = 17 := by
    have h : p ∣ 3 * (5 * 17) := hdvd
    rcases (Nat.Prime.dvd_mul hp).mp h with h | h
    · exact Or.inl ((Nat.prime_dvd_prime_iff_eq hp (by norm_num)).mp h)
    · rcases (Nat.Prime.dvd_mul hp).mp h with h | h
      · exact Or.inr (Or.inl ((Nat.prime_dvd_prime_iff_eq hp (by norm_num)).mp h))
      · exact Or.inr (Or.inr ((Nat.prime_dvd_prime_iff_eq hp (by norm_num)).mp h))
  rw [← powerOfX_eq]
  rcases hcases with rfl | rfl | rfl <;> decide +kernel

theorem exp_eq (n : Nat) : exp n = alpha ^ n := by
  rw [exp, powerOfX_eq, ← orderOf_alpha, pow_mod_orderOf]

/-- Powers below 255 are different. -/
theorem alpha_pow_injOn : Set.InjOn (fun n : Nat => alpha ^ n) (Set.Iio 255) := by
  rw [← orderOf_alpha]
  exact pow_injOn_Iio_orderOf

theorem alpha_pow_ne_zero (n : Nat) : alpha ^ n ≠ 0 := by
  intro h
  have hone : alpha ^ (n * 255) = 1 := by rw [mul_comm, pow_mul, alpha_pow_255, one_pow]
  rw [pow_mul, h, zero_pow (by decide)] at hone
  exact absurd hone (by decide)

/-! ## No zero divisors -/

/-- The elements are the 256 values of eight bits. -/
def equivFin : Gf256 ≃ Fin 256 where
  toFun a := a.bits.toFin
  invFun i := ⟨⟨i⟩⟩
  left_inv _ := rfl
  right_inv _ := rfl

instance : Fintype Gf256 := Fintype.ofEquiv _ equivFin.symm

theorem card_eq : Fintype.card Gf256 = 256 :=
  (Fintype.card_congr equivFin).trans (Fintype.card_fin 256)

/-- Every element but zero is a power of `α`: the powers are 255 of the 255. -/
theorem exists_alpha_pow {a : Gf256} (h : a ≠ 0) : ∃ n, n < 255 ∧ a = alpha ^ n := by
  have hsub : (Finset.range 255).image (fun n => alpha ^ n) ⊆ Finset.univ.erase 0 := by
    intro b hb
    obtain ⟨n, -, rfl⟩ := Finset.mem_image.mp hb
    exact Finset.mem_erase.mpr ⟨alpha_pow_ne_zero n, Finset.mem_univ _⟩
  have hcard : (Finset.univ.erase (0 : Gf256)).card
      ≤ ((Finset.range 255).image fun n => alpha ^ n).card := by
    rw [Finset.card_erase_of_mem (Finset.mem_univ _), Finset.card_univ, card_eq,
      Finset.card_image_of_injOn, Finset.card_range]
    intro i hi j hj hij
    exact alpha_pow_injOn (Finset.mem_range.mp hi) (Finset.mem_range.mp hj) hij
  have hmem : a ∈ (Finset.range 255).image fun n => alpha ^ n := by
    rw [Finset.eq_of_subset_of_card_le hsub hcard]
    exact Finset.mem_erase.mpr ⟨h, Finset.mem_univ _⟩
  obtain ⟨n, hn, rfl⟩ := Finset.mem_image.mp hmem
  exact ⟨n, Finset.mem_range.mp hn, rfl⟩

instance : Nontrivial Gf256 := ⟨0, 1, by decide⟩

instance : NoZeroDivisors Gf256 where
  eq_zero_or_eq_zero_of_mul_eq_zero := by
    intro a b h
    by_contra hne
    obtain ⟨ha, hb⟩ := not_or.mp hne
    obtain ⟨m, -, rfl⟩ := exists_alpha_pow ha
    obtain ⟨n, -, rfl⟩ := exists_alpha_pow hb
    exact alpha_pow_ne_zero (m + n) ((pow_add alpha m n).trans h)

instance : IsDomain Gf256 := NoZeroDivisors.to_isDomain Gf256

end QrSymbol.Gf256
