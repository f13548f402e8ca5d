import Mathlib.Data.Nat.Bitwise
import QrSymbol.Bch

/-!
# The words of a BCH code

Long division takes each coefficient by itself, so the syndrome of a sum is the sum of the
syndromes (`BchCode.syndrome_xor`).  A word without data bits is its own syndrome
(`BchCode.syndrome_of_lt`).  If the words that the encoder makes have the syndrome zero,
these two facts leave no other word of their length for a check to accept: a word that is
accepted and the one with its data differ in a word without data bits, whose syndrome is
zero, so they do not differ (`BchCode.IsSound.check_iff`).

The sum of two accepted words is accepted too.  So two of them differ in at least as many
bits as the lightest word other than zero has (`BchCode.IsSound.le_weight_xor`).

The encoder divides with a shift register and the check from the top of the word.  For a
generator of the stated degree the two take the same steps: a shift of the register is a
step of the division, seen from the coefficient it is at
(`BchCode.IsProper.reduce_shiftLeft`).  Hence such a code is sound
(`BchCode.IsProper.isSound`).  Division does not touch the coefficients above those it
takes out, so a check accepts no longer word either (`BchCode.IsProper.lt_of_check`).

All of this stays true if the words are combined with a pattern
(`BchCode.IsProper.isCheckedCode`).
-/

namespace QrSymbol

/-- The number of bits set among the lowest of a word. -/
def weight (length word : Nat) : Nat := (List.range length).countP word.testBit

/-- What it means that a check goes with an encoder.  The words have their data above
`checkBits` check bits and are combined with a pattern, and any two of them are `apart`
bits apart at least. -/
structure IsCheckedCode (check : Nat → Bool) (wordOf : Nat → Nat)
    (pattern checkBits dataBits apart : Nat) : Prop where
  /-- The check accepts the words of the data and no others. -/
  check_iff : ∀ word, check word = true ↔ ∃ data < 2 ^ dataBits, word = wordOf data
  /-- It accepts no longer word. -/
  check_of_le : ∀ word, 2 ^ (checkBits + dataBits) ≤ word → check word = false
  /-- Without the pattern a word has its data in the high bits. -/
  data_eq : ∀ data, (wordOf data ^^^ pattern) >>> checkBits = data % 2 ^ dataBits
  /-- Different words that are accepted are so many bits apart. -/
  apart_le : ∀ a b, check a = true → check b = true → a ≠ b →
    apart ≤ weight (checkBits + dataBits) (a ^^^ b)

/-- What is added to both sides of a difference does not change it. -/
theorem xor_xor_xor_cancel_right (a b c : Nat) : (a ^^^ c) ^^^ (b ^^^ c) = a ^^^ b := by
  rw [Nat.xor_comm b, ← Nat.xor_assoc, Nat.xor_xor_cancel_right]

/-- A word below the low bits of another is added by exclusive or. -/
theorem or_eq_xor_of_lt {n a b : Nat} (h : b < 2 ^ n) : (a <<< n) ||| b = (a <<< n) ^^^ b := by
  refine Nat.eq_of_testBit_eq fun i => ?_
  rw [Nat.testBit_or, Nat.testBit_xor, Nat.testBit_shiftLeft]
  by_cases hi : n ≤ i
  · rw [Nat.testBit_lt_two_pow (Nat.lt_of_lt_of_le h (Nat.pow_le_pow_right (by decide) hi)),
      Bool.or_false, Bool.xor_false]
  · rw [decide_eq_false hi, Bool.false_and, Bool.false_or, Bool.false_xor]

namespace BchCode

variable {code : BchCode}

/-! ## The syndrome -/

theorem reduce_xor (n a b : Nat) :
    code.reduce n (a ^^^ b) = code.reduce n a ^^^ code.reduce n b := by
  induction n generalizing a b with
  | zero => rfl
  | succ n ih =>
      rw [reduce, reduce, reduce, ← ih, Nat.testBit_xor]
      congr 1
      -- Both words may have the bit; the two generators then cancel.
      cases a.testBit (n + code.degree) with
      | false =>
          cases b.testBit (n + code.degree) with
          | false => rfl
          | true => exact Nat.xor_assoc _ _ _
      | true =>
          cases b.testBit (n + code.degree) with
          | false => exact Nat.xor_right_comm _ _ _
          | true => exact (xor_xor_xor_cancel_right _ _ _).symm

theorem syndrome_xor (a b : Nat) :
    code.syndrome (a ^^^ b) = code.syndrome a ^^^ code.syndrome b := reduce_xor _ a b

/-- There is nothing to divide out above the coefficients of a word. -/
theorem reduce_add_of_lt {n word : Nat} (h : word < 2 ^ (n + code.degree)) (m : Nat) :
    code.reduce (n + m) word = code.reduce n word := by
  induction m with
  | zero => rfl
  | succ m ih =>
      have hbit : word.testBit (n + m + code.degree) = false :=
        Nat.testBit_lt_two_pow (Nat.lt_of_lt_of_le h (Nat.pow_le_pow_right (by decide)
          (by omega)))
      rw [← Nat.add_assoc, reduce, hbit]
      exact ih

theorem syndrome_of_lt {word : Nat} (h : word < 2 ^ code.degree) : code.syndrome word = word := by
  rw [← Nat.zero_add code.degree] at h
  rw [syndrome, ← Nat.zero_add code.dataBits, reduce_add_of_lt h]
  rfl

theorem check_eq_true_iff {word : Nat} : code.check word = true ↔ code.syndrome word = 0 :=
  beq_iff_eq

/-- The sum of two words of a code is one. -/
theorem check_xor {a b : Nat} (ha : code.check a = true) (hb : code.check b = true) :
    code.check (a ^^^ b) = true := by
  rw [check_eq_true_iff] at ha hb ⊢
  rw [syndrome_xor, ha, hb, Nat.xor_self]

/-! ## Encoded words -/

theorem remainder_lt (data : Nat) : code.remainder data < 2 ^ code.degree := by
  rw [remainder, Nat.one_shiftLeft]
  exact Nat.mod_lt _ (Nat.two_pow_pos _)

/-- The data of an encoded word stand in its high bits. -/
theorem encode_shiftRight (data : Nat) :
    code.encode data >>> code.degree = data % 2 ^ code.dataBits := by
  rw [encode, Nat.one_shiftLeft, Nat.shiftRight_or_distrib, Nat.shiftLeft_shiftRight,
    Nat.shiftRight_eq_zero _ _ (remainder_lt _), Nat.or_zero]

/-- Words with the same high bits differ in a word below the degree of the generator. -/
theorem xor_lt_of_shiftRight_eq {n a b : Nat} (h : a >>> n = b >>> n) : a ^^^ b < 2 ^ n := by
  have hhigh : (a ^^^ b) >>> n = 0 := by
    rw [Nat.shiftRight_xor_distrib, h, Nat.xor_self]
  rw [Nat.shiftRight_eq_div_pow] at hhigh
  exact (Nat.div_eq_zero_iff_lt (Nat.two_pow_pos n)).mp hhigh

/-- A code whose encoder makes words that its check accepts. -/
def IsSound (code : BchCode) : Prop :=
  ∀ data < 2 ^ code.dataBits, code.check (code.encode data) = true

/-- A check accepts the words that the encoder makes, and no other of their length. -/
theorem IsSound.check_iff (hsound : code.IsSound) {word : Nat}
    (hword : word < 2 ^ (code.degree + code.dataBits)) :
    code.check word = true ↔ ∃ data < 2 ^ code.dataBits, word = code.encode data := by
  constructor
  · intro h
    have hdata : word >>> code.degree < 2 ^ code.dataBits := by
      rw [Nat.shiftRight_eq_div_pow]
      exact Nat.div_lt_of_lt_mul (by rwa [← Nat.pow_add])
    refine ⟨word >>> code.degree, hdata, ?_⟩
    have hlow := xor_lt_of_shiftRight_eq
      ((encode_shiftRight _).trans (Nat.mod_eq_of_lt hdata)).symm
    have hzero := check_eq_true_iff.mp (check_xor h (hsound _ hdata))
    rw [syndrome_of_lt hlow] at hzero
    exact Nat.xor_eq_zero_iff.mp hzero
  · rintro ⟨data, hdata, rfl⟩
    exact hsound data hdata

/-- Different words that a check accepts differ in as many bits as any word other than zero
has at least. -/
theorem IsSound.le_weight_xor (hsound : code.IsSound) {least : Nat}
    (hleast : ∀ data < 2 ^ code.dataBits, code.encode data ≠ 0 →
      least ≤ weight (code.degree + code.dataBits) (code.encode data))
    {a b : Nat} (ha : code.check a = true) (hb : code.check b = true)
    (halt : a < 2 ^ (code.degree + code.dataBits)) (hblt : b < 2 ^ (code.degree + code.dataBits))
    (hne : a ≠ b) : least ≤ weight (code.degree + code.dataBits) (a ^^^ b) := by
  obtain ⟨data, hdata, hsum⟩ :=
    (hsound.check_iff (Nat.xor_lt_two_pow halt hblt)).mp (check_xor ha hb)
  rw [hsum]
  refine hleast data hdata fun hzero => hne ?_
  rw [hzero] at hsum
  exact Nat.xor_eq_zero_iff.mp hsum

/-! ## Division and shifts -/

/-- A code whose generator has the stated degree, with no more data bits than check bits. -/
structure IsProper (code : BchCode) : Prop where
  /-- There is a check bit. -/
  degree_pos : 0 < code.degree
  /-- The generator has the coefficient of its degree. -/
  le_generator : 2 ^ code.degree ≤ code.generator
  /-- It has none above. -/
  generator_lt : code.generator < 2 ^ (code.degree + 1)
  /-- The data fit the register. -/
  dataBits_le : code.dataBits ≤ code.degree

namespace IsProper

variable {register : Nat}

/-- Above its other coefficients a register has the highest one alone. -/
theorem shiftRight_register (hproper : code.IsProper) (h : register < 2 ^ code.degree) :
    register >>> (code.degree - 1) = (register.testBit (code.degree - 1)).toNat := by
  have hquotient : register / 2 ^ (code.degree - 1) < 2 := by
    refine Nat.div_lt_of_lt_mul ?_
    rwa [← Nat.pow_succ, Nat.succ_eq_add_one, Nat.sub_add_cancel hproper.degree_pos]
  rw [Nat.toNat_testBit, Nat.shiftRight_eq_div_pow, Nat.mod_eq_of_lt hquotient]

/-- A shift subtracts the generator if the highest coefficient of the register is set. -/
theorem shift_eq (hproper : code.IsProper) (h : register < 2 ^ code.degree) :
    code.shift register = if register.testBit (code.degree - 1)
      then (register <<< 1) ^^^ code.generator else register <<< 1 := by
  rw [shift, hproper.shiftRight_register h]
  cases register.testBit (code.degree - 1) with
  | false => rw [Bool.toNat_false, Nat.zero_mul, Nat.xor_zero, if_neg Bool.false_ne_true]
  | true => rw [Bool.toNat_true, Nat.one_mul, if_pos rfl]

/-- So the register never outgrows the degree. -/
theorem shift_lt (hproper : code.IsProper) (h : register < 2 ^ code.degree) :
    code.shift register < 2 ^ code.degree := by
  have htop := hproper.shiftRight_register h
  have hdegree := Nat.sub_add_cancel hproper.degree_pos
  rw [hproper.shift_eq h]
  cases hset : register.testBit (code.degree - 1) with
  | true =>
      -- The generator takes away the coefficient that has left the register.
      rw [if_pos rfl]
      refine xor_lt_of_shiftRight_eq ?_
      have hgenerator : code.generator / 2 ^ code.degree = 1 := by
        have hle := hproper.le_generator
        have hlt := hproper.generator_lt
        rw [Nat.pow_succ] at hlt
        exact Nat.div_eq_of_lt_le (by omega) (by omega)
      calc (register <<< 1) >>> code.degree
          = (register <<< 1) >>> (1 + (code.degree - 1)) := by rw [Nat.add_comm, hdegree]
        _ = register >>> (code.degree - 1) := by
            rw [Nat.shiftRight_add, Nat.shiftLeft_shiftRight]
        _ = 1 := by rw [htop, hset, Bool.toNat_true]
        _ = code.generator >>> code.degree := by rw [Nat.shiftRight_eq_div_pow, hgenerator]
  | false =>
      rw [if_neg Bool.false_ne_true]
      rw [hset, Bool.toNat_false, Nat.shiftRight_eq_div_pow,
        Nat.div_eq_zero_iff_lt (Nat.two_pow_pos _)] at htop
      calc register <<< 1 = register * 2 := by rw [Nat.shiftLeft_eq, Nat.pow_one]
        _ < 2 ^ (code.degree - 1) * 2 := Nat.mul_lt_mul_of_pos_right htop (by decide)
        _ = 2 ^ code.degree := by rw [← Nat.pow_succ, Nat.succ_eq_add_one, hdegree]

theorem shifts_lt (hproper : code.IsProper) (h : register < 2 ^ code.degree) (n : Nat) :
    code.shifts n register < 2 ^ code.degree := by
  induction n generalizing register with
  | zero => exact h
  | succ n ih => exact ih (hproper.shift_lt h)

/-- Dividing a register that stands `n` places higher takes the steps of `n` shifts. -/
theorem reduce_shiftLeft (hproper : code.IsProper) (h : register < 2 ^ code.degree) (n : Nat) :
    code.reduce n (register <<< n) = code.shifts n register := by
  induction n generalizing register with
  | zero => rfl
  | succ n ih =>
      have hbit : (register <<< (n + 1)).testBit (n + code.degree)
          = register.testBit (code.degree - 1) := by
        have hpos := hproper.degree_pos
        rw [Nat.testBit_shiftLeft, decide_eq_true (by omega), Bool.true_and]
        congr 1
        omega
      have hplace : register <<< (n + 1) = (register <<< 1) <<< n := by
        rw [Nat.add_comm, Nat.shiftLeft_add]
      rw [reduce, hbit, shifts, ← ih (hproper.shift_lt h), hproper.shift_eq h, hplace]
      split
      · rw [Nat.shiftLeft_xor_distrib]
      · rfl

theorem syndrome_shiftLeft (hproper : code.IsProper) {data : Nat} (h : data < 2 ^ code.dataBits) :
    code.syndrome (data <<< code.degree) = code.remainder data := by
  have hregister : data < 2 ^ code.degree :=
    Nat.lt_of_lt_of_le h (Nat.pow_le_pow_right (by decide) hproper.dataBits_le)
  have hword : data <<< code.degree < 2 ^ (code.dataBits + code.degree) := by
    rw [Nat.shiftLeft_eq, Nat.pow_add]
    exact Nat.mul_lt_mul_of_pos_right h (Nat.two_pow_pos _)
  obtain ⟨m, hm⟩ := Nat.exists_eq_add_of_le hproper.dataBits_le
  calc code.reduce code.dataBits (data <<< code.degree)
      = code.reduce code.degree (data <<< code.degree) := by
        rw [← reduce_add_of_lt hword m, ← hm]
    _ = code.shifts code.degree data := hproper.reduce_shiftLeft hregister _
    _ = code.remainder data := by
        rw [remainder, Nat.one_shiftLeft, Nat.mod_eq_of_lt (hproper.shifts_lt hregister _)]

/-- The encoder of a proper code makes words that its check accepts. -/
theorem isSound (hproper : code.IsProper) : code.IsSound := by
  intro data h
  have hword : code.encode data = (data <<< code.degree) ^^^ code.remainder data := by
    rw [encode, Nat.one_shiftLeft, Nat.mod_eq_of_lt h, or_eq_xor_of_lt (remainder_lt data)]
  rw [check_eq_true_iff, hword, syndrome_xor, hproper.syndrome_shiftLeft h,
    syndrome_of_lt (remainder_lt data), Nat.xor_self]

/-! ## Longer words -/

/-- Division leaves the coefficients above those that it takes out. -/
theorem reduce_shiftRight (hproper : code.IsProper) (n word : Nat) :
    code.reduce n word >>> (n + code.degree) = word >>> (n + code.degree) := by
  induction n generalizing word with
  | zero => rfl
  | succ n ih =>
      have hgenerator : (code.generator <<< n) >>> (n + code.degree + 1) = 0 := by
        refine Nat.shiftRight_eq_zero _ _ ?_
        rw [Nat.shiftLeft_eq, Nat.mul_comm, Nat.add_assoc, Nat.pow_add 2 n]
        exact Nat.mul_lt_mul_of_pos_left hproper.generator_lt (Nat.two_pow_pos n)
      rw [Nat.add_right_comm, reduce, Nat.shiftRight_add, ih, ← Nat.shiftRight_add]
      split
      · rw [Nat.shiftRight_xor_distrib, hgenerator, Nat.xor_zero]
      · rfl

/-- A check accepts no word that is too long. -/
theorem lt_of_check (hproper : code.IsProper) {word : Nat} (h : code.check word = true) :
    word < 2 ^ (code.degree + code.dataBits) := by
  have hhigh := hproper.reduce_shiftRight code.dataBits word
  rw [← syndrome, check_eq_true_iff.mp h, Nat.zero_shiftRight, Nat.shiftRight_eq_div_pow,
    Nat.add_comm] at hhigh
  exact (Nat.div_eq_zero_iff_lt (Nat.two_pow_pos _)).mp hhigh.symm

/-! ## Checks and encoders -/

/-- A proper code checks its words, with any pattern of their length. -/
theorem isCheckedCode (hproper : code.IsProper) (pattern : Nat) {least : Nat}
    (hpattern : pattern < 2 ^ (code.degree + code.dataBits))
    (hleast : ∀ data < 2 ^ code.dataBits, code.encode data ≠ 0 →
      least ≤ weight (code.degree + code.dataBits) (code.encode data)) :
    IsCheckedCode (fun word => code.check (word ^^^ pattern))
      (fun data => code.encode data ^^^ pattern) pattern code.degree code.dataBits least := by
  have hshort : ∀ {word}, code.check (word ^^^ pattern) = true →
      word < 2 ^ (code.degree + code.dataBits) := by
    intro word h
    have hlt := Nat.xor_lt_two_pow (hproper.lt_of_check h) hpattern
    rwa [Nat.xor_xor_cancel_right] at hlt
  exact {
    check_iff := by
      intro word
      constructor
      · intro h
        obtain ⟨data, hdata, hword⟩ :=
          (hproper.isSound.check_iff (hproper.lt_of_check h)).mp h
        exact ⟨data, hdata, by rw [← hword, Nat.xor_xor_cancel_right]⟩
      · rintro ⟨data, hdata, rfl⟩
        rw [Nat.xor_xor_cancel_right]
        exact hproper.isSound data hdata
    check_of_le := by
      intro word hle
      exact Bool.eq_false_of_not_eq_true fun h => Nat.not_lt_of_le hle (hshort h)
    data_eq := by
      intro data
      rw [Nat.xor_xor_cancel_right, encode_shiftRight]
    apart_le := by
      intro a b ha hb hne
      rw [← xor_xor_xor_cancel_right a b pattern]
      exact hproper.isSound.le_weight_xor hleast ha hb (hproper.lt_of_check ha)
        (hproper.lt_of_check hb) fun h => hne (Nat.xor_left_injective h) }

end IsProper

end BchCode

end QrSymbol
