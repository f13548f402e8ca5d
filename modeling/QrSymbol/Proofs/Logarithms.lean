import QrSymbol.Gf256.Logarithm
import QrSymbol.Proofs.FieldOf256

/-!
# Products by logarithms

The tables say what they should: an entry of the one is a power of `α`
(`Gf256.expByTable_eq`), and an entry of the other the exponent with which an element is
such a power (`Gf256.alpha_pow_log`).  Exponents add up in a product of powers, so the
product looked up is the product of the field (`Gf256.mulByLog_eq`).
-/

namespace QrSymbol.Gf256

/-- Each entry is twice the one before it. -/
theorem isChain_powerTable :
    powerTable.toList.IsChain fun before entry => ofByte entry = (ofByte before).double := by
  decide +kernel

theorem powerTable_eq (n : Nat) (h : n < 256) : ofByte powerTable[n] = powerOfX n := by
  induction n with
  | zero => rfl
  | succ n ih =>
      rw [powerOfX, ← ih (Nat.lt_of_succ_lt h)]
      have hlength : n + 1 < powerTable.toList.length := by rwa [Vector.length_toList]
      simpa using List.isChain_iff_getElem.mp isChain_powerTable n hlength

theorem expByTable_eq (n : Nat) : expByTable n = exp n := powerTable_eq (n % 255) _

/-- Each entry but that of zero is the exponent of its element. -/
theorem powerOfX_logTable : ∀ entry ∈ logTable.toList.zipIdx,
    entry.2 = 0 ∨ powerOfX entry.1.toNat = ⟨BitVec.ofNat 8 entry.2⟩ := by
  decide +kernel

/-- An element but zero is the power of `α` by its logarithm. -/
theorem alpha_pow_log {a : Gf256} (h : a ≠ 0) : alpha ^ a.log = a := by
  have hmem : (logTable[a.bits.toFin], a.bits.toNat) ∈ logTable.toList.zipIdx := by
    rw [List.mk_mem_zipIdx_iff_getElem?]
    simp
  rcases powerOfX_logTable _ hmem with hzero | hpower
  · exact absurd (ext_bits (BitVec.eq_of_toNat_eq hzero)) h
  · rw [← powerOfX_eq]
    exact hpower.trans (ext_bits (BitVec.ofNat_toNat 8 a.bits))

/-- The product by logarithms is the product. -/
theorem mulByLog_eq (a b : Gf256) : a.mulByLog b = a * b := by
  rw [mulByLog]
  split
  · rename_i hzero
    rw [eq_comm, mul_eq_zero]
    exact hzero
  · rename_i hne
    obtain ⟨ha, hb⟩ := not_or.mp hne
    rw [expByTable_eq, exp_eq, pow_add, alpha_pow_log ha, alpha_pow_log hb]

end QrSymbol.Gf256
