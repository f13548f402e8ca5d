import QrSymbol.Proofs.FormatReading

/-!
# The checks of the information words

The words of both kinds of information are words of a BCH code, and those of the format are
combined with a pattern besides.  Either check accepts the words that the encoder beside it
makes and no other number, however large (`isCheckedCode_information`).

This holds of any proper code.  What is said here of the version code is that it is one, and
that each of its words but zero has eight bits set at least.
-/

namespace QrSymbol

theorem BchCode.isProper_version : version.IsProper := by
  constructor <;> decide

/-- Apart from zero the words of the version code have eight bits set at least. -/
theorem BchCode.eight_le_weight_version : ∀ data < 2 ^ version.dataBits, version.encode data ≠ 0 →
    8 ≤ weight (version.degree + version.dataBits) (version.encode data) := by
  have hall : ∀ data < 2 ^ 6, version.encode data ≠ 0 →
      8 ≤ weight 18 (version.encode data) := by decide
  exact hall

theorem VersionInformation.isCheckedCode : IsCheckedCode check wordOf 0 12 6 8 := by
  have h := BchCode.isProper_version.isCheckedCode 0 (by decide) BchCode.eight_le_weight_version
  simp only [Nat.xor_zero] at h
  exact h

/-- The checks of both kinds of information go with their encoders. -/
theorem isCheckedCode_information :
    IsCheckedCode VersionInformation.check VersionInformation.wordOf 0 12 6 8 ∧
    IsCheckedCode FormatInformation.check FormatInformation.wordOf FormatInformation.pattern
      10 5 7 :=
  ⟨VersionInformation.isCheckedCode, FormatInformation.isCheckedCode⟩

end QrSymbol
