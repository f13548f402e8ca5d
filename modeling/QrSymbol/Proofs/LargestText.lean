import Mathlib.Order.Bounds.Basic
import QrSymbol.Proofs.DataCapacity

/-!
# The largest text of a version

Two closed forms tie characters to bits.  One gives the bits that a number of characters
takes (`Mode.payloadLength`), the other the characters that a number of bits holds
(`Mode.charactersIn`).  Each has its own cases for a group that is cut short, and neither
is computed from the other.  They agree (`Mode.payloadLength_le_iff`), at the end of a
group as much as within one.

The capacity of a version is the second form behind the header, so it is the largest
number of characters whose segment fits (`isGreatest_maxCharacters`).  A text that the
mode accepts becomes data codewords exactly if its segment fits
(`exists_dataStream_iff`), which is if it is no longer than the capacity
(`Version.le_capacity_iff`).
-/

namespace QrSymbol

/-- The closed form is the largest number of characters whose segment fits. -/
theorem isGreatest_maxCharacters {mode : Mode} {v : Version} {dataBits : Nat}
    (h : v.headerBits mode ≤ dataBits) :
    IsGreatest {n | v.headerBits mode + mode.payloadLength n ≤ dataBits}
      (maxCharacters mode v dataBits) :=
  ⟨(le_maxCharacters_iff h).mp (Nat.le_refl _), fun _ hn => (le_maxCharacters_iff h).mpr hn⟩

/-- Behind the fourteen bits of a header, 24 bits hold seven digits and 27 are the first to
hold eight. -/
example : maxCharacters .numeric .least (14 + 24) = 7 ∧
    maxCharacters .numeric .least (14 + 26) = 7 ∧
    maxCharacters .numeric .least (14 + 27) = 8 := by decide

/-- A text that the mode accepts becomes data codewords exactly if its segment fits. -/
theorem exists_dataStream_iff {text : List Char} {mode : Mode} {plan : BlockPlan}
    (haccepts : ∀ c ∈ text, mode.accepts c = true) :
    (∃ bytes, dataStream text mode plan = .ok bytes) ↔
      plan.version.headerBits mode + mode.payloadLength text.length ≤ plan.dataBits := by
  rw [← Mode.length_segment haccepts]
  by_cases hfits : (mode.segment plan.version text).length ≤ plan.dataBits
  · exact iff_of_true ⟨_, dataStream_of_fits haccepts hfits⟩ hfits
  · refine iff_of_false ?_ hfits
    rintro ⟨bytes, hbytes⟩
    rw [dataStream_of_exceeds haccepts (Nat.lt_of_not_le hfits)] at hbytes
    cases hbytes

/-- What the closed form of the capacity says of a mode in a version. -/
structure Version.CapacityIsExact (v : Version) (mode : Mode) : Prop where
  /-- A text that the mode accepts has a payload whose length its characters give. -/
  payload_ok : ∀ {text : List Char}, (∀ c ∈ text, mode.accepts c = true) →
    ∃ payload, mode.encode text = .ok payload ∧
      payload.length = mode.payloadLength text.length
  /-- The closed form is the largest number of characters that fit behind the header. -/
  greatest : ∀ {dataBits : Nat}, 4 + v.countBits mode ≤ dataBits →
    IsGreatest {n | 4 + v.countBits mode + mode.payloadLength n ≤ dataBits}
      (maxCharacters mode v dataBits)
  /-- In a plan of the standard, a text that the mode accepts and whose number of
  characters fits the count becomes data codewords if the version holds it, and only
  then. -/
  holds_iff : ∀ (level : Level) {text : List Char}, (∀ c ∈ text, mode.accepts c = true) →
    text.length < 2 ^ v.countBits mode →
    ((∃ bytes, dataStream text mode (.standard v level) = .ok bytes) ↔
      text.length ≤ v.capacity level mode)
  /-- A number of characters that the version holds fits the count. -/
  count_lt : ∀ (level : Level) {n : Nat}, n ≤ v.capacity level mode → n < 2 ^ v.countBits mode

/-- In every version the capacity of a mode is what the data stream really holds. -/
theorem Version.capacityIsExact (v : Version) (mode : Mode) : v.CapacityIsExact mode where
  payload_ok := by
    intro text haccepts
    refine ⟨_, Mode.encode_of_accepts haccepts, ?_⟩
    rw [Mode.length_pack, Mode.length_values haccepts]
  greatest := isGreatest_maxCharacters
  holds_iff := by
    intro level text haccepts _
    rw [exists_dataStream_iff haccepts, le_capacity_iff]
    rfl
  count_lt := fun level _ hn => Nat.lt_of_le_of_lt hn (v.capacity_lt level mode)

end QrSymbol
