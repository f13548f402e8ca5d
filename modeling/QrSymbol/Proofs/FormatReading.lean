import QrSymbol.Proofs.CheckedWords
import QrSymbol.Proofs.Differences
import QrSymbol.Proofs.InformationWords

/-!
# Reading the format information

A reader looks at the first copy of the format word and at nothing else.  Bit `i` of the
number that it spells is the colour of place `i` (`FormatInformation.spelled_eq_iff`).  The
check accepts the words of the levels and the masks and no other number
(`FormatInformation.ofWord?_eq_some_iff`).  So a reader finds a level and a mask exactly if
the first copy spells their word.

Any two of the words differ in seven bits at least
(`FormatInformation.seven_le_weight_xor`).  A first copy in which up to six modules have
the wrong colour is therefore no other word, and a reader finds nothing
(`FormatInformation.read_of_damaged`).
-/

namespace QrSymbol

/-! ## The words -/

theorem BchCode.isProper_format : format.IsProper := by
  constructor <;> decide

/-- Apart from zero the words of the format code have seven bits set at least. -/
theorem BchCode.seven_le_weight_format : ∀ data < 2 ^ format.dataBits, format.encode data ≠ 0 →
    7 ≤ weight (format.degree + format.dataBits) (format.encode data) := by
  have hall : ∀ data < 2 ^ 5, format.encode data ≠ 0 →
      7 ≤ weight 15 (format.encode data) := by decide
  exact hall

namespace FormatInformation

theorem isCheckedCode : IsCheckedCode check wordOf pattern 10 5 7 :=
  BchCode.isProper_format.isCheckedCode _ (by decide) BchCode.seven_le_weight_format

theorem data_ofData : ∀ d < 2 ^ 5, (ofData d).data = d := by decide

/-- The check accepts the words of the levels and the masks and no other number. -/
theorem check_eq_true_iff {word : Nat} :
    check word = true ↔ ∃ info : FormatInformation, word = info.word := by
  constructor
  · intro h
    obtain ⟨data, hdata, hword⟩ := (isCheckedCode.check_iff word).mp h
    refine ⟨ofData data, ?_⟩
    rw [FormatInformation.word, data_ofData data hdata, hword]
  · rintro ⟨info, rfl⟩
    by_contra hrefused
    have hread := ofWord?_word info
    rw [ofWord?, if_neg hrefused] at hread
    cases hread

theorem ofWord?_eq_some_iff {word : Nat} {info : FormatInformation} :
    ofWord? word = some info ↔ word = info.word := by
  constructor
  · intro h
    obtain ⟨hcheck, -⟩ := Option.ite_none_right_eq_some.mp h
    obtain ⟨other, rfl⟩ := check_eq_true_iff.mp hcheck
    rw [ofWord?_word, Option.some.injEq] at h
    rw [h]
  · rintro rfl
    exact ofWord?_word info

theorem word_injective : Function.Injective word := by
  intro a b h
  have hread := ofWord?_word a
  rw [h, ofWord?_word, Option.some.injEq] at hread
  exact hread.symm

/-- Two of the words differ in seven bits at least. -/
theorem seven_le_weight_xor {a b : FormatInformation} (hne : a ≠ b) :
    7 ≤ weight 15 (a.word ^^^ b.word) :=
  isCheckedCode.apart_le _ _ (check_eq_true_iff.mpr ⟨a, rfl⟩) (check_eq_true_iff.mpr ⟨b, rfl⟩)
    fun h => hne (word_injective h)

/-! ## The first copy -/

section

variable {info : FormatInformation} {g : Grid}

/-- A reader finds a level and a mask if the first copy spells their word, and only then. -/
theorem read_eq_some_iff : read g = some info ↔ info.SpelledBy g := by
  rw [read, ofWord?_eq_some_iff, spelled_eq_iff]

theorem read_eq_none_iff : read g = none ↔ ∀ other : FormatInformation, ¬ other.SpelledBy g := by
  simp only [Option.eq_none_iff_forall_ne_some, ne_eq, read_eq_some_iff]

/-- A first copy with up to six modules of the wrong colour is not read. -/
theorem read_of_damaged {written damaged : Grid} (hwritten : info.SpelledBy written)
    (hsome : 1 ≤ differences (firstCopy written) (firstCopy damaged))
    (hfew : differences (firstCopy written) (firstCopy damaged) ≤ 6) : read damaged = none := by
  refine read_eq_none_iff.mpr fun other hother => ?_
  have hweight : differences (firstCopy written) (firstCopy damaged)
      = weight 15 (info.word ^^^ other.word) := by
    rw [spelledBy_iff.mp hwritten, spelledBy_iff.mp hother, differences_map_map, weight]
    refine List.countP_congr fun i _ => ?_
    simp [Nat.testBit_xor]
  rw [hweight] at hsome hfew
  have hne : info ≠ other := by
    rintro rfl
    rw [Nat.xor_self] at hsome
    exact absurd hsome (by decide)
  exact absurd hfew (Nat.not_le_of_lt (seven_le_weight_xor hne))

end

/-! ## Written grids -/

/-- What a grid is after the format information was written to it. -/
structure IsWritten (info : FormatInformation) (before after : Grid) : Prop where
  /-- The side does not change. -/
  side_eq : after.side = before.side
  /-- The thirty places are different. -/
  nodup_places : ((List.range 15).flatMap (places before.side)).Nodup ∧
    ((List.range 15).flatMap (places before.side)).length = 30
  /-- They lie in the grid. -/
  places_lt : ∀ i < 15, ∀ p ∈ places before.side i, p.1 < before.side ∧ p.2 < before.side
  /-- Those of bit `i` hold bit `i` of the word, as format modules. -/
  place_eq : ∀ i < 15, ∀ p ∈ places before.side i,
    after.get? p.1 p.2 = some ⟨.format, info.word.testBit i⟩
  /-- No other cell changes. -/
  rest_eq : ∀ x y, (x, y) ∉ (List.range 15).flatMap (places before.side) →
    after.get? x y = before.get? x y
  /-- A reader finds the level and the mask. -/
  read_eq : read after = some info
  /-- Nothing is read off a grid whose first copy differs from this one in one to six
  modules, whatever else the grid holds. -/
  read_damaged : ∀ damaged : Grid, 1 ≤ differences (firstCopy after) (firstCopy damaged) →
    differences (firstCopy after) (firstCopy damaged) ≤ 6 → read damaged = none

/-- What is said of reading a level and a mask off a grid and of writing them to it. -/
structure ReadsBack (info : FormatInformation) (g : Grid) : Prop where
  /-- They are read if the first copy spells their word, and only then. -/
  read_eq_some : read g = some info ↔ info.SpelledBy g
  /-- Nothing is read if it spells no word, and only then. -/
  read_eq_none : read g = none ↔ ∀ other : FormatInformation, ¬ other.SpelledBy g
  /-- Once written to a grid as large as a symbol, they are read, and damage is seen. -/
  written : 21 ≤ g.side → info.IsWritten g (write info g)

/-- A level and a mask are read back from any grid that spells their word. -/
theorem readsBack (info : FormatInformation) (g : Grid) : info.ReadsBack g where
  read_eq_some := read_eq_some_iff
  read_eq_none := read_eq_none_iff
  written := fun hside => {
    side_eq := side_write info g
    nodup_places := ⟨FormatInformation.nodup_places hside, rfl⟩
    places_lt := fun i hi p hp => FormatInformation.places_lt hside hi hp
    place_eq := fun i hi p hp => get?_write_of_mem hside hi hp
    rest_eq := by
      intro x y hrest
      refine get?_write_of_notMem fun i hi hp => hrest ?_
      exact List.mem_flatMap.mpr ⟨i, List.mem_range.mpr hi, hp⟩
    read_eq := read_write hside
    read_damaged := fun damaged => read_of_damaged (spelledBy_write hside) }

end FormatInformation

end QrSymbol
