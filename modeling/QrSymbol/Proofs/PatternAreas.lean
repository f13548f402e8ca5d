import QrSymbol.Draft
import QrSymbol.Proofs.InformationWords

/-!
# The areas of the function patterns

Where a version has a function module is a question about coordinates.  The
finders, the timing patterns and the format information cover three corners, a
row and a column (`InFrame`).  The alignment patterns are centred on a few columns
and rows, so far apart that a column is near one of them at most
(`eq_of_near_centres`).  They cover the meetings of these columns and rows but for
the three in the corners (`alignment?_isSome_iff`).  The version information is beside two
of the corners (`InInfo`).  These three areas make up all function modules
(`Version.module?_isSome_iff`).

The areas of the format and the version information are exactly the places to
which their words are written (`Version.kind_eq_format_iff`,
`Version.kind_eq_version_iff`).
-/

namespace QrSymbol

theorem Version.twentyOne_le_side (v : Version) : 21 ≤ v.side := by
  have := v.one_le
  rw [side]
  omega

/-- The function module of a version in column `x` of row `y`, if there is one. -/
def Version.module? (v : Version) (x y : Nat) : Option Module :=
  functionModule? v (Pattern.alignmentCentres v.number) x y

namespace Pattern

/-! ## The kinds of the patterns -/

theorem kind_of_version? {v : Version} {x y : Nat} {m : Module} (h : version? v x y = some m) :
    m.kind = .version := by
  simp only [version?, Option.ite_none_right_eq_some, Option.some.injEq] at h
  rw [← h.2]

theorem kind_of_alwaysDark? {side x y : Nat} {m : Module} (h : alwaysDark? side x y = some m) :
    m.kind = .alwaysDark := by
  simp only [alwaysDark?, Option.ite_none_right_eq_some, Option.some.injEq] at h
  rw [← h.2]

theorem kind_of_format? {side x y : Nat} {m : Module} (h : format? side x y = some m) :
    m.kind = .format := by
  simp only [format?, Option.ite_none_right_eq_some, Option.some.injEq] at h
  rw [← h.2]

theorem kind_of_alignment? {centres : List Nat} {side x y : Nat} {m : Module}
    (h : alignment? centres side x y = some m) : m.kind = .alignment := by
  unfold alignment? at h
  split at h
  · simp only [Option.ite_none_left_eq_some, Option.some.injEq] at h
    rw [← h.2]
  · cases h

theorem kind_of_timing? {side x y : Nat} {m : Module} (h : timing? side x y = some m) :
    m.kind = .timing := by
  unfold timing? at h
  split at h
  · cases h
    rfl
  · simp only [Option.ite_none_right_eq_some, Option.some.injEq] at h
    rw [← h.2]

theorem kind_of_finderAround {cx cy x y : Nat} {m : Module} (h : finderAround cx cy x y = some m) :
    m.kind = .finder ∨ m.kind = .separator := by
  simp only [finderAround] at h
  split at h
  · cases h
    exact .inl rfl
  · simp only [Option.ite_none_right_eq_some, Option.some.injEq] at h
    rw [← h.2]
    exact .inr rfl

theorem kind_of_finder? {side x y : Nat} {m : Module} (h : finder? side x y = some m) :
    m.kind = .finder ∨ m.kind = .separator := by
  simp only [finder?, Option.orElse_eq_orElse, Option.orElse_eq_or, Option.or_eq_some_iff] at h
  rcases h with h | ⟨-, h | ⟨-, h⟩⟩
  · exact kind_of_finderAround h
  · exact kind_of_finderAround h
  · exact kind_of_finderAround h

/-! ## The frame -/

/-- The three corners with the finders, and the row and the column between them. -/
def InFrame (side x y : Nat) : Prop :=
  x = 6 ∨ y = 6 ∨ (x ≤ 8 ∧ y ≤ 8) ∨ (side - 8 ≤ x ∧ y ≤ 8) ∨ (x ≤ 8 ∧ side - 8 ≤ y)

theorem finderAround_isSome_iff {cx cy x y : Nat} :
    (finderAround cx cy x y).isSome ↔ ringOf x y cx cy ≤ 4 := by
  simp only [finderAround]
  split
  · simp
    omega
  · split
    · simp
      omega
    · simp
      omega

/-- The finders, the timing patterns and the format information, with the
always-dark module among it, cover the frame. -/
theorem frame_isSome_iff {side x y : Nat} (hside : 21 ≤ side) (hx : x < side) (hy : y < side) :
    (alwaysDark? side x y).isSome ∨ (format? side x y).isSome ∨ (timing? side x y).isSome ∨
      (finder? side x y).isSome ↔ InFrame side x y := by
  have hdark : (alwaysDark? side x y).isSome ↔ x = 8 ∧ y = side - 8 := by
    simp [alwaysDark?]
  have hformat : (format? side x y).isSome ↔
      (x = 8 ∧ (y ≤ 8 ∧ y ≠ 6 ∨ side - 8 ≤ y ∧ y < side))
        ∨ (y = 8 ∧ (x ≤ 8 ∧ x ≠ 6 ∨ side - 8 ≤ x ∧ x < side)) := by
    simp [format?]
  have htiming : (timing? side x y).isSome ↔
      (y = 6 ∧ 8 ≤ x ∧ x < side - 8) ∨ (x = 6 ∧ 8 ≤ y ∧ y < side - 8) := by
    unfold timing?
    split
    · simp_all
    · simp_all
  have hfinder : (finder? side x y).isSome ↔ (x ≤ 7 ∧ y ≤ 7) ∨ (side - 8 ≤ x ∧ y ≤ 7) ∨
      (x ≤ 7 ∧ side - 8 ≤ y) := by
    simp only [finder?, Option.orElse_eq_orElse, Option.orElse_eq_or, Option.isSome_or,
      Bool.or_eq_true, finderAround_isSome_iff, ringOf, distance]
    omega
  rw [hdark, hformat, htiming, hfinder, InFrame]
  omega

/-! ## The alignment centres -/

/-- The distance of two successive centres, counted from the last. -/
def alignmentStep (number : Nat) : Nat :=
  (8 * number + 3 * (number / 7 + 2) + 5) / (4 * (number / 7 + 2) - 4) * 2

/-- The centres between the first and the last, by their number from the last. -/
def middleCentre (number i : Nat) : Nat := 4 * number + 10 - (i + 1) * alignmentStep number

theorem mem_alignmentCentres {number c : Nat} :
    c ∈ alignmentCentres number ↔
      number ≠ 1 ∧ (c = 6 ∨ c = 4 * number + 10 ∨ ∃ i < number / 7, c = middleCentre number i) := by
  by_cases h : number = 1
  · simp [h, alignmentCentres]
  rw [and_iff_right h, alignmentCentres, if_neg h]
  simp only [List.mem_cons, List.mem_reverse, List.mem_map, List.mem_range]
  refine or_congr_right ⟨?_, ?_⟩
  · rintro ⟨i, hi, rfl⟩
    cases i with
    | zero =>
        left
        rw [Nat.zero_mul, Nat.sub_zero]
    | succ i => exact .inr ⟨i, by omega, rfl⟩
  · rintro (rfl | ⟨i, hi, rfl⟩)
    · exact ⟨0, by omega, by rw [Nat.zero_mul, Nat.sub_zero]⟩
    · exact ⟨i + 1, by omega, rfl⟩

/-- Successive centres are far apart, and the second is far from the first. -/
theorem alignmentStep_bounds : ∀ v : Version, v.number ≠ 1 → 12 ≤ alignmentStep v.number ∧
    v.number / 7 * alignmentStep v.number + 18 ≤ 4 * v.number + 10 := by decide +kernel

theorem middleCentre_bounds {v : Version} (h : v.number ≠ 1) {i : Nat} (hi : i < v.number / 7) :
    18 ≤ middleCentre v.number i ∧ middleCentre v.number i + 12 ≤ 4 * v.number + 10 := by
  obtain ⟨hstep, htotal⟩ := alignmentStep_bounds v h
  have hupper : (i + 1) * alignmentStep v.number ≤ v.number / 7 * alignmentStep v.number :=
    Nat.mul_le_mul_right _ hi
  have hlower : alignmentStep v.number ≤ (i + 1) * alignmentStep v.number :=
    Nat.le_mul_of_pos_left _ (Nat.succ_pos i)
  rw [middleCentre]
  omega

/-- Different centres in the middle are at least twelve apart. -/
theorem middleCentre_apart {v : Version} (h : v.number ≠ 1) {i j : Nat} (hij : i < j)
    (hj : j < v.number / 7) :
    middleCentre v.number j + 12 ≤ middleCentre v.number i := by
  obtain ⟨hstep, htotal⟩ := alignmentStep_bounds v h
  have hupper : (j + 1) * alignmentStep v.number ≤ v.number / 7 * alignmentStep v.number :=
    Nat.mul_le_mul_right _ hj
  have hgap : (i + 1 + 1) * alignmentStep v.number ≤ (j + 1) * alignmentStep v.number :=
    Nat.mul_le_mul_right _ (Nat.succ_lt_succ hij)
  rw [Nat.succ_mul (i + 1)] at hgap
  rw [middleCentre, middleCentre]
  omega

/-- Two centres in the middle that are less than twelve apart are one. -/
theorem middleCentre_unique {v : Version} (h : v.number ≠ 1) {i j : Nat} (hi : i < v.number / 7)
    (hj : j < v.number / 7) (hij : middleCentre v.number i < middleCentre v.number j + 12)
    (hji : middleCentre v.number j < middleCentre v.number i + 12) : i = j := by
  rcases Nat.lt_trichotomy i j with hlt | heq | hlt
  · have := middleCentre_apart h hlt hj
    omega
  · exact heq
  · have := middleCentre_apart h hlt hi
    omega

/-- A coordinate is near one centre at most. -/
theorem eq_of_near_centres {v : Version} {x c d : Nat} (hc : c ∈ alignmentCentres v.number)
    (hd : d ∈ alignmentCentres v.number) (hxc : distance x c ≤ 2) (hxd : distance x d ≤ 2) :
    c = d := by
  have hnumber := v.one_le
  rw [distance] at hxc hxd
  obtain ⟨h, hc⟩ := mem_alignmentCentres.mp hc
  obtain ⟨-, hd⟩ := mem_alignmentCentres.mp hd
  rcases hc with rfl | rfl | ⟨i, hi, rfl⟩
  · rcases hd with rfl | rfl | ⟨j, hj, rfl⟩
    · rfl
    · omega
    · have := middleCentre_bounds h hj
      omega
  · rcases hd with rfl | rfl | ⟨j, hj, rfl⟩
    · omega
    · rfl
    · have := middleCentre_bounds h hj
      omega
  · rcases hd with rfl | rfl | ⟨j, hj, rfl⟩
    · have := middleCentre_bounds h hi
      omega
    · have := middleCentre_bounds h hi
      omega
    · rw [middleCentre_unique h hi hj (by omega) (by omega)]

/-! ## The alignment patterns -/

/-- Whether a coordinate is near an alignment centre. -/
def NearCentre (number x : Nat) : Prop := ∃ c ∈ alignmentCentres number, distance x c ≤ 2

/-- The centre that is found near a coordinate is the only one. -/
theorem find?_centre_eq_some_iff {v : Version} {x c : Nat} :
    (alignmentCentres v.number).find? (fun c => decide (distance x c ≤ 2)) = some c ↔
      c ∈ alignmentCentres v.number ∧ distance x c ≤ 2 := by
  constructor
  · intro hfind
    exact ⟨List.mem_of_find?_eq_some hfind, by simpa using List.find?_some hfind⟩
  · rintro ⟨hmem, hnear⟩
    have hsome : ((alignmentCentres v.number).find?
        fun c => decide (distance x c ≤ 2)).isSome := by
      rw [List.find?_isSome]
      exact ⟨c, hmem, decide_eq_true hnear⟩
    obtain ⟨d, hd⟩ := Option.isSome_iff_exists.mp hsome
    have hdnear := List.find?_some hd
    rw [hd, eq_of_near_centres (List.mem_of_find?_eq_some hd) hmem (of_decide_eq_true hdnear)
      hnear]

/-- A coordinate is in a corner if the centre it is near is. -/
theorem corner_of_near_centre {v : Version} {x c : Nat} (hc : c ∈ alignmentCentres v.number)
    (hnear : distance x c ≤ 2) : (c ≤ 8 ↔ x ≤ 8) ∧ (v.side - 9 ≤ c ↔ v.side - 9 ≤ x) := by
  have hnumber := v.one_le
  rw [distance] at hnear
  rw [Version.side]
  obtain ⟨h, rfl | rfl | ⟨i, hi, rfl⟩⟩ := mem_alignmentCentres.mp hc
  · omega
  · omega
  · have := middleCentre_bounds h hi
    omega

theorem inFinderCorner_of_near {v : Version} {x y cx cy : Nat}
    (hcx : cx ∈ alignmentCentres v.number) (hx : distance x cx ≤ 2)
    (hcy : cy ∈ alignmentCentres v.number) (hy : distance y cy ≤ 2) :
    inFinderCorner v.side cx cy = inFinderCorner v.side x y := by
  obtain ⟨hlowx, hhighx⟩ := corner_of_near_centre hcx hx
  obtain ⟨hlowy, hhighy⟩ := corner_of_near_centre hcy hy
  simp only [inFinderCorner, hlowx, hhighx, hlowy, hhighy]

/-- The alignment patterns cover what is near a centre in column and row, but
for the finder corners. -/
theorem alignment?_isSome_iff {v : Version} {x y : Nat} :
    (alignment? (alignmentCentres v.number) v.side x y).isSome ↔
      NearCentre v.number x ∧ NearCentre v.number y ∧ inFinderCorner v.side x y = false := by
  unfold alignment?
  split
  · rename_i cx cy hfindx hfindy
    obtain ⟨hcx, hx⟩ := find?_centre_eq_some_iff.mp hfindx
    obtain ⟨hcy, hy⟩ := find?_centre_eq_some_iff.mp hfindy
    rw [inFinderCorner_of_near hcx hx hcy hy]
    cases inFinderCorner v.side x y with
    | true => simp
    | false =>
        refine iff_of_true rfl ⟨⟨cx, hcx, hx⟩, ⟨cy, hcy, hy⟩, rfl⟩
  · rename_i hnone
    refine iff_of_false (fun hsome => ?_) ?_
    · cases hsome
    · rintro ⟨⟨cx, hcx, hx⟩, ⟨cy, hcy, hy⟩, -⟩
      exact hnone cx cy (find?_centre_eq_some_iff.mpr ⟨hcx, hx⟩)
        (find?_centre_eq_some_iff.mpr ⟨hcy, hy⟩)

/-! ## The version information -/

/-- The two blocks of the version information. -/
def InInfo (v : Version) (x y : Nat) : Prop :=
  7 ≤ v.number ∧ ((v.side - 11 ≤ x ∧ x < v.side - 8 ∧ y < 6) ∨
    (v.side - 11 ≤ y ∧ y < v.side - 8 ∧ x < 6))

theorem version?_isSome_iff {v : Version} {x y : Nat} :
    (version? v x y).isSome ↔ InInfo v x y := by
  simp [version?, InInfo, Version.hasInfo]

end Pattern

open Pattern

namespace Version

/-! ## All patterns -/

/-- The three areas make up all function modules. -/
theorem module?_isSome_iff {v : Version} {x y : Nat} (hx : x < v.side) (hy : y < v.side) :
    (v.module? x y).isSome ↔ InInfo v x y ∨ InFrame v.side x y ∨
      (NearCentre v.number x ∧ NearCentre v.number y ∧ inFinderCorner v.side x y = false) := by
  rw [← version?_isSome_iff, ← frame_isSome_iff v.twentyOne_le_side hx hy, ← alignment?_isSome_iff]
  simp only [module?, functionModule?, Option.orElse_eq_orElse, Option.orElse_eq_or,
    Option.isSome_or, Bool.or_eq_true]
  tauto

/-- The kind of the cell in column `x` of row `y`. -/
def kind (v : Version) (x y : Nat) : ModuleKind := ((v.module? x y).map Module.kind).getD .data

theorem kind_of_module? {v : Version} {x y : Nat} {m : Module} (h : v.module? x y = some m) :
    v.kind x y = m.kind := by
  rw [kind, h]
  rfl

/-- Where the version leaves a cell free, data goes. -/
theorem kind_of_free {v : Version} {x y : Nat} (h : v.module? x y = none) : v.kind x y = .data := by
  rw [kind, h]
  rfl

/-- A function module is a module of one of the patterns. -/
theorem module?_cases {v : Version} {x y : Nat} {m : Module} (h : v.module? x y = some m) :
    version? v x y = some m ∨ alwaysDark? v.side x y = some m ∨
      (format? v.side x y = some m ∧ version? v x y = none ∧ alwaysDark? v.side x y = none) ∨
      m.kind = .alignment ∨ m.kind = .timing ∨ m.kind = .finder ∨ m.kind = .separator := by
  simp only [module?, functionModule?, Option.orElse_eq_orElse, Option.orElse_eq_or,
    Option.or_eq_some_iff] at h
  rcases h with h | ⟨hversion, h | ⟨hdark, h | ⟨-, h | ⟨-, h | ⟨-, h⟩⟩⟩⟩⟩
  · exact .inl h
  · exact .inr (.inl h)
  · exact .inr (.inr (.inl ⟨h, hversion, hdark⟩))
  · exact .inr (.inr (.inr (.inl (kind_of_alignment? h))))
  · exact .inr (.inr (.inr (.inr (.inl (kind_of_timing? h)))))
  · exact .inr (.inr (.inr (.inr (.inr (kind_of_finder? h)))))

/-- No function module carries data. -/
theorem kind_ne_data {v : Version} {x y : Nat} {m : Module} (h : v.module? x y = some m) :
    m.kind ≠ .data := by
  rcases module?_cases h with h | h | ⟨h, -⟩ | h | h | h | h
  · rw [kind_of_version? h]
    decide
  · rw [kind_of_alwaysDark? h]
    decide
  · rw [kind_of_format? h]
    decide
  all_goals
    rw [h]
    decide

/-- The cells of kind `data` are the free ones. -/
theorem kind_eq_data_iff {v : Version} {x y : Nat} :
    v.kind x y = .data ↔ v.module? x y = none := by
  cases h : v.module? x y with
  | none => exact iff_of_true (kind_of_free h) rfl
  | some m =>
      rw [kind_of_module? h]
      exact iff_of_false (kind_ne_data h) nofun

/-! ## The areas of the information words -/

/-- The format area, less the always-dark module, is where the format
information is written. -/
theorem exists_format_place_iff {side x y : Nat} (hside : 21 ≤ side) :
    (∃ i < 15, (x, y) ∈ FormatInformation.places side i) ↔
      (format? side x y).isSome ∧ alwaysDark? side x y = none := by
  have harea : (format? side x y).isSome ∧ alwaysDark? side x y = none ↔
      (x = 8 ∧ (y ≤ 8 ∧ y ≠ 6 ∨ side - 7 ≤ y ∧ y < side))
        ∨ (y = 8 ∧ (x ≤ 8 ∧ x ≠ 6 ∨ side - 8 ≤ x ∧ x < side)) := by
    simp [format?, alwaysDark?]
    omega
  simp only [harea, FormatInformation.mem_places, FormatInformation.eq_firstPlace_iff,
    FormatInformation.eq_secondPlace_iff]
  constructor
  · rintro ⟨i, hi, (⟨hle, rfl, rfl⟩ | ⟨rfl, rfl, rfl⟩ | ⟨rfl, rfl, rfl⟩ | ⟨rfl, rfl, rfl⟩ |
      ⟨hlt, rfl, rfl⟩) | ⟨hlt, rfl, rfl⟩ | ⟨hle, rfl, rfl⟩⟩
    all_goals omega
  · rintro (⟨rfl, ⟨hy, hne⟩ | hy⟩ | ⟨rfl, ⟨hx, hne⟩ | hx⟩)
    · obtain hy | rfl | rfl : y ≤ 5 ∨ y = 7 ∨ y = 8 := by omega
      · exact ⟨y, by omega, .inl (.inl ⟨hy, rfl, rfl⟩)⟩
      · exact ⟨6, by omega, .inl (.inr (.inl ⟨rfl, rfl, rfl⟩))⟩
      · exact ⟨7, by omega, .inl (.inr (.inr (.inl ⟨rfl, rfl, rfl⟩)))⟩
    · exact ⟨y - (side - 15), by omega, .inr (.inr ⟨by omega, rfl, by omega⟩)⟩
    · obtain hx | rfl | rfl : x ≤ 5 ∨ x = 7 ∨ x = 8 := by omega
      · exact ⟨14 - x, by omega, .inl (.inr (.inr (.inr (.inr ⟨by omega, by omega, rfl⟩))))⟩
      · exact ⟨8, by omega, .inl (.inr (.inr (.inr (.inl ⟨rfl, rfl, rfl⟩))))⟩
      · exact ⟨7, by omega, .inl (.inr (.inr (.inl ⟨rfl, rfl, rfl⟩)))⟩
    · exact ⟨side - 1 - x, by omega, .inr (.inl ⟨by omega, by omega, rfl⟩)⟩

/-- The blocks of the version information are where it is written. -/
theorem exists_version_place_iff {v : Version} {x y : Nat} (h : v.hasInfo = true) :
    (∃ i < 18, (x, y) ∈ VersionInformation.places v.side i) ↔ InInfo v x y := by
  have hnumber : 7 ≤ v.number := by simpa [hasInfo] using h
  have hside : v.side = 4 * v.number + 17 := rfl
  simp only [VersionInformation.mem_places, InInfo, hnumber, true_and]
  constructor
  · rintro ⟨i, hi, hplace⟩
    omega
  · rintro (⟨hlow, hhigh, hy⟩ | ⟨hlow, hhigh, hx⟩)
    · exact ⟨3 * y + (x - (v.side - 11)), by omega, by omega⟩
    · exact ⟨3 * x + (y - (v.side - 11)), by omega, by omega⟩

/-- The cells of kind `format` are the places of the format information. -/
theorem kind_eq_format_iff {v : Version} {x y : Nat} :
    v.kind x y = .format ↔ ∃ i < 15, (x, y) ∈ FormatInformation.places v.side i := by
  rw [exists_format_place_iff v.twentyOne_le_side]
  constructor
  · intro hkind
    cases h : v.module? x y with
    | none => simp [kind_of_free h] at hkind
    | some m =>
        rw [kind_of_module? h] at hkind
        rcases module?_cases h with h | h | ⟨h, -, hdark⟩ | h | h | h | h
        · simp [kind_of_version? h] at hkind
        · simp [kind_of_alwaysDark? h] at hkind
        · exact ⟨by rw [h]; rfl, hdark⟩
        all_goals simp [h] at hkind
  · rintro ⟨hformat, hdark⟩
    obtain ⟨m, hm⟩ := Option.isSome_iff_exists.mp hformat
    have hversion : version? v x y = none := by
      rw [← Option.not_isSome_iff_eq_none, version?_isSome_iff, InInfo]
      simp only [format?, Option.ite_none_right_eq_some] at hm
      have hside : v.side = 4 * v.number + 17 := rfl
      omega
    have hmodule : v.module? x y = some m := by
      rw [module?, functionModule?, hversion, hdark, hm]
      rfl
    rw [kind_of_module? hmodule, kind_of_format? hm]

/-- The modules of the format area are reserved light. -/
theorem module?_of_kind_format {v : Version} {x y : Nat} (hkind : v.kind x y = .format) :
    v.module? x y = some ⟨.format, false⟩ := by
  cases h : v.module? x y with
  | none => simp [kind_of_free h] at hkind
  | some m =>
      rw [kind_of_module? h] at hkind
      rcases module?_cases h with h | h | ⟨h, -⟩ | h | h | h | h
      · simp [kind_of_version? h] at hkind
      · simp [kind_of_alwaysDark? h] at hkind
      · simp only [format?, Option.ite_none_right_eq_some] at h
        exact h.2.symm
      all_goals simp [h] at hkind

/-- The cells of kind `version` are the places of the version information. -/
theorem kind_eq_version_iff {v : Version} {x y : Nat} :
    v.kind x y = .version ↔
      v.hasInfo = true ∧ ∃ i < 18, (x, y) ∈ VersionInformation.places v.side i := by
  constructor
  · intro hkind
    cases h : v.module? x y with
    | none => simp [kind_of_free h] at hkind
    | some m =>
        rw [kind_of_module? h] at hkind
        rcases module?_cases h with h | h | ⟨h, -⟩ | h | h | h | h
        · have harea := version?_isSome_iff.mp (Option.isSome_of_mem h)
          have hinfo : v.hasInfo = true := decide_eq_true harea.1
          exact ⟨hinfo, (exists_version_place_iff hinfo).mpr harea⟩
        · simp [kind_of_alwaysDark? h] at hkind
        · simp [kind_of_format? h] at hkind
        all_goals simp [h] at hkind
  · rintro ⟨hinfo, hplace⟩
    obtain ⟨m, hm⟩ := Option.isSome_iff_exists.mp
      (version?_isSome_iff.mpr ((exists_version_place_iff hinfo).mp hplace))
    have hmodule : v.module? x y = some m := by
      rw [module?, functionModule?, hm]
      rfl
    rw [kind_of_module? hmodule, kind_of_version? hm]

end Version

end QrSymbol
