import QrSymbol.Proofs.LargestText
import QrSymbol.Proofs.OrderedSearch

/-!
# The version of a text

The version of a text is the least one, from a floor up, that holds it
(`choosePlan_eq_ok_iff`).  What a version holds follows three orders.  It grows with the
version (`Version.capacity_mono`), although the header grows as well at versions 10 and
27 and the blocks follow no rule.  It shrinks as the level gets stronger
(`Version.capacity_of_stronger`) and as the mode gets broader (`Version.capacity_anti`).

So a request that asks for less, in characters, mode, level or floor, gets a version,
and no larger one (`Version.IsLeastHolding.exists_le`).  A floor does no more than cut
off the versions below it: the version is the larger of the floor and of the version
chosen without one (`Version.IsLeastHolding.number_eq_max`).  In particular a version
that was chosen is chosen again when it is the floor itself
(`Version.IsLeastHolding.as_floor`).
-/

namespace QrSymbol

namespace Version

/-! ## The least version -/

theorem pairwise_upward (v : Version) :
    v.upward.Pairwise fun a b => a.number < b.number := by
  refine List.Pairwise.filter _ (List.pairwise_map.mpr ?_)
  exact (List.pairwise_lt_finRange 40).imp fun hlt => Nat.succ_lt_succ hlt

/-- The least version that passes the test is found, and no other. -/
theorem find?_upward_eq_some_iff {floor v : Version} {p : Version → Bool} :
    floor.upward.find? p = some v ↔ floor.number ≤ v.number ∧ p v = true ∧
      ∀ w : Version, floor.number ≤ w.number → p w = true → v.number ≤ w.number := by
  rw [find?_eq_some_iff_of_ordered floor.pairwise_upward]
  simp only [mem_upward]

/-- The least version from a floor up that holds a text of a given length. -/
structure IsLeastHolding (v : Version) (length : Nat) (mode : Mode) (level : Level)
    (floor : Option Version) : Prop where
  /-- It is not below the floor. -/
  floor_le : (floor.getD .least).number ≤ v.number
  /-- It holds the text. -/
  holds : length ≤ v.capacity level mode
  /-- No smaller one does. -/
  least : ∀ w : Version, (floor.getD .least).number ≤ w.number →
    length ≤ w.capacity level mode → v.number ≤ w.number

end Version

/-- The plan of a text is that of the least version that holds it. -/
theorem choosePlan_eq_ok_iff {length : Nat} {mode : Mode} {level : Level} {floor : Option Version}
    {plan : BlockPlan} : choosePlan length mode level floor = .ok plan ↔
      ∃ v : Version, v.IsLeastHolding length mode level floor ∧ plan = .standard v level := by
  have hleast : ∀ v : Version, v.IsLeastHolding length mode level floor ↔
      (floor.getD .least).upward.find? (fun v => decide (length ≤ v.capacity level mode))
        = some v := by
    intro v
    simp only [Version.find?_upward_eq_some_iff, decide_eq_true_iff]
    exact ⟨fun h => ⟨h.floor_le, h.holds, h.least⟩, fun h => ⟨h.1, h.2.1, h.2.2⟩⟩
  simp only [hleast, choosePlan]
  cases (floor.getD .least).upward.find? fun v => decide (length ≤ v.capacity level mode) with
  | none => simp
  | some v => simp [eq_comm]

namespace Version

/-! ## Comparing versions -/

/-- A broader mode holds fewer characters. -/
theorem capacity_anti : ∀ (v : Version) (level : Level) (narrow broad : Mode), narrow ≤ broad →
    v.capacity level broad ≤ v.capacity level narrow := by decide +kernel

/-- A stronger level leaves fewer bits for data. -/
theorem dataBits_of_stronger : ∀ (v : Version) (weak strong : Level), weak.rank ≤ strong.rank →
    (BlockPlan.standard v strong).dataBits ≤ (BlockPlan.standard v weak).dataBits := by
  decide +kernel

/-- From a version to the next, the bits for data grow by more than the header. -/
theorem dataBits_of_next : ∀ v next : Version, next.number = v.number + 1 →
    ∀ (level : Level) (mode : Mode),
      (BlockPlan.standard v level).dataBits + next.headerBits mode
        < (BlockPlan.standard next level).dataBits + v.headerBits mode := by
  decide +kernel

/-- A stronger level holds fewer characters. -/
theorem capacity_of_stronger (v : Version) {weak strong : Level} (h : weak.rank ≤ strong.rank)
    (mode : Mode) : v.capacity strong mode ≤ v.capacity weak mode := by
  have hfits := le_capacity_iff.mp (Nat.le_refl (v.capacity strong mode))
  exact le_capacity_iff.mpr (hfits.trans (v.dataBits_of_stronger weak strong h))

theorem capacity_le_next {v next : Version} (h : next.number = v.number + 1) (level : Level)
    (mode : Mode) : v.capacity level mode ≤ next.capacity level mode := by
  have hfits := le_capacity_iff.mp (Nat.le_refl (v.capacity level mode))
  have hgrows := dataBits_of_next v next h level mode
  rw [le_capacity_iff]
  omega

/-- A larger version holds more characters. -/
theorem capacity_mono {v w : Version} (h : v.number ≤ w.number) (level : Level) (mode : Mode) :
    v.capacity level mode ≤ w.capacity level mode := by
  obtain ⟨k, hk⟩ := Nat.exists_eq_add_of_le h
  clear h
  induction k generalizing w with
  | zero => rw [ext_number hk]
  | succ k ih =>
      have hlast : v.number + k ≤ 40 := by
        have := w.le_forty
        omega
      let last : Version := ⟨v.number + k, v.one_le.trans (Nat.le_add_right _ _), hlast⟩
      exact (ih (w := last) rfl).trans (capacity_le_next hk level mode)

/-- A version that holds a request holds every one that asks for less. -/
theorem le_capacity_of_less {v : Version} {fewer length : Nat} {narrower mode : Mode}
    {weaker level : Level} (hlength : fewer ≤ length) (hmode : narrower ≤ mode)
    (hlevel : weaker.rank ≤ level.rank) (h : length ≤ v.capacity level mode) :
    fewer ≤ v.capacity weaker narrower :=
  calc fewer ≤ length := hlength
    _ ≤ v.capacity level mode := h
    _ ≤ v.capacity level narrower := v.capacity_anti level narrower mode hmode
    _ ≤ v.capacity weaker narrower := v.capacity_of_stronger hlevel narrower

/-- What the largest version holds has a least version, from any floor up. -/
theorem exists_isLeastHolding {length : Nat} {mode : Mode} {level : Level}
    (h : length ≤ greatest.capacity level mode) (floor : Option Version) :
    ∃ v : Version, v.IsLeastHolding length mode level floor := by
  obtain ⟨_, hplan, -⟩ := choosePlan_of_le h floor
  obtain ⟨v, hv, -⟩ := choosePlan_eq_ok_iff.mp hplan
  exact ⟨v, hv⟩

namespace IsLeastHolding

variable {v : Version} {length : Nat} {mode : Mode} {level : Level} {floor : Option Version}

/-- There is one such version at most. -/
theorem unique {w : Version} (h : v.IsLeastHolding length mode level floor)
    (hw : w.IsLeastHolding length mode level floor) : v = w :=
  ext_number (Nat.le_antisymm (h.least w hw.floor_le hw.holds) (hw.least v h.floor_le h.holds))

/-- A request that asks for less gets no larger version. -/
theorem exists_le (h : v.IsLeastHolding length mode level floor) {fewer : Nat} {narrower : Mode}
    {weaker : Level} {lower : Option Version} (hlength : fewer ≤ length)
    (hmode : narrower ≤ mode) (hlevel : weaker.rank ≤ level.rank)
    (hfloor : (lower.getD .least).number ≤ (floor.getD .least).number) :
    ∃ w : Version, w.IsLeastHolding fewer narrower weaker lower ∧ w.number ≤ v.number := by
  have hholds := le_capacity_of_less hlength hmode hlevel h.holds
  obtain ⟨w, hw⟩ :=
    exists_isLeastHolding (hholds.trans (v.capacity_le_greatest weaker narrower)) lower
  exact ⟨w, hw, hw.least v (hfloor.trans h.floor_le) hholds⟩

/-- The version of a text is its version from that version up, too. -/
theorem as_floor (h : v.IsLeastHolding length mode level floor) :
    v.IsLeastHolding length mode level (some v) where
  floor_le := Nat.le_refl _
  holds := h.holds
  least := fun _ hfloor _ => hfloor

/-- A floor only lifts the version that is chosen without it. -/
theorem number_eq_max (h : v.IsLeastHolding length mode level floor) {free : Version}
    (hfree : free.IsLeastHolding length mode level none) :
    v.number = max (floor.getD .least).number free.number := by
  refine Nat.le_antisymm ?_ (Nat.max_le.mpr ⟨h.floor_le, hfree.least v v.one_le h.holds⟩)
  rcases Nat.le_total (floor.getD .least).number free.number with hle | hle
  · rw [Nat.max_eq_right hle]
    exact h.least free hle hfree.holds
  · -- The floor is larger, so it holds the text as well.
    rw [Nat.max_eq_left hle]
    exact h.least _ (Nat.le_refl _) (hfree.holds.trans (capacity_mono hle level mode))

end IsLeastHolding

end Version

/-! ## The choice as a whole -/

/-- What the choice of a plan comes to for a number of characters. -/
structure ChoosesLeastPlan (length : Nat) (mode : Mode) (level : Level)
    (floor : Option Version) : Prop where
  /-- It fails exactly if the largest version does not hold the characters, and says so. -/
  error_iff : ∀ {e : EncodeError}, choosePlan length mode level floor = .error e ↔
    Version.greatest.capacity level mode < length ∧ e = .textTooLong length mode level
  /-- Otherwise the plan is that of the least version from the floor up that holds them,
  which is the larger of the floor and of the version chosen without a floor. -/
  least : length ≤ Version.greatest.capacity level mode → ∃ v free : Version,
    choosePlan length mode level floor = .ok (.standard v level) ∧
    v.IsLeastHolding length mode level floor ∧
    choosePlan length mode level none = .ok (.standard free level) ∧
    v.number = max (floor.getD .least).number free.number
  /-- If a request succeeds, so does every one with no more characters, no broader mode,
  no stronger level and no higher floor, and it gets no larger version. -/
  mono : ∀ {fewer : Nat} {narrower : Mode} {weaker : Level} {lower : Option Version}
    {plan : BlockPlan}, fewer ≤ length → narrower ≤ mode → weaker.rank ≤ level.rank →
    (lower.getD .least).number ≤ (floor.getD .least).number →
    choosePlan length mode level floor = .ok plan →
    ∃ smaller, choosePlan fewer narrower weaker lower = .ok smaller ∧
      smaller.version.number ≤ plan.version.number

/-- The plan is that of the least version, for every request. -/
theorem choosesLeastPlan (length : Nat) (mode : Mode) (level : Level) (floor : Option Version) :
    ChoosesLeastPlan length mode level floor where
  error_iff := by
    intro e
    by_cases hlong : Version.greatest.capacity level mode < length
    · rw [choosePlan_of_lt hlong, and_iff_right hlong, Except.error.injEq, eq_comm]
    · obtain ⟨v, hplan, -⟩ := choosePlan_of_le (Nat.le_of_not_lt hlong) floor
      refine iff_of_false ?_ fun h => hlong h.1
      rw [hplan]
      exact nofun
  least := by
    intro hholds
    obtain ⟨v, hv⟩ := Version.exists_isLeastHolding hholds floor
    obtain ⟨free, hfree⟩ := Version.exists_isLeastHolding hholds none
    exact ⟨v, free, choosePlan_eq_ok_iff.mpr ⟨v, hv, rfl⟩, hv,
      choosePlan_eq_ok_iff.mpr ⟨free, hfree, rfl⟩, hv.number_eq_max hfree⟩
  mono := by
    intro fewer narrower weaker lower plan hlength hmode hlevel hfloor hplan
    obtain ⟨v, hv, rfl⟩ := choosePlan_eq_ok_iff.mp hplan
    obtain ⟨w, hw, hle⟩ := hv.exists_le hlength hmode hlevel hfloor
    exact ⟨_, choosePlan_eq_ok_iff.mpr ⟨w, hw, rfl⟩, hle⟩

end QrSymbol
