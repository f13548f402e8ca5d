import Mathlib.Algebra.BigOperators.Group.Finset.Basic
import Mathlib.Data.Finset.Image
import Mathlib.Data.Finset.Prod
import QrSymbol.Penalty.Score

/-!
# The maximal runs of a line

A maximal run of a line is a part of it in one colour that no part in one colour
contains (`IsMaximalRun`).  The penalty of a line reads its modules one by one and
keeps the colour and the length of the run that it stands in.  So it treats a line
as some modules of one colour with the rest behind them.  If the rest begins with
the other colour, or is empty, these modules are the first maximal run of the line,
and the others are those of the rest (`maximalRuns_replicate_append`).  From that, by
induction on the rest, the penalty is the sum over the maximal runs (`ofRuns_eq`).
-/

namespace QrSymbol

open Finset

/-! ## Runs -/

/-- Whether the `length` modules of a line from number `start` on are a maximal run. -/
structure IsMaximalRun (colours : List Bool) (start length : Nat) : Prop where
  /-- It has a module. -/
  length_pos : 0 < length
  /-- It does not go beyond the line. -/
  end_le : start + length ≤ colours.length
  /-- All its modules have the colour of the first. -/
  colour_eq : ∀ i < length, colours[start + i]? = colours[start]?
  /-- The module before it, if there is one, has the other colour. -/
  before_ne : start = 0 ∨ colours[start - 1]? ≠ colours[start]?
  /-- The module behind it, if there is one, has the other colour. -/
  behind_ne : colours[start + length]? ≠ colours[start]?

instance (colours : List Bool) (start length : Nat) : Decidable (IsMaximalRun colours start length) :=
  decidable_of_iff
    (0 < length ∧ start + length ≤ colours.length ∧
      (∀ i < length, colours[start + i]? = colours[start]?) ∧
      (start = 0 ∨ colours[start - 1]? ≠ colours[start]?) ∧ colours[start + length]? ≠ colours[start]?)
    ⟨fun ⟨hpos, hend, hcolour, hbefore, hbehind⟩ => ⟨hpos, hend, hcolour, hbefore, hbehind⟩,
      fun ⟨hpos, hend, hcolour, hbefore, hbehind⟩ => ⟨hpos, hend, hcolour, hbefore, hbehind⟩⟩

/-- The maximal runs of a line, each with its start and its length. -/
def maximalRuns (colours : List Bool) : Finset (Nat × Nat) :=
  (range colours.length ×ˢ range (colours.length + 1)).filter fun r => IsMaximalRun colours r.1 r.2

theorem mem_maximalRuns {colours : List Bool} {start length : Nat} :
    (start, length) ∈ maximalRuns colours ↔ IsMaximalRun colours start length := by
  rw [maximalRuns, mem_filter, mem_product, mem_range, mem_range, and_iff_right_iff_imp]
  intro h
  have hpos := h.length_pos
  have hend := h.end_le
  omega

/-- What the maximal runs of a line cost together. -/
def runCost (colours : List Bool) : Nat := ∑ r ∈ maximalRuns colours with 5 ≤ r.2, (r.2 - 2)

/-! ## The first run -/

section

variable {colour : Bool} {count start length i : Nat} {rest : List Bool}

theorem getElem?_replicate_append_of_lt (hi : i < count) :
    (List.replicate count colour ++ rest)[i]? = some colour := by
  rw [List.getElem?_append_left (by rwa [List.length_replicate]), List.getElem?_replicate_of_lt hi]

theorem getElem?_replicate_append_add :
    (List.replicate count colour ++ rest)[count + i]? = rest[i]? := by
  rw [List.getElem?_append_right (by rw [List.length_replicate]; exact Nat.le_add_right _ _),
    List.length_replicate, Nat.add_sub_cancel_left]

theorem getElem?_replicate_append_count :
    (List.replicate count colour ++ rest)[count]? = rest.head? := by
  have h : (List.replicate count colour ++ rest)[count + 0]? = rest[0]? :=
    getElem?_replicate_append_add
  rwa [Nat.add_zero, ← List.head?_eq_getElem?] at h

/-- Modules of one colour are a maximal run if the rest does not go on with it. -/
theorem isMaximalRun_replicate_append (hcount : 0 < count) (hrest : rest.head? ≠ some colour) :
    IsMaximalRun (List.replicate count colour ++ rest) 0 count where
  length_pos := hcount
  end_le := by
    rw [List.length_append, List.length_replicate, Nat.zero_add]
    exact Nat.le_add_right _ _
  colour_eq := by
    intro i hi
    rw [Nat.zero_add, getElem?_replicate_append_of_lt hi, getElem?_replicate_append_of_lt hcount]
  before_ne := .inl rfl
  behind_ne := by
    rwa [Nat.zero_add, getElem?_replicate_append_of_lt hcount, getElem?_replicate_append_count]

/-- A maximal run that starts among modules of one colour consists of them. -/
theorem IsMaximalRun.eq_of_start_lt
    (h : IsMaximalRun (List.replicate count colour ++ rest) start length)
    (hrest : rest.head? ≠ some colour) (hstart : start < count) : start = 0 ∧ length = count := by
  have hcolour : (List.replicate count colour ++ rest)[start]? = some colour :=
    getElem?_replicate_append_of_lt hstart
  have hzero : start = 0 := by
    refine h.before_ne.resolve_right fun hbefore => hbefore ?_
    rw [hcolour, getElem?_replicate_append_of_lt (by omega)]
  refine ⟨hzero, ?_⟩
  subst hzero
  rcases Nat.lt_trichotomy length count with hless | heq | hmore
  · -- The module behind a shorter run has its colour, too.
    refine absurd ?_ h.behind_ne
    rw [hcolour, Nat.zero_add, getElem?_replicate_append_of_lt hless]
  · exact heq
  · -- A longer run goes on with the first module of the rest.
    have hnext := h.colour_eq count hmore
    rw [hcolour, Nat.zero_add, getElem?_replicate_append_count] at hnext
    exact absurd hnext hrest

/-- The maximal runs that start behind modules of one colour are those of the rest. -/
theorem isMaximalRun_add_iff (hcount : 0 < count) (hrest : rest.head? ≠ some colour) :
    IsMaximalRun (List.replicate count colour ++ rest) (count + start) length
      ↔ IsMaximalRun rest start length := by
  have hlength : (List.replicate count colour ++ rest).length = count + rest.length := by
    rw [List.length_append, List.length_replicate]
  constructor
  · intro h
    have hend := h.end_le
    refine ⟨h.length_pos, by omega, fun i hi => ?_, ?_, ?_⟩
    · have hcolour := h.colour_eq i hi
      rwa [Nat.add_assoc, getElem?_replicate_append_add, getElem?_replicate_append_add] at hcolour
    · rcases Nat.eq_zero_or_pos start with hzero | hpos
      · exact .inl hzero
      · have hbefore := h.before_ne.resolve_left (by omega)
        rw [Nat.add_sub_assoc hpos, getElem?_replicate_append_add,
          getElem?_replicate_append_add] at hbefore
        exact .inr hbefore
    · have hbehind := h.behind_ne
      rwa [Nat.add_assoc, getElem?_replicate_append_add, getElem?_replicate_append_add] at hbehind
  · intro h
    have hend := h.end_le
    refine ⟨h.length_pos, by omega, fun i hi => ?_, .inr ?_, ?_⟩
    · rw [Nat.add_assoc, getElem?_replicate_append_add, getElem?_replicate_append_add,
        h.colour_eq i hi]
    · rw [getElem?_replicate_append_add]
      rcases Nat.eq_zero_or_pos start with rfl | hpos
      · -- The first run of the rest comes behind the modules in the other colour.
        rw [Nat.add_zero, getElem?_replicate_append_of_lt (Nat.sub_lt hcount Nat.one_pos),
          ← List.head?_eq_getElem?]
        exact hrest.symm
      · rw [Nat.add_sub_assoc hpos, getElem?_replicate_append_add]
        exact h.before_ne.resolve_left (Nat.ne_of_gt hpos)
    · rw [Nat.add_assoc, getElem?_replicate_append_add, getElem?_replicate_append_add]
      exact h.behind_ne

/-- Modules of one colour are the first maximal run, and the others are those of the
rest. -/
theorem maximalRuns_replicate_append (hcount : 0 < count) (hrest : rest.head? ≠ some colour) :
    maximalRuns (List.replicate count colour ++ rest)
      = insert (0, count) ((maximalRuns rest).image fun r => (count + r.1, r.2)) := by
  ext ⟨start, length⟩
  simp only [mem_insert, mem_image, Prod.exists, Prod.mk.injEq, mem_maximalRuns]
  constructor
  · intro h
    rcases Nat.lt_or_ge start count with hstart | hstart
    · exact .inl (h.eq_of_start_lt hrest hstart)
    · obtain ⟨offset, rfl⟩ := Nat.exists_eq_add_of_le hstart
      exact .inr ⟨offset, length, (isMaximalRun_add_iff hcount hrest).mp h, rfl, rfl⟩
  · rintro (⟨rfl, rfl⟩ | ⟨offset, same, h, rfl, rfl⟩)
    · exact isMaximalRun_replicate_append hcount hrest
    · exact (isMaximalRun_add_iff hcount hrest).mpr h

/-! ## Costs -/

namespace Penalty

theorem ofRun_eq (length : Nat) : ofRun length = if 5 ≤ length then length - 2 else 0 := by
  rw [ofRun]
  split
  · omega
  · rfl

@[simp] theorem runCost_nil : runCost [] = 0 := rfl

/-- The cost of a line is that of its first run and that of the rest. -/
theorem runCost_replicate_append (hcount : 0 < count) (hrest : rest.head? ≠ some colour) :
    runCost (List.replicate count colour ++ rest) = ofRun count + runCost rest := by
  have hfirst : (0, count) ∉ (maximalRuns rest).image fun r => (count + r.1, r.2) := by
    rw [mem_image]
    rintro ⟨r, -, hr⟩
    have hstart := congrArg Prod.fst hr
    simp only at hstart
    omega
  have hshift : Set.InjOn (fun r : Nat × Nat => (count + r.1, r.2)) (maximalRuns rest) := by
    intro r _ s _ hrs
    rw [Prod.mk.injEq] at hrs
    exact Prod.ext (Nat.add_left_cancel hrs.1) hrs.2
  rw [runCost, sum_filter, maximalRuns_replicate_append hcount hrest, sum_insert hfirst,
    sum_image hshift, runCost, sum_filter, ofRun_eq]

/-- The penalty of a line, behind modules of one colour, is the cost of them all. -/
theorem ofRunsFrom_eq (colour : Bool) (hcount : 0 < count) (colours : List Bool) :
    ofRunsFrom colour count colours = runCost (List.replicate count colour ++ colours) := by
  induction colours generalizing colour count with
  | nil => rw [ofRunsFrom, runCost_replicate_append hcount (by simp), runCost_nil, Nat.add_zero]
  | cons c colours ih =>
      rw [ofRunsFrom]
      split
      · rename_i hsame
        rw [ih colour (Nat.succ_pos count), List.replicate_succ', hsame, List.append_assoc,
          List.singleton_append]
      · rename_i hother
        have hrest : (c :: colours).head? ≠ some colour := fun h => hother (Option.some.inj h)
        rw [runCost_replicate_append hcount hrest, ih c Nat.one_pos]
        rfl

/-- The penalty of a line is what its maximal runs cost. -/
theorem ofRuns_eq (colours : List Bool) : ofRuns colours = runCost colours := by
  cases colours with
  | nil => rfl
  | cons c colours =>
      rw [ofRuns, ofRunsFrom_eq c Nat.one_pos]
      rfl

/-- A line costs no more than it has modules. -/
theorem ofRunsFrom_le (colour : Bool) (count : Nat) (colours : List Bool) :
    ofRunsFrom colour count colours ≤ count + colours.length := by
  have hrun : ∀ length, ofRun length ≤ length := by
    intro length
    rw [ofRun_eq]
    split
    · exact Nat.sub_le _ _
    · exact Nat.zero_le _
  induction colours generalizing colour count with
  | nil => exact hrun count
  | cons c colours ih =>
      have hsame := ih colour (count + 1)
      have hother := ih c 1
      have hfirst := hrun count
      rw [ofRunsFrom, List.length_cons]
      split <;> omega

theorem ofRuns_le (colours : List Bool) : ofRuns colours ≤ colours.length := by
  cases colours with
  | nil => exact Nat.le_refl _
  | cons c colours =>
      rw [ofRuns, List.length_cons, Nat.add_comm]
      exact ofRunsFrom_le c 1 colours

end Penalty

end

end QrSymbol
