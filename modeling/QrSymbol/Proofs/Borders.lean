import Mathlib.Data.List.Infix
import Mathlib.Order.Bounds.Basic
import QrSymbol.Penalty.Occurrences

/-!
# The borders in the table

A search keeps the longest beginning of the pattern that ends what it has read.  What the
next bit makes of it is `BorderTable.advance`: if a longer beginning ends the text with
that bit, what is left of it without the bit ends the text before, so it is the beginning
that was kept or one of its borders, and the borders are tried from the longest on
(`BorderTable.Describes.isGreatest_advance`).

The table is made by the same step.  A border of a pattern is a beginning of it that ends
it, so the longest border with one more bit is what the step makes of the longest border
without it (`BorderTable.Describes.push`).  So every entry of the table of a pattern holds
a longest border (`BorderTable.describes_ofPattern`).
-/

namespace QrSymbol

/-! ## Beginnings that end a text -/

/-- The lengths, below a bound, of the beginnings of a pattern that end a text. -/
def endings (pattern text : List Bool) (bound : Nat) : Set Nat :=
  {n | n < bound ∧ pattern.take n <:+ text}

/-- The lengths of the borders of a list, which are its proper beginnings that end it. -/
def borders (l : List Bool) : Set Nat := endings l l l.length

section

variable {pattern text : List Bool} {bit : Bool} {n : Nat}

theorem take_succ_suffix_iff (hn : n < pattern.length) :
    pattern.take (n + 1) <:+ text ++ [bit] ↔ pattern.take n <:+ text ∧ pattern[n]? = some bit := by
  rw [List.take_succ_eq_append_getElem hn, List.getElem?_eq_getElem hn, Option.some.injEq]
  constructor
  · rintro ⟨front, h⟩
    rw [← List.append_assoc] at h
    obtain ⟨htext, hbit⟩ := List.append_inj' h rfl
    exact ⟨⟨front, htext⟩, List.singleton_inj.mp hbit⟩
  · rintro ⟨⟨front, rfl⟩, rfl⟩
    exact ⟨front, (List.append_assoc _ _ _).symm⟩

/-- Of two beginnings that end a text, the shorter one ends the longer one. -/
theorem take_suffix_take {m : Nat} (hn : pattern.take n <:+ text) (hm : pattern.take m <:+ text)
    (hle : n ≤ m) : pattern.take n <:+ pattern.take m := by
  refine List.suffix_of_suffix_length_le hn hm ?_
  rw [List.length_take, List.length_take]
  omega

/-- If the whole pattern ends a text, the proper beginnings that end it are the borders. -/
theorem endings_of_suffix (h : pattern <:+ text) :
    endings pattern text pattern.length = borders pattern := by
  ext n
  refine and_congr_right fun hn => ⟨fun hend => ?_, fun hborder => hborder.trans h⟩
  refine List.suffix_of_suffix_length_le hend h ?_
  rw [List.length_take]
  exact Nat.min_le_right _ _

end

namespace BorderTable

/-! ## One step -/

/-- A table describes a pattern if it holds its bits and the longest borders of its
beginnings. -/
structure Describes (t : BorderTable) (pattern : List Bool) : Prop where
  /-- There is an entry for each bit. -/
  size_eq : t.size = pattern.length
  /-- The bits are those of the pattern. -/
  bit?_eq : ∀ i, t.bit? i = pattern[i]?
  /-- The borders are the longest. -/
  border_eq : ∀ {k : Nat}, 0 < k → k ≤ pattern.length →
    IsGreatest (borders (pattern.take k)) (t.border k)

namespace Describes

variable {t : BorderTable} {pattern text : List Bool} {k : Nat}

/-- The border of a beginning is a shorter beginning that ends it. -/
theorem border_suffix (h : t.Describes pattern) (hpos : 0 < k) (hk : k ≤ pattern.length) :
    pattern.take (t.border k) <:+ pattern.take k := by
  obtain ⟨-, hsuffix⟩ := (h.border_eq hpos hk).1
  rwa [List.take_take, Nat.min_eq_left (Nat.le_of_lt (t.border_lt hpos))] at hsuffix

/-- No shorter beginning that ends a beginning is longer than its border. -/
theorem le_border (h : t.Describes pattern) (hk : k ≤ pattern.length) {n : Nat} (hn : n < k)
    (hsuffix : pattern.take n <:+ pattern.take k) : n ≤ t.border k := by
  refine (h.border_eq (Nat.zero_lt_of_lt hn) hk).2 ⟨?_, ?_⟩
  · rw [List.length_take]
    omega
  · rwa [List.take_take, Nat.min_eq_left (Nat.le_of_lt hn)]

/-- A step from a beginning that ends the text leads to one that ends the text with the
next bit, and it is the longest of those that the first one can lead to. -/
theorem advance_spec (h : t.Describes pattern) (bit : Bool) (hk : k < pattern.length)
    (hend : pattern.take k <:+ text) :
    pattern.take (t.advance bit k) <:+ text ++ [bit] ∧
      ∀ n ≤ k + 1, pattern.take n <:+ text ++ [bit] → n ≤ t.advance bit k := by
  fun_induction advance t bit k with
  | case1 k hbit =>
      rw [h.bit?_eq] at hbit
      exact ⟨(take_succ_suffix_iff hk).mpr ⟨hend, hbit⟩, fun n hn _ => hn⟩
  | case2 k hbit hpos ih =>
      have hlt := t.border_lt hpos
      have hborder := h.border_suffix hpos (Nat.le_of_lt hk)
      obtain ⟨hreached, hlongest⟩ := ih (hlt.trans hk) (hborder.trans hend)
      refine ⟨hreached, fun n hn hsuffix => hlongest n ?_ hsuffix⟩
      cases n with
      | zero => exact Nat.zero_le _
      | succ n =>
          -- Without the bit the beginning is shorter than `k`, and so a border of it.
          obtain ⟨hshorter, hnbit⟩ := (take_succ_suffix_iff (by omega)).mp hsuffix
          have hne : n ≠ k := by
            rintro rfl
            exact hbit ((h.bit?_eq n).trans hnbit)
          have hnk : n < k := by omega
          exact Nat.succ_le_succ (h.le_border (Nat.le_of_lt hk) hnk
            (take_suffix_take hshorter hend (Nat.le_of_lt hnk)))
  | case3 k hbit hzero =>
      obtain rfl : k = 0 := by omega
      refine ⟨List.nil_suffix, fun n hn hsuffix => ?_⟩
      cases n with
      | zero => exact Nat.le_refl _
      | succ n =>
          obtain rfl : n = 0 := by omega
          exact absurd ((h.bit?_eq 0).trans ((take_succ_suffix_iff hk).mp hsuffix).2) hbit

/-- A step from the longest proper beginning that ends the text leads to the longest
beginning that ends the text with the next bit. -/
theorem isGreatest_advance (h : t.Describes pattern) (bit : Bool)
    (hk : IsGreatest (endings pattern text pattern.length) k) :
    IsGreatest (endings pattern (text ++ [bit]) (pattern.length + 1)) (t.advance bit k) := by
  obtain ⟨⟨hlt, hend⟩, hlongest⟩ := hk
  obtain ⟨hreached, hbound⟩ := h.advance_spec bit hlt hend
  refine ⟨⟨?_, hreached⟩, ?_⟩
  · have := t.advance_le bit k
    omega
  · rintro n ⟨hn, hsuffix⟩
    refine hbound n ?_ hsuffix
    cases n with
    | zero => exact Nat.zero_le _
    | succ n =>
        obtain ⟨hshorter, -⟩ := (take_succ_suffix_iff (by omega)).mp hsuffix
        exact Nat.succ_le_succ (hlongest ⟨by omega, hshorter⟩)

end Describes

/-! ## The table of a pattern -/

section

variable {t : BorderTable} {bit : Bool} {k : Nat}

@[simp] theorem size_push : (t.push bit).size = t.size + 1 := Array.size_push _

theorem bit?_push (i : Nat) :
    (t.push bit).bit? i = if i = t.size then some bit else t.bit? i := by
  rw [bit?, push, Array.getElem?_push, ← size]
  split
  · rfl
  · rfl

theorem border_push_of_le (hpos : 0 < k) (hk : k ≤ t.size) :
    (t.push bit).border k = t.border k := by
  have hne : k - 1 ≠ t.entries.size := by
    rw [size] at hk
    omega
  rw [border, push, Array.getElem?_push, if_neg hne, border]

theorem border_push_size : (t.push bit).border (t.size + 1) = t.nextBorder bit := by
  rw [border, push, Nat.add_sub_cancel, size, Array.getElem?_push_size]
  rfl

end

theorem describes_empty : empty.Describes [] where
  size_eq := rfl
  bit?_eq := fun _ => rfl
  border_eq := fun hpos hk => absurd hk (Nat.not_le_of_lt hpos)

/-- The longest border with one more bit. -/
theorem Describes.isGreatest_nextBorder {t : BorderTable} {pattern : List Bool}
    (h : t.Describes pattern) (bit : Bool) :
    IsGreatest (borders (pattern ++ [bit])) (t.nextBorder bit) := by
  -- Up to the length of the pattern the beginnings are those without the bit.
  have hborders : borders (pattern ++ [bit])
      = endings pattern (pattern ++ [bit]) (pattern.length + 1) := by
    ext n
    rw [borders, endings, endings, List.length_append, List.length_singleton]
    refine and_congr_right fun hn => ?_
    rw [List.take_append_of_le_length (Nat.le_of_lt_succ hn)]
  rw [hborders, nextBorder, h.size_eq]
  split
  · rename_i hzero
    obtain rfl := List.eq_nil_of_length_eq_zero hzero
    exact ⟨⟨Nat.zero_lt_one, List.nil_suffix⟩, fun n hn => Nat.le_of_lt_succ hn.1⟩
  · rename_i hzero
    have hlongest := h.border_eq (Nat.pos_of_ne_zero hzero) (Nat.le_refl _)
    rw [List.take_length] at hlongest
    exact h.isGreatest_advance bit hlongest

/-- With one more bit the table describes the pattern with that bit. -/
theorem Describes.push {t : BorderTable} {pattern : List Bool} (h : t.Describes pattern)
    (bit : Bool) : (t.push bit).Describes (pattern ++ [bit]) where
  size_eq := by rw [size_push, h.size_eq, List.length_append, List.length_singleton]
  bit?_eq := by
    intro i
    rw [bit?_push, h.size_eq, h.bit?_eq]
    rcases Nat.lt_trichotomy i pattern.length with hlt | rfl | hgt
    · rw [if_neg (Nat.ne_of_lt hlt), List.getElem?_append_left hlt]
    · rw [if_pos rfl, List.getElem?_concat_length]
    · rw [if_neg (Nat.ne_of_gt hgt), List.getElem?_eq_none (Nat.le_of_lt hgt),
        List.getElem?_eq_none (by rw [List.length_append]; exact hgt)]
  border_eq := by
    intro k hpos hk
    rw [List.length_append, List.length_singleton] at hk
    rcases Nat.lt_or_eq_of_le hk with hlt | rfl
    · have hle := Nat.le_of_lt_succ hlt
      rw [border_push_of_le hpos (h.size_eq ▸ hle), List.take_append_of_le_length hle]
      exact h.border_eq hpos hle
    · rw [List.take_of_length_le (by simp), ← h.size_eq, border_push_size]
      exact h.isGreatest_nextBorder bit

/-- The table of a pattern describes it. -/
theorem describes_ofPattern (pattern : List Bool) : (ofPattern pattern).Describes pattern := by
  -- What is pushed behind a described beginning describes the whole.
  have hfold : ∀ (rest front : List Bool) (t : BorderTable), t.Describes front →
      (rest.foldl BorderTable.push t).Describes (front ++ rest) := by
    intro rest
    induction rest with
    | nil =>
        intro front t h
        rwa [List.append_nil]
    | cons bit rest ih =>
        intro front t h
        rw [List.foldl_cons, List.append_cons]
        exact ih _ _ (h.push bit)
  exact hfold pattern [] empty describes_empty

end BorderTable

end QrSymbol
