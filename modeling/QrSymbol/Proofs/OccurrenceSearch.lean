import Mathlib.Data.Finset.Card
import QrSymbol.Proofs.Borders

/-!
# The search for a pattern

An occurrence of a pattern is a place of the line at which the pattern begins.  When the
line grows by a bit, it has one occurrence more exactly if the pattern ends the longer
line (`occurrences_concat`).  The search keeps the longest proper beginning of the pattern
that ends the line read so far, and the next step shows whether the pattern ends the line
with the next bit.  After an occurrence it goes on with the longest border, which is
again the longest proper beginning.  So it counts the occurrences, overlapping ones
included (`BorderTable.Describes.occurrences_add_countFrom`).

The lookups of the search are total functions, which have an answer outside the table,
too.  The runs of its loops are said once more by relations in which every lookup is
inside (`BorderTable.Advances`, `BorderTable.Builds`, `BorderTable.Counts`), and the search
is shown to be such a run.
-/

namespace QrSymbol

/-! ## Occurrences -/

/-- The places of a line at which a pattern begins. -/
def startsOf (pattern line : List Bool) : Finset Nat :=
  (Finset.range line.length).filter fun i => pattern <+: line.drop i

/-- The number of places of a line at which a pattern begins. -/
def occurrences (pattern line : List Bool) : Nat := (startsOf pattern line).card

section

variable {pattern text : List Bool} {bit : Bool} {i : Nat}

theorem mem_startsOf : i ∈ startsOf pattern text ↔ i < text.length ∧ pattern <+: text.drop i := by
  rw [startsOf, Finset.mem_filter, Finset.mem_range]

/-- A pattern that begins in the longer text ends with the next bit or lies in the text
before it. -/
theorem mem_startsOf_concat (hne : pattern ≠ []) : i ∈ startsOf pattern (text ++ [bit]) ↔
    (i ≤ text.length ∧ pattern = text.drop i ++ [bit]) ∨ i ∈ startsOf pattern text := by
  rw [mem_startsOf, mem_startsOf, List.length_append, List.length_singleton, Nat.lt_succ_iff]
  constructor
  · rintro ⟨hi, hprefix⟩
    rw [List.drop_append_of_le_length hi, List.prefix_concat_iff] at hprefix
    refine hprefix.imp (fun h => ⟨hi, h⟩) fun h => ⟨Nat.lt_of_le_of_ne hi ?_, h⟩
    -- Behind the end of the text nothing is left for the pattern to begin.
    rintro rfl
    rw [List.drop_length, List.prefix_nil] at h
    exact hne h
  · rintro (⟨hi, h⟩ | ⟨hi, h⟩)
    · rw [List.drop_append_of_le_length hi, ← h]
      exact ⟨hi, List.prefix_rfl⟩
    · rw [List.drop_append_of_le_length (Nat.le_of_lt hi)]
      exact ⟨Nat.le_of_lt hi, h.trans (List.prefix_append _ _)⟩

/-- A pattern ends with the next bit if it is what the text has from some place on. -/
theorem suffix_concat_iff_exists_drop (hne : pattern ≠ []) : pattern <:+ text ++ [bit] ↔
    ∃ i ≤ text.length, pattern = text.drop i ++ [bit] := by
  constructor
  · intro h
    obtain ⟨rest, rfl, hrest⟩ := (List.suffix_concat_iff.mp h).resolve_left hne
    refine ⟨text.length - rest.length, Nat.sub_le _ _, ?_⟩
    rw [← List.suffix_iff_eq_drop.mp hrest]
  · rintro ⟨i, -, rfl⟩
    exact List.suffix_concat_iff.mpr (.inr ⟨_, rfl, List.drop_suffix i text⟩)

/-- The next bit adds an occurrence if the pattern ends with it, and none otherwise. -/
theorem occurrences_concat (hne : pattern ≠ []) (text : List Bool) (bit : Bool) :
    occurrences pattern (text ++ [bit])
      = occurrences pattern text + if pattern <:+ text ++ [bit] then 1 else 0 := by
  rw [occurrences, occurrences]
  split
  · rename_i hsuffix
    obtain ⟨i, hi, hpattern⟩ := (suffix_concat_iff_exists_drop hne).mp hsuffix
    have hnew : i ∉ startsOf pattern text := by
      intro hold
      have hlength := (mem_startsOf.mp hold).2.length_le
      rw [hpattern, List.length_append, List.length_singleton] at hlength
      omega
    have hinsert : startsOf pattern (text ++ [bit]) = insert i (startsOf pattern text) := by
      ext j
      rw [mem_startsOf_concat hne, Finset.mem_insert]
      refine or_congr_left ⟨?_, ?_⟩
      · rintro ⟨hj, hpattern'⟩
        have hlength := congrArg List.length (hpattern.symm.trans hpattern')
        simp only [List.length_append, List.length_drop, List.length_singleton] at hlength
        omega
      · rintro rfl
        exact ⟨hi, hpattern⟩
    rw [hinsert, Finset.card_insert_of_notMem hnew]
  · rename_i hsuffix
    have hsame : startsOf pattern (text ++ [bit]) = startsOf pattern text := by
      ext j
      rw [mem_startsOf_concat hne, or_iff_right]
      exact fun hj => hsuffix ((suffix_concat_iff_exists_drop hne).mpr ⟨j, hj⟩)
    rw [hsame, Nat.add_zero]

end

namespace BorderTable

variable {t : BorderTable} {pattern text line : List Bool} {k : Nat}

/-! ## Counting -/

/-- A search that stands at the longest proper beginning that ends the text adds the
occurrences that end in the line. -/
theorem Describes.occurrences_add_countFrom (h : t.Describes pattern) (hne : pattern ≠ [])
    (hk : IsGreatest (endings pattern text pattern.length) k) :
    occurrences pattern text + t.countFrom k line = occurrences pattern (text ++ line) := by
  induction line generalizing text k with
  | nil => rw [countFrom, List.append_nil, Nat.add_zero]
  | cons bit line ih =>
      obtain ⟨⟨hle, hend⟩, hlongest⟩ := h.isGreatest_advance bit hk
      rw [List.append_cons, countFrom]
      split
      · rename_i hsize
        rw [h.size_eq] at hsize
        rw [hsize, List.take_length] at hend
        have hnext : IsGreatest (endings pattern (text ++ [bit]) pattern.length)
            (t.border pattern.length) := by
          have hborder := h.border_eq (List.length_pos_of_ne_nil hne) (Nat.le_refl _)
          rwa [List.take_length, ← endings_of_suffix hend] at hborder
        rw [hsize, ← ih hnext, occurrences_concat hne, if_pos hend, Nat.add_assoc]
      · rename_i hsize
        rw [h.size_eq] at hsize
        have hnot : ¬pattern <:+ text ++ [bit] := by
          intro hsuffix
          have hfull := hlongest ⟨Nat.lt_succ_self _, by rwa [List.take_length]⟩
          omega
        have hnext : IsGreatest (endings pattern (text ++ [bit]) pattern.length)
            (t.advance bit k) :=
          ⟨⟨by omega, hend⟩, fun n hn => hlongest ⟨Nat.lt_succ_of_lt hn.1, hn.2⟩⟩
        rw [← ih hnext, occurrences_concat hne, if_neg hnot, Nat.add_zero]

/-- The search counts the occurrences of the pattern. -/
theorem Describes.count_eq (h : t.Describes pattern) (hne : pattern ≠ []) (line : List Bool) :
    t.count line = occurrences pattern line := by
  have hstart : IsGreatest (endings pattern [] pattern.length) 0 :=
    ⟨⟨List.length_pos_of_ne_nil hne, List.nil_suffix⟩, fun n hn => by
      obtain ⟨-, hsuffix⟩ := hn
      rw [List.suffix_nil, List.take_eq_nil_iff] at hsuffix
      exact Nat.le_of_eq (hsuffix.resolve_right hne)⟩
  rw [count, ← Nat.zero_add (t.countFrom 0 line)]
  exact h.occurrences_add_countFrom hne hstart

/-! ## Runs with every lookup inside the table -/

/-- A run of the inner loop, with the number of its turns, from one length to another.
The search stands at the length `k` and looks up bit `k` of the pattern.  If that is not
the next bit, it looks up the border of the first `k` bits. -/
inductive Advances (t : BorderTable) (bit : Bool) : (turns k reached : Nat) → Prop
  /-- The bit extends the beginning. -/
  | extend {k : Nat} (hk : k < t.entries.size) :
      t.entries[k].1 = bit → Advances t bit 0 k (k + 1)
  /-- The bit does not even begin the pattern. -/
  | restart (hfirst : 0 < t.entries.size) : t.entries[0].1 ≠ bit → Advances t bit 0 0 0
  /-- The bit does not extend the beginning, and the loop goes on with its border. -/
  | fallBack {turns k reached : Nat} (hk : k + 1 < t.entries.size) (hlast : k < t.entries.size) :
      t.entries[k + 1].1 ≠ bit → Advances t bit turns t.entries[k].2 reached →
      Advances t bit (turns + 1) (k + 1) reached

/-- A run of the loop that makes a table, from one table to another, over the bits that
are pushed.  All bits but the first take up the search where the last entry left it. -/
inductive Builds : (t : BorderTable) → (bits : List Bool) → (u : BorderTable) → Prop
  | nil {t : BorderTable} : Builds t [] t
  | first {t s u : BorderTable} {bit : Bool} {bits : List Bool} : t.entries.size = 0 →
      s.entries = t.entries.push (bit, 0) → Builds s bits u → Builds t (bit :: bits) u
  | next {t s u : BorderTable} {bit : Bool} {bits : List Bool} {turns reached : Nat}
      (hlast : t.entries.size - 1 < t.entries.size) :
      t.Advances bit turns t.entries[t.entries.size - 1].2 reached →
      s.entries = t.entries.push (bit, reached) → Builds s bits u → Builds t (bit :: bits) u

/-- A run of the search along a line, with the number of occurrences that it finds.
After an occurrence it looks up the border of the pattern. -/
inductive Counts (t : BorderTable) : (k : Nat) → (line : List Bool) → (found : Nat) → Prop
  | nil {k : Nat} : Counts t k [] 0
  | pass {bit : Bool} {turns k reached found : Nat} {line : List Bool} :
      t.Advances bit turns k reached → reached ≠ t.entries.size → Counts t reached line found →
      Counts t k (bit :: line) found
  | occurs {bit : Bool} {turns k found : Nat} {line : List Bool}
      (hlast : t.entries.size - 1 < t.entries.size) :
      t.Advances bit turns k t.entries.size →
      Counts t t.entries[t.entries.size - 1].2 line found → Counts t k (bit :: line) (found + 1)

section

variable {bit : Bool}

theorem bit?_eq_getElem (hk : k < t.entries.size) : t.bit? k = some t.entries[k].1 := by
  rw [bit?, Array.getElem?_eq_getElem hk, Option.map_some]

theorem border_succ (hk : k < t.entries.size) : t.border (k + 1) = t.entries[k].2 := by
  rw [border, Nat.add_sub_cancel, Array.getElem?_eq_getElem hk, Option.map_some, Option.getD_some]

theorem border_size (hlast : t.entries.size - 1 < t.entries.size) :
    t.border t.size = t.entries[t.entries.size - 1].2 := by
  rw [← border_succ hlast, size, Nat.sub_add_cancel (Nat.zero_lt_of_lt hlast)]

/-- The inner loop ends: every turn leads to a shorter beginning. -/
theorem Advances.turns_le {turns reached : Nat} (h : t.Advances bit turns k reached) :
    turns ≤ k := by
  induction h with
  | extend => exact Nat.zero_le _
  | restart => exact Nat.zero_le _
  | fallBack hk hlast hne hrun ih => exact Nat.succ_le_succ (ih.trans (t.border_le _ hlast))

/-- The step of the search is a run of the inner loop. -/
theorem exists_advances (bit : Bool) (hk : k < t.entries.size) :
    ∃ turns, t.Advances bit turns k (t.advance bit k) := by
  fun_induction advance t bit k with
  | case1 k hbit =>
      rw [bit?_eq_getElem hk, Option.some.injEq] at hbit
      exact ⟨0, .extend hk hbit⟩
  | case2 k hbit hpos ih =>
      obtain ⟨turns, hrun⟩ := ih ((t.border_lt hpos).trans hk)
      rw [bit?_eq_getElem hk, Option.some.injEq] at hbit
      cases k with
      | zero => cases hpos
      | succ k =>
          rw [border_succ (Nat.lt_of_succ_lt hk)] at hrun ⊢
          exact ⟨turns + 1, .fallBack hk (Nat.lt_of_succ_lt hk) hbit hrun⟩
  | case3 k hbit hzero =>
      rw [bit?_eq_getElem hk, Option.some.injEq] at hbit
      obtain rfl : k = 0 := by omega
      exact ⟨0, .restart hk hbit⟩

/-- The table of a pattern is made by a run. -/
theorem builds_foldl_push (t : BorderTable) (bits : List Bool) :
    Builds t bits (bits.foldl push t) := by
  induction bits generalizing t with
  | nil => exact .nil
  | cons bit bits ih =>
      rw [List.foldl_cons]
      have hpush : (t.push bit).entries = t.entries.push (bit, t.nextBorder bit) := rfl
      rw [nextBorder] at hpush
      split at hpush
      · rename_i hzero
        exact .first hzero hpush (ih (t.push bit))
      · rename_i hzero
        have hlast : t.entries.size - 1 < t.entries.size :=
          Nat.sub_one_lt_of_lt (Nat.pos_of_ne_zero hzero)
        rw [border_size hlast] at hpush
        have hstart := Nat.lt_of_le_of_lt (t.border_le _ hlast) hlast
        obtain ⟨turns, hrun⟩ := exists_advances bit hstart
        exact .next hlast hrun hpush (ih (t.push bit))

/-- The search along a line is a run. -/
theorem counts_countFrom (line : List Bool) (hk : k < t.entries.size) :
    t.Counts k line (t.countFrom k line) := by
  induction line generalizing k with
  | nil => exact .nil
  | cons bit line ih =>
      obtain ⟨turns, hrun⟩ := exists_advances bit hk
      rw [countFrom]
      split
      · rename_i hsize
        rw [size] at hsize
        have hlast : t.entries.size - 1 < t.entries.size :=
          Nat.sub_one_lt_of_lt (Nat.zero_lt_of_lt hk)
        rw [hsize] at hrun ⊢
        rw [← size, border_size hlast, Nat.add_comm]
        exact .occurs hlast hrun (ih (Nat.lt_of_le_of_lt (t.border_le _ hlast) hlast))
      · rename_i hsize
        have hle := t.advance_le bit k
        exact .pass hrun hsize (ih (by rw [size] at hsize; omega))

end

/-! ## The search for a pattern -/

/-- What a table is to the search for a pattern. -/
structure IsSearchFor (t : BorderTable) (pattern : List Bool) : Prop where
  /-- The entries hold the bits of the pattern. -/
  bits_eq : t.entries.toList.map Prod.fst = pattern
  /-- An entry holds the length of the longest border of the pattern up to and with it. -/
  border_eq : ∀ (i : Nat) (hi : i < t.entries.size),
    IsGreatest (borders (pattern.take (i + 1))) t.entries[i].2
  /-- The table is made bit by bit, and no lookup on the way is outside what is made. -/
  builds : Builds empty pattern t
  /-- A line is searched with no lookup outside the table. -/
  counts : ∀ line, t.Counts 0 line (t.count line)
  /-- What is counted is the places of the line at which the pattern begins. -/
  count_eq : ∀ line, t.count line = occurrences pattern line
  /-- The inner loop of either ends: from any length it takes no more turns than that. -/
  turns_le : ∀ {s : BorderTable} {bit : Bool} {turns k reached : Nat},
    s.Advances bit turns k reached → turns ≤ k

/-- The table of a pattern with at least one bit serves the search for it. -/
theorem isSearchFor_ofPattern {pattern : List Bool} (hne : pattern ≠ []) :
    (ofPattern pattern).IsSearchFor pattern := by
  have h := describes_ofPattern pattern
  have hsize : (ofPattern pattern).entries.size = pattern.length := h.size_eq
  exact {
    bits_eq := by
      refine List.ext_getElem? fun i => ?_
      rw [List.getElem?_map, Array.getElem?_toList]
      exact h.bit?_eq i
    border_eq := by
      intro i hi
      rw [← border_succ hi]
      exact h.border_eq (Nat.succ_pos i) (hsize ▸ hi)
    builds := builds_foldl_push empty pattern
    counts := fun line => counts_countFrom line (hsize ▸ List.length_pos_of_ne_nil hne)
    count_eq := h.count_eq hne
    turns_le := Advances.turns_le }

/-- The search for a pattern whose occurrences overlap. -/
theorem isSearchFor_ofPattern_overlapping :
    [false, true, false, true] ≠ [] ∧
      (ofPattern [false, true, false, true]).IsSearchFor [false, true, false, true] := by
  have hne : [false, true, false, true] ≠ [] := by decide
  exact ⟨hne, isSearchFor_ofPattern hne⟩

end BorderTable

end QrSymbol
