import Mathlib.Data.List.Nodup
import Mathlib.Tactic.SplitIfs
import QrSymbol.FormatInformation
import QrSymbol.Proofs.BitNumbers
import QrSymbol.VersionInformation

/-!
# Words written into a grid

Both information words are written in one way: bit after bit, each to all its
places (`writeBits`).  No place belongs to two bits, so a place of bit `i` holds
bit `i` at the end (`get?_writeBits_of_mem`), and a cell that is the place of no
bit keeps its module (`get?_writeBits_of_notMem`).

The first copy of the format information, read off the grid again, is the word
that was written (`FormatInformation.read_write`).
-/

namespace QrSymbol

/-- The grid with the module of each number written to the places of that number. -/
def writeBits (places : Nat → Nat → List (Nat × Nat)) (m : Nat → Module) (numbers : List Nat)
    (g : Grid) : Grid :=
  numbers.foldl (fun g i => Grid.setAll g (places g.side i) (m i)) g

/-- Places of which none belongs to two numbers are different. -/
theorem nodup_flatMap_range {places : Nat → List (Nat × Nat)} {n : Nat}
    (hnodup : ∀ i < n, (places i).Nodup)
    (hunique : ∀ i < n, ∀ j < n, ∀ p ∈ places i, p ∈ places j → j = i) :
    ((List.range n).flatMap places).Nodup := by
  refine List.nodup_flatMap.mpr ⟨fun i hi => hnodup i (List.mem_range.mp hi), ?_⟩
  refine List.nodup_range.imp_of_mem ?_
  intro i j hi hj hne p hp hq
  exact hne (hunique j (List.mem_range.mp hj) i (List.mem_range.mp hi) p hq hp)

section

variable {places : Nat → Nat → List (Nat × Nat)} {m : Nat → Module}

theorem writeBits_cons (i : Nat) (numbers : List Nat) (g : Grid) :
    writeBits places m (i :: numbers) g
      = writeBits places m numbers (Grid.setAll g (places g.side i) (m i)) := rfl

@[simp] theorem side_writeBits (numbers : List Nat) (g : Grid) :
    (writeBits places m numbers g).side = g.side := by
  induction numbers generalizing g with
  | nil => rfl
  | cons i numbers ih => rw [writeBits_cons, ih, Grid.side_setAll]

/-- A cell that is the place of no number keeps its module. -/
theorem get?_writeBits_of_notMem {numbers : List Nat} {g : Grid} {x y : Nat}
    (h : ∀ i ∈ numbers, (x, y) ∉ places g.side i) :
    (writeBits places m numbers g).get? x y = g.get? x y := by
  induction numbers generalizing g with
  | nil => rfl
  | cons i numbers ih =>
      obtain ⟨hi, hnumbers⟩ := List.forall_mem_cons.mp h
      rw [writeBits_cons, ih (by rwa [Grid.side_setAll]), Grid.get?_setAll,
        if_neg fun hmem => hi hmem.1]

/-- A place of one number alone holds the module of that number. -/
theorem get?_writeBits_of_mem {numbers : List Nat} {g : Grid} {i x y : Nat} (hi : i ∈ numbers)
    (hmem : (x, y) ∈ places g.side i)
    (hunique : ∀ j ∈ numbers, (x, y) ∈ places g.side j → j = i)
    (hx : x < g.side) (hy : y < g.side) :
    (writeBits places m numbers g).get? x y = some (m i) := by
  induction numbers generalizing g with
  | nil => cases hi
  | cons j numbers ih =>
      rw [writeBits_cons]
      by_cases hlater : i ∈ numbers
      · -- Whatever the first number writes, a later one writes it over.
        refine ih hlater ?_ ?_ ?_ ?_
        · rwa [Grid.side_setAll]
        · intro k hk hplace
          rw [Grid.side_setAll] at hplace
          exact hunique k (List.mem_cons_of_mem _ hk) hplace
        · rwa [Grid.side_setAll]
        · rwa [Grid.side_setAll]
      · obtain rfl : i = j := (List.mem_cons.mp hi).resolve_right hlater
        have hothers : ∀ k ∈ numbers,
            (x, y) ∉ places (Grid.setAll g (places g.side i) (m i)).side k := by
          intro k hk hplace
          rw [Grid.side_setAll] at hplace
          have hki := hunique k (List.mem_cons_of_mem _ hk) hplace
          exact hlater (hki ▸ hk)
        rw [get?_writeBits_of_notMem hothers, Grid.get?_setAll, if_pos ⟨hmem, hx, hy⟩]

end

/-! ## The format information -/

namespace FormatInformation

theorem write_eq (info : FormatInformation) (g : Grid) :
    write info g
      = writeBits places (fun i => ⟨.format, info.word.testBit i⟩) (List.range 15) g := rfl

@[simp] theorem side_write (info : FormatInformation) (g : Grid) :
    (write info g).side = g.side := side_writeBits _ _

theorem eq_firstPlace_iff {i x y : Nat} :
    (x, y) = firstPlace i ↔ (i ≤ 5 ∧ x = 8 ∧ y = i) ∨ (i = 6 ∧ x = 8 ∧ y = 7) ∨
      (i = 7 ∧ x = 8 ∧ y = 8) ∨ (i = 8 ∧ x = 7 ∧ y = 8) ∨ (8 < i ∧ x = 14 - i ∧ y = 8) := by
  unfold firstPlace
  split_ifs <;> simp only [Prod.mk.injEq] <;> omega

theorem eq_secondPlace_iff {side i x y : Nat} :
    (x, y) = secondPlace side i ↔
      (i < 8 ∧ x = side - 1 - i ∧ y = 8) ∨ (8 ≤ i ∧ x = 8 ∧ y = side - 15 + i) := by
  unfold secondPlace
  split_ifs <;> simp only [Prod.mk.injEq] <;> omega

theorem mem_places {side i x y : Nat} :
    (x, y) ∈ places side i ↔ (x, y) = firstPlace i ∨ (x, y) = secondPlace side i := by
  simp [places]

/-- No place belongs to two bits. -/
theorem places_unique {side i j : Nat} (hside : 21 ≤ side) (hi : i < 15) (hj : j < 15)
    {p : Nat × Nat} (hp : p ∈ places side i) (hq : p ∈ places side j) : j = i := by
  obtain ⟨x, y⟩ := p
  rw [mem_places, eq_firstPlace_iff, eq_secondPlace_iff] at hp hq
  omega

theorem places_lt {side i : Nat} (hside : 21 ≤ side) (hi : i < 15) {p : Nat × Nat}
    (hp : p ∈ places side i) : p.1 < side ∧ p.2 < side := by
  obtain ⟨x, y⟩ := p
  rw [mem_places, eq_firstPlace_iff, eq_secondPlace_iff] at hp
  simp only
  omega

/-- The thirty places are different. -/
theorem nodup_places {side : Nat} (hside : 21 ≤ side) :
    ((List.range 15).flatMap (places side)).Nodup := by
  refine nodup_flatMap_range ?_ fun i hi j hj p hp hq => places_unique hside hi hj hp hq
  intro i hi
  refine List.nodup_cons.mpr ⟨fun hmem => ?_, List.nodup_singleton _⟩
  have hfirst := eq_firstPlace_iff.mp (Prod.eta (firstPlace i))
  have hsecond := eq_secondPlace_iff.mp
    ((Prod.eta (firstPlace i)).trans (List.mem_singleton.mp hmem))
  omega

/-- A place of bit `i` holds bit `i`. -/
theorem get?_write_of_mem {info : FormatInformation} {g : Grid} (hside : 21 ≤ g.side) {i x y : Nat}
    (hi : i < 15) (hmem : (x, y) ∈ places g.side i) :
    (write info g).get? x y = some ⟨.format, info.word.testBit i⟩ := by
  obtain ⟨hx, hy⟩ := places_lt hside hi hmem
  rw [write_eq]
  refine get?_writeBits_of_mem (List.mem_range.mpr hi) hmem ?_ hx hy
  intro j hj hplace
  exact places_unique hside hi (List.mem_range.mp hj) hmem hplace

/-- The rest of the grid is left alone. -/
theorem get?_write_of_notMem {info : FormatInformation} {g : Grid} {x y : Nat}
    (h : ∀ i < 15, (x, y) ∉ places g.side i) : (write info g).get? x y = g.get? x y :=
  get?_writeBits_of_notMem fun i hi => h i (List.mem_range.mp hi)

/-! ### Reading the first copy -/

theorem word_lt (info : FormatInformation) : info.word < 2 ^ 15 := by
  have hall : ∀ level mask, (FormatInformation.mk level mask).word < 2 ^ 15 := by decide +kernel
  exact hall info.level info.mask

/-- The level and mask come back from their word. -/
@[simp] theorem ofWord?_word (info : FormatInformation) : ofWord? info.word = some info := by
  have hall : ∀ level mask, ofWord? (FormatInformation.mk level mask).word
      = some ⟨level, mask⟩ := by decide +kernel
  exact hall info.level info.mask

/-- The colours of the first copy in a grid, by bit. -/
def firstCopy (g : Grid) : Bits :=
  (List.range 15).map fun i => g.isDark (firstPlace i).1 (firstPlace i).2

/-- Whether the first copy in a grid spells the word of a level and a mask. -/
def SpelledBy (info : FormatInformation) (g : Grid) : Prop :=
  ∀ i < 15, g.isDark (firstPlace i).1 (firstPlace i).2 = info.word.testBit i

section

variable {info : FormatInformation} {g : Grid}

theorem spelled_lt (g : Grid) : spelled g < 2 ^ 15 := by
  refine Nat.lt_of_lt_of_eq (Bits.toNat_lt _) ?_
  rw [List.length_map, List.length_reverse, List.length_range]

theorem spelledBy_iff :
    info.SpelledBy g ↔ firstCopy g = (List.range 15).map info.word.testBit := by
  rw [firstCopy, List.map_inj_left]
  simp only [List.mem_range, SpelledBy]

theorem spelled_eq_iff : spelled g = info.word ↔ info.SpelledBy g := by
  -- The number is spelled from its highest bit down.
  have hword : Bits.ofNat 15 info.word = ((List.range 15).map info.word.testBit).reverse := rfl
  have hspelled : Bits.ofNat 15 (spelled g) = (firstCopy g).reverse := by
    have hbits := Bits.ofNat_toNat (firstCopy g).reverse
    rwa [List.length_reverse, firstCopy, List.length_map, List.length_range, ← List.map_reverse]
      at hbits
  rw [spelledBy_iff, ← List.reverse_inj, ← hspelled, ← hword]
  constructor
  · intro h
    rw [h]
  · intro h
    rw [← Bits.toNat_ofNat_of_lt (spelled_lt g), h, Bits.toNat_ofNat_of_lt info.word_lt]

/-- A grid whose places hold the bits of a word spells it in the first copy. -/
theorem spelledBy_of_places
    (h : ∀ i < 15, ∀ p ∈ places g.side i, g.get? p.1 p.2 = some ⟨.format, info.word.testBit i⟩) :
    info.SpelledBy g := by
  intro i hi
  rw [Grid.isDark, h i hi (firstPlace i) List.mem_cons_self]

/-- It is read as the level and the mask of the word. -/
theorem read_eq
    (h : ∀ i < 15, ∀ p ∈ places g.side i, g.get? p.1 p.2 = some ⟨.format, info.word.testBit i⟩) :
    read g = some info := by
  rw [read, spelled_eq_iff.mpr (spelledBy_of_places h), ofWord?_word]

end

/-- The first copy of what is written spells its word. -/
theorem spelledBy_write {info : FormatInformation} {g : Grid} (hside : 21 ≤ g.side) :
    info.SpelledBy (write info g) := by
  refine spelledBy_of_places fun i hi p hp => ?_
  rw [side_write] at hp
  exact get?_write_of_mem hside hi hp

/-- What is written is read again. -/
theorem read_write {info : FormatInformation} {g : Grid} (hside : 21 ≤ g.side) :
    read (write info g) = some info := by
  rw [read, spelled_eq_iff.mpr (spelledBy_write hside), ofWord?_word]

end FormatInformation

/-! ## The version information -/

namespace VersionInformation

theorem write_eq {v : Version} (h : v.hasInfo = true) (g : Grid) :
    write v g = writeBits places (fun i => ⟨.version, (wordOf v.number).testBit i⟩)
      (List.range 18) g := by
  rw [write, word?, if_pos h]
  rfl

/-- Small symbols hold no version. -/
theorem write_eq_self {v : Version} (h : v.hasInfo = false) (g : Grid) : write v g = g := by
  rw [write, word?, h]
  rfl

@[simp] theorem side_write (v : Version) (g : Grid) : (write v g).side = g.side := by
  cases h : v.hasInfo with
  | false => rw [write_eq_self h]
  | true => rw [write_eq h, side_writeBits]

theorem mem_places {side i x y : Nat} :
    (x, y) ∈ places side i ↔
      x = side - 11 + i % 3 ∧ y = i / 3 ∨ x = i / 3 ∧ y = side - 11 + i % 3 := by
  simp [places]

/-- No place belongs to two bits. -/
theorem places_unique {side i j : Nat} (hside : 21 ≤ side) (hj : j < 18) {p : Nat × Nat}
    (hp : p ∈ places side i) (hq : p ∈ places side j) : j = i := by
  obtain ⟨x, y⟩ := p
  rw [mem_places] at hp hq
  omega

theorem places_lt {side i : Nat} (hside : 21 ≤ side) (hi : i < 18) {p : Nat × Nat}
    (hp : p ∈ places side i) : p.1 < side ∧ p.2 < side := by
  obtain ⟨x, y⟩ := p
  rw [mem_places] at hp
  simp only
  omega

/-- The thirty-six places are different. -/
theorem nodup_places {side : Nat} (hside : 21 ≤ side) :
    ((List.range 18).flatMap (places side)).Nodup := by
  refine nodup_flatMap_range ?_ fun i _ j hj p hp hq => places_unique hside hj hp hq
  intro i hi
  refine List.nodup_cons.mpr ⟨fun hmem => ?_, List.nodup_singleton _⟩
  have hfirst := congrArg Prod.fst (List.mem_singleton.mp hmem)
  simp only at hfirst
  omega

/-- A place of bit `i` holds bit `i`. -/
theorem get?_write_of_mem {v : Version} (hinfo : v.hasInfo = true) {g : Grid}
    (hside : 21 ≤ g.side) {i x y : Nat} (hi : i < 18) (hmem : (x, y) ∈ places g.side i) :
    (write v g).get? x y = some ⟨.version, (wordOf v.number).testBit i⟩ := by
  obtain ⟨hx, hy⟩ := places_lt hside hi hmem
  rw [write_eq hinfo]
  refine get?_writeBits_of_mem (List.mem_range.mpr hi) hmem ?_ hx hy
  intro j hj hplace
  exact places_unique hside (List.mem_range.mp hj) hmem hplace

/-- The rest of the grid is left alone. -/
theorem get?_write_of_notMem {v : Version} {g : Grid} {x y : Nat}
    (h : v.hasInfo = true → ∀ i < 18, (x, y) ∉ places g.side i) :
    (write v g).get? x y = g.get? x y := by
  cases hinfo : v.hasInfo with
  | false => rw [write_eq_self hinfo]
  | true =>
      rw [write_eq hinfo]
      exact get?_writeBits_of_notMem fun i hi => h hinfo i (List.mem_range.mp hi)

end VersionInformation

end QrSymbol
