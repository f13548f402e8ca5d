import QrSymbol.Place

/-!
# Square arrays

A square array holds one entry for each column `x` and row `y` below its side.
The entries lie row by row, so entry number `i` is in column `i % side` of row
`i / side`.

`Square.get?` is the view through which an array is reasoned about: what each
operation does to it is said by one lemma, and two arrays of one side with the
same view are equal (`Square.ext_get?`).
-/

namespace QrSymbol

/-- A square array of entries. -/
structure Square (α : Type) where
  /-- The number of columns, and of rows. -/
  side : Nat
  /-- The entries, row by row. -/
  entries : Array α
  /-- There is one entry for each place. -/
  size_entries : entries.size = side * side
deriving DecidableEq

namespace Square

variable {α β : Type}

/-! ## Reading -/

/-- The entry in column `x` of row `y`, if there is one. -/
def get? (s : Square α) (x y : Nat) : Option α :=
  if x < s.side ∧ y < s.side then s.entries[place s.side x y]? else none

theorem get?_eq_none_iff {s : Square α} {x y : Nat} :
    s.get? x y = none ↔ s.side ≤ x ∨ s.side ≤ y := by
  unfold get?
  split
  · rename_i h
    have := place_lt h.1 h.2
    simp [s.size_entries]
    omega
  · simp
    omega

theorem get?_isSome_iff {s : Square α} {x y : Nat} :
    (s.get? x y).isSome ↔ x < s.side ∧ y < s.side := by
  rw [← Option.ne_none_iff_isSome, ne_eq, get?_eq_none_iff]
  omega

theorem exists_get?_eq_some {s : Square α} {x y : Nat} (hx : x < s.side) (hy : y < s.side) :
    ∃ a, s.get? x y = some a := Option.isSome_iff_exists.mp (get?_isSome_iff.mpr ⟨hx, hy⟩)

/-- Arrays with the same side and the same entries are equal. -/
theorem ext_get? {s t : Square α} (hside : s.side = t.side)
    (hget : ∀ x y, s.get? x y = t.get? x y) : s = t := by
  obtain ⟨n, a, ha⟩ := s
  obtain ⟨m, b, hb⟩ := t
  cases hside
  suffices a = b by subst this; rfl
  refine Array.ext (ha.trans hb.symm) fun i hi _ => ?_
  have hcell := mod_lt_and_div_lt (ha ▸ hi)
  have := hget (i % n) (i / n)
  simp only [get?, if_pos hcell] at this
  rw [place_mod_div] at this
  simpa [hi, hb, ← ha] using this

/-- A list cut into pieces of one length, as many as asked for. -/
def cut (length : Nat) : (pieces : Nat) → List α → List (List α)
  | 0, _ => []
  | pieces + 1, l => l.take length :: cut length pieces (l.drop length)

/-- A piece begins behind those in front of it. -/
theorem cut_eq (length pieces : Nat) (l : List α) :
    cut length pieces l
      = (List.range pieces).map fun i => (l.drop (i * length)).take length := by
  induction pieces generalizing l with
  | zero => rfl
  | succ pieces ih =>
      rw [cut, ih, List.range_succ_eq_map, List.map_cons, List.map_map, Nat.zero_mul,
        List.drop_zero]
      refine congrArg _ (List.map_congr_left fun i _ => ?_)
      rw [List.drop_drop, Function.comp_apply, Nat.succ_mul, Nat.add_comm]

/-- The rows, from the top: the entries cut into pieces as long as a row. -/
def rows (s : Square α) : List (List α) := cut s.side s.side s.entries.toList

/-- The entries of row `y`, by column. -/
def row (s : Square α) (y : Nat) : List α :=
  (List.range s.side).filterMap fun x => s.get? x y

/-- The entries of column `x`, by row. -/
def column (s : Square α) (x : Nat) : List α :=
  (List.range s.side).filterMap fun y => s.get? x y

/-- The columns, from the left. -/
def columns (s : Square α) : List (List α) := (List.range s.side).map s.column

/-- Every entry with its column and row, row by row. -/
def byRow (s : Square α) : List (Nat × Nat × α) :=
  s.entries.toList.zipIdx.map fun e => (e.2 % s.side, e.2 / s.side, e.1)

/-- Every entry with its column and row, column by column. -/
def byColumn (s : Square α) : List (Nat × Nat × α) :=
  (List.range s.side).flatMap fun x => (List.range s.side).filterMap fun y =>
    (s.get? x y).map fun a => (x, y, a)

/-- The number of entries that satisfy a test. -/
def count (s : Square α) (p : α → Bool) : Nat := s.entries.toList.countP p

/-! ## Making and changing -/

/-- The array of a function of column and row. -/
def ofFn (side : Nat) (f : Nat → Nat → α) : Square α where
  side := side
  entries := ((List.range (side * side)).map fun i => f (i % side) (i / side)).toArray
  size_entries := by simp

@[simp] theorem side_ofFn (side : Nat) (f : Nat → Nat → α) : (ofFn side f).side = side := rfl

theorem get?_ofFn {side : Nat} {f : Nat → Nat → α} {x y : Nat} :
    (ofFn side f).get? x y = if x < side ∧ y < side then some (f x y) else none := by
  unfold get?
  rw [side_ofFn]
  split
  · rename_i h
    have := place_lt h.1 h.2
    simp [ofFn, this, place_mod h.1, place_div h.1]
  · rfl

/-- The array with another entry in column `x` of row `y`. -/
def set (s : Square α) (x y : Nat) (a : α) : Square α :=
  if x < s.side ∧ y < s.side then
    { s with
      entries := s.entries.setIfInBounds (place s.side x y) a
      size_entries := by rw [Array.size_setIfInBounds, s.size_entries] }
  else s

@[simp] theorem side_set (s : Square α) (x y : Nat) (a : α) : (s.set x y a).side = s.side := by
  unfold set
  split <;> rfl

theorem get?_set {s : Square α} {x y x' y' : Nat} {a : α} :
    (s.set x y a).get? x' y' =
      if x' = x ∧ y' = y ∧ x < s.side ∧ y < s.side then some a else s.get? x' y' := by
  by_cases h : x < s.side ∧ y < s.side
  · by_cases h' : x' < s.side ∧ y' < s.side
    · have hp := place_lt h.1 h.2
      by_cases e : x' = x ∧ y' = y
      · obtain ⟨rfl, rfl⟩ := e
        simp [set, get?, h, s.size_entries, hp]
      · have hne : place s.side x y ≠ place s.side x' y' := fun hp => e <| by
          obtain ⟨h1, h2⟩ := place_injective h.1 h'.1 hp
          exact ⟨h1.symm, h2.symm⟩
        rw [if_neg (fun e' => e ⟨e'.1, e'.2.1⟩)]
        simp [set, get?, h, h', hne]
    · have hne : ¬(x' = x ∧ y' = y ∧ x < s.side ∧ y < s.side) := by
        rintro ⟨rfl, rfl, hxy⟩
        exact h' hxy
      rw [if_neg hne]
      simp only [get?, side_set, if_neg h']
  · rw [if_neg (fun e => h e.2.2), set, if_neg h]

/-- The array with every entry changed by a function of its column and row. -/
def mapEntries (s : Square α) (f : Nat → Nat → α → β) : Square β where
  side := s.side
  entries := (s.entries.toList.zipIdx.map fun e => f (e.2 % s.side) (e.2 / s.side) e.1).toArray
  size_entries := by simp [s.size_entries]

@[simp] theorem side_mapEntries (s : Square α) (f : Nat → Nat → α → β) :
    (s.mapEntries f).side = s.side := rfl

theorem get?_mapEntries {s : Square α} {f : Nat → Nat → α → β} {x y : Nat} :
    (s.mapEntries f).get? x y = (s.get? x y).map (f x y) := by
  unfold get?
  rw [side_mapEntries]
  split
  · rename_i h
    simp [mapEntries, Function.comp_def, place_mod h.1, place_div h.1]
  · rfl

end Square

end QrSymbol
