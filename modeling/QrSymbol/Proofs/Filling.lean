import QrSymbol.Proofs.GridLayout

/-!
# Filling drafts

The strips can be told by their number: number `k` has columns `2 * k` and `2 * k + 1`
of those that take data, from the right edge to the left, and is walked upward for an
even `k` and downward for an odd one (`stripCells`).  The direction that is read off
the right column is the same on both sides of the timing column, since the columns
that are left of it are one further left (`goesUp_rightColumn`, `zigzag_eq`).

A draft is filled by exactly as many bits as it has free cells, and any other number is
refused.  Then every free cell holds its bit and the others are as they were
(`IsFilled`).  No placement takes a module away, so a draft that had its timing column
taken still has it after any sequence of placements
(`TimingColumnTaken.afterPlacements`).
-/

namespace QrSymbol.Draft

/-! ## Strips by number -/

/-- The columns that take data, from the right edge to the left. -/
def dataColumns (side : Nat) : List Nat := (List.range side).reverse.filter fun x => x ≠ 6

/-- The cells of strip number `k`, in the order in which it is walked. -/
def stripCells (side k : Nat) : List (Nat × Nat) :=
  let columns := ((dataColumns side).drop (2 * k)).take 2
  let rows := List.range side
  (if k % 2 = 0 then rows.reverse else rows).flatMap fun y => columns.map fun x => (x, y)

/-- The right column of strip number `k`. -/
def rightColumn (side k : Nat) : Nat :=
  let right := side - 1 - 2 * k
  if right ≤ 6 then right - 1 else right

theorem zigzag_eq_flatMap (side : Nat) :
    zigzag side = (List.range (side / 2)).flatMap fun k => strip side (rightColumn side k) := by
  rw [zigzag, stripColumns, List.flatMap_map]
  rfl

/-- A column that takes data, by its number from the right. -/
theorem getElem?_dataColumns {side i : Nat} (hside : 7 ≤ side) (hi : i < side - 1) :
    (dataColumns side)[i]? = some (if side - 1 - i ≤ 6 then side - 2 - i else side - 1 - i) := by
  obtain ⟨right, rfl⟩ := Nat.exists_eq_add_of_le hside
  -- Right of the timing column nothing is left out, and left of it six columns remain.
  have hcolumns : dataColumns (7 + right)
      = ((List.range right).map (7 + ·)).reverse ++ (List.range 6).reverse := by
    rw [dataColumns, List.filter_reverse, List.range_add, List.filter_append, List.reverse_append,
      List.filter_eq_self.mpr ?_]
    · rfl
    · intro x hx
      obtain ⟨y, -, rfl⟩ := List.mem_map.mp hx
      simp
      omega
  have hlength : ((List.range right).map (7 + ·)).length = right := by simp
  rw [hcolumns]
  rcases Nat.lt_or_ge i right with hlt | hge
  · rw [List.getElem?_append_left (by rwa [List.length_reverse, hlength]),
      List.getElem?_reverse (by rwa [hlength]), hlength, List.getElem?_map,
      List.getElem?_range (by omega), Option.map_some, if_neg (by omega)]
    congr 1
    omega
  · rw [List.getElem?_append_right (by rwa [List.length_reverse, hlength]), List.length_reverse,
      hlength, List.getElem?_reverse (by rw [List.length_range]; omega), List.length_range,
      List.getElem?_range (by omega), if_pos (by omega)]
    congr 1
    omega

/-- The two columns of a strip lie side by side. -/
theorem take_drop_dataColumns {side k : Nat} (hodd : side % 2 = 1) (hside : 7 ≤ side)
    (hk : k < side / 2) : ((dataColumns side).drop (2 * k)).take 2
      = [rightColumn side k, rightColumn side k - 1] := by
  have hright := getElem?_dataColumns hside (i := 2 * k) (by omega)
  have hleft := getElem?_dataColumns hside (i := 2 * k + 1) (by omega)
  obtain ⟨hlt, hright⟩ := List.getElem?_eq_some_iff.mp hright
  obtain ⟨hlt', hleft⟩ := List.getElem?_eq_some_iff.mp hleft
  rw [List.drop_eq_getElem_cons hlt, List.drop_eq_getElem_cons hlt', hright, hleft, rightColumn,
    List.take_succ_cons, List.take_succ_cons, List.take_zero]
  congr 1
  · split <;> omega
  · congr 1
    split <;> split <;> omega

/-- The direction of a strip turns from each to the next, across the timing column, too. -/
theorem goesUp_rightColumn (v : Version) {k : Nat} (hk : k < v.side / 2) :
    goesUp (rightColumn v.side k) = decide (k % 2 = 0) := by
  rw [goesUp, rightColumn, Bool.beq_eq_decide_eq]
  rw [Version.side] at hk ⊢
  refine decide_eq_decide.mpr ?_
  split <;> omega

/-- The strips are those told by their numbers. -/
theorem zigzag_eq (v : Version) :
    zigzag v.side = (List.range ((v.side - 1) / 2)).flatMap (stripCells v.side) := by
  have hside := v.twentyOne_le_side
  have hodd : v.side % 2 = 1 := side_odd (blank v)
  rw [zigzag_eq_flatMap, show v.side / 2 = (v.side - 1) / 2 by omega]
  refine List.flatMap_congr fun k hk => ?_
  have hk : k < v.side / 2 := (List.mem_range.mp hk).trans_le (by omega)
  simp only [strip, stripCells, goesUp_rightColumn v hk, decide_eq_true_eq,
    take_drop_dataColumns hodd (by omega) hk, List.map_cons, List.map_nil]

/-- The order of the data runs through the strips and leaves out what is taken. -/
theorem freeCells_eq (d : Draft) :
    d.freeCells = ((List.range ((d.side - 1) / 2)).flatMap (stripCells d.side)).filter
      fun cell => d.cells.get? cell.1 cell.2 = some none := by
  have hside := d.twentyOne_le_side
  have hstrips : zigzag d.side = (List.range ((d.side - 1) / 2)).flatMap (stripCells d.side) := by
    rw [d.side_eq, zigzag_eq]
  rw [freeCells, ← hstrips]
  refine List.filter_congr fun cell hmem => ?_
  have hcell := ((mem_zigzag d.side_odd (by omega)).mp hmem).1
  rw [isFree, Bool.eq_iff_iff, decide_eq_true_iff, get?_eq_some_none_iff, and_iff_right hcell,
    Option.isNone_iff_eq_none]

/-! ## Placements -/

/-- The draft that a request to fill it leaves, which is the draft itself if the request
fails. -/
def afterFill (d : Draft) (bits : Bits) : Draft :=
  match d.fill bits with
  | .ok filled => filled
  | .error _ => d

/-- What can be asked of a draft. -/
inductive Placement where
  /-- A module in column `x` of row `y`. -/
  | module (x y : Nat) (m : Module)
  /-- Bits in all free cells. -/
  | data (bits : Bits)

/-- The draft that a placement leaves. -/
def afterPlacement (d : Draft) : Placement → Draft
  | .module x y m => d.put x y m
  | .data bits => d.afterFill bits

/-- The draft that a sequence of placements leaves. -/
def afterPlacements (d : Draft) (placements : List Placement) : Draft :=
  placements.foldl afterPlacement d

/-- What a draft holds once its free cells have taken their bits. -/
structure IsFilled (filled d : Draft) (bits : Bits) : Prop where
  /-- The version is the same. -/
  version_eq : filled.version = d.version
  /-- Each free cell holds a data module with the bit of its number. -/
  data_eq : ∀ {i x y : Nat}, d.freeCells[i]? = some (x, y) →
    ∃ bit, bits[i]? = some bit ∧ filled.cells.get? x y = some (some ⟨.data, bit⟩)
  /-- Each other cell holds the module that it had. -/
  taken_eq : ∀ {x y : Nat} {m : Module}, d.cells.get? x y = some (some m) →
    filled.cells.get? x y = some (some m)
  /-- No cell is left free. -/
  freeCount_eq : filled.freeCount = 0

variable {d : Draft} {bits : Bits}

theorem fill_of_lt (h : bits.length < d.freeCells.length) :
    d.fill bits = .error (.tooFewBits d.freeCells.length bits.length) := by
  rw [fill, EncodeError.checkCount_of_lt h]
  rfl

theorem fill_of_gt (h : d.freeCells.length < bits.length) :
    d.fill bits = .error (.tooManyBits d.freeCells.length bits.length) := by
  rw [fill, EncodeError.checkCount_of_gt h]
  rfl

theorem version_putBits (d : Draft) (cells : List ((Nat × Nat) × Bool)) :
    (d.putBits cells).version = d.version := by
  induction cells generalizing d with
  | nil => rfl
  | cons p cells ih =>
      rw [putBits_cons, ih]
      rfl

/-- A cell of the square that is not free has a module. -/
theorem isFree_eq_false_iff {x y : Nat} (hx : x < d.side) (hy : y < d.side) :
    d.isFree x y = false ↔ ∃ m, d.cells.get? x y = some (some m) := by
  obtain ⟨c, hc⟩ := Square.exists_get?_eq_some hx hy
  rw [isFree, module?_eq hx, hc, Option.isNone_eq_false_iff, Option.isSome_iff_exists]
  exact exists_congr fun m => Option.some_inj.symm

/-- The free cells hold their bits once the draft is filled. -/
theorem get?_fill_of_getElem? {filled : Draft} (h : d.TimingColumnTaken)
    (hfill : d.fill bits = .ok filled) {i x y : Nat} (hcell : d.freeCells[i]? = some (x, y)) :
    ∃ bit, bits[i]? = some bit ∧ filled.cells.get? x y = some (some ⟨.data, bit⟩) := by
  obtain ⟨hlength, rfl⟩ := fill_eq_ok_iff.mp hfill
  obtain ⟨hi, -⟩ := List.getElem?_eq_some_iff.mp hcell
  have hbit : bits[i]? = some bits[i] := List.getElem?_eq_getElem (hlength ▸ hi)
  have hzip : ((x, y), bits[i]) ∈ d.freeCells.zip bits :=
    List.mem_of_getElem? (List.getElem?_zip_eq_some.mpr ⟨hcell, hbit⟩)
  have hnodup : ((d.freeCells.zip bits).map Prod.fst).Nodup := by
    rw [List.map_fst_zip hlength.ge]
    exact d.nodup_freeCells
  obtain ⟨⟨hx, hy⟩, -⟩ :=
    get?_eq_some_none_iff.mp ((mem_freeCells h).mp (List.mem_of_getElem? hcell))
  exact ⟨bits[i], hbit, get?_putBits_of_mem hnodup hzip hx hy⟩

/-- The other cells are as they were. -/
theorem get?_fill_of_taken {filled : Draft} (h : d.TimingColumnTaken)
    (hfill : d.fill bits = .ok filled) {x y : Nat} {m : Module}
    (hget : d.cells.get? x y = some (some m)) : filled.cells.get? x y = some (some m) := by
  obtain ⟨hlength, rfl⟩ := fill_eq_ok_iff.mp hfill
  rw [get?_putBits_of_notMem, hget]
  rw [List.map_fst_zip hlength.ge, mem_freeCells h, hget]
  exact nofun

theorem TimingColumnTaken.fill {filled : Draft} (h : d.TimingColumnTaken)
    (hfill : d.fill bits = .ok filled) : filled.TimingColumnTaken := by
  have hside := d.twentyOne_le_side
  have hsame : filled.side = d.side := by
    obtain ⟨-, rfl⟩ := fill_eq_ok_iff.mp hfill
    exact side_putBits _ _
  intro y hy
  obtain ⟨m, hm⟩ := (isFree_eq_false_iff (by omega) (hsame ▸ hy)).mp (h y (hsame ▸ hy))
  exact (isFree_eq_false_iff (by omega) hy).mpr ⟨m, get?_fill_of_taken h hfill hm⟩

/-- Once a draft is filled, no cell is free. -/
theorem freeCells_fill {filled : Draft} (h : d.TimingColumnTaken)
    (hfill : d.fill bits = .ok filled) : filled.freeCells = [] := by
  rw [List.eq_nil_iff_forall_not_mem]
  rintro ⟨x, y⟩ hmem
  have hfree := (mem_freeCells (h.fill hfill)).mp hmem
  have hcell : x < d.side ∧ y < d.side := by
    obtain ⟨-, rfl⟩ := fill_eq_ok_iff.mp hfill
    have hcell := (get?_eq_some_none_iff.mp hfree).1
    rwa [side_putBits] at hcell
  obtain ⟨c, hc⟩ := Square.exists_get?_eq_some hcell.1 hcell.2
  cases c with
  | none =>
      obtain ⟨i, hi⟩ := List.mem_iff_getElem?.mp ((mem_freeCells h).mpr hc)
      obtain ⟨bit, -, hbit⟩ := get?_fill_of_getElem? h hfill hi
      rw [hbit] at hfree
      cases hfree
  | some m =>
      rw [get?_fill_of_taken h hfill hc] at hfree
      cases hfree

theorem isFilled_of_fill {filled : Draft} (h : d.TimingColumnTaken)
    (hfill : d.fill bits = .ok filled) : filled.IsFilled d bits where
  version_eq := by
    obtain ⟨-, rfl⟩ := fill_eq_ok_iff.mp hfill
    exact version_putBits _ _
  data_eq := get?_fill_of_getElem? h hfill
  taken_eq := get?_fill_of_taken h hfill
  freeCount_eq := by
    rw [← length_freeCells (h.fill hfill), freeCells_fill h hfill, List.length_nil]

theorem afterFill_of_ok {filled : Draft} (hfill : d.fill bits = .ok filled) :
    d.afterFill bits = filled := by
  rw [afterFill, hfill]

theorem afterFill_of_error {e : EncodeError} (hfill : d.fill bits = .error e) :
    d.afterFill bits = d := by
  rw [afterFill, hfill]

theorem TimingColumnTaken.afterFill (h : d.TimingColumnTaken) (bits : Bits) :
    (d.afterFill bits).TimingColumnTaken := by
  cases hfill : d.fill bits with
  | ok filled => exact afterFill_of_ok hfill ▸ h.fill hfill
  | error e => exact (afterFill_of_error hfill).symm ▸ h

theorem TimingColumnTaken.put (h : d.TimingColumnTaken) (x y : Nat) (m : Module) :
    (d.put x y m).TimingColumnTaken := by
  have hside := d.twentyOne_le_side
  intro z hz
  rw [side_put] at hz
  obtain ⟨n, hn⟩ := (isFree_eq_false_iff (by omega) hz).mp (h z hz)
  rw [isFree_eq_false_iff (by rw [side_put]; omega) (by rwa [side_put]), get?_cells_put]
  split
  · exact ⟨m, rfl⟩
  · exact ⟨n, hn⟩

/-- No placement takes a module out of the timing column. -/
theorem TimingColumnTaken.afterPlacement (h : d.TimingColumnTaken) (p : Placement) :
    (d.afterPlacement p).TimingColumnTaken := by
  cases p with
  | module x y m => exact h.put x y m
  | data bits => exact h.afterFill bits

theorem TimingColumnTaken.afterPlacements (h : d.TimingColumnTaken)
    (placements : List Placement) : (d.afterPlacements placements).TimingColumnTaken := by
  induction placements generalizing d with
  | nil => exact h
  | cons p placements ih => exact ih (h.afterPlacement p)

/-! ## The order and the filling of a draft -/

/-- What is said of the free cells of a draft and of requests to fill them. -/
structure FillsByStrips (d : Draft) : Prop where
  /-- The order of the data lists the free cells and no others. -/
  mem_iff : ∀ {x y : Nat}, (x, y) ∈ d.freeCells ↔ d.cells.get? x y = some none
  /-- It lists each of them once. -/
  nodup : d.freeCells.Nodup
  /-- It runs through the strips one after the other. -/
  order_eq : d.freeCells = ((List.range ((d.side - 1) / 2)).flatMap (stripCells d.side)).filter
    fun cell => d.cells.get? cell.1 cell.2 = some none
  /-- The draft is filled by as many bits as it has free cells, and by no other number. -/
  fill_iff : ∀ {bits : Bits}, (∃ filled, d.fill bits = .ok filled) ↔ bits.length = d.freeCount
  /-- Fewer bits are refused, and the draft stays as it was. -/
  fill_fewer : ∀ {bits : Bits}, bits.length < d.freeCount →
    d.fill bits = .error (.tooFewBits d.freeCount bits.length) ∧ d.afterFill bits = d
  /-- More bits are refused, and the draft stays as it was. -/
  fill_more : ∀ {bits : Bits}, d.freeCount < bits.length →
    d.fill bits = .error (.tooManyBits d.freeCount bits.length) ∧ d.afterFill bits = d
  /-- A draft that is filled holds the bits in its order. -/
  fill_ok : ∀ {bits : Bits} {filled : Draft}, d.fill bits = .ok filled →
    d.afterFill bits = filled ∧ filled.IsFilled d bits

/-- A draft with its timing column taken is filled strip by strip, and so is every draft
that placements make of that of a version. -/
theorem fillsByStrips_of_reached {d : Draft}
    (h : d.TimingColumnTaken ∨ ∃ v placements, (blank v).afterPlacements placements = d) :
    d.FillsByStrips := by
  have htaken : d.TimingColumnTaken := by
    rcases h with h | ⟨v, placements, rfl⟩
    · exact h
    · exact (timingColumnTaken_blank v).afterPlacements placements
  have hlength := length_freeCells htaken
  exact {
    mem_iff := mem_freeCells htaken
    nodup := d.nodup_freeCells
    order_eq := d.freeCells_eq
    fill_iff := by
      intro bits
      rw [← hlength]
      constructor
      · rintro ⟨filled, hfill⟩
        exact (fill_eq_ok_iff.mp hfill).1
      · intro heq
        exact ⟨_, fill_eq heq⟩
    fill_fewer := by
      intro bits hless
      rw [← hlength] at hless ⊢
      exact ⟨fill_of_lt hless, afterFill_of_error (fill_of_lt hless)⟩
    fill_more := by
      intro bits hmore
      rw [← hlength] at hmore ⊢
      exact ⟨fill_of_gt hmore, afterFill_of_error (fill_of_gt hmore)⟩
    fill_ok := fun hfill => ⟨afterFill_of_ok hfill, isFilled_of_fill htaken hfill⟩ }

/-- The draft of the least version in which the timing column is taken and nothing else. -/
def timingColumnDraft : Draft where
  version := .least
  cells := .ofFn Version.least.side fun x _ => if x = 6 then some ⟨.timing, false⟩ else none
  side_cells := rfl

/-- Of the two drafts here, one has no pattern but the timing column, and the other has
refused a single bit, had a module put and taken as many bits as it had cells left. -/
theorem fillsByStrips_of_reached_version_one :
    timingColumnDraft.TimingColumnTaken ∧ timingColumnDraft.FillsByStrips ∧
      ((blank .least).afterPlacements
        [.data [true], .module 20 20 ⟨.data, true⟩,
          .data (List.replicate 207 true)]).FillsByStrips := by
  have htaken : timingColumnDraft.TimingColumnTaken := by decide +kernel
  exact ⟨htaken, fillsByStrips_of_reached (.inl htaken),
    fillsByStrips_of_reached (.inr ⟨_, _, rfl⟩)⟩

end QrSymbol.Draft
