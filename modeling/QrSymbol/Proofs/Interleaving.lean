import Mathlib.Algebra.GroupWithZero.Nat
import Mathlib.Data.List.Perm.Basic
import Mathlib.Order.Lattice
import QrSymbol.Proofs.Differences
import QrSymbol.Reading

/-!
# Interleaved blocks

The interleaved stream holds the elements of the blocks in another order
(`interleave_perm`).  The order depends on the sizes of the blocks alone: two
sequences of blocks of the same sizes are interleaved alike, so they differ in as
many places of the stream as in the blocks (`SameSizes.differences_interleave`).
Element `i` of block `b` stands at `interleavedPlace sizes i b`
(`getElem?_interleave`), so that the blocks can be read off the stream again
(`deinterleave_interleave`).
-/

namespace QrSymbol

variable {α β : Type}

/-! ## Passes over the blocks -/

/-- The elements number `i` of all blocks that have so many. -/
def pass (blocks : List (List α)) (i : Nat) : List α := blocks.filterMap (·[i]?)

theorem interleave_def (blocks : List (List α)) :
    interleave blocks = (List.range (longestBlock blocks)).flatMap (pass blocks) := rfl

theorem pass_cons (block : List α) (blocks : List (List α)) (i : Nat) :
    pass (block :: blocks) i = (block[i]?).toList ++ pass blocks i := by
  unfold pass
  cases h : block[i]? with
  | none => rw [List.filterMap_cons_none (f := fun block : List α => block[i]?) h]; rfl
  | some a => rw [List.filterMap_cons_some (f := fun block : List α => block[i]?) h]; rfl

theorem pass_append (front back : List (List α)) (i : Nat) :
    pass (front ++ back) i = pass front i ++ pass back i := List.filterMap_append

theorem longestBlock_le_iff {blocks : List (List α)} {bound : Nat} :
    longestBlock blocks ≤ bound ↔ ∀ block ∈ blocks, block.length ≤ bound := by
  have foldl_max : ∀ (sizes : List Nat) (start : Nat),
      sizes.foldl max start ≤ bound ↔ start ≤ bound ∧ ∀ size ∈ sizes, size ≤ bound := by
    intro sizes
    induction sizes with
    | nil => simp
    | cons size sizes ih =>
        intro start
        rw [List.foldl_cons, ih, Nat.max_le, List.forall_mem_cons, and_assoc]
  simp [longestBlock, foldl_max]

theorem length_le_longestBlock {blocks : List (List α)} {block : List α} (h : block ∈ blocks) :
    block.length ≤ longestBlock blocks :=
  longestBlock_le_iff.mp (Nat.le_refl _) block h

/-- Any number of passes that reaches the end of all blocks will do. -/
theorem interleave_eq {blocks : List (List α)} {passes : Nat}
    (h : ∀ block ∈ blocks, block.length ≤ passes) :
    interleave blocks = (List.range passes).flatMap (pass blocks) := by
  obtain ⟨extra, rfl⟩ := Nat.exists_eq_add_of_le (longestBlock_le_iff.mpr h)
  have hextra :
      (List.range extra).flatMap (fun i => pass blocks (longestBlock blocks + i)) = [] := by
    rw [List.flatMap_eq_nil_iff]
    intro i _
    rw [pass, List.filterMap_eq_nil_iff]
    intro block hmem
    exact List.getElem?_eq_none
      (Nat.le_trans (length_le_longestBlock hmem) (Nat.le_add_right _ i))
  rw [List.range_add, List.flatMap_append, List.flatMap_map, hextra, List.append_nil,
    interleave_def]

/-! ## The elements of the stream -/

/-- The passes over one block alone give the block. -/
theorem filterMap_range_getElem? {block : List α} {passes : Nat} (h : block.length ≤ passes) :
    (List.range passes).filterMap (fun i => block[i]?) = block := by
  induction block generalizing passes with
  | nil => simp
  | cons a block ih =>
      cases passes with
      | zero => cases h
      | succ passes =>
          rw [List.range_succ_eq_map, List.filterMap_cons_some (by rfl), List.filterMap_map]
          exact congrArg _ (ih (Nat.le_of_succ_le_succ h))

theorem flatMap_pass_perm {blocks : List (List α)} {passes : Nat}
    (h : ∀ block ∈ blocks, block.length ≤ passes) :
    ((List.range passes).flatMap (pass blocks)).Perm blocks.flatten := by
  induction blocks with
  | nil => simp [pass]
  | cons block blocks ih =>
      obtain ⟨hblock, hblocks⟩ := List.forall_mem_cons.mp h
      have hfirst : (List.range passes).flatMap (fun i => (block[i]?).toList) = block := by
        rw [← List.filterMap_eq_flatMap_toList, filterMap_range_getElem? hblock]
      rw [funext (pass_cons block blocks), List.flatten_cons]
      refine (List.flatMap_append_perm _ _ _).symm.trans ?_
      rw [hfirst]
      exact (ih hblocks).append_left block

/-- The stream holds the elements of the blocks in another order. -/
theorem interleave_perm (blocks : List (List α)) : (interleave blocks).Perm blocks.flatten :=
  flatMap_pass_perm fun _ => length_le_longestBlock

theorem length_interleave (blocks : List (List α)) :
    (interleave blocks).length = (blocks.map List.length).sum := by
  rw [(interleave_perm blocks).length_eq, List.length_flatten]

/-! ## Two streams of one shape -/

/-- Two sequences of blocks of the same sizes. -/
def SameSizes (a : List (List α)) (b : List (List β)) : Prop :=
  a.map List.length = b.map List.length

namespace SameSizes

theorem cons {x : List α} {y : List β} {a : List (List α)} {b : List (List β)} :
    SameSizes (x :: a) (y :: b) ↔ x.length = y.length ∧ SameSizes a b := by
  rw [SameSizes, List.map_cons, List.map_cons, List.cons.injEq, SameSizes]

/-- A property of two sequences of blocks of the same sizes, by induction on both. -/
@[elab_as_elim] theorem induction {p : List (List α) → List (List β) → Prop} (nil : p [] [])
    (cons : ∀ x y a b, x.length = y.length → p a b → p (x :: a) (y :: b))
    {a : List (List α)} {b : List (List β)} (h : SameSizes a b) : p a b := by
  induction a generalizing b with
  | nil =>
      cases b with
      | nil => exact nil
      | cons y b => cases h
  | cons x a ih =>
      cases b with
      | nil => cases h
      | cons y b =>
          obtain ⟨hxy, hab⟩ := SameSizes.cons.mp h
          exact cons x y a b hxy (ih hab)

theorem zip {a : List (List α)} {b : List (List β)} (h : SameSizes a b) :
    SameSizes (List.zipWith List.zip a b) a := by
  refine SameSizes.induction rfl ?_ h
  intro x y a b hxy ih
  rw [List.zipWith_cons_cons, SameSizes.cons, List.length_zip, hxy, Nat.min_self]
  exact ⟨rfl, ih⟩

/-- A pass over two sequences of blocks of the same sizes meets the same blocks. -/
theorem zip_pass {a : List (List α)} {b : List (List β)} (h : SameSizes a b) (i : Nat) :
    (pass a i).length = (pass b i).length ∧
      (pass a i).zip (pass b i) = pass (List.zipWith List.zip a b) i := by
  refine SameSizes.induction ⟨rfl, rfl⟩ ?_ h
  intro x y a b hxy ⟨hlen, hzip⟩
  have helement : (x[i]?).toList.length = (y[i]?).toList.length ∧
      (x[i]?).toList.zip (y[i]?).toList = ((x.zip y)[i]?).toList := by
    by_cases hi : i < x.length
    · have hi' : i < y.length := hxy ▸ hi
      have hz : i < (x.zip y).length := by
        rw [List.length_zip]
        exact Nat.lt_min.mpr ⟨hi, hi'⟩
      rw [List.getElem?_eq_getElem hi, List.getElem?_eq_getElem hi',
        List.getElem?_eq_getElem hz, List.getElem_zip]
      exact ⟨rfl, rfl⟩
    · have hi' : y.length ≤ i := hxy ▸ Nat.le_of_not_lt hi
      rw [List.getElem?_eq_none (Nat.le_of_not_lt hi), List.getElem?_eq_none hi',
        List.getElem?_eq_none (by rw [List.length_zip]; omega)]
      exact ⟨rfl, rfl⟩
  rw [pass_cons, pass_cons, List.zipWith_cons_cons, pass_cons, List.length_append,
    List.length_append, List.zip_append helement.1, helement.2, helement.1, hlen, hzip]
  exact ⟨rfl, rfl⟩

theorem longestBlock_eq {a : List (List α)} {b : List (List β)} (h : SameSizes a b) :
    longestBlock a = longestBlock b := by
  rw [longestBlock, h, longestBlock]

/-- Streams of one shape, place by place. -/
theorem zip_interleave {a : List (List α)} {b : List (List β)} (h : SameSizes a b) :
    (interleave a).zip (interleave b) = interleave (List.zipWith List.zip a b) := by
  have zip_flatMap : ∀ passes : List Nat, (passes.flatMap (pass a)).zip (passes.flatMap (pass b))
      = passes.flatMap (pass (List.zipWith List.zip a b)) := by
    intro passes
    induction passes with
    | nil => rfl
    | cons i passes ih =>
        rw [List.flatMap_cons, List.flatMap_cons, List.flatMap_cons,
          List.zip_append (h.zip_pass i).1, (h.zip_pass i).2, ih]
  rw [interleave_def, interleave_def, interleave_def, h.zip.longestBlock_eq, ← h.longestBlock_eq,
    zip_flatMap]

/-- Streams of one shape differ in as many places as the blocks do. -/
theorem differences_interleave [DecidableEq α] {a b : List (List α)} (h : SameSizes a b) :
    differences (interleave a) (interleave b) = (List.zipWith differences a b).sum := by
  rw [differences, h.zip_interleave, (interleave_perm _).countP_eq, List.countP_flatten,
    List.map_zipWith]
  rfl

end SameSizes

/-! ## Reading the blocks off the stream -/

/-- The first passes are those over the fronts of the blocks. -/
theorem flatMap_range_pass (blocks : List (List α)) (passes : Nat) :
    (List.range passes).flatMap (pass blocks) = interleave (blocks.map (List.take passes)) := by
  have hfront : ∀ block ∈ blocks.map (List.take passes), block.length ≤ passes := by
    intro block hmem
    obtain ⟨whole, -, rfl⟩ := List.mem_map.mp hmem
    exact List.length_take_le passes whole
  rw [interleave_eq hfront]
  refine List.flatMap_congr fun i hi => ?_
  rw [pass, pass, List.filterMap_map]
  refine List.filterMap_congr fun block _ => ?_
  exact (List.getElem?_take_of_lt (List.mem_range.mp hi)).symm

/-- The place of an element in the stream. -/
theorem getElem?_interleave {blocks : List (List α)} {b i : Nat} (hb : b < blocks.length)
    (hi : i < blocks[b].length) :
    (interleave blocks)[interleavedPlace (blocks.map List.length) i b]? = some blocks[b][i] := by
  have hlong : i < longestBlock blocks :=
    Nat.lt_of_lt_of_le hi (length_le_longestBlock (List.getElem_mem hb))
  obtain ⟨extra, hextra⟩ := Nat.exists_eq_add_of_lt hlong
  -- The stream is the passes before pass `i`, that pass and the passes behind it.
  have hstream : interleave blocks = interleave (blocks.map (List.take i))
      ++ (pass blocks i ++ ((List.range extra).map (i + 1 + ·)).flatMap (pass blocks)) := by
    rw [← flatMap_range_pass, interleave_def, hextra, Nat.add_right_comm, List.range_add,
      List.flatMap_append, List.range_succ, List.flatMap_append, List.flatMap_singleton,
      List.append_assoc]
  have hbefore : (interleave (blocks.map (List.take i))).length
      = (blocks.map List.length).foldr (fun size n => min i size + n) 0 := by
    rw [length_interleave, List.sum_eq_foldr, List.foldr_map, List.foldr_map, List.foldr_map]
    simp
  -- In that pass, the earlier blocks that reach so far stand before block `b`.
  have hpass : pass blocks i
      = pass (blocks.take b) i ++ blocks[b][i] :: pass (blocks.drop (b + 1)) i := by
    conv_lhs => rw [← List.take_append_drop b blocks, List.drop_eq_getElem_cons hb]
    rw [pass_append, pass_cons, List.getElem?_eq_getElem hi]
    rfl
  have hearlier : (pass (blocks.take b) i).length
      = ((blocks.map List.length).take b).countP fun size => decide (i < size) := by
    rw [← List.map_take, List.countP_map, pass, List.length_filterMap_eq_countP]
    refine List.countP_congr fun block _ => ?_
    simp
  rw [hstream, interleavedPlace, ← hbefore, List.getElem?_append_right (Nat.le_add_right _ _),
    Nat.add_sub_cancel_left, ← hearlier, hpass, List.append_assoc,
    List.getElem?_append_right (Nat.le_refl _), Nat.sub_self]
  rfl

/-- The blocks are read off the stream again, whatever follows it. -/
theorem deinterleave_interleave (blocks : List (List α)) (rest : List α) :
    deinterleave (blocks.map List.length) (interleave blocks ++ rest) = blocks := by
  refine List.ext_getElem (by simp [deinterleave]) fun b hb hb' => ?_
  simp only [deinterleave, List.getElem_map, List.getElem_zipIdx, Nat.zero_add]
  have hread : ∀ i ∈ List.range blocks[b].length,
      (interleave blocks ++ rest)[interleavedPlace (blocks.map List.length) i b]?
        = blocks[b][i]? := by
    intro i hi
    have hi' := List.mem_range.mp hi
    have hget := getElem?_interleave hb' hi'
    obtain ⟨hlt, -⟩ := List.getElem?_eq_some_iff.mp hget
    rw [List.getElem?_append_left hlt, hget, List.getElem?_eq_getElem hi']
  rw [List.filterMap_congr hread, filterMap_range_getElem? (Nat.le_refl _)]

end QrSymbol
