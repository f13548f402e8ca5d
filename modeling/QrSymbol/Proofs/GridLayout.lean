import QrSymbol.Proofs.DataOrder
import QrSymbol.Reading
import QrSymbol.Symbol

/-!
# The layout of a grid

A grid is laid out for a version if it has the version's side, every module has
the kind of its cell and the function modules have their colours, those of the
two information areas apart (`Grid.LaidOut`).  A filled draft gives such a grid
(`laidOut_filledGrid`).  Masking and the writing of either information word
keep it, since a mask passes over function modules and a word is written to cells
of its own kind (`Grid.LaidOut.masked`, `Grid.LaidOut.writeFormat`,
`Grid.LaidOut.writeVersion`).

The data is the other half.  The bits that fill a draft are read off the grid
again, cell by cell in their order (`dataBits_filledGrid`).
-/

namespace QrSymbol

/-! ## Filling a draft -/

namespace Draft

/-- The draft with each bit put in its cell. -/
def putBits (d : Draft) (cells : List ((Nat × Nat) × Bool)) : Draft :=
  cells.foldl (fun d p => d.put p.1.1 p.1.2 ⟨.data, p.2⟩) d

theorem putBits_cons (d : Draft) (p : (Nat × Nat) × Bool) (cells : List ((Nat × Nat) × Bool)) :
    d.putBits (p :: cells) = (d.put p.1.1 p.1.2 ⟨.data, p.2⟩).putBits cells := rfl

@[simp] theorem side_putBits (d : Draft) (cells : List ((Nat × Nat) × Bool)) :
    (d.putBits cells).side = d.side := by
  induction cells generalizing d with
  | nil => rfl
  | cons p cells ih => rw [putBits_cons, ih, side_put]

/-- A cell that gets no bit does not change. -/
theorem get?_putBits_of_notMem {d : Draft} {cells : List ((Nat × Nat) × Bool)} {x y : Nat}
    (h : (x, y) ∉ cells.map Prod.fst) :
    (d.putBits cells).cells.get? x y = d.cells.get? x y := by
  induction cells generalizing d with
  | nil => rfl
  | cons p cells ih =>
      rw [List.map_cons, List.mem_cons, not_or] at h
      rw [putBits_cons, ih h.2, get?_cells_put, if_neg fun hp => h.1 (Prod.ext hp.1 hp.2.1)]

/-- A cell that gets one bit holds it. -/
theorem get?_putBits_of_mem {d : Draft} {cells : List ((Nat × Nat) × Bool)} {x y : Nat} {b : Bool}
    (hnodup : (cells.map Prod.fst).Nodup) (hmem : ((x, y), b) ∈ cells) (hx : x < d.side)
    (hy : y < d.side) : (d.putBits cells).cells.get? x y = some (some ⟨.data, b⟩) := by
  induction cells generalizing d with
  | nil => cases hmem
  | cons p cells ih =>
      rw [List.map_cons, List.nodup_cons] at hnodup
      rw [putBits_cons]
      rcases List.mem_cons.mp hmem with rfl | hlater
      · rw [get?_putBits_of_notMem hnodup.1, get?_cells_put, if_pos ⟨rfl, rfl, hx, hy⟩]
      · exact ih hnodup.2 hlater (by rwa [side_put]) (by rwa [side_put])

theorem fill_eq_ok_iff {d filled : Draft} {bits : Bits} : d.fill bits = .ok filled ↔
    bits.length = d.freeCells.length ∧ d.putBits (d.freeCells.zip bits) = filled :=
  EncodeError.checkCount_bind_eq_ok_iff

theorem fill_eq {d : Draft} {bits : Bits} (h : bits.length = d.freeCells.length) :
    d.fill bits = .ok (d.putBits (d.freeCells.zip bits)) :=
  fill_eq_ok_iff.mpr ⟨h, rfl⟩

end Draft

/-- Every free cell gets a bit if there are as many. -/
theorem exists_mem_zip_freeCells {v : Version} {bits : Bits} (hlen : bits.length = v.dataModules)
    {p : Nat × Nat} (h : p ∈ (Draft.blank v).freeCells) :
    ∃ b, (p, b) ∈ (Draft.blank v).freeCells.zip bits := by
  have hfst : ((Draft.blank v).freeCells.zip bits).map Prod.fst = (Draft.blank v).freeCells :=
    List.map_fst_zip (by rw [hlen, Draft.length_freeCells_blank])
  rw [← hfst] at h
  obtain ⟨⟨q, b⟩, hmem, rfl⟩ := List.mem_map.mp h
  exact ⟨b, hmem⟩

/-- The free cells of a version with their bits, as a grid. -/
def filledGrid (v : Version) (bits : Bits) : Grid :=
  ((Draft.blank v).putBits ((Draft.blank v).freeCells.zip bits)).toGrid

theorem unmaskedGrid_eq {v : Version} {bits : Bits} (h : bits.length = v.dataModules) :
    unmaskedGrid v bits = .ok (filledGrid v bits) := by
  rw [unmaskedGrid, Draft.fill_eq (h.trans (Draft.length_freeCells_blank v).symm)]
  rfl

@[simp] theorem side_filledGrid (v : Version) (bits : Bits) : (filledGrid v bits).side = v.side :=
  Draft.side_putBits _ _

/-- Function modules stay where the version has them. -/
theorem get?_filledGrid_of_module? {v : Version} {bits : Bits} {x y : Nat} {m : Module}
    (hx : x < v.side) (hy : y < v.side) (h : v.module? x y = some m) :
    (filledGrid v bits).get? x y = some m := by
  have hunfilled : (x, y) ∉ ((Draft.blank v).freeCells.zip bits).map Prod.fst := by
    intro hmem
    obtain ⟨⟨cell, b⟩, hzip, hcell⟩ := List.mem_map.mp hmem
    obtain rfl : cell = (x, y) := hcell
    have hfree := (Draft.mem_freeCells_blank.mp (List.of_mem_zip hzip).1).2
    rw [h] at hfree
    cases hfree
  rw [filledGrid, Draft.get?_toGrid, Draft.get?_putBits_of_notMem hunfilled,
    Draft.get?_cells_blank, if_pos ⟨hx, hy⟩, h]
  rfl

/-- Free cells hold their bits. -/
theorem get?_filledGrid_of_mem {v : Version} {bits : Bits} (hlen : bits.length = v.dataModules)
    {x y : Nat} {b : Bool} (h : ((x, y), b) ∈ (Draft.blank v).freeCells.zip bits) :
    (filledGrid v bits).get? x y = some ⟨.data, b⟩ := by
  obtain ⟨⟨hx, hy⟩, -⟩ := Draft.mem_freeCells_blank.mp (List.of_mem_zip h).1
  have hnodup : (((Draft.blank v).freeCells.zip bits).map Prod.fst).Nodup := by
    rw [List.map_fst_zip (by rw [hlen, Draft.length_freeCells_blank])]
    exact Draft.nodup_freeCells_blank v
  rw [filledGrid, Draft.get?_toGrid,
    Draft.get?_putBits_of_mem (d := Draft.blank v) hnodup h hx hy]
  rfl

/-! ## Writing the information words -/

/-- The format information is written to the cells of its kind alone. -/
theorem FormatInformation.get?_write_of_kind {info : FormatInformation} {g : Grid} {v : Version}
    {x y : Nat} (hside : g.side = v.side) (h : v.kind x y ≠ .format) :
    (write info g).get? x y = g.get? x y := by
  refine get?_write_of_notMem fun i hi hmem => h (Version.kind_eq_format_iff.mpr ⟨i, hi, ?_⟩)
  rwa [← hside]

/-- The version is written to the cells of its kind alone. -/
theorem VersionInformation.get?_write_of_kind {w v : Version} {g : Grid} {x y : Nat}
    (hside : g.side = v.side) (hw : w.hasInfo = true → v.hasInfo = true)
    (h : v.kind x y ≠ .version) : (write w g).get? x y = g.get? x y := by
  refine get?_write_of_notMem fun hinfo i hi hmem =>
    h (Version.kind_eq_version_iff.mpr ⟨hw hinfo, i, hi, ?_⟩)
  rwa [← hside]

/-! ## The layout -/

/-- A grid laid out for a version, whatever its information areas and its data
modules say. -/
structure Grid.LaidOut (g : Grid) (v : Version) : Prop where
  /-- The grid has the side of the version. -/
  side_eq : g.side = v.side
  /-- Every module has the kind of its cell. -/
  kind_eq : ∀ {x y : Nat} {m : Module}, g.get? x y = some m → m.kind = v.kind x y
  /-- The modules of the other patterns have their colours. -/
  pattern_eq : ∀ {x y : Nat} {m : Module}, x < v.side → y < v.side → v.module? x y = some m →
    m.kind ≠ .format → m.kind ≠ .version → g.get? x y = some m

theorem laidOut_filledGrid {v : Version} {bits : Bits} (hlen : bits.length = v.dataModules) :
    (filledGrid v bits).LaidOut v where
  side_eq := side_filledGrid v bits
  kind_eq := by
    intro x y m hget
    obtain ⟨hx, hy⟩ := Square.get?_isSome_iff.mp (Option.isSome_of_mem hget)
    rw [side_filledGrid] at hx hy
    cases h : v.module? x y with
    | some n =>
        rw [get?_filledGrid_of_module? hx hy h] at hget
        cases hget
        exact (Version.kind_of_module? h).symm
    | none =>
        obtain ⟨b, hzip⟩ := exists_mem_zip_freeCells hlen
          (Draft.mem_freeCells_blank.mpr ⟨⟨hx, hy⟩, h⟩)
        rw [get?_filledGrid_of_mem hlen hzip] at hget
        cases hget
        exact (Version.kind_of_free h).symm
  pattern_eq := fun hx hy h _ _ => get?_filledGrid_of_module? hx hy h

namespace Grid.LaidOut

variable {g : Grid} {v : Version}

/-- A mask passes over the function modules. -/
theorem masked (h : g.LaidOut v) (mask : Mask) : (Grid.masked g mask).LaidOut v where
  side_eq := h.side_eq
  kind_eq := by
    intro x y m hget
    rw [get?_masked, Option.map_eq_some_iff] at hget
    obtain ⟨n, hn, rfl⟩ := hget
    rw [kind_maskModule, h.kind_eq hn]
  pattern_eq := by
    intro x y m hx hy hm hformat hversion
    rw [get?_masked, h.pattern_eq hx hy hm hformat hversion, Option.map_some,
      maskModule_of_function (Version.kind_ne_data hm)]

/-- The format information is written to cells of its kind. -/
theorem writeFormat (h : g.LaidOut v) (info : FormatInformation) :
    (FormatInformation.write info g).LaidOut v where
  side_eq := by rw [FormatInformation.side_write, h.side_eq]
  kind_eq := by
    intro x y m hget
    by_cases hkind : v.kind x y = .format
    · obtain ⟨i, hi, hmem⟩ := Version.kind_eq_format_iff.mp hkind
      rw [← h.side_eq] at hmem
      rw [FormatInformation.get?_write_of_mem (h.side_eq ▸ v.twentyOne_le_side) hi hmem] at hget
      cases hget
      exact hkind.symm
    · rw [FormatInformation.get?_write_of_kind h.side_eq hkind] at hget
      exact h.kind_eq hget
  pattern_eq := by
    intro x y m hx hy hm hformat hversion
    rw [FormatInformation.get?_write_of_kind h.side_eq, h.pattern_eq hx hy hm hformat hversion]
    rwa [Version.kind_of_module? hm]

/-- The version is written to cells of its kind, if the symbol has any. -/
theorem writeVersion (h : g.LaidOut v) {w : Version} (hw : w.hasInfo = true → v.hasInfo = true) :
    (VersionInformation.write w g).LaidOut v where
  side_eq := by rw [VersionInformation.side_write, h.side_eq]
  kind_eq := by
    intro x y m hget
    cases hinfo : w.hasInfo with
    | false =>
        rw [VersionInformation.write_eq_self hinfo] at hget
        exact h.kind_eq hget
    | true =>
        by_cases hkind : v.kind x y = .version
        · obtain ⟨-, i, hi, hmem⟩ := Version.kind_eq_version_iff.mp hkind
          rw [← h.side_eq] at hmem
          rw [VersionInformation.get?_write_of_mem hinfo (h.side_eq ▸ v.twentyOne_le_side) hi hmem]
            at hget
          cases hget
          exact hkind.symm
        · rw [VersionInformation.get?_write_of_kind h.side_eq hw hkind] at hget
          exact h.kind_eq hget
  pattern_eq := by
    intro x y m hx hy hm hformat hversion
    rw [VersionInformation.get?_write_of_kind h.side_eq hw, h.pattern_eq hx hy hm hformat hversion]
    rwa [Version.kind_of_module? hm]

end Grid.LaidOut

/-! ## The data -/

/-- Grids that agree on the free cells hold the same data. -/
theorem Grid.dataBits_congr {g h : Grid} {v : Version}
    (heq : ∀ x y, v.kind x y = .data → g.get? x y = h.get? x y) :
    g.dataBits v = h.dataBits v := by
  refine List.map_congr_left fun p hp => ?_
  obtain ⟨x, y⟩ := p
  have hkind := Version.kind_of_free (Draft.mem_freeCells_blank.mp hp).2
  rw [Grid.isDark, Grid.isDark, heq x y hkind]

/-- The bits that fill a grid are read off it again. -/
theorem dataBits_filledGrid {v : Version} {bits : Bits} (hlen : bits.length = v.dataModules) :
    (filledGrid v bits).dataBits v = bits := by
  have hcells : bits.length = (Draft.blank v).freeCells.length := by
    rw [hlen, Draft.length_freeCells_blank]
  calc (filledGrid v bits).dataBits v
      = (((Draft.blank v).freeCells.zip bits).map Prod.fst).map
          (fun p => (filledGrid v bits).isDark p.1 p.2) := by
        rw [List.map_fst_zip (Nat.le_of_eq hcells.symm)]
        rfl
    _ = ((Draft.blank v).freeCells.zip bits).map Prod.snd := by
        rw [List.map_map]
        refine List.map_congr_left fun p hp => ?_
        obtain ⟨⟨x, y⟩, b⟩ := p
        show Grid.isDark (filledGrid v bits) x y = b
        rw [Grid.isDark, get?_filledGrid_of_mem hlen hp]
    _ = bits := List.map_snd_zip (Nat.le_of_eq hcells)

end QrSymbol
