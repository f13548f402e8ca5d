import QrSymbol.Proofs.Outcome

/-!
# The layout of a finished symbol

A finished grid is a filled one under a mask, with the two information words written
(`finishedGrid`).  It keeps the layout of the filled grid at every step, and each
word stands at its places alone (`finished_finishedGrid`).  The grid of every symbol
is of this form (`Symbol.grid_ofText`), whatever the text and the options
(`finished_of_encode`).
-/

namespace QrSymbol

/-! ## The grid of a symbol -/

/-- The trial that wins is that of its mask. -/
theorem chooseMask_eq (g : Grid) (forced : Option Mask) :
    chooseMask g forced = MaskTrial.ofMask g (chooseMask g forced).mask := by
  cases forced with
  | some mask => rfl
  | none =>
      have hmem : chooseMask g none ∈ MaskTrial.ofMask g ⟨0⟩ :: (MaskTrial.all g).tail :=
        MaskTrial.leastFrom_mem _ _
      rcases List.mem_cons.mp hmem with hfirst | hlater
      · rw [hfirst]
        rfl
      · obtain ⟨mask, -, hmask⟩ := List.mem_map.mp (List.mem_of_mem_tail hlater)
        rw [← hmask]
        rfl

/-- The bits of a symbol in the cells of its version, under a mask and with both
information words. -/
def finishedGrid (v : Version) (info : FormatInformation) (bits : Bits) : Grid :=
  VersionInformation.write v
    (FormatInformation.write info (Grid.masked (filledGrid v bits) info.mask))

namespace Symbol

variable {text : String} {mode : Mode} {v : Version} {options : Options}

theorem grid_ofText : (ofText text mode v options).grid
    = finishedGrid v ⟨options.level, (ofText text mode v options).mask⟩
        ((BlockPlan.standard v options.level).streamBits
          (dataCodewords mode (.standard v options.level) text.toList)) := by
  rw [ofText, ofChoice, chooseMask_eq]
  rfl

end Symbol

/-! ## The finished layout -/

/-- The layout of a finished grid of a version, whose format information says a
level and a mask. -/
structure Grid.Finished (g : Grid) (v : Version) (info : FormatInformation) : Prop where
  /-- The side is that of the version. -/
  side_eq : g.side = 4 * v.number + 17
  /-- Every cell has the kind of its function module, or else carries data. -/
  kind_eq : ∀ {x y : Nat}, x < g.side → y < g.side → ∃ m, g.get? x y = some m ∧
    m.kind = ((Draft.blank v).module? x y).elim .data Module.kind
  /-- Function modules outside the information areas have their colours. -/
  pattern_eq : ∀ {x y : Nat} {m : Module}, x < g.side → y < g.side →
    (Draft.blank v).module? x y = some m → m.kind ≠ .format → m.kind ≠ .version →
    g.get? x y = some m
  /-- The modules of kind `format` are those at the places of the format word. -/
  format_iff : ∀ {x y : Nat}, (∃ m, g.get? x y = some m ∧ m.kind = .format) ↔
    ∃ i < 15, (x, y) ∈ FormatInformation.places g.side i
  /-- These are thirty. -/
  format_count : ((List.range 15).flatMap (FormatInformation.places g.side)).Nodup ∧
    ((List.range 15).flatMap (FormatInformation.places g.side)).length = 30
  /-- Each place of a bit of the format word holds it. -/
  format_eq : ∀ i < 15, ∀ p ∈ FormatInformation.places g.side i,
    g.get? p.1 p.2 = some ⟨.format, info.word.testBit i⟩
  /-- A reader finds the level and the mask. -/
  read_eq : FormatInformation.read g = some info
  /-- The modules of kind `version` are those at the places of the version word,
  which small versions do not have. -/
  version_iff : ∀ {x y : Nat}, (∃ m, g.get? x y = some m ∧ m.kind = .version) ↔
    7 ≤ v.number ∧ ∃ i < 18, (x, y) ∈ VersionInformation.places g.side i
  /-- These are thirty-six. -/
  version_count : ((List.range 18).flatMap (VersionInformation.places g.side)).Nodup ∧
    ((List.range 18).flatMap (VersionInformation.places g.side)).length = 36
  /-- Each place of a bit of the version word holds it. -/
  version_eq : 7 ≤ v.number → ∀ i < 18, ∀ p ∈ VersionInformation.places g.side i,
    g.get? p.1 p.2 = some ⟨.version, (VersionInformation.wordOf v.number).testBit i⟩
  /-- The other modules are the data modules that the version counts. -/
  count_data : g.count (fun m => m.kind == .data) = v.dataModules

namespace Grid.LaidOut

variable {g : Grid} {v : Version}

/-- Every cell holds a module of its kind. -/
theorem exists_get? (h : g.LaidOut v) {x y : Nat} (hx : x < v.side) (hy : y < v.side) :
    ∃ m, g.get? x y = some m ∧ m.kind = v.kind x y := by
  rw [← h.side_eq] at hx hy
  obtain ⟨m, hm⟩ := Square.exists_get?_eq_some hx hy
  exact ⟨m, hm, h.kind_eq hm⟩

/-- The modules of a kind stand in the cells of that kind. -/
theorem exists_kind_iff (h : g.LaidOut v) {x y : Nat} {kind : ModuleKind} :
    (∃ m, g.get? x y = some m ∧ m.kind = kind) ↔
      (x < v.side ∧ y < v.side) ∧ v.kind x y = kind := by
  constructor
  · rintro ⟨m, hm, rfl⟩
    have hcell := Square.get?_isSome_iff.mp (Option.isSome_of_mem hm)
    rw [h.side_eq] at hcell
    exact ⟨hcell, (h.kind_eq hm).symm⟩
  · rintro ⟨⟨hx, hy⟩, rfl⟩
    exact h.exists_get? hx hy

/-- There are as many data modules as free cells. -/
theorem count_data (h : g.LaidOut v) : g.count (fun m => m.kind == .data) = v.dataModules := by
  rw [Square.count_eq_card, ← card_freeCells, h.side_eq]
  congr 1
  refine Finset.filter_congr fun p hp => ?_
  obtain ⟨x, y⟩ := p
  obtain ⟨hx, hy⟩ := mem_squareCells.mp hp
  obtain ⟨m, hm, hkind⟩ := h.exists_get? hx hy
  rw [hm, Option.any_some, beq_iff_eq, hkind, Version.kind_eq_data_iff]

end Grid.LaidOut

/-- Both information words fit in the layout. -/
theorem laidOut_finishedGrid {v : Version} {bits : Bits} (hlen : bits.length = v.dataModules)
    (info : FormatInformation) : (finishedGrid v info bits).LaidOut v :=
  (((laidOut_filledGrid hlen).masked info.mask).writeFormat info).writeVersion id

/-- A finished grid has the finished layout. -/
theorem finished_finishedGrid {v : Version} {info : FormatInformation} {bits : Bits}
    (hlen : bits.length = v.dataModules) : (finishedGrid v info bits).Finished v info := by
  have hmasked := (laidOut_filledGrid hlen).masked info.mask
  have hformatted := hmasked.writeFormat info
  have hlaid := laidOut_finishedGrid hlen info
  have hside := hlaid.side_eq
  have hformat : ∀ i < 15, ∀ p ∈ FormatInformation.places (finishedGrid v info bits).side i,
      (finishedGrid v info bits).get? p.1 p.2 = some ⟨.format, info.word.testBit i⟩ := by
    intro i hi p hp
    rw [hside] at hp
    have hkind := Version.kind_eq_format_iff.mpr ⟨i, hi, hp⟩
    rw [finishedGrid, VersionInformation.get?_write_of_kind hformatted.side_eq id
      (by rw [hkind]; decide)]
    rw [← hmasked.side_eq] at hp
    exact FormatInformation.get?_write_of_mem (hmasked.side_eq ▸ v.twentyOne_le_side) hi hp
  exact {
    side_eq := hside
    kind_eq := by
      intro x y hx hy
      rw [hside] at hx hy
      obtain ⟨m, hm, hkind⟩ := hlaid.exists_get? hx hy
      refine ⟨m, hm, ?_⟩
      rw [hkind, Draft.module?_blank hx hy, Version.kind]
      cases v.module? x y with
      | none => rfl
      | some n => rfl
    pattern_eq := by
      intro x y m hx hy hm hformat hversion
      rw [hside] at hx hy
      rw [Draft.module?_blank hx hy] at hm
      exact hlaid.pattern_eq hx hy hm hformat hversion
    format_iff := by
      intro x y
      rw [hlaid.exists_kind_iff, Version.kind_eq_format_iff, hside, and_iff_right_iff_imp]
      rintro ⟨i, hi, hp⟩
      exact FormatInformation.places_lt v.twentyOne_le_side hi hp
    format_count := ⟨hside ▸ FormatInformation.nodup_places v.twentyOne_le_side, rfl⟩
    format_eq := hformat
    read_eq := FormatInformation.read_eq hformat
    version_iff := by
      intro x y
      rw [hlaid.exists_kind_iff, Version.kind_eq_version_iff, hside, Version.hasInfo,
        decide_eq_true_iff, and_iff_right_iff_imp]
      rintro ⟨-, i, hi, hp⟩
      exact VersionInformation.places_lt v.twentyOne_le_side hi hp
    version_count := ⟨hside ▸ VersionInformation.nodup_places v.twentyOne_le_side, rfl⟩
    version_eq := by
      intro hinfo i hi p hp
      rw [hside, ← hformatted.side_eq] at hp
      exact VersionInformation.get?_write_of_mem (decide_eq_true hinfo)
        (hformatted.side_eq ▸ v.twentyOne_le_side) hi hp
    count_data := hlaid.count_data }

/-- Neither information word is written to a data module. -/
theorem get?_finishedGrid_of_data {v : Version} {info : FormatInformation} {bits : Bits}
    (hlen : bits.length = v.dataModules) {x y : Nat} (hkind : v.kind x y = .data) :
    (finishedGrid v info bits).get? x y = (Grid.masked (filledGrid v bits) info.mask).get? x y := by
  have hmasked := (laidOut_filledGrid hlen).masked info.mask
  have hformatted := hmasked.writeFormat info
  rw [finishedGrid,
    VersionInformation.get?_write_of_kind hformatted.side_eq id (by rw [hkind]; decide),
    FormatInformation.get?_write_of_kind hmasked.side_eq (by rw [hkind]; decide)]

/-- Every symbol has the finished layout of its version, its level and its mask. -/
theorem finished_of_encode {text : String} {options : Options} {s : Symbol}
    (h : encode text options = .ok s) :
    s.grid.Finished s.version ⟨options.level, s.mask⟩ := by
  obtain ⟨mode, v, haccepts, hlen, rfl⟩ := eq_ofText_of_encode h
  rw [Symbol.grid_ofText]
  exact finished_finishedGrid
    (BlockPlan.length_streamBits (length_dataCodewords haccepts hlen))

/-- A symbol that carries its version number. -/
theorem finished_of_encode_version_seven :
    let options : Options := ⟨none, .high, some ⟨7, by decide, by decide⟩, some ⟨3⟩⟩
    ∃ s, encode "VERSION 7" options = .ok s ∧
      s.grid.Finished s.version ⟨options.level, s.mask⟩ := by
  have hnone : encodeFailure "VERSION 7"
      ⟨none, .high, some ⟨7, by decide, by decide⟩, some ⟨3⟩⟩ = none := by decide
  obtain ⟨s, hs⟩ := exists_encode_eq_ok hnone
  exact ⟨s, hs, finished_of_encode hs⟩

end QrSymbol
