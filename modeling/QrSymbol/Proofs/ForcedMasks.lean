import QrSymbol.Proofs.Choices
import QrSymbol.Proofs.GridRuns

/-!
# One text under two masks

A mask is put on when the bits of a symbol already lie in their cells.  So a forced mask
has no part in what comes before: an encoding fails for the same reason under every
mask, and if it does not fail, the mode, the version and the bits are the same.

What two masks leave are two finished grids of the same bits.  A data module shows its
bit inverted by the mask (`Grid.LaidOut.get?_masked_of_data`), so it differs in colour
where exactly one of the masks inverts it (`dark_ne_iff_of_finishedGrid`).  The colours
of the other modules follow from the layout of a finished grid, which fixes all of them
but the format information (`Grid.Finished.get?_eq`).  Together these compare the
symbols of a text under any two masks (`encode_forced_masks`).
-/

namespace QrSymbol

/-! ## Finished grids of one version -/

namespace Grid.Finished

variable {g h : Grid} {v : Version} {info info' : FormatInformation} {x y : Nat}

/-- Finished grids of one version have modules of the same kinds. -/
theorem map_kind_eq (hg : g.Finished v info) (hh : h.Finished v info') (x y : Nat) :
    (g.get? x y).map Module.kind = (h.get? x y).map Module.kind := by
  have hsides : g.side = h.side := hg.side_eq.trans hh.side_eq.symm
  by_cases hcell : x < g.side ∧ y < g.side
  · obtain ⟨m, hm, hkind⟩ := hg.kind_eq hcell.1 hcell.2
    rw [hsides] at hcell
    obtain ⟨n, hn, hkind'⟩ := hh.kind_eq hcell.1 hcell.2
    rw [hm, hn, Option.map_some, Option.map_some, hkind, hkind']
  · have hout : g.side ≤ x ∨ g.side ≤ y := by omega
    rw [Square.get?_eq_none_iff.mpr hout, Square.get?_eq_none_iff.mpr (hsides ▸ hout)]

/-- The format information and the data apart, finished grids of one version are the
same. -/
theorem get?_eq (hg : g.Finished v info) (hh : h.Finished v info') {m : Module}
    (hm : g.get? x y = some m) (hdata : m.kind ≠ .data) (hformat : m.kind ≠ .format) :
    h.get? x y = some m := by
  have hsides : g.side = h.side := hg.side_eq.trans hh.side_eq.symm
  obtain ⟨hx, hy⟩ := Square.get?_isSome_iff.mp (Option.isSome_of_mem hm)
  by_cases hversion : m.kind = .version
  · -- The version word is the same in both, and so are its places.
    obtain ⟨hinfo, i, hi, hplace⟩ := hg.version_iff.mp ⟨m, hm, hversion⟩
    have hbit := hg.version_eq hinfo i hi (x, y) hplace
    rw [hsides] at hplace
    rw [hh.version_eq hinfo i hi (x, y) hplace, ← hbit, hm]
  · obtain ⟨n, hn, hkind⟩ := hg.kind_eq hx hy
    obtain rfl : m = n := Option.some.inj (hm.symm.trans hn)
    cases hmodule : (Draft.blank v).module? x y with
    | none =>
        rw [hmodule] at hkind
        exact absurd hkind hdata
    | some n =>
        rw [hmodule] at hkind
        have hkind : m.kind = n.kind := hkind
        rw [hkind] at hformat hversion
        rw [hh.pattern_eq (hsides ▸ hx) (hsides ▸ hy) hmodule hformat hversion, ← hm,
          hg.pattern_eq hx hy hmodule hformat hversion]

end Grid.Finished

/-! ## The same bits under two masks -/

theorem Module.dark_invertedIf_ne_iff (m : Module) (a b : Bool) :
    (m.invertedIf a).dark ≠ (m.invertedIf b).dark ↔ a ≠ b := by
  rw [invertedIf, invertedIf, ne_eq, ne_eq, Bool.xor_right_inj]

/-- A data module has different colours in two finished grids of the same bits where
exactly one of the masks inverts it. -/
theorem dark_ne_iff_of_finishedGrid {v : Version} {info info' : FormatInformation} {bits : Bits}
    (hlen : bits.length = v.dataModules) {x y : Nat} {a b : Module}
    (ha : (finishedGrid v info bits).get? x y = some a)
    (hb : (finishedGrid v info' bits).get? x y = some b) (hdata : a.kind = .data) :
    a.dark ≠ b.dark ↔ info.mask.inverts x y ≠ info'.mask.inverts x y := by
  have hfilled := laidOut_filledGrid hlen
  have hkind : v.kind x y = .data := ((laidOut_finishedGrid hlen info).kind_eq ha).symm.trans hdata
  rw [get?_finishedGrid_of_data hlen hkind, hfilled.get?_masked_of_data _ hkind] at ha hb
  obtain ⟨m, hm, rfl⟩ := Option.map_eq_some_iff.mp ha
  obtain ⟨n, hn, rfl⟩ := Option.map_eq_some_iff.mp hb
  obtain rfl : m = n := Option.some.inj (hm.symm.trans hn)
  exact m.dark_invertedIf_ne_iff _ _

/-- Two symbols of one text that differ as their masks do, and otherwise only in the
format information that says so. -/
structure Symbol.DifferByMasks (s t : Symbol) (p q : Mask) : Prop where
  /-- The masks are the two. -/
  mask_eq : s.mask = p ∧ t.mask = q
  /-- The versions are the same. -/
  version_eq : s.version = t.version
  /-- The levels are the same. -/
  level_eq : s.level = t.level
  /-- The modes are the same. -/
  mode_eq : s.mode = t.mode
  /-- The texts are the same. -/
  content_eq : s.content = t.content
  /-- The modules are of the same kinds. -/
  kind_eq : ∀ x y, (s.grid.get? x y).map Module.kind = (t.grid.get? x y).map Module.kind
  /-- A data module has different colours where exactly one of the masks inverts it. -/
  data_iff : ∀ {x y : Nat} {a b : Module}, s.grid.get? x y = some a → t.grid.get? x y = some b →
    a.kind = .data → (a.dark ≠ b.dark ↔ p.inverts x y ≠ q.inverts x y)
  /-- The modules that carry neither data nor the format information are the same. -/
  other_eq : ∀ {x y : Nat} {m : Module}, s.grid.get? x y = some m → m.kind ≠ .data →
    m.kind ≠ .format → t.grid.get? x y = some m

/-- The symbols of a text in one mode and one version, under two masks. -/
theorem Symbol.differByMasks_ofText {text : String} {mode : Mode} {v : Version} {options : Options}
    (haccepts : ∀ c ∈ text.toList, mode.accepts c = true)
    (hlen : text.toList.length ≤ v.capacity options.level mode) (p q : Mask) :
    (ofText text mode v { options with mask := some p }).DifferByMasks
      (ofText text mode v { options with mask := some q }) p q := by
  have hbits := BlockPlan.length_streamBits (length_dataCodewords haccepts hlen)
  have hp : (ofText text mode v { options with mask := some p }).grid
      = finishedGrid v ⟨options.level, p⟩ _ := grid_ofText
  have hq : (ofText text mode v { options with mask := some q }).grid
      = finishedGrid v ⟨options.level, q⟩ _ := grid_ofText
  have hfinished (mask : Mask) : (finishedGrid v ⟨options.level, mask⟩ _).Finished v _ :=
    finished_finishedGrid hbits
  exact {
    mask_eq := ⟨rfl, rfl⟩
    version_eq := rfl
    level_eq := rfl
    mode_eq := rfl
    content_eq := rfl
    kind_eq := by
      rw [hp, hq]
      exact (hfinished p).map_kind_eq (hfinished q)
    data_iff := by
      rw [hp, hq]
      intro x y a b
      exact dark_ne_iff_of_finishedGrid hbits
    other_eq := by
      rw [hp, hq]
      exact (hfinished p).get?_eq (hfinished q) }

/-- Under two forced masks a text fails for the same reason, or it has two symbols that
differ as the masks do. -/
theorem encode_forced_masks (text : String) (options : Options) (p q : Mask) :
    (∃ e, encode text { options with mask := some p } = .error e ∧
      encode text { options with mask := some q } = .error e) ∨
    ∃ s t, encode text { options with mask := some p } = .ok s ∧
      encode text { options with mask := some q } = .ok t ∧ s.DifferByMasks t p q := by
  -- Whether something speaks against the text does not depend on the mask.
  cases hfailure : encodeFailure text options with
  | some e => exact .inl ⟨e, encode_eq_error hfailure, encode_eq_error hfailure⟩
  | none =>
      obtain ⟨s, hs⟩ : ∃ s, encode text { options with mask := some p } = .ok s :=
        exists_encode_eq_ok hfailure
      obtain ⟨mode, v, hmode, hv, haccepts, rfl⟩ := encode_eq_ok_iff.mp hs
      exact .inr ⟨_, _, hs, encode_eq_ok_iff.mpr ⟨mode, v, hmode, hv, haccepts, rfl⟩,
        Symbol.differByMasks_ofText haccepts hv.holds p q⟩

end QrSymbol
