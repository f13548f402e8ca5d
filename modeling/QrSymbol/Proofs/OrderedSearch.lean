import Mathlib.Data.List.Pairwise

/-!
# Searching an ordered list

The modes and the versions are searched from the front of lists in which a key grows: the
rank of a mode, the number of a version.  What such a search finds is the member of least
key that passes the test (`find?_eq_some_iff_of_ordered`).  So what is said of a search
need not mention the order in which it was made.
-/

namespace QrSymbol

variable {α : Type} {key : α → Nat} {members : List α} {p : α → Bool} {a b : α}

/-- Any other member that passes has a larger key than the one that is found. -/
theorem eq_or_key_lt_of_find? (hordered : members.Pairwise fun a b => key a < key b)
    (h : members.find? p = some a) (hb : b ∈ members) (hpass : p b = true) :
    b = a ∨ key a < key b := by
  obtain ⟨-, before, after, rfl, hrefused⟩ := List.find?_eq_some_iff_append.mp h
  rw [List.pairwise_append, List.pairwise_cons] at hordered
  rw [List.mem_append, List.mem_cons] at hb
  rcases hb with hbefore | hfound | hafter
  · have hfalse := hrefused b hbefore
    rw [hpass] at hfalse
    cases hfalse
  · exact .inl hfound
  · exact .inr (hordered.2.1.1 b hafter)

/-- The member of least key that passes is found, and no other. -/
theorem find?_eq_some_iff_of_ordered (hordered : members.Pairwise fun a b => key a < key b) :
    members.find? p = some a ↔
      a ∈ members ∧ p a = true ∧ ∀ b ∈ members, p b = true → key a ≤ key b := by
  constructor
  · intro h
    refine ⟨List.mem_of_find?_eq_some h, List.find?_some h, fun b hb hpass => ?_⟩
    rcases eq_or_key_lt_of_find? hordered h hb hpass with rfl | hlt
    · exact Nat.le_refl _
    · exact Nat.le_of_lt hlt
  · rintro ⟨ha, hpass, hleast⟩
    obtain ⟨found, hfound⟩ := Option.isSome_iff_exists.mp (List.find?_isSome.mpr ⟨a, ha, hpass⟩)
    have hle := hleast found (List.mem_of_find?_eq_some hfound) (List.find?_some hfound)
    rcases eq_or_key_lt_of_find? hordered hfound ha hpass with rfl | hlt
    · exact hfound
    · exact absurd hlt (Nat.not_lt_of_le hle)

end QrSymbol
