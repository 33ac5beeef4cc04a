import Mathlib.Data.List.DropRight
import Mathlib.Tactic.SplitIfs
import StyleTypings.Text.Blank

namespace StyleTypings.Text

def White (c : Char) : Prop :=
  9 ≤ c.toNat ∧ c.toNat ≤ 13 ∨ c.toNat = 0x20 ∨ c.toNat = 0x85 ∨ c.toNat = 0xa0 ∨
    c.toNat = 0x1680 ∨ 0x2000 ≤ c.toNat ∧ c.toNat ≤ 0x200a ∨ c.toNat = 0x2028 ∨
    c.toNat = 0x2029 ∨ c.toNat = 0x202f ∨ c.toNat = 0x205f ∨ c.toNat = 0x3000

/-- `bare` is a text without the white space at its end. -/
structure Trims (text bare : String) : Prop where
  split : ∃ blank : String, text = bare ++ blank ∧ ∀ c ∈ blank.toList, White c
  bare (c : Char) : bare.toList.getLast? = some c → ¬White c

theorem Trims.eq_of_prefix {text bare bare' : String} (h : Trims text bare) (h' : Trims text bare')
    {more : List Char} (hmore : bare'.toList = bare.toList ++ more) : bare = bare' := by
  obtain ⟨blank, rfl, hblank⟩ := h.split
  obtain ⟨blank', hsplit, -⟩ := h'.split
  rw [← String.toList_inj, String.toList_append, String.toList_append, hmore,
    List.append_assoc] at hsplit
  rcases List.eq_nil_or_concat more with rfl | ⟨front, c, rfl⟩
  · rw [← String.toList_inj, hmore, List.append_nil]
  · refine absurd (hblank c ?_) (h'.bare c ?_)
    · rw [List.append_cancel_left hsplit]
      simp
    · rw [hmore, List.concat_eq_append, ← List.append_assoc, List.getLast?_concat]

theorem Trims.unique {text bare bare' : String} (h : Trims text bare) (h' : Trims text bare') :
    bare = bare' := by
  obtain ⟨blank, hsplit, -⟩ := h.split
  obtain ⟨blank', hsplit', -⟩ := h'.split
  have heq := congrArg String.toList (hsplit.symm.trans hsplit')
  rw [String.toList_append, String.toList_append] at heq
  rcases List.append_eq_append_iff.1 heq with ⟨more, hmore, -⟩ | ⟨more, hmore, -⟩
  · exact h.eq_of_prefix h' hmore
  · exact (h'.eq_of_prefix h hmore).symm

end StyleTypings.Text
