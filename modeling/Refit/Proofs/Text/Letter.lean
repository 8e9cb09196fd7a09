import Mathlib.Data.List.Basic
import Refit.Text.Letter

/-!
Classes of characters that share no character.
-/

namespace Refit.Letter

variable {c : Char}

-- What holds of all characters of a text is decided along the text, and not along all characters
-- there are.
instance decidableForallMem (s : List Char) (p : Char → Prop) [DecidablePred p] :
    Decidable (∀ c ∈ s, p c) :=
  List.decidableBAll p s

def blanks : List Nat :=
  [9, 10, 11, 12, 13, 28, 29, 30, 31, 32, 0x85, 0xA0, 0x1680, 0x2000, 0x2001, 0x2002, 0x2003,
    0x2004, 0x2005, 0x2006, 0x2007, 0x2008, 0x2009, 0x200A, 0x2028, 0x2029, 0x202F, 0x205F, 0x3000]

theorem toNat_mem_blanks (h : isBlank c) : c.toNat ∈ blanks := by
  have hb : blanks = List.range' 9 5 ++ List.range' 28 5 ++ [0x85, 0xA0, 0x1680] ++
      List.range' 0x2000 11 ++ [0x2028, 0x2029, 0x202F, 0x205F, 0x3000] := rfl
  simp only [isBlank, Bool.or_eq_true, Bool.and_eq_true, decide_eq_true_eq, beq_iff_eq] at h
  simp only [hb, List.mem_append, List.mem_range'_1, List.mem_cons, List.not_mem_nil, or_false]
  omega

theorem not_word_of_blanks : ∀ n ∈ blanks,
    n < 128 ∧ !(Char.ofNat n).isAlphanum ∧ n ≠ '_'.toNat ∨
      128 ≤ n ∧ !inRanges Table.alphanumeric n := by
  decide +kernel

theorem not_isBlank_of_isWord (h : isWord c) : ¬isBlank c := by
  intro hb
  rcases not_word_of_blanks _ (toNat_mem_blanks hb) with ⟨hlow, halpha, hline⟩ | ⟨hhigh, htable⟩
  case inl =>
    have hne : c ≠ '_' := fun h => hline (congrArg Char.toNat h)
    simp_all [isWord, Char.ofNat_toNat]
  case inr => simp_all [isWord, Nat.not_lt.mpr hhigh]

end Refit.Letter
