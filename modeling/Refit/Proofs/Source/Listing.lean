import Mathlib.Data.List.Basic
import Refit.Source.Path

/-!
Listings by name, of names and of paths. Such a listing is told by what is in it.
-/

namespace Refit

section Sorted

variable {α : Type} [BEq α]

theorem eraseDups_sublist (xs : List α) : xs.eraseDups.Sublist xs := by
  match xs with
  | [] => exact .slnil
  | x :: xs =>
    rw [List.eraseDups_cons]
    exact ((eraseDups_sublist _).trans List.filter_sublist).cons_cons x
termination_by xs.length
decreasing_by exact Nat.lt_succ_of_le (List.length_filter_le _ _)

theorem nodup_eraseDups [LawfulBEq α] (xs : List α) : xs.eraseDups.Nodup := by
  match xs with
  | [] => exact .nil
  | x :: xs =>
    rw [List.eraseDups_cons, List.nodup_cons]
    exact ⟨by simp, nodup_eraseDups _⟩
termination_by xs.length
decreasing_by exact Nat.lt_succ_of_le (List.length_filter_le _ _)

end Sorted

-- A listing by name is told by its names.
theorem eq_of_ascending {xs ys : List String} (hx : xs.Pairwise (· < ·))
    (hy : ys.Pairwise (· < ·)) (h : ∀ s, s ∈ xs ↔ s ∈ ys) : xs = ys := by
  have hnodup {zs : List String} (hz : zs.Pairwise (· < ·)) : zs.Nodup :=
    List.nodup_iff_pairwise_ne.mpr (hz.imp (by rintro a _ hab rfl; exact String.lt_irrefl a hab))
  exact List.Perm.eq_of_pairwise (fun _ _ _ _ hab hba => (Std.Asymm.asymm _ _ hab hba).elim) hx hy
    ((List.perm_ext_iff_of_nodup (hnodup hx) (hnodup hy)).mpr h)

theorem ascending_of_nodup {xs : List String} (h : xs.Pairwise (· ≤ ·)) (hn : xs.Nodup) :
    xs.Pairwise (· < ·) :=
  (h.and hn).imp fun ⟨hle, hne⟩ => Std.lt_of_le_of_ne hle hne

namespace Path

variable {x y : String} {xs ys : List String}

theorem before_cons_iff : before (x :: xs) (y :: ys) ↔ x < y ∨ x = y ∧ before xs ys := by
  rw [before]
  by_cases h : x = y
  case pos => simp [h]
  case neg => simp [h]

theorem before_trans (xs ys zs : List String) (hxy : before xs ys) (hyz : before ys zs) :
    before xs zs := by
  induction xs generalizing ys zs
  case nil => rfl
  case cons x xs ih =>
    cases ys
    case nil => cases hxy
    case cons y ys =>
      cases zs
      case nil => cases hyz
      case cons z zs =>
        rw [before_cons_iff] at hxy hyz ⊢
        rcases hxy with hxy | ⟨rfl, hxy⟩
        · exact .inl (hyz.elim (String.lt_trans hxy) fun ⟨heq, _⟩ => heq ▸ hxy)
        · exact hyz.imp_right fun ⟨heq, hyz⟩ => ⟨heq, ih _ _ hxy hyz⟩

theorem before_total (xs ys : List String) : before xs ys || before ys xs := by
  rw [Bool.or_eq_true]
  induction xs generalizing ys
  case nil => exact .inl rfl
  case cons x xs ih =>
    cases ys
    case nil => exact .inr rfl
    case cons y ys =>
      rw [before_cons_iff, before_cons_iff]
      by_cases h : x = y
      case pos => exact (ih ys).imp (fun h' => .inr ⟨h, h'⟩) fun h' => .inr ⟨h.symm, h'⟩
      case neg =>
        rcases String.le_total x y with hle | hle
        · exact .inl (.inl (Std.lt_of_le_of_ne hle h))
        · exact .inr (.inl (Std.lt_of_le_of_ne hle (Ne.symm h)))

theorem pairwise_before_mergeSort (fs : List (List String)) :
    (fs.mergeSort before).Pairwise fun a b => before a b :=
  List.pairwise_mergeSort before_trans before_total fs

theorem le_of_before (h : before (x :: xs) (y :: ys)) : x ≤ y := by
  rcases before_cons_iff.mp h with h | ⟨rfl, _⟩
  · exact Std.le_of_lt h
  · exact String.le_refl x

theorem before_of_cons (h : before (x :: xs) (x :: ys)) : before xs ys :=
  (before_cons_iff.mp h).elim (fun h => (String.lt_irrefl x h).elim) And.right

theorem before_antisymm (h : before xs ys) (h' : before ys xs) : xs = ys := by
  induction xs generalizing ys
  case nil =>
    cases ys
    case nil => rfl
    case cons => cases h'
  case cons x xs ih =>
    cases ys
    case nil => cases h
    case cons y ys =>
      rcases before_cons_iff.mp h with hlt | ⟨rfl, hxs⟩
      case inl =>
        rcases before_cons_iff.mp h' with hgt | ⟨rfl, _⟩
        · exact (String.lt_irrefl x (String.lt_trans hlt hgt)).elim
        · exact (String.lt_irrefl _ hlt).elim
      case inr => rw [ih hxs (before_of_cons h')]

end Path

end Refit
