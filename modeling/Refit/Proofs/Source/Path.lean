import Refit.Proofs.Text.Basic
import Refit.Source.Category

/-!
The segments of paths that are put together from others, and of the paths that files are kept at.
-/

namespace Refit.Path

variable {s t w : String}

-- Whether a segment of a path counts.
def counts (w : String) : Bool :=
  w != "" && w != "."

theorem steps_eq : steps s = ((Text.split '/' s.toList).map String.ofList).filter counts :=
  rfl

theorem steps_append : steps (s ++ "/" ++ t) = steps s ++ steps t := by
  have hl : (s ++ "/" ++ t).toList = s.toList ++ '/' :: t.toList := by simp
  rw [steps, hl, Text.split_append_sep, List.map_append, List.filter_append]
  rfl

theorem steps_cons (h : t.toList = '/' :: s.toList) : steps t = steps s := by
  rw [steps, h]
  simp [Text.split, steps]

theorem counts_of_mem_steps (h : w ∈ steps s) : counts w ∧ '/' ∉ w.toList := by
  have ⟨hm, hc⟩ := List.mem_filter.mp h
  have ⟨cs, hcs, hw⟩ := List.mem_map.mp hm
  refine ⟨hc, ?_⟩
  rw [← hw, String.toList_ofList]
  exact Text.not_mem_of_mem_split hcs

-- A segment is a path of its own.
theorem steps_eq_singleton (hc : counts w) (hs : '/' ∉ w.toList) : steps w = [w] := by
  simp [steps_eq, Text.split_eq_singleton hs, hc]

theorem steps_name_subset : steps (name s) ⊆ steps s := by
  rw [name]
  cases h : (steps s).getLast?
  case none => exact List.nil_subset _
  case some w =>
    have hw := List.mem_of_getLast? h
    have ⟨hc, hs⟩ := counts_of_mem_steps hw
    simpa [steps_eq_singleton hc hs] using hw

theorem root?_eq_none (h : s.toList.head? ≠ some '/') : root? s.toList = none := by
  cases hs : s.toList
  case nil => rfl
  case cons c r =>
    have hc : c ≠ '/' := by simpa [hs] using h
    rw [root?]
    all_goals simp [hc]

/-! Paths put together from segments -/

-- Segments that a path is made of.
def Proper (ws : List String) : Prop :=
  ∀ w ∈ ws, Path.counts w ∧ '/' ∉ w.toList

theorem joining_singleton : "/".joining [w] = w := by
  simp [String.joining, Text.join]

theorem joining_cons {v : String} {vs : List String} :
    "/".joining (w :: v :: vs) = w ++ "/" ++ "/".joining (v :: vs) := by
  simp [String.joining, Text.join, String.ofList_append, String.append_assoc]

theorem joining_concat {ws : List String} (h : ws ≠ []) :
    "/".joining (ws ++ [w]) = "/".joining ws ++ "/" ++ w := by
  induction ws
  case nil => exact absurd rfl h
  case cons v ws ih =>
    cases ws
    case nil => rw [List.singleton_append, joining_cons, joining_singleton, joining_singleton]
    case cons u ws =>
      rw [List.cons_append, List.cons_append, joining_cons, ← List.cons_append, ih nofun,
        joining_cons]
      simp only [String.append_assoc]

theorem steps_joining {ws : List String} (h : Proper ws) : steps ("/".joining ws) = ws := by
  induction ws
  case nil => decide
  case cons w ws ih =>
    have ⟨⟨hc, hs⟩, hws⟩ := List.forall_mem_cons.mp h
    cases ws
    case nil => rw [joining_singleton, steps_eq_singleton hc hs]
    case cons v vs =>
      rw [joining_cons, steps_append, steps_eq_singleton hc hs, ih hws]
      rfl

theorem head?_joining {ws : List String} (h : Proper ws) :
    ("/".joining ws).toList.head? ≠ some '/' := by
  cases ws
  case nil => decide
  case cons w ws =>
    have ⟨⟨hc, hs⟩, _⟩ := List.forall_mem_cons.mp h
    have hj : ("/".joining (w :: ws)).toList =
        w.toList ++ (ws.map String.toList).flatMap (['/'] ++ ·) := by
      simp [String.joining, Text.join_cons_eq_flatMap]
    rw [hj]
    cases hw : w.toList
    case nil => simp [String.toList_eq_nil_iff.mp hw, counts] at hc
    case cons c cs =>
      have hslash : '/' ≠ c := (List.ne_and_not_mem_of_not_mem_cons (hw ▸ hs)).1
      simpa using hslash.symm

theorem parts_joining {ws : List String} (h : Proper ws) : parts ("/".joining ws) = ws := by
  rw [parts, root?_eq_none (head?_joining h), steps_joining h]
  rfl

theorem root?_cons {s : List Char} (h : s.head? ≠ some '/') : root? ('/' :: s) = some "/" := by
  cases s
  case nil => rfl
  case cons c s =>
    have hc : c ≠ '/' := by simpa using h
    rw [root?]
    all_goals simp [hc]

end Refit.Path

namespace Refit

namespace SourceFile

theorem not_mem_steps_of_not_isExcluded {path : String} (h : isExcluded path = false) :
    ".." ∉ Path.steps path := by
  intro hm
  have hp : ".." ∈ Path.parts path := List.mem_append_right _ hm
  simp only [isExcluded, Bool.or_eq_false_iff, List.any_eq_false] at h
  exact h.1.2 _ hp (by decide)

end SourceFile

namespace Category

variable {category path : String}

-- A kept file goes below the folder of its category, and its way from there is part of the way
-- that it had.
theorem steps_target : ∃ rest, rest ⊆ Path.steps path ∧
    Path.steps (target category path) = "lib" :: Path.steps category ++ rest := by
  have hlib {kept : String} : Path.steps ("lib/" ++ category ++ "/" ++ kept) =
      "lib" :: Path.steps category ++ Path.steps kept := by
    have h : "lib/" ++ category = "lib" ++ "/" ++ category := rfl
    rw [Path.steps_append, h, Path.steps_append, Path.steps_eq_singleton (by decide) (by decide)]
    rfl
  rw [target]
  split
  case h_1 s hs =>
    have ⟨a, ha⟩ := Text.exists_of_afterLast? hs
    refine ⟨_, ?_, hlib⟩
    have hpath : Path.steps path =
        Path.steps (String.ofList (a ++ '/' :: category.toList) ++ "/" ++ String.ofList s) := by
      refine (Path.steps_cons ?_).symm
      simpa using ha.symm
    rw [hpath, Path.steps_append]
    exact List.subset_append_right _ _
  case h_2 => exact ⟨_, Path.steps_name_subset, hlib⟩

theorem root?_target : Path.root? (target category path).toList = none := by
  apply Path.root?_eq_none
  simp [target]

end Category

end Refit
