import Mathlib.Data.List.Basic
import Refit.Proofs.Session.Ends

/-!
Where paths lead, and what is at a place once it is set.
-/

namespace Refit

namespace Location

variable {cwd : List String} {l m : Location} {p steps : List String}

-- Where the segments of a path lead from a folder, every step back taken.
def reach (cwd : List String) (l : Location) : List String :=
  l.steps.foldl (fun at_ s => if s == ".." then at_.dropLast else at_ ++ [s])
    (if l.root.isSome then [] else cwd)

-- The place that a segment leads to from a place.
def advance (at_ : List String) (s : String) : List String :=
  if s == ".." then at_.dropLast else at_ ++ [s]

theorem reach_eq_foldl : l.reach cwd = l.steps.foldl advance (if l.root.isSome then [] else cwd) :=
  rfl

theorem foldl_advance (h : ".." ∉ steps) : steps.foldl advance p = p ++ steps := by
  induction steps generalizing p
  case nil => simp
  case cons s steps hi =>
    have ⟨hs, hsteps⟩ := List.ne_and_not_mem_of_not_mem_cons h
    simp [hi hsteps, advance, Ne.symm hs]

theorem append_eq (h : m.root = none) : l ++ m = { l with steps := l.steps ++ m.steps } := by
  change l.join m = _
  rw [join, h]

theorem reach_append (h : m.root = none) :
    (l ++ m).reach cwd = m.steps.foldl advance (l.reach cwd) := by
  rw [append_eq h, reach_eq_foldl, List.foldl_append]
  rfl

-- Without a step back, a path that does not start from the root leads below the one before it.
theorem reach_append_eq (h : m.root = none) (hs : ".." ∉ m.steps) :
    (l ++ m).reach cwd = l.reach cwd ++ m.steps := by
  rw [reach_append h, foldl_advance hs]

theorem resolved_eq_reach (h : ".." ∉ cwd) : l.resolved cwd = l.reach cwd := by
  rw [resolved, from_, reach_eq_foldl]
  cases l.root
  case some => rfl
  case none =>
    change List.foldl advance [] (cwd ++ l.steps) = _
    rw [List.foldl_append, foldl_advance h]
    rfl

-- The place of a path from the root without a step back.
theorem reach_absolute (h : ".." ∉ steps) : (absolute steps).reach cwd = steps := by
  rw [reach_eq_foldl, foldl_advance (by exact h)]
  rfl

end Location

namespace Disk

variable {d : Disk} {cwd : List String} {l : Location} {p q : List String} {n : Node}

theorem lookup_setNode {ns : List (List String × Node)} :
    (setNode p n ns).lookup q = if q = p then some n else ns.lookup q := by
  induction ns
  case nil => exact lookup_cons_ite
  case cons m ns ih =>
    have ⟨k, m⟩ := m
    rw [setNode]
    exact lookup_put_step (beq_iff_eq.trans eq_comm) ih

theorem find?_set (hp : p ≠ []) :
    (d.set p n).find? q = if q = p then some n else d.find? q := by
  by_cases hq : q = []
  case pos => simp [find?, hq, hp.symm]
  case neg => simp [find?, set, hq, lookup_setNode]

theorem ne_nil_of_find?_ne (h : d.find? p ≠ some .folder) : p ≠ [] :=
  fun hp => h (by simp [hp, find?])

-- Every segment of a path is walked as it is counted.
theorem walk_eq_ok {at_ steps : List String} (h : d.walk at_ steps = .ok p) :
    p = steps.foldl (fun at_ s => if s == ".." then at_.dropLast else at_ ++ [s]) at_ := by
  induction steps generalizing at_
  case nil => exact (Except.ok.inj h).symm
  case cons s steps ih =>
    rw [walk] at h
    rw [List.foldl_cons]
    split at h
    case h_1 => cases h
    case h_2 => cases h
    case h_3 =>
      split at h
      case isTrue hs => exact (if_pos hs).symm ▸ ih h
      case isFalse hs =>
        split at h
        case isTrue => cases h
        case isFalse => exact (if_neg hs).symm ▸ ih h

theorem place_eq_ok (h : d.place cwd l = .ok p) : p = l.reach cwd := by
  rw [place] at h
  split at h
  case isTrue => cases h
  case isFalse =>
    split at h
    case isTrue => cases h
    case isFalse =>
      cases hw : d.walk (if l.root.isSome then [] else cwd) l.steps
      case error => simp [hw, Except.mapError] at h
      case ok q =>
        simp only [hw, Except.mapError, Except.ok.injEq] at h
        exact h ▸ walk_eq_ok hw

end Disk

end Refit
