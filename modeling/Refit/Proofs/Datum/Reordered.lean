import Refit.Proofs.Datum.Basic

/-!
Values that differ in nothing but the order of entries.
-/

namespace Refit

-- Values that are the same but for the order of the entries in their tables.
inductive Datum.Reordered : Datum → Datum → Prop
  | refl (d : Datum) : Reordered d d
  | list {xs ys : List Datum} : List.Forall₂ Reordered xs ys → Reordered (.list xs) (.list ys)
  | table {es fs gs : List (Datum × Datum)} : es.Perm fs →
      fs.map Prod.fst = gs.map Prod.fst →
      List.Forall₂ Reordered (fs.map Prod.snd) (gs.map Prod.snd) → Reordered (.dict es) (.dict gs)

open Datum (Reordered)

theorem Datum.Reordered.of_perm {es fs : Dict} (h : es.Perm fs) :
    Reordered (.dict es) (.dict fs) :=
  .table h rfl (List.forall₂_same.mpr fun d _ => .refl d)

namespace Dict

variable {es fs gs : Dict} {d v w : Datum} {j k : String}

theorem get?_eq_some_iff (h : (es.map Prod.fst).Nodup) :
    es.get? k = some v ↔ (.text k, v) ∈ es := by
  fun_induction Dict.get? es k
  case case1 => simp
  case case2 es w j hj =>
    obtain rfl := eq_of_beq hj
    have hold : (.text j, v) ∉ es := fun hmem =>
      (List.nodup_cons.mp h).1 (List.mem_map.mpr ⟨_, hmem, rfl⟩)
    simp [hold, eq_comm]
  case case3 es w j hj ih =>
    rw [ih (List.nodup_cons.mp h).2, List.mem_cons]
    simp [Ne.symm (ne_of_beq_false (Bool.eq_false_iff.mpr hj))]
  case case4 d w es _ hd ih =>
    rw [ih (List.nodup_cons.mp h).2, List.mem_cons]
    exact (or_iff_right fun heq => hd _ (Prod.mk.inj heq).1.symm).symm

theorem get?_perm (h : es.Perm fs) (hn : (es.map Prod.fst).Nodup) : es.get? k = fs.get? k := by
  refine Option.ext fun v => ?_
  rw [get?_eq_some_iff hn, get?_eq_some_iff ((h.map _).nodup_iff.mp hn), h.mem_iff]

-- Tables with the same names and related values.
theorem get?_forall₂ {R : Datum → Datum → Prop} (hkeys : fs.map Prod.fst = gs.map Prod.fst)
    (hvalues : List.Forall₂ R (fs.map Prod.snd) (gs.map Prod.snd)) :
    Option.Rel R (fs.get? k) (gs.get? k) := by
  induction fs generalizing gs
  case nil =>
    obtain rfl := List.map_eq_nil_iff.mp hkeys.symm
    exact .none
  case cons e fs ih =>
    obtain ⟨g, gs, rfl, hname, hrest⟩ := List.map_eq_cons_iff.mp hkeys.symm
    obtain ⟨i, v⟩ := e
    obtain ⟨_, w⟩ := g
    obtain rfl : _ = i := hname
    obtain ⟨hv, hvs⟩ := List.forall₂_cons.mp hvalues
    have hmore := ih hrest.symm hvs
    rw [Dict.get?.eq_def, Dict.get?.eq_def]
    dsimp only
    split
    case h_1 =>
      split
      · exact .some hv
      · exact hmore
    case h_2 => exact hmore

/-! Setting values -/

-- Values are set at two names in either order.
theorem set_comm (h : ∀ e ∈ es, ∃ i, e.1 = .text i) (hjk : j ≠ k) :
    ((es.set j v).set k w).Perm ((es.set k w).set j v) := by
  simp only [set]
  induction es
  case nil => simpa [put, hjk, hjk.symm] using List.Perm.swap (Datum.text k, w) (.text j, v) []
  case cons e es ih =>
    obtain ⟨⟨i, hi⟩, hes⟩ := List.forall_mem_cons.mp h
    obtain ⟨_, x⟩ := e
    obtain rfl : _ = Datum.text i := hi
    rw [put, put, Datum.same_text, Datum.same_text]
    by_cases hj : i = j
    case pos => simp [put, hj, hjk]
    case neg =>
      by_cases hk : i = k
      case pos => simp [put, hk, hjk.symm]
      case neg => simpa [put, hj, hk] using ih hes

theorem keys_put_eq : (es.put d v).map Prod.fst = (es.put d w).map Prod.fst := by
  induction es
  case nil => rfl
  case cons e es ih =>
    rw [put, put]
    split
    · rfl
    · exact congrArg (e.1 :: ·) ih

theorem reordered_put (h : Reordered v w) :
    List.Forall₂ Reordered ((es.put d v).map Prod.snd) ((es.put d w).map Prod.snd) := by
  induction es
  case nil => exact .cons h .nil
  case cons e es ih =>
    rw [put, put]
    split
    · exact .cons h (List.forall₂_same.mpr fun x _ => .refl x)
    · exact .cons (.refl e.2) ih

theorem reordered_set (h : Reordered v w) : Reordered (.dict (es.set k v)) (.dict (es.set k w)) :=
  .table (.refl _) keys_put_eq (reordered_put h)

end Dict

end Refit
