import Refit.Proofs.Datum.Basic

/-!
Plain values, in which nothing has a number, and copies of values.

Documents without references to their own parts are plain. A copy of a value has a copy of every
shared part in each of its places, so a plain value is its own copy.
-/

namespace Refit.Datum

mutual

-- A value in which nothing has a number.
def Plain : Datum → Prop
  | list xs | tuple xs | set xs => AllPlain xs
  | dict es => EntriesPlain es
  | shared _ _ | around _ => False
  | null | bool _ | int _ | float _ | text _ | bytes _ | date _ | time _ | moment _ _ => True

def AllPlain : List Datum → Prop
  | [] => True
  | x :: xs => Plain x ∧ AllPlain xs

def EntriesPlain : List (Datum × Datum) → Prop
  | [] => True
  | (k, v) :: es => Plain k ∧ Plain v ∧ EntriesPlain es

end

variable {d e k v : Datum} {xs ys : List Datum} {es : Dict} {fs : List (String × Datum)}

theorem allPlain_iff : AllPlain xs ↔ ∀ x ∈ xs, x.Plain := by
  induction xs
  case nil => simp [AllPlain]
  case cons x xs ih => rw [AllPlain, ih, List.forall_mem_cons]

theorem entriesPlain_iff : EntriesPlain es ↔ ∀ e ∈ es, e.1.Plain ∧ e.2.Plain := by
  induction es
  case nil => simp [EntriesPlain]
  case cons e es ih =>
    have ⟨k, v⟩ := e
    rw [EntriesPlain, ih, List.forall_mem_cons, and_assoc]

theorem record_plain_iff : (record fs).Plain ↔ ∀ f ∈ fs, f.2.Plain := by
  rw [record, Plain, entriesPlain_iff, List.forall_mem_map]
  exact forall₂_congr fun _ _ => and_iff_right trivial

/-! Parts of plain values -/

theorem opened_of_plain (h : d.Plain) : d.opened = d := by
  cases d
  case shared => cases h
  all_goals rfl

theorem items_plain (h : d.Plain) (hx : d.items = .ok xs) : ∀ x ∈ xs, x.Plain := by
  rw [items, opened_of_plain h] at hx
  cases d
  case list => cases hx; exact allPlain_iff.mp h
  case set => cases hx; exact allPlain_iff.mp h
  case tuple => cases hx; exact allPlain_iff.mp h
  case dict =>
    cases hx
    exact List.forall_mem_map.mpr fun e he => (entriesPlain_iff.mp h e he).1
  case text => cases hx; exact List.forall_mem_map.mpr fun _ _ => trivial
  case bytes => cases hx; exact List.forall_mem_map.mpr fun _ _ => trivial
  all_goals cases hx

theorem get_plain {key : String} (h : EntriesPlain es) (hv : v.Plain) :
    (Dict.get es key v).Plain := by
  rw [Dict.get]
  cases hget : es.get? key
  case none => exact hv
  case some w =>
    have ⟨e, he, hw⟩ := List.mem_map.mp (Dict.mem_of_get? hget)
    exact hw ▸ (entriesPlain_iff.mp h e he).2

theorem put_plain (h : EntriesPlain es) (hk : k.Plain) (hv : v.Plain) :
    EntriesPlain (es.put k v) := by
  induction es
  case nil => exact ⟨hk, hv, trivial⟩
  case cons e es ih =>
    have ⟨k', v'⟩ := e
    have ⟨hk', hv', hes⟩ := h
    rw [Dict.put]
    split
    · exact ⟨hk', hv, hes⟩
    · exact ⟨hk', hv', ih hes⟩

theorem absorbFrom_plain {n : Nat} (hx : ∀ x ∈ xs, x.Plain) (h : EntriesPlain es) :
    EntriesPlain (absorbFrom n xs es).2 := by
  induction xs generalizing n es
  case nil => exact h
  case cons x xs ih =>
    have ⟨hx, hxs⟩ := List.forall_mem_cons.mp hx
    rw [absorbFrom]
    split
    case h_1 => exact h
    case h_2 k v hkv =>
      have hparts := items_plain hx hkv
      split
      case h_1 => exact h
      case h_2 k' hk =>
        obtain ⟨rfl, _⟩ := asKey_eq_ok.mp hk
        exact ih hxs (put_plain h (hparts _ (.head _)) (hparts _ (.tail _ (.head _))))
    case h_3 => exact h

theorem toDict_plain (h : d.Plain) (hd : d.toDict = .ok es) : EntriesPlain es := by
  rw [toDict, entries?, absorb, opened_of_plain h] at hd
  cases d
  case dict => cases hd; exact h
  case shared => cases h
  all_goals
    dsimp only at hd
    split at hd
    case h_1 fs habsorb =>
      cases hd
      split at habsorb
      case h_1 => cases habsorb
      case h_2 xs hx =>
        have hfrom := @absorbFrom_plain _ [] 0 (items_plain h hx) trivial
        rwa [habsorb] at hfrom
    case h_2 => cases hd

/-! Depth -/

theorem depth_le_depths (h : d ∈ xs) : d.depth ≤ depths xs := by
  induction h
  case head => exact Nat.le_max_left _ _
  case tail ih => exact Nat.le_trans ih (Nat.le_max_right _ _)

theorem depth_le_entryDepths {f : Datum × Datum} (h : f ∈ es) :
    max f.1.depth f.2.depth ≤ entryDepths es := by
  induction h
  case head => exact Nat.le_max_left _ _
  case tail ih => exact Nat.le_trans ih (Nat.le_max_right _ _)

theorem depth_lt_dict (h : v ∈ es.map Prod.snd) : v.depth < (dict es).depth := by
  obtain ⟨f, hf, rfl⟩ := List.mem_map.mp h
  exact Nat.lt_succ_of_le (Nat.le_trans (Nat.le_max_right _ _) (depth_le_entryDepths hf))

theorem depth_pos (h : d.Plain) : 0 < d.depth := by
  cases d
  case shared => cases h
  all_goals exact Nat.succ_pos _

-- The parts of a plain value are no deeper than the value.
theorem depth_of_mem_items (h : d.Plain) (hx : d.items = .ok xs) (hv : v ∈ xs) :
    v.depth ≤ d.depth := by
  rw [items, opened_of_plain h] at hx
  cases d
  case list => cases hx; exact Nat.le_succ_of_le (depth_le_depths hv)
  case set => cases hx; exact Nat.le_succ_of_le (depth_le_depths hv)
  case tuple => cases hx; exact Nat.le_succ_of_le (depth_le_depths hv)
  case dict =>
    cases hx
    obtain ⟨f, hf, rfl⟩ := List.mem_map.mp hv
    exact Nat.le_succ_of_le (Nat.le_trans (Nat.le_max_left _ _) (depth_le_entryDepths hf))
  case text => cases hx; obtain ⟨c, _, rfl⟩ := List.mem_map.mp hv; exact Nat.le_refl _
  case bytes => cases hx; obtain ⟨b, _, rfl⟩ := List.mem_map.mp hv; exact Nat.le_refl _
  all_goals cases hx

/-! Copies -/

mutual

theorem unshared_of_plain : (d : Datum) → d.Plain → d.unshared = .ok d
  | null, _ | bool _, _ | int _, _ | float _, _ | text _, _ | bytes _, _ | date _, _ | time _, _
  | moment _ _, _ | set _, _ => rfl
  | list xs, h => by rw [unshared, unsharedList_of_plain xs h]; rfl
  | tuple xs, h => by rw [unshared, unsharedList_of_plain xs h]; rfl
  | dict es, h => by rw [unshared, unsharedEntries_of_plain es h]; rfl
  | shared _ _, h | around _, h => by cases h

theorem unsharedList_of_plain : (xs : List Datum) → AllPlain xs → unsharedList xs = .ok xs
  | [], _ => rfl
  | x :: xs, h => by
    rw [unsharedList, unshared_of_plain x h.1, unsharedList_of_plain xs h.2]
    rfl

theorem unsharedEntries_of_plain : (es : Dict) → EntriesPlain es → unsharedEntries es = .ok es
  | [], _ => rfl
  | (k, v) :: es, h => by
    rw [unsharedEntries, unshared_of_plain k h.1, unshared_of_plain v h.2.1,
      unsharedEntries_of_plain es h.2.2]
    rfl

end

theorem unsharedList_eq_ok :
    unsharedList xs = .ok ys ↔ List.Forall₂ (fun x y => x.unshared = .ok y) xs ys := by
  induction xs generalizing ys
  case nil => simp [unsharedList, eq_comm]
  case cons x xs ih =>
    simp only [unsharedList, bind_eq_ok, pure_eq_ok, ih, List.forall₂_cons_left_iff]
    constructor
    · rintro ⟨y, hy, ys, hys, rfl⟩
      exact ⟨y, ys, hy, hys, rfl⟩
    · rintro ⟨y, ys, hy, hys, rfl⟩
      exact ⟨y, hy, ys, hys, rfl⟩

@[simp]
theorem unshared_bool {b : Bool} : (bool b).unshared = .ok (bool b) :=
  rfl

@[simp]
theorem unshared_int {i : Int} : (int i).unshared = .ok (int i) :=
  rfl

@[simp]
theorem unshared_float {x : Float} : (float x).unshared = .ok (float x) :=
  rfl

@[simp]
theorem unshared_list_eq_ok : (list xs).unshared = .ok e ↔
    ∃ ys, List.Forall₂ (fun x y => x.unshared = .ok y) xs ys ∧ list ys = e := by
  rw [unshared, map_eq_ok]
  simp only [unsharedList_eq_ok]

@[simp]
theorem unshared_dict_eq_ok : (dict es).unshared = .ok e ↔
    ∃ cs, unsharedEntries es = .ok cs ∧ dict cs = e := by
  rw [unshared, map_eq_ok]

@[simp]
theorem unshared_record_eq_ok : (record fs).unshared = .ok e ↔
    ∃ cs, unsharedEntries (fs.map fun f => (text f.1, f.2)) = .ok cs ∧ dict cs = e :=
  unshared_dict_eq_ok

@[simp]
theorem exists_unsharedEntries_nil {p : Dict → Prop} :
    (∃ cs, unsharedEntries [] = .ok cs ∧ p cs) ↔ p [] := by
  simp [unsharedEntries]

@[simp]
theorem exists_unsharedEntries_cons {key : String} {p : Dict → Prop} :
    (∃ cs, unsharedEntries ((text key, v) :: es) = .ok cs ∧ p cs) ↔
      ∃ w, v.unshared = .ok w ∧ ∃ cs, unsharedEntries es = .ok cs ∧ p ((text key, w) :: cs) := by
  simp only [unsharedEntries, unshared, bind_eq_ok, pure_eq_ok, Except.ok.injEq, exists_eq_left']
  constructor
  · rintro ⟨_, ⟨w, hw, cs, hcs, rfl⟩, hp⟩
    exact ⟨w, hw, cs, hcs, hp⟩
  · rintro ⟨w, hw, cs, hcs, hp⟩
    exact ⟨_, ⟨w, hw, cs, hcs, rfl⟩, hp⟩

end Refit.Datum
