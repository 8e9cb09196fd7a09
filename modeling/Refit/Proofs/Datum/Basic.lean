import Mathlib.Data.List.Forall2
import Mathlib.Data.List.Nodup
import Refit.Datum.Fault

/-!
Reading values: what a reading that succeeds has read, and what is found at a key.
-/

namespace Refit

theorem bind_eq_ok {ε α β : Type} {x : Except ε α} {f : α → Except ε β} {b : β} :
    x >>= f = .ok b ↔ ∃ a, x = .ok a ∧ f a = .ok b := by
  cases x <;> simp [bind, Except.bind]

theorem exists_bind_of_ok {ε α β : Type} {x : Except ε α} {f : α → Except ε β} {a : α}
    (hx : x = .ok a) (hf : ∃ b, f a = .ok b) : ∃ b, x >>= f = .ok b :=
  hf.imp fun _ hb => bind_eq_ok.mpr ⟨a, hx, hb⟩

theorem exists_bind {ε α β : Type} {x : Except ε α} {f : α → Except ε β} (hx : ∃ a, x = .ok a)
    (hf : ∀ a, ∃ b, f a = .ok b) : ∃ b, x >>= f = .ok b :=
  have ⟨a, ha⟩ := hx
  exists_bind_of_ok ha (hf a)

theorem map_eq_ok {ε α β : Type} {x : Except ε α} {f : α → β} {b : β} :
    x.map f = .ok b ↔ ∃ a, x = .ok a ∧ f a = b := by
  cases x <;> simp [Except.map]

theorem pure_eq_ok {ε α : Type} {a b : α} : (pure a : Except ε α) = .ok b ↔ a = b := by
  simp [pure, Except.pure]

theorem mapError_eq_ok {ε ε' α : Type} {f : ε → ε'} {x : Except ε α} {a : α} :
    x.mapError f = .ok a ↔ x = .ok a := by
  cases x <;> simp [Except.mapError]

theorem mapM_eq_ok {ε α β : Type} {f : α → Except ε β} {xs : List α} {ys : List β} :
    xs.mapM f = .ok ys ↔ List.Forall₂ (fun x y => f x = .ok y) xs ys := by
  induction xs generalizing ys
  case nil => rw [List.mapM_nil, pure_eq_ok, List.forall₂_nil_left_iff, eq_comm]
  case cons x xs ih =>
    rw [List.mapM_cons]
    simp only [bind_eq_ok, pure_eq_ok, ih, List.forall₂_cons_left_iff]
    constructor
    · rintro ⟨y, hy, ys', hys, rfl⟩
      exact ⟨y, ys', hy, hys, rfl⟩
    · rintro ⟨y, ys', hy, hys, rfl⟩
      exact ⟨y, hy, ys', hys, rfl⟩

theorem exists_mapM_all {ε α β : Type} {f : α → Except ε β} {xs : List α} {P : β → Prop}
    (h : ∀ x ∈ xs, ∃ y, f x = .ok y ∧ P y) : ∃ ys, xs.mapM f = .ok ys ∧ ∀ y ∈ ys, P y := by
  induction xs
  case nil => exact ⟨[], rfl, nofun⟩
  case cons x xs ih =>
    have ⟨⟨y, hy, hp⟩, hxs⟩ := List.forall_mem_cons.mp h
    have ⟨ys, hys, hps⟩ := ih hxs
    exact ⟨y :: ys, mapM_eq_ok.mpr (.cons hy (mapM_eq_ok.mp hys)), List.forall_mem_cons.mpr ⟨hp, hps⟩⟩

theorem exists_mapM {ε α β : Type} {f : α → Except ε β} {xs : List α}
    (h : ∀ x ∈ xs, ∃ y, f x = .ok y) : ∃ ys, xs.mapM f = .ok ys :=
  have ⟨ys, hys, _⟩ := exists_mapM_all (P := fun _ => True) fun x hx =>
    (h x hx).imp fun _ hy => ⟨hy, trivial⟩
  ⟨ys, hys⟩

theorem exists_of_forall₂ {α β : Type} {r : α → β → Prop} {xs : List α} {ys : List β} {x : α}
    (h : List.Forall₂ r xs ys) (hx : x ∈ xs) : ∃ y ∈ ys, r x y := by
  induction h
  case nil => cases hx
  case cons x' y xs ys hr _ ih =>
    rcases List.mem_cons.mp hx with rfl | hx
    · exact ⟨y, .head _, hr⟩
    · exact (ih hx).imp fun _ ⟨hy, hr⟩ => ⟨.tail _ hy, hr⟩

theorem forall_mem_of_mapM {ε α β : Type} {f : α → Except ε β} {xs : List α} {ys : List β}
    {P : β → Prop} (h : xs.mapM f = .ok ys) (hp : ∀ x ∈ xs, ∀ y, f x = .ok y → P y) :
    ∀ y ∈ ys, P y := by
  intro y hy
  have ⟨x, hx, hxy⟩ := exists_of_forall₂ (mapM_eq_ok.mp h).flip hy
  exact hp x hx y hxy

-- How a reading of a fixed value is checked by evaluation.
theorem any_toOption {ε α : Type} {x : Except ε α} {p : α → Bool} :
    x.toOption.any p ↔ ∃ a, x = .ok a ∧ p a := by
  cases x <;> simp [Except.toOption]

theorem eq_ok_of_any {ε α : Type} [BEq α] [LawfulBEq α] {x : Except ε α} {a : α}
    (h : x.toOption.any (· == a)) : x = .ok a := by
  obtain ⟨b, hb, h⟩ := any_toOption.mp h
  rw [hb, eq_of_beq h]

-- How a reading of a fixed value that goes wrong is checked by evaluation.
theorem exists_error {ε α : Type} {x : Except ε α} {p : ε → Bool}
    (h : (match x with | .error e => p e | .ok _ => false) = true) : ∃ e, x = .error e ∧ p e := by
  match x, h with
  | .error e, h => exact ⟨e, rfl, h⟩

theorem lookup_cons_ite {κ ν : Type} [BEq κ] [LawfulBEq κ] [DecidableEq κ] {k q : κ} {v : ν}
    {es : List (κ × ν)} : ((k, v) :: es).lookup q = if q = k then some v else es.lookup q := by
  by_cases hq : q = k
  case pos => simp [hq]
  case neg => simp [List.lookup_cons, beq_eq_false_iff_ne.mpr hq, hq]

-- An entry is found at its key if all entries there are the same.
theorem lookup_of_forall {κ ν : Type} [BEq κ] [LawfulBEq κ] {k : κ} {v : ν} {es : List (κ × ν)}
    (hv : (k, v) ∈ es) (h : ∀ w, (k, w) ∈ es → w = v) : es.lookup k = some v := by
  cases hl : es.lookup k
  case none =>
    have hnone := List.lookup_eq_none_iff.mp hl _ hv
    simp at hnone
  case some w =>
    have ⟨_, _, hs, _⟩ := List.lookup_eq_some_iff.mp hl
    rw [h w (hs ▸ List.mem_append_right _ (.head _))]

theorem lookup_of_nodup {κ ν : Type} [BEq κ] [LawfulBEq κ] {k : κ} {v : ν} {es : List (κ × ν)}
    (hn : (es.map Prod.fst).Nodup) (hv : (k, v) ∈ es) : es.lookup k = some v :=
  lookup_of_forall hv fun _ hw => congrArg Prod.snd (List.inj_on_of_nodup_map hn hw hv rfl)

-- One step of putting a value at a key: it takes the place of the first entry with that key.
theorem lookup_put_step {κ ν : Type} [BEq κ] [LawfulBEq κ] [DecidableEq κ] {k p q : κ} {v w : ν}
    {es new : List (κ × ν)} {same : Bool} (hsame : same = true ↔ k = p)
    (h : new.lookup q = if q = p then some v else es.lookup q) :
    (if same then (k, v) :: es else (k, w) :: new).lookup q =
      if q = p then some v else ((k, w) :: es).lookup q := by
  split
  case isTrue hk =>
    rw [lookup_cons_ite, lookup_cons_ite, hsame.mp hk]
    split <;> rfl
  case isFalse hk =>
    rw [lookup_cons_ite, lookup_cons_ite, h]
    by_cases hq : q = p
    case pos => simp [hq, Ne.symm (hsame.not.mp hk)]
    case neg => simp [hq]

namespace Datum

@[simp]
theorem isKey_text {s : String} : (text s).isKey = true := by
  simp [isKey]

@[simp]
theorem same_text {s t : String} : (text s).same (text t) = (s == t) := by
  simp [same, bare]

theorem asKey_eq_ok {d k : Datum} : d.asKey = .ok k ↔ k = d ∧ d.isKey := by
  rw [asKey]
  split
  case isTrue h => rw [Except.ok.injEq, eq_comm, and_iff_left h]
  case isFalse h => simp [h]

theorem mapM_asKey {ds ks : List Datum} :
    ds.mapM asKey = .ok ks ↔ ks = ds ∧ ∀ d ∈ ds, d.isKey := by
  simp only [mapM_eq_ok, asKey_eq_ok]
  induction ds generalizing ks
  case nil => simp
  case cons d ds ih =>
    simp only [List.forall₂_cons_left_iff, ih, List.forall_mem_cons]
    constructor
    · rintro ⟨_, _, ⟨rfl, hd⟩, ⟨rfl, h⟩, rfl⟩
      exact ⟨rfl, hd, h⟩
    · rintro ⟨rfl, hd, h⟩
      exact ⟨_, _, ⟨rfl, hd⟩, ⟨rfl, h⟩, rfl⟩

end Datum

namespace Dict

variable {es fs : Dict} {k v w : Datum}

theorem mem_values_put (h : w ∈ (es.put k v).map Prod.snd) :
    w = v ∨ w ∈ es.map Prod.snd := by
  induction es
  case nil => exact .inl (List.mem_singleton.mp h)
  case cons e es ih =>
    have ⟨k', v'⟩ := e
    rw [Dict.put] at h
    split at h
    case isTrue => exact (List.mem_cons.mp h).imp_right (.tail _)
    case isFalse =>
      rcases List.mem_cons.mp h with h | h
      · exact .inr (h ▸ .head _)
      · exact (ih h).imp_right (.tail _)

theorem mem_values_putAll (h : w ∈ (es.putAll fs).map Prod.snd) :
    w ∈ es.map Prod.snd ∨ w ∈ fs.map Prod.snd := by
  induction fs generalizing es
  case nil => exact .inl h
  case cons f fs ih =>
    rcases ih h with h | h
    · rcases mem_values_put h with h | h
      · exact .inr (h ▸ .head _)
      · exact .inl h
    · exact .inr (.tail _ h)

theorem mem_of_at? (h : Dict.at? es k = some v) : v ∈ es.map Prod.snd := by
  have ⟨e, he, hv⟩ := Option.map_eq_some_iff.mp h
  exact List.mem_map.mpr ⟨e, List.mem_of_find?_eq_some he, hv⟩

theorem mem_of_get? {key : String} (h : es.get? key = some v) : v ∈ es.map Prod.snd := by
  fun_induction Dict.get? es key
  case case1 => cases h
  case case2 => exact Option.some.inj h ▸ .head _
  case case3 ih => exact .tail _ (ih h)
  case case4 ih => exact .tail _ (ih h)

end Dict

end Refit
