import Refit.Proofs.Datum.Basic
import Refit.Datum.Identity

/-!
Values with numbers, and the plain values that they show.

Tidy values are those that plans are made of: truth values, short integers, texts, lists, and
mappings whose keys are texts. To number the collections of a tidy value changes nothing about what
is read of it.
-/

namespace Refit.Datum

open Supply (Number)

def IsText (d : Datum) : Prop :=
  ∃ s, d = text s

-- A list or a mapping.
def isBlock : Datum → Bool
  | list _ | dict _ => true
  | _ => false

mutual

-- A tidy value, in which lists and mappings may have numbers or not.
def Tidy (numbers : Bool) : Datum → Prop
  | null | bool _ | text _ => True
  | int i => isWritable i
  | list xs => AllTidy numbers xs
  | dict es => EntriesTidy numbers es
  | shared _ d => numbers ∧ d.isBlock ∧ Tidy numbers d
  | _ => False

def AllTidy (numbers : Bool) : List Datum → Prop
  | [] => True
  | x :: xs => Tidy numbers x ∧ AllTidy numbers xs

def EntriesTidy (numbers : Bool) : List (Datum × Datum) → Prop
  | [] => True
  | (k, v) :: es => k.IsText ∧ Tidy numbers v ∧ EntriesTidy numbers es

end

-- A value with numbers shows the value without them.
structure Shows (d' d : Datum) : Prop where
  tidy : d'.Tidy true
  unshared : d'.unshared = .ok d

variable {d d' : Datum} {xs ys : List Datum} {es fs : Dict} {numbers : Bool}

theorem allTidy_iff : AllTidy numbers xs ↔ ∀ x ∈ xs, x.Tidy numbers := by
  induction xs
  case nil => simp [AllTidy]
  case cons x xs ih => rw [AllTidy, ih, List.forall_mem_cons]

theorem entriesTidy_iff :
    EntriesTidy numbers es ↔ ∀ e ∈ es, e.1.IsText ∧ e.2.Tidy numbers := by
  induction es
  case nil => simp [EntriesTidy]
  case cons e es ih =>
    have ⟨k, v⟩ := e
    rw [EntriesTidy, ih, List.forall_mem_cons, and_assoc]

/-! Opening -/

mutual

theorem refilled_of_tidy {n : Nat} {whole : Datum} :
    (d : Datum) → d.Tidy numbers → refilled n whole d = d
  | null, _ | bool _, _ | int _, _ | float _, _ | text _, _ | bytes _, _ | date _, _ | time _, _
  | moment _ _, _ | set _, _ => rfl
  | list xs, h => congrArg list (refilledList_of_tidy xs h)
  | dict es, h => congrArg dict (refilledEntries_of_tidy es h)
  | shared m d, h => by
    rw [refilled]
    split
    · rfl
    · rw [refilled_of_tidy d h.2.2]

theorem refilledList_of_tidy {n : Nat} {whole : Datum} :
    (xs : List Datum) → AllTidy numbers xs → refilledList n whole xs = xs
  | [], _ => rfl
  | x :: xs, h => by rw [refilledList, refilled_of_tidy x h.1, refilledList_of_tidy xs h.2]

theorem refilledEntries_of_tidy {n : Nat} {whole : Datum} :
    (es : Dict) → EntriesTidy numbers es → refilledEntries n whole es = es
  | [], _ => rfl
  | (k, v) :: es, h => by
    rw [refilledEntries, refilled_of_tidy v h.2.1, refilledEntries_of_tidy es h.2.2]

end

theorem opened_of_tidy {n : Nat} (h : (shared n d).Tidy numbers) : (shared n d).opened = d := by
  rw [opened, refilled_of_tidy d h.2.2]

/-! Taking the numbers off -/

mutual

theorem unshared_of_tidy : (d : Datum) → d.Tidy false → d.unshared = .ok d
  | null, _ | bool _, _ | int _, _ | text _, _ => rfl
  | list xs, h => by rw [unshared, unsharedList_of_tidy xs h]; rfl
  | dict es, h => by rw [unshared, unsharedEntries_of_tidy es h]; rfl
  | shared _ _, h => by cases h.1

theorem unsharedList_of_tidy : (xs : List Datum) → AllTidy false xs → unsharedList xs = .ok xs
  | [], _ => rfl
  | x :: xs, h => by
    rw [unsharedList, unshared_of_tidy x h.1, unsharedList_of_tidy xs h.2]
    rfl

theorem unsharedEntries_of_tidy :
    (es : Dict) → EntriesTidy false es → unsharedEntries es = .ok es
  | [], _ => rfl
  | (k, v) :: es, h => by
    obtain ⟨⟨s, rfl⟩, hv, hes⟩ := h
    rw [unsharedEntries, unshared_of_tidy v hv, unsharedEntries_of_tidy es hes]
    rfl

end

-- Entries with numbers show entries without them.
abbrev EntriesShow (fs es : Dict) : Prop :=
  List.Forall₂ (fun f e => f.1 = e.1 ∧ e.1.IsText ∧ Shows f.2 e.2) fs es

theorem allShow_iff : List.Forall₂ Shows ys xs ↔ AllTidy true ys ∧ unsharedList ys = .ok xs := by
  induction ys generalizing xs
  case nil => simp [AllTidy, unsharedList, eq_comm]
  case cons y ys ih =>
    simp only [List.forall₂_cons_left_iff, ih, AllTidy, unsharedList, bind_eq_ok, pure_eq_ok]
    constructor
    · rintro ⟨x, xs, ⟨hy, hx⟩, ⟨hys, hxs⟩, rfl⟩
      exact ⟨⟨hy, hys⟩, x, hx, xs, hxs, rfl⟩
    · rintro ⟨⟨hy, hys⟩, x, hx, xs, hxs, rfl⟩
      exact ⟨x, xs, ⟨hy, hx⟩, ⟨hys, hxs⟩, rfl⟩

theorem entriesShow_iff :
    EntriesShow fs es ↔ EntriesTidy true fs ∧ unsharedEntries fs = .ok es := by
  induction fs generalizing es
  case nil => simp [EntriesTidy, unsharedEntries, eq_comm]
  case cons f fs ih =>
    have ⟨k, v⟩ := f
    simp only [List.forall₂_cons_left_iff, ih, EntriesTidy, unsharedEntries, bind_eq_ok, pure_eq_ok]
    constructor
    · rintro ⟨⟨_, w⟩, es, ⟨rfl, ⟨s, rfl⟩, hv, hw⟩, ⟨hfs, hes⟩, rfl⟩
      exact ⟨⟨⟨s, rfl⟩, hv, hfs⟩, text s, rfl, w, hw, es, hes, rfl⟩
    · rintro ⟨⟨⟨s, rfl⟩, hv, hfs⟩, k', hk, w, hw, es, hes, rfl⟩
      cases hk
      exact ⟨(text s, w), es, ⟨rfl, ⟨s, rfl⟩, hv, hw⟩, ⟨hfs, hes⟩, rfl⟩

namespace Shows

theorem isBlock_of_unshared (ht : d'.isBlock) (hu : d'.unshared = .ok d) : d.isBlock := by
  cases d'
  case list => have ⟨_, _, h⟩ := map_eq_ok.mp hu; exact h ▸ rfl
  case dict => have ⟨_, _, h⟩ := map_eq_ok.mp hu; exact h ▸ rfl
  all_goals cases ht

-- Values that are no collections have no number.
theorem eq_of_not_isBlock (h : Shows d' d) (hd : d.isBlock = false) : d' = d := by
  have ⟨ht, hu⟩ := h
  cases d'
  case list => simp [isBlock_of_unshared rfl hu] at hd
  case dict => simp [isBlock_of_unshared rfl hu] at hd
  case shared => simp [isBlock_of_unshared ht.2.1 hu] at hd
  case tuple => cases ht
  case around => cases ht
  all_goals exact Except.ok.inj hu

theorem exists_list (h : Shows d' (list xs)) : ∃ ys,
    (d' = list ys ∨ ∃ n, d' = shared n (list ys)) ∧ List.Forall₂ Shows ys xs := by
  have ⟨ht, hu⟩ := h
  have hown {ys : List Datum} (ht : (list ys).Tidy true) (hu : (list ys).unshared = .ok (list xs)) :
      List.Forall₂ Shows ys xs := by
    obtain ⟨xs', hxs, h⟩ := map_eq_ok.mp hu
    exact allShow_iff.mpr ⟨ht, list.inj h ▸ hxs⟩
  cases d'
  case list ys => exact ⟨ys, .inl rfl, hown ht hu⟩
  case shared n d =>
    cases d
    case list ys => exact ⟨ys, .inr ⟨n, rfl⟩, hown ht.2.2 hu⟩
    case dict => have ⟨_, _, h⟩ := map_eq_ok.mp hu; cases h
    all_goals cases ht.2.1
  case dict => have ⟨_, _, h⟩ := map_eq_ok.mp hu; cases h
  case tuple => cases ht
  case around => cases ht
  all_goals cases hu

theorem exists_dict (h : Shows d' (dict es)) : ∃ fs,
    (d' = dict fs ∨ ∃ n, d' = shared n (dict fs)) ∧ EntriesShow fs es := by
  have ⟨ht, hu⟩ := h
  have hown {fs : Dict} (ht : (dict fs).Tidy true) (hu : (dict fs).unshared = .ok (dict es)) :
      EntriesShow fs es := by
    obtain ⟨es', hes, h⟩ := map_eq_ok.mp hu
    exact entriesShow_iff.mpr ⟨ht, dict.inj h ▸ hes⟩
  cases d'
  case dict fs => exact ⟨fs, .inl rfl, hown ht hu⟩
  case shared n d =>
    cases d
    case dict fs => exact ⟨fs, .inr ⟨n, rfl⟩, hown ht.2.2 hu⟩
    case list => have ⟨_, _, h⟩ := map_eq_ok.mp hu; cases h
    all_goals cases ht.2.1
  case list => have ⟨_, _, h⟩ := map_eq_ok.mp hu; cases h
  case tuple => cases ht
  case around => cases ht
  all_goals cases hu

theorem opened_list (h : Shows d' (list xs)) :
    ∃ ys, d'.opened = list ys ∧ List.Forall₂ Shows ys xs := by
  obtain ⟨ys, rfl | ⟨n, rfl⟩, hshow⟩ := h.exists_list
  · exact ⟨ys, rfl, hshow⟩
  · exact ⟨ys, opened_of_tidy h.tidy, hshow⟩

theorem opened_dict (h : Shows d' (dict es)) :
    ∃ fs, d'.opened = dict fs ∧ EntriesShow fs es := by
  obtain ⟨fs, rfl | ⟨n, rfl⟩, hshow⟩ := h.exists_dict
  · exact ⟨fs, rfl, hshow⟩
  · exact ⟨fs, opened_of_tidy h.tidy, hshow⟩

-- Mappings count as absent by what they show.
theorem truthy_dict (h : Shows d' (dict es)) : d'.truthy = !es.isEmpty := by
  obtain ⟨fs, hd, hshow⟩ := h.exists_dict
  have hempty : fs.isEmpty = es.isEmpty := by cases hshow <;> rfl
  rcases hd with rfl | ⟨n, rfl⟩
  · exact congrArg _ hempty
  · exact congrArg _ hempty

theorem exists_items (h : Shows d' (list xs)) :
    ∃ ys, d'.items = .ok ys ∧ List.Forall₂ Shows ys xs := by
  have ⟨ys, hys, hshow⟩ := h.opened_list
  exact ⟨ys, by rw [items, hys], hshow⟩

theorem exists_entries? (h : Shows d' (dict es)) :
    ∃ fs, d'.entries? = some fs ∧ EntriesShow fs es := by
  have ⟨fs, hfs, hshow⟩ := h.opened_dict
  exact ⟨fs, by rw [entries?, hfs], hshow⟩

theorem exists_get? {key : String} {v : Datum} (h : EntriesShow fs es) (hv : es.get? key = some v) :
    ∃ v', fs.get? key = some v' ∧ Shows v' v := by
  induction h
  case nil => cases hv
  case cons f e fs es hfe _ ih =>
    rcases f with ⟨_, w'⟩
    rcases e with ⟨k, w⟩
    obtain ⟨rfl, ⟨s, rfl⟩, hw⟩ := hfe
    rw [Dict.get?] at hv ⊢
    split at hv
    case isTrue hs => exact ⟨w', if_pos hs, Option.some.inj hv ▸ hw⟩
    case isFalse hs =>
      rw [if_neg hs]
      exact ih hv

theorem exists_field {key : String} {v : Datum} (h : Shows d' (dict es))
    (hv : es.get? key = some v) : ∃ v', d'.field key = .ok v' ∧ Shows v' v := by
  have ⟨fs, hfs, hshow⟩ := h.opened_dict
  have ⟨v', hv', hw⟩ := exists_get? hshow hv
  exact ⟨v', by rw [field, hfs]; simp [hv'], hw⟩

end Shows

/-! Numbering -/

mutual

-- Only lists and mappings of a tidy value get a number.
theorem number_shows : (d : Datum) → d.Tidy false → (st : Supply) →
    Shows ((number false d).run st).1 d
  | null, _, _ | bool _, _, _ | text _, _, _ => ⟨trivial, rfl⟩
  | int _, h, _ => ⟨h, rfl⟩
  | list xs, h, st => by
    have ⟨ht, hu⟩ := allShow_iff.mp (numberAll_shows xs h { st with cursor := st.cursor + 1 })
    exact ⟨⟨rfl, rfl, ht⟩, map_eq_ok.mpr ⟨xs, hu, rfl⟩⟩
  | dict es, h, st => by
    have ⟨ht, hu⟩ :=
      entriesShow_iff.mp (numberEntries_shows es h { st with cursor := st.cursor + 1 })
    exact ⟨⟨rfl, rfl, ht⟩, map_eq_ok.mpr ⟨es, hu, rfl⟩⟩
  | shared _ _, h, _ => by cases h.1

theorem numberAll_shows : (xs : List Datum) → AllTidy false xs → (st : Supply) →
    List.Forall₂ Shows ((numberAll xs).run st).1 xs
  | [], _, _ => .nil
  | x :: xs, h, st =>
    .cons (number_shows x h.1 st) (numberAll_shows xs h.2 ((number false x).run st).2)

theorem numberEntries_shows : (es : Dict) → EntriesTidy false es → (st : Supply) →
    EntriesShow ((numberEntries es).run st).1 es
  | [], _, _ => .nil
  | (k, v) :: es, h, st => by
    obtain ⟨⟨s, rfl⟩, hv, hes⟩ := h
    exact .cons ⟨rfl, ⟨s, rfl⟩, number_shows v hv st⟩
      (numberEntries_shows es hes ((number false v).run st).2)

end

theorem numbered_shows (h : ∀ x ∈ xs, x.Tidy false) : List.Forall₂ Shows (numbered xs) xs :=
  numberAll_shows xs (allTidy_iff.mpr h) _

end Refit.Datum
