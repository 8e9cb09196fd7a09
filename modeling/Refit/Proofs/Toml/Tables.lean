import Refit.Proofs.Config.Paths
import Refit.Toml.Reader

/-!
What a TOML document is read as: a table without `null` in which every name stands once, and so are
all tables inside it.
-/

namespace Refit.Toml

open Config (Keyed)

variable {lists : Bool} {ks path : List String} {f : Dict → Option Dict} {t u : Dict} {v : Datum}
  {s r : Rest}

/-! Tables -/

theorem keyed_list {xs : List Datum} : Keyed (.list xs) :=
  .leaf nofun nofun

theorem keyed_alter (h : Keyed (.dict t))
    (hf : ∀ a b, Keyed (.dict a) → f a = some b → Keyed (.dict b))
    (hu : alter lists ks f t = some u) : Keyed (.dict u) := by
  induction ks generalizing t u
  case nil => exact hf t u h hu
  case cons k ks ih =>
    rw [alter] at hu
    split at hu
    case h_1 =>
      obtain ⟨w, hw, rfl⟩ := Option.map_eq_some_iff.mp hu
      exact h.set (ih .nil hw)
    case h_2 es hes =>
      obtain ⟨w, hw, rfl⟩ := Option.map_eq_some_iff.mp hu
      exact h.set (ih (h.of_get? hes) hw)
    case h_3 =>
      split at hu
      case h_1 =>
        obtain ⟨w, _, rfl⟩ := Option.map_eq_some_iff.mp hu
        exact h.set keyed_list
      case h_2 => cases hu
    case h_4 => cases hu

theorem keyed_addEntry (h : Keyed (.dict t)) (hv : Keyed v) (hu : addEntry lists path v t = some u) :
    Keyed (.dict u) := by
  refine keyed_alter h (fun a b ha hb => ?_) hu
  dsimp only at hb
  split at hb
  case isTrue => cases hb
  case isFalse => exact Option.some.inj hb ▸ ha.set hv

theorem keyed_addTable (h : Keyed (.dict t)) (hu : addTable path t = some u) : Keyed (.dict u) := by
  refine keyed_alter h (fun a b ha hb => ?_) hu
  dsimp only at hb
  split at hb
  case h_1 => exact Option.some.inj hb ▸ ha.set keyed_list
  case h_2 => exact Option.some.inj hb ▸ ha.set keyed_list
  case h_3 => cases hb

/-! Values -/

theorem orMalformed_eq_ok {α : Type} {o : Option α} {a : α} : orMalformed o = .ok a ↔ o = some a := by
  cases o
  case none => exact ⟨nofun, nofun⟩
  case some b => simp [orMalformed]

theorem keyed_word (h : word? s = some (v, r)) : Keyed v := by
  rw [word?] at h
  split at h
  case isTrue => exact (Prod.mk.inj (Option.some.inj h)).1 ▸ .leaf nofun nofun
  case isFalse =>
    split at h
    case isTrue => exact (Prod.mk.inj (Option.some.inj h)).1 ▸ .leaf nofun nofun
    case isFalse => cases h

theorem keyed_moment (h : moment? s = some (.ok (v, r))) : Keyed v := by
  obtain ⟨⟨date, rest⟩, _, h⟩ := Option.bind_eq_some_iff.mp h
  replace h := Option.some.inj h
  split at h
  case h_1 => cases h
  case h_2 =>
    split at h
    case h_1 => exact (Prod.mk.inj (Except.ok.inj h)).1 ▸ .leaf nofun nofun
    case h_2 => exact (Prod.mk.inj (Except.ok.inj h)).1 ▸ .leaf nofun nofun

theorem keyed_decimal (h : decimal? s = some (.ok (v, r))) : Keyed v := by
  rw [decimal?] at h
  obtain ⟨⟨ws, rest⟩, _, h⟩ := Option.bind_eq_some_iff.mp h
  dsimp only at h
  split at h
  case isTrue =>
    split at h
    case isTrue => cases Option.some.inj h
    case isFalse =>
      exact (Prod.mk.inj (Except.ok.inj (Option.some.inj h))).1 ▸ .leaf nofun nofun
  case isFalse =>
    obtain ⟨x, _, h⟩ := Option.bind_eq_some_iff.mp h
    exact (Prod.mk.inj (Except.ok.inj (Option.some.inj h))).1 ▸ .leaf nofun nofun

theorem keyed_number (h : number? s = some (.ok (v, r))) : Keyed v := by
  rw [number?] at h
  split at h
  case h_1 => exact (Prod.mk.inj (Except.ok.inj (Option.some.inj h))).1 ▸ .leaf nofun nofun
  case h_2 => exact keyed_decimal h

theorem keyed_special (h : special? s = some (v, r)) : Keyed v := by
  obtain ⟨w, _, h⟩ := Option.map_eq_some_iff.mp h
  exact (Prod.mk.inj h).1 ▸ .leaf nofun nofun

theorem keyed_scalar (h : scalar s = .ok (v, r)) : Keyed v := by
  rw [scalar] at h
  split at h
  case h_1 =>
    obtain ⟨⟨_, _⟩, _, heq⟩ := map_eq_ok.mp h
    exact (Prod.mk.inj heq).1 ▸ .leaf nofun nofun
  case h_2 =>
    split at h
    case h_1 hword => exact keyed_word (Except.ok.inj h ▸ hword)
    case h_2 =>
      split at h
      case h_1 hmoment => exact keyed_moment (h ▸ hmoment)
      case h_2 =>
        split at h
        case h_1 => exact (Prod.mk.inj (Except.ok.inj h)).1 ▸ .leaf nofun nofun
        case h_2 =>
          split at h
          case h_1 hnumber => exact keyed_number (h ▸ hnumber)
          case h_2 => exact keyed_special (orMalformed_eq_ok.mp h)

-- Values of any depth, and the entries of tables that are written as values.
theorem keyed_values (n : Nat) :
    (∀ room s v r, value room n s = .ok (v, r) → Keyed v) ∧
    (∀ room s g t u r, Keyed (.dict t) → entries room n s g t = .ok (u, r) → Keyed (.dict u)) ∧
    ∀ room s v r, valueOfKey room n s = .ok (v, r) → Keyed v := by
  induction n
  case zero => exact ⟨nofun, nofun, nofun⟩
  case succ n ih =>
    obtain ⟨hvalue, hentries, hofKey⟩ := ih
    refine ⟨fun room s v r h => ?_, fun room s g t u r ht h => ?_, fun room s v r h => ?_⟩
    case refine_1 =>
      rw [value.eq_def] at h
      split at h
      case h_1 => cases h
      case h_2 =>
        obtain ⟨_, _, h⟩ := bind_eq_ok.mp h
        obtain ⟨_, _, h⟩ := bind_eq_ok.mp h
        split at h
        case h_1 => exact (Prod.mk.inj (pure_eq_ok.mp h)).1 ▸ keyed_list
        case h_2 =>
          obtain ⟨_, _, h⟩ := bind_eq_ok.mp h
          exact (Prod.mk.inj (pure_eq_ok.mp h)).1 ▸ keyed_list
      case h_3 heq =>
        obtain rfl := Nat.succ.inj heq
        obtain ⟨_, _, h⟩ := bind_eq_ok.mp h
        split at h
        case h_1 => exact (Prod.mk.inj (pure_eq_ok.mp h)).1 ▸ .nil
        case h_2 =>
          obtain ⟨⟨t, r⟩, ht, h⟩ := bind_eq_ok.mp h
          exact (Prod.mk.inj (pure_eq_ok.mp h)).1 ▸ hentries _ _ {} _ _ _ .nil ht
      case h_4 => exact keyed_scalar h
    case refine_2 =>
      rw [entries] at h
      obtain ⟨⟨path, _⟩, _, h⟩ := bind_eq_ok.mp h
      obtain ⟨⟨v, _⟩, hv, h⟩ := bind_eq_ok.mp h
      dsimp only at h
      split at h
      case isTrue => cases h
      case isFalse =>
        obtain ⟨t', ht', h⟩ := bind_eq_ok.mp h
        have hkeyed := keyed_addEntry ht (hofKey _ _ _ _ hv) (orMalformed_eq_ok.mp ht')
        split at h
        case h_1 => exact (Prod.mk.inj (pure_eq_ok.mp h)).1 ▸ hkeyed
        case h_2 => exact hentries _ _ _ _ _ _ hkeyed h
        case h_3 => cases h
    case refine_3 =>
      rw [valueOfKey.eq_def] at h
      split at h
      case h_1 => cases h
      case h_2 heq =>
        obtain rfl := Nat.succ.inj heq
        exact hvalue _ _ _ _ h
      case h_3 => cases h

theorem keyed_valueOfKey {room n : Nat} (h : valueOfKey room n s = .ok (v, r)) : Keyed v :=
  (keyed_values n).2.2 room s v r h

/-! Documents -/

variable {d d' : Draft}

theorem Draft.keyed_entry (h : Keyed (.dict d.table)) (hv : Keyed v) (he : d.entry path v = some d') :
    Keyed (.dict d'.table) := by
  rw [entry] at he
  dsimp only at he
  split at he
  case isTrue => cases he
  case isFalse =>
    split at he
    case isTrue => cases he
    case isFalse =>
      obtain ⟨t, ht, rfl⟩ := Option.map_eq_some_iff.mp he
      exact keyed_addEntry h hv ht

theorem Draft.keyed_section (h : Keyed (.dict d.table)) (he : d.section_ path = some d') :
    Keyed (.dict d'.table) := by
  rw [section_] at he
  split at he
  case isTrue => cases he
  case isFalse =>
    obtain ⟨t, ht, rfl⟩ := Option.map_eq_some_iff.mp he
    exact keyed_alter h (fun a b ha hb => Option.some.inj hb ▸ ha) ht

theorem Draft.keyed_sectionInList (h : Keyed (.dict d.table)) (he : d.sectionInList path = some d') :
    Keyed (.dict d'.table) := by
  rw [sectionInList] at he
  split at he
  case isTrue => cases he
  case isFalse =>
    obtain ⟨t, ht, rfl⟩ := Option.map_eq_some_iff.mp he
    exact keyed_addTable h ht

theorem keyed_line (h : Keyed (.dict d.table)) (hl : line s d = .ok (d', r)) :
    Keyed (.dict d'.table) := by
  rw [line.eq_def] at hl
  split at hl
  case h_1 =>
    obtain ⟨_, _, hl⟩ := bind_eq_ok.mp hl
    obtain ⟨e, he, hl⟩ := bind_eq_ok.mp hl
    split at hl
    case h_1 =>
      exact (Prod.mk.inj (pure_eq_ok.mp hl)).1 ▸ Draft.keyed_sectionInList h (orMalformed_eq_ok.mp he)
    case h_2 => cases hl
  case h_2 =>
    obtain ⟨_, _, hl⟩ := bind_eq_ok.mp hl
    obtain ⟨e, he, hl⟩ := bind_eq_ok.mp hl
    split at hl
    case h_1 =>
      exact (Prod.mk.inj (pure_eq_ok.mp hl)).1 ▸ Draft.keyed_section h (orMalformed_eq_ok.mp he)
    case h_2 => cases hl
  case h_3 =>
    obtain ⟨_, _, hl⟩ := bind_eq_ok.mp hl
    obtain ⟨_, hv, hl⟩ := bind_eq_ok.mp hl
    obtain ⟨e, he, hl⟩ := bind_eq_ok.mp hl
    exact (Prod.mk.inj (pure_eq_ok.mp hl)).1 ▸
      Draft.keyed_entry h (keyed_valueOfKey hv) (orMalformed_eq_ok.mp he)

-- What comes after a line keeps to the table that the line left.
theorem keyed_afterLine {n : Nat} {r : Rest} (h : Keyed (.dict d.table))
    (hlines : ∀ {s}, lines n s d = .ok t → Keyed (.dict t))
    (hl : (do
      match ← comment r with
      | [] => return d.table
      | '\n' :: r => lines n r d
      | _ => malformed) = Except.ok t) : Keyed (.dict t) := by
  obtain ⟨_, _, hl⟩ := bind_eq_ok.mp hl
  split at hl
  case h_1 => exact pure_eq_ok.mp hl ▸ h
  case h_2 => exact hlines hl
  case h_3 => cases hl

theorem keyed_lines {n : Nat} (h : Keyed (.dict d.table)) (hl : lines n s d = .ok t) :
    Keyed (.dict t) := by
  induction n generalizing s d
  case zero => exact Except.ok.inj hl ▸ h
  case succ n ih =>
    rw [lines] at hl
    split at hl
    case h_1 => exact Except.ok.inj hl ▸ h
    case h_2 => exact ih h hl
    case h_3 =>
      dsimp only at hl
      split at hl
      case h_1 => exact keyed_afterLine h (ih h) hl
      case h_2 =>
        obtain ⟨_, hd, hl⟩ := bind_eq_ok.mp hl
        exact keyed_afterLine (keyed_line h hd) (ih (keyed_line h hd)) hl

theorem keyed_read {text : String} (h : read text = .ok t) : Keyed (.dict t) :=
  keyed_lines .nil h

end Refit.Toml
