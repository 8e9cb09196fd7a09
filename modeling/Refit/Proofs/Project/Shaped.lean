import Refit.Proofs.Project.Stored
import Refit.Service

/-!
What can be wrong with a stored snapshot whose sections are mappings.

Values of the wrong kinds are unfit in a way that the caller is told of. Other faults come of a
section that is no mapping, and of numbers that are too large.
-/

namespace Refit

open Datum (Read)
open ToolRequest (isUnfit)

-- A reading that finds nothing wrong but what a caller is told of.
def Unfit {α : Type} (r : Read α) : Prop :=
  ∀ f, r = .error f → isUnfit f

variable {α β : Type} {d v : Datum} {es fs : Dict} {xs : List Datum} {key : String}
  {fallback : Datum}

namespace Unfit

variable {r : Read α} {g : α → Read β}

theorem of_ok {a : α} : Unfit (.ok a : Read α) :=
  nofun

theorem of_error {f : Fault} (h : isUnfit f) : Unfit (.error f : Read α) := by
  intro e he
  cases he
  exact h

theorem bind (hr : Unfit r) (hg : ∀ a, r = .ok a → Unfit (g a)) : Unfit (r >>= g) := by
  cases r
  case ok a => exact hg a rfl
  case error f =>
    intro e he
    cases he
    exact hr f rfl

theorem map {f : α → β} (hr : Unfit r) : Unfit (r.map f) := by
  cases r
  case ok => exact of_ok
  case error f =>
    intro e he
    cases he
    exact hr f rfl

theorem mapM {f : α → Read β} {as : List α} (h : ∀ a ∈ as, Unfit (f a)) : Unfit (as.mapM f) := by
  induction as
  case nil => exact of_ok
  case cons a as ih =>
    have ⟨ha, has⟩ := List.forall_mem_cons.mp h
    rw [List.mapM_cons]
    apply bind ha
    intro b _
    apply bind (ih has)
    intro bs _
    exact of_ok

end Unfit

/-! Parts of values -/

namespace Datum

theorem items_unfit : Unfit d.items := by
  rw [items]
  split
  all_goals first | exact .of_ok | exact .of_error rfl

theorem asKey_unfit : Unfit d.asKey := by
  rw [asKey]
  split
  · exact .of_ok
  · exact .of_error rfl

theorem absorbFrom_unfit {n : Nat} : Unfit (absorbFrom n xs es).1 := by
  induction xs generalizing n es
  case nil => exact .of_ok
  case cons x xs ih =>
    rw [absorbFrom]
    split
    · exact .of_error rfl
    · split
      case h_1 hk =>
        intro f hf
        cases hf
        exact asKey_unfit _ hk
      case h_2 => exact ih
    · exact .of_error rfl

theorem toDict_unfit : Unfit d.toDict := by
  rw [toDict]
  split
  case h_1 => exact .of_ok
  case h_2 =>
    split
    case h_1 => exact .of_ok
    case h_2 f _ habsorb =>
      intro e he
      cases he
      rw [absorb] at habsorb
      split at habsorb
      case h_1 => cases habsorb
      case h_2 =>
        split at habsorb
        case h_1 hitems => cases habsorb; exact items_unfit _ hitems
        case h_2 ys _ => exact absorbFrom_unfit _ (congrArg Prod.fst habsorb)

theorem joinTexts_unfit {sep : String} : Unfit (joinTexts sep xs) := by
  have hgo {n : Nat} : Unfit (joinTexts.go n xs) := by
    induction xs generalizing n
    case nil => exact .of_ok
    case cons x xs ih =>
      rw [joinTexts.go.eq_def]
      split
      case h_1 => exact .of_ok
      case h_2 heq => cases heq; exact ih.map
      case h_3 => exact .of_error rfl
  exact hgo.map

theorem field_unfit : Unfit (d.field key) := by
  rw [field]
  split
  case h_1 =>
    split
    · exact .of_ok
    · exact .of_error rfl
  all_goals exact .of_error rfl

theorem entries?_of_field (h : d.field key = .ok v) : ∃ es, d.entries? = some es := by
  rw [field] at h
  split at h
  case h_1 es hd => exact ⟨es, by rw [entries?, hd]⟩
  all_goals cases h

theorem toInt_unfit (h : ∀ x, d = float x → x.isInf = false) : Unfit d.toInt := by
  rw [toInt.eq_def]
  split
  case h_3 x =>
    rw [floatInteger, h x rfl]
    split
    · exact .of_error rfl
    · exact .of_ok
  case h_4 =>
    rw [readInteger]
    split
    · exact .of_ok
    · exact .of_error rfl
    · exact .of_error rfl
  case h_5 => exact .of_error rfl
  all_goals exact .of_ok

theorem toFloat_unfit (h : ∀ i, d = int i → i.natAbs < floatLimit) : Unfit d.toFloat := by
  rw [toFloat.eq_def]
  split
  case h_2 i =>
    rw [integerFloat, if_neg (Nat.not_le.mpr (h i rfl))]
    exact .of_ok
  case h_4 =>
    split
    · exact .of_ok
    · exact .of_error rfl
  case h_5 => exact .of_error rfl
  all_goals exact .of_ok

end Datum

/-! Fields of mappings -/

namespace Record

theorem optional_unfit (h : d.entries? = some es) : Unfit (optional d key fallback) := by
  rw [Datum.optional_of_entries? h]
  exact .of_ok

theorem flag_unfit {b : Bool} (h : d.entries? = some es) : Unfit (flag d key b) :=
  .bind (optional_unfit h) fun _ _ => .of_ok

theorem orElse_unfit (h : d.entries? = some es) : Unfit (orElse d key fallback) :=
  .bind (optional_unfit h) fun _ _ => .of_ok

theorem items_unfit (h : d.entries? = some es) : Unfit (items d key) :=
  .bind (optional_unfit h) fun _ _ => Datum.items_unfit

theorem each_unfit {read : Datum → Read α} (h : d.entries? = some es)
    (hread : ∀ ds, (es.get key (.list [])).items = .ok ds → ∀ x ∈ ds, Unfit (read x)) :
    Unfit (each d key read) := by
  refine .bind (items_unfit h) fun ds hds => ?_
  rw [items, Datum.optional_of_entries? h] at hds
  exact .mapM (hread ds hds)

-- The entries of a section, which are none where it is absent.
theorem orElse_section (h : d.entries? = some es) (hs : (es.get key).IsSection)
    (hv : orElse d key (.dict []) = .ok v) :
    ∃ fs, v.entries? = some fs ∧ (fs = [] ∨ (es.get key).entries? = some fs) := by
  rw [orElse, Datum.optional_of_entries? h] at hv
  obtain rfl := Except.ok.inj hv
  rw [Datum.orElse]
  split
  case isTrue ht =>
    obtain ⟨fs, hfs⟩ := Option.isSome_iff_exists.mp (hs ht)
    exact ⟨fs, hfs, .inr hfs⟩
  case isFalse => exact ⟨[], rfl, .inl rfl⟩

end Record

/-! Classes -/

theorem Field.ofDatum_unfit : Unfit (Field.ofDatum d) :=
  .bind Datum.field_unfit fun _ hname =>
    have ⟨_, h⟩ := Datum.entries?_of_field hname
    .bind (Record.optional_unfit h) fun _ _ => .bind (Record.flag_unfit h) fun _ _ =>
      .bind (Record.optional_unfit h) fun _ _ => .bind (Record.items_unfit h) fun _ _ => .of_ok

theorem Relationship.ofDatum_unfit : Unfit (Relationship.ofDatum d) :=
  .bind Datum.field_unfit fun _ _ => .bind Datum.field_unfit fun _ _ =>
    .bind Datum.field_unfit fun _ _ => .of_ok

theorem Model.ofDatum_unfit : Unfit (Model.ofDatum d) :=
  .bind Datum.field_unfit fun _ hname =>
    have ⟨_, h⟩ := Datum.entries?_of_field hname
    .bind (Record.optional_unfit h) fun _ _ =>
      .bind (Record.each_unfit h fun _ _ _ _ => Field.ofDatum_unfit) fun _ _ =>
        .bind (Record.items_unfit h) fun _ _ =>
          .bind (Record.each_unfit h fun _ _ _ _ => Relationship.ofDatum_unfit) fun _ _ =>
            .bind (Record.flag_unfit h) fun _ _ => .bind (Record.flag_unfit h) fun _ _ => .of_ok

theorem Scaffold.ofDatum_unfit (h : d.entries? = some es) : Unfit (Scaffold.ofDatum d) :=
  .bind (Record.flag_unfit h) fun _ _ => .bind (Record.flag_unfit h) fun _ _ =>
    .bind (Record.flag_unfit h) fun _ _ => .bind (Record.flag_unfit h) fun _ _ => .of_ok

theorem Screen.ofDatum_unfit
    (hs : ∀ es, d.entries? = some es → (es.get "scaffold").IsSection) :
    Unfit (Screen.ofDatum d) :=
  .bind Datum.field_unfit fun _ hname =>
    have ⟨es, h⟩ := Datum.entries?_of_field hname
    .bind (Record.optional_unfit h) fun _ _ => .bind (Record.optional_unfit h) fun _ _ =>
      .bind (Record.optional_unfit h) fun _ _ => .bind (Record.orElse_unfit h) fun _ hv =>
        have ⟨_, hscaffold, _⟩ := Record.orElse_section h (hs es h) hv
        .bind (Scaffold.ofDatum_unfit hscaffold) fun _ _ =>
          .bind (Record.items_unfit h) fun _ _ => .bind (Record.items_unfit h) fun _ _ =>
            .bind (Record.optional_unfit h) fun _ _ => .of_ok

theorem Widget.ofDatum_unfit (h : d.entries? = some es) : Unfit (Widget.ofDatum d) :=
  .bind (Record.each_unfit h fun _ _ _ _ => Field.ofDatum_unfit) fun _ _ =>
    .bind Datum.field_unfit fun _ _ => .bind (Record.optional_unfit h) fun _ _ =>
      .bind (Record.optional_unfit h) fun _ _ => .bind (Record.flag_unfit h) fun _ _ => .of_ok

/-! Sections -/

theorem Theme.ofDatum_unfit (h : d.entries? = some es) : Unfit (Theme.ofDatum d) :=
  .bind (Record.flag_unfit h) fun _ _ => .bind (Record.flag_unfit h) fun _ _ =>
    .bind (Record.optional_unfit h) fun _ _ => .bind (Record.optional_unfit h) fun _ _ =>
      .bind (Record.orElse_unfit h) fun _ _ => .bind Datum.toDict_unfit fun _ _ =>
        .bind (Record.flag_unfit h) fun _ _ => .bind (Record.optional_unfit h) fun _ _ => .of_ok

theorem Dependencies.ofDatum_unfit (h : d.entries? = some es) :
    Unfit (Dependencies.ofDatum d) :=
  .bind (Record.optional_unfit h) fun _ _ => .bind (Record.optional_unfit h) fun _ _ =>
    .bind (Record.optional_unfit h) fun _ _ => .bind (Record.optional_unfit h) fun _ _ =>
      .bind (Record.items_unfit h) fun _ _ => .bind (Record.items_unfit h) fun _ _ =>
        .bind (Record.items_unfit h) fun _ _ => .bind (Record.items_unfit h) fun _ _ =>
          .bind (Record.flag_unfit h) fun _ _ => .bind (Record.flag_unfit h) fun _ _ =>
            .bind (Record.flag_unfit h) fun _ _ => .bind (Record.orElse_unfit h) fun _ _ =>
              .bind Datum.toDict_unfit fun _ _ => .bind (Record.orElse_unfit h) fun _ _ =>
                .bind Datum.toDict_unfit fun _ _ => .of_ok

-- Counts of which none is infinite.
def Stats.Finite (es : Dict) : Prop :=
  ∀ key x, es.get key (.int 0) = .float x → x.isInf = false

theorem Stats.ofDatum_unfit (h : d.entries? = some es) (hf : Stats.Finite es) :
    Unfit (Stats.ofDatum d) := by
  have hcount {key : String} :
      Unfit (do (← Record.optional d key (.int 0)).toInt : Read Int) := by
    rw [Datum.optional_of_entries? h]
    exact Datum.toInt_unfit (hf key)
  exact .bind hcount fun _ _ => .bind hcount fun _ _ => .bind hcount fun _ _ =>
    .bind hcount fun _ _ => .of_ok

/-! Folder trees -/

namespace Folder

-- A tree of mappings.
inductive Shaped : Datum → Prop where
  | node {d : Datum} {es : Dict} (h : d.entries? = some es)
      (children : ∀ xs, ((es.get "children").orElse (.list [])).items = .ok xs →
        ∀ x ∈ xs, Shaped x) : Shaped d

-- What stands in a section is less deep than what the section stands in.
theorem depth_children {x : Datum} (hp : d.Plain) (h : d.entries? = some es)
    (hv : Record.orElse d "children" (.list []) = .ok v) (hxs : v.items = .ok xs) (hx : x ∈ xs) :
    v.depth < d.depth := by
  rw [Record.orElse, Datum.optional_of_entries? h] at hv
  obtain rfl := Except.ok.inj hv
  obtain rfl : d = .dict es := (Datum.opened_of_plain hp).symm.trans (Datum.opened_of_entries? h)
  rw [Datum.orElse] at hxs ⊢
  split at hxs
  case isTrue ht =>
    rw [if_pos ht]
    rw [Dict.get] at ht ⊢
    cases hget : es.get? "children"
    case none => rw [hget] at ht; cases ht
    case some => exact Datum.depth_lt_dict (Dict.mem_of_get? hget)
  case isFalse => cases hxs; cases hx

theorem ofDatumFrom_unfit {n : Nat} (hp : d.Plain) (hd : d.depth ≤ n) (h : Shaped d) :
    Unfit (ofDatumFrom n d) := by
  induction n generalizing d
  case zero => exact absurd (Datum.depth_pos hp) (Nat.not_lt.mpr hd)
  case succ n ih =>
    obtain ⟨hes, hchildren⟩ := h
    refine .bind (Record.optional_unfit hes) fun _ _ => .bind (Record.optional_unfit hes) fun _ _ =>
      .bind (Record.optional_unfit hes) fun _ _ => .bind (Record.orElse_unfit hes) fun v hv =>
        .bind Datum.items_unfit fun xs hxs => .bind (.mapM fun x hx => ?_) fun _ _ =>
          .bind (Record.optional_unfit hes) fun _ _ => .bind (Record.optional_unfit hes) fun _ _ =>
            .of_ok
    have hvalue : v.Plain := Record.orElse_plain hp hv trivial
    have hdepth : x.depth < d.depth :=
      Nat.lt_of_le_of_lt (Datum.depth_of_mem_items hvalue hxs hx) (depth_children hp hes hv hxs hx)
    refine ih (Datum.items_plain hvalue hxs x hx)
      (Nat.lt_succ_iff.mp (Nat.lt_of_lt_of_le hdepth hd)) (hchildren xs ?_ x hx)
    rw [Record.orElse, Datum.optional_of_entries? hes] at hv
    exact Except.ok.inj hv ▸ hxs

theorem ofDatum_unfit (hp : d.Plain) (h : Shaped d) : Unfit (ofDatum d) :=
  ofDatumFrom_unfit hp (Nat.le_succ _) h

end Folder

/-! The snapshot -/

-- An assessment with a confidence in range and a folder tree of mappings.
structure Assessment.Shaped (es : Dict) : Prop where
  confidence : ∀ i, es.get "confidence" (.float 0) = .int i → i.natAbs < Datum.floatLimit
  tree : (es.get "structure").truthy → Folder.Shaped (es.get "structure")

theorem Assessment.reasoningOf_unfit : Unfit (reasoningOf d) := by
  rw [reasoningOf]
  split
  · exact .bind Datum.joinTexts_unfit fun _ _ => .of_ok
  · exact .of_ok

theorem Assessment.ofDatum_unfit (hp : d.Plain) (h : d.entries? = some es) (hs : Shaped es) :
    Unfit (Assessment.ofDatum d) := by
  refine .bind (Record.optional_unfit h) fun _ _ => .bind reasoningOf_unfit fun _ _ =>
    .bind (Record.optional_unfit h) fun _ _ => .bind (Record.optional_unfit h) fun c hc =>
      .bind (Datum.toFloat_unfit ?confidence) fun _ _ => .bind (Record.orElse_unfit h) fun v hv =>
        .bind (Folder.ofDatum_unfit ?plain ?tree) fun _ _ => .of_ok
  case confidence =>
    rw [Datum.optional_of_entries? h] at hc
    exact Except.ok.inj hc ▸ hs.confidence
  case plain => exact Record.orElse_plain hp hv (Datum.record_plain_iff.mpr (by simp [Datum.Plain]))
  case tree =>
    rw [Record.orElse, Datum.optional_of_entries? h] at hv
    obtain rfl := Except.ok.inj hv
    rw [Datum.orElse]
    split
    case isTrue ht => exact hs.tree ht
    case isFalse =>
      refine .node rfl fun xs hxs => ?_
      cases hxs
      exact List.forall_mem_nil _

-- A stored snapshot whose sections are mappings, and whose numbers are in range.
structure Snapshot.Shaped (es : Dict) : Prop where
  architecture : (es.get "architecture").IsSection
  assessment : ∀ fs, (es.get "architecture").entries? = some fs → Assessment.Shaped fs
  dependencies : (es.get "dependencies").IsSection
  screens : ∀ xs, (es.get "screens" (.list [])).items = .ok xs → ∀ x ∈ xs, ∀ fs,
    x.entries? = some fs → (fs.get "scaffold").IsSection
  widgets : ∀ xs, (es.get "widgets" (.list [])).items = .ok xs → ∀ x ∈ xs, x.entries?.isSome
  theme : (es.get "theme").IsSection
  stats : (es.get "stats").IsSection
  counts : ∀ fs, (es.get "stats").entries? = some fs → Stats.Finite fs

theorem Snapshot.themeOf_unfit (h : d.IsSection) : Unfit (themeOf d) := by
  rw [themeOf]
  split
  case isTrue ht =>
    obtain ⟨fs, hfs⟩ := Option.isSome_iff_exists.mp (h ht)
    exact .bind (Theme.ofDatum_unfit hfs) fun _ _ => .of_ok
  case isFalse => exact .of_ok

-- What is wrong with a plain snapshot of that shape is something that a caller is told of.
theorem Snapshot.ofDatum_unfit (hp : d.Plain) (h : d.entries? = some es) (hs : Shaped es) :
    Unfit (Snapshot.ofDatum d) := by
  have harchitecture {v : Datum} (hv : Record.orElse d "architecture" (.dict []) = .ok v) :
      Unfit (Assessment.ofDatum v) := by
    obtain ⟨fs, hfs, rfl | hown⟩ := Record.orElse_section h hs.architecture hv
    · exact Assessment.ofDatum_unfit (Record.orElse_plain hp hv trivial) hfs ⟨nofun, nofun⟩
    · exact Assessment.ofDatum_unfit (Record.orElse_plain hp hv trivial) hfs (hs.assessment fs hown)
  have hstats {v : Datum} (hv : Record.orElse d "stats" (.dict []) = .ok v) :
      Unfit (Stats.ofDatum v) := by
    obtain ⟨fs, hfs, rfl | hown⟩ := Record.orElse_section h hs.stats hv
    · exact Stats.ofDatum_unfit hfs nofun
    · exact Stats.ofDatum_unfit hfs (hs.counts fs hown)
  have hdependencies {v : Datum} (hv : Record.orElse d "dependencies" (.dict []) = .ok v) :
      Unfit (Dependencies.ofDatum v) := by
    obtain ⟨fs, hfs, _⟩ := Record.orElse_section h hs.dependencies hv
    exact Dependencies.ofDatum_unfit hfs
  have htheme {v : Datum} (hv : Record.optional d "theme" .null = .ok v) : Unfit (themeOf v) := by
    rw [Datum.optional_of_entries? h] at hv
    exact Except.ok.inj hv ▸ themeOf_unfit hs.theme
  have hscreens : Unfit (Record.each d "screens" Screen.ofDatum) :=
    Record.each_unfit h fun ds hds x hx => Screen.ofDatum_unfit (hs.screens ds hds x hx)
  have hwidgets : Unfit (Record.each d "widgets" Widget.ofDatum) := by
    refine Record.each_unfit h fun ds hds x hx => ?_
    obtain ⟨fs, hfs⟩ := Option.isSome_iff_exists.mp (hs.widgets ds hds x hx)
    exact Widget.ofDatum_unfit hfs
  exact .bind (Record.optional_unfit h) fun _ hv => .bind (Record.optional_unfit h) fun _ _ =>
    .bind (Record.optional_unfit h) fun _ _ => .bind (Record.optional_unfit h) fun _ _ =>
      .bind (Record.optional_unfit h) fun _ _ => .bind (Record.orElse_unfit h) fun _ ha =>
        .bind (harchitecture ha) fun _ _ => .bind (Record.orElse_unfit h) fun _ hd =>
          .bind (hdependencies hd) fun _ _ =>
            .bind (Record.each_unfit h fun _ _ _ _ => Model.ofDatum_unfit) fun _ _ =>
              .bind hscreens fun _ _ => .bind hwidgets fun _ _ => .bind (htheme hv) fun _ _ =>
                .bind (Record.orElse_unfit h) fun _ hc => .bind (hstats hc) fun _ _ => .of_ok

end Refit
