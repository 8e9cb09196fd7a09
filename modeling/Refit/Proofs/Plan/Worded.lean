import Refit.Proofs.Plan.Typed
import Refit.Proofs.Project.Found

/-!
Plans for snapshots that were found, with choices in words: they are plain, name their classes and
modules by texts, and warn in texts.
-/

namespace Refit

open Datum (AllPlain)

-- Choices as they are worded, with the modules that are added.
structure Options.Worded (o : Options) (extra : List String) : Prop where
  plain : o.toDatum.Plain
  architecture : o.architecture.IsText
  state : o.state.IsText
  extraModules : o.extraModules = .list (extra.map .text)

-- An entry of a plan about a class whose name is a segment.
def Datum.NamesClass (d : Datum) : Prop :=
  ∃ fs name, d = .record fs ∧ fs.lookup "name" = some (.text name) ∧ '/' ∉ name.toList

namespace Datum

variable {fs : List (String × Datum)} {key : String} {v : Datum}

theorem get?_record : Dict.get? (fs.map fun f => (text f.1, f.2)) key = fs.lookup key := by
  induction fs
  case nil => rfl
  case cons f fs ih =>
    rw [lookup_cons_ite, List.map_cons, Dict.get?, ih]
    simp only [beq_iff_eq, @eq_comm _ key]

theorem field_record (h : fs.lookup key = some v) : (record fs).field key = .ok v := by
  have hget := (@get?_record fs key).trans h
  simp only [field, record, opened, hget]

end Datum

namespace Plan

variable {s : Snapshot} {o : Options} {ds : List Datum}

theorem namesClass_modelMigration {m : Model} {d : Datum} (hm : m.name.Fits)
    (h : modelMigration o m = .ok d) : d.NamesClass := by
  obtain ⟨name, hname, hslash, _⟩ := hm
  rw [modelMigration, hname] at h
  split at h
  case isTrue =>
    exact ⟨_, name, (pure_eq_ok.mp h).symm, by simp [lookup_cons_ite], hslash⟩
  case isFalse =>
    obtain ⟨_, _, h⟩ := bind_eq_ok.mp h
    exact ⟨_, name, (pure_eq_ok.mp h).symm, by simp [lookup_cons_ite], hslash⟩

theorem namesClass_screenMigration {c : Screen} (hc : c.name.Fits) :
    (screenMigration o c).NamesClass := by
  obtain ⟨name, hname, hslash, _⟩ := hc
  rw [screenMigration, hname]
  split
  · exact ⟨_, name, rfl, by simp [lookup_cons_ite], hslash⟩
  · exact ⟨_, name, rfl, by simp [lookup_cons_ite], hslash⟩

theorem exists_texts {extra : List String} (ho : o.extraModules = .list (extra.map .text))
    (h : chooseModules s o = .ok ds) :
    ∃ ms : List String, ds = ms.map .text ∧ ∀ m ∈ ms, m ∈ ownModules ∨ m ∈ extra := by
  have hall : ∀ d ∈ ds, ∃ m, d = .text m ∧ (m ∈ ownModules ∨ m ∈ extra) := by
    intro d hd
    have hextra : o.extraModules.items = .ok (extra.map .text) := by rw [ho]; rfl
    rcases mem_chooseModules hextra h d hd with ⟨m, hm, rfl⟩ | hd
    · exact ⟨m, rfl, .inl hm⟩
    · obtain ⟨m, hm, rfl⟩ := List.mem_map.mp hd
      exact ⟨m, rfl, .inr hm⟩
  clear h
  induction ds
  case nil => exact ⟨[], rfl, List.forall_mem_nil _⟩
  case cons d ds ih =>
    obtain ⟨⟨m, rfl, hm⟩, hds⟩ := List.forall_mem_cons.mp hall
    obtain ⟨ms, rfl, hms⟩ := ih hds
    exact ⟨m :: ms, rfl, List.forall_mem_cons.mpr ⟨hm, hms⟩⟩

end Plan

namespace Schema

-- A plan in words, with the modules that were added to those that it has of its own.
structure Worded (p : Schema) (extra : List String) : Prop where
  plain : p.toDatum.Plain
  name : p.name.IsText
  architecture : ∃ d, (Datum.dict p.definition).field "architecture" = .ok d ∧ d.IsText
  state : ∃ d, (Datum.dict p.definition).field "state_management" = .ok d ∧ d.IsText
  modules : ∃ ms : List String, p.moduleIds = .ok (ms.map .text) ∧
    ∀ m ∈ ms, m ∈ Plan.ownModules ∨ m ∈ extra
  models : ∀ d ∈ p.models, d.NamesClass
  screens : ∀ d ∈ p.screens, d.NamesClass
  warnings : ∀ w ∈ p.warnings, w.IsText

variable {s : Snapshot} {o : Options} {p : Schema} {extra : List String}

theorem worded_ofSnapshot (hs : s.Found) (ho : o.Worded extra) (h : ofSnapshot s o = .ok p) :
    p.Worded extra := by
  have hplain : p.toDatum.Plain := ofSnapshot_plain hs.plain ho.plain h
  simp only [ofSnapshot, bind_eq_ok, pure_eq_ok] at h
  obtain ⟨_, _, ⟨state, _⟩, hchosen, modules, hmodules, ⟨models, _⟩, hfirst, _, _, ⟨screens, _⟩,
    hshown, _, _, _, _, _, _, migrations, hmigrations, _, _, _, _, definition, hdefinition, rfl⟩ := h
  simp only [Plan.definition, bind_eq_ok, pure_eq_ok] at hdefinition
  obtain ⟨color, _, shortName, _, rfl⟩ := hdefinition
  obtain ⟨ms, rfl, hms⟩ := Plan.exists_texts ho.extraModules hmodules
  obtain ⟨_, _, hstate, htext⟩ := @Plan.exists_chooseState _ o.state hs.dependencies.state
  obtain ⟨rfl, _⟩ := Prod.mk.inj (Except.ok.inj (hchosen.symm.trans hstate))
  refine ⟨hplain, hs.name, ⟨_, rfl, ?_⟩, ⟨_, rfl, htext ho.state⟩, ⟨ms, moduleIds_of_modules rfl, hms⟩, ?_, ?_,
    List.forall_mem_map.mpr fun w _ => ⟨w, rfl⟩⟩
  · exact Plan.chooseArchitecture_text hs.architecture.detected ho.architecture
  · exact forall_mem_of_mapM hmigrations fun m hm d hd =>
      Plan.namesClass_modelMigration (hs.models m (Plan.split_subset hfirst hm)).name hd
  · exact List.forall_mem_map.mpr fun c hc =>
      Plan.namesClass_screenMigration (hs.screens c (Plan.split_subset hshown hc)).name

end Schema

end Refit
