import Mathlib.Data.List.Basic
import Refit.Plan.Preserved
import Refit.Plan.Synthesis
import Refit.Project.Analysis
import Refit.Proofs.Datum.Basic
import Refit.Proofs.Source.Selection

/-!
The files that a plan promises to keep, and those that are kept.

Two sets of rules have to agree: what an extraction looks at decides what is promised, and the
categories decide what is kept.
-/

namespace Refit

/-! Where the classes of a project come from -/

-- A file of a list that one of the extractions looks at.
def SourceFile.IsExtracted (f : SourceFile) (fs : List SourceFile) : Prop :=
  f.FirstIn fs ∧
    (Model.selector.takes f.path ∨ Screen.selector.takes f.path ∨ Widget.selector.takes f.path)

-- The folders that an extraction looks into but no category claims.
def Category.unclaimedFolders : List String :=
  ["domain", "shared", "common"]

namespace SourceFile.IsExtracted

variable {f : SourceFile} {fs : List SourceFile}

-- The selectors of the extractions are those of three categories, but for a few more folders.
theorem claimed_or_unclaimedFolder (h : f.IsExtracted fs) :
    (Category.of? f.path).isSome ∨ ∃ d ∈ Category.unclaimedFolders, d ∈ Path.folders f.path := by
  have claimed {c : Category} (hc : c.selector.takes f.path) : (Category.of? f.path).isSome := by
    by_contra hn
    exact Category.not_takes_of_of?_none (Option.not_isSome_iff_eq_none.mp hn) c hc
  rcases h.2 with hm | hs | hw
  · refine (Selector.takes_or_mem_folders (s := Category.models.selector) ["domain"]
      (by decide) (by decide) hm).imp claimed ?_
    exact fun ⟨d, hd, hp⟩ => ⟨d, List.mem_singleton.mp hd ▸ .head _, hp⟩
  · exact .inl (claimed (c := .screens) hs)
  · refine (Selector.takes_or_mem_folders (s := Category.widgets.selector)
      ["shared", "common"] (by decide) (by decide) hw).imp claimed ?_
    exact fun ⟨d, hd, hp⟩ => ⟨d, .tail _ hd, hp⟩

end SourceFile.IsExtracted

variable {fs : List SourceFile} {s : Snapshot} {o : Options} {d : Datum}

-- An extraction whose classes name the file that they are read from.
theorem Selector.file_of_mem_flatMap {α : Type} {selector : Selector} {read : SourceFile → List α}
    {file : α → Datum} {a : α} (hfile : ∀ f : SourceFile, ∀ a ∈ read f, file a = .text f.path)
    (h : a ∈ (selector.select fs).flatMap read) :
    ∃ f : SourceFile, f.FirstIn fs ∧ selector.takes f.path ∧ file a = .text f.path := by
  have ⟨f, hf, ha⟩ := List.mem_flatMap.mp h
  have ⟨ht, hf⟩ := Selector.mem_select.mp hf
  exact ⟨f, hf, ht, hfile f a ha⟩

theorem Model.file_ofFiles {m : Model} {a : Bool} (h : m ∈ Model.ofFiles fs a) :
    ∃ f : SourceFile, f.FirstIn fs ∧ selector.takes f.path ∧ m.file = .text f.path := by
  refine Selector.file_of_mem_flatMap (fun f m hm => ?_) h
  have ⟨_, _, hm⟩ := List.mem_filterMap.mp hm
  rw [ofMatch?] at hm
  split at hm
  case isTrue => simp at hm
  case isFalse => exact Option.some.inj hm ▸ rfl

theorem Screen.file_ofFiles {c : Screen} (h : c ∈ Screen.ofFiles fs) :
    ∃ f : SourceFile, f.FirstIn fs ∧ selector.takes f.path ∧ c.file = .text f.path := by
  refine Selector.file_of_mem_flatMap (fun f c hc => ?_) h
  have ⟨_, _, hc⟩ := List.mem_map.mp hc
  exact hc ▸ rfl

theorem Widget.file_ofFiles {w : Widget} (h : w ∈ Widget.ofFiles fs) :
    ∃ f : SourceFile, f.FirstIn fs ∧ selector.takes f.path ∧ w.file = .text f.path := by
  refine Selector.file_of_mem_flatMap (fun f w hw => ?_) h
  have ⟨_, _, hw⟩ := List.mem_map.mp hw
  exact hw ▸ rfl

namespace Plan

/-! The classes that a plan moves -/

theorem mem_of_mem_distinct {ds : List Datum} (h : d ∈ distinct ds) : d ∈ ds := by
  suffices hs : ∀ seen : List Datum,
      d ∈ ds.foldl (fun seen d => if seen.any d.same then seen else seen ++ [d]) seen →
        d ∈ seen ∨ d ∈ ds from
    (hs [] h).resolve_left List.not_mem_nil
  clear h
  induction ds
  case nil => exact fun _ h => .inl h
  case cons e ds ih =>
    intro seen h
    rw [List.foldl_cons] at h
    split at h
    case isTrue => exact (ih seen h).imp_right (.tail _)
    case isFalse =>
      rcases ih _ h with h | h
      · exact (List.mem_append.mp h).imp_right fun h => by simp_all
      · exact .inr (.tail _ h)

theorem split_subset {α : Type} {key : α → Datum.Read ClassKey} {taken : List ClassKey}
    {xs first again : List α} (h : split key taken xs = .ok (first, again)) : first ⊆ xs := by
  induction xs generalizing taken first again
  case nil =>
    simp only [split, pure_eq_ok, Prod.mk.injEq] at h
    exact h.1 ▸ List.Subset.refl _
  case cons x xs ih =>
    simp only [split, bind_eq_ok] at h
    have ⟨k, _, h⟩ := h
    split at h
    case isTrue =>
      simp only [bind_eq_ok, pure_eq_ok, Prod.mk.injEq] at h
      have ⟨⟨_, _⟩, h, hf, _⟩ := h
      exact hf ▸ List.Subset.trans (ih h) (List.subset_cons_self _ _)
    case isFalse =>
      simp only [bind_eq_ok, pure_eq_ok, Prod.mk.injEq] at h
      have ⟨⟨_, _⟩, h, hf, _⟩ := h
      exact hf ▸ List.cons_subset_cons _ (ih h)

-- The models, screens and widgets that a plan for a snapshot moves.
structure Moved (s : Snapshot) where
  models : List Model
  screens : List Screen
  widgets : List Widget
  models_sub : models ⊆ s.models
  screens_sub : screens ⊆ s.screens
  widgets_sub : widgets ⊆ s.widgets

end Plan

theorem Schema.preserved_ofSnapshot {p : Schema} (h : Schema.ofSnapshot s o = .ok p) :
    ∃ m : Plan.Moved s, p.preserved = Plan.preservedFiles o m.models m.screens m.widgets := by
  simp only [Schema.ofSnapshot, bind_eq_ok, pure_eq_ok] at h
  have ⟨_, _, _, _, _, _, ⟨models, _⟩, hm, _, _, ⟨screens, _⟩, hs, _, _, ⟨widgets, _⟩, hw, _, _, _,
    _, _, _, _, _, _, _, hp⟩ := h
  exact ⟨⟨models, screens, widgets, Plan.split_subset hm, Plan.split_subset hs,
    Plan.split_subset hw⟩, hp ▸ rfl⟩

-- How much an analysis looks at leaves screens and widgets out, but adds none.
theorem Analysis.subset_ofFiles {name : String} {depth : Datum}
    (h : ofFiles fs name depth = .ok s) :
    s.models ⊆ Model.ofFiles fs ∧ s.screens ⊆ Screen.ofFiles fs ∧
      s.widgets ⊆ Widget.ofFiles fs := by
  simp only [ofFiles, bind_eq_ok, pure_eq_ok] at h
  have ⟨_, _, _, _, h⟩ := h
  subst h
  refine ⟨List.Subset.refl _, ?screens, ?widgets⟩
  case screens => simp only [snapshot]; split <;> simp
  case widgets => simp only [snapshot]; split <;> simp

namespace Plan

-- Every path that is promised is the path of a file that an extraction looks at.
theorem extracted_of_mem_preservedFiles {name : String} {depth : Datum}
    (hs : Analysis.ofFiles fs name depth = .ok s) (m : Moved s)
    (hd : d ∈ preservedFiles o m.models m.screens m.widgets) :
    ∃ f : SourceFile, f.IsExtracted fs ∧ d = .text f.path := by
  have ⟨hmodels, hscreens, hwidgets⟩ := Analysis.subset_ofFiles hs
  rcases List.mem_append.mp (mem_of_mem_distinct hd) with hd | hd
  · rcases List.mem_append.mp hd with hd | hd
    · have hd : d ∈ m.models.map Model.file := by split at hd <;> simp_all
      have ⟨_, hx, hd⟩ := List.mem_map.mp hd
      have ⟨f, hf, ht, hp⟩ := Model.file_ofFiles (hmodels (m.models_sub hx))
      exact ⟨f, ⟨hf, .inl ht⟩, hd ▸ hp⟩
    · have hd : d ∈ m.screens.map Screen.file := by split at hd <;> simp_all
      have ⟨_, hx, hd⟩ := List.mem_map.mp hd
      have ⟨f, hf, ht, hp⟩ := Screen.file_ofFiles (hscreens (m.screens_sub hx))
      exact ⟨f, ⟨hf, .inr (.inl ht)⟩, hd ▸ hp⟩
  · have ⟨_, hx, hd⟩ := List.mem_map.mp hd
    have ⟨f, hf, ht, hp⟩ := Widget.file_ofFiles (hwidgets (m.widgets_sub hx))
    exact ⟨f, ⟨hf, .inr (.inr ht)⟩, hd ▸ hp⟩

end Plan

/-! What is kept -/

namespace Schema

variable {p : Schema} {kept : Groups} {category : String} {f : SourceFile}

theorem holds_keptFiles (h : p.keptFiles fs = .ok kept) :
    kept.Holds category f ↔
      (Groups.ofFiles fs).Holds category f ∧
        (category ∈ planned.map (·.name) → ∃ d ∈ p.preserved, (Datum.text f.path).same d) := by
  simp only [keptFiles, bind_eq_ok, pure_eq_ok] at h
  have ⟨ks, hk, h⟩ := h
  have ⟨hk, _⟩ := Datum.mapM_asKey.mp hk
  rw [← h, Groups.holds_filterMap (fun c own =>
    if planned.any (·.name == c) then own.filter fun f => ks.any (Datum.text f.path).same else own)]
  have hkeep {own : List SourceFile} :
      (f ∈ if planned.any (·.name == category) then
          own.filter fun f => ks.any (Datum.text f.path).same else own) ↔
        f ∈ own ∧
          (category ∈ planned.map (·.name) → ∃ d ∈ p.preserved, (Datum.text f.path).same d) := by
    split
    case isTrue hc => simp_all
    case isFalse hc => simp_all
  simp only [hkeep, Groups.Holds, ← and_assoc, exists_and_right]

-- A promised file is kept exactly when some category claims its path, and then under that category.
-- A promised file that no category claims lies in one of three folders.
theorem promised_kept_iff_claimed {name : String} {depth : Datum}
    (hs : Analysis.ofFiles fs name depth = .ok s) (hp : ofSnapshot s o = .ok p) :
    ∃ kept, p.keptFiles fs = .ok kept ∧
      ∀ d ∈ p.preserved, ∃ f : SourceFile, f.FirstIn fs ∧ d = .text f.path ∧
        (∀ c : Category, kept.Holds c.name f ↔ Category.of? f.path = some c) ∧
        ((∃ category g, kept.Holds category g ∧ g.path = f.path) ↔
          (Category.of? f.path).isSome) ∧
        ((Category.of? f.path).isSome ∨
          ∃ folder ∈ Category.unclaimedFolders, folder ∈ Path.folders f.path) := by
  have ⟨m, hm⟩ := preserved_ofSnapshot hp
  have hpromised {d : Datum} (hd : d ∈ p.preserved) :=
    Plan.extracted_of_mem_preservedFiles hs m (hm ▸ hd)
  have hkeys : p.preserved.mapM Datum.asKey = .ok p.preserved := by
    refine Datum.mapM_asKey.mpr ⟨rfl, fun d hd => ?_⟩
    have ⟨_, _, ht⟩ := hpromised hd
    rw [ht, Datum.isKey_text]
  have ⟨kept, hk⟩ : ∃ kept, p.keptFiles fs = .ok kept := by
    simp only [keptFiles, bind_eq_ok, pure_eq_ok]
    exact ⟨_, _, hkeys, rfl⟩
  refine ⟨kept, hk, fun d hd => ?_⟩
  have ⟨f, hf, ht⟩ := hpromised hd
  have hown {category : String} : kept.Holds category f ↔ (Groups.ofFiles fs).Holds category f := by
    rw [holds_keptFiles hk]
    exact and_iff_left fun _ => ⟨d, hd, by simp [ht]⟩
  refine ⟨f, hf.1, ht, ?category, ?kept, hf.claimed_or_unclaimedFolder⟩
  case category =>
    intro c
    rw [hown, Groups.holds_ofFiles_name, and_iff_right hf.1]
  case kept =>
    rw [Option.isSome_iff_exists]
    constructor
    · rintro ⟨category, g, hg, hpath⟩
      have ⟨_, c, hc, _⟩ := Groups.holds_ofFiles.mp ((holds_keptFiles hk).mp hg).1
      exact ⟨c, hpath ▸ hc⟩
    · rintro ⟨c, hc⟩
      exact ⟨c.name, f, hown.mpr (Groups.holds_ofFiles_name.mpr ⟨hf.1, hc⟩), rfl⟩

-- A project that is one model.
def modelAt (path : String) : List SourceFile :=
  [⟨path, "class User \x7b\n  final String name;\n\x7d\n"⟩]

theorem promised_kept_in_models :
    ∃ s p kept, Analysis.ofFiles (modelAt "lib/models/user.dart") "demo" "deep" = .ok s ∧
      ofSnapshot s = .ok p ∧ p.keptFiles (modelAt "lib/models/user.dart") = .ok kept ∧
      p.preserved.length = 1 ∧
      ∀ d ∈ p.preserved, ∃ f : SourceFile, d = .text f.path ∧
        ((∃ category g, kept.Holds category g ∧ g.path = f.path) ↔
          (Category.of? f.path).isSome) := by
  have h : (Analysis.ofFiles (modelAt "lib/models/user.dart") "demo" "deep").toOption.any fun s =>
      (ofSnapshot s).toOption.any fun p => p.preserved.length == 1 := by
    decide +kernel
  have ⟨s, hs, h⟩ := any_toOption.mp h
  have ⟨p, hp, h⟩ := any_toOption.mp h
  have ⟨kept, hk, hall⟩ := promised_kept_iff_claimed hs hp
  refine ⟨s, p, kept, hs, hp, hk, by simpa using h, fun d hd => ?_⟩
  have ⟨f, _, ht, _, hkept, _⟩ := hall d hd
  exact ⟨f, ht, hkept⟩

-- The path of the model is promised, and nothing is kept.
theorem not_all_promised_kept :
    ∃ s p, Analysis.ofFiles (modelAt "lib/domain/user.dart") "demo" "deep" = .ok s ∧
      ofSnapshot s = .ok p ∧ p.preserved.map Datum.shown = ["lib/domain/user.dart"] ∧
      p.keptFiles (modelAt "lib/domain/user.dart") = .ok [] := by
  have h : (Analysis.ofFiles (modelAt "lib/domain/user.dart") "demo" "deep").toOption.any fun s =>
      (ofSnapshot s).toOption.any fun p =>
        p.preserved.map Datum.shown == ["lib/domain/user.dart"] &&
          (p.keptFiles (modelAt "lib/domain/user.dart")).toOption.any fun kept => kept == [] := by
    decide +kernel
  have ⟨s, hs, h⟩ := any_toOption.mp h
  have ⟨p, hp, h⟩ := any_toOption.mp h
  have ⟨hpaths, h⟩ := (Bool.and_eq_true _ _).mp h
  have ⟨kept, hk, hempty⟩ := any_toOption.mp h
  exact ⟨s, p, hs, hp, eq_of_beq hpaths, eq_of_beq hempty ▸ hk⟩

end Schema

end Refit
