import Mathlib.Data.List.Basic
import Refit.Source.Category

/-!
Which files a selection keeps, and under which category.

Whether a file is taken depends on its path alone. Of several files at one path the first one in
the list is the one that counts.
-/

namespace Refit

namespace SourceFile

-- The first file at its path.
def FirstIn (f : SourceFile) (fs : List SourceFile) : Prop :=
  fs.find? (·.path == f.path) = some f

namespace FirstIn

variable {f g : SourceFile} {fs : List SourceFile}

theorem mem (h : f.FirstIn fs) : f ∈ fs :=
  List.mem_of_find?_eq_some h

theorem cons_iff_of_ne (h : g.path ≠ f.path) : f.FirstIn (g :: fs) ↔ f.FirstIn fs := by
  simp [FirstIn, h]

-- What is left out of a list by its path is not missed at another path.
theorem filter_iff {p : String → Bool} (h : p f.path) :
    f.FirstIn (fs.filter (p ·.path)) ↔ f.FirstIn fs := by
  have hp (g : SourceFile) :
      decide (p g.path = true ∧ (g.path == f.path) = true) = (g.path == f.path) := by
    by_cases hg : g.path = f.path
    case pos => simp [hg, h]
    case neg => simp [hg]
  simp only [FirstIn, List.find?_filter, hp]

end FirstIn

end SourceFile

namespace Selector

variable {s : Selector} {seen : List String} {fs : List SourceFile} {f : SourceFile} {path : String}

-- Whether a file at a path is selected.
def takes (s : Selector) (path : String) : Bool :=
  !SourceFile.isExcluded path && s.admits path

theorem isDart_of_takes (h : s.takes path) : Path.isDart path := by
  simp [takes, admits] at h
  exact h.2.1

-- A selector that another one covers but for some folders takes what the other one takes, except
-- in those folders.
theorem takes_or_mem_folders {t : Selector} (more : List String)
    (hf : t.folders ⊆ s.folders ++ more) (he : t.endings ⊆ s.endings) (h : t.takes path) :
    s.takes path ∨ ∃ d ∈ more, d ∈ Path.folders path := by
  simp only [takes, admits, Bool.and_eq_true, Bool.or_eq_true, List.any_eq_true,
    List.contains_iff_mem] at h ⊢
  have ⟨hx, hd, h⟩ := h
  rcases h with ⟨d, hp, ht⟩ | ⟨e, ht, hp⟩
  · rcases List.mem_append.mp (hf ht) with hs | hm
    · exact .inl ⟨hx, hd, .inl ⟨d, hp, hs⟩⟩
    · exact .inr ⟨d, hm, hp⟩
  · exact .inl ⟨hx, hd, .inr ⟨e, he ht, hp⟩⟩

theorem selectFrom_cons {g : SourceFile} : s.selectFrom seen (g :: fs) =
    if g.path ∉ seen ∧ s.takes g.path then g :: s.selectFrom (g.path :: seen) fs
    else s.selectFrom seen fs := by
  simp [selectFrom, takes, and_assoc]

theorem mem_selectFrom :
    f ∈ s.selectFrom seen fs ↔ f.path ∉ seen ∧ s.takes f.path ∧ f.FirstIn fs := by
  induction fs generalizing seen
  case nil => simp [selectFrom, SourceFile.FirstIn]
  case cons g fs ih =>
    rw [selectFrom_cons]
    by_cases hp : g.path = f.path
    case pos =>
      have hfirst : f.FirstIn (g :: fs) ↔ f = g := by simp [SourceFile.FirstIn, hp, eq_comm]
      rw [hp, hfirst]
      split
      case isTrue h => simp [h, ih]
      case isFalse h => simp [ih]; tauto
    case neg =>
      have hne : f ≠ g := fun h => hp (h ▸ rfl)
      rw [SourceFile.FirstIn.cons_iff_of_ne hp]
      split
      case isTrue h => simp [hne, ih, Ne.symm hp]
      case isFalse h => exact ih

theorem mem_select : f ∈ s.select fs ↔ s.takes f.path ∧ f.FirstIn fs := by
  simp [select, mem_selectFrom]

end Selector

namespace Category

variable {c d : Category} {path : String}

theorem name_injective (h : c.name = d.name) : c = d := by
  revert h
  cases c <;> cases d <;> decide

theorem of?_eq_find? : of? path = all.find? (·.selector.takes path) := by
  rw [of?]
  split
  case isTrue h => exact (List.find?_eq_none.mpr (by simp [Selector.takes, h])).symm
  case isFalse h => simp [Selector.takes, h]

theorem takes_of_of? (h : of? path = some c) : c.selector.takes path := by
  rw [of?_eq_find?] at h
  simpa using List.find?_some h

theorem not_takes_of_of?_none (h : of? path = none) (c : Category) : ¬ c.selector.takes path := by
  rw [of?_eq_find?, List.find?_eq_none] at h
  exact h c (by cases c <;> decide)

end Category

namespace Groups

-- A file in the group of a name.
def Holds (g : Groups) (name : String) (f : SourceFile) : Prop :=
  ∃ own, (name, own) ∈ g ∧ f ∈ own

variable {f : SourceFile} {fs : List SourceFile} {name : String} {taken : List String}

theorem holds_cons {own : List SourceFile} {n : String} {g : Groups} :
    Holds ((n, own) :: g) name f ↔ (name = n ∧ f ∈ own) ∨ Holds g name f := by
  simp only [Holds, List.mem_cons, Prod.mk.injEq]
  constructor
  · rintro ⟨own', ⟨hn, rfl⟩ | hg, hf⟩
    · exact .inl ⟨hn, hf⟩
    · exact .inr ⟨own', hg, hf⟩
  · rintro (⟨hn, hf⟩ | ⟨own', hg, hf⟩)
    · exact ⟨own, .inl ⟨hn, rfl⟩, hf⟩
    · exact ⟨own', .inr hg, hf⟩

-- Narrowing the groups one by one, and dropping those that become empty.
theorem holds_filterMap (keep : String → List SourceFile → List SourceFile) {g : Groups} :
    Holds (g.filterMap fun e =>
        if (keep e.1 e.2).isEmpty then none else some (e.1, keep e.1 e.2)) name f ↔
      ∃ own, (name, own) ∈ g ∧ f ∈ keep name own := by
  constructor
  case mp =>
    rintro ⟨own, hg, hf⟩
    have ⟨e, he, hs⟩ := List.mem_filterMap.mp hg
    split at hs
    case isTrue => simp at hs
    case isFalse =>
      have ⟨hn, ho⟩ := Prod.mk.inj (Option.some.inj hs)
      exact ⟨e.2, hn ▸ he, hn ▸ ho ▸ hf⟩
  case mpr =>
    rintro ⟨own, hg, hf⟩
    have hne : ¬(keep name own).isEmpty := by
      rw [List.isEmpty_iff]
      exact List.ne_nil_of_mem hf
    exact ⟨_, List.mem_filterMap.mpr ⟨(name, own), hg, if_neg hne⟩, hf⟩

-- What one category selects of what no earlier one has.
theorem mem_own {c : Category} :
    (f ∈ (c.selector.select fs).filter fun g => !taken.contains g.path) ↔
      (c.selector.takes f.path ∧ f.FirstIn fs) ∧ f.path ∉ taken := by
  simp [Selector.mem_select]

theorem holds_claim_cons {c : Category} {cs : List Category} {own : List SourceFile}
    (h : (c.selector.select fs).filter (fun g => !taken.contains g.path) = own) :
    Holds (claim taken (c :: cs) fs) name f ↔
      (name = c.name ∧ f ∈ own) ∨ Holds (claim (taken ++ own.map (·.path)) cs fs) name f := by
  rw [claim, h]
  split
  case isTrue he => simp [List.isEmpty_iff.mp he]
  case isFalse he => exact holds_cons

-- Each category is asked in turn, so the one that has a file is the first that takes its path.
theorem holds_claim {cs : List Category} :
    Holds (claim taken cs fs) name f ↔
      f.path ∉ taken ∧ f.FirstIn fs ∧
        ∃ c, cs.find? (·.selector.takes f.path) = some c ∧ c.name = name := by
  induction cs generalizing taken
  case nil => simp [claim, Holds]
  case cons c cs ih =>
    rw [holds_claim_cons rfl, ih, mem_own]
    by_cases ht : c.selector.takes f.path
    case pos =>
      have hfirst : (c :: cs).find? (·.selector.takes f.path) = some c := List.find?_cons_of_pos ht
      rw [hfirst]
      constructor
      case mp =>
        rintro (⟨hn, ⟨_, hf⟩, hs⟩ | ⟨hs, hf, _⟩)
        · exact ⟨hs, hf, c, rfl, hn.symm⟩
        · have ⟨hs, ho⟩ := not_or.mp (List.mem_append.not.mp hs)
          exact absurd (List.mem_map.mpr ⟨f, mem_own.mpr ⟨⟨ht, hf⟩, hs⟩, rfl⟩) ho
      case mpr =>
        rintro ⟨hs, hf, c', hc, hn⟩
        exact .inl ⟨hn ▸ Option.some.inj hc ▸ rfl, ⟨ht, hf⟩, hs⟩
    case neg =>
      have ho : f.path ∉ ((c.selector.select fs).filter fun g => !taken.contains g.path).map
          (·.path) := by
        intro h
        have ⟨g, hg, hp⟩ := List.mem_map.mp h
        exact ht (hp ▸ (mem_own.mp hg).1.1)
      have hrest : (c :: cs).find? (·.selector.takes f.path) =
          cs.find? (·.selector.takes f.path) := List.find?_cons_of_neg ht
      rw [hrest, List.mem_append, or_iff_left ho]
      simp [ht]

-- A file is found in a selection exactly when it is the first at its path and some category claims
-- that path, and then it is found under that category.
theorem holds_ofFiles :
    Holds (ofFiles fs) name f ↔
      f.FirstIn fs ∧ ∃ c, Category.of? f.path = some c ∧ c.name = name := by
  rw [ofFiles, holds_claim, ← Category.of?_eq_find?]
  constructor
  case mp =>
    rintro ⟨_, hf, c, hc, hn⟩
    have hd := Selector.isDart_of_takes (Category.takes_of_of? hc)
    exact ⟨(SourceFile.FirstIn.filter_iff hd).mp hf, c, hc, hn⟩
  case mpr =>
    rintro ⟨hf, c, hc, hn⟩
    have hd := Selector.isDart_of_takes (Category.takes_of_of? hc)
    exact ⟨List.not_mem_nil, (SourceFile.FirstIn.filter_iff hd).mpr hf, c, hc, hn⟩

theorem holds_ofFiles_name {c : Category} :
    Holds (ofFiles fs) c.name f ↔ f.FirstIn fs ∧ Category.of? f.path = some c := by
  rw [holds_ofFiles]
  constructor
  · rintro ⟨hf, d, hd, hn⟩
    exact ⟨hf, Category.name_injective hn ▸ hd⟩
  · exact fun ⟨hf, hc⟩ => ⟨hf, c, hc, rfl⟩

end Groups

end Refit
