import Mathlib.Data.List.Nodup
import Refit.Proofs.Source.Selection

/-!
The groups of a list of files: a partition of the files that some category claims.

Every category looks at the whole list and drops what has been taken. The result is the same as if
each file were asked for the first category that claims it, and the files at paths that came before
were not there.
-/

namespace Refit

namespace SourceFile

variable {f : SourceFile} {fs : List SourceFile} {p : String → Bool}

-- The files that are the first at their paths.
def firsts : List SourceFile → List SourceFile
  | [] => []
  | f :: fs => f :: (firsts fs).filter (·.path != f.path)

theorem firsts_sublist : (firsts fs).Sublist fs := by
  induction fs
  case nil => exact .slnil
  case cons f fs ih => exact (List.filter_sublist.trans ih).cons_cons f

theorem nodup_path_firsts : ((firsts fs).map (·.path)).Nodup := by
  induction fs
  case nil => exact .nil
  case cons f fs ih =>
    rw [firsts, List.map_cons, List.nodup_cons]
    refine ⟨?_, (List.filter_sublist.map _).nodup ih⟩
    rw [List.mem_map]
    rintro ⟨g, hg, hp⟩
    exact bne_iff_ne.mp (List.mem_filter.mp hg).2 hp

theorem mem_firsts : f ∈ firsts fs ↔ f.FirstIn fs := by
  induction fs
  case nil => simp [firsts, FirstIn]
  case cons g fs ih =>
    rw [firsts, List.mem_cons, List.mem_filter, ih]
    by_cases hp : g.path = f.path
    case pos => simp [FirstIn, hp, eq_comm]
    case neg =>
      have hne : f ≠ g := fun h => hp (h ▸ rfl)
      simp [FirstIn.cons_iff_of_ne hp, hne, Ne.symm hp]

-- What is left out of a list by its path does not hide anything else.
theorem firsts_filter : firsts (fs.filter (p ·.path)) = (firsts fs).filter (p ·.path) := by
  induction fs
  case nil => rfl
  case cons f fs ih =>
    by_cases hf : p f.path
    case pos =>
      have hkeep {gs : List SourceFile} :
          (f :: gs).filter (p ·.path) = f :: gs.filter (p ·.path) := List.filter_cons_of_pos hf
      rw [hkeep, firsts, firsts, hkeep, ih, List.filter_comm]
    case neg =>
      have hdrop {gs : List SourceFile} :
          (f :: gs).filter (p ·.path) = gs.filter (p ·.path) := List.filter_cons_of_neg hf
      rw [hdrop, firsts, hdrop, ih, List.filter_filter]
      refine List.filter_congr fun g _ => ?_
      by_cases hg : g.path = f.path
      case pos => simp [hg, hf]
      case neg => simp [hg]

theorem exists_firstIn {path : String} (h : path ∈ fs.map (·.path)) :
    ∃ f : SourceFile, f.FirstIn fs ∧ f.path = path := by
  have ⟨g, hg, hp⟩ := List.mem_map.mp h
  have hsome : (fs.find? (·.path == path)).isSome :=
    List.find?_isSome.mpr ⟨g, hg, beq_iff_eq.mpr hp⟩
  have ⟨f, hf⟩ := Option.isSome_iff_exists.mp hsome
  obtain rfl : f.path = path := by simpa using List.find?_some hf
  exact ⟨f, hf, rfl⟩

end SourceFile

namespace Category

variable {c : Category} {path : String}

theorem nodup_all : all.Nodup := by
  decide

theorem of?_eq_some_iff : of? path = some c ↔
    Path.isDart path ∧ ¬SourceFile.isExcluded path ∧
      all.find? (·.selector.admits path) = some c := by
  rw [of?]
  split
  case isTrue hx => simp [hx]
  case isFalse hx =>
    rw [and_iff_right hx, iff_and_self]
    intro h
    have hadmits : c.selector.admits path := by simpa using List.find?_some h
    rw [Selector.admits, Bool.and_eq_true] at hadmits
    exact hadmits.1

end Category

open SourceFile (firsts)

variable {s : Selector} {seen taken : List String} {fs : List SourceFile} {f : SourceFile}
  {c : Category} {cs : List Category}

theorem Selector.selectFrom_eq : s.selectFrom seen fs =
    (firsts fs).filter fun f => f.path ∉ seen ∧ s.takes f.path := by
  induction fs generalizing seen
  case nil => rfl
  case cons g fs ih =>
    rw [selectFrom_cons, firsts]
    split
    case isTrue h =>
      rw [ih, List.filter_cons_of_pos (by simpa using h), List.filter_filter]
      refine congrArg _ (List.filter_congr fun f _ => ?_)
      by_cases hp : f.path = g.path <;> simp [hp]
    case isFalse h =>
      rw [ih, List.filter_cons_of_neg (by simpa using h), List.filter_filter]
      refine List.filter_congr fun f _ => ?_
      by_cases hp : f.path = g.path <;> simp_all

theorem Selector.select_eq : s.select fs = (firsts fs).filter (s.takes ·.path) := by
  rw [select, selectFrom_eq]
  simp

namespace Groups

-- The files of each category in turn, leaving out categories without any.
def sorted (cs : List Category) (claims : SourceFile → Option Category) (fs : List SourceFile) :
    Groups :=
  cs.filterMap fun c =>
    let own := fs.filter fun f => claims f = some c
    if own.isEmpty then none else some (c.name, own)

variable {claims : SourceFile → Option Category}

theorem sorted_cons : sorted (c :: cs) claims fs =
    if (fs.filter fun f => claims f = some c).isEmpty then sorted cs claims fs
    else (c.name, fs.filter fun f => claims f = some c) :: sorted cs claims fs := by
  split
  case isTrue h => exact List.filterMap_cons_none (if_pos h)
  case isFalse h => exact List.filterMap_cons_some (if_neg h)

-- The later categories are asked for what an earlier one does not take.
theorem sorted_find?_cons (hc : c ∉ cs) :
    sorted cs (fun f => (c :: cs).find? (·.selector.takes f.path)) fs =
      sorted cs (fun f => cs.find? (·.selector.takes f.path))
        (fs.filter fun f => !c.selector.takes f.path) := by
  refine List.filterMap_congr fun d hd => ?_
  have hne : c ≠ d := fun h => hc (h ▸ hd)
  have hown : (fs.filter fun f => (c :: cs).find? (·.selector.takes f.path) = some d) =
      (fs.filter fun f => !c.selector.takes f.path).filter fun f =>
        cs.find? (·.selector.takes f.path) = some d := by
    rw [List.filter_filter]
    refine List.filter_congr fun f _ => ?_
    by_cases ht : c.selector.takes f.path <;> simp [ht, hne]
  rw [hown]

theorem claim_eq_sorted (hcs : cs.Nodup) : claim taken cs fs =
    sorted cs (fun f => cs.find? (·.selector.takes f.path))
      ((firsts fs).filter (·.path ∉ taken)) := by
  induction cs generalizing taken
  case nil => rfl
  case cons c cs ih =>
    have ⟨hc, hcs⟩ := List.nodup_cons.mp hcs
    have hfirst (f : SourceFile) :
        (c :: cs).find? (·.selector.takes f.path) = some c ↔ c.selector.takes f.path := by
      by_cases ht : c.selector.takes f.path
      case pos => simp [ht]
      case neg =>
        have hlater : cs.find? (·.selector.takes f.path) ≠ some c :=
          fun h => hc (List.mem_of_find?_eq_some h)
        simp [ht, hlater]
    have hown : (c.selector.select fs).filter (fun f => !taken.contains f.path) =
        ((firsts fs).filter (·.path ∉ taken)).filter fun f =>
          (c :: cs).find? (·.selector.takes f.path) = some c := by
      simp only [hfirst, Selector.select_eq]
      rw [List.filter_comm]
      simp
    have hrest : (firsts fs).filter (·.path ∉ taken ++
          ((c.selector.select fs).filter fun f => !taken.contains f.path).map (·.path)) =
        ((firsts fs).filter (·.path ∉ taken)).filter fun f => !c.selector.takes f.path := by
      rw [List.filter_filter]
      refine List.filter_congr fun f hf => ?_
      have htook : f.path ∈ ((c.selector.select fs).filter fun g => !taken.contains g.path).map
          (·.path) ↔ c.selector.takes f.path ∧ f.path ∉ taken := by
        rw [List.mem_map]
        constructor
        · rintro ⟨g, hg, hp⟩
          have ⟨⟨ht, _⟩, hs⟩ := mem_own.mp hg
          exact hp ▸ ⟨ht, hs⟩
        · exact fun ⟨ht, hs⟩ => ⟨f, mem_own.mpr ⟨⟨ht, SourceFile.mem_firsts.mp hf⟩, hs⟩, rfl⟩
      simp only [List.mem_append, htook]
      by_cases ht : c.selector.takes f.path <;> simp [ht]
    rw [claim, ih hcs, hrest, sorted_cons, sorted_find?_cons hc, ← hown]

-- Each file is put where its path says, unless one at that path came before.
theorem ofFiles_eq_sorted :
    ofFiles fs = sorted Category.all (fun f => Category.of? f.path) (firsts fs) := by
  have hdart (c : Category) :
      ((firsts fs).filter (Path.isDart ·.path)).filter (fun f => Category.of? f.path = some c) =
        (firsts fs).filter fun f => Category.of? f.path = some c := by
    rw [List.filter_filter]
    refine List.filter_congr fun f _ => ?_
    by_cases hc : Category.of? f.path = some c
    case pos => simp [hc, Selector.isDart_of_takes (Category.takes_of_of? hc)]
    case neg => simp [hc]
  rw [ofFiles, claim_eq_sorted Category.nodup_all, SourceFile.firsts_filter]
  simp only [← Category.of?_eq_find?, sorted, List.not_mem_nil, not_false_eq_true, decide_true,
    List.filter_true, hdart]

/-! The partition -/

-- The paths of the files in all groups.
def paths (g : Groups) : List String :=
  g.flatMap fun e => e.2.map (·.path)

-- The groups hold the files that some category claims: each under the first category that claims
-- it, one file for each path, all in their order.
structure Partition (fs : List SourceFile) (g : Groups) : Prop where
  holds_iff : ∀ (c : Category) (f : SourceFile), g.Holds c.name f ↔
    Path.isDart f.path ∧ ¬SourceFile.isExcluded f.path ∧ f.FirstIn fs ∧
      Category.all.find? (·.selector.admits f.path) = some c
  nodup_paths : g.paths.Nodup
  mem_paths_iff : ∀ p, p ∈ g.paths ↔ p ∈ fs.map (·.path) ∧ (Category.of? p).isSome
  sublist : ∀ e ∈ g, e.2.Sublist fs
  nonempty : ∀ e ∈ g, e.2 ≠ []
  names_sublist : (g.map (·.1)).Sublist (Category.all.map Category.name)

variable {p : String} {g : Groups}

theorem mem_paths : p ∈ g.paths ↔ ∃ name f, g.Holds name f ∧ f.path = p := by
  simp only [paths, List.mem_flatMap, List.mem_map, Holds, Prod.exists]
  constructor
  · rintro ⟨name, own, hg, f, hf, hp⟩
    exact ⟨name, f, ⟨own, hg, hf⟩, hp⟩
  · rintro ⟨name, f, ⟨own, hg, hf⟩, hp⟩
    exact ⟨name, own, hg, f, hf, hp⟩

theorem exists_of_mem_sorted {e : String × List SourceFile} (h : e ∈ sorted cs claims fs) :
    ∃ c ∈ cs, e = (c.name, fs.filter fun f => claims f = some c) ∧ e.2 ≠ [] := by
  have ⟨c, hc, he⟩ := List.mem_filterMap.mp h
  dsimp only at he
  split at he
  case isTrue => cases he
  case isFalse hne =>
    obtain rfl := Option.some.inj he
    exact ⟨c, hc, rfl, fun hnil => hne (List.isEmpty_iff.mpr hnil)⟩

theorem names_sorted : ((sorted cs claims fs).map (·.1)).Sublist (cs.map Category.name) := by
  induction cs
  case nil => exact .slnil
  case cons c cs ih =>
    rw [sorted_cons]
    split
    case isTrue => exact ih.cons c.name
    case isFalse => exact ih.cons_cons c.name

theorem paths_sorted_cons : (sorted (c :: cs) claims fs).paths =
    (fs.filter fun f => claims f = some c).map (·.path) ++ (sorted cs claims fs).paths := by
  rw [sorted_cons]
  split
  case isTrue h => rw [List.isEmpty_iff.mp h, List.map_nil, List.nil_append]
  case isFalse => rfl

theorem nodup_paths_sorted (hcs : cs.Nodup) (hfs : (fs.map (·.path)).Nodup) :
    (sorted cs claims fs).paths.Nodup := by
  induction cs
  case nil => exact .nil
  case cons c cs ih =>
    have ⟨hc, hcs⟩ := List.nodup_cons.mp hcs
    rw [paths_sorted_cons]
    refine List.Nodup.append ((List.filter_sublist.map _).nodup hfs) (ih hcs) fun p hp hrest => ?_
    have ⟨f, hf, hfp⟩ := List.mem_map.mp hp
    have ⟨_, g, ⟨own, he, hg⟩, hgp⟩ := mem_paths.mp hrest
    have ⟨d, hd, heq, _⟩ := exists_of_mem_sorted he
    obtain rfl := (Prod.mk.inj heq).2
    have ⟨hf, hfc⟩ := List.mem_filter.mp hf
    have ⟨hg, hgd⟩ := List.mem_filter.mp hg
    obtain rfl := List.inj_on_of_nodup_map hfs hf hg (hfp.trans hgp.symm)
    have hcd : c = d := Option.some.inj ((of_decide_eq_true hfc).symm.trans (of_decide_eq_true hgd))
    exact hc (hcd ▸ hd)

theorem ofFiles_partition (fs : List SourceFile) : Partition fs (ofFiles fs) where
  holds_iff c f := by
    rw [holds_ofFiles_name, Category.of?_eq_some_iff]
    tauto
  nodup_paths := by
    rw [ofFiles_eq_sorted]
    exact nodup_paths_sorted Category.nodup_all SourceFile.nodup_path_firsts
  mem_paths_iff p := by
    rw [mem_paths]
    constructor
    case mp =>
      rintro ⟨name, f, hf, rfl⟩
      have ⟨hfirst, c, hc, _⟩ := holds_ofFiles.mp hf
      exact ⟨List.mem_map_of_mem hfirst.mem, Option.isSome_iff_exists.mpr ⟨c, hc⟩⟩
    case mpr =>
      rintro ⟨hp, hsome⟩
      have ⟨f, hf, hfp⟩ := SourceFile.exists_firstIn hp
      have ⟨c, hc⟩ := Option.isSome_iff_exists.mp hsome
      exact ⟨c.name, f, holds_ofFiles_name.mpr ⟨hf, hfp ▸ hc⟩, hfp⟩
  sublist e he := by
    rw [ofFiles_eq_sorted] at he
    have ⟨c, _, heq, _⟩ := exists_of_mem_sorted he
    rw [heq]
    exact List.filter_sublist.trans SourceFile.firsts_sublist
  nonempty e he := by
    rw [ofFiles_eq_sorted] at he
    have ⟨c, _, _, hne⟩ := exists_of_mem_sorted he
    exact hne
  names_sublist := ofFiles_eq_sorted ▸ names_sorted

end Groups

end Refit
