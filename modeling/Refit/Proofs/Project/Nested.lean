import Refit.Project.Analysis
import Refit.Proofs.Datum.Basic
import Refit.Proofs.Source.Selection

/-!
Packages inside a project, such as an example, and what an analysis of a list of files takes from
them.

The metadata come from the first manifest of the list and the theme from its first entry point. So
packages inside a project count for nothing where the project's own manifest and entry point come
first, and take their place where they do not.
-/

namespace Refit

variable {fs gs : List SourceFile} {p : String → Bool}

namespace Selector

variable {s : Selector} {seen seen' : List String}

-- To leave out files by their path leaves them out of a selection, and changes nothing else.
theorem selectFrom_filter (h : ∀ path, p path → (path ∈ seen ↔ path ∈ seen')) :
    s.selectFrom seen (fs.filter (p ·.path)) = (s.selectFrom seen' fs).filter (p ·.path) := by
  induction fs generalizing seen seen'
  case nil => rfl
  case cons f fs ih =>
    rw [selectFrom_cons]
    by_cases hf : p f.path
    case pos =>
      rw [List.filter_cons_of_pos (by exact hf), selectFrom_cons]
      simp only [h f.path hf]
      split
      case isTrue =>
        rw [List.filter_cons_of_pos (by exact hf)]
        refine congrArg (f :: ·) (ih fun path hp => ?_)
        rw [List.mem_cons, List.mem_cons, h path hp]
      case isFalse => exact ih h
    case neg =>
      rw [List.filter_cons_of_neg (by exact hf)]
      split
      case isTrue =>
        rw [List.filter_cons_of_neg (by exact hf)]
        refine ih fun path hp => ?_
        have hne : path ≠ f.path := fun he => hf (he ▸ hp)
        rw [List.mem_cons, h path hp, or_iff_right hne]
      case isFalse => exact ih h

theorem select_filter : s.select (fs.filter (p ·.path)) = (s.select fs).filter (p ·.path) :=
  selectFrom_filter fun _ _ => Iff.rfl

end Selector

namespace Analysis

-- Whether a path is that of a manifest or an entry point inside a project, other than its own.
def isNested (path : String) : Bool :=
  (path.finishesWith Manifest.fileName && path != Manifest.fileName)
    || (Theme.isEntryPoint path && path != Theme.entryPoint)

-- The files of a project without the manifests and the entry points of packages inside it.
def own (fs : List SourceFile) : List SourceFile :=
  fs.filter (! isNested ·.path)

-- What a snapshot takes from a manifest and an entry point.
structure Facts where
  name : Datum
  description : Datum
  flutterVersion : Datum
  dartVersion : Datum
  dependencies : Dependencies
  theme : Option Theme

def factsOf (s : Snapshot) : Facts :=
  ⟨s.name, s.description, s.flutterVersion, s.dartVersion, s.dependencies, s.theme⟩

-- Files whose first manifest and whose first entry point are those of the project itself.
structure Led (fs : List SourceFile) (manifest entry : SourceFile) : Prop where
  manifest_first : fs.find? (·.path.finishesWith Manifest.fileName) = some manifest
  manifest_path : manifest.path = Manifest.fileName
  entry_first : fs.find? (Theme.isEntryPoint ·.path) = some entry
  entry_path : entry.path = Theme.entryPoint

variable {manifest entry f : SourceFile} {name : String} {depth : Datum}

theorem not_isNested_manifest (h : f.path = Manifest.fileName) : isNested f.path = false := by
  rw [h]
  decide +kernel

theorem not_isNested_entry (h : f.path = Theme.entryPoint) : isNested f.path = false := by
  rw [h]
  decide +kernel

-- What comes first of a list and is kept comes first of what is kept.
theorem find?_own {q : SourceFile → Bool} (h : fs.find? q = some f)
    (hf : isNested f.path = false) : (own fs).find? q = some f := by
  obtain ⟨hq, before, after, rfl, hbefore⟩ := List.find?_eq_some_iff_append.mp h
  rw [own, List.filter_append, List.filter_cons_of_pos (by rw [hf]; rfl)]
  exact List.find?_eq_some_iff_append.mpr
    ⟨hq, _, _, rfl, fun g hg => hbefore g (List.mem_filter.mp hg).1⟩

theorem not_manifest_of_isDart {path : String} (h : Path.isDart path) :
    path.finishesWith Manifest.fileName = false := by
  by_contra hm
  have hmanifest := List.isSuffixOf_iff_suffix.mp (Bool.not_eq_false _ ▸ hm)
  have hdart := List.isSuffixOf_iff_suffix.mp h
  have hsuffix := List.suffix_of_suffix_length_le hdart hmanifest (by decide)
  exact absurd hsuffix (by decide)

-- Manifests are no Dart files, and entry points are no theme files.
theorem filesOf_own : Theme.filesOf (own fs) = Theme.filesOf fs := by
  have hselect := @Selector.select_filter fs (fun path => !isNested path) Theme.selector
  rw [Theme.filesOf, Theme.filesOf, own, hselect, List.filter_filter]
  refine congrArg (List.mergeSort · _) (List.filter_congr fun f hf => ?_)
  have hdart := Selector.isDart_of_takes (Selector.mem_select.mp hf).1
  rw [isNested, not_manifest_of_isDart hdart]
  cases Theme.isEntryPoint f.path
  case true => rfl
  case false => rfl

-- Without the packages inside it a project whose own files come first has the same facts.
theorem facts_own (h : Led fs manifest entry) :
    (ofFiles (own fs) name depth).map factsOf = (ofFiles fs name depth).map factsOf := by
  have hmanifest := find?_own h.manifest_first (not_isNested_manifest h.manifest_path)
  have hentry := find?_own h.entry_first (not_isNested_entry h.entry_path)
  have hm : manifestOf (own fs) = manifestOf fs := by
    rw [manifestOf, manifestOf, hmanifest, h.manifest_first]
  have htheme : Theme.ofFiles (own fs) = Theme.ofFiles fs := by
    rw [Theme.ofFiles, Theme.ofFiles, filesOf_own, hentry, h.entry_first]
  rw [ofFiles, ofFiles, hm]
  cases Depth.ofDatum depth
  case error => rfl
  case ok d =>
    cases manifestOf fs
    case error => rfl
    case ok m => exact congrArg Except.ok (by simp [factsOf, snapshot, htheme])

-- The facts that a manifest and a theme give. A manifest without a name takes the given one.
def factsFrom (m : Manifest) (name : String) (t : Theme) : Facts :=
  ⟨.text (if m.name == "unknown" then name else m.name), .text m.description,
    .text m.flutterVersion, .text m.dartMin, m.dependencies, some t⟩

-- The facts are those of the first manifest, and of the first entry point with the theme files.
theorem facts_eq (hm : fs.find? (·.path.finishesWith Manifest.fileName) = some manifest)
    (he : fs.find? (Theme.isEntryPoint ·.path) = some entry) :
    (ofFiles fs name "deep").map factsOf =
      ((Manifest.ofText manifest.content).mapError .fault).map fun m =>
        factsFrom m name (Theme.gather (some entry) (Theme.filesOf (own fs))) := by
  have htheme : Theme.gather (some entry) (Theme.filesOf (own fs)) = Theme.ofFiles fs := by
    rw [Theme.ofFiles, he, filesOf_own]
  rw [ofFiles, manifestOf, hm, htheme]
  cases hread : Manifest.ofText manifest.content
  case error => simp only [hread]; rfl
  case ok m =>
    simp only [hread]
    change Except.ok (factsOf (snapshot (if m.name == "unknown" then { m with name := name } else m)
      _ fs .deep)) = Except.ok (factsFrom m name (Theme.ofFiles fs))
    rw [factsFrom]
    split
    · rfl
    · rfl

-- Of lists in which the project's own manifest and entry point come first, and which differ only in
-- those of packages inside it, an analysis takes the same facts: those of the project.
theorem facts_of_led {manifest' entry' : SourceFile} (hf : Led fs manifest entry)
    (hg : Led gs manifest' entry') (h : own fs = own gs) :
    (ofFiles fs name depth).map factsOf = (ofFiles gs name depth).map factsOf ∧
    (ofFiles fs name "deep").map factsOf =
      ((Manifest.ofText manifest.content).mapError .fault).map fun m =>
        factsFrom m name (Theme.gather (some entry) (Theme.filesOf (own fs))) := by
  refine ⟨?_, facts_eq hf.manifest_first hf.entry_first⟩
  rw [← facts_own hf, ← facts_own hg, h]

-- A project, its example, and what comes first of the project.
def shopFiles : List SourceFile :=
  [⟨"pubspec.yaml", "name: shop\n"⟩, ⟨"lib/main.dart", "primaryColor: Color(0xFF112233)\n"⟩]

def exampleFiles : List SourceFile :=
  [⟨"example/pubspec.yaml", "name: demo\n"⟩,
    ⟨"example/lib/main.dart", "primaryColor: Color(0xFF445566)\n"⟩]

theorem facts_of_led_shop :
    (ofFiles (shopFiles ++ exampleFiles) "app" "deep").map factsOf =
      (ofFiles shopFiles "app" "deep").map factsOf := by
  have hled : Led shopFiles ⟨"pubspec.yaml", "name: shop\n"⟩
      ⟨"lib/main.dart", "primaryColor: Color(0xFF112233)\n"⟩ := by
    constructor
    all_goals decide +kernel
  have hled' : Led (shopFiles ++ exampleFiles) ⟨"pubspec.yaml", "name: shop\n"⟩
      ⟨"lib/main.dart", "primaryColor: Color(0xFF112233)\n"⟩ := by
    constructor
    all_goals decide +kernel
  exact (facts_of_led hled' hled (by decide +kernel)).1

-- An example that is listed first gives its own name and theme to the project.
theorem not_nested_ignored : ¬ ∀ fs gs : List SourceFile, ∀ name,
    (fs.map (·.path)).Nodup → (gs.map (·.path)).Nodup →
    (∃ m ∈ fs, m.path = Manifest.fileName) → (∃ e ∈ fs, e.path = Theme.entryPoint) →
    own fs = own gs →
    (ofFiles fs name "deep").map factsOf = (ofFiles gs name "deep").map factsOf := by
  intro h
  have hsame := h (exampleFiles ++ shopFiles) shopFiles "app" (by decide +kernel)
    (by decide +kernel) (by decide +kernel) (by decide +kernel) (by decide +kernel)
  have hdemo : (((ofFiles (exampleFiles ++ shopFiles) "app" "deep").map factsOf).toOption.any
      (·.name.same "demo")) = true := by decide +kernel
  have hshop : (((ofFiles shopFiles "app" "deep").map factsOf).toOption.any
      (·.name.same "demo")) = false := by decide +kernel
  rw [hsame, hshop] at hdemo
  cases hdemo

end Analysis

end Refit
