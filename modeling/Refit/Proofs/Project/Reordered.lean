import Mathlib.Data.List.Nodup
import Mathlib.Data.List.Perm.Basic
import Refit.Project.Analysis
import Refit.Proofs.Project.Layout
import Refit.Proofs.Source.Selection

/-!
The analysis of a list of files, and the order they are listed in.

At distinct paths the order decides nothing but the order of what is found, as long as no two
manifests and no two entry points compete.
-/

namespace Refit

variable {fs gs : List SourceFile} {p : SourceFile → Bool}

-- At most one file of a list has a property.
def AtMostOne (p : SourceFile → Bool) (fs : List SourceFile) : Prop :=
  ∀ f ∈ fs, ∀ g ∈ fs, p f → p g → f = g

instance : Decidable (AtMostOne p fs) :=
  inferInstanceAs (Decidable (∀ f ∈ fs, ∀ g ∈ fs, p f → p g → f = g))

theorem find?_perm (h : fs.Perm gs) (hu : AtMostOne p fs) : fs.find? p = gs.find? p := by
  cases hg : gs.find? p
  case none =>
    refine List.find?_eq_none.mpr fun f hf => ?_
    exact List.find?_eq_none.mp hg f (h.mem_iff.mp hf)
  case some g =>
    have hmem := h.mem_iff.mpr (List.mem_of_find?_eq_some hg)
    cases hf : fs.find? p
    case none => exact absurd (List.find?_some hg) (List.find?_eq_none.mp hf g hmem)
    case some f =>
      rw [hu f (List.mem_of_find?_eq_some hf) g hmem (List.find?_some hf) (List.find?_some hg)]

namespace Selector

variable {s : Selector}

theorem selectFrom_of_nodup {seen : List String} (hn : (fs.map (·.path)).Nodup)
    (hseen : ∀ f ∈ fs, f.path ∉ seen) : s.selectFrom seen fs = fs.filter (s.takes ·.path) := by
  induction fs generalizing seen
  case nil => rfl
  case cons f fs ih =>
    obtain ⟨hf, hn⟩ := List.nodup_cons.mp hn
    obtain ⟨hfirst, hrest⟩ := List.forall_mem_cons.mp hseen
    rw [selectFrom_cons]
    split
    case isTrue h =>
      rw [List.filter_cons_of_pos (by exact h.2)]
      refine congrArg (f :: ·) (ih hn fun g hg hmem => ?_)
      rcases List.mem_cons.mp hmem with heq | hmem
      · exact hf (List.mem_map.mpr ⟨g, hg, heq⟩)
      · exact hrest g hg hmem
    case isFalse h =>
      rw [List.filter_cons_of_neg (by exact fun ht => h ⟨hfirst, ht⟩)]
      exact ih hn hrest

-- A selection from files at distinct paths is a matter of each path alone.
theorem select_of_nodup (hn : (fs.map (·.path)).Nodup) :
    s.select fs = fs.filter (s.takes ·.path) :=
  selectFrom_of_nodup hn fun _ _ => List.not_mem_nil

theorem select_perm (h : fs.Perm gs) (hn : (fs.map (·.path)).Nodup) :
    (s.select fs).Perm (s.select gs) := by
  rw [select_of_nodup hn, select_of_nodup ((h.map _).nodup_iff.mp hn)]
  exact h.filter _

end Selector

namespace Architecture

variable {ws vs : List (List String)}

theorem listPaths_perm (h : ws.Perm vs) : listPaths ws = listPaths vs := by
  funext at_
  refine eq_of_ascending ascending_listPaths ascending_listPaths fun x => ?_
  simp only [mem_listPaths, h.mem_iff]

theorem treeOf_perm {root : String} (h : ws.Perm vs) : treeOf root ws = treeOf root vs := by
  have hsorted : ws.mergeSort Path.before = vs.mergeSort Path.before := by
    refine List.Perm.eq_of_pairwise (fun _ _ _ _ => Path.before_antisymm)
      (Path.pairwise_before_mergeSort ws) (Path.pairwise_before_mergeSort vs) ?_
    exact ((List.mergeSort_perm ws _).trans h).trans (List.mergeSort_perm vs _).symm
  rw [treeOf, treeOf, hsorted]

-- The layout is that of the paths, in any order.
theorem ofPaths_perm {ps qs : List String} {root : String} (h : ps.Perm qs) :
    ofPaths ps root = ofPaths qs root := by
  have hfiles := h.filterMap (below? root)
  rw [ofPaths, ofPaths, listPaths_perm hfiles, treeOf_perm hfiles]

end Architecture

namespace Theme

theorem filesOf_perm_select :
    (filesOf fs).Perm ((selector.select fs).filter (! isEntryPoint ·.path)) :=
  List.mergeSort_perm _ _

theorem pairwise_filesOf (fs : List SourceFile) :
    (filesOf fs).Pairwise fun f g => f.path ≤ g.path := by
  let byPath (f g : SourceFile) : Bool := f.path ≤ g.path
  have htrans (f g h : SourceFile) (hfg : byPath f g) (hgh : byPath g h) : byPath f h :=
    decide_eq_true (String.le_trans (of_decide_eq_true hfg) (of_decide_eq_true hgh))
  have htotal (f g : SourceFile) : byPath f g || byPath g f := by
    simpa [byPath] using String.le_total f.path g.path
  exact (List.pairwise_mergeSort htrans htotal _).imp of_decide_eq_true

-- Files at distinct paths are in one order by their paths.
theorem filesOf_perm (h : fs.Perm gs) (hn : (fs.map (·.path)).Nodup) : filesOf fs = filesOf gs := by
  have hselect := (Selector.select_perm (s := selector) h hn).filter (! isEntryPoint ·.path)
  refine List.Perm.eq_of_pairwise (fun f g hf hg hfg hgf => ?_) (pairwise_filesOf fs)
    (pairwise_filesOf gs) ((filesOf_perm_select.trans hselect).trans filesOf_perm_select.symm)
  have hmem {hs : List SourceFile} : ∀ x ∈ filesOf hs, x ∈ hs := fun x hx =>
    (Selector.mem_select.mp (List.mem_filter.mp (filesOf_perm_select.mem_iff.mp hx)).1).2.mem
  exact List.inj_on_of_nodup_map hn (hmem f hf) (h.mem_iff.mpr (hmem g hg))
    (String.le_antisymm hfg hgf)

theorem ofFiles_perm (h : fs.Perm gs) (hn : (fs.map (·.path)).Nodup)
    (he : AtMostOne (isEntryPoint ·.path) fs) : ofFiles fs = ofFiles gs := by
  rw [ofFiles, ofFiles, find?_perm h he, filesOf_perm h hn]

end Theme

theorem Stats.ofFiles_perm (h : fs.Perm gs) : ofFiles fs = ofFiles gs := by
  have hdart := h.filter (Path.isDart ·.path)
  have hcounts := (hdart.filter (! isTest ·.path)).map (linesOf ·.content.toList)
  have hlines {ns ms : List Nat} (h : ns.Perm ms) : ns.foldl (· + ·) 0 = ms.foldl (· + ·) 0 :=
    h.foldl_eq 0
  rw [ofFiles, ofFiles, h.length_eq, hdart.length_eq, (hdart.filter (isTest ·.path)).length_eq]
  simp only [hlines hcounts]

-- Two snapshots that differ at most in the order in which they list models, screens and widgets.
structure Snapshot.Reordered (s t : Snapshot) : Prop where
  models : s.models.Perm t.models
  screens : s.screens.Perm t.screens
  widgets : s.widgets.Perm t.widgets
  rest : { s with models := t.models, screens := t.screens, widgets := t.widgets } = t

namespace Analysis

variable {m : Manifest} {d : Depth}

theorem snapshot_perm (h : fs.Perm gs) (hn : (fs.map (·.path)).Nodup)
    (he : AtMostOne (Theme.isEntryPoint ·.path) fs) :
    (snapshot m (Architecture.ofPaths (fs.map (·.path))) fs d).Reordered
      (snapshot m (Architecture.ofPaths (gs.map (·.path))) gs d) where
  models := (Selector.select_perm h hn).flatMap fun _ _ => .refl _
  screens := by
    dsimp only [snapshot]
    split
    · exact .refl _
    · exact (Selector.select_perm h hn).flatMap fun _ _ => .refl _
  widgets := by
    dsimp only [snapshot]
    split
    · exact (Selector.select_perm h hn).flatMap fun _ _ => .refl _
    · exact .refl _
  rest := by
    rw [Architecture.ofPaths_perm (h.map (·.path)), snapshot, snapshot,
      Theme.ofFiles_perm h hn he, Stats.ofFiles_perm h]

-- What two analyses of the same files come to: the same failure, or snapshots that differ at most
-- in order.
inductive SameUpToOrder : Except Stop Snapshot → Except Stop Snapshot → Prop
  | failed (e : Stop) : SameUpToOrder (.error e) (.error e)
  | found {s t : Snapshot} : s.Reordered t → SameUpToOrder (.ok s) (.ok t)

-- The order of the files decides only the order of what is found in them.
theorem ofFiles_reordered {name : String} {depth : Datum} (h : fs.Perm gs)
    (hn : (fs.map (·.path)).Nodup)
    (hm : AtMostOne (·.path.finishesWith Manifest.fileName) fs)
    (he : AtMostOne (Theme.isEntryPoint ·.path) fs) :
    SameUpToOrder (ofFiles fs name depth) (ofFiles gs name depth) := by
  have hmanifest : manifestOf gs = manifestOf fs := by rw [manifestOf, manifestOf, find?_perm h hm]
  rw [ofFiles, ofFiles, hmanifest]
  cases Depth.ofDatum depth
  case error e => exact .failed e
  case ok d =>
    cases manifestOf fs
    case error f => exact .failed (.fault f)
    case ok m => exact .found (snapshot_perm h hn he)

-- A shop whose two models, screen and colours are listed in one order or in the other.
def stockFiles : List SourceFile :=
  [⟨"lib/models/user.dart", "class User \x7b\n  final String id;\n\x7d\n"⟩,
    ⟨"lib/theme/colors.dart", "primaryColor: Color(0xFF112233)\n"⟩,
    ⟨"pubspec.yaml", "name: shop\n"⟩,
    ⟨"lib/screens/home.dart", "class HomeScreen extends StatelessWidget {}\n"⟩,
    ⟨"lib/models/item.dart", "class Item \x7b\n  final int count;\n\x7d\n"⟩,
    ⟨"lib/main.dart", "accentColor: Color(0xFF445566)\n"⟩,
    ⟨"lib/app_theme.dart", "primaryColor: Color(0xFF778899)\n"⟩]

theorem ofFiles_reordered_stock :
    stockFiles ≠ stockFiles.reverse ∧
    SameUpToOrder (ofFiles stockFiles "app" "deep") (ofFiles stockFiles.reverse "app" "deep") :=
  ⟨by decide, ofFiles_reordered (List.reverse_perm _).symm (by decide) (by decide +kernel)
    (by decide +kernel)⟩

end Analysis

end Refit
