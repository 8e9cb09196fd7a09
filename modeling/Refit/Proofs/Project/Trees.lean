import Refit.Proofs.Project.Layout

/-!
Folder trees, by the ways that lead through them.

The tree of a list of paths has one node for each way to or through one of the files, down to a
depth. A way that is itself a file leads to a file, whatever lies below it.
-/

namespace Refit

namespace Folder

variable {f g g' c : Folder} {n : Nat} {w : String} {ws : List String} {P : List String → Prop}

-- A way from one node down to another, by the names of the nodes on it.
inductive Leads : Folder → List String → Folder → Prop
  | here (f : Folder) : Leads f [] f
  | down {f c g : Folder} {w : String} {ws : List String} :
      c ∈ f.children → c.name = .text w → Leads c ws g → Leads f (w :: ws) g

-- How a node lies in another one. Its path goes on from there, and it is a file or a directory.
-- What a file is for is told by its name and that of the node above.
inductive Hangs (isFile : Prop) : Folder → String → Folder → Prop
  | file {above path w : String} {t x y : Datum} {cs ds : List Folder} : isFile →
      Hangs isFile (.node (.text above) (.text path) t cs x y) w
        (.node (.text w) (.text (path ++ "/" ++ w)) "file" ds (.text (fileTypeOf w))
          (.text (categoryOf w above)))
  | directory {above path w : String} {t x y : Datum} {cs ds : List Folder} : ¬isFile →
      Hangs isFile (.node (.text above) (.text path) t cs x y) w
        (.node (.text w) (.text (path ++ "/" ++ w)) "directory" ds .null .null)

-- The nodes of a tree are those on the ways to some files, down to a depth: one at the end of each
-- way, by name in each node.
structure Shows (n : Nat) (IsFile : List String → Prop) (f : Folder) : Prop where
  ways : ∀ ws, (∃ g, f.Leads ws g) ↔ ws = [] ∨ ws.length ≤ n ∧ ∃ r, IsFile r ∧ ws <+: r
  unique : ∀ ws g g', f.Leads ws g → f.Leads ws g' → g = g'
  ascending : ∀ ws g, f.Leads ws g →
    ∃ names : List String, g.children.map name = names.map .text ∧ names.Pairwise (· < ·)
  hangs : ∀ ws g, f.Leads ws g → ∀ c ∈ g.children, ∃ w, Hangs (IsFile (ws ++ [w])) g w c

theorem leads_nil_iff : f.Leads [] g ↔ g = f :=
  ⟨fun h => by cases h; rfl, fun h => h ▸ .here f⟩

theorem leads_cons_iff :
    f.Leads (w :: ws) g ↔ ∃ c ∈ f.children, c.name = .text w ∧ c.Leads ws g := by
  constructor
  · intro h
    cases h
    case down c hc hname hg => exact ⟨c, hc, hname, hg⟩
  · rintro ⟨c, hc, hname, hg⟩
    exact .down hc hname hg

namespace Shows

theorem of_children_eq_nil (h : f.children = []) : f.Shows 0 P := by
  have hleads {ws : List String} {g : Folder} : f.Leads ws g ↔ ws = [] ∧ g = f := by
    cases ws
    case nil => simp [leads_nil_iff]
    case cons => simp [leads_cons_iff, h]
  constructor
  case ways =>
    intro ws
    simp only [hleads, exists_and_left, exists_eq, and_true, Nat.le_zero, List.length_eq_zero_iff]
    exact ⟨.inl, fun h => h.elim id And.left⟩
  case unique =>
    intro ws g g' hg hg'
    exact (hleads.mp hg).2.trans (hleads.mp hg').2.symm
  case ascending =>
    intro ws g hg
    obtain ⟨-, rfl⟩ := hleads.mp hg
    exact ⟨[], by rw [h]; rfl, .nil⟩
  case hangs =>
    intro ws g hg c hc
    obtain ⟨-, rfl⟩ := hleads.mp hg
    rw [h] at hc
    cases hc

-- A node above those that show the files behind each name.
theorem of_children {heads : List String} {child : String → Folder}
    (hchildren : f.children = heads.map child) (hnames : ∀ w, (child w).name = .text w)
    (hasc : heads.Pairwise (· < ·)) (hmem : ∀ w, w ∈ heads ↔ ∃ r, P (w :: r))
    (hhangs : ∀ w ∈ heads, Hangs (P [w]) f w (child w))
    (hshows : ∀ w, (child w).Shows n fun r => P (w :: r)) : f.Shows (n + 1) P := by
  have hcons {w : String} {ws : List String} {g : Folder} :
      f.Leads (w :: ws) g ↔ w ∈ heads ∧ (child w).Leads ws g := by
    simp [leads_cons_iff, hchildren, hnames]
  constructor
  case ways =>
    intro ws
    cases ws
    case nil => exact ⟨fun _ => .inl rfl, fun _ => ⟨f, .here f⟩⟩
    case cons w ws =>
      simp only [hcons, exists_and_left, (hshows w).ways, reduceCtorEq, false_or, hmem,
        List.length_cons, Nat.add_le_add_iff_right]
      constructor
      · rintro ⟨⟨r, hr⟩, rfl | ⟨hn, r', hr', hws⟩⟩
        · exact ⟨Nat.zero_le n, _, hr, by simp⟩
        · exact ⟨hn, _, hr', by simpa using hws⟩
      · rintro ⟨hn, r, hr, hws⟩
        obtain ⟨r, rfl⟩ := hws
        exact ⟨⟨ws ++ r, hr⟩, .inr ⟨hn, ws ++ r, hr, List.prefix_append ws r⟩⟩
  case unique =>
    intro ws g g' hg hg'
    cases ws
    case nil => exact (leads_nil_iff.mp hg).trans (leads_nil_iff.mp hg').symm
    case cons w ws => exact (hshows w).unique ws g g' (hcons.mp hg).2 (hcons.mp hg').2
  case ascending =>
    intro ws g hg
    cases ws
    case nil =>
      refine ⟨heads, ?_, hasc⟩
      rw [leads_nil_iff.mp hg, hchildren, List.map_map]
      exact List.map_congr_left fun w _ => hnames w
    case cons w ws => exact (hshows w).ascending ws g (hcons.mp hg).2
  case hangs =>
    intro ws g hg c hc
    cases ws
    case nil =>
      obtain rfl := leads_nil_iff.mp hg
      obtain ⟨w, hw, rfl⟩ := List.mem_map.mp (hchildren ▸ hc)
      exact ⟨w, hhangs w hw⟩
    case cons w ws => exact (hshows w).hangs ws g (hcons.mp hg).2 c hc

end Shows

end Folder

namespace Architecture

open Folder (Shows Hangs)
open Refit.Path (Shown)

variable {f : Folder} {files : List (List String)} {n : Nat} {path parent name root : String}
  {paths : List String}

theorem name_nodeOf {rests : List (List String)} :
    (nodeOf n path parent name rests).name = .text name := by
  rw [nodeOf]
  split <;> rfl

theorem children_nodeOf {rests : List (List String)} :
    (nodeOf n path parent name rests).children = treeFrom n (path ++ "/" ++ name) name rests := by
  rw [nodeOf]
  split <;> rfl

theorem path_nodeOf {rests : List (List String)} :
    (nodeOf n path parent name rests).path = .text (path ++ "/" ++ name) := by
  rw [nodeOf]
  split <;> rfl

theorem hangs_nodeOf (hname : f.name = .text parent) (hpath : f.path = .text path) :
    Hangs ([name] ∈ files) f name (nodeOf n path parent name (behind name files)) := by
  obtain ⟨_, _, t, cs, x, y⟩ := f
  obtain rfl : _ = Datum.text parent := hname
  obtain rfl : _ = Datum.text path := hpath
  rw [nodeOf]
  split
  case isTrue hfile => exact .file (mem_behind.mp (by simpa using hfile))
  case isFalse hfile => exact .directory fun h => hfile (by simpa using mem_behind.mpr h)

-- A node with the tree of some files below it.
theorem shows_treeFrom (hs : files.Pairwise fun a b => Path.before a b)
    (hname : f.name = .text parent) (hpath : f.path = .text path)
    (hchildren : f.children = treeFrom n path parent files) : f.Shows n (· ∈ files) := by
  induction n generalizing f files path parent
  case zero => exact .of_children_eq_nil hchildren
  case succ n ih =>
    rw [treeFrom_succ] at hchildren
    refine .of_children hchildren (fun w => name_nodeOf) (ascending_heads hs)
      (fun w => List.mem_eraseDups.trans mem_heads) (fun w _ => hangs_nodeOf hname hpath)
      fun w => ?_
    have hshows : (nodeOf n path parent w (behind w files)).Shows n (· ∈ behind w files) :=
      ih (pairwise_behind hs) name_nodeOf path_nodeOf children_nodeOf
    simpa only [mem_behind] using hshows

-- What follows the first source folder on one of some paths, where no segment of it is hidden.
def Contributes (root : String) (paths : List String) (r : List String) : Prop :=
  ∃ p ∈ paths, ∃ above, Path.parts p = above ++ root :: r ∧ root ∉ above ∧ r ≠ [] ∧ Shown r

theorem mem_filterMap_below? {r : List String} :
    r ∈ paths.filterMap (below? root) ↔ Contributes root paths r := by
  simp only [List.mem_filterMap, below?_iff, Contributes]

-- The tree of some paths shows what contributes to it, and nothing else.
theorem shows_ofPaths (paths : List String) (root : String) :
    (ofPaths paths root).structure_.name = .text root ∧
      (ofPaths paths root).structure_.path = .text root ∧
      (ofPaths paths root).structure_.type = "directory" ∧
      (ofPaths paths root).structure_.Shows 3 (Contributes root paths) := by
  have htree : (ofPaths paths root).structure_ = treeOf root (paths.filterMap (below? root)) := by
    rw [ofPaths, classify]
    dsimp only
    split <;> rfl
  rw [htree]
  refine ⟨rfl, rfl, rfl, ?_⟩
  have hsorted := (Path.pairwise_before_mergeSort (paths.filterMap (below? root))).sublist
    (eraseDups_sublist _)
  have hshows : (treeOf root (paths.filterMap (below? root))).Shows 3 _ :=
    shows_treeFrom hsorted rfl rfl rfl
  simpa only [List.mem_eraseDups, List.mem_mergeSort, mem_filterMap_below?] using hshows

end Architecture

end Refit
