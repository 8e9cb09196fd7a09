import Refit.Proofs.Disk.Mirrored
import Refit.Proofs.Session.Ends
import Refit.Proofs.Source.Listing
import Refit.Proofs.Source.Path
import Refit.Project.InFolder

/-!
The layout of a source folder, as it is listed on the disk and as the paths of its files tell it.

A folder is only told by the files that paths lead to, so the two agree where each folder leads to a
file. Both list by name, so what is listed is enough to tell how.
-/

namespace Refit

namespace Path

variable {ws : List String}

-- Segments none of which is hidden.
def Shown (ws : List String) : Prop :=
  ∀ w ∈ ws, w.beginsWith "." = false

theorem not_any_hidden_iff : ws.any (·.beginsWith ".") = false ↔ Shown ws := by
  simp [Shown]

end Path

open Refit.Path (Shown Proper)

instance (ws : List String) : Decidable (Proper ws) :=
  inferInstanceAs (Decidable (∀ w ∈ ws, Path.counts w ∧ '/' ∉ w.toList))

instance (ws : List String) : Decidable (Shown ws) :=
  inferInstanceAs (Decidable (∀ w ∈ ws, w.beginsWith "." = false))

instance (d : Disk) : Decidable d.Distinct :=
  inferInstanceAs (Decidable (d.nodes.map Prod.fst).Nodup)

namespace Disk

variable {d : Disk} {p q rel r : List String} {name : String} {n : Node}

-- A file below a place, by the segments that lead there.
def HasFile (d : Disk) (p rel : List String) : Prop :=
  ∃ c, (p ++ rel, .file c) ∈ d.nodes

-- All that is below a place lies in folders, and has names that paths can be made of.
structure Nested (d : Disk) (p : List String) : Prop where
  distinct : d.Distinct
  around : ∀ rel name n, (p ++ (rel ++ [name]), n) ∈ d.nodes → d.find? (p ++ rel) = some .folder
  proper : ∀ rel n, (p ++ rel, n) ∈ d.nodes → Proper rel

-- Each folder below a place that is not hidden leads to a file that is not hidden.
def Filled (d : Disk) (p : List String) : Prop :=
  ∀ rel, (p ++ rel, .folder) ∈ d.nodes → rel ≠ [] → Shown rel →
    ∃ more, Shown more ∧ d.HasFile p (rel ++ more)

theorem Nested.below (h : Nested d p) (q : List String) : Nested d (p ++ q) where
  distinct := h.distinct
  around rel name n hn := by
    rw [List.append_assoc]
    exact h.around (q ++ rel) name n (by simpa using hn)
  proper rel n hn := fun w hw =>
    h.proper (q ++ rel) n (by simpa using hn) w (List.mem_append_right q hw)

theorem Filled.below (h : Filled d p) (hq : Shown q) : Filled d (p ++ q) := by
  intro rel hrel hne hshown
  have hall : Shown (q ++ rel) := List.forall_mem_append.mpr ⟨hq, hshown⟩
  obtain ⟨more, hmore, c, hc⟩ := h (q ++ rel) (by simpa using hrel) (by simp [hne]) hall
  exact ⟨more, hmore, c, by simpa using hc⟩

theorem Nested.of_nodes (hd : d.Distinct) (h : ∀ x ∈ d.nodes, p <+: x.1 → x.1 ≠ p →
    d.find? x.1.dropLast = some .folder ∧ Proper (x.1.drop p.length)) : Nested d p where
  distinct := hd
  around rel name n hn := by
    have hfolder := (h _ hn (List.prefix_append ..) (by simp)).1
    rwa [← List.append_assoc, List.dropLast_concat] at hfolder
  proper rel n hn := by
    cases rel
    case nil => exact List.forall_mem_nil _
    case cons => simpa using (h _ hn (List.prefix_append ..) (by simp)).2

-- What leads on to something is a folder.
theorem Nested.folder_of_below (h : Nested d p) (hr : r ≠ [])
    (hn : (p ++ (rel ++ r), n) ∈ d.nodes) : d.find? (p ++ rel) = some .folder := by
  induction r using List.reverseRecOn generalizing n
  case nil => exact absurd rfl hr
  case append_singleton r name ih =>
    have hfolder := h.around (rel ++ r) name n (by simpa using hn)
    by_cases hr : r = []
    case pos => simpa [hr] using hfolder
    case neg => exact ih hr ((h.distinct.find?_iff (by simp [hr])).mp hfolder)

theorem Nested.folder_of_file (h : Nested d p) (hr : r ≠ []) (hf : d.HasFile p (name :: r)) :
    (name, .folder) ∈ d.children p := by
  obtain ⟨c, hc⟩ := hf
  have hfolder := @Nested.folder_of_below d p [name] r _ h hr hc
  exact mem_children.mpr ((h.distinct.find?_iff (by simp)).mp hfolder)

theorem Distinct.ascending_children (h : d.Distinct) :
    (d.children p).Pairwise fun a b => a.1 < b.1 := by
  refine ((d.pairwise_children p).and h.nodup_children).imp_of_mem ?_
  rintro ⟨x, n⟩ ⟨y, m⟩ hx hy ⟨hle, hne⟩
  refine Std.lt_of_le_of_ne hle fun heq => hne ?_
  obtain rfl : x = y := heq
  rw [h.eq_of_mem_children hx hy]

theorem mem_folderNames : name ∈ d.folderNames p ↔
    (name, .folder) ∈ d.children p ∧ name.beginsWith "." = false := by
  rw [folderNames, List.mem_filterMap]
  constructor
  · rintro ⟨⟨x, n⟩, hx, h⟩
    cases n
    case folder =>
      cases hhidden : x.beginsWith "."
      case false =>
        obtain rfl : x = name := by simpa [hhidden] using h
        exact ⟨hx, hhidden⟩
      case true => simp [hhidden] at h
    case file => cases h
  · rintro ⟨hx, hshown⟩
    exact ⟨_, hx, by simp [hshown]⟩

theorem Distinct.ascending_folderNames (h : d.Distinct) :
    (d.folderNames p).Pairwise (· < ·) := by
  refine h.ascending_children.filterMap _ fun (x, n) (y, m) hxy a ha b hb => ?_
  cases n
  case file => cases ha
  case folder =>
    cases m
    case file => cases hb
    case folder =>
      obtain ⟨_, ha⟩ := Option.ite_none_left_eq_some.mp ha
      obtain ⟨_, hb⟩ := Option.ite_none_left_eq_some.mp hb
      rwa [← Option.some.inj ha, ← Option.some.inj hb]

end Disk

namespace Architecture

open Disk

variable {d : Disk} {p at_ : List String} {fs : List (List String)} {name path : String}
  {list list' : Lister}

-- The files in a folder that are not hidden, whatever the order they are listed in.
def Lists (d : Disk) (p : List String) (fs : List (List String)) : Prop :=
  ∀ rel, rel ∈ fs ↔ Shown rel ∧ rel ≠ [] ∧ d.HasFile p rel

theorem mem_heads : name ∈ fs.filterMap List.head? ↔ ∃ r, name :: r ∈ fs := by
  simp only [List.mem_filterMap, List.head?_eq_some_iff]
  constructor
  · rintro ⟨_, hr, r, rfl⟩
    exact ⟨r, hr⟩
  · rintro ⟨r, hr⟩
    exact ⟨_, hr, r, rfl⟩

-- The names that files begin with are those in the folder.
theorem Lists.mem_heads (hl : Lists d p fs) (ht : Nested d p) (hf : Filled d p) :
    name ∈ fs.filterMap List.head? ↔
      name.beginsWith "." = false ∧ ∃ n, (name, n) ∈ d.children p := by
  rw [Architecture.mem_heads]
  constructor
  · rintro ⟨r, hm⟩
    obtain ⟨hshown, _, hfile⟩ := (hl _).mp hm
    refine ⟨hshown name (.head _), ?_⟩
    by_cases hr : r = []
    case pos =>
      obtain ⟨c, hc⟩ := hr ▸ hfile
      exact ⟨_, mem_children.mpr hc⟩
    case neg => exact ⟨_, ht.folder_of_file hr hfile⟩
  · rintro ⟨hshown, n, hn⟩
    have hone : Shown [name] := by simpa [Shown] using hshown
    have hnode := mem_children.mp hn
    cases n
    case file c => exact ⟨[], (hl _).mpr ⟨hone, by simp, c, hnode⟩⟩
    case folder =>
      obtain ⟨more, hmore, hfile⟩ := hf [name] hnode (by simp) hone
      exact ⟨more, (hl _).mpr ⟨List.forall_mem_append.mpr ⟨hone, hmore⟩, by simp, hfile⟩⟩

theorem ascending_heads (hs : fs.Pairwise fun a b => Path.before a b) :
    (fs.filterMap List.head?).eraseDups.Pairwise (· < ·) := by
  refine ascending_of_nodup (.sublist (eraseDups_sublist _) ?_) (nodup_eraseDups _)
  refine hs.filterMap _ fun f g hfg x hx y hy => ?_
  obtain ⟨f, rfl⟩ := List.head?_eq_some_iff.mp hx
  obtain ⟨g, rfl⟩ := List.head?_eq_some_iff.mp hy
  exact Path.le_of_before hfg

-- The files in a folder, given from there.
def behind (name : String) (fs : List (List String)) : List (List String) :=
  fs.filterMap fun f =>
    match f with
    | [] => none
    | x :: r => if x == name then some r else none

theorem mem_behind {r : List String} : r ∈ behind name fs ↔ name :: r ∈ fs := by
  rw [behind, List.mem_filterMap]
  constructor
  · rintro ⟨f, hf, hr⟩
    split at hr
    case h_1 => cases hr
    case h_2 =>
      split at hr
      case isTrue hx => exact eq_of_beq hx ▸ Option.some.inj hr ▸ hf
      case isFalse => cases hr
  · exact fun h => ⟨_, h, by simp⟩

theorem pairwise_behind (h : fs.Pairwise fun a b => Path.before a b) :
    (behind name fs).Pairwise fun a b => Path.before a b := by
  refine h.filterMap _ fun f g hfg r hr s hs => ?_
  cases f
  case nil => cases hr
  case cons x f =>
    cases g
    case nil => cases hs
    case cons y g =>
      obtain ⟨hx, hr⟩ := Option.ite_none_right_eq_some.mp hr
      obtain ⟨hy, hs⟩ := Option.ite_none_right_eq_some.mp hs
      rw [eq_of_beq hx, eq_of_beq hy, Option.some.inj hr, Option.some.inj hs] at hfg
      exact Path.before_of_cons hfg

-- What a name stands for.
def nodeOf (n : Nat) (path parent name : String) (rests : List (List String)) : Folder :=
  let own := path ++ "/" ++ name
  let children := treeFrom n own name rests
  if rests.contains [] then
    .node (.text name) (.text own) "file" children (.text (Folder.fileTypeOf name))
      (.text (Folder.categoryOf name parent))
  else .folder name own children

theorem treeFrom_succ {n : Nat} {parent : String} : treeFrom (n + 1) path parent fs =
    (fs.filterMap List.head?).eraseDups.map fun name =>
      nodeOf n path parent name (behind name fs) :=
  rfl

theorem treeFrom_eq_nil {n : Nat} {parent : String} (h : ∀ f ∈ fs, f = []) :
    treeFrom n path parent fs = [] := by
  cases n
  case zero => rfl
  case succ n =>
    have hheads : fs.filterMap List.head? = [] :=
      List.filterMap_eq_nil_iff.mpr fun f hf => by rw [h f hf]; rfl
    rw [treeFrom_succ, hheads]
    rfl

theorem Lists.behind (h : Lists d p fs) (hd : d.Distinct) (hname : name.beginsWith "." = false)
    (hfolder : (name, .folder) ∈ d.children p) : Lists d (p ++ [name]) (behind name fs) := by
  intro rel
  rw [mem_behind, h]
  constructor
  · rintro ⟨hshown, _, hfile⟩
    obtain ⟨c, hc⟩ := hfile
    refine ⟨fun w hw => hshown w (.tail _ hw), ?_, c, by simpa using hc⟩
    rintro rfl
    cases hd.eq_of_mem_children hfolder (mem_children.mpr hc)
  · rintro ⟨hshown, _, c, hc⟩
    exact ⟨List.forall_mem_cons.mpr ⟨hname, hshown⟩, by simp, c, by simpa using hc⟩

theorem Lists.eq_nil_of_mem_behind (h : Lists d p fs) (ht : Nested d p) {c : List UInt8}
    (hfile : (name, .file c) ∈ d.children p) : ∀ f ∈ Architecture.behind name fs, f = [] := by
  intro f hf
  by_contra hne
  obtain ⟨_, _, hmore⟩ := (h _).mp (mem_behind.mp hf)
  cases ht.distinct.eq_of_mem_children hfile (ht.folder_of_file hne hmore)

-- The tree of a folder is told by the files in it.
theorem treeFrom_eq_nodesAt {n : Nat} (ht : Nested d p) (hf : Filled d p) (hl : Lists d p fs)
    (hs : fs.Pairwise fun a b => Path.before a b) :
    treeFrom n path name fs = Folder.nodesAt d n p name path := by
  induction n generalizing p path name fs
  case zero => rfl
  case succ n ih =>
    have hheads : (fs.filterMap List.head?).eraseDups =
        ((d.children p).filter (! ·.1.beginsWith ".")).map Prod.fst := by
      refine eq_of_ascending (ascending_heads hs) ?_ fun x => ?_
      · exact List.pairwise_map.mpr (ht.distinct.ascending_children.filter _)
      · rw [List.mem_eraseDups, hl.mem_heads ht hf]
        simp [and_comm]
    rw [treeFrom_succ, hheads, List.map_map, Folder.nodesAt]
    refine List.map_congr_left fun ⟨own, m⟩ hm => ?_
    rw [List.mem_filter] at hm
    obtain ⟨hm, hshown⟩ := hm
    have hown : own.beginsWith "." = false := by simpa using hshown
    have hone : Shown [own] := by simpa [Shown] using hown
    cases m
    case file c =>
      have hnil := hl.eq_nil_of_mem_behind ht hm
      have hmem : [] ∈ behind own fs :=
        mem_behind.mpr ((hl _).mpr ⟨hone, by simp, c, mem_children.mp hm⟩)
      simp [nodeOf, hmem, treeFrom_eq_nil hnil, Folder.file]
    case folder =>
      have hbehind := hl.behind ht.distinct hown hm
      have hmem : [] ∉ behind own fs := fun h => ((hbehind _).mp h).2.1 rfl
      have hchildren := @ih (p ++ [own]) (behind own fs) own (path ++ "/" ++ own) (ht.below _)
        (hf.below hone) hbehind (pairwise_behind hs)
      simp [nodeOf, hmem, hchildren]

/-! Listing folders -/

theorem mem_listPaths :
    name ∈ listPaths fs at_ ↔ ∃ r, r ≠ [] ∧ at_ ++ name :: r ∈ fs := by
  rw [listPaths, sortNames, List.mem_mergeSort, List.mem_eraseDups, List.mem_filterMap]
  constructor
  · rintro ⟨f, hf, h⟩
    split at h
    case isFalse => cases h
    case isTrue hat =>
      obtain ⟨rest, rfl⟩ := List.isPrefixOf_iff_prefix.mp hat
      rw [List.drop_left] at h
      split at h
      case h_1 x y r => exact ⟨y :: r, by simp, Option.some.inj h ▸ hf⟩
      case h_2 => cases h
  · rintro ⟨r, hr, hf⟩
    obtain ⟨y, r, rfl⟩ := List.exists_cons_of_ne_nil hr
    exact ⟨_, hf, by simp⟩

theorem ascending_listPaths : (listPaths fs at_).Pairwise (· < ·) := by
  refine ascending_of_nodup ?_ (List.nodup_mergeSort.mpr (nodup_eraseDups _))
  have hsorted : (listPaths fs at_).Pairwise fun a b => decide (a ≤ b) = true :=
    List.pairwise_mergeSort (fun a b c hab hbc => by
      simp only [decide_eq_true_eq] at *
      exact String.le_trans hab hbc) (fun a b => by simpa using String.le_total a b) _
  exact hsorted.imp of_decide_eq_true

-- The folders that are not hidden are told by the files in them.
theorem listPaths_eq_folderNames (ht : Nested d p) (hf : Filled d p) (hl : Lists d p fs)
    (hat : Shown at_) : listPaths fs at_ = d.folderNames (p ++ at_) := by
  refine eq_of_ascending ascending_listPaths ht.distinct.ascending_folderNames fun x => ?_
  rw [mem_listPaths, mem_folderNames]
  constructor
  · rintro ⟨r, hr, hm⟩
    obtain ⟨hshown, _, c, hc⟩ := (hl _).mp hm
    refine ⟨(ht.below at_).folder_of_file hr ⟨c, by simpa using hc⟩, hshown x (by simp)⟩
  · rintro ⟨hfolder, hx⟩
    have hone : Shown [x] := by simpa [Shown] using hx
    obtain ⟨more, hmore, hfile⟩ := hf.below hat [x] (mem_children.mp hfolder) (by simp) hone
    obtain ⟨c, hc⟩ := hfile
    refine ⟨more, ?_, (hl _).mpr ⟨?_, by simp, c, by simpa using hc⟩⟩
    · rintro rfl
      cases ht.distinct.eq_of_mem_children hfolder (mem_children.mpr hc)
    · exact List.forall_mem_append.mpr ⟨hat, List.forall_mem_cons.mpr ⟨hx, hmore⟩⟩

/-! Scores -/

-- Only folders that are not hidden are looked at.
theorem featureScore_congr (hshown : ∀ at_, ∀ x ∈ list at_, x.beginsWith "." = false)
    (h : ∀ at_, Shown at_ → list' at_ = list at_) :
    featureScore (list []) list' = featureScore (list []) list := by
  rw [featureScore, featureScore]
  split
  case h_1 => rfl
  case h_2 root hroot =>
    have hroot := hshown [] root (List.mem_of_find?_eq_some hroot)
    rw [h [root] (by simpa [Shown] using hroot)]
    dsimp only
    split
    case h_1 first _ rest hlist =>
      have hfirst := hshown [root] first (hlist ▸ .head _)
      rw [h [root, first] (by simpa [Shown] using ⟨hroot, hfirst⟩)]
    case h_2 => rfl

theorem classify_congr {tree : Folder} (hshown : ∀ at_, ∀ x ∈ list at_, x.beginsWith "." = false)
    (h : ∀ at_, Shown at_ → list' at_ = list at_) : classify list' tree = classify list tree := by
  have hscore : score list' = score list := by
    funext style
    have hnil := h [] (List.forall_mem_nil _)
    cases style
    case clean => rw [score, score, hnil]
    case featureFirst => rw [score, score, hnil, featureScore_congr hshown h]
    case layerFirst => rw [score, score, hnil]
  rw [classify, classify, hscore]

/-! From a list of paths -/

-- What follows the first segment of a name, that one included.
theorem dropWhile_ne_eq_cons_iff {root w : String} {ws r : List String} :
    ws.dropWhile (· != root) = w :: r ↔
      w = root ∧ ∃ above, ws = above ++ root :: r ∧ root ∉ above := by
  constructor
  · intro h
    have hw : (w != root) = false := by
      have hhead := List.head_dropWhile_not (· != root) (h ▸ List.cons_ne_nil w r)
      simpa only [h, List.head_cons] using hhead
    obtain rfl : w = root := by simpa using hw
    refine ⟨rfl, ws.takeWhile (· != w), ?_, fun hmem => ?_⟩
    · rw [← h, List.takeWhile_append_dropWhile]
    · simpa using List.mem_takeWhile_imp hmem
  · rintro ⟨rfl, above, rfl, habove⟩
    rw [List.dropWhile_append_of_pos fun x hx => bne_iff_ne.mpr (ne_of_mem_of_not_mem hx habove),
      List.dropWhile_cons_of_neg (by simp)]

-- What is behind the first source folder on a path.
theorem below?_iff {root p : String} {r : List String} : below? root p = some r ↔
    ∃ above, Path.parts p = above ++ root :: r ∧ root ∉ above ∧ r ≠ [] ∧ Shown r := by
  rw [below?]
  split
  case h_1 h =>
    refine iff_of_false nofun ?_
    rintro ⟨above, hparts, habove, -, -⟩
    rw [dropWhile_ne_eq_cons_iff.mpr ⟨rfl, above, hparts, habove⟩] at h
    cases h
  case h_2 h =>
    refine iff_of_false nofun ?_
    rintro ⟨above, hparts, habove, hne, -⟩
    rw [dropWhile_ne_eq_cons_iff.mpr ⟨rfl, above, hparts, habove⟩] at h
    exact hne (List.cons.inj h).2
  case h_3 w rest hne h =>
    obtain ⟨rfl, above, hparts, habove⟩ := dropWhile_ne_eq_cons_iff.mp h
    rw [Option.ite_none_left_eq_some, Bool.not_eq_true, Path.not_any_hidden_iff]
    constructor
    · rintro ⟨hshown, ⟨⟩⟩
      exact ⟨above, hparts, habove, hne, hshown⟩
    · rintro ⟨above', hparts', habove', -, hshown⟩
      have hsame := dropWhile_ne_eq_cons_iff.mpr ⟨rfl, above', hparts', habove'⟩
      obtain rfl := (List.cons.inj (h.symm.trans hsame)).2
      exact ⟨hshown, rfl⟩

-- What is behind the source folder, in paths that have a segment of its name nowhere before it.
theorem below?_eq_some_iff {root : String} {rel r : List String} (h : Proper rel)
    (hapart : rel.head? ≠ some root → root ∉ rel) :
    below? root ("/".joining rel) = some r ↔ rel = root :: r ∧ Shown r ∧ r ≠ [] := by
  rw [below?_iff, Path.parts_joining h]
  constructor
  · rintro ⟨above, rfl, habove, hne, hshown⟩
    cases above
    case nil => exact ⟨rfl, hshown, hne⟩
    case cons w above =>
      refine absurd (by simp) (hapart fun hw => habove ?_)
      exact Option.some.inj hw ▸ .head _
  · rintro ⟨rfl, hshown, hne⟩
    exact ⟨[], rfl, List.not_mem_nil, hne, hshown⟩

end Architecture

-- A project whose source folder is the only one of its name, and whose folders of sources lead to
-- files.
structure Disk.Laid (d : Disk) (p : List String) (root : String) : Prop where
  nested : d.Nested p
  filled : d.Filled (p ++ [root])
  apart : ∀ rel, d.HasFile p rel → rel.head? ≠ some root → root ∉ rel

-- The paths of all files below a place, in any order and with any repetitions.
def Disk.PathsOf (d : Disk) (p paths : List String) : Prop :=
  ∀ s, s ∈ paths ↔ ∃ rel, d.HasFile p rel ∧ s = "/".joining rel

variable {d : Disk} {p paths : List String} {root : String} {l : Location} {s : Session}

theorem Architecture.lists_of_paths (h : d.Laid p root) (hpaths : d.PathsOf p paths) :
    Architecture.Lists d (p ++ [root]) (paths.filterMap (Architecture.below? root)) := by
  intro r
  rw [List.mem_filterMap]
  constructor
  · rintro ⟨s, hs, hr⟩
    obtain ⟨rel, hfile, rfl⟩ := (hpaths s).mp hs
    obtain ⟨c, hc⟩ := hfile
    obtain ⟨rfl, hshown, hne⟩ :=
      (below?_eq_some_iff (h.nested.proper rel _ hc) (h.apart rel ⟨c, hc⟩)).mp hr
    exact ⟨hshown, hne, c, by simpa using hc⟩
  · rintro ⟨hshown, hne, c, hc⟩
    have hc : (p ++ root :: r, .file c) ∈ d.nodes := by simpa using hc
    exact ⟨_, (hpaths _).mpr ⟨_, ⟨c, hc⟩, rfl⟩, (below?_eq_some_iff (h.nested.proper _ _ hc)
      (h.apart _ ⟨c, hc⟩)).mpr ⟨rfl, hshown, hne⟩⟩

namespace Assessment

open Architecture

-- The assessment of a source folder is that of the paths of the files in its project.
theorem inFolder_eq_ofPaths (hl : Disk.Rooted s.disk s.cwd l (p ++ ["lib"]))
    (hname : l.name = "lib") (h : s.disk.Laid p "lib") (hpaths : s.disk.PathsOf p paths) :
    Ends (Assessment.inFolder l) s (.ok (Architecture.ofPaths paths)) s := by
  have hlists := lists_of_paths h hpaths
  have hnested := h.nested.below ["lib"]
  have hplace : s.disk.placeIfAny s.cwd l = .ok (some (p ++ ["lib"])) := by
    rw [Disk.placeIfAny, hl.place]
  have hsorted : Lists s.disk (p ++ ["lib"])
      (((paths.filterMap (below? "lib")).mergeSort Path.before).eraseDups) := fun rel => by
    rw [List.mem_eraseDups, List.mem_mergeSort, hlists rel]
  have hnodes := @treeFrom_eq_nodesAt _ _ _ "lib" "lib" Folder.depth hnested h.filled hsorted
    ((Path.pairwise_before_mergeSort _).sublist (eraseDups_sublist _))
  have hfolder : Ends (Folder.inFolder l "lib") s
      (.ok (treeOf "lib" (paths.filterMap (below? "lib")))) s := by
    refine Action.ask_iff.mpr ⟨?_, rfl⟩
    rw [hplace, treeOf, hnodes, ← hname]
    simp [hname]
  rw [Assessment.inFolder, hname]
  refine (Ends.bind_of_ok hfolder).mpr (Action.ask_iff.mpr ⟨?_, rfl⟩)
  rw [hplace, Architecture.ofPaths]
  refine congrArg Except.ok (classify_congr (fun at_ x hx => ?_) fun at_ hat => ?_)
  · exact (Disk.mem_folderNames.mp hx).2
  · exact listPaths_eq_folderNames hnested h.filled hlists hat

-- A project with two features, one of which goes deeper than trees do, and a hidden folder.
def featuresDisk : Disk :=
  ⟨[(["app"], .folder), (["app", "README.md"], .file []), (["app", "lib"], .folder),
    (["app", "lib", "main.dart"], .file []), (["app", "lib", ".cache"], .folder),
    (["app", "lib", ".cache", "lib"], .file []), (["app", "lib", "features"], .folder),
    (["app", "lib", "features", "home"], .folder),
    (["app", "lib", "features", "home", "page.dart"], .file []),
    (["app", "lib", "features", "auth"], .folder),
    (["app", "lib", "features", "auth", "data"], .folder),
    (["app", "lib", "features", "auth", "data", "repo.dart"], .file [])]⟩

def featuresFiles : List (List String) :=
  [["README.md"], ["lib", "main.dart"], ["lib", ".cache", "lib"],
    ["lib", "features", "home", "page.dart"], ["lib", "features", "auth", "data", "repo.dart"]]

def featuresPaths : List String :=
  ["lib/main.dart", "README.md", "lib/features/home/page.dart", "lib/.cache/lib", "lib/main.dart",
    "lib/features/auth/data/repo.dart"]

theorem hasFile_featuresDisk {rel : List String} :
    featuresDisk.HasFile ["app"] rel ↔ rel ∈ featuresFiles := by
  simp [Disk.HasFile, featuresDisk, featuresFiles, exists_or]

theorem laid_featuresDisk : featuresDisk.Laid ["app"] "lib" where
  nested := .of_nodes (by decide +kernel) (by decide +kernel)
  filled rel h hne hshown := by
    have hrel : rel = [".cache"] ∨ rel = ["features"] ∨ rel = ["features", "home"] ∨
        rel = ["features", "auth"] ∨ rel = ["features", "auth", "data"] := by
      simpa [featuresDisk, hne] using h
    rcases hrel with rfl | rfl | rfl | rfl | rfl
    · exact absurd (hshown ".cache" (.head _)) (by decide +kernel)
    · exact ⟨["home", "page.dart"], by decide +kernel, [], by decide +kernel⟩
    · exact ⟨["page.dart"], by decide +kernel, [], by decide +kernel⟩
    · exact ⟨["data", "repo.dart"], by decide +kernel, [], by decide +kernel⟩
    · exact ⟨["repo.dart"], by decide +kernel, [], by decide +kernel⟩
  apart rel hfile := by
    have hapart : ∀ f ∈ featuresFiles, f.head? ≠ some "lib" → "lib" ∉ f := by decide +kernel
    exact hapart rel (hasFile_featuresDisk.mp hfile)

theorem pathsOf_featuresDisk : featuresDisk.PathsOf ["app"] featuresPaths := by
  have hsound : ∀ s ∈ featuresPaths, ∃ f ∈ featuresFiles, s = "/".joining f := by decide +kernel
  have hall : ∀ f ∈ featuresFiles, "/".joining f ∈ featuresPaths := by decide +kernel
  refine fun s => ⟨fun hs => ?_, ?_⟩
  · obtain ⟨f, hf, rfl⟩ := hsound s hs
    exact ⟨f, hasFile_featuresDisk.mpr hf, rfl⟩
  · rintro ⟨f, hf, rfl⟩
    exact hall f (hasFile_featuresDisk.mp hf)

def featuresSession : Session :=
  { disk := featuresDisk, cwd := [], home := [], temp := [] }

theorem inFolder_eq_ofPaths_features :
    Ends (Assessment.inFolder ⟨some "/", ["app", "lib"]⟩) featuresSession
      (.ok (Architecture.ofPaths featuresPaths)) featuresSession :=
  inFolder_eq_ofPaths (p := ["app"]) ⟨rfl, rfl⟩ rfl laid_featuresDisk pathsOf_featuresDisk

end Assessment

end Refit
