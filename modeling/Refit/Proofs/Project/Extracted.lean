import Refit.Proofs.Project.Nested
import Refit.Proofs.Project.Placed
import Refit.Proofs.Session.Looks
import Refit.Proofs.Source.Loading

/-!
What is extracted from a folder on its own, beside the analysis of the project there.

An analysis reads all sources of a project on the path from the root of the disk. An extraction
reads those that it selects, on the path that it is given. Where both paths lead to one folder, and
a source is too far down for one of them only if it is for the other, the same is found.
-/

namespace Refit

-- What a selection passes over for its name need not be among the files.
theorem Selector.select_admitted {sel : Selector} {fs : List SourceFile} :
    sel.select (fs.filter (sel.admits ·.path)) = sel.select fs := by
  rw [select_filter, List.filter_eq_self]
  intro f hf
  exact (Bool.and_eq_true_iff.mp (mem_select.mp hf).1).2

namespace Analysis

variable {s t : Session} {l : Location} {depth : Datum} {bound : Int} {snap : Snapshot}

-- What an analysis that comes to an end has looked at, and the assessment that it has made.
theorem inFolder_assessed (h : Ends (inFolder l depth bound) s (.ok snap) t) : ∃ dep m a fs n,
    Depth.ofDatum depth = .ok dep ∧
      s.disk.isFolder s.cwd (.absolute (l.resolved s.cwd)) = .ok true ∧
      Ends (Assessment.inFolder ((Location.absolute (l.resolved s.cwd)).child "lib")) s (.ok a) s ∧
      Ends (SourceTree.read (.absolute (l.resolved s.cwd))) s (.ok fs) s ∧
      snap = { snapshot m a fs dep with stats := { Stats.ofFiles fs with files := n } } := by
  obtain ⟨dep, u, hdep, h⟩ := Ends.bind_ok_iff.mp h
  obtain rfl := Asks.ofExcept _ _ _ hdep
  replace h := Ends.get_bind_iff.mp h.of_checked
  obtain ⟨b, u, hb, h⟩ := Ends.bind_ok_iff.mp h
  obtain rfl := Asks.ask _ _ _ hb
  obtain rfl : b = true := by
    cases b
    case true => rfl
    case false =>
      obtain ⟨_, _, hthrow, _⟩ := Ends.bind_ok_iff.mp h
      cases (Ends.throw_iff.mp hthrow).1
  obtain ⟨_, u, hlib, h⟩ := Ends.bind_ok_iff.mp h.of_checked
  obtain rfl := Asks.ask _ _ _ hlib
  obtain ⟨m, u, hm, h⟩ := Ends.bind_ok_iff.mp h.of_checked
  obtain rfl := Manifest.inFolder_asks _ _ _ hm
  obtain ⟨a, u, ha, h⟩ := Ends.bind_ok_iff.mp h
  obtain rfl := Assessment.inFolder_asks _ _ _ ha
  obtain ⟨fs, u, hfs, h⟩ := Ends.bind_ok_iff.mp h
  obtain rfl := SourceTree.read_asks _ _ _ hfs
  obtain ⟨_, _, _, h⟩ := Ends.bind_ok_iff.mp h
  obtain ⟨hsnap, -⟩ := Ends.pure_ok_iff.mp h
  exact ⟨dep, m, a, fs, _, (Action.ofExcept_iff.mp hdep).1.symm, (Action.ask_iff.mp hb).1.symm, ha,
    hfs, hsnap⟩

-- What an analysis that comes to an end has looked at.
theorem inFolder_ok (h : Ends (inFolder l depth bound) s (.ok snap) t) : ∃ dep m a fs n,
    Depth.ofDatum depth = .ok dep ∧
      s.disk.isFolder s.cwd (.absolute (l.resolved s.cwd)) = .ok true ∧
      Ends (SourceTree.read (.absolute (l.resolved s.cwd))) s (.ok fs) s ∧
      snap = { snapshot m a fs dep with stats := { Stats.ofFiles fs with files := n } } := by
  obtain ⟨dep, m, a, fs, n, hdep, hfolder, -, hfs, hsnap⟩ := inFolder_assessed h
  exact ⟨dep, m, a, fs, n, hdep, hfolder, hfs, hsnap⟩

-- A project with generated, hidden and unreadable files beside its sources.
def mixedListing : List (List String × Disk.Node) :=
  [(["lib"], .folder), (["lib", "models"], .folder), (["lib", "models", ".old"], .folder),
    (["lib", "models", ".old", "user.dart"], .file "class Old \x7b\x7d".toUTF8.toList),
    (["lib", "models", "broken.dart"], .file [0xff]),
    (["lib", "models", "user.dart"], .file "class User \x7b\x7d".toUTF8.toList),
    (["lib", "models", "user.g.dart"], .file "class Made \x7b\x7d".toUTF8.toList),
    (["pubspec.yaml"], .file "name: shop".toUTF8.toList)]

-- A session with the project in a folder.
def mixedSession : Session where
  disk := ⟨(["home"], .folder) :: (["home", "shop"], .folder) ::
    mixedListing.map fun n => (["home", "shop"] ++ n.1, n.2)⟩
  cwd := ["home"]
  home := ["home"]
  temp := ["tmp"]

theorem below_mixedSession : mixedSession.disk.below ["home", "shop"] = mixedListing :=
  List.mergeSort_of_pairwise (by decide)

theorem dartPathsAt_mixedSession : SourceTree.dartPathsAt mixedSession.disk ["home", "shop"] =
    ["lib/models/broken.dart", "lib/models/user.dart"] := by
  rw [SourceTree.dartPathsAt, below_mixedSession]
  decide +kernel

theorem analysable_mixedSession : Analysable mixedSession.disk ["home"] ["home", "shop"] where
  sources := by decide
  readable := by
    have hways : SourceTree.waysAt mixedSession.disk ["home", "shop"] =
        [["lib", "models", "broken.dart"], ["lib", "models", "user.dart"]] := by
      rw [SourceTree.waysAt, below_mixedSession]
      decide +kernel
    refine ⟨⟨rfl, rfl⟩, by decide, ?_, ?_⟩
    all_goals
      rw [hways]
      refine List.forall_mem_cons.mpr ⟨?_, List.forall_mem_singleton.mpr ?_⟩
    all_goals first
      | exact ⟨by simp [Path.Proper, Path.counts], by decide, by decide⟩
      | decide

-- The project is analysed on every way that names its folder.
theorem exists_inFolder_mixedSession {l : Location} (hn : ¬l.HasNull)
    (hl : l.resolved ["home"] = ["home", "shop"]) : ∃ snap,
    Ends (inFolder l "deep") mixedSession (.ok snap) mixedSession ∧ snap.models.length = 1 := by
  obtain ⟨r, hr, hplaced⟩ : Answers (inFolder l "deep") mixedSession
      (placed mixedSession.disk ["home", "shop"] "deep" maxFiles) :=
    resolved_answers hn hl analysable_mixedSession
  obtain ⟨m, hm⟩ : ∃ m, Manifest.placed mixedSession.disk ["home", "shop"] = some m :=
    Option.isSome_iff_exists.mp (by decide +kernel)
  have hlib : mixedSession.disk.find? (["home", "shop"] ++ ["lib"]) = some .folder := rfl
  have hdepth : (Depth.ofDatum "deep").toOption = some .deep := rfl
  simp only [placed, hm, hdepth, Option.bind_some, if_pos hlib, Option.map_some] at hplaced
  cases r
  case error => cases hplaced
  case ok snap =>
    obtain rfl := Option.some.inj hplaced
    refine ⟨_, hr, ?_⟩
    change (Model.ofFiles (SourceTree.sourcesAt _ _)).length = 1
    rw [SourceTree.sourcesAt, SourceTree.pathsAt, dartPathsAt_mixedSession]
    decide +kernel

-- A way that turns back to where it starts from, again and again.
def winding (rest : List String) : Nat → List String
  | 0 => rest
  | n + 1 => "shop" :: ".." :: winding rest n

-- A way to the project through a folder that is not there, and one that is nearly too long.
def detour : Location :=
  ⟨none, ["gone", "..", "shop"]⟩

def longWay : Location :=
  ⟨none, winding ["shop"] 510⟩

theorem walk_winding {rest : List String} {n : Nat} :
    mixedSession.disk.walk ["home"] (winding rest n) = mixedSession.disk.walk ["home"] rest := by
  induction n
  case zero => rfl
  case succ n ih => exact ih

theorem winding_append {rest ws : List String} {n : Nat} :
    winding rest n ++ ws = winding (rest ++ ws) n := by
  induction n
  case zero => rfl
  case succ n ih => simp [winding, ih]

theorem not_hasNull_winding {rest : List String} {n : Nat}
    (h : ∀ w ∈ rest, '\x00' ∉ w.toList) : ¬Location.HasNull ⟨none, winding rest n⟩ := by
  rintro ⟨w, hw, hnull⟩
  replace hw : w ∈ winding rest n := hw
  induction n
  case zero => exact h w hw hnull
  case succ n ih =>
    rcases List.mem_cons.mp hw with rfl | hw
    · exact absurd hnull (by decide)
    rcases List.mem_cons.mp hw with rfl | hw
    · exact absurd hnull (by decide)
    · exact ih hw

theorem size_winding {rest : List String} {w : String} {n : Nat} :
    ("/".joining (winding (w :: rest) n)).utf8ByteSize =
      8 * n + ("/".joining (w :: rest)).utf8ByteSize := by
  induction n
  case zero => simp [winding]
  case succ n ih =>
    obtain ⟨v, vs, hv⟩ : ∃ v vs, winding (w :: rest) n = v :: vs := by
      cases n <;> exact ⟨_, _, rfl⟩
    have hsizes : "shop".utf8ByteSize = 4 ∧ "..".utf8ByteSize = 2 ∧ "/".utf8ByteSize = 1 := by
      decide
    rw [winding, Path.joining_cons, hv, Path.joining_cons, ← hv]
    simp only [String.utf8ByteSize_append, ih, hsizes]
    omega

theorem rooted_longWay : mixedSession.disk.Rooted ["home"] longWay ["home", "shop"] := by
  have hnull : ¬longWay.text.toList.contains '\x00' = true := by
    rw [List.contains_iff_mem, ← Location.hasNull_iff]
    exact not_hasNull_winding (by decide)
  have hsize : longWay.text.utf8ByteSize = 8 * 510 + ("/".joining ["shop"]).utf8ByteSize :=
    size_winding
  have hfits : ¬Disk.pathLimit < longWay.text.utf8ByteSize := by
    rw [hsize]
    decide
  refine ⟨?_, rfl⟩
  rw [Disk.place, if_neg hnull, if_neg hfits]
  exact congrArg (Except.mapError _) walk_winding

-- No source is read on the long way.
theorem loadOne_longWay {path : String} {ws : List String}
    (hpath : Location.ofText path = ⟨none, ws⟩) (hnull : ∀ w ∈ "shop" :: ws, '\x00' ∉ w.toList)
    (hlong : Disk.pathLimit < 8 * 510 + ("/".joining ("shop" :: ws)).utf8ByteSize) :
    SourceTree.loadOne longWay path mixedSession.disk ["home"] = .ok none := by
  have hway : longWay ++ .ofText path = ⟨none, winding ("shop" :: ws) 510⟩ := by
    rw [hpath, Location.append_eq rfl]
    exact congrArg (Location.mk none) winding_append
  refine SourceTree.loadOne_of_not_fits ?_ ?_
  · rw [hway]
    exact not_hasNull_winding hnull
  · rw [SourceTree.Fits, hway, Disk.Fits]
    exact Nat.not_le.mpr (hlong.trans_eq size_winding.symm)

end Analysis

end Refit
