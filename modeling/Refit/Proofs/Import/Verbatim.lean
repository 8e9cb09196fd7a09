import Refit.Proofs.Import.Cloned
import Refit.Proofs.Project.Placed
import Refit.Proofs.Rebuild.Clean
import Refit.Proofs.Rebuild.KeptContent
import Refit.Proofs.Source.Loading
import Refit.Proofs.Text.Utf8

/-!
What the kept files of a repository hold once it is imported: the text that they hold in the clone,
with every line ended by a line feed.

So a file is copied as it is unless there is a carriage return in it.
-/

namespace Refit

namespace SourceTree

variable {d : Disk} {cwd : List String} {root : Location} {path : String} {f : SourceFile}
  {fs : List SourceFile} {s t : Session}

theorem text_of_loadOne (h : loadOne root path d cwd = .ok (some f)) : f.path = path ∧
    ∃ text : String, d.readBytes cwd (root ++ .ofText path) = .ok text.toUTF8.toList ∧
      f.content = text.withUnixLines := by
  refine ⟨path_of_loadOne h, ?_⟩
  rw [loadOne] at h
  split at h
  case h_1 content hread =>
    obtain rfl := Option.some.inj (Except.ok.inj h)
    rw [Disk.readText, bind_eq_ok] at hread
    obtain ⟨bytes, hbytes, hread⟩ := hread
    obtain ⟨text, htext, hcontent⟩ := bind_eq_ok.mp hread
    obtain rfl := Utf8.decode_iff.mp (mapError_eq_ok.mp htext)
    exact ⟨text, hbytes, (pure_eq_ok.mp hcontent).symm⟩
  all_goals cases h

-- What is read of a file is its text, with the lines ended as usual.
theorem text_of_mem_read (h : Ends (read root) s (.ok fs) t) (hf : f ∈ fs) :
    ∃ text : String, s.disk.readBytes s.cwd (root ++ .ofText f.path) = .ok text.toUTF8.toList ∧
      f.content = text.withUnixLines := by
  obtain ⟨paths, u, hpaths, h⟩ := Ends.bind_ok_iff.mp h
  obtain ⟨manifest, v, hmanifest, hload⟩ := Ends.bind_ok_iff.mp h
  obtain ⟨_, rfl⟩ := Action.ask_iff.mp hpaths
  obtain ⟨_, rfl⟩ := Action.ask_iff.mp hmanifest
  obtain ⟨hall, rfl, rfl⟩ := load_iff.mp hload
  obtain ⟨path, hpath, hfound⟩ := List.mem_filterMap.mp hf
  obtain ⟨o, ho⟩ := hall path hpath
  rw [found, ho] at hfound
  obtain rfl : o = some f := hfound
  obtain ⟨rfl, htext⟩ := text_of_loadOne ho
  exact htext

end SourceTree

namespace Import

variable {i : Import} {url : String} {before after : Session} {r : ImportResult} {snap : Snapshot}
  {category : String} {f : SourceFile} {s t : Session} {files : Action (List SourceFile)}
  {made : Schema} {kept : Groups} {settings : Settings}

-- A file that is kept is one of those that were read.
theorem kept_of_plan (h : Ends (i.plan snap files) s (.ok (made, kept, settings)) t)
    (hf : kept.Holds category f) : ∃ fs u, Ends files s (.ok fs) u ∧ f ∈ fs := by
  rcases (plan_returns h).2 with hnone | ⟨fs, u, hfiles, hkept⟩
  case inl =>
    obtain rfl : kept = [] := hnone
    exact absurd hf (by simp [Groups.Holds])
  case inr =>
    have hheld := (Schema.holds_keptFiles hkept).mp hf
    exact ⟨fs, u, hfiles, (Groups.holds_ofFiles.mp hheld.1).1.mem⟩

-- The phases of an import of a repository that comes to a rebuild: the repository is cloned, the
-- clone is analysed, a plan is made and carried out, and the clone is removed.
structure Rebuilt (i : Import) (url : String) (before after : Session) (r : ImportResult) where
  clone : Clone
  cloned : Session
  fetches : Ends (i.fetch url) before (.ok clone) cloned
  faultless : clone.error = none
  snap : Snapshot
  analysed : Session
  analyses : Ends (do Analysis.inFolder (.ofText clone.path) (← i.depthOf)) cloned (.ok snap)
    analysed
  made : Schema
  kept : Groups
  settings : Settings
  planned : Session
  plans : Ends (i.plan snap (SourceTree.read (.ofText clone.path))) analysed
    (.ok (made, kept, settings)) planned
  result : RebuildResult
  work : Ledger
  left : Session
  performs : (Rebuild.perform (some .ledger) (some .ledger) made settings i.out kept).Ends {}
    planned (.ok result) work left
  removes : Ends (Clone.remove clone.path) left (.ok ()) after
  result_eq : r = .done url snap made result

theorem exists_rebuilt (h : Ends (i.repository url) before (.ok r) after) (hr : r.success) :
    Nonempty (Rebuilt i url before after r) := by
  obtain ⟨_, h⟩ := Job.Ends.startingAt_iff.mp h
  obtain ⟨clone, _, cloned, j, h⟩ := Job.Ends.bind_ok_iff.mp h
  obtain ⟨hfetch, rfl⟩ := Job.Ends.ofAction_iff.mp j
  split at h
  case h_1 =>
    obtain ⟨hr', _, _⟩ := Job.Ends.pure_iff.mp h
    obtain rfl := Except.ok.inj hr'
    cases hr
  case h_2 herror =>
    obtain ⟨left, h, hremove⟩ := andThen_returns h
    rcases orFailed_returns h with h | ⟨_, _, rfl⟩
    case inr => cases hr
    case inl =>
      obtain ⟨snap, _, analysed, j₁, h₁⟩ := Job.Ends.bind_ok_iff.mp h
      obtain ⟨hanalyse, rfl⟩ := Job.Ends.ofAction_iff.mp j₁
      obtain ⟨⟨made, kept, settings⟩, _, planned, j₂, h₂⟩ := Job.Ends.bind_ok_iff.mp h₁
      obtain ⟨hplan, rfl⟩ := Job.Ends.ofAction_iff.mp j₂
      obtain ⟨result, work, _, hperform, h₃⟩ := Job.Ends.bind_ok_iff.mp h₂
      obtain ⟨hr', rfl, rfl⟩ := Job.Ends.pure_iff.mp h₃
      exact ⟨⟨clone, cloned, hfetch, herror, snap, analysed, hanalyse, made, kept, settings, planned,
        hplan, result, _, _, hperform, hremove, Except.ok.inj hr'⟩⟩

namespace Rebuilt

theorem ends (x : Rebuilt i url before after r) :
    Ends (i.repository url) before (.ok r) after := by
  refine Job.Ends.startingAt_iff.mpr ⟨x.work, ?_⟩
  refine (Job.Ends.bind_of_ok (Job.Ends.ofAction_iff.mpr ⟨x.fetches, rfl⟩)).mpr ?_
  rw [x.faultless]
  refine andThen_of_ok (orFailed_settled (r := .ok r) ?_) x.removes
  refine (Job.Ends.bind_of_ok (Job.Ends.ofAction_iff.mpr ⟨x.analyses, rfl⟩)).mpr ?_
  refine (Job.Ends.bind_of_ok (Job.Ends.ofAction_iff.mpr ⟨x.plans, rfl⟩)).mpr ?_
  refine (Job.Ends.bind_of_ok x.performs).mpr (Job.Ends.pure_iff.mpr ⟨?_, rfl, rfl⟩)
  exact congrArg _ x.result_eq

variable (x : Rebuilt i url before after r)

theorem analysed_looked : x.cloned.Looked x.analysed :=
  (Looks.bind depthOf_looks fun _ => Analysis.inFolder_looks) _ _ _ x.analyses

theorem planned_looked : x.cloned.Looked x.planned :=
  x.analysed_looked.trans (plan_looks SourceTree.read_looks _ _ _ x.plans)

-- What a file holds in the clone.
def original (f : SourceFile) : Except Stop (List UInt8) :=
  x.cloned.disk.readBytes x.cloned.cwd (.ofText x.clone.path ++ .ofText f.path)

theorem exists_original (hf : x.kept.Holds category f) : ∃ text : String,
    x.original f = .ok text.toUTF8.toList ∧ f.content = text.withUnixLines := by
  obtain ⟨fs, _, hread, hf⟩ := kept_of_plan x.plans hf
  obtain ⟨text, hbytes, hcontent⟩ := SourceTree.text_of_mem_read hread hf
  rw [x.analysed_looked.disk, x.analysed_looked.cwd] at hbytes
  exact ⟨text, hbytes, hcontent⟩

-- Where a kept file is copied.
def place (category : String) (f : SourceFile) : List String :=
  Rebuild.keptPlace x.cloned.cwd (.ofText i.out) category f.path

-- No other file is copied to the place of a kept file.
def Alone (category : String) (f : SourceFile) : Prop :=
  ∀ c g, x.kept.Holds c g → x.place c g = x.place category f → g = f

-- What is copied to a place stays there: no program that finishes the project writes there, and it
-- is not removed with the clone.
structure Lasting (p : List String) : Prop where
  unwritten : x.cloned.programs.Avoid (· = p) x.cloned.cwd (Rebuild.finishTargets x.settings)
  apart : ¬(Clone.rootOf (.ofText x.clone.path)).reach x.cloned.cwd <+: p

variable {x}

theorem Alone.last_eq {last : String} (h : x.Alone category f)
    (hlast : (Rebuild.keptWrites x.cloned.cwd (.ofText i.out) x.kept).last? (x.place category f) =
      some last) : last = f.content := by
  obtain ⟨c, g, hg, heq⟩ := Rebuild.mem_keptWrites.mp (Disk.Writes.mem_of_last? hlast)
  obtain ⟨hplace, rfl⟩ := Prod.mk.inj heq
  rw [h c g hg hplace.symm]

-- A place that lasts holds in the end what it holds once all files are copied.
theorem Lasting.content?_eq {p : List String} {st : Ledger}
    (y : Rebuild.Ran (some .ledger) (some .ledger) x.made x.settings (.ofText i.out) x.kept {} st
      x.planned x.left x.result) (h : x.Lasting p) :
    after.disk.content? p = y.done.content? p := by
  have hlooked := x.planned_looked
  have hprograms : x.planned.programs.Avoid (· = p) x.cloned.cwd
      (Rebuild.finishTargets x.settings) :=
    hlooked.programs ▸ h.unwritten
  obtain ⟨hfinished, hcwd⟩ := Rebuild.finish_untouched (by exact hlooked.cwd) (by exact hprograms)
    y.finishes
  have hapart := h.apart
  rw [← hcwd] at hapart
  obtain ⟨hremoved, _⟩ :=
    Clone.remove_apart (fun hroot => hapart (hroot ▸ List.nil_prefix)) x.removes
  rw [Disk.content?, Disk.content?, hremoved _ hapart, hfinished.same p rfl]

section

variable (hr : r.success) (hw : Rebuild.Copied x.made x.result)

include hr

theorem exists_ran : Nonempty (Rebuild.Ran (some .ledger) (some .ledger) x.made x.settings
    (.ofText i.out) x.kept {} x.work x.planned x.left x.result) := by
  have hsuccess : x.result.success := by
    rw [x.result_eq] at hr
    exact hr
  exact Rebuild.execute_returns (Rebuild.execute_of_success x.performs hsuccess)

include hw

theorem copied_eq :
    x.result.copied = (Rebuild.keptWrites x.cloned.cwd (.ofText i.out) x.kept).length := by
  obtain ⟨y⟩ := x.exists_ran hr
  rw [y.copied_eq, (y.copies_overridden hw).2, x.planned_looked.cwd]

theorem exists_text (hf : x.kept.Holds category f) (halone : x.Alone category f)
    (hlasting : x.Lasting (x.place category f)) : ∃ text : String,
      x.original f = .ok text.toUTF8.toList ∧
        after.disk.content? (x.place category f) = some text.withUnixLines.toUTF8.toList := by
  obtain ⟨y⟩ := x.exists_ran hr
  obtain ⟨text, horiginal, htext⟩ := x.exists_original hf
  obtain ⟨last, hlast, hdone⟩ := y.exists_last hw hf
  rw [x.planned_looked.cwd] at hlast hdone
  refine ⟨text, horiginal, ?_⟩
  rw [hlasting.content?_eq y, ← htext, ← halone.last_eq hlast]
  exact hdone

end

end Rebuilt

-- After an import of a repository, a kept file that is alone at its place holds the text that it
-- holds in the clone, with each line ended by a line feed. These are the bytes of the clone unless
-- a carriage return is among them.
theorem kept_verbatim_iff (h : Ends (i.repository url) before (.ok r) after) (hr : r.success) :
    Nonempty (Rebuilt i url before after r) ∧
      ∀ x : Rebuilt i url before after r, Rebuild.Copied x.made x.result →
        x.result.copied = (Rebuild.keptWrites x.cloned.cwd (.ofText i.out) x.kept).length ∧
        ∀ category f, x.kept.Holds category f → x.Alone category f →
          x.Lasting (x.place category f) → ∃ text : String,
            x.original f = .ok text.toUTF8.toList ∧
            after.disk.content? (x.place category f) = some text.withUnixLines.toUTF8.toList ∧
            (after.disk.content? (x.place category f) = (x.original f).toOption ↔
              '\r' ∉ text.toList) := by
  refine ⟨exists_rebuilt h hr, fun x hw => ⟨x.copied_eq hr hw, fun category f hf ha hl => ?_⟩⟩
  obtain ⟨text, horiginal, hcontent⟩ := x.exists_text hr hw hf ha hl
  refine ⟨text, horiginal, hcontent, ?_⟩
  rw [hcontent, horiginal, ← Utf8.withUnixLines_eq_self_iff]
  exact Option.some_inj.trans Disk.toUTF8_toList_inj

/-! Two files, one of them with a carriage return -/

def crlfUser : SourceFile :=
  ⟨"lib/models/user.dart", "class User \x7b\x7d\r\n"⟩

def lfApi : SourceFile :=
  ⟨"services/api.dart", "class Api \x7b\x7d\n"⟩

-- The first of them as it is read.
def lfUser : SourceFile :=
  ⟨crlfUser.path, crlfUser.content.withUnixLines⟩

def userListing : List (List String × Disk.Node) :=
  [(["lib"], .folder), (["lib", "models"], .folder),
    (["lib", "models", "user.dart"], .file crlfUser.content.toUTF8.toList),
    (["pubspec.yaml"], .file "name: shop\n".toUTF8.toList),
    (["services"], .folder), (["services", "api.dart"], .file lfApi.content.toUTF8.toList)]

-- A session in which a clone with the files is to come.
def userSession : Session where
  disk := ⟨[(["work"], .folder), (["tmp"], .folder)]⟩
  cwd := ["work"]
  home := ["work"]
  temp := ["tmp"]
  programs := { script := [.ended 0 "" "" [
    (⟨none, ["lib", "models", "user.dart"]⟩, crlfUser.content.toUTF8.toList),
    (⟨none, ["pubspec.yaml"]⟩, "name: shop\n".toUTF8.toList),
    (⟨none, ["services", "api.dart"]⟩, lfApi.content.toUTF8.toList)]] }

-- The folder of the clone, and the disk once it is made.
def userFolder : List String :=
  ["tmp", "replant-git-00000000", "b"]

def userDisk : Disk :=
  ⟨userSession.disk.nodes ++ (["tmp", "replant-git-00000000"], .folder) :: (userFolder, .folder) ::
    userListing.map fun n => (userFolder ++ n.1, n.2)⟩

def userImport : Import :=
  { out := "out", depth := "deep" }

def userKept : Groups :=
  [("models", [lfUser]), ("services", [lfApi])]

-- The session once the clone is made, with what a rebuild looks at told.
def userCloned : Session :=
  let fetched := ((ExceptT.run (userImport.fetch "a/b")).run userSession).2
  { fetched with
    disk := userDisk
    cwd := ["work"]
    programs := { fetched.programs with script := [] } }

theorem exists_fetched_user : ∃ c resolved,
    Ends (userImport.fetch "a/b") userSession (.ok c) userCloned ∧ c.error = none ∧
      c.path = (Location.absolute userFolder).text ∧ userCloned.config = some resolved ∧
      resolved.settings = {} := by
  have h : Ends.returnsWith (userImport.fetch "a/b") userSession fun c cloned =>
      (c.error.isNone && c.path == (Location.absolute userFolder).text &&
        cloned.cwd == ["work"] && cloned.disk.nodes == userDisk.nodes &&
        cloned.programs.script.isEmpty) &&
        cloned.config.any fun r => decide (r.settings = {}) := by
    decide +kernel
  obtain ⟨c, cloned, hfetch, h⟩ := Ends.of_returnsWith h
  simp only [Bool.and_eq_true, Option.isNone_iff_eq_none, List.isEmpty_iff, beq_iff_eq,
    Option.any_eq_true, decide_eq_true_eq] at h
  obtain ⟨⟨⟨⟨⟨hfaultless, hpath⟩, hcwd⟩, hnodes⟩, hscript⟩, resolved, hresolved, hsettings⟩ := h
  have heq : cloned = userCloned := by
    rw [userCloned, (Ends.iff_eqs.mp hfetch).2, ← hscript, ← hcwd,
      ← show cloned.disk = userDisk from congrArg Disk.mk hnodes]
  exact ⟨c, resolved, heq ▸ hfetch, hfaultless, hpath, heq ▸ hresolved, hsettings⟩

theorem below_userDisk : userDisk.below userFolder = userListing :=
  List.mergeSort_of_pairwise (by decide)

-- Whether the plan for an analysed project keeps both files, and the disk can have all its files.
def rebuildsUser (snap : Snapshot) (fs : List SourceFile) : Bool :=
  (Schema.ofSnapshot snap {}).toOption.any fun made =>
    (made.keptFiles fs).toOption.any (· == userKept) && Rebuild.plannedFits made {} "out" userKept

theorem readable_userDisk :
    SourceTree.Readable userDisk ["work"] (.absolute userFolder) userFolder := by
  have hways : SourceTree.waysAt userDisk userFolder =
      [["lib", "models", "user.dart"], ["services", "api.dart"]] := by
    rw [SourceTree.waysAt, below_userDisk]
    decide +kernel
  refine ⟨⟨eq_ok_of_any (by decide +kernel), rfl⟩, by decide, ?_, ?_⟩
  all_goals
    rw [hways]
    refine List.forall_mem_cons.mpr ⟨?_, List.forall_mem_singleton.mpr ?_⟩
  all_goals first
    | exact ⟨by simp [Path.Proper, Path.counts], by decide, by decide⟩
    | decide

theorem ofText_userFolder :
    Location.ofText (Location.absolute userFolder).text = .absolute userFolder :=
  Location.ofText_text (by simp [Path.Proper, userFolder, Path.counts])

section

variable {x : Rebuilt userImport "a/b" userSession after r}

theorem holds_userKept (h : userKept.Holds category f) :
    category = "models" ∧ f = lfUser ∨ category = "services" ∧ f = lfApi := by
  simp only [Groups.Holds, userKept, List.mem_cons, List.not_mem_nil, or_false, Prod.mk.injEq] at h
  obtain ⟨own, ⟨rfl, rfl⟩ | ⟨rfl, rfl⟩, hf⟩ := h
  · exact .inl ⟨rfl, List.mem_singleton.mp hf⟩
  · exact .inr ⟨rfl, List.mem_singleton.mp hf⟩

theorem place_user (h : x.cloned.cwd = ["work"]) :
    x.place "models" lfUser = ["work", "out", "lib", "models", "user.dart"] := by
  rw [Rebuilt.place, h]
  decide

theorem place_api (h : x.cloned.cwd = ["work"]) :
    x.place "services" lfApi = ["work", "out", "lib", "services", "api.dart"] := by
  rw [Rebuilt.place, h]
  decide

theorem alone_user (hkept : x.kept = userKept) (h : x.cloned.cwd = ["work"])
    (hf : x.kept.Holds category f) : x.Alone category f := by
  intro c g hg hplace
  rw [hkept] at hf hg
  rcases holds_userKept hf with ⟨rfl, rfl⟩ | ⟨rfl, rfl⟩
  all_goals rcases holds_userKept hg with ⟨rfl, rfl⟩ | ⟨rfl, rfl⟩
  · rfl
  · simp [place_user h, place_api h] at hplace
  · simp [place_user h, place_api h] at hplace
  · rfl

theorem lasting_user {p : List String} (h : x.cloned.cwd = ["work"])
    (hscript : x.cloned.programs.script = [])
    (hpath : x.clone.path = (Location.absolute userFolder).text) : x.Lasting ("work" :: p) where
  unwritten o ho := by
    rw [hscript] at ho
    cases ho
  apart := by
    have hroot : (Clone.rootOf (.absolute userFolder)).reach ["work"] =
        ["tmp", "replant-git-00000000"] := by
      decide +kernel
    rw [hpath, ofText_userFolder, h, hroot]
    simp

theorem original_eq (hdisk : x.cloned.disk = userDisk) (h : x.cloned.cwd = ["work"])
    (hpath : x.clone.path = (Location.absolute userFolder).text) :
    x.original lfUser = .ok crlfUser.content.toUTF8.toList ∧
      x.original lfApi = .ok lfApi.content.toUTF8.toList := by
  rw [Rebuilt.original, Rebuilt.original, hdisk, h, hpath, ofText_userFolder]
  exact ⟨eq_ok_of_any (by decide +kernel), eq_ok_of_any (by decide +kernel)⟩

end

theorem rebuildsUser_placed :
    (Analysis.placed userDisk userFolder "deep" Analysis.maxFiles).any fun snap =>
      rebuildsUser snap (SourceTree.sourcesAt userDisk userFolder) := by
  simp only [Analysis.placed, SourceTree.sourcesAt, SourceTree.pathsAt,
    SourceTree.dartPathsAt, Analysis.countFiles, below_userDisk]
  decide +kernel

theorem exists_output_user : ∃ made : Session,
    Ends (Rebuild.makeOutput (.ofText "out")) userCloned (.ok ()) made ∧
      made.disk.Rooted userCloned.cwd (.ofText "out") ["work", "out"] ∧
      ∀ w ≠ [], made.disk.find? (["work", "out"] ++ w) = none := by
  have h : Ends.returnsWith (Rebuild.makeOutput (.ofText "out")) userCloned fun _ made =>
      made.disk.nodes == userDisk.nodes ++ [(["work", "out"], .folder)] := by
    decide +kernel
  obtain ⟨_, made, hmade, hnodes⟩ := Ends.of_returnsWith h
  have hdisk : made.disk = ⟨userDisk.nodes ++ [(["work", "out"], .folder)]⟩ :=
    congrArg Disk.mk (eq_of_beq hnodes)
  refine ⟨made, hmade, ?_, fun w hw => ?_⟩
  all_goals rw [hdisk]
  case refine_1 => exact ⟨eq_ok_of_any (by decide +kernel), rfl⟩
  case refine_2 =>
    obtain ⟨name, w, rfl⟩ := List.exists_cons_of_ne_nil hw
    simp [Disk.find?, List.lookup_cons, userDisk, userSession, userFolder, userListing]

theorem fits_userOptions : userImport.options.Fits where
  encryption := ⟨_, rfl⟩
  architecture := ⟨_, rfl⟩
  state := ⟨_, rfl⟩
  extraModules := ⟨[], rfl, List.forall_mem_nil _⟩
  excludedModules := ⟨[], rfl⟩

theorem plain_userKept : ∀ path ∈ Rebuild.keptPaths userKept,
    Path.Plain path ∧ Path.IsDotted (Path.steps path) := by
  have hpaths : Rebuild.keptPaths userKept =
      ["/".joining ["lib", "models", "user.dart"], "/".joining ["lib", "services", "api.dart"]] := by
    decide
  have hplain {ws : List String} (h : ws.all Path.isPlain) (hd : Path.IsDotted ws) :
      Path.Plain ("/".joining ws) ∧ Path.IsDotted (Path.steps ("/".joining ws)) := by
    have hproper := Path.proper_of_isPlain (List.all_eq_true.mp h)
    exact ⟨⟨ws, rfl, List.all_eq_true.mp h⟩, by rwa [Path.steps_joining hproper]⟩
  rw [hpaths]
  refine List.forall_mem_cons.mpr ⟨hplain ?_ ?_, List.forall_mem_singleton.mpr (hplain ?_ ?_)⟩
  all_goals decide

theorem exists_rebuilt_user : ∃ (after : Session) (r : ImportResult)
    (x : Rebuilt userImport "a/b" userSession after r), r.success ∧
      Rebuild.Copied x.made x.result ∧ x.kept = userKept ∧ x.cloned.disk = userDisk ∧
      x.cloned.cwd = ["work"] ∧ x.cloned.programs.script = [] ∧
      x.clone.path = (Location.absolute userFolder).text := by
  obtain ⟨c, resolved, hfetch, hfaultless, hpath, hresolved, hsettings⟩ := exists_fetched_user
  obtain ⟨snap, hplaced, h⟩ := (Option.any_eq_true _ _).mp rebuildsUser_placed
  obtain ⟨made, hmade, h⟩ := any_toOption.mp h
  obtain ⟨h, hfits⟩ := Bool.and_eq_true_iff.mp h
  obtain ⟨kept, hkept, heq⟩ := any_toOption.mp h
  obtain rfl := eq_of_beq heq
  have hroot : Location.ofText c.path = .absolute userFolder := by rw [hpath, ofText_userFolder]
  have hnull : ¬(Location.ofText c.path).HasNull := by
    rw [hroot]
    simp [Location.HasNull, Location.absolute, userFolder]
  have hfound : Ends (Analysis.inFolder (.ofText c.path) "deep") userCloned (.ok snap) userCloned := by
    obtain ⟨q, hq, hsnap⟩ : Answers (Analysis.inFolder (.ofText c.path) "deep") userCloned
        (Analysis.placed userDisk userFolder "deep" Analysis.maxFiles) :=
      Analysis.resolved_answers hnull (by rw [hroot]; rfl) ⟨readable_userDisk, by decide⟩
    rw [hplaced] at hsnap
    cases q
    case error => cases hsnap
    case ok => exact Option.some.inj hsnap ▸ hq
  have hanalysis : Ends (do Analysis.inFolder (.ofText c.path) (← userImport.depthOf)) userCloned
      (.ok snap) userCloned := by
    have hdepth : Ends userImport.depthOf userCloned (.ok "deep") userCloned :=
      Ends.pure_iff.mpr ⟨rfl, rfl⟩
    exact (Ends.bind_of_ok hdepth).mpr hfound
  have hplan : Ends (userImport.plan snap (SourceTree.read (.ofText c.path))) userCloned
      (.ok (made, userKept, resolved.settings)) userCloned := by
    have hread : Ends (SourceTree.read (.absolute userFolder)) userCloned
        (.ok (SourceTree.sourcesAt userDisk userFolder)) userCloned :=
      SourceTree.read_ends readable_userDisk
    have hkeeps : made.keptOf userImport.keepCode (.ok (SourceTree.sourcesAt userDisk userFolder)) =
        .ok userKept :=
      mapError_eq_ok.mpr hkept
    have hends := plan_ends (i := userImport) hresolved rfl hmade hread
    rw [hkeeps, ← hroot] at hends
    exact hends
  obtain ⟨opened, hout, hopened, hempty⟩ := exists_output_user
  obtain ⟨result, work, filled, hperform, hsuccess, hwarnings⟩ :=
    Rebuild.exists_perform_fits (Analysis.found_inFolder hfound).fits fits_userOptions
      (show Settings.NoFinish {} from ⟨rfl, rfl⟩) hmade hout hopened hempty plain_userKept hfits
  have hshort : (Clone.rootOf (.ofText c.path)).Short := by
    rw [hroot]
    exact ⟨by decide, by decide⟩
  obtain ⟨after, hremove⟩ := Clone.exists_remove (s := { userCloned with disk := filled }) hshort
  refine ⟨after, _, ⟨c, userCloned, hfetch, hfaultless, snap, userCloned, hanalysis, made, userKept,
    resolved.settings, userCloned, hplan, result, work, _, hsettings ▸ hperform, hremove, rfl⟩,
    hsuccess, ?_, rfl, rfl, rfl, rfl, hpath⟩
  intro w hw
  rw [hwarnings, List.drop_length] at hw
  cases hw

theorem kept_verbatim_iff_user : ∃ (after : Session) (r : ImportResult)
    (x : Rebuilt userImport "a/b" userSession after r),
      Ends (userImport.repository "a/b") userSession (.ok r) after ∧ r.success ∧
      Rebuild.Copied x.made x.result ∧ x.kept = userKept ∧
      after.disk.content? (x.place "services" lfApi) = (x.original lfApi).toOption ∧
      after.disk.content? (x.place "models" lfUser) ≠ (x.original lfUser).toOption := by
  obtain ⟨after, r, x, hr, hw, hkept, hdisk, hcwd, hscript, hpath⟩ := exists_rebuilt_user
  obtain ⟨huser, hapi⟩ := original_eq hdisk hcwd hpath
  have hholds : x.kept.Holds "models" lfUser ∧ x.kept.Holds "services" lfApi := by
    rw [hkept]
    exact ⟨⟨_, .head _, .head _⟩, ⟨_, .tail _ (.head _), .head _⟩⟩
  obtain ⟨-, hall⟩ := (kept_verbatim_iff x.ends hr).2 x hw
  refine ⟨after, r, x, x.ends, hr, hw, hkept, ?_, ?_⟩
  · obtain ⟨text, htext, -, hiff⟩ := hall "services" lfApi hholds.2 (alone_user hkept hcwd hholds.2)
      (place_api hcwd ▸ lasting_user hcwd hscript hpath)
    obtain rfl := Disk.toUTF8_toList_inj.mp (Except.ok.inj (hapi.symm.trans htext))
    exact hiff.mpr (by decide)
  · obtain ⟨text, htext, -, hiff⟩ := hall "models" lfUser hholds.1 (alone_user hkept hcwd hholds.1)
      (place_user hcwd ▸ lasting_user hcwd hscript hpath)
    obtain rfl := Disk.toUTF8_toList_inj.mp (Except.ok.inj (huser.symm.trans htext))
    exact mt hiff.mp (by decide)

-- A model whose line is ended by two characters is kept, alone at its place, with one of them.
theorem not_every_kept_verbatim : ∃ (after : Session) (r : ImportResult)
    (x : Rebuilt userImport "a/b" userSession after r),
      Ends (userImport.repository "a/b") userSession (.ok r) after ∧ r.success ∧
      Rebuild.Copied x.made x.result ∧ x.kept.Holds "models" lfUser ∧ x.Alone "models" lfUser ∧
      x.Lasting (x.place "models" lfUser) ∧
      x.original lfUser = .ok "class User \x7b\x7d\r\n".toUTF8.toList ∧
      after.disk.content? (x.place "models" lfUser) =
        some "class User \x7b\x7d\n".toUTF8.toList ∧
      after.disk.content? (x.place "models" lfUser) ≠ (x.original lfUser).toOption := by
  obtain ⟨after, r, x, hr, hw, hkept, hdisk, hcwd, hscript, hpath⟩ := exists_rebuilt_user
  have hf : x.kept.Holds "models" lfUser := by
    rw [hkept]
    exact ⟨_, .head _, .head _⟩
  have halone := alone_user hkept hcwd hf
  have hlasting : x.Lasting (x.place "models" lfUser) :=
    place_user hcwd ▸ lasting_user hcwd hscript hpath
  obtain ⟨huser, -⟩ := original_eq hdisk hcwd hpath
  obtain ⟨text, htext, hcontent⟩ := x.exists_text hr hw hf halone hlasting
  obtain rfl := Disk.toUTF8_toList_inj.mp (Except.ok.inj (huser.symm.trans htext))
  have hunix : crlfUser.content.withUnixLines = "class User \x7b\x7d\n" := by decide
  rw [hunix] at hcontent
  refine ⟨after, r, x, x.ends, hr, hw, hf, halone, hlasting, huser, hcontent, ?_⟩
  rw [hcontent, huser]
  exact fun h => absurd (Disk.toUTF8_toList_inj.mp (Option.some.inj h)) (by decide)

end Import

end Refit
