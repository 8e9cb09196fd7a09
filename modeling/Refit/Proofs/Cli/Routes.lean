import Refit.Proofs.Cli.Pipelines
import Refit.Proofs.Rebuild.Clean
import Refit.Proofs.Source.ExportRoundTrip
import Refit.Proofs.Text.Utf8

/-!
Two ways to one rebuild, wherever the project comes from: three commands that pass plain documents
on, and an import.

The commands need the documents. A manifest with a table that holds itself has none, and a warning
that breaks the styles of a terminal keeps the plan from being saved; the import minds neither.
-/

namespace Refit

-- A rendering in a file is read as the export of its files.
theorem Export.inFile_rendered {s : Session} {l : Location} {root : String}
    {files : List SourceFile}
    (hbytes : s.disk.readBytes s.cwd l = .ok (render root files).toUTF8.toList)
    (hplain : '\r' ∉ (render root files).toList) (hr : IsLabel root) (hs : '/' ∉ root.toList)
    (hp : ∀ f ∈ files, IsLabel f.path) (hb : ∀ f ∈ files, IsBody f.content) :
    Ends (inFile l) s (.ok (ofFiles root files)) s := by
  have hthere := (Disk.isFile_of_readBytes hbytes).symm
  refine (Ends.bind_of_ok (Action.ask_iff.mpr ⟨hthere, rfl⟩)).mpr ?_
  refine (Ends.bind_of_ok (Action.ask_iff.mpr ⟨hbytes.symm, rfl⟩)).mpr ?_
  rw [Utf8.decodeLossy_toUTF8, Utf8.withUnixLines_eq_self hplain, ofText_eq_ofChars,
    ofChars_render hr hs hp hb]
  exact Ends.pure_iff.mpr ⟨rfl, rfl⟩

namespace Cli

variable {q : Request} {s before made : Session} {r : Config.Resolved} {yaml : Yaml.Library}
  {x y p : List String} {w : Terminal} {c : Clone} {url : String} {o : Origin}
  {import_ : Import → Action ImportResult} {off : List String → Prop}

/-! Where only the import comes to a result -/

variable {snap : Snapshot} {plan_ : Schema} {d : Datum} {f : Fault} {m : String}

-- An analysis without a document is not saved.
theorem staged_unsaved (hr : s.config = some r) (hne : q.analysisFile ≠ "")
    (ha : Refit.Ends (analysisAt (.ofText q.source) (q.depthIn r)) s (.ok snap) s)
    (hd : snap.toDatum.unshared = .error f) :
    ∃ w', (q.staged yaml o).Ends w s (.error (.stopped (.fault f))) w' s := by
  obtain ⟨_, w', hprint, _⟩ := exists_print (s := s) (prints_summary (found_analysisAt ha))
    (w := { w with json := false }) ⟨rfl, rfl⟩
  refine ⟨w', .bind_of_error ((analyse_starts hr).mpr ?_)⟩
  refine (Talk.Ends.bind_of_ok (.ofAction ha)).mpr ((Talk.Ends.bind_of_ok hprint).mpr ?_)
  rw [saveIfAsked, text_analysing, if_pos (by simpa using hne)]
  exact .bind_of_error (.ofRead_error hd)

-- A plan with a warning that breaks the styles of the terminal is not saved.
theorem staged_illegible (hr : s.config = some r) (hsave : SavesAt s.disk s.cwd q.analysisFile x)
    (ha : Refit.Ends (analysisAt (.ofText q.source) (q.depthIn r)) s (.ok snap) s)
    (hd : snap.toDatum.unshared = .ok d) (hrestores : yaml.Restores d)
    (hmade : q.planIn r snap = .ok plan_) (hw : w.plain = false) (hm : .text m ∈ plan_.warnings)
    (hillegible : ¬ Terminal.IsLegible m) :
    ∃ e w' u, (q.staged yaml o).Ends w s (.error e) w' u := by
  have hs := found_analysisAt ha
  obtain ⟨b, w₁, hanalyse, hw₁, hread⟩ := analyse_leaves hr ha hs hsave hd hrestores
  obtain ⟨w₂, hw₂, hshow⟩ :=
    showPlan_starts (q := q) (s := s.storing x b) (worded_planIn hs hmade) w₁
  obtain ⟨z, w₃, hwarnings⟩ := Refit.Ends.exists_ends (Terminal.warningList plan_.warnings) w₂
  cases z
  case ok =>
    rw [hw₁, hw] at hw₂
    exact absurd (Terminal.legible_of_warningList hwarnings hw₂ hm) hillegible
  case error e =>
    have hplan : (plan yaml q.planning).Ends w₁ (s.storing x b) (.error (.stopped e)) w₃
        (s.storing x b) := by
      refine (plan_starts (s := s.storing x b) hr hs hd (hsave.holds hread)).mpr ?_
      refine (Talk.Ends.bind_of_ok (.ofRead hmade)).mpr (.bind_of_error ?_)
      exact hshow _ _ (.ofPrint hwarnings)
    exact ⟨_, w₃, _, (Talk.Ends.bind_of_ok hanalyse).mpr (.bind_of_error hplan)⟩

/-! A shop -/

-- A small project with some manifest.
def shopFiles (manifest : String) : List SourceFile :=
  [⟨"pubspec.yaml", manifest⟩, ⟨"lib/main.dart", "main() {}"⟩]

-- Nothing is configured.
def unset : Config.Resolved :=
  { data := [] }

-- A session at home, with some things there.
def homeSession (nodes : List (List String × Disk.Node)) : Session where
  disk := ⟨(["home"], .folder) :: nodes ++ [(["tmp"], .folder)]⟩
  cwd := ["home"]
  home := ["home"]
  temp := ["tmp"]
  config := some unset

-- A session in which the project is there as an export.
def shopSession (manifest : String) : Session :=
  homeSession
    [(["home", "in.txt"], .file (Export.render "shop" (shopFiles manifest)).toUTF8.toList)]

def shopRequest (source : String) : Request where
  source := source
  output := "out"
  analysisFile := "a.yaml"
  planFile := "s.yaml"

def shopManifest : String :=
  "name: shop"

-- A manifest with a table of dependencies that holds itself.
def loopedManifest : String :=
  "name: shop\ndependencies: &d\n  x: *d"

variable {manifest : String}

theorem ofText_name {name : String} (h : name ∈ ["in.txt", "out", "a.yaml", "s.yaml", "shop"]) :
    Location.ofText name = ⟨none, [name]⟩ := by
  revert name
  decide

theorem readBytes_shop : (shopSession manifest).disk.readBytes (shopSession manifest).cwd
    (.ofText "in.txt") = .ok (Export.render "shop" (shopFiles manifest)).toUTF8.toList := by
  have hplace : (shopSession manifest).disk.place (shopSession manifest).cwd (.ofText "in.txt") =
      .ok ["home", "in.txt"] := by
    rw [ofText_name (by decide)]
    rfl
  exact Disk.readBytes_of_place hplace rfl

theorem inFile_shop (h : manifest ∈ [shopManifest, loopedManifest]) :
    Refit.Ends (Export.inFile (.ofText "in.txt")) (shopSession manifest)
      (.ok (Export.ofFiles "shop" (shopFiles manifest))) (shopSession manifest) := by
  have hplain : ∀ manifest ∈ [shopManifest, loopedManifest],
      '\r' ∉ (Export.render "shop" (shopFiles manifest)).toList := by
    simp only [Export.toList_render]
    decide +kernel
  have hlabels : ∀ manifest ∈ [shopManifest, loopedManifest],
      (∀ f ∈ shopFiles manifest, Export.IsLabel f.path) ∧
        ∀ f ∈ shopFiles manifest, Export.IsBody f.content := by
    decide +kernel
  obtain ⟨hpaths, hbodies⟩ := hlabels _ h
  exact Export.inFile_rendered readBytes_shop (hplain _ h) (by decide) (by decide) hpaths hbodies

theorem analysisAt_shop {depth : Datum} (h : manifest ∈ [shopManifest, loopedManifest]) :
    Refit.Ends (analysisAt (.ofText "in.txt") depth) (shopSession manifest)
      (Analysis.ofFiles (shopFiles manifest) "shop" depth) (shopSession manifest) := by
  have hsame : ∀ manifest ∈ [shopManifest, loopedManifest],
      (Export.ofFiles "shop" (shopFiles manifest)).files = shopFiles manifest ∧
        (Export.ofFiles "shop" (shopFiles manifest)).projectName = "shop" := by
    decide +kernel
  have hthere := (Disk.isFile_of_readBytes (@readBytes_shop manifest)).symm
  refine (Refit.Ends.bind_of_ok (Action.ask_iff.mpr ⟨hthere, rfl⟩)).mpr ?_
  refine (Refit.Ends.bind_of_ok (inFile_shop h)).mpr ?_
  rw [(hsame _ h).1, (hsame _ h).2]
  exact Action.ofExcept_iff.mpr ⟨rfl, rfl⟩

theorem makeOutput_shop (h : manifest ∈ [shopManifest, loopedManifest]) :
    ∃ made, Refit.Ends (Rebuild.makeOutput (.ofText "out")) (shopSession manifest) (.ok ()) made := by
  have hreturns : ∀ manifest ∈ [shopManifest, loopedManifest], Refit.Ends.returnsWith
      (Rebuild.makeOutput (.ofText "out")) (shopSession manifest) fun _ _ => true := by
    decide +kernel
  obtain ⟨_, made, hmade, _⟩ := Refit.Ends.of_returnsWith (hreturns _ h)
  exact ⟨made, hmade⟩

-- Whether the plan for the export of a shop has a property, and keeps no files.
def plansWith (manifest : String) (q : Request) (holds : Snapshot → Schema → Bool) : Bool :=
  (q.chosen unset).toOption.any fun o =>
    (Analysis.ofFiles (shopFiles manifest) "shop" (q.depthIn unset)).toOption.any fun snap =>
      (Schema.ofSnapshot snap o).toOption.any fun made => holds snap made &&
        (made.keptOf q.keepCode (.ok (Export.ofFiles "shop" (shopFiles manifest)).dartFiles)
          ).toOption.any List.isEmpty

-- A plan that keeps no files is carried out, whatever else it says.
theorem exists_imported {holds : Snapshot → Schema → Bool}
    (h : manifest ∈ [shopManifest, loopedManifest]) (hq : q.source = "in.txt")
    (hout : q.output = "out") (hm : q.modules = []) (hi : plansWith manifest q holds) :
    ∃ snap made result v,
      Refit.Ends (analysisAt (.ofText q.source) (q.depthIn unset)) (shopSession manifest) (.ok snap)
        (shopSession manifest) ∧
      q.planIn unset snap = .ok made ∧ holds snap made ∧
      (q.imported fun i => i.exported q.source).Ends w (shopSession manifest)
        (.ok (.done q.source snap made result)) w v := by
  obtain ⟨o, ho, hi⟩ := any_toOption.mp hi
  obtain ⟨snap, hsnap, hi⟩ := any_toOption.mp hi
  obtain ⟨made, hmade, hi⟩ := any_toOption.mp hi
  obtain ⟨hholds, hi⟩ := Bool.and_eq_true_iff.mp hi
  obtain ⟨kept, hkept, hnone⟩ := any_toOption.mp hi
  obtain rfl := List.isEmpty_iff.mp hnone
  have ha : Refit.Ends (analysisAt (.ofText q.source) (q.depthIn unset)) (shopSession manifest)
      (.ok snap) (shopSession manifest) := by
    rw [hq, ← hsnap]
    exact analysisAt_shop h
  have hread : Refit.Ends (Export.inFile (.ofText q.source)) (shopSession manifest)
      (.ok (Export.ofFiles "shop" (shopFiles manifest))) (shopSession manifest) :=
    hq ▸ inFile_shop h
  have hfile : (shopSession manifest).disk.isFile (shopSession manifest).cwd (.ofText q.source) =
      .ok true :=
    hq ▸ Disk.isFile_of_readBytes readBytes_shop
  obtain ⟨_, hmakes⟩ := makeOutput_shop h
  rw [← hout] at hmakes
  have ⟨made', _, _, _, _, result, v, hmade', _, _, _, hperform, _⟩ :=
    Rebuild.exists_perform (found_analysisAt ha).fits (Request.fits_chosen (by simp [hm]) ho)
      (show unset.settings.NoFinish from ⟨rfl, rfl⟩) hmakes
  obtain rfl := Except.ok.inj (hmade'.symm.trans hmade)
  have hcarry : Refit.Ends (Rebuild.carryOut made' unset.settings q.output (made'.keptOf q.keepCode
      (.ok (Export.ofFiles "shop" (shopFiles manifest)).dartFiles))) (shopSession manifest)
      (.ok result) v := by
    rw [hkept]
    exact (Refit.Ends.bind_of_ok (Action.ofExcept_iff.mpr ⟨rfl, rfl⟩)).mpr
      (Job.Ends.startingAt_iff.mpr ⟨_, hperform⟩)
  refine ⟨snap, made', result, v, ha, by rw [Request.planIn, ho]; exact hmade, hholds, ?_⟩
  rcases analyseExport_cases (i := q.importWith o) (r := unset) rfl rfl hfile ha with
    ⟨_, hfail, _⟩ | ⟨e, snap', hsame, he, _, hanalysed⟩
  case inl => cases hfail
  case inr =>
    obtain rfl := Except.ok.inj hsame
    obtain rfl := Except.ok.inj (he.unique hread).1
    exact @exported_rebuilt q _ unset made' w snap v o _ (.ok result) rfl ho hanalysed hmade hcarry

variable {nodes : List (List String × Disk.Node)}

theorem savesAt_home {name : String} (h : name ∈ ["a.yaml", "s.yaml"])
    (hfree : (homeSession nodes).disk.find? ["home", name] ≠ some .folder) :
    SavesAt (homeSession nodes).disk (homeSession nodes).cwd name ["home", name] := by
  have hnames : ∀ name ∈ ["a.yaml", "s.yaml"], Disk.namesFolder name = false ∧
      (Markup.shown ("[green]Saved to:[/green] " ++ (Location.ofText name).text)).isOk ∧
      '\x00' ∉ name.toList ∧ name ≠ ".." ∧ name.utf8ByteSize ≤ Disk.nameLimit ∧
      ((⟨none, []⟩ : Location).child name).text.utf8ByteSize ≤ Disk.pathLimit := by
    decide
  obtain ⟨hopens, hlegible, hnull, hup, hlong, hfits⟩ := hnames _ h
  have hroot : (homeSession nodes).disk.Rooted ["home"] ⟨none, []⟩ ["home"] := ⟨rfl, rfl⟩
  refine ⟨?_, hopens, hlegible⟩
  rw [ofText_name (List.Sublist.subset (by decide) h)]
  exact ⟨hroot.isFolder, hroot.place_child hnull hup hlong hfits, hfree⟩

/-! Ways apart -/

theorem starts_home {source : String} (hne : source ≠ "")
    (hfree : ∀ name ∈ ["a.yaml", "s.yaml"],
      (homeSession nodes).disk.find? ["home", name] ≠ some .folder) :
    Starts (shopRequest source) (homeSession nodes) unset ["home", "a.yaml"] ["home", "s.yaml"] :=
  ⟨rfl, hne, savesAt_home (.head _) (hfree _ (.head _)),
    savesAt_home (.tail _ (.head _)) (hfree _ (.tail _ (.head _)))⟩

-- Where ways may differ: at the two files, and in the folder for what passes.
def Aside (off : List String → Prop) : Prop :=
  ∀ z, off z → z = ["home", "a.yaml"] ∨ z = ["home", "s.yaml"] ∨ ["tmp"] <+: z

theorem avoids_home {name : String} (h : name ∈ ["in.txt", "out"]) (hoff : Aside off) :
    (Location.ofText name).Avoids off ["home"] := by
  have hapart : ∀ name ∈ ["in.txt", "out"], name ≠ "a.yaml" ∧ name ≠ "s.yaml" ∧ name ≠ ".." := by
    decide
  obtain ⟨ha, hs, hup⟩ := hapart _ h
  rw [ofText_name (List.Sublist.subset (by decide) h)]
  rintro z ⟨k, rfl⟩ hz
  cases k
  case zero => simpa [Location.reach] using hoff _ hz
  case succ => simpa [Location.reach, ha, hs, hup] using hoff _ hz

theorem keepsClear_home {source : String} (hoff : Aside off) :
    KeepsClear off (shopRequest source) (homeSession nodes) unset where
  output := by
    refine ⟨avoids_home (.tail _ (.head _)) hoff, fun z hout hz => ?_⟩
    have hname : Location.ofText (shopRequest source).output = ⟨none, ["out"]⟩ :=
      ofText_name (.tail _ (.head _))
    rw [hname] at hout
    obtain ⟨rest, rfl⟩ := hout
    simpa [Location.reach, homeSession] using hoff _ hz
  modules := nofun
  programs := nofun

/-! Documents of a shop -/

open Yaml.Library (standard)

-- The library, which reads two values out of what it wrote of them.
def recalling (d e : Datum) : Yaml.Library where
  write := standard.write
  read t :=
    if (standard.write d).toOption.any fun s => t == .ofBytes s.toUTF8.toList then .ok d
    else if (standard.write e).toOption.any fun s => t == .ofBytes s.toUTF8.toList then .ok e
    else standard.read t

theorem restores_recalling {t u : String} (ht : standard.write d = .ok t)
    (hu : standard.write e = .ok u)
    (hne : Portions.ofBytes t.toUTF8.toList ≠ .ofBytes u.toUTF8.toList) :
    (recalling d e).Restores d ∧ (recalling d e).Restores e := by
  refine ⟨⟨t, ht, ?_⟩, u, hu, ?_⟩
  · rw [recalling, ht]
    exact if_pos (by simp [Except.toOption])
  · rw [recalling, ht, hu]
    refine (if_neg ?_).trans (if_pos (by simp [Except.toOption]))
    simpa [Except.toOption] using hne.symm

-- What the library writes of a value, the last character first.
def written (d : Datum) : Except Fault (List Char) := do
  let named := (Yaml.Writer.names d ⟨[], []⟩).again.reverse
  let p ← Yaml.Writer.node named d false false none Yaml.Page.start
  return (p.indentTo 0).done

theorem write_eq : standard.write d = (written d).map fun cs => String.ofList cs.reverse := by
  change Yaml.write d = _
  rw [Yaml.write, written]
  cases Yaml.Writer.node (Yaml.Writer.names d ⟨[], []⟩).again.reverse d false false none .start
  all_goals rfl

-- Whether the last lines of two documents end in letters or marks, and not in the same.
def EndApart : List Char → List Char → Prop
  | '\n' :: c :: _, '\n' :: c' :: _ => c ≠ c' ∧ c ∉ ['\n', '\r'] ∧ c' ∉ ['\n', '\r']
  | _, _ => False

instance : DecidableRel EndApart := fun t u => by
  unfold EndApart
  split <;> infer_instance

theorem unixLines_last {cs : List Char} {c : Char} (hc : c ∉ ['\n', '\r']) :
    Utf8.unixLines ('\n' :: c :: cs).reverse = Utf8.unixLines cs.reverse ++ [c, '\n'] := by
  obtain ⟨hn, hr⟩ := List.ne_and_not_mem_of_not_mem_cons hc
  have hlast : Utf8.unixLines [c, '\n'] = [c, '\n'] := by
    rw [Utf8.unixLines.eq_3 _ _ (fun _ h _ => hr (by simp [h])) (fun h => hr (by simp [h]))]
    rfl
  rw [List.reverse_cons, List.reverse_cons, List.append_assoc, List.singleton_append,
    Utf8.unixLines_append hn, hlast]

theorem ofBytes_ne_of_endApart {t u : List Char} (h : EndApart t u) :
    Portions.ofBytes (String.ofList t.reverse).toUTF8.toList ≠
      .ofBytes (String.ofList u.reverse).toUTF8.toList := by
  unfold EndApart at h
  split at h
  case h_2 => cases h
  case h_1 =>
    obtain ⟨hne, hc, hc'⟩ := h
    rw [Portions.ofBytes, Portions.ofBytes, Utf8.decode_toUTF8, Utf8.decode_toUTF8]
    intro heq
    have hlines := String.ofList_inj.mp (Portions.mk.inj heq).1
    rw [String.toList_ofList, String.toList_ofList, unixLines_last hc, unixLines_last hc'] at hlines
    exact hne (List.cons.inj (List.append_inj' hlines rfl).2).1

-- Whether the library writes the analysis and the plan of it, and one unlike the other.
def passesOn (q : Request) (snap : Snapshot) : Bool :=
  (q.planIn unset snap).toOption.any fun made =>
    snap.toDatum.unshared.toOption.any fun d =>
      (written d).toOption.any fun t => (written made.toDatum).toOption.any fun u => EndApart t u

theorem exists_passes (h : passesOn q snap)
    (ha : Refit.Ends (analysisAt (.ofText q.source) (q.depthIn unset)) s (.ok snap) s) :
    ∃ d e, ∀ snap', Refit.Ends (analysisAt (.ofText q.source) (q.depthIn unset)) s (.ok snap') s →
      Passes (recalling d e) q unset true snap' := by
  obtain ⟨made, hmade, h⟩ := any_toOption.mp h
  obtain ⟨d, hd, h⟩ := any_toOption.mp h
  obtain ⟨t, ht, h⟩ := any_toOption.mp h
  obtain ⟨u, hu, h⟩ := any_toOption.mp h
  have hwrite : standard.write d = .ok (String.ofList t.reverse) := by rw [write_eq, ht]; rfl
  have hwrite' : standard.write made.toDatum = .ok (String.ofList u.reverse) := by
    rw [write_eq, hu]
    rfl
  obtain ⟨hanalysis, hplan⟩ :=
    restores_recalling hwrite hwrite' (ofBytes_ne_of_endApart (of_decide_eq_true h))
  refine ⟨d, made.toDatum, fun snap' ha' => ?_⟩
  obtain rfl := Except.ok.inj (ha'.unique ha).1
  refine ⟨⟨d, hd, hanalysis⟩, fun made' hmade' => ?_, nofun⟩
  obtain rfl := Except.ok.inj (hmade.symm.trans hmade')
  exact hplan

/-! In a folder -/

def shopListing : List (List String × Disk.Node) :=
  [(["lib"], .folder), (["lib", "main.dart"], .file "main() {}".toUTF8.toList),
    (["pubspec.yaml"], .file shopManifest.toUTF8.toList)]

-- The project in a folder.
def shopFolder (p : List String) : List (List String × Disk.Node) :=
  (p, .folder) :: shopListing.map fun n => (p ++ n.1, n.2)

-- A session in which the project is there in a folder.
def folderSession : Session :=
  homeSession (shopFolder ["home", "shop"])

-- The same, where a clone of the project is to come.
def fetchingSession : Session :=
  { folderSession with programs := { script := [.ended 0 "" "" [
    (⟨none, ["lib", "main.dart"]⟩, "main() {}".toUTF8.toList),
    (⟨none, ["pubspec.yaml"]⟩, shopManifest.toUTF8.toList)]] } }

-- The disk once the clone is made.
def fetchedDisk : Disk :=
  ⟨folderSession.disk.nodes ++ (["tmp", "replant-git-00000000"], .folder) ::
    shopFolder ["tmp", "replant-git-00000000", "b"]⟩

theorem below_folderSession : folderSession.disk.below ["home", "shop"] = shopListing :=
  List.mergeSort_of_pairwise (by decide)

theorem below_fetchedDisk :
    fetchedDisk.below ["tmp", "replant-git-00000000", "b"] = shopListing :=
  List.mergeSort_of_pairwise (by decide)

theorem fetched : Refit.Ends.returnsWith (((shopRequest "shop").importWith {}).fetch "a/b")
    fetchingSession fun c made =>
      c.error.isNone && made.cwd == ["home"] && made.disk.nodes == fetchedDisk.nodes := by
  decide +kernel

theorem mirrored_fetchedDisk : folderSession.disk.Mirrored fetchedDisk ["home", "shop"]
    ["tmp", "replant-git-00000000", "b"] := by
  refine .of_below ?_ ?_ (by decide) (by decide)
    (below_fetchedDisk.trans below_folderSession.symm)
  all_goals
    rw [Disk.Distinct]
    decide

theorem readable_shop {d : Disk} {cwd p : List String} {l : Location} (hr : d.Rooted cwd l p)
    (hb : d.below p = shopListing)
    (hmanifest : (l.child SourceTree.manifestName).text.utf8ByteSize ≤ Disk.pathLimit)
    (hmain : (l ++ ⟨none, ["lib", "main.dart"]⟩).text.utf8ByteSize ≤ Disk.pathLimit) :
    SourceTree.Readable d cwd l p := by
  have hways : SourceTree.waysAt d p = [["lib", "main.dart"]] := by
    rw [SourceTree.waysAt, hb]
    decide
  refine ⟨hr, hmanifest, fun rel hrel => ?_, fun rel hrel => ?_⟩
  all_goals
    rw [hways] at hrel
    obtain rfl := List.mem_singleton.mp hrel
  · exact ⟨by simp [Path.Proper, Path.counts], by decide, by decide⟩
  · exact hmain

theorem presents_folderSession : Presents (shopRequest "shop") folderSession ["home", "a.yaml"]
    ["home", "s.yaml"] ["home", "shop"] where
  forward := by decide
  readable := by
    have hname : Location.ofText (shopRequest "shop").source = ⟨none, ["shop"]⟩ :=
      ofText_name (by decide)
    rw [hname]
    exact readable_shop ⟨rfl, rfl⟩ below_folderSession (by decide) (by decide)
  analysable := by
    refine ⟨readable_shop ⟨rfl, rfl⟩ below_folderSession ?_ ?_, ?_⟩
    all_goals decide
  unread := by simp

theorem hasTemp_fetchingSession : fetchingSession.HasTemp where
  proper := by simp [Path.Proper, fetchingSession, folderSession, homeSession, Path.counts]
  forward := by decide
  leads k := by
    cases k
    case zero => rfl
    case succ k =>
      have htake : fetchingSession.temp.take (k + 1) = ["tmp"] := by
        simp [fetchingSession, folderSession, homeSession]
      rw [htake]
      decide

theorem fetchable_fetchingSession : Clone.Fetchable "a/b" fetchingSession where
  named := by decide
  nullFree := by decide
  fits := eq_ok_of_any (by decide +kernel)
  below o ho f hf := by
    obtain rfl := Option.some.inj ho
    rcases List.mem_cons.mp hf with rfl | hf
    · exact ⟨rfl, by decide⟩
    · obtain rfl := List.mem_singleton.mp hf
      exact ⟨rfl, by decide⟩
  written := by
    have h : Ends.returnsWith (Action.placeFiles (.absolute (Clone.placeOf fetchingSession.temp
        fetchingSession.freshTemp "a/b")) fetchingSession.cwd
          ((fetchingSession.programs.script.head?.map Outcome.files).getD []))
        (fetchingSession.disk.set (fetchingSession.temp ++ [fetchingSession.freshTemp]) .folder)
        fun _ _ => true := by
      decide +kernel
    obtain ⟨_, d, hd, _⟩ := Ends.of_returnsWith h
    intro o ho
    obtain rfl := Option.some.inj ho
    exact ⟨d, hd⟩
  revision := by simp [fetchingSession]

theorem exists_fetches : ∃ c made, Fetches (shopRequest "shop") "a/b" folderSession fetchingSession
    ["home", "shop"] c made := by
  obtain ⟨c, made, hfetched, h⟩ := Refit.Ends.of_returnsWith fetched
  simp only [Bool.and_eq_true, Option.isNone_iff_eq_none, beq_iff_eq] at h
  obtain ⟨⟨hcloned, hcwd⟩, hnodes⟩ := h
  have hdisk : made.disk = fetchedDisk := congrArg Disk.mk hnodes
  have hplace : Clone.placeOf fetchingSession.temp fetchingSession.freshTemp "a/b" =
      ["tmp", "replant-git-00000000", "b"] := by
    decide +kernel
  refine ⟨c, made, rfl, rfl, rfl, rfl, ?_, ?_, hfetched, hcloned, ?_, ?_⟩
  case refine_3 =>
    rw [hplace, hdisk]
    exact mirrored_fetchedDisk
  case refine_4 =>
    rw [hplace, hdisk, hcwd]
    refine ⟨readable_shop ⟨eq_ok_of_any (by decide), by decide⟩
      below_fetchedDisk ?_ ?_, ?_⟩
    all_goals decide
  case refine_1 => exact hasTemp_fetchingSession
  case refine_2 => exact fetchable_fetchingSession

theorem passesOn_placed : (Analysis.placed folderSession.disk ["home", "shop"]
    ((shopRequest "shop").depthIn unset) Analysis.maxFiles).any (passesOn (shopRequest "shop")) := by
  simp only [Analysis.placed, SourceTree.sourcesAt, SourceTree.pathsAt, SourceTree.dartPathsAt,
    Analysis.countFiles, below_folderSession]
  decide +kernel

theorem exists_analysed : ∃ snap, Refit.Ends (analysisAt (.ofText (shopRequest "shop").source)
    ((shopRequest "shop").depthIn unset)) folderSession (.ok snap) folderSession ∧
      passesOn (shopRequest "shop") snap := by
  obtain ⟨x, hx, hplaced⟩ : Answers (Analysis.inFolder (.ofText (shopRequest "shop").source)
      ((shopRequest "shop").depthIn unset)) folderSession _ :=
    Analysis.inFolder_answers presents_folderSession.forward presents_folderSession.readable.rooted
      presents_folderSession.analysable
  have hpasses := passesOn_placed
  rw [← hplaced] at hpasses
  obtain ⟨snap, rfl, hpasses⟩ := any_toOption.mp hpasses
  exact ⟨snap, presents_folderSession.analysisAt_iff.mpr hx, hpasses⟩

/-! Both ways -/

-- Where the project of a request comes from: how it is imported, in which session, and where the
-- two ways may differ.
inductive Route (q : Request) (s : Session) (x y : List String) :
    Origin → (Import → Action ImportResult) → Session → (List String → Prop) → Prop
  | export_ : s.disk.isFile s.cwd (.ofText q.source) = .ok true →
      (Location.ofText q.source).Avoids (Passed x y) s.cwd →
      Route q s x y .file (fun i => i.exported q.source) s (Passed x y)
  | clone {before made : Session} {p : List String} {c : Clone} {url : String} :
      Presents q s x y p → Fetches q url s before p c made →
      Route q s x y .folder (fun i => i.repository url) before (Worked before x y)

-- An architecture that closes a style, and what the plan says of it.
def slashedRequest : Request :=
  { shopRequest "in.txt" with architecture := some "[/b]" }

def slashedWarning : String :=
  "Unknown target architecture '[/b]'. Using layer-first."

def isSlashedWarning : Datum → Bool
  | .text m => m == slashedWarning
  | _ => false

end Cli

end Refit
