import Refit.Proofs.Cli.Staged
import Refit.Proofs.Project.Placed

/-!
The three commands on a project in a folder, and the import of a clone that holds the same.
-/

namespace Refit

namespace Cli

open SourceTree (Readable IsRead)
open Analysis (Analysable)

variable {off : List String → Prop} {q : Request} {s before made : Session} {r : Config.Resolved}
  {yaml : Yaml.Library} {x y p : List String} {w : Terminal} {c : Clone} {url : String}

-- A project in a folder that can be analysed and read. The two files that are passed on are none of
-- its sources.
structure Presents (q : Request) (s : Session) (x y p : List String) : Prop where
  forward : ".." ∉ s.cwd
  readable : Readable s.disk s.cwd (.ofText q.source) p
  analysable : Analysable s.disk s.cwd p
  unread : ∀ rel, x = p ++ rel ∨ y = p ++ rel → ¬IsRead rel

-- A session that differs from another one in the programs to come: first they make a clone that
-- holds what a folder holds.
structure Fetches (q : Request) (url : String) (s before : Session) (p : List String) (c : Clone)
    (made : Session) : Prop where
  disk : before.disk = s.disk
  cwd : before.cwd = s.cwd
  config : before.config = s.config
  script : before.programs.script.tail.tail = s.programs.script
  temp : before.HasTemp
  fetchable : Clone.Fetchable url before
  fetched : Refit.Ends ((q.importWith {}).fetch url) before (.ok c) made
  cloned : c.error = none
  mirrored : s.disk.Mirrored made.disk p (Clone.placeOf before.temp before.freshTemp url)
  analysable : Analysable made.disk made.cwd (Clone.placeOf before.temp before.freshTemp url)

-- The places where the two ways differ: the files that are passed on, and the folder of the clone.
def Worked (before : Session) (x y z : List String) : Prop :=
  Passed x y z ∨ before.temp ++ [before.freshTemp] <+: z

namespace Presents

variable (h : Presents q s x y p)

include h

theorem analysisAt_iff {depth : Datum} {a : Except Stop Snapshot} :
    Refit.Ends (analysisAt (.ofText q.source) depth) s a s ↔
      Refit.Ends (Analysis.inFolder (.ofText q.source) depth) s a s := by
  have hfile : Refit.Ends (Action.isFile (.ofText q.source)) s (.ok false) s := by
    refine Action.ask_iff.mpr ⟨?_, rfl⟩
    rw [Disk.isFile_eq h.readable.rooted.place, Disk.content?, h.readable.rooted.folder]
    rfl
  exact Refit.Ends.bind_of_ok hfile

-- The sources are still the same once the two files are stored.
theorem files_ends (hs : Starts q s r x y) (b c : List UInt8) :
    Refit.Ends (Origin.folder.files (.ofText q.source)) ((s.storing x b).storing y c)
      (.ok (SourceTree.sourcesAt s.disk p)) ((s.storing x b).storing y c) := by
  have hx := hs.analysis.storable.free
  have hy := (hs.plan.storable.set (b := b) hx).free
  have hreadx : ∀ rel, x = p ++ rel → ¬IsRead rel := fun rel hrel => h.unread rel (.inl hrel)
  have hready : ∀ rel, y = p ++ rel → ¬IsRead rel := fun rel hrel => h.unread rel (.inr hrel)
  have hone := SourceTree.readable_set (b := b) h.readable hx hreadx
  rw [← SourceTree.sourcesAt_set (b := b) h.readable hx hreadx,
    ← SourceTree.sourcesAt_set (b := c) hone hy hready]
  exact SourceTree.read_ends (SourceTree.readable_set hone hy hready)

end Presents

namespace Fetches

variable (h : Fetches q url s before p c made) (hr : s.config = some r)

include h hr

theorem exists_made : ∃ k, before.freshTemp = Clone.tempName k ∧
    Clone.Made url before c made k ∧ made.config = some r := by
  obtain ⟨config, t, hconfig, hmake⟩ := Refit.Ends.bind_ok_iff.mp h.fetched
  obtain ⟨_, rfl⟩ := hconfig.unique (Config.current_ends (h.config.trans hr))
  obtain ⟨k, hk, hmade⟩ := Clone.exists_made h.temp h.fetchable.tame hmake
  exact ⟨k, hk, hmade, (Clone.make_keeps_config _ _ _ hmake).trans (h.config.trans hr)⟩

theorem path_eq : Location.ofText c.path =
    .absolute (Clone.placeOf before.temp before.freshTemp url) := by
  obtain ⟨k, hk, hmade, _⟩ := h.exists_made hr
  rw [(hmade.cloned h.cloned).2.1, hk, Location.ofText_text (Clone.proper_placeOf h.temp.proper)]

theorem cwd_made : made.cwd = s.cwd := by
  obtain ⟨k, _, hmade, _⟩ := h.exists_made hr
  exact hmade.cwd.trans h.cwd

-- Once the clone is made the two sessions are alike.
theorem alike (hp : s.programs.Avoid (Worked before x y) s.cwd (Rebuild.finishTargets r.settings)) :
    Session.Alike (Worked before x y) made.cwd (Rebuild.finishTargets r.settings) made s := by
  obtain ⟨k, hk, hmade, hconfig⟩ := h.exists_made hr
  have hscript : s.programs.script = made.programs.script := by
    rw [hmade.asked h.cloned, h.script]
  have hcwd := h.cwd_made hr
  refine ⟨fun z hz => ?_, rfl, hcwd.symm, hscript, hr.trans hconfig.symm, fun o ho => ?_⟩
  · rw [← h.disk, hmade.apart z (hk ▸ fun hroot => hz (.inr hroot))]
  · rw [hcwd]
    exact hp o (hscript ▸ ho)

-- Removing the clone leaves the sessions alike.
theorem remove_ends {t : Session} {d : Disk} (halike : t.disk.Alike (Worked before x y) d)
    (hkept : ∀ z, made.disk.find? z = some .folder → t.disk.find? z = some .folder) :
    ∃ v, Refit.Ends (Clone.remove c.path) t (.ok ()) v ∧ v.disk.Alike (Worked before x y) d := by
  obtain ⟨k, hk, hmade, _⟩ := h.exists_made hr
  refine ⟨_, hmade.remove_ends h.cloned h.temp h.fetchable hk hkept, fun z hz => ?_⟩
  rw [halike z hz, Disk.find?_remove (by simp), if_neg (hk ▸ fun hroot => hz (.inr hroot))]

theorem analysed {depth : Datum} (hpres : Presents q s x y p) :
    Answers (Analysis.inFolder (.ofText c.path) depth) made
      (Analysis.placed s.disk p depth Analysis.maxFiles) := by
  rw [h.path_eq hr, ← Analysis.placed_mirrored h.mirrored hpres.readable]
  exact Analysis.inFolder_answers (h.cwd_made hr ▸ hpres.forward) h.analysable.readable.rooted
    h.analysable

theorem read_ends (hpres : Presents q s x y p) :
    Refit.Ends (SourceTree.read (.ofText c.path)) made (.ok (SourceTree.sourcesAt s.disk p)) made := by
  rw [h.path_eq hr, ← SourceTree.sourcesAt_mirrored hpres.readable h.mirrored]
  exact SourceTree.read_ends h.analysable.readable

end Fetches

theorem agree_settled {snap : Snapshot} {plan : Schema} {source name : String}
    {result : Except Stop RebuildResult} :
    Agree ((Import.settled source name (result.map (.done source snap plan))).mapError .stopped)
      (result.mapError .stopped) := by
  cases result
  case ok => rfl
  case error => exact agree_unanalysed

theorem staged_repository {x' : Except Ending ImportResult} {y' : Except Ending RebuildResult}
    {w₁ w₂ : Terminal} {v u : Session} (hs : Starts q s r x y) (hpres : Presents q s x y p)
    (hf : Fetches q url s before p c made) (hclear : KeepsClear (Worked before x y) q s r)
    (hp : ∀ snap, Refit.Ends (analysisAt (.ofText q.source) (q.depthIn r)) s (.ok snap) s →
      Passes yaml q r w.plain snap)
    (hi : (q.imported fun i => i.repository url).Ends w before x' w₁ v)
    (hd : (q.staged yaml .folder).Ends w s y' w₂ u) :
    Agree x' y' ∧ v.disk.Alike (Worked before x y) u.disk := by
  suffices h : ∃ x' w₁ v y' w₂ u, (q.imported fun i => i.repository url).Ends w before x' w₁ v ∧
      (q.staged yaml .folder).Ends w s y' w₂ u ∧ Agree x' y' ∧
        v.disk.Alike (Worked before x y) u.disk by
    obtain ⟨_, _, _, _, _, _, hi', hd', hagree⟩ := h
    obtain ⟨rfl, rfl, rfl⟩ := hi.unique hi'
    obtain ⟨rfl, rfl, rfl⟩ := hd.unique hd'
    exact hagree
  have hx : Worked before x y x := .inl (.inl rfl)
  have hy : Worked before x y y := .inl (.inr rfl)
  have hR := hf.alike hs.config hclear.programs
  obtain ⟨a, hanswer, hplaced⟩ : Answers (Analysis.inFolder (.ofText q.source) (q.depthIn r)) s
      (Analysis.placed s.disk p (q.depthIn r) Analysis.maxFiles) :=
    Analysis.inFolder_answers hpres.forward hpres.readable.rooted hpres.analysable
  have ha := hpres.analysisAt_iff.mpr hanswer
  have hpasses : ∀ snap, a = .ok snap → snap.Found ∧ Passes yaml q r w.plain snap :=
    fun snap h => by subst h; exact ⟨found_analysisAt ha, hp snap ha⟩
  cases ho : q.chosen r
  case error f =>
    have hsame : Session.Alike (Worked before x y) s.cwd (Rebuild.finishTargets r.settings) s s :=
      ⟨.refl _, rfl, rfl, rfl, rfl, hclear.programs⟩
    obtain ⟨e, w', u', hstaged, halike⟩ := staged_stops (o := .folder) hs hx hsame ha hpasses
      fun snap _ => ⟨f, by rw [Request.planIn, ho]; rfl⟩
    exact ⟨_, _, _, _, _, _, imported_fails (hf.config.trans hs.config) ho, hstaged, agree_error,
      hf.disk ▸ halike⟩
  case ok o =>
    obtain ⟨_, _, _, hconfig⟩ := hf.exists_made hs.config
    have hfetch : Refit.Ends ((q.importWith o).fetch url) before (.ok c) made := hf.fetched
    have hdepth : Refit.Ends (q.importWith o).depthOf made (.ok (q.depthIn r)) made :=
      Import.depthOf_ends hconfig
    have himported {z : Except Stop ImportResult} {v : Session}
        (h : Refit.Ends ((q.importWith o).repository url) before z v) :
        (q.imported fun i => i.repository url).Ends w before (z.mapError .stopped) w v :=
      imported_ends (hf.config.trans hs.config) ho h
    obtain ⟨a', ha', hsame⟩ : Answers (Analysis.inFolder (.ofText c.path) (q.depthIn r)) made
        (Analysis.placed s.disk p (q.depthIn r) Analysis.maxFiles) :=
      hf.analysed hs.config hpres
    rw [← hplaced] at hsame
    cases a
    case error e =>
      cases a'
      case ok => cases hsame
      case error e' =>
        obtain ⟨_, w', u', hstaged, halike⟩ := staged_stops (o := .folder) hs hx hR ha hpasses
          fun _ h => by cases h
        obtain ⟨v', hremove, halike⟩ := hf.remove_ends hs.config halike fun _ => id
        exact ⟨_, _, _, _, _, _,
          himported (Import.repository_unanalysed hfetch hf.cloned hdepth ha' hremove), hstaged,
          agree_unanalysed, halike⟩
    case ok snap =>
      cases a'
      case error => cases hsame
      case ok snap' =>
        obtain rfl : snap' = snap := Option.some.inj hsame
        have hplan : q.planIn r snap' = Schema.ofSnapshot snap' o := by rw [Request.planIn, ho]; rfl
        cases hmade : Schema.ofSnapshot snap' o
        case error f =>
          obtain ⟨_, w', u', hstaged, halike⟩ := staged_stops (o := .folder) hs hx hR ha hpasses
            fun _ h => ⟨f, by cases h; exact hplan.trans hmade⟩
          obtain ⟨v', hremove, halike⟩ := hf.remove_ends hs.config halike fun _ => id
          have hfails := @Import.rebuildBy_fails (q.importWith o) made snap'
            (SourceTree.read (.ofText c.path)) f url hmade
          exact ⟨_, _, _, _, _, _,
            himported (Import.repository_rebuilt hfetch hf.cloned hdepth ha' ⟨_, hfails⟩ hremove),
            hstaged, agree_error, halike⟩
        case ok plan =>
          obtain ⟨result, t, hcarry⟩ := Refit.Ends.exists_ends (Rebuild.carryOut plan r.settings
            q.output (plan.keptOf q.keepCode (.ok (SourceTree.sourcesAt s.disk p)))) made
          have hrebuilt := @Import.rebuildBy_ends (q.importWith o) made t r snap' plan
            (SourceTree.read (.ofText c.path)) _ result url hconfig rfl hmade
            (hf.read_ends hs.config hpres) hcarry
          have hclear' : KeepsClear (Worked before x y) q made r :=
            ⟨hR.right ▸ hclear.output, hR.right ▸ hclear.modules, hR.programs⟩
          obtain ⟨w', u', hstaged, halike⟩ := staged_alike (o := .folder) hs hx hy hR
            hclear' ha (found_analysisAt ha) (hp snap' ha) (hplan.trans hmade) (hpres.files_ends hs)
            hcarry
          obtain ⟨v', hremove, halike⟩ := hf.remove_ends hs.config halike
            (Rebuild.carryOut_keeps_folders hcarry)
          exact ⟨_, _, _, _, _, _,
            himported (Import.repository_rebuilt hfetch hf.cloned hdepth ha' hrebuilt hremove),
            hstaged, agree_settled, halike⟩

end Cli

end Refit
