import Refit.Proofs.Cli.Stages
import Refit.Proofs.Import.Cloned
import Refit.Proofs.Rebuild.Paths

/-!
Two ways to one rebuild: an import, and the three commands that pass their results on in files. They
come to the same result and write the same, the files that are passed on apart.
-/

namespace Refit

variable {off : List String → Prop} {cwd : List String}

theorem Export.inFile_respects {l : Location} {targets : List Location} (h : l.Avoids off cwd) :
    Respects (Session.Alike off cwd targets) (Export.inFile l) := by
  refine .bind (Action.ask_respects fun _ _ hd => Disk.isFile_alike hd h) fun b => ?_
  cases b
  case false => exact .throw_bind
  case true =>
    exact .bind (Action.ask_respects fun _ _ hd => Disk.readBytes_alike hd h) fun _ => .of_pure

namespace Cli

variable {q : Request} {s : Session} {r : Config.Resolved} {made : Schema}

-- What a request writes keeps clear of some places: its output folder lies apart from them, no
-- module is named by a path that leads there, and neither do programs write there that finish the
-- project.
structure KeepsClear (off : List String → Prop) (q : Request) (s : Session) (r : Config.Resolved) :
    Prop where
  output : (Location.ofText q.output).Apart off s.cwd
  modules : ∀ m ∈ q.modules,
    (Location.ofText q.output ++ .ofText (Output.configPath m)).Avoids off s.cwd
  programs : s.programs.Avoid off s.cwd (Rebuild.finishTargets r.settings)

theorem KeepsClear.carryOut_respects {keep : Bool} {read : Except Stop (List SourceFile)}
    (h : KeepsClear off q s r) (hw : made.Worded q.modules) :
    Respects (Session.Alike off s.cwd (Rebuild.finishTargets r.settings))
      (Rebuild.carryOut made r.settings q.output (made.keptOf keep read)) := by
  refine .bind_of Action.ofExcept_respects fun kept _ _ hk => ?_
  have hforward := Schema.forward_keptOf (Action.ofExcept_iff.mp hk).1.symm
  exact (Rebuild.perform_respects h.output hforward
    (Rebuild.clears_of_worded h.output hw h.modules)).startingAt

/-! Importing -/

variable {w : Terminal} {i : Import} {snap : Snapshot}

-- The import that is asked for, with choices that are made.
def Request.importWith (q : Request) (o : Options) : Import where
  out := q.output
  options := o
  branch := (q.branch.map Datum.text).getD .null
  depth := (q.depth.map Datum.text).getD .null
  keepCode := q.keepCode

theorem importOf_ends (hr : s.config = some r) : (importOf q.importing).Ends w s
    (((q.chosen r).map q.importWith).mapError fun f => .stopped (.fault f)) w s := by
  have hout : text q.importing "output" = q.output := by
    simp [text, Request.importing, Datum.shown, Datum.bare]
  have hbranch : q.importing.get "branch" = (q.branch.map Datum.text).getD .null := by
    simp [Request.importing, Request.options, lookup_cons_ite, List.lookup_append]
  have hdepth : q.importing.get "depth" = (q.depth.map Datum.text).getD .null := by
    simp [Request.importing, Request.options, lookup_cons_ite, List.lookup_append]
  have hkeep : isOn q.importing "keep_code" true = q.keepCode := by
    simp [isOn, Request.importing, lookup_cons_ite, Datum.truthy]
  have hoptions := @optionsOf_ends q s w r q.importing hr fun _ => Request.choices_importing
  rw [importOf, hout, hbranch, hdepth, hkeep]
  cases ho : q.chosen r
  case error f =>
    rw [ho] at hoptions
    exact .bind_of_error hoptions
  case ok o =>
    rw [ho] at hoptions
    exact (Talk.Ends.bind_of_ok hoptions).mpr .of_pure

section

variable {import_ : Import → Action ImportResult} {v : Session}

theorem imported_fails {f : Fault} (hr : s.config = some r) (ho : q.chosen r = .error f) :
    (q.imported import_).Ends w s (.error (.stopped (.fault f))) w s := by
  have h := @importOf_ends q s r w hr
  rw [ho] at h
  exact .bind_of_error h

theorem imported_ends {o : Options} {x : Except Stop ImportResult} (hr : s.config = some r)
    (ho : q.chosen r = .ok o) (h : Refit.Ends (import_ (q.importWith o)) s x v) :
    (q.imported import_).Ends w s (x.mapError .stopped) w v := by
  have h' := @importOf_ends q s r w hr
  rw [ho] at h'
  exact (Talk.Ends.bind_of_ok h').mpr (.ofAction h)

end

/-! Exports -/

-- Two ways agree on a rebuild: they have the same result of it, or both have none.
def Agree (x : Except Ending ImportResult) (y : Except Ending RebuildResult) : Prop :=
  y.toOption = x.toOption.bind ImportResult.rebuild

theorem agree_error {e e' : Ending} : Agree (.error e) (.error e') :=
  rfl

theorem agree_unanalysed {source name : String} {e : Stop} {e' : Ending} :
    Agree ((Import.unanalysed source name e).mapError .stopped) (.error e') := by
  cases e <;> rfl

theorem agree_done {source : String} {result : Except Stop RebuildResult} :
    Agree ((result.map (ImportResult.done source snap made)).mapError .stopped)
      (result.mapError .stopped) := by
  cases result <;> rfl

variable {t : Session}

-- Storing a file at one of some places.
theorem alike_storing {targets : List Location} {p : List String} {b : List UInt8}
    (h : Session.Alike off cwd targets s t) (hp : off p) :
    Session.Alike off cwd targets s (t.storing p b) := by
  refine ⟨fun z hz => ?_, h.left, h.right, h.script, h.config, h.programs⟩
  rw [Session.storing, Disk.find?_set_eq, if_neg, h.disk z hz]
  rintro ⟨_, rfl⟩
  exact hz hp

theorem found_analysisAt {l : Location} {depth : Datum}
    (h : Refit.Ends (analysisAt l depth) s (.ok snap) t) : snap.Found := by
  obtain ⟨b, u, _, h⟩ := Refit.Ends.bind_ok_iff.mp h
  cases b
  case false => exact Analysis.found_inFolder h
  case true =>
    obtain ⟨_, _, _, h⟩ := Refit.Ends.bind_ok_iff.mp h
    exact Analysis.found_ofFiles (Action.ofExcept_iff.mp h).1.symm

-- The analysis of a file that is there is the one of the export in it.
theorem analyseExport_cases {x : Except Stop Snapshot} (hr : s.config = some r)
    (hi : i.depth = (q.depth.map Datum.text).getD .null)
    (hfile : s.disk.isFile s.cwd (.ofText q.source) = .ok true)
    (h : Refit.Ends (analysisAt (.ofText q.source) (q.depthIn r)) s x s) :
    (∃ e, x = .error e ∧ Refit.Ends (i.analyseExport q.source) s (.error e) s) ∨
      ∃ e snap, x = .ok snap ∧ Refit.Ends (Export.inFile (.ofText q.source)) s (.ok e) s ∧
        Analysis.ofFiles e.files e.projectName (q.depthIn r) = .ok snap ∧
        Refit.Ends (i.analyseExport q.source) s (.ok (e, snap)) s := by
  have hdepth : Refit.Ends i.depthOf s (.ok (q.depthIn r)) s := by
    rw [Request.depthIn, ← hi]
    exact Import.depthOf_ends hr
  have hthere : Refit.Ends (Action.isFile (.ofText q.source)) s (.ok true) s :=
    Action.ask_iff.mpr ⟨hfile.symm, rfl⟩
  rw [analysisAt, Refit.Ends.bind_of_ok hthere, if_pos rfl] at h
  obtain ⟨y, u, hy⟩ := Refit.Ends.exists_ends (Export.inFile (.ofText q.source)) s
  obtain rfl := Export.inFile_asks _ _ _ hy
  cases y
  case error e =>
    obtain ⟨rfl, _⟩ := h.unique (.bind_of_error hy)
    exact .inl ⟨e, rfl, .bind_of_error hy⟩
  case ok e =>
    rw [Refit.Ends.bind_of_ok hy, Action.ofExcept_iff] at h
    obtain ⟨rfl, _⟩ := h
    have hrest : Refit.Ends (i.analyseExport q.source) s
        ((Analysis.ofFiles e.files e.projectName (q.depthIn r)).map fun snap => (e, snap)) s := by
      refine (Refit.Ends.bind_of_ok hy).mpr ((Refit.Ends.bind_of_ok hdepth).mpr ?_)
      cases Analysis.ofFiles e.files e.projectName (q.depthIn r)
      case error => exact .bind_of_error (Action.ofExcept_iff.mpr ⟨rfl, rfl⟩)
      case ok =>
        refine (Refit.Ends.bind_of_ok (Action.ofExcept_iff.mpr ⟨rfl, rfl⟩)).mpr ?_
        exact Refit.Ends.pure_iff.mpr ⟨rfl, rfl⟩
    cases hsnap : Analysis.ofFiles e.files e.projectName (q.depthIn r)
    case error f => exact .inl ⟨f, rfl, by rw [hsnap] at hrest; exact hrest⟩
    case ok snap => exact .inr ⟨e, snap, rfl, hy, hsnap, by rw [hsnap] at hrest; exact hrest⟩

variable {v : Session}

-- An export whose plan is carried out is imported with the result.
theorem exported_rebuilt {o : Options} {e : Export} {result : Except Stop RebuildResult}
    (hr : s.config = some r) (ho : q.chosen r = .ok o)
    (he : Refit.Ends ((q.importWith o).analyseExport q.source) s (.ok (e, snap)) s)
    (hmade : Schema.ofSnapshot snap o = .ok made)
    (hcarry : Refit.Ends (Rebuild.carryOut made r.settings q.output
      (made.keptOf q.keepCode (.ok e.dartFiles))) s result v) :
    (q.imported fun i => i.exported q.source).Ends w s
      ((result.map (.done q.source snap made)).mapError .stopped) w v := by
  have hgiven : Refit.Ends (pure e.dartFiles : Action (List SourceFile)) s (.ok e.dartFiles) s :=
    Refit.Ends.pure_iff.mpr ⟨rfl, rfl⟩
  have hrebuilt := @Import.rebuildBy_ends (q.importWith o) s v r snap made (pure e.dartFiles) _
    result q.source hr rfl hmade hgiven hcarry
  exact imported_ends hr ho (Import.exported_ends he hrebuilt)

variable {yaml : Yaml.Library} {o : Origin} {x y : List String}

-- What a staged rebuild starts with: the configuration is resolved, the source is named, and there
-- is room for the two files.
structure Starts (q : Request) (s : Session) (r : Config.Resolved) (x y : List String) : Prop where
  config : s.config = some r
  source : q.source ≠ ""
  analysis : SavesAt s.disk s.cwd q.analysisFile x
  plan : SavesAt s.disk s.cwd q.planFile y

-- A plan that is carried out from one session is carried out in stages from one that is alike, if
-- the same sources are read there.
theorem staged_alike {read : Except Stop (List SourceFile)} {result : Except Stop RebuildResult}
    (hs : Starts q s r x y) (hx : off x) (hy : off y)
    (hR : Session.Alike off t.cwd (Rebuild.finishTargets r.settings) t s)
    (hclear : KeepsClear off q t r)
    (ha : Refit.Ends (analysisAt (.ofText q.source) (q.depthIn r)) s (.ok snap) s) (hf : snap.Found)
    (hp : Passes yaml q r w.plain snap) (hmade : q.planIn r snap = .ok made)
    (hread : ∀ b c, Refit.Ends (o.files (.ofText q.source)) ((s.storing x b).storing y c) read
      ((s.storing x b).storing y c))
    (hcarry : Refit.Ends (Rebuild.carryOut made r.settings q.output (made.keptOf q.keepCode read)) t
      result v) :
    ∃ w' u, (q.staged yaml o).Ends w s (result.mapError .stopped) w' u ∧ v.disk.Alike off u.disk := by
  obtain ⟨b, c, hstaged⟩ := staged_ends hs.source hs.config ha hf hs.analysis hs.plan hp hmade
  have hworded := worded_planIn hf hmade
  obtain ⟨u, hu, halike⟩ := hclear.carryOut_respects hworded _ _ _ _
    (alike_storing (alike_storing hR hx) hy) hcarry
  obtain ⟨w', hw'⟩ := hstaged read result u (hread b c) hu
  exact ⟨w', u, hw', halike.disk⟩

-- A staged rebuild that comes to no plan leaves at most its analysis.
theorem staged_stops {a : Except Stop Snapshot} (hs : Starts q s r x y) (hx : off x)
    (hR : Session.Alike off t.cwd (Rebuild.finishTargets r.settings) t s)
    (ha : Refit.Ends (analysisAt (.ofText q.source) (q.depthIn r)) s a s)
    (hf : ∀ snap, a = .ok snap → snap.Found ∧ Passes yaml q r w.plain snap)
    (hstop : ∀ snap, a = .ok snap → ∃ f, q.planIn r snap = .error f) :
    ∃ e w' u, (q.staged yaml o).Ends w s (.error e) w' u ∧ t.disk.Alike off u.disk := by
  cases a
  case error e => exact ⟨_, _, _, staged_unanalysed hs.config ha, hR.disk⟩
  case ok snap =>
    obtain ⟨hfound, hp⟩ := hf snap rfl
    obtain ⟨f, hplan⟩ := hstop snap rfl
    obtain ⟨b, w', h⟩ := staged_unplanned hs.config ha hfound hs.analysis hp hplan
    exact ⟨_, w', _, h, (alike_storing hR hx).disk⟩

-- The places of the two files.
def Passed (x y : List String) (p : List String) : Prop :=
  p = x ∨ p = y

theorem staged_export {x' : Except Ending ImportResult} {y' : Except Ending RebuildResult}
    {w₁ w₂ : Terminal} {u : Session} (hs : Starts q s r x y)
    (hfile : s.disk.isFile s.cwd (.ofText q.source) = .ok true)
    (hsource : (Location.ofText q.source).Avoids (Passed x y) s.cwd)
    (hclear : KeepsClear (Passed x y) q s r)
    (hp : ∀ snap, Refit.Ends (analysisAt (.ofText q.source) (q.depthIn r)) s (.ok snap) s →
      Passes yaml q r w.plain snap)
    (hi : (q.imported fun i => i.exported q.source).Ends w s x' w₁ v)
    (hd : (q.staged yaml .file).Ends w s y' w₂ u) :
    Agree x' y' ∧ v.disk.Alike (Passed x y) u.disk := by
  suffices h : ∃ x' w₁ v y' w₂ u, (q.imported fun i => i.exported q.source).Ends w s x' w₁ v ∧
      (q.staged yaml .file).Ends w s y' w₂ u ∧ Agree x' y' ∧ v.disk.Alike (Passed x y) u.disk by
    obtain ⟨_, _, _, _, _, _, hi', hd', hagree⟩ := h
    obtain ⟨rfl, rfl, rfl⟩ := hi.unique hi'
    obtain ⟨rfl, rfl, rfl⟩ := hd.unique hd'
    exact hagree
  have hx : Passed x y x := .inl rfl
  have hy : Passed x y y := .inr rfl
  have hsame : Session.Alike (Passed x y) s.cwd (Rebuild.finishTargets r.settings) s s :=
    ⟨.refl _, rfl, rfl, rfl, rfl, hclear.programs⟩
  obtain ⟨a, _, ha⟩ := Refit.Ends.exists_ends (analysisAt (.ofText q.source) (q.depthIn r)) s
  obtain rfl := analysisAt_asks _ _ _ ha
  have hstops := staged_stops (o := .file) hs hx hsame ha
    fun snap h => by subst h; exact ⟨found_analysisAt ha, hp snap ha⟩
  cases ho : q.chosen r
  case error f =>
    obtain ⟨e, w', u', hstaged, halike⟩ := hstops fun snap _ => ⟨f, by rw [Request.planIn, ho]; rfl⟩
    exact ⟨_, _, _, _, _, _, imported_fails hs.config ho, hstaged, agree_error, halike⟩
  case ok o =>
    rcases analyseExport_cases (i := q.importWith o) hs.config rfl hfile ha with
      ⟨e, rfl, he⟩ | ⟨e, snap, rfl, hread, hsnap, he⟩
    case inl =>
      obtain ⟨_, w', u', hstaged, halike⟩ := hstops fun _ h => by cases h
      exact ⟨_, _, _, _, _, _, imported_ends hs.config ho (Import.exported_fails he), hstaged,
        agree_unanalysed, halike⟩
    case inr =>
      have hplan : q.planIn r snap = Schema.ofSnapshot snap o := by rw [Request.planIn, ho]; rfl
      cases hmade : Schema.ofSnapshot snap o
      case error f =>
        obtain ⟨_, w', u', hstaged, halike⟩ := hstops fun _ h => ⟨f, by cases h; exact hplan.trans hmade⟩
        have hfails := @Import.rebuildBy_fails (q.importWith o) s snap (pure e.dartFiles) f q.source hmade
        exact ⟨_, _, _, _, _, _, imported_ends hs.config ho (Import.exported_ends he ⟨_, hfails⟩), hstaged,
          agree_error, halike⟩
      case ok made =>
        obtain ⟨result, v', hcarry⟩ := Refit.Ends.exists_ends
          (Rebuild.carryOut made r.settings q.output (made.keptOf q.keepCode (.ok e.dartFiles))) s
        have himported := exported_rebuilt (w := w) hs.config ho he hmade hcarry
        have hfiles (b c : List UInt8) : Refit.Ends (Origin.file.files (.ofText q.source))
            ((s.storing x b).storing y c) (.ok e.dartFiles) ((s.storing x b).storing y c) := by
          obtain ⟨_, hread', _⟩ := Export.inFile_respects hsource _ _ _ _
            (alike_storing (alike_storing (b := b) hsame hx) (b := c) hy) hread
          obtain rfl := Export.inFile_asks _ _ _ hread'
          exact (Refit.Ends.bind_of_ok hread').mpr (Refit.Ends.pure_iff.mpr ⟨rfl, rfl⟩)
        obtain ⟨w', u', hstaged, halike⟩ := staged_alike hs hx hy hsame hclear ha (found_analysisAt ha)
          (hp snap ha) (hplan.trans hmade) hfiles hcarry
        exact ⟨_, _, _, _, _, _, himported, hstaged, agree_done, halike⟩

end Cli

end Refit
