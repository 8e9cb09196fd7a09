import Refit.Proofs.Cli.Requests
import Refit.Proofs.Cli.Talks
import Refit.Proofs.Disk.Storing
import Refit.Proofs.Import.Resolved
import Refit.Proofs.Plan.Stored
import Refit.Proofs.Rebuild.Sources

/-!
What the three commands do that analyse a project, plan it anew and rebuild it, once the
configuration is resolved: the first two leave a file each, which the next one reads.
-/

namespace Refit

open Terminal (Prints ShowsText)

-- A session in which a file was stored at a place.
def Session.storing (s : Session) (p : List String) (b : List UInt8) : Session :=
  { s with disk := s.disk.set p (.file b) }

-- A value is read back of its document.
def Yaml.Library.Restores (yaml : Yaml.Library) (d : Datum) : Prop :=
  ∃ t, yaml.write d = .ok t ∧ yaml.read (.ofBytes t.toUTF8.toList) = .ok d

namespace Cli

variable {yaml : Yaml.Library} {q : Request} {s : Session} {w : Terminal} {plain : Bool}
  {path : String} {p : List String} {d e : Datum} {b : List UInt8} {a : Dict}

theorem exists_print {α : Type} {x : Print α} (hx : Prints plain x) (hw : w.ShowsText plain) :
    ∃ r w', (Talk.ofPrint x).Ends w s (.ok r) w' s ∧ w'.ShowsText plain := by
  obtain ⟨r, w', hr, hw'⟩ := hx w hw
  exact ⟨r, w', .ofPrint hr, hw'⟩

/-! Files of results -/

-- A file can be saved under a name, and opened again: the name stands for no folder, and it can be
-- shown.
structure SavesAt (d : Disk) (cwd : List String) (path : String) (p : List String) : Prop where
  storable : d.Storable cwd (.ofText path) p
  opens : Disk.namesFolder path = false
  legible : (Markup.shown ("[green]Saved to:[/green] " ++ (Location.ofText path).text)).isOk

theorem SavesAt.ne_empty {d : Disk} {cwd : List String} (h : SavesAt d cwd path p) : path ≠ "" := by
  rintro rfl
  obtain ⟨around, hplace, hfolder⟩ := Disk.exists_place_of_isFolder h.storable.around
  obtain rfl : around = p := Except.ok.inj (hplace.symm.trans h.storable.place)
  exact h.storable.free hfolder

theorem saveIfAsked_ends (h : SavesAt s.disk s.cwd path p) (ha : text a "save" = path)
    (hd : d.unshared = .ok e) (he : yaml.Restores e) (hw : w.ShowsText plain) :
    ∃ b w', (saveIfAsked yaml a d).Ends w s (.ok ()) w' (s.storing p b) ∧
      w'.ShowsText plain ∧ yaml.read (.ofBytes b) = .ok e := by
  obtain ⟨t, hwrite, hread⟩ := he
  have hstore : Refit.Ends (Action.change fun cwd => Disk.store cwd (.ofText path) t) s (.ok ())
      (s.storing p t.toUTF8.toList) :=
    Action.change_iff.mpr ⟨_, h.storable.store t, rfl⟩
  obtain ⟨_, w', hshow, hw'⟩ := exists_print (.styled h.legible) hw
  refine ⟨_, w', ?_, hw', hread⟩
  rw [saveIfAsked, if_pos (by simpa [ha] using h.ne_empty), ha]
  refine (Talk.Ends.bind_of_ok (.ofRead hd)).mpr ?_
  simp only [saveTo, hwrite]
  refine (Talk.Ends.bind_of_ok (.ofAction hstore)).mpr ?_
  refine (Talk.Ends.bind_of_ok (.ofRead rfl)).mpr ?_
  refine (Talk.Ends.bind_of_ok .of_get).mpr ?_
  rw [hw.json]
  exact hshow

theorem loadFrom_ends (hplace : s.disk.place s.cwd (.ofText path) = .ok p)
    (hf : s.disk.find? p = some (.file b)) (hopens : Disk.namesFolder path = false)
    (hne : path ≠ "") (hread : yaml.read (.ofBytes b) = .ok d) (hd : d.entries?.isSome) :
    Refit.Ends (loadFrom yaml path) s (.ok d) s := by
  have hnamed : s.disk.readNamed s.cwd path = .ok (.ofBytes b) := by
    simp [Disk.readNamed, hne, Disk.readBytes_of_place hplace hf, hopens]
  refine (Refit.Ends.bind_of_ok (Action.ask_iff.mpr ⟨hnamed.symm, rfl⟩)).mpr ?_
  rw [hread]
  simp only [hd, if_true]
  exact Refit.Ends.pure_iff.mpr ⟨rfl, rfl⟩

/-! Analysis -/

-- How deep a project is analysed: as asked for, or as the configuration says.
def Request.depthIn (q : Request) (r : Config.Resolved) : Datum :=
  ((q.depth.map Datum.text).getD .null).orElse (r.get "analysis.depth" "deep")

theorem showJson_ends (h : isOn a "json" = false) :
    (showJson a).Ends w s (.ok ⟨⟩) { w with json := false } s := by
  rw [← h]
  exact .of_modify

theorem config_ends {r : Config.Resolved} (h : s.config = some r) :
    config.Ends w s (.ok r) w s :=
  .ofAction (Config.current_ends h)

theorem analysisAt_asks {l : Location} {depth : Datum} : Asks (analysisAt l depth) :=
  .bind .ask fun _ => .ite (.bind Export.inFile_asks fun _ => .ofExcept) Analysis.inFolder_asks

variable {r : Config.Resolved} {snap : Snapshot} {u : Terminal} {v : Session}

theorem analyse_starts {x : Except Ending Unit} (hr : s.config = some r) :
    (analyse yaml q.analysing).Ends w s x u v ↔ Talk.Ends (do
      let snap ← Talk.ofAction (analysisAt (.ofText q.source) (q.depthIn r))
      Talk.ofPrint (Terminal.analysisSummary snap)
      saveIfAsked yaml q.analysing snap.toDatum) { w with json := false } s x u v := by
  have hdepth : q.analysing.get "depth" = (q.depth.map Datum.text).getD .null := by
    simp [Request.analysing, lookup_cons_ite]
  have hpath : text q.analysing "path" = q.source := by
    simp [text, Request.analysing, Datum.shown, Datum.bare]
  have hjson : isOn q.analysing "json" = false := by
    simp [isOn, Request.analysing, lookup_cons_ite, Datum.truthy]
  rw [analyse, Talk.Ends.bind_of_ok (showJson_ends hjson), hdepth, hpath, Request.depthIn, Datum.orElse]
  split
  case isTrue => exact Talk.Ends.bind_of_ok .of_pure
  case isFalse => exact Talk.Ends.bind_of_ok (config_ends hr)

theorem analyse_fails {e : Stop} (hr : s.config = some r)
    (h : Refit.Ends (analysisAt (.ofText q.source) (q.depthIn r)) s (.error e) s) :
    (analyse yaml q.analysing).Ends w s (.error (.stopped e)) { w with json := false } s :=
  (analyse_starts hr).mpr (.bind_of_error (.ofAction h))

theorem text_analysing : text q.analysing "save" = q.analysisFile := by
  simp [text, Request.analysing, lookup_cons_ite, Datum.shown, Datum.bare]

-- The summary of an analysis can be shown.
theorem prints_summary (hs : snap.Found) : Prints plain (Terminal.analysisSummary snap) := by
  obtain ⟨name, hname⟩ := hs.name
  obtain ⟨detected, hdetected⟩ := hs.architecture.detected
  obtain ⟨state, hstate⟩ := hs.dependencies.state
  exact .analysisSummary (by rw [hname]; exact Datum.toText_text)
    (by rw [hdetected]; exact Datum.toText_text) (by rw [hstate]; exact Datum.toText_text)

theorem analyse_leaves (hr : s.config = some r)
    (h : Refit.Ends (analysisAt (.ofText q.source) (q.depthIn r)) s (.ok snap) s) (hs : snap.Found)
    (hsave : SavesAt s.disk s.cwd q.analysisFile p) (hd : snap.toDatum.unshared = .ok e)
    (he : yaml.Restores e) : ∃ b w', (analyse yaml q.analysing).Ends w s (.ok ()) w'
      (s.storing p b) ∧ w'.plain = w.plain ∧
        yaml.read (.ofBytes b) = .ok e := by
  obtain ⟨_, w₁, hprint, hw₁⟩ :=
    exists_print (s := s) (prints_summary hs) (w := { w with json := false }) ⟨rfl, rfl⟩
  obtain ⟨b, w₂, hsaved, hw₂, hread⟩ := saveIfAsked_ends hsave text_analysing hd he hw₁
  refine ⟨b, w₂, (analyse_starts hr).mpr ?_, hw₂.plain, hread⟩
  refine (Talk.Ends.bind_of_ok (.ofAction h)).mpr ?_
  exact (Talk.Ends.bind_of_ok hprint).mpr hsaved

/-! Planning -/

-- The choices of a request, over those of the configuration.
def Request.chosen (q : Request) (r : Config.Resolved) : Datum.Read Options := do
  return choices (← (r.get "rebuild" (.dict [])).toDict) (arguments q.options)

theorem Request.fits_chosen {o : Options} (hm : ∀ m ∈ q.modules, Path.Fits m)
    (ho : q.chosen r = .ok o) : o.Fits := by
  obtain ⟨_, _, ho⟩ := bind_eq_ok.mp ho
  obtain rfl := pure_eq_ok.mp ho
  exact Request.fits_choices hm

def Request.planIn (q : Request) (r : Config.Resolved) (snap : Snapshot) : Datum.Read Schema := do
  Schema.ofSnapshot snap (← q.chosen r)

-- A document at a place, which can be opened there.
structure Holds (yaml : Yaml.Library) (s : Session) (path : String) (p : List String) (d : Datum) :
    Prop where
  saves : SavesAt s.disk s.cwd path p
  bytes : ∃ b, s.disk.find? p = some (.file b) ∧ yaml.read (.ofBytes b) = .ok d

theorem Holds.loads (h : Holds yaml s path p d) (hd : d.entries?.isSome) :
    (Talk.ofAction (loadFrom yaml path)).Ends w s (.ok d) w s := by
  obtain ⟨b, hb, hread⟩ := h.bytes
  exact .ofAction (loadFrom_ends h.saves.storable.place hb h.saves.opens h.saves.ne_empty hread hd)

theorem optionsOf_ends {a : Dict} (hr : s.config = some r)
    (ha : ∀ defaults, choices defaults a = choices defaults (Request.arguments q.options)) :
    (optionsOf a).Ends w s ((q.chosen r).mapError fun f => .stopped (.fault f)) w s := by
  have hdefaults : Refit.Ends Config.rebuildDefaults s
      ((r.get "rebuild" (.dict [])).toDict.mapError .fault) s := by
    refine (Refit.Ends.bind_of_ok (Config.current_ends hr)).mpr ?_
    exact Action.ofExcept_iff.mpr ⟨rfl, rfl⟩
  rw [Request.chosen]
  cases hd : (r.get "rebuild" (.dict [])).toDict
  case error f =>
    rw [hd] at hdefaults
    exact .bind_of_error (.ofAction hdefaults)
  case ok defaults =>
    rw [hd] at hdefaults
    refine (Talk.Ends.bind_of_ok (.ofAction hdefaults)).mpr ?_
    rw [ha]
    exact .of_pure

theorem plan_starts {x : Except Ending Unit} (hr : s.config = some r) (hs : snap.Found)
    (hd : snap.toDatum.unshared = .ok d) (h : Holds yaml s q.analysisFile p d) :
    (plan yaml q.planning).Ends w s x u v ↔ Talk.Ends (do
      let made ← Talk.ofRead (q.planIn r snap)
      showPlan q.planning made
      saveIfAsked yaml q.planning made.toDatum) { w with json := false } s x u v := by
  have hpath : text q.planning "analysis_file" = q.analysisFile := by
    simp [text, Request.planning, Datum.shown, Datum.bare]
  have hjson : isOn q.planning "json" = false := by
    simp [isOn, Request.planning, Request.options, lookup_cons_ite, List.lookup_append, Datum.truthy]
  obtain ⟨t, ht, hbare⟩ := hs.exists_copy hd
  obtain ⟨c, hc, _⟩ := Snapshot.exists_copy hd
  have hsame : ∀ o, Schema.ofSnapshot t o = Schema.ofSnapshot snap o := fun o => by
    rw [← Snapshot.ofSnapshot_bare, hbare, Snapshot.ofSnapshot_bare]
  rw [plan, Talk.Ends.bind_of_ok (showJson_ends hjson), hpath,
    Talk.Ends.bind_of_ok (h.loads (hc ▸ rfl)), Talk.Ends.bind_of_ok (.ofRead ht),
    Request.planIn]
  have hoptions := @optionsOf_ends q s { w with json := false } r q.planning hr
    fun _ => Request.choices_planning
  cases ho : q.chosen r
  case error f =>
    rw [ho] at hoptions
    rw [Talk.Ends.iff_eqs (.bind_of_error hoptions)]
    exact (Talk.Ends.iff_eqs (.bind_of_error (.ofRead_error rfl))).symm
  case ok o =>
    rw [ho] at hoptions
    rw [Talk.Ends.bind_of_ok hoptions, hsame]
    rfl

theorem plan_fails {f : Fault} (hr : s.config = some r) (hs : snap.Found)
    (hd : snap.toDatum.unshared = .ok d) (h : Holds yaml s q.analysisFile p d)
    (hf : q.planIn r snap = .error f) : (plan yaml q.planning).Ends w s
      (.error (.stopped (.fault f))) { w with json := false } s :=
  (plan_starts hr hs hd h).mpr (.bind_of_error (.ofRead_error hf))

variable {made : Schema} {extra : List String}

theorem exists_planRows (h : made.Worded extra) : ∃ rows, planRows made = .ok rows ∧
    ∀ row ∈ rows, (∃ k, row.1.toText = .ok k) ∧ ∃ v, row.2.toText = .ok v := by
  obtain ⟨name, hname⟩ := h.name
  obtain ⟨_, harchitecture, architecture, rfl⟩ := h.architecture
  obtain ⟨_, hstate, state, rfl⟩ := h.state
  obtain ⟨ms, hms, _⟩ := h.modules
  obtain ⟨modules, hmodules⟩ := @Datum.exists_joinTexts ", " (ms.map .text)
    (List.forall_mem_map.mpr fun m _ => ⟨m, rfl⟩)
  have htext (s : String) : ∃ v, (Datum.text s).toText = .ok v := ⟨s, Datum.toText_text⟩
  simp only [planRows, hms, hmodules, harchitecture, hstate, hname, bind, Except.bind, pure, Except.pure]
  refine ⟨_, rfl, ?_⟩
  simp only [List.forall_mem_cons]
  exact ⟨⟨htext _, htext _⟩, ⟨htext _, htext _⟩, ⟨htext _, htext _⟩, ⟨htext _, htext _⟩,
    ⟨htext _, htext _⟩, ⟨htext _, htext _⟩, ⟨htext _, htext _⟩, ⟨htext _, htext _⟩,
    List.forall_mem_nil _⟩

-- A plan is shown up to its warnings.
theorem showPlan_starts (h : made.Worded extra) (w : Terminal) : ∃ w₁ : Terminal,
    w₁.ShowsText w.plain ∧ ∀ x u, (Talk.ofPrint (Terminal.warningList made.warnings)).Ends w₁ s x u s →
      (showPlan q.planning made).Ends { w with json := false } s x u s := by
  have hjson : isOn q.planning "json" = false := by
    simp [isOn, Request.planning, Request.options, lookup_cons_ite, List.lookup_append, Datum.truthy]
  obtain ⟨rows, hrows, htexts⟩ := exists_planRows h
  have htable : Prints w.plain (Terminal.table "Rebuild Schema" rows) := .table htexts
  obtain ⟨_, w₁, htable, hw₁⟩ := exists_print (s := s) htable (w := { w with json := false }) ⟨rfl, rfl⟩
  refine ⟨w₁, hw₁, fun x u hwarnings => ?_⟩
  rw [showPlan, hjson]
  refine (Talk.Ends.bind_of_ok (.ofRead hrows)).mpr ?_
  exact (Talk.Ends.bind_of_ok htable).mpr hwarnings

theorem plan_leaves {y : List String} (hr : s.config = some r) (hs : snap.Found)
    (hd : snap.toDatum.unshared = .ok d) (h : Holds yaml s q.analysisFile p d)
    (hmade : q.planIn r snap = .ok made) (hworded : made.Worded extra)
    (hlegible : w.plain = false → ∀ m, .text m ∈ made.warnings → Terminal.IsLegible m)
    (hsave : SavesAt s.disk s.cwd q.planFile y) (he : yaml.Restores made.toDatum) :
    ∃ b w', (plan yaml q.planning).Ends w s (.ok ()) w' (s.storing y b) ∧
      w'.plain = w.plain ∧ yaml.read (.ofBytes b) = .ok made.toDatum := by
  have hpath : text q.planning "save" = q.planFile := by
    simp [text, Request.planning, lookup_cons_ite, Datum.shown, Datum.bare]
  obtain ⟨w₁, hw₁, hshow⟩ := showPlan_starts (q := q) (s := s) hworded w
  obtain ⟨_, w₂, hwarnings, hw₂⟩ := exists_print (s := s) (.warningList hworded.warnings hlegible) hw₁
  have hunshared := Datum.unshared_of_plain _ hworded.plain
  obtain ⟨b, w₃, hsaved, hw₃, hread⟩ := saveIfAsked_ends hsave hpath hunshared he hw₂
  refine ⟨b, w₃, (plan_starts hr hs hd h).mpr ?_, hw₃.plain, hread⟩
  refine (Talk.Ends.bind_of_ok (.ofRead hmade)).mpr ?_
  exact (Talk.Ends.bind_of_ok (hshow _ _ hwarnings)).mpr hsaved

/-! Rebuilding -/

theorem sourcesOf_rebuilding {o : Origin} (hne : q.source ≠ "") : sourcesOf (q.rebuilding o) =
    if q.keepCode then do return some (← o.files (.ofText q.source)) else return none := by
  have hkeep : isOn (q.rebuilding o) "keep_code" true = q.keepCode := by
    cases o <;> simp [isOn, Request.rebuilding, lookup_cons_ite, Datum.truthy]
  rw [sourcesOf, hkeep]
  cases q.keepCode
  case false => rfl
  case true =>
    cases o
    all_goals simp [text, Request.rebuilding, Origin.key, Origin.files, lookup_cons_ite,
      Datum.shown, Datum.bare, hne]

theorem rebuilt_ends {o : Origin} {read : Except Stop (List SourceFile)}
    {result : Except Stop RebuildResult} {y : List String} (hne : q.source ≠ "")
    (hr : s.config = some r) (h : Holds yaml s q.planFile y made.toDatum)
    (hf : Refit.Ends (o.files (.ofText q.source)) s read s)
    (hcarry : Refit.Ends (Rebuild.carryOut made r.settings q.output (made.keptOf q.keepCode read)) s
      result v) : (rebuilt yaml (q.rebuilding o)).Ends w s (result.mapError .stopped)
        { w with json := false } v := by
  have hpath : text (q.rebuilding o) "schema_file" = q.planFile := by
    simp [text, Request.rebuilding, Datum.shown, Datum.bare]
  have hout : text (q.rebuilding o) "output" = q.output := by
    simp [text, Request.rebuilding, lookup_cons_ite, Datum.shown, Datum.bare]
  have hjson : isOn (q.rebuilding o) "json" = false := by
    cases o <;> simp [isOn, Request.rebuilding, Origin.key, lookup_cons_ite, Datum.truthy]
  have hread : Schema.ofDatum made.toDatum = .ok made := Schema.ofDatum_toDatum
  rw [rebuilt, Talk.Ends.bind_of_ok (showJson_ends hjson), hpath, hout, sourcesOf_rebuilding hne,
    Talk.Ends.bind_of_ok (h.loads rfl), Talk.Ends.bind_of_ok (.ofRead hread)]
  rw [Rebuild.carryOut, Schema.keptOf] at hcarry
  have hlast {kept : Groups} (hk : Refit.Ends (Rebuild.standard made r.settings q.output kept) s
      result v) : Talk.Ends (do
        Talk.ofAction (Rebuild.standard made (← config).settings q.output kept))
        { w with json := false } s (result.mapError .stopped) { w with json := false } v :=
    (Talk.Ends.bind_of_ok (config_ends hr)).mpr (.ofAction hk)
  cases hkeep : q.keepCode
  case false =>
    rw [hkeep] at hcarry
    refine (Talk.Ends.bind_of_ok (.ofAction (Refit.Ends.pure_iff.mpr ⟨rfl, rfl⟩))).mpr ?_
    exact hlast ((Refit.Ends.bind_of_ok (Action.ofExcept_iff.mpr ⟨rfl, rfl⟩)).mp hcarry)
  case true =>
    rw [hkeep] at hcarry
    cases read
    case error e =>
      obtain ⟨rfl, rfl⟩ := hcarry.unique (.bind_of_error (Action.ofExcept_iff.mpr ⟨rfl, rfl⟩))
      exact .bind_of_error (.ofAction (.bind_of_error hf))
    case ok fs =>
      have hsources : Refit.Ends (do return some (← o.files (.ofText q.source))) s (.ok (some fs)) s :=
        (Refit.Ends.bind_of_ok hf).mpr (Refit.Ends.pure_iff.mpr ⟨rfl, rfl⟩)
      refine (Talk.Ends.bind_of_ok (.ofAction hsources)).mpr ?_
      change Refit.Ends (Action.ofExcept ((made.keptFiles fs).mapError .fault) >>= _) s result v at hcarry
      cases hk : made.keptFiles fs
      case error f =>
        rw [hk] at hcarry
        obtain ⟨rfl, rfl⟩ := hcarry.unique (.bind_of_error (Action.ofExcept_iff.mpr ⟨rfl, rfl⟩))
        exact .bind_of_error (.ofRead_error hk)
      case ok kept =>
        rw [hk] at hcarry
        refine (Talk.Ends.bind_of_ok (.ofRead hk)).mpr ?_
        exact hlast ((Refit.Ends.bind_of_ok (Action.ofExcept_iff.mpr ⟨rfl, rfl⟩)).mp hcarry)

/-! The stages in turn -/

-- What is passed on is read back of its documents. On a terminal with styles, the warnings about the
-- plan can be shown.
structure Passes (yaml : Yaml.Library) (q : Request) (r : Config.Resolved) (plain : Bool)
    (snap : Snapshot) : Prop where
  analysis : ∃ d, snap.toDatum.unshared = .ok d ∧ yaml.Restores d
  plan : ∀ made, q.planIn r snap = .ok made → yaml.Restores made.toDatum
  legible : plain = false → ∀ made, q.planIn r snap = .ok made → ∀ m, .text m ∈ made.warnings →
    Terminal.IsLegible m

theorem SavesAt.set {y : List String} {b : List UInt8} (h : SavesAt s.disk s.cwd path p)
    (hy : s.disk.find? y ≠ some .folder) : SavesAt (s.disk.set y (.file b)) s.cwd path p :=
  ⟨h.storable.set hy, h.opens, h.legible⟩

theorem SavesAt.holds (h : SavesAt s.disk s.cwd path p) (hb : yaml.read (.ofBytes b) = .ok d) :
    Holds yaml (s.storing p b) path p d where
  saves := h.set h.storable.free
  bytes := by
    have hset := @Disk.find?_set s.disk p p (.file b) (Disk.ne_nil_of_find?_ne h.storable.free)
    exact ⟨b, hset.trans (if_pos rfl), hb⟩

theorem worded_planIn (hs : snap.Found) (h : q.planIn r snap = .ok made) : made.Worded q.modules := by
  obtain ⟨o, ho, hmade⟩ := bind_eq_ok.mp h
  obtain ⟨_, _, hchosen⟩ := bind_eq_ok.mp ho
  obtain rfl := pure_eq_ok.mp hchosen
  exact Schema.worded_ofSnapshot hs Request.worded_choices hmade

variable {o : Origin} {x y : List String}

theorem staged_unanalysed {e : Stop} (hr : s.config = some r)
    (h : Refit.Ends (analysisAt (.ofText q.source) (q.depthIn r)) s (.error e) s) :
    (q.staged yaml o).Ends w s (.error (.stopped e)) { w with json := false } s :=
  .bind_of_error (analyse_fails hr h)

theorem staged_unplanned {f : Fault} (hr : s.config = some r)
    (h : Refit.Ends (analysisAt (.ofText q.source) (q.depthIn r)) s (.ok snap) s) (hs : snap.Found)
    (hx : SavesAt s.disk s.cwd q.analysisFile x) (hp : Passes yaml q r w.plain snap)
    (hf : q.planIn r snap = .error f) : ∃ b w', (q.staged yaml o).Ends w s
      (.error (.stopped (.fault f))) w' (s.storing x b) := by
  obtain ⟨d, hd, hrestores⟩ := hp.analysis
  obtain ⟨b, w₁, hanalyse, _, hread⟩ := analyse_leaves hr h hs hx hd hrestores
  have hplan := plan_fails (s := s.storing x b) (w := w₁) hr hs hd (hx.holds hread) hf
  exact ⟨b, _, (Talk.Ends.bind_of_ok hanalyse).mpr (.bind_of_error hplan)⟩

theorem staged_ends (hne : q.source ≠ "") (hr : s.config = some r)
    (h : Refit.Ends (analysisAt (.ofText q.source) (q.depthIn r)) s (.ok snap) s) (hs : snap.Found)
    (hx : SavesAt s.disk s.cwd q.analysisFile x) (hy : SavesAt s.disk s.cwd q.planFile y)
    (hp : Passes yaml q r w.plain snap) (hmade : q.planIn r snap = .ok made) :
    ∃ b c, ∀ read result v,
      Refit.Ends (o.files (.ofText q.source)) ((s.storing x b).storing y c) read
        ((s.storing x b).storing y c) →
      Refit.Ends (Rebuild.carryOut made r.settings q.output (made.keptOf q.keepCode read))
        ((s.storing x b).storing y c) result v →
      ∃ w', (q.staged yaml o).Ends w s (result.mapError .stopped) w' v := by
  obtain ⟨d, hd, hrestores⟩ := hp.analysis
  obtain ⟨b, w₁, hanalyse, hw₁, hread⟩ := analyse_leaves hr h hs hx hd hrestores
  have hy' : SavesAt (s.storing x b).disk s.cwd q.planFile y := hy.set hx.storable.free
  obtain ⟨c, w₂, hplan, _, hread'⟩ := plan_leaves (s := s.storing x b) hr hs hd (hx.holds hread) hmade
    (worded_planIn hs hmade) (fun hstyles => hp.legible (hw₁ ▸ hstyles) made hmade) hy' (hp.plan made hmade)
  refine ⟨b, c, fun read result v hfiles hcarry => ?_⟩
  have hrebuilt := rebuilt_ends (s := (s.storing x b).storing y c) (w := w₂) hne hr
    (hy'.holds hread') hfiles hcarry
  exact ⟨_, (Talk.Ends.bind_of_ok hanalyse).mpr ((Talk.Ends.bind_of_ok hplan).mpr hrebuilt)⟩

end Cli

end Refit
