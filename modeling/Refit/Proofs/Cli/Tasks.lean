import Refit.Cli.Program
import Refit.Proofs.Cli.Staged
import Refit.Proofs.Import.Failing

/-!
What commands do, apart from showing it.

A command works first, then it shows what it has found, and last it stores that or fails. The work
neither reads the terminal nor changes it, so the mode decides on nothing but what is shown, with
one exception: an import does not fail once its result is shown as JSON.
-/

namespace Refit

namespace Cli

open Talk (ofAction ofRead ofPrint)

/-! Tasks -/

-- The commands that have two modes.
inductive Task
  | analyse
  | plan
  | rebuild
  | importRepository
  | importExport

-- What they find.
inductive Finding
  | analysis (s : Snapshot)
  | plan (s : Schema)
  | rebuild (r : RebuildResult)
  | imported (r : ImportResult)

variable {yaml : Yaml.Library} {a b : Dict}

-- Stores a result, and says nothing.
def keep (yaml : Yaml.Library) (a : Dict) (d : Datum) : Talk Unit := do
  if text a "save" != "" then
    let e ← ofRead d.unshared
    let l := Location.ofText (text a "save")
    ofAction (Action.change fun cwd => Disk.store cwd l (((yaml.write e).toOption).getD ""))
    let _ ← ofRead (yaml.write e)

namespace Finding

def document : Finding → Datum
  | analysis s => s.toDatum
  | plan s => s.toDatum
  | rebuild r => r.toDatum
  | imported r => r.toDatum

-- What is shown where no JSON is asked for.
def summary : Finding → Print Unit
  | analysis s => Terminal.analysisSummary s
  | plan s => do
    Terminal.table "Rebuild Schema" (← ExceptT.mk (return (planRows s).mapError .fault))
    Terminal.warningList s.warnings
  | rebuild r => Terminal.rebuildSummary r
  | imported r =>
    match r.rebuild with
    | none => Terminal.errorPanel "Import failed" (r.error.orElse "")
    | some rebuilt => do
      r.analysis.forM Terminal.analysisSummary
      Terminal.rebuildSummary rebuilt

-- What is left to do: a result is stored where that is asked for, and a failure fails.
def conclude (yaml : Yaml.Library) (a : Dict) : Finding → Talk Unit
  | analysis s => keep yaml a s.toDatum
  | plan s => keep yaml a s.toDatum
  | rebuild r => do if !r.success then throw (.exit 1)
  | imported r => do if !r.success then throw (.exit 1)

-- What is done with what was found.
def present (yaml : Yaml.Library) (a : Dict) : Finding → Talk Unit
  | analysis s => do
    ofPrint (Terminal.analysisSummary s)
    saveIfAsked yaml a s.toDatum
  | plan s => do
    showPlan a s
    saveIfAsked yaml a s.toDatum
  | rebuild r => do
    ofPrint (Terminal.rebuildSummary r)
    if !r.success then throw (.exit 1)
  | imported r => showImport r

-- What can be shown in both modes, without styles.
structure Showable (f : Finding) : Prop where
  json : (f.document.unshared >>= Json.writeLenient).isOk
  text : Terminal.Prints true f.summary

end Finding

namespace Task

def name : Task → String
  | analyse => "analyze"
  | plan => "schema"
  | rebuild => "rebuild"
  | importRepository => "import-repo"
  | importExport => "import-export"

def grammar : Task → Grammar
  | analyse => analyseGrammar
  | plan => planGrammar
  | rebuild => rebuildGrammar
  | importRepository => importGrammar "url" [⟨"branch", ["--branch", "-b"], .word⟩]
  | importExport => importGrammar "file" []

def run (yaml : Yaml.Library) : Task → Dict → Talk Unit
  | analyse => Cli.analyse yaml
  | plan => Cli.plan yaml
  | rebuild => Cli.rebuild yaml
  | importRepository => Cli.importRepository
  | importExport => Cli.importExport

def isImport : Task → Bool
  | importRepository | importExport => true
  | _ => false

-- What a command may find.
inductive Finds : Task → Finding → Prop
  | analysis {s : Snapshot} : Finds analyse (.analysis s)
  | plan {s : Schema} : Finds plan (.plan s)
  | rebuild {r : RebuildResult} : Finds rebuild (.rebuild r)
  | imported {t : Task} {r : ImportResult} (ht : t.isImport) (hr : r.Settled) :
    Finds t (.imported r)

theorem findCommand_name {t : Task} :
    findCommand commands t.name = .ok ⟨t.name, t.grammar, t.run .standard⟩ := by
  cases t <;> rfl

-- What a command does before it shows anything.
def work (yaml : Yaml.Library) (a : Dict) : Task → Talk Finding
  | analyse => do
    let depth ← if (a.get "depth").truthy then pure (a.get "depth")
      else pure ((← config).get "analysis.depth" "deep")
    return .analysis (← ofAction (analysisAt (.ofText (text a "path")) depth))
  | plan => do
    let analysis ← ofAction (loadFrom yaml (text a "analysis_file"))
    let snapshot ← ofRead (Snapshot.ofDatum analysis)
    return .plan (← ofRead (Schema.ofSnapshot snapshot (← optionsOf a)))
  | rebuild => do
    let schema ← ofAction (loadFrom yaml (text a "schema_file"))
    let s ← ofRead (Schema.ofDatum schema)
    let kept ← match ← ofAction (sourcesOf a) with
      | some fs => ofRead (s.keptFiles fs)
      | none => pure []
    let settings := (← config).settings
    return .rebuild (← ofAction (Rebuild.standard s settings (text a "output") kept))
  | importRepository => do
    let i ← importOf a
    announce ("Importing " ++ text a "url")
    return .imported (← ofAction (i.repository (text a "url")))
  | importExport => do
    let i ← importOf a
    announce ("Importing " ++ text a "file")
    return .imported (← ofAction (i.exported (text a "file")))

-- What a command does but for showing it.
def operation (yaml : Yaml.Library) (a : Dict) (t : Task) : Talk Unit := do
  (← t.work yaml a).conclude yaml a

theorem run_eq {t : Task} :
    t.run yaml a = (do showJson a; (← t.work yaml a).present yaml a) := by
  cases t
  case analyse =>
    simp only [run, Cli.analyse, work]
    split
    all_goals
      simp only [bind_assoc, pure_bind]
      rfl
  case plan =>
    simp only [run, Cli.plan, work, bind_assoc, pure_bind]
    rfl
  case rebuild =>
    simp only [run, Cli.rebuild, rebuilt, work, bind_assoc, pure_bind]
    refine bind_congr fun _ => bind_congr fun _ => bind_congr fun _ => bind_congr fun o => ?_
    cases o
    all_goals
      simp only [bind_assoc, pure_bind]
      rfl
  case importRepository =>
    simp only [run, Cli.importRepository, work, bind_assoc, pure_bind]
    rfl
  case importExport =>
    simp only [run, Cli.importExport, work, bind_assoc, pure_bind]
    rfl

theorem work_quiet {t : Task} : (t.work yaml a).Quiet := by
  have hprint {activity : String} : (announce activity).Quiet := by
    rw [announce]
    split
    · exact .of_pure
    · exact .of_throw
  have hoptions : (optionsOf a).Quiet := .bind .of_action fun _ => .of_pure
  have himport : (importOf a).Quiet := .bind hoptions fun _ => .of_pure
  cases t
  case analyse =>
    exact .ite (.bind .of_pure fun _ => .bind .of_action fun _ => .of_pure)
      (.bind .of_action fun _ => .bind .of_pure fun _ => .bind .of_action fun _ => .of_pure)
  case plan =>
    exact .bind .of_action fun _ => .bind .of_action fun _ => .bind hoptions fun _ =>
      .bind .of_action fun _ => .of_pure
  case rebuild =>
    refine .bind .of_action fun _ => .bind .of_action fun _ => .bind .of_action fun o => ?_
    have hrest {s : Schema} {kept : Groups} : Talk.Quiet (do
        let settings := (← config).settings
        return Finding.rebuild (← ofAction (Rebuild.standard s settings (text a "output") kept))) :=
      .bind .of_action fun _ => .bind .of_action fun _ => .of_pure
    cases o
    case none => exact .bind .of_pure fun _ => hrest
    case some => exact .bind .of_action fun _ => hrest
  case importRepository =>
    exact .bind himport fun _ => .bind hprint fun _ => .bind .of_action fun _ => .of_pure
  case importExport =>
    exact .bind himport fun _ => .bind hprint fun _ => .bind .of_action fun _ => .of_pure

theorem work_finds {t : Task} : (t.work yaml a).Returns t.Finds := by
  cases t
  case analyse =>
    exact .ite (.bind fun _ => .bind fun _ => .of_pure .analysis)
      (.bind fun _ => .bind fun _ => .bind fun _ => .of_pure .analysis)
  case plan =>
    exact .bind fun _ => .bind fun _ => .bind fun _ => .bind fun _ => .of_pure .plan
  case rebuild =>
    refine .bind fun _ => .bind fun _ => .bind fun o => ?_
    cases o
    all_goals exact .bind fun _ => .bind fun _ => .bind fun _ => .of_pure .rebuild
  case importRepository =>
    refine .bind fun _ => .bind fun _ => .bind_of fun w s r u v h => .of_pure (.imported rfl ?_)
    exact Import.repository_settled h.of_action
  case importExport =>
    refine .bind fun _ => .bind fun _ => .bind_of fun w s r u v h => .of_pure (.imported rfl ?_)
    exact Import.exported_settled h.of_action

end Task

/-! What is shown, and what is left -/

variable {t : Task} {f : Finding} {w u : Terminal} {s v : Session} {r : Except Ending Unit}

-- The line about a file that was saved can be shown, if one is asked for.
def Legible (a : Dict) : Prop :=
  text a "save" ≠ "" →
    (Markup.shown ("[green]Saved to:[/green] " ++ (Location.ofText (text a "save")).text)).isOk

theorem json_ends {d : Datum} (h : (d.unshared >>= Json.writeLenient).isOk) :
    ∃ u, Refit.Ends (Terminal.json_ d) w (.ok ()) u := by
  rw [Terminal.json_]
  cases hd : d.unshared >>= Json.writeLenient
  case error =>
    rw [hd] at h
    cases h
  case ok => exact ⟨_, rfl⟩

theorem keep_quiet {d : Datum} : (keep yaml a d).Quiet :=
  .ite (.bind .of_action fun _ => .bind .of_action fun _ => .bind .of_action fun _ => .of_pure)
    .of_pure

theorem conclude_quiet : (f.conclude yaml a).Quiet := by
  cases f
  case analysis => exact keep_quiet
  case plan => exact keep_quiet
  case rebuild => exact .ite .of_throw .of_pure
  case imported => exact .ite .of_throw .of_pure

theorem saveIfAsked_eq {d : Datum} : saveIfAsked yaml a d = (do
    keep yaml a d
    if text a "save" != "" then
      if !(← getThe Terminal).json then
        ofPrint (Terminal.styled
          ("[green]Saved to:[/green] " ++ (Location.ofText (text a "save")).text))) := by
  rw [saveIfAsked, keep]
  split
  case isTrue =>
    simp only [saveTo, bind_assoc, pure_bind]
  case isFalse => rw [pure_bind]

-- A result is stored alike with a word about it and without.
theorem saveIfAsked_keeps {d : Datum} (ha : Legible a) (h : (keep yaml a d).Ends w s r u v) :
    ∃ w', (saveIfAsked yaml a d).Ends w s r w' v := by
  rw [saveIfAsked_eq]
  cases r
  case error => exact ⟨u, .bind_of_error h⟩
  case ok =>
    simp only [Talk.Ends.bind_of_ok h]
    split
    case isFalse => exact ⟨u, .of_pure⟩
    case isTrue hsave =>
      simp only [Talk.Ends.bind_of_ok .of_get]
      split
      case isFalse => exact ⟨u, .of_pure⟩
      case isTrue =>
        have hstyled : ∃ u', Refit.Ends (Terminal.styled ("[green]Saved to:[/green] " ++
            (Location.ofText (text a "save")).text)) u (.ok ()) u' := by
          rw [Terminal.styled]
          cases hshown : Markup.shown _
          case ok => exact ⟨_, rfl⟩
          case error =>
            have hlegible := ha (bne_iff_ne.mp hsave)
            rw [hshown] at hlegible
            cases hlegible
        obtain ⟨u', hu'⟩ := hstyled
        exact ⟨u', .ofPrint hu'⟩

theorem showPlan_text {p : Schema} (ha : isOn a "json" = false)
    (h : Refit.Ends (Finding.plan p).summary w (.ok ()) u) :
    (showPlan a p).Ends w s (.ok ()) u s := by
  obtain ⟨rows, w₁, hrows, h⟩ := Refit.Ends.bind_ok_iff.mp h
  obtain ⟨_, w₂, htable, hwarnings⟩ := Refit.Ends.bind_ok_iff.mp h
  obtain ⟨hread, rfl⟩ := Refit.Ends.iff_eqs.mp hrows
  rw [showPlan, if_neg (by simp [ha])]
  refine (Talk.Ends.bind_of_ok (.ofRead (mapError_eq_ok.mp hread))).mpr ?_
  exact (Talk.Ends.bind_of_ok (.ofPrint htable)).mpr (.ofPrint hwarnings)

theorem showImport_text {x : ImportResult} (hw : w.json = false) (hx : x.Settled)
    (hshown : Refit.Ends (Finding.imported x).summary w (.ok ()) u)
    (h : ((Finding.imported x).conclude yaml a).Ends u s r u v) :
    (showImport x).Ends w s r u v := by
  obtain ⟨success, source, name, analysis, schema, rebuild, error⟩ := x
  refine (Talk.Ends.bind_of_ok .of_get).mpr ?_
  rw [hw]
  cases rebuild
  case none =>
    obtain rfl : success = false := hx rfl
    exact (Talk.Ends.bind_of_ok (.ofPrint hshown)).mpr h
  case some =>
    obtain ⟨_, w₁, hanalysis, hrebuild⟩ := Refit.Ends.bind_ok_iff.mp hshown
    refine (Talk.Ends.bind_of_ok (.ofPrint hanalysis)).mpr ?_
    exact (Talk.Ends.bind_of_ok (.ofPrint hrebuild)).mpr h

theorem present_text (hw : w.ShowsText true) (ha : isOn a "json" = false) (hl : Legible a)
    (hf : t.Finds f) (hs : f.Showable) (h : (f.conclude yaml a).Ends w s r u v) :
    ∃ w', (f.present yaml a).Ends w s r w' v := by
  obtain ⟨_, w₁, hshown, _⟩ := hs.text w hw
  obtain ⟨rfl, hquiet⟩ := conclude_quiet w w₁ s r u v h
  cases hf
  case analysis =>
    obtain ⟨w₂, hsaved⟩ := saveIfAsked_keeps hl hquiet
    exact ⟨w₂, (Talk.Ends.bind_of_ok (.ofPrint hshown)).mpr hsaved⟩
  case plan =>
    obtain ⟨w₂, hsaved⟩ := saveIfAsked_keeps hl hquiet
    exact ⟨w₂, (Talk.Ends.bind_of_ok (showPlan_text ha hshown)).mpr hsaved⟩
  case rebuild => exact ⟨w₁, (Talk.Ends.bind_of_ok (.ofPrint hshown)).mpr hquiet⟩
  case imported hx _ => exact ⟨w₁, showImport_text hw.json hx hshown hquiet⟩

-- An import does not fail once its result is shown as JSON.
theorem present_json (hw : w.json = true) (ha : isOn a "json" = true) (hl : Legible a)
    (hf : t.Finds f) (hs : f.Showable) (h : (f.conclude yaml a).Ends w s r u v) :
    ∃ w', (f.present yaml a).Ends w s (if t.isImport then .ok () else r) w' v := by
  obtain ⟨w₁, hshown⟩ := @json_ends w _ hs.json
  obtain ⟨rfl, hquiet⟩ := conclude_quiet w w₁ s r u v h
  cases hf
  case analysis x =>
    have hprint : Refit.Ends (Terminal.analysisSummary x) u (.ok ()) w₁ := by
      rw [Terminal.analysisSummary, Refit.Ends.get_bind_iff, hw]
      exact hshown
    obtain ⟨w₂, hsaved⟩ := saveIfAsked_keeps hl hquiet
    exact ⟨w₂, (Talk.Ends.bind_of_ok (.ofPrint hprint)).mpr hsaved⟩
  case plan x =>
    have hprint : (showPlan a x).Ends u s (.ok ()) w₁ s := by
      rw [showPlan, if_pos ha]
      exact .ofPrint hshown
    obtain ⟨w₂, hsaved⟩ := saveIfAsked_keeps hl hquiet
    exact ⟨w₂, (Talk.Ends.bind_of_ok hprint).mpr hsaved⟩
  case rebuild x =>
    have hprint : Refit.Ends (Terminal.rebuildSummary x) u (.ok ()) w₁ := by
      rw [Terminal.rebuildSummary, Refit.Ends.get_bind_iff, hw]
      exact hshown
    exact ⟨w₁, (Talk.Ends.bind_of_ok (.ofPrint hprint)).mpr hquiet⟩
  case imported x _ himport =>
    have hsame : v = s := by
      cases hx : x.success
      all_goals
        rw [Finding.conclude, hx] at h
      case true => exact (h.unique .of_pure).2.2
      case false => exact (h.unique .of_throw).2.2
    refine ⟨w₁, (Talk.Ends.bind_of_ok .of_get).mpr ?_⟩
    rw [hw, if_pos himport, hsame]
    exact .ofPrint hshown
-- A command either stops at work, or presents what it found after it.
theorem run_cases (h : (t.operation yaml a).Ends w s r u v) :
    (∃ e, r = .error e ∧ (t.work yaml a).Ends w s (.error e) w v ∧
      (t.run yaml a).Ends w s r { w with json := isOn a "json" } v) ∨
    ∃ f s₁, (t.work yaml a).Ends w s (.ok f) w s₁ ∧ t.Finds f ∧
      (f.conclude yaml a).Ends { w with json := isOn a "json" } s₁ r
        { w with json := isOn a "json" } v ∧
      ∀ r' w', (f.present yaml a).Ends { w with json := isOn a "json" } s₁ r' w' v →
        (t.run yaml a).Ends w s r' w' v := by
  have hstart : (showJson a).Ends w s (.ok ⟨⟩) { w with json := isOn a "json" } s := .of_modify
  rw [Task.run_eq]
  simp only [Talk.Ends.bind_of_ok hstart]
  obtain ⟨q, w₁, s₁, hq⟩ := Talk.Ends.exists_ends (t.work yaml a) w s
  obtain ⟨rfl, hwork⟩ := Task.work_quiet _ { w with json := isOn a "json" } _ _ _ _ hq
  cases q
  case error e =>
    obtain ⟨rfl, -, rfl⟩ := h.unique (.bind_of_error hq)
    exact .inl ⟨e, rfl, hq, .bind_of_error hwork⟩
  case ok f =>
    obtain ⟨-, hquiet⟩ := conclude_quiet _ { w₁ with json := isOn a "json" } _ _ _ _
      ((Talk.Ends.bind_of_ok hq).mp h)
    exact .inr ⟨f, s₁, hq, Task.work_finds _ _ _ _ _ hq, hquiet,
      fun _ _ => (Talk.Ends.bind_of_ok hwork).mpr⟩

-- Without JSON, a command whose finding can be shown ends as its work does.
theorem run_text (hw : w.plain = true) (ha : isOn a "json" = false) (hl : Legible a)
    (hs : ∀ f v, (t.work yaml a).Ends w s (.ok f) w v → f.Showable)
    (h : (t.operation yaml a).Ends w s r u v) : ∃ w', (t.run yaml a).Ends w s r w' v := by
  rcases run_cases h with ⟨e, -, -, hrun⟩ | ⟨f, s₁, hwork, hf, hconclude, hrun⟩
  case inl => exact ⟨_, hrun⟩
  case inr =>
    have hshows : ({ w with json := isOn a "json" } : Terminal).ShowsText true := ⟨ha, hw⟩
    obtain ⟨w', hpresent⟩ := present_text hshows ha hl hf (hs f s₁ hwork) hconclude
    exact ⟨w', hrun r w' hpresent⟩

-- An import that comes to a result, but not to success.
def Task.FailsLate (yaml : Yaml.Library) (a : Dict) (s : Session) (t : Task) : Prop :=
  ∃ x v, (t.work yaml a).Ends {} s (.ok (.imported x)) {} v ∧ x.success = false

-- With JSON, so does it, but that an import with a result does not fail.
theorem run_json (ha : isOn a "json" = true) (hl : Legible a)
    (hs : ∀ f v, (t.work yaml a).Ends w s (.ok f) w v → f.Showable)
    (h : (t.operation yaml a).Ends w s r u v) :
    ∃ r' w', (t.run yaml a).Ends w s r' w' v ∧ (¬t.FailsLate yaml a s → r' = r) ∧
      (t.FailsLate yaml a s → r' = .ok () ∧ r = .error (.exit 1)) := by
  rcases run_cases h with ⟨e, rfl, hwork, hrun⟩ | ⟨f, s₁, hwork, hf, hconclude, hrun⟩
  case inl =>
    refine ⟨_, _, hrun, fun _ => rfl, ?_⟩
    rintro ⟨x, _, hx, -⟩
    cases (hwork.unique (Task.work_quiet _ w _ _ _ _ hx).2).1
  case inr =>
    obtain ⟨w', hpresent⟩ := present_json ha ha hl hf (hs f s₁ hwork) hconclude
    refine ⟨_, w', hrun _ w' hpresent, ?_⟩
    have hlate : t.FailsLate yaml a s ↔ ∃ x, f = .imported x ∧ x.success = false := by
      constructor
      case mp =>
        rintro ⟨x, _, hx, hfailed⟩
        exact ⟨x, Except.ok.inj (hwork.unique (Task.work_quiet _ w _ _ _ _ hx).2).1, hfailed⟩
      case mpr =>
        rintro ⟨x, rfl, hfailed⟩
        exact ⟨x, s₁, (Task.work_quiet _ {} _ _ _ _ hwork).2, hfailed⟩
    rw [hlate]
    cases hf
    case imported x hx himport =>
      rw [if_pos himport]
      cases hsuccess : x.success
      case true =>
        rw [Finding.conclude, hsuccess] at hconclude
        obtain ⟨rfl, -⟩ := hconclude.unique .of_pure
        refine ⟨fun _ => rfl, ?_⟩
        rintro ⟨_, heq, hfailed⟩
        cases heq
        cases hsuccess.symm.trans hfailed
      case false =>
        rw [Finding.conclude, hsuccess] at hconclude
        obtain ⟨rfl, -⟩ := hconclude.unique .of_throw
        exact ⟨fun hno => absurd ⟨x, rfl, hsuccess⟩ hno, fun _ => ⟨rfl, rfl⟩⟩
    all_goals
      refine ⟨fun _ => rfl, ?_⟩
      rintro ⟨_, heq, _⟩
      cases heq
-- An analysis can always be shown as text.
theorem analysis_prints :
    (Task.analyse.work yaml a).Returns fun f => Terminal.Prints true f.summary := by
  have hsnap {l : Location} {depth : Datum} : Talk.Returns (fun f => Terminal.Prints true f.summary)
      (do return Finding.analysis (← ofAction (analysisAt l depth))) :=
    .bind_of fun _ _ _ _ _ h => .of_pure (prints_summary (found_analysisAt h.of_action))
  exact .ite (.bind fun _ => hsnap) (.bind fun _ => .bind fun _ => hsnap)

end Cli

end Refit
