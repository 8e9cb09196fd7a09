import Refit.Proofs.Rebuild.Clean

/-!
The files that a plan lists as those to come, and those that come when it is carried out.

The stand-ins for models and screens are made as they are listed. The source of the theme and that
of the state come with their modules, and the second file of the theme comes with none.
-/

namespace Refit

/-! What a plan lists -/

-- The path of the stand-in for a class, in the folder of its kind.
def IsStandInPath (folder : String) (migration : Datum) (path : String) : Prop :=
  ∃ name word, migration.field "name" = .ok name ∧ Column.snakeOf name = .ok word ∧
    path = "lib/" ++ folder ++ "/" ++ word ++ ".dart"

namespace Datum

def text? : Datum → Option String
  | .text s => some s
  | _ => none

theorem mem_texts {ds : List Datum} {s : String} :
    s ∈ ((list ds).items?.getD []).filterMap text? ↔ text s ∈ ds := by
  have hitems : (list ds).items? = some ds := rfl
  rw [hitems, Option.getD_some, List.mem_filterMap]
  constructor
  case mp =>
    rintro ⟨d, hd, hs⟩
    cases d
    case text => exact Option.some.inj hs ▸ hd
    all_goals cases hs
  case mpr => exact fun h => ⟨_, h, rfl⟩

end Datum

namespace Plan

variable {s : Snapshot} {o : Options} {state : Datum} {models : List Model} {screens : List Screen}
  {es : Dict} {folder path : String}

theorem mem_filesFor {names ds migrations : List Datum} (h : filesFor folder names = .ok ds)
    (hm : List.Forall₂ (fun name m => m.field "name" = .ok name) names migrations)
    (hd : .text path ∈ ds) : ∃ m ∈ migrations, IsStandInPath folder m path := by
  obtain ⟨name, hname, hone⟩ := exists_of_forall₂ (mapM_eq_ok.mp h).flip hd
  obtain ⟨word, hword, hone⟩ := bind_eq_ok.mp hone
  obtain ⟨m, hmem, hfield⟩ := exists_of_forall₂ hm hname
  exact ⟨m, hmem, name, word, hfield, hword, (Datum.text.inj (pure_eq_ok.mp hone)).symm⟩

theorem generation_ok {es : Dict} (h : generation o state models screens = .ok es) :
    ∃ modelFiles screenFiles,
      (if o.keepModels.truthy then modelFiles = []
        else filesFor "models" (models.map (·.name)) = .ok modelFiles) ∧
      filesFor "screens" (screens.map (·.name)) = .ok screenFiles ∧
      es = [(.text "theme", .texts (if o.applyDesign.truthy then themeFiles else [])),
        (.text "models", .list modelFiles), (.text "screens", .list screenFiles),
        (.text "widgets", .list []), (.text "state", .texts (stateFiles state))] := by
  rw [generation] at h
  split at h
  case isTrue hk =>
    obtain ⟨modelFiles, hmodels, h⟩ := bind_eq_ok.mp h
    obtain ⟨screenFiles, hscreens, h⟩ := bind_eq_ok.mp h
    refine ⟨modelFiles, screenFiles, ?_, hscreens, (pure_eq_ok.mp h).symm⟩
    rw [if_pos hk, pure_eq_ok.mp hmodels]
  case isFalse hk =>
    obtain ⟨modelFiles, hmodels, h⟩ := bind_eq_ok.mp h
    obtain ⟨screenFiles, hscreens, h⟩ := bind_eq_ok.mp h
    refine ⟨modelFiles, screenFiles, ?_, hscreens, (pure_eq_ok.mp h).symm⟩
    rwa [if_neg hk]

theorem name_modelMigration {m : Model} {d : Datum} (h : modelMigration o m = .ok d) :
    d.field "name" = .ok m.name := by
  rw [modelMigration] at h
  split at h
  case isTrue => exact pure_eq_ok.mp h ▸ rfl
  case isFalse =>
    obtain ⟨_, -, h⟩ := bind_eq_ok.mp h
    exact pure_eq_ok.mp h ▸ rfl

-- The state and the colour of a definition are those that were chosen.
theorem definition_ok {architecture : Datum} {modules : List Datum}
    (h : definition s o architecture state modules = .ok es) :
    es.get? "state_management" = some state ∧ ∃ color web, themeColor s = .ok color ∧
      es.get? "pwa" = some web ∧ web.field "theme_color" = .ok (.text color) := by
  obtain ⟨color, hcolor, h⟩ := bind_eq_ok.mp h
  obtain ⟨_, -, h⟩ := bind_eq_ok.mp h
  rw [← pure_eq_ok.mp h]
  exact ⟨rfl, color, _, hcolor, rfl, rfl⟩

theorem name_screenMigration {c : Screen} : (screenMigration o c).field "name" = .ok c.name := by
  rw [screenMigration]
  split <;> rfl

end Plan

namespace Schema

variable {s : Snapshot} {o : Options} {p : Schema} {path : String}

-- The paths that a plan lists among the files to come.
def listed (p : Schema) : List String :=
  p.generation.flatMap fun e => (e.2.items?.getD []).filterMap Datum.text?

-- What a plan is made of: its definition, and the classes that come first.
theorem ofSnapshot_ok (h : ofSnapshot s o = .ok p) : ∃ state modules models screens,
    Plan.chooseModules s o = .ok modules ∧
      (∃ again, Plan.split Plan.modelKey [] s.models = .ok (models, again)) ∧
      (∃ again, Plan.split Plan.screenKey [] s.screens = .ok (screens, again)) ∧
      Plan.generation o state models screens = .ok p.generation ∧
      models.mapM (Plan.modelMigration o) = .ok p.models ∧
      p.screens = screens.map (Plan.screenMigration o) ∧
      Plan.tables o modules models = .ok p.tables ∧
      ∃ architecture, Plan.definition s o architecture state modules = .ok p.definition := by
  simp only [ofSnapshot, bind_eq_ok, pure_eq_ok] at h
  obtain ⟨_, _, ⟨state, _⟩, _, modules, hmodules, ⟨models, again⟩, hmodels, _, _, ⟨screens, again'⟩,
    hscreens, _, _, _, _, _, _, _, hmigrations, generation, hgeneration, _, htables, definition,
    hdefinition, rfl⟩ := h
  exact ⟨state, modules, models, screens, hmodules, ⟨again, hmodels⟩, ⟨again', hscreens⟩,
    hgeneration, hmigrations, rfl, htables, _, hdefinition⟩

-- The colour of a plan is that of the theme that it was made for.
theorem Planned.themeColor_eq {f : Plan.Frame} (h : ofSnapshot s o = .ok p) (hp : p.Planned f) :
    Plan.themeColor s = .ok f.color := by
  obtain ⟨_, _, _, _, -, -, -, -, -, -, -, _, hdefinition⟩ := ofSnapshot_ok h
  obtain ⟨-, color, web, hcolor, hweb, hfield⟩ := Plan.definition_ok hdefinition
  rw [hp.definition] at hweb
  obtain rfl : Datum.dict f.web = web := Option.some.inj hweb
  obtain rfl : f.color = color := Datum.text.inj (Except.ok.inj hfield)
  exact hcolor

theorem listed_cases (h : ofSnapshot s o = .ok p) (hl : path ∈ p.listed) :
    path ∈ Plan.themeFiles ∨ (∃ d ∈ p.models, IsStandInPath "models" d path) ∨
      (∃ d ∈ p.screens, IsStandInPath "screens" d path) ∨
      ∃ state, p.definition.get? "state_management" = some state ∧
        path ∈ Plan.stateFiles state := by
  obtain ⟨state, _, models, screens, -, -, -, hgeneration, hmodels, hscreens, -, _, hdefinition⟩ :=
    ofSnapshot_ok h
  obtain ⟨hstate, -⟩ := Plan.definition_ok hdefinition
  obtain ⟨modelFiles, screenFiles, hmodelFiles, hscreenFiles, heq⟩ := Plan.generation_ok hgeneration
  obtain ⟨⟨key, d⟩, hlist, hpath⟩ := List.mem_flatMap.mp hl
  rw [heq] at hlist
  have htexts {paths : List String} (hp : .text path ∈ paths.map Datum.text) : path ∈ paths := by
    obtain ⟨_, hmem, heq⟩ := List.mem_map.mp hp
    exact Datum.text.inj heq ▸ hmem
  simp only [List.mem_cons, Prod.mk.injEq, List.not_mem_nil, or_false] at hlist
  rcases hlist with ⟨-, rfl⟩ | ⟨-, rfl⟩ | ⟨-, rfl⟩ | ⟨-, rfl⟩ | ⟨-, rfl⟩
  all_goals replace hpath := Datum.mem_texts.mp hpath
  case inl =>
    refine .inl ?_
    have hmem := htexts hpath
    split at hmem
    · exact hmem
    · cases hmem
  case inr.inl =>
    split at hmodelFiles
    case isTrue =>
      subst hmodelFiles
      cases hpath
    case isFalse =>
      refine .inr (.inl (Plan.mem_filesFor hmodelFiles ?_ hpath))
      rw [List.forall₂_map_left_iff]
      exact (mapM_eq_ok.mp hmodels).imp fun _ _ => Plan.name_modelMigration
  case inr.inr.inl =>
    refine .inr (.inr (.inl (Plan.mem_filesFor hscreenFiles ?_ hpath)))
    rw [hscreens, List.forall₂_map_left_iff, List.forall₂_map_right_iff]
    exact List.forall₂_same.mpr fun _ _ => Plan.name_screenMigration
  case inr.inr.inr.inl => cases hpath
  case inr.inr.inr.inr => exact .inr (.inr (.inr ⟨state, hstate, htexts hpath⟩))

end Schema

/-! What is made of it -/

-- The paths that a plan may list beside those of stand-ins.
def declaredPaths : List String :=
  ["lib/theme/app_theme.dart", "lib/theme/design_tokens.dart", "lib/blocs/app_bloc.dart",
    "lib/providers/app_providers.dart"]

theorem mem_declaredPaths {state : Datum} {path : String}
    (h : path ∈ Plan.themeFiles ∨ path ∈ Plan.stateFiles state) : path ∈ declaredPaths := by
  rcases h with h | h
  case inl => exact List.subset_append_left Plan.themeFiles _ h
  case inr =>
    rw [Plan.stateFiles] at h
    split at h
    all_goals
      rw [List.mem_singleton.mp h]
      decide

-- No other file comes at the paths that a plan may declare.
theorem declaredPaths_apart : ∀ path ∈ declaredPaths, path ∉ Output.corePaths ∧
    path ≠ "test/widget_test.dart" ∧
    ∀ folder ∈ ["config/modules/", "lib/models/", "lib/screens/"],
      ¬folder.toList <+: path.toList := by
  decide

theorem IsStandInPath.folder {folder path : String} {d : Datum} (h : IsStandInPath folder d path) :
    ("lib/" ++ folder ++ "/").toList <+: path.toList := by
  obtain ⟨_, word, _, _, rfl⟩ := h
  simp only [String.toList_append, List.append_assoc]
  simp only [← List.append_assoc]
  exact ⟨_, (List.append_assoc ..).symm⟩

theorem plain_declaredPaths : ∀ path ∈ declaredPaths, Path.Plain path ∧ Path.steps path ≠ [] := by
  have hplain {ws : List String} (h : ws.all Path.isPlain) (hne : ws ≠ []) :
      Path.Plain ("/".joining ws) ∧ Path.steps ("/".joining ws) ≠ [] := by
    have hproper := Path.proper_of_isPlain (List.all_eq_true.mp h)
    exact ⟨⟨ws, rfl, List.all_eq_true.mp h⟩, by rwa [Path.steps_joining hproper]⟩
  simp only [declaredPaths, List.forall_mem_cons]
  exact ⟨@hplain ["lib", "theme", "app_theme.dart"] (by cbv) (by decide),
    @hplain ["lib", "theme", "design_tokens.dart"] (by cbv) (by decide),
    @hplain ["lib", "blocs", "app_bloc.dart"] (by cbv) (by decide),
    @hplain ["lib", "providers", "app_providers.dart"] (by cbv) (by decide), List.forall_mem_nil _⟩

namespace Output

variable {m path : String} {c : Dict}

theorem ne_configPath (h : path ∈ declaredPaths) : path ≠ configPath m := by
  rintro rfl
  refine (declaredPaths_apart _ h).2.2 "config/modules/" (by decide) ?_
  change _ <+: ("config/modules/" ++ m ++ ".yaml").toList
  rw [String.toList_append, String.toList_append, List.append_assoc]
  exact List.prefix_append _ _

theorem mem_modulePaths (h : path ∈ declaredPaths) :
    path ∈ modulePaths m c ↔ path ∈ sourcePaths m c :=
  List.mem_cons.trans (or_iff_right (ne_configPath h))

end Output

namespace Rebuild

open Ledger (holding)
open Output (sourcePaths)

variable {s : Snapshot} {o : Options} {p : Schema} {f : Plan.Frame} {cs : Configs} {files : Files}
  {settings : Settings} {path folder : String}

theorem mem_standIns {source : Datum → Datum.Read String} {migrations : List Datum} {fs : Files}
    (h : List.Forall₂ (StandsIn folder source) migrations fs) :
    path ∈ fs.map Prod.fst ↔ ∃ d ∈ migrations, IsStandInPath folder d path := by
  constructor
  case mp =>
    intro hpath
    obtain ⟨x, hx, rfl⟩ := List.mem_map.mp hpath
    obtain ⟨d, hd, name, word, hname, hword, hx, _⟩ := exists_of_forall₂ h.flip hx
    exact ⟨d, hd, name, word, hname, hword, hx⟩
  case mpr =>
    rintro ⟨d, hd, name, word, hname, hword, rfl⟩
    obtain ⟨x, hx, name', word', hname', hword', hpath, _⟩ := exists_of_forall₂ h hd
    obtain rfl := Except.ok.inj (hname.symm.trans hname')
    obtain rfl := Except.ok.inj (hword.symm.trans hword')
    exact hpath ▸ List.mem_map_of_mem hx

theorem mem_extras {extra : Files} (h : extras p settings [] = .ok extra) :
    path ∈ extra.map Prod.fst ↔ (∃ d ∈ p.models, IsStandInPath "models" d path) ∨
      (∃ d ∈ p.screens, IsStandInPath "screens" d path) ∨
      (settings.tests ∧ path = "test/widget_test.dart") := by
  obtain ⟨e, rfl⟩ := extras_returns h
  have htest : path ∈ e.test.map Prod.fst ↔ settings.tests ∧ path = "test/widget_test.dart" := by
    by_cases ht : settings.tests
    case pos =>
      obtain ⟨_, _, heq⟩ := e.tests ht
      simp [heq, ht]
    case neg => simp [e.no_test ht, ht]
  rw [Extra.all, List.map_append, List.map_append, List.mem_append, List.mem_append, or_assoc,
    mem_standIns (e.models_stand rfl), mem_standIns (e.screens_stand rfl), htest]

theorem not_mem_extras {extra : Files} (h : extras p settings [] = .ok extra)
    (hd : path ∈ declaredPaths) : path ∉ extra.map Prod.fst := by
  obtain ⟨_, htest, hfolders⟩ := declaredPaths_apart path hd
  rw [mem_extras h]
  rintro (⟨_, _, hstand⟩ | ⟨_, _, hstand⟩ | ⟨_, hpath⟩)
  · exact hfolders "lib/models/" (by decide) hstand.folder
  · exact hfolders "lib/screens/" (by decide) hstand.folder
  · exact htest hpath

theorem sourcePaths_stateConfig {state : String} :
    sourcePaths "state" (stateConfig state) = Plan.stateFiles (.text state) := by
  rw [stateConfig, Plan.stateFiles, Datum.same_text]
  split
  case isTrue => simp [sourcePaths, Dict.get, Dict.get?]
  case isFalse => simp [sourcePaths, Dict.get, Dict.get?]

-- The listed files that no module of a project makes.
def Unmade (modules : List String) (path : String) : Prop :=
  path = "lib/theme/design_tokens.dart" ∨
    (path = "lib/theme/app_theme.dart" ∧ "design" ∉ modules) ∨
    (path ∈ ["lib/blocs/app_bloc.dart", "lib/providers/app_providers.dart"] ∧ "state" ∉ modules)

theorem Unmade.declared {modules : List String} (h : Unmade modules path) :
    path ∈ declaredPaths := by
  rcases h with rfl | ⟨rfl, _⟩ | ⟨h, _⟩
  · decide
  · decide
  · exact List.subset_append_right ["lib/theme/app_theme.dart", "lib/theme/design_tokens.dart"] _ h

namespace Produced

-- At a path that a plan may declare, only a module makes a file.
theorem mem_declared (h : Produced p f settings [] cs files) (hd : path ∈ declaredPaths) :
    path ∈ files.map Prod.fst ↔ ∃ e ∈ cs, path ∈ sourcePaths e.1 e.2 := by
  obtain ⟨extra, hextra, hpaths⟩ := h.paths
  obtain ⟨hcore, -⟩ := declaredPaths_apart path hd
  rw [hpaths, or_iff_right hcore, or_iff_left (not_mem_extras hextra hd)]
  exact exists_congr fun e => and_congr_right fun _ => Output.mem_modulePaths hd

-- A source comes if the one module that has it at its path is among those of a plan.
theorem exists_source_iff {m : String} (h : Produced p f settings [] cs files)
    (howner : ∀ n, (path, n) ∈ Output.sourceOwners → n = m)
    (hsource : ∀ c, Furnished p.tables f m c → path ∈ sourcePaths m c) :
    (∃ e ∈ cs, path ∈ sourcePaths e.1 e.2) ↔ m ∈ f.modules := by
  rw [← h.configured]
  constructor
  case mp =>
    rintro ⟨e, he, hpath⟩
    exact howner e.1 (Output.mem_sourceOwners hpath) ▸ List.mem_map_of_mem he
  case mpr =>
    intro hm
    obtain ⟨e, he, rfl⟩ := List.mem_map.mp hm
    exact ⟨e, he, hsource e.2 (h.furnished e he)⟩

theorem mem_theme (h : Produced p f settings [] cs files) (ht : path ∈ Plan.themeFiles) :
    path ∈ files.map Prod.fst ↔ ¬Unmade f.modules path := by
  rw [h.mem_declared (@mem_declaredPaths .null _ (.inl ht))]
  rcases List.mem_cons.mp ht with rfl | ht
  case inl =>
    rw [h.exists_source_iff (m := "design") (by simp [Output.sourceOwners]) fun c _ => .head _]
    simp [Unmade]
  case inr =>
    obtain rfl := List.mem_singleton.mp ht
    refine iff_of_false ?_ (not_not_intro (.inl rfl))
    rintro ⟨e, _, hpath⟩
    simpa [Output.sourceOwners] using Output.mem_sourceOwners hpath

theorem mem_state (h : Produced p f settings [] cs files)
    (hs : path ∈ Plan.stateFiles (.text f.state)) :
    path ∈ files.map Prod.fst ↔ ¬Unmade f.modules path := by
  have hsource {c : Dict} (hc : Furnished p.tables f "state" c) :
      path ∈ sourcePaths "state" c := by
    rwa [hc.state rfl, sourcePaths_stateConfig]
  rw [h.mem_declared (mem_declaredPaths (.inr hs))]
  rw [Plan.stateFiles] at hs
  split at hs
  all_goals
    obtain rfl := List.mem_singleton.mp hs
    rw [h.exists_source_iff (m := "state") (by simp [Output.sourceOwners]) fun c hc => hsource hc]
    simp [Unmade]

-- Such a file is the source of a module.
theorem exists_sourceOf {x : String × String} (h : Produced p f settings [] cs files)
    (hd : x.1 ∈ declaredPaths) (hx : x ∈ files) :
    ∃ e ∈ cs, ∃ fs, Output.sourceOf (.text e.1) e.2 = .ok fs ∧ x ∈ fs := by
  obtain ⟨hcore, -⟩ := declaredPaths_apart _ hd
  obtain ⟨extra, hextra, horigin⟩ := h.origin
  have hnone : x ∉ extra := fun hx => not_mem_extras hextra hd (List.mem_map_of_mem hx)
  obtain ⟨e, he, all, hall, hx⟩ := ((horigin x hx).resolve_left hcore).resolve_right hnone
  obtain ⟨_, own, hown, rfl⟩ := Output.module_ok hall
  refine ⟨e, he, own, hown, (List.mem_cons.mp hx).resolve_left ?_⟩
  rintro rfl
  exact Output.ne_configPath hd rfl

theorem theme_content {content : String} (h : Produced p f settings [] cs files)
    (hx : ("lib/theme/app_theme.dart", content) ∈ files) :
    Output.theme (themeConfig f.color) = .ok content := by
  have hd : "lib/theme/app_theme.dart" ∈ declaredPaths := by decide
  obtain ⟨⟨m, c⟩, he, fs, hfs, hx⟩ := h.exists_sourceOf hd hx
  have howner : ("lib/theme/app_theme.dart", m) ∈ Output.sourceOwners := by
    refine Output.mem_sourceOwners (c := c) ?_
    rw [← Output.sourceOf_paths hfs]
    exact List.mem_map_of_mem hx
  obtain rfl : m = "design" := by simpa [Output.sourceOwners] using howner
  obtain rfl : c = themeConfig f.color := (h.furnished _ he).theme rfl
  obtain ⟨_, hmade, hfs⟩ := bind_eq_ok.mp hfs
  rw [← pure_eq_ok.mp hfs, List.mem_singleton] at hx
  exact (Prod.mk.inj hx).2 ▸ hmade

-- Of the files that a plan lists, all come but those that no module makes.
theorem mem_listed (hp : Schema.ofSnapshot s o = .ok p) (hplanned : p.Planned f)
    (h : Produced p f settings [] cs files) (hl : path ∈ p.listed) :
    path ∈ files.map Prod.fst ↔ ¬Unmade f.modules path := by
  have hstand {folder : String} (hf : "lib/" ++ folder ++ "/" ∈ ["lib/models/", "lib/screens/"])
      {d : Datum} (hd : IsStandInPath folder d path) : ¬Unmade f.modules path := fun hu =>
    (declaredPaths_apart path hu.declared).2.2 _ (.tail _ hf) hd.folder
  obtain ⟨extra, hextra, hpaths⟩ := h.paths
  rcases Schema.listed_cases hp hl with ht | ⟨d, hd, hpath⟩ | ⟨d, hd, hpath⟩ | ⟨state, hget, hs⟩
  case inl => exact h.mem_theme ht
  case inr.inl =>
    refine iff_of_true ((hpaths path).mpr (.inr (.inr ?_))) (hstand (by decide) hpath)
    exact (mem_extras hextra).mpr (.inl ⟨d, hd, hpath⟩)
  case inr.inr.inl =>
    refine iff_of_true ((hpaths path).mpr (.inr (.inr ?_))) (hstand (by decide) hpath)
    exact (mem_extras hextra).mpr (.inr (.inl ⟨d, hd, hpath⟩))
  case inr.inr.inr =>
    rw [hplanned.definition] at hget
    obtain rfl := Option.some.inj hget
    exact h.mem_state hs

end Produced

/-! On the disk -/

-- Where no file is written, what was there before is there still.
theorem content?_of_not_written {cwd : List String} {out : Location} {d d' : Disk}
    (hp : ∀ x ∈ files, Path.Plain x.1) (hd : d.Overridden (generatedWrites cwd out files) d')
    (hplain : Path.Plain path) (hpath : path ∉ files.map Prod.fst) :
    d'.content? ((out ++ .ofText path).reach cwd) =
      d.content? ((out ++ .ofText path).reach cwd) := by
  have hnone : (generatedWrites cwd out files).last? ((out ++ .ofText path).reach cwd) = none := by
    rw [Option.eq_none_iff_forall_ne_some]
    intro content hlast
    obtain ⟨x, hx, heq⟩ := List.mem_map.mp (Disk.Writes.mem_of_last? hlast)
    replace hx := (List.mem_filter.mp hx).1
    refine hpath ?_
    have hplace := (Prod.mk.inj heq).1
    rw [Location.reach_append_eq (hp x hx).root?_eq_none (hp x hx).not_mem_steps,
      Location.reach_append_eq hplain.root?_eq_none hplain.not_mem_steps] at hplace
    obtain rfl := ((hp x hx).steps_inj hplain).mp (List.append_cancel_left hplace)
    exact List.mem_map_of_mem hx
  rw [hd.files, Disk.Writes.onto_eq_last?, hnone]
  rfl

-- In an output folder that was empty there is nothing but the files that are written.
theorem content?_of_unwritten {files : Files} {path : String} {d : Disk} {before made : Session}
    (hp : ∀ x ∈ files, Path.Plain x.1) (hout : Ends (makeOutput out) before (.ok ()) made)
    (hd : made.disk.Overridden (generatedWrites before.cwd out files) d)
    (hempty : ∀ rest ≠ [], before.disk.content? (out.reach before.cwd ++ rest) = none)
    (hplain : Path.Plain path) (hsteps : Path.steps path ≠ []) (hpath : path ∉ files.map Prod.fst) :
    d.content? ((out ++ .ofText path).reach before.cwd) = none := by
  obtain ⟨_, hopened, rfl⟩ := makeOutput_returns hout
  rw [content?_of_not_written hp hd hplain hpath, hopened.files,
    Location.reach_append_eq hplain.root?_eq_none hplain.not_mem_steps]
  exact hempty _ hsteps

-- Of the files that a plan lists, those come into an empty output folder that its modules make.
--
-- The run succeeds in any case. Where no file is refused, all listed files are there afterwards but
-- the second one of the theme, and the sources of modules that the plan leaves out.
theorem listed_files_made {out : String} {before made : Session} (hs : s.Typed) (ho : o.Typed)
    (hsettings : settings.NoFinish) (hout : Ends (makeOutput (.ofText out)) before (.ok ()) made)
    (hempty : ∀ rest ≠ [],
      before.disk.content? ((Location.ofText out).reach before.cwd ++ rest) = none) :
    ∃ (p : Schema) (modules : List String) (r : RebuildResult) (l : Ledger) (after : Session),
      Schema.ofSnapshot s o = .ok p ∧ p.moduleIds = .ok (modules.map .text) ∧
      (perform (some .ledger) (some .ledger) p settings out []).Ends {} before (.ok r) l after ∧
      r.success ∧ (Unrefused p r → ∀ path ∈ p.listed,
        ((after.disk.content? ((.ofText out ++ .ofText path : Location).reach before.cwd)).isSome ↔
          ¬Unmade modules path)) := by
  obtain ⟨p, f, project, cs, files, r, after, hp, hplanned, hproduced, -, hends, hsuccess,
    hwritten⟩ := exists_perform hs.fits ho.fits hsettings hout
  refine ⟨p, f.modules, r, holding project cs, after, hp, hplanned.moduleIds_eq, hends, hsuccess,
    fun hw path hl => ?_⟩
  replace hwritten := hwritten hw
  rw [← hproduced.mem_listed hp hplanned hl]
  by_cases hpath : path ∈ files.map Prod.fst
  case pos =>
    obtain ⟨x, hx, rfl⟩ := List.mem_map.mp hpath
    refine iff_of_true ?_ hpath
    rw [content?_of_written hproduced.nodup hproduced.plain hwritten hx]
    rfl
  case neg =>
    have hunmade : Unmade f.modules path :=
      not_not.mp (mt (hproduced.mem_listed hp hplanned hl).mpr hpath)
    obtain ⟨hplain, hsteps⟩ := plain_declaredPaths path hunmade.declared
    refine iff_of_false ?_ hpath
    rw [content?_of_unwritten hproduced.plain hout hwritten hempty hplain hsteps hpath]
    exact nofun

-- Options with which models are made anew, and nothing keeps the state.
def anewOptions : Options :=
  { keepModels := .bool false, excludedModules := .list ["state"] }

theorem typed_anewOptions : anewOptions.Typed where
  encryption := ⟨_, rfl⟩
  architecture := ⟨_, rfl⟩
  state := ⟨_, rfl⟩
  extraModules := ⟨_, rfl, List.forall_mem_nil _⟩
  excludedModules := ⟨_, rfl, by simp [Datum.IsText]⟩

theorem content?_workFolder : ∀ rest ≠ [],
    workFolder.disk.content? ((Location.ofText "out").reach workFolder.cwd ++ rest) = none := by
  intro rest hrest
  rw [show (Location.ofText "out").reach workFolder.cwd = ["work", "out"] by decide +kernel]
  rfl

theorem listed_files_made_shop :
    ∃ (p : Schema) (r : RebuildResult) (l : Ledger) (after : Session),
      Schema.ofSnapshot shop anewOptions = .ok p ∧
      (perform (some .ledger) (some .ledger) p {} "out" []).Ends {} workFolder (.ok r) l after ∧
      "lib/models/order.dart" ∈ p.listed ∧ "lib/providers/app_providers.dart" ∈ p.listed ∧
      (after.disk.content? ["work", "out", "lib", "models", "order.dart"]).isSome ∧
      after.disk.content? ["work", "out", "lib", "providers", "app_providers.dart"] = none := by
  have h : (Schema.ofSnapshot shop anewOptions).toOption.any fun p =>
      (decide ("lib/models/order.dart" ∈ p.listed) &&
        decide ("lib/providers/app_providers.dart" ∈ p.listed)) &&
      ((p.moduleIds.toOption.any fun ids => !ids.any (·.same "state")) &&
      plannedFits p {} "out" []) := by
    decide +kernel
  have hsettings : Settings.NoFinish {} := ⟨rfl, rfl⟩
  obtain ⟨made, hout, _⟩ := exists_output_workFolder
  obtain ⟨p, modules, r, l, after, hp, hmodules, hends, -, hlisted⟩ :=
    listed_files_made typed_shop typed_anewOptions hsettings hout content?_workFolder
  obtain ⟨p', hp', h⟩ := any_toOption.mp h
  obtain rfl := Except.ok.inj (hp'.symm.trans hp)
  simp only [Bool.and_eq_true, decide_eq_true_eq] at h
  obtain ⟨⟨horder, hproviders⟩, hids, hfits⟩ := h
  have hquiet : Unrefused p' r := unrefused_of_warnings_eq
    (warnings_workFolder typed_shop.fits typed_anewOptions.fits hp hfits hends)
  have hstate : "state" ∉ modules := by
    obtain ⟨ids, hids', hnone⟩ := any_toOption.mp hids
    obtain rfl := Except.ok.inj (hids'.symm.trans hmodules)
    intro hmem
    rw [Bool.not_eq_true', List.any_eq_false] at hnone
    exact hnone _ (List.mem_map_of_mem hmem) Datum.same_text
  refine ⟨p', r, l, after, hp, hends, horder, hproviders, ?order, ?providers⟩
  case order =>
    refine (hlisted hquiet _ horder).mpr fun hu => ?_
    exact absurd hu.declared (by decide)
  case providers =>
    have hunmade : Unmade modules "lib/providers/app_providers.dart" :=
      .inr (.inr ⟨by decide, hstate⟩)
    have hmade := mt (hlisted hquiet _ hproviders).mp (not_not_intro hunmade)
    exact Option.not_isSome_iff_eq_none.mp hmade

-- Not every listed file comes, be there no refusal: nothing makes the second file of the theme.
theorem not_every_listed_file_made :
    ∃ (p : Schema) (r : RebuildResult) (l : Ledger) (after : Session),
      Schema.ofSnapshot shop {} = .ok p ∧
      (perform (some .ledger) (some .ledger) p {} "out" []).Ends {} workFolder (.ok r) l after ∧
      r.success ∧ r.warnings.length = p.warnings.length ∧
      "lib/theme/design_tokens.dart" ∈ p.listed ∧
      after.disk.content? ["work", "out", "lib", "theme", "design_tokens.dart"] = none := by
  have h : (Schema.ofSnapshot shop {}).toOption.any fun p =>
      decide ("lib/theme/design_tokens.dart" ∈ p.listed) && plannedFits p {} "out" [] := by
    decide +kernel
  have htyped : Options.Typed {} := {
    encryption := ⟨_, rfl⟩
    architecture := ⟨_, rfl⟩
    state := ⟨_, rfl⟩
    extraModules := ⟨_, rfl, List.forall_mem_nil _⟩
    excludedModules := ⟨_, rfl, List.forall_mem_nil _⟩ }
  obtain ⟨made, hout, _⟩ := exists_output_workFolder
  obtain ⟨p, f, project, cs, files, r, after, hp, hplanned, hproduced, -, hends, hsuccess, hwritten⟩ :=
    exists_perform typed_shop.fits htyped.fits (show Settings.NoFinish {} from ⟨rfl, rfl⟩) hout
  obtain ⟨p', hp', h⟩ := any_toOption.mp h
  obtain rfl := Except.ok.inj (hp'.symm.trans hp)
  obtain ⟨hlisted, hfits⟩ := Bool.and_eq_true_iff.mp h
  replace hlisted := of_decide_eq_true hlisted
  have hwarnings := warnings_workFolder typed_shop.fits htyped.fits hp hfits hends
  have hunmade : Unmade f.modules "lib/theme/design_tokens.dart" := .inl rfl
  obtain ⟨hplain, hsteps⟩ := plain_declaredPaths _ hunmade.declared
  refine ⟨p', r, _, after, hp, hends, hsuccess, congrArg _ hwarnings, hlisted, ?_⟩
  exact content?_of_unwritten hproduced.plain hout
    (hwritten (unrefused_of_warnings_eq hwarnings)) content?_workFolder hplain hsteps
    (mt (hproduced.mem_listed hp hplanned hlisted).mp (not_not_intro hunmade))

end Rebuild

end Refit
