import Refit.Proofs.Datum.Documents
import Refit.Proofs.Plan.Shown
import Refit.Proofs.Rebuild.Generation

/-!
The files of a plan that was made: they can all be made, and their paths are plain.
-/

namespace Refit

open Datum (EntriesTidy EntriesShow Shows)

/-! Texts -/

theorem Datum.exists_joinTexts {sep : String} {ds : List Datum} (h : ∀ d ∈ ds, d.IsText) :
    ∃ s, joinTexts sep ds = .ok s := by
  have hgo (n : Nat) : ∃ ss, joinTexts.go n ds = .ok ss := by
    induction ds generalizing n
    case nil => exact ⟨[], rfl⟩
    case cons d ds ih =>
      obtain ⟨⟨s, rfl⟩, hds⟩ := List.forall_mem_cons.mp h
      have ⟨ss, hss⟩ := ih hds (n + 1)
      exact ⟨s :: ss, by rw [joinTexts.go, hss]; rfl⟩
  have ⟨ss, hss⟩ := hgo 0
  exact ⟨_, by rw [joinTexts, hss]; rfl⟩

theorem Datum.exists_toText {d : Datum} (h : d.IsText) : ∃ s, d.toText = .ok s := by
  obtain ⟨s, rfl⟩ := h
  exact ⟨s, toText_text⟩

namespace Output

variable {c : Dict} {m key : String} {q : Schema} {f : Plan.Frame} {tables : List Datum}

-- A path to a file with a dot in its name, outside the folder of the configurations.
structure Beside (path : String) : Prop where
  plain : Path.Plain path
  dotted : Path.IsDotted (Path.steps path)
  outside : (Path.steps path).head? ≠ some "config"

theorem beside_joining {ws : List String} (h : ws.all Path.isPlain) (hd : Path.IsDotted ws)
    (hc : ws.head? ≠ some "config") : Beside ("/".joining ws) := by
  have h := List.all_eq_true.mp h
  have hsteps := Path.steps_joining (Path.proper_of_isPlain h)
  exact ⟨⟨ws, rfl, h⟩, hsteps.symm ▸ hd, hsteps.symm ▸ hc⟩

/-! Modules -/

-- A configuration of a module that files can be made of.
structure Usable (m : String) (c : Dict) : Prop where
  tidy : EntriesTidy true c
  source : ∃ fs, sourceOf (.text m) c = .ok fs ∧ ∀ f ∈ fs, Beside f.1

theorem Usable.of_source {ws : List String} {content : String} (htidy : EntriesTidy true c)
    (hs : sourceOf (.text m) c = .ok [("/".joining ws, content)]) (h : ws.all Path.isPlain)
    (hd : Path.IsDotted ws) (hc : ws.head? ≠ some "config") : Usable m c :=
  ⟨htidy, _, hs, List.forall_mem_singleton.mpr (beside_joining h hd hc)⟩

theorem exists_namesOf {xs : List Datum} (hc : Dict.get c key (.list []) = .list xs)
    (h : ∀ x ∈ xs, ∃ n, x.field "name" = .ok n ∧ n.IsText) : ∃ s, namesOf c key = .ok s := by
  have ⟨names, hnames, htexts⟩ := exists_mapM_all h
  have ⟨s, hs⟩ := @Datum.exists_joinTexts ", " _ htexts
  rw [namesOf, hc]
  exact exists_bind_of_ok rfl (exists_bind_of_ok hnames (exists_bind_of_ok hs ⟨_, rfl⟩))

theorem usable_database {xs : List Datum} (htidy : EntriesTidy true c)
    (hc : Dict.get c "tables" (.list []) = .list xs)
    (h : ∀ x ∈ xs, ∃ n, x.field "name" = .ok n ∧ n.IsText) : Usable "drift" c := by
  have ⟨s, hs⟩ := exists_namesOf hc h
  have ⟨content, hcontent⟩ : ∃ content, database c = .ok content := by
    rw [database]
    exact exists_bind_of_ok hs ⟨_, rfl⟩
  refine @Usable.of_source _ _ ["lib", "database", "app_database.dart"] content htidy ?_
    (by cbv) (by decide) (by decide)
  rw [sourceOf, hcontent]
  rfl

theorem usable_manifest {es : List (String × String)} :
    Usable "pwa" [(.text "manifest", .dict (texts es))] := by
  have ⟨s, hs⟩ : ∃ s, Json.write (.dict (texts es)) = .ok s :=
    Json.exists_write (List.forall_mem_map.mpr fun e _ => ⟨⟨_, rfl⟩, ⟨_, rfl⟩⟩)
  refine @Usable.of_source _ _ ["web", "manifest.json"] (s ++ "\n")
    ⟨⟨_, rfl⟩, Plan.Frame.tidy_texts, trivial⟩ ?_ (by cbv) (by decide) (by decide)
  rw [sourceOf]
  exact bind_eq_ok.mpr ⟨_, bind_eq_ok.mpr ⟨s, hs, rfl⟩, rfl⟩

theorem usable_theme {color : String} {es : List (String × Datum)}
    (h : Datum.Tidy true (.record (("primary_color", .text color) :: es))) :
    Usable "design" [(.text "theme", .record (("primary_color", .text color) :: es))] := by
  exact @Usable.of_source _ _ ["lib", "theme", "app_theme.dart"] _ ⟨⟨_, rfl⟩, h, trivial⟩ rfl
    (by cbv) (by decide) (by decide)

theorem usable_client {base : String} (htidy : EntriesTidy true c)
    (hbase : c.get? "base_url" = some (.text base)) : Usable "api" c := by
  have ⟨content, hcontent⟩ : ∃ content, client c = .ok content := by
    rw [client, Dict.get, hbase, Option.getD_some, Datum.toText_text]
    exact ⟨_, rfl⟩
  refine @Usable.of_source _ _ ["lib", "services", "api_client.dart"] content htidy ?_
    (by cbv) (by decide) (by decide)
  rw [sourceOf, hcontent]
  rfl

theorem usable_blocs {xs : List Datum} (htidy : EntriesTidy true c)
    (ht : c.get? "type" = some (.text "bloc")) (hc : Dict.get c "blocs" (.list []) = .list xs)
    (h : ∀ x ∈ xs, ∃ n, x.field "name" = .ok n ∧ n.IsText) : Usable "state" c := by
  have ⟨s, hs⟩ := exists_namesOf hc h
  have ⟨content, hcontent⟩ : ∃ content, blocs c = .ok content := by
    rw [blocs]
    exact exists_bind_of_ok hs ⟨_, rfl⟩
  refine @Usable.of_source _ _ ["lib", "blocs", "app_bloc.dart"] content htidy ?_
    (by cbv) (by decide) (by decide)
  rw [sourceOf, Dict.get, ht, Option.getD_some, Datum.same_text, if_pos (by decide), hcontent]
  rfl

theorem usable_providers {xs : List Datum} {kind : String} (htidy : EntriesTidy true c)
    (ht : c.get? "type" = some (.text kind)) (hk : kind ≠ "bloc")
    (hc : Dict.get c "providers" (.list []) = .list xs)
    (h : ∀ x ∈ xs, ∃ n, x.field "name" = .ok n ∧ n.IsText) : Usable "state" c := by
  have ⟨s, hs⟩ := exists_namesOf hc h
  have ⟨content, hcontent⟩ : ∃ content, providers c = .ok content := by
    rw [providers]
    exact exists_bind_of_ok hs ⟨_, rfl⟩
  refine @Usable.of_source _ _ ["lib", "providers", "app_providers.dart"] content htidy ?_
    (by cbv) (by decide) (by decide)
  rw [sourceOf, Dict.get, ht, Option.getD_some, Datum.same_text, if_neg (by simpa using hk), hcontent]
  rfl

-- A module that no tool configures has no source of its own.
theorem usable_other (h : Schema.needsTools (.text m) = false) : Usable m [] := by
  refine ⟨trivial, [], ?_, nofun⟩
  rw [sourceOf.eq_def]
  split
  case h_6 => rfl
  all_goals
    rename_i hm
    rw [hm] at h
    exact absurd h (by simp [Schema.needsTools, Schema.toolModules])

def configPath (m : String) : String :=
  "config/modules/" ++ m ++ ".yaml"

theorem configPath_inj {m n : String} : configPath m = configPath n ↔ m = n :=
  Text.enclosed_inj

theorem configPath_eq {m : String} :
    configPath m = "/".joining ["config", "modules", m ++ ".yaml"] := by
  have hfolder : "config/modules/" = "config" ++ "/" ++ "modules" ++ "/" := by cbv
  calc configPath m = "config" ++ "/" ++ "modules" ++ "/" ++ m ++ ".yaml" :=
        congrArg (· ++ m ++ ".yaml") hfolder
    _ = "/".joining ["config", "modules", m ++ ".yaml"] := by
        simp only [Path.joining_cons, Path.joining_singleton, String.append_assoc]

theorem plain_configPath {m : String} (h : Path.Fits m) :
    Path.Plain (configPath m) ∧ Path.steps (configPath m) = ["config", "modules", m ++ ".yaml"] := by
  have hplain : ∀ w ∈ ["config", "modules", m ++ ".yaml"], Path.isPlain w := by
    simp only [List.forall_mem_cons]
    exact ⟨by cbv, by cbv, h.isPlain_append (by cbv) (by decide), List.forall_mem_nil _⟩
  rw [configPath_eq, Path.steps_joining (Path.proper_of_isPlain hplain)]
  exact ⟨⟨_, rfl, hplain⟩, rfl⟩

theorem dotted_configPath {m : String} (h : Path.Fits m) :
    Path.IsDotted (Path.steps (configPath m)) := by
  rw [(plain_configPath h).2]
  exact @Path.isDotted_concat _ ["config", "modules"] (by decide) (by simp)

-- The files of a module are the document of its configuration and its source.
theorem exists_module (h : Usable m c) :
    ∃ content fs, configFile (.text m) c = .ok content ∧
      module (.text m) c = .ok ((configPath m, content) :: fs) ∧ ∀ f ∈ fs, Beside f.1 := by
  have ⟨content, hcontent⟩ : ∃ s, configFile (.text m) c = .ok s := by
    rw [configFile]
    exact @Yaml.exists_write true _ ⟨⟨_, rfl⟩, trivial, ⟨_, rfl⟩, h.tidy, trivial⟩
  have ⟨fs, hfs, hbeside⟩ := h.source
  refine ⟨content, fs, hcontent, ?_, hbeside⟩
  rw [module, hcontent, hfs, Datum.toText_text]
  rfl

-- The path of the source of a module, if it has one.
def sourcePaths (m : String) (c : Dict) : List String :=
  match m with
  | "drift" => ["lib/database/app_database.dart"]
  | "pwa" => ["web/manifest.json"]
  | "design" => ["lib/theme/app_theme.dart"]
  | "api" => ["lib/services/api_client.dart"]
  | "state" =>
    [if (c.get "type").same "bloc" then "lib/blocs/app_bloc.dart"
      else "lib/providers/app_providers.dart"]
  | _ => []

theorem sourceOf_paths {fs : Files} (h : sourceOf (.text m) c = .ok fs) :
    fs.map Prod.fst = sourcePaths m c := by
  rw [sourceOf.eq_def] at h
  split at h
  case h_5 hm =>
    obtain rfl := Datum.text.inj hm
    dsimp only [sourcePaths]
    split at h
    case isTrue hbloc =>
      obtain ⟨_, -, h⟩ := bind_eq_ok.mp h
      rw [← pure_eq_ok.mp h, if_pos hbloc]
      rfl
    case isFalse hbloc =>
      obtain ⟨_, -, h⟩ := bind_eq_ok.mp h
      rw [← pure_eq_ok.mp h, if_neg hbloc]
      rfl
  case h_6 hdrift hpwa hdesign hapi hstate =>
    rw [← pure_eq_ok.mp h, sourcePaths.eq_def]
    split
    all_goals simp_all
  all_goals
    rename_i hm
    obtain rfl := Datum.text.inj hm
    obtain ⟨_, -, h⟩ := bind_eq_ok.mp h
    rw [← pure_eq_ok.mp h]
    rfl

-- Which modules have their source at a path.
def sourceOwners : List (String × String) :=
  [("lib/database/app_database.dart", "drift"), ("web/manifest.json", "pwa"),
    ("lib/theme/app_theme.dart", "design"), ("lib/services/api_client.dart", "api"),
    ("lib/blocs/app_bloc.dart", "state"), ("lib/providers/app_providers.dart", "state")]

theorem mem_sourceOwners {path : String} (h : path ∈ sourcePaths m c) : (path, m) ∈ sourceOwners := by
  rw [sourcePaths.eq_def] at h
  split at h
  case h_5 =>
    rw [List.mem_singleton.mp h]
    split <;> decide
  case h_6 => cases h
  all_goals
    rw [List.mem_singleton.mp h]
    decide

def modulePaths (m : String) (c : Dict) : List String :=
  configPath m :: sourcePaths m c

theorem module_ok {fs : Files} (h : module (.text m) c = .ok fs) :
    ∃ content own, sourceOf (.text m) c = .ok own ∧ fs = (configPath m, content) :: own := by
  obtain ⟨name, hname, h⟩ := bind_eq_ok.mp h
  obtain ⟨content, -, h⟩ := bind_eq_ok.mp h
  obtain ⟨own, hown, h⟩ := bind_eq_ok.mp h
  obtain rfl := Except.ok.inj (Datum.toText_text.symm.trans hname)
  exact ⟨content, own, hown, (pure_eq_ok.mp h).symm⟩

theorem module_paths {fs : Files} (h : module (.text m) c = .ok fs) :
    fs.map Prod.fst = modulePaths m c := by
  obtain ⟨_, _, hown, rfl⟩ := module_ok h
  rw [List.map_cons, sourceOf_paths hown, modulePaths]

/-! The project -/

theorem entriesTidy_put {es : Dict} {k v : Datum} {numbers : Bool} (h : EntriesTidy numbers es)
    (hk : k.IsText) (hv : v.Tidy numbers) : EntriesTidy numbers (es.put k v) := by
  induction es
  case nil => exact ⟨hk, hv, trivial⟩
  case cons e es ih =>
    have ⟨k', v'⟩ := e
    have ⟨hk', hv', hes⟩ := h
    rw [Dict.put]
    split
    · exact ⟨hk', hv, hes⟩
    · exact ⟨hk', hv', ih hes⟩

theorem entriesTidy_putAll {es fs : Dict} {numbers : Bool} (h : EntriesTidy numbers es)
    (hf : EntriesTidy numbers fs) : EntriesTidy numbers (es.putAll fs) := by
  induction fs generalizing es
  case nil => exact h
  case cons e fs ih => exact ih (entriesTidy_put h hf.1 hf.2.1) hf.2.2

-- Packages are listed as texts.
theorem exists_listed {table : Dict} {d : Datum} (hd : d.IsText)
    (ht : ∀ v ∈ table.map Prod.snd, v.Tidy false) :
    ∃ es, listed table d = .ok es ∧ EntriesTidy false es := by
  rw [listed, Datum.asKey_eq_ok.mpr ⟨rfl, hd.isKey⟩]
  dsimp only [bind, Except.bind]
  split
  case h_1 es hes => exact ⟨es, rfl, ht _ (Dict.mem_of_at? hes)⟩
  case h_2 => exact ⟨[], rfl, trivial⟩

theorem exists_dependencies {state : Datum} {modules : List Datum} (hs : state.IsText)
    (hm : ∀ m ∈ modules, m.IsText) :
    ∃ es, dependencies state modules = .ok es ∧ EntriesTidy false es := by
  have hstates : ∀ v ∈ stateDependencies.map Prod.snd, v.Tidy false := by
    simp only [stateDependencies, List.map_cons, List.map_nil, List.forall_mem_cons]
    exact ⟨Plan.Frame.tidy_texts, Plan.Frame.tidy_texts, nofun⟩
  have hmodules : ∀ v ∈ moduleDependencies.map Prod.snd, v.Tidy false := by
    simp only [moduleDependencies, List.map_cons, List.map_nil, List.forall_mem_cons]
    exact ⟨Plan.Frame.tidy_texts, Plan.Frame.tidy_texts, nofun⟩
  have ⟨own, hown, htidy⟩ := exists_listed hs hstates
  have ⟨all, hall, htidies⟩ := exists_mapM_all fun m h => exists_listed (hm m h) hmodules
  refine ⟨_, by rw [dependencies, hown, hall]; rfl, ?_⟩
  have hfold {es : Dict} {fss : List Dict} (hes : EntriesTidy false es)
      (hfss : ∀ fs ∈ fss, EntriesTidy false fs) : EntriesTidy false (fss.foldl Dict.putAll es) := by
    induction fss generalizing es
    case nil => exact hes
    case cons fs fss ih =>
      have ⟨hfs, hfss⟩ := List.forall_mem_cons.mp hfss
      exact ih (entriesTidy_putAll hes hfs) hfss
  refine hfold (entriesTidy_putAll ?_ Plan.Frame.tidy_texts) (List.forall_mem_cons.mpr ⟨htidy, htidies⟩)
  exact ⟨⟨_, rfl⟩, ⟨⟨_, rfl⟩, trivial, trivial⟩, trivial⟩

theorem exists_manifest {name description state : Datum} {modules : List Datum} (hn : name.IsText)
    (hd : description.IsText) (hs : state.IsText) (hm : ∀ m ∈ modules, m.IsText) :
    ∃ d, manifest name description state modules = .ok d ∧ d.Tidy false := by
  have ⟨packages, hpackages, htidy⟩ := exists_dependencies hs hm
  refine ⟨_, by rw [manifest, hpackages]; rfl, ?_⟩
  have hsdk : sdk.Tidy false := ⟨⟨_, rfl⟩, trivial, trivial⟩
  refine ⟨⟨_, rfl⟩, hn.tidy, ⟨_, rfl⟩, hd.tidy, ⟨_, rfl⟩, trivial, ⟨_, rfl⟩,
    ⟨⟨_, rfl⟩, trivial, trivial⟩, ⟨_, rfl⟩, htidy, ⟨_, rfl⟩, ?_, ⟨_, rfl⟩,
    ⟨⟨_, rfl⟩, trivial, trivial⟩, trivial⟩
  split
  · exact ⟨⟨_, rfl⟩, hsdk, ⟨_, rfl⟩, trivial, ⟨_, rfl⟩, trivial, ⟨_, rfl⟩, trivial, trivial⟩
  · exact ⟨⟨_, rfl⟩, hsdk, ⟨_, rfl⟩, trivial, ⟨_, rfl⟩, trivial, trivial⟩

theorem exists_readme {name description architecture state : Datum} {modules : List Datum}
    (hn : name.IsText) (hd : description.IsText) (ha : architecture.IsText) (hs : state.IsText)
    (hm : ∀ m ∈ modules, m.IsText) :
    ∃ s, readme name description architecture state modules = .ok s := by
  have ⟨n, hname⟩ := Datum.exists_toText hn
  have ⟨e, hdescription⟩ := Datum.exists_toText hd
  have ⟨a, harchitecture⟩ := Datum.exists_toText ha
  have ⟨t, hstate⟩ := Datum.exists_toText hs
  have ⟨ls, hls⟩ : ∃ ls, (modules.mapM fun m => do return "- " ++ (← m.toText)) =
      (.ok ls : Datum.Read (List String)) :=
    exists_mapM fun m h => exists_bind (Datum.exists_toText (hm m h)) fun _ => ⟨_, rfl⟩
  rw [readme, hls, hname, hdescription, harchitecture, hstate]
  exact ⟨_, rfl⟩

theorem isText_nameOf (h : q.Shown f tables) : (Ledger.nameOf q.definition).IsText :=
  .orElse ⟨_, @Schema.Shown.get_text _ _ _ "name" f.name _ h rfl⟩ ⟨_, rfl⟩

theorem exists_core (h : q.Shown f tables) {p : ProjectRecord} (hp : p.definition = q.definition) :
    ∃ fs, core p = .ok fs ∧ ∀ x ∈ fs, Beside x.1 := by
  have hdescription : ((Dict.get q.definition "description").orElse
      (.text defaultDescription)).IsText :=
    .orElse ⟨_, @Schema.Shown.get_text _ _ _ "description" f.description _ h rfl⟩ ⟨_, rfl⟩
  have hstate : (Dict.get q.definition "state_management" "riverpod").IsText :=
    ⟨_, @Schema.Shown.get_text _ _ _ "state_management" f.state _ h rfl⟩
  have harchitecture : (Dict.get q.definition "architecture" "layer-first").IsText :=
    ⟨_, @Schema.Shown.get_text _ _ _ "architecture" f.architecture _ h rfl⟩
  have ⟨ms, hms, hall⟩ := h.exists_modules
  have ⟨ids, hids, htexts⟩ : ∃ ids, (ms.mapM fun m => m.field "id") = .ok ids ∧ ∀ d ∈ ids, d.IsText := by
    refine exists_mapM_all fun m hm => ?_
    obtain ⟨_, hmem, hshow⟩ := exists_of_forall₂ hall hm
    obtain ⟨n, _, rfl⟩ := List.mem_map.mp hmem
    have ⟨v, hv, hn⟩ := @Shows.exists_field _ _ "id" (.text n) hshow rfl
    exact ⟨v, hv, n, hn.eq_of_not_isBlock rfl⟩
  have ⟨d, hd, htidy⟩ := exists_manifest (isText_nameOf h) hdescription hstate htexts
  have ⟨r, hr⟩ := exists_readme (isText_nameOf h) hdescription harchitecture hstate htexts
  have ⟨y, hy⟩ := Yaml.exists_write htidy
  have ⟨n, hn⟩ := Datum.exists_toText (isText_nameOf h)
  refine ⟨[("pubspec.yaml", y), ("analysis_options.yaml", analysisOptions), ("README.md", r),
    ("lib/main.dart", mainSource n ((Dict.get q.definition "state_management" "riverpod").same
      "riverpod"))], ?made, ?beside⟩
  case made =>
    rw [core, hp]
    refine bind_eq_ok.mpr ⟨ids, mapError_eq_ok.mpr (bind_eq_ok.mpr ⟨ms, hms, hids⟩), ?_⟩
    refine bind_eq_ok.mpr ⟨d, mapError_eq_ok.mpr hd, bind_eq_ok.mpr ⟨r, mapError_eq_ok.mpr hr, ?_⟩⟩
    refine bind_eq_ok.mpr ⟨y, mapError_eq_ok.mpr hy, bind_eq_ok.mpr ⟨n, mapError_eq_ok.mpr hn, rfl⟩⟩
  case beside =>
    simp only [List.forall_mem_cons]
    exact ⟨@beside_joining ["pubspec.yaml"] (by cbv) (by decide) (by decide),
      @beside_joining ["analysis_options.yaml"] (by cbv) (by decide) (by decide),
      @beside_joining ["README.md"] (by cbv) (by decide) (by decide),
      @beside_joining ["lib", "main.dart"] (by cbv) (by decide) (by decide), nofun⟩

def corePaths : List String :=
  ["pubspec.yaml", "analysis_options.yaml", "README.md", "lib/main.dart"]

theorem core_paths {p : ProjectRecord} {fs : Files} (h : core p = .ok fs) :
    fs.map Prod.fst = corePaths := by
  obtain ⟨_, -, h⟩ := bind_eq_ok.mp h
  obtain ⟨_, -, h⟩ := bind_eq_ok.mp h
  obtain ⟨_, -, h⟩ := bind_eq_ok.mp h
  obtain ⟨_, -, h⟩ := bind_eq_ok.mp h
  obtain ⟨_, -, h⟩ := bind_eq_ok.mp h
  rw [← pure_eq_ok.mp h]
  rfl

end Output

/-! Stand-ins -/

namespace Rebuild

open Output (Beside)

theorem exists_origin {d : Datum} (h : d.IsMigration) : ∃ s, Placeholder.origin d = .ok s := by
  obtain ⟨es, file, _, rfl, hsource, _⟩ := h
  have htext : (Datum.orElse (.text file) "unknown").IsText := .orElse ⟨_, rfl⟩ ⟨_, rfl⟩
  have ⟨s, hs⟩ := Datum.exists_toText htext
  refine ⟨s, bind_eq_ok.mpr ⟨es, rfl, ?_⟩⟩
  rw [Dict.get, hsource]
  exact hs

theorem exists_placeholder {d : Datum} (h : d.IsMigration) :
    (∃ s, Placeholder.model d = .ok s) ∧ ∃ s, Placeholder.screen d = .ok s := by
  have ⟨s, hs⟩ := exists_origin h
  obtain ⟨es, _, name, rfl, _, hname, _⟩ := h
  have hfield : (Datum.dict es).field "name" = .ok (.text name) := by
    simp [Datum.field, Datum.opened, hname]
  constructor
  · rw [Placeholder.model, hfield, hs]
    exact exists_bind_of_ok rfl (exists_bind_of_ok Datum.toText_text ⟨_, rfl⟩)
  · rw [Placeholder.screen, hfield, hs]
    exact exists_bind_of_ok rfl (exists_bind_of_ok Datum.toText_text ⟨_, rfl⟩)

theorem standIn_path {folder word : String} : "lib/" ++ folder ++ "/" ++ word ++ ".dart" =
    "/".joining ["lib", folder, word ++ ".dart"] := by
  refine String.toList_injective ?_
  simp [String.joining, Text.join]

theorem exists_standIns {folder : String} {source : Datum → Datum.Read String}
    {migrations : List Datum} (hf : Path.isPlain folder) (hdotless : '.' ∉ folder.toList)
    (hs : ∀ d ∈ migrations, ∃ s, source d = .ok s) (h : ∀ d ∈ migrations, d.IsMigration) :
    ∃ fs, standIns folder source migrations = .ok fs ∧ ∀ f ∈ fs, Beside f.1 := by
  refine exists_mapM_all fun d hd => ?_
  have ⟨content, hcontent⟩ := hs d hd
  obtain ⟨es, _, name, rfl, _, hname, hfits⟩ := h d hd
  have hfield : (Datum.dict es).field "name" = .ok (.text name) := by
    simp [Datum.field, Datum.opened, hname]
  refine ⟨("lib/" ++ folder ++ "/" ++ snakeCase name ++ ".dart", content), ?_, standIn_path ▸ ?_⟩
  · rw [hcontent, hfield]
    rfl
  · refine Output.beside_joining ?_ ?_ (by simp)
    · simp only [List.all_cons, List.all_nil, Bool.and_true, Bool.and_eq_true]
      exact ⟨by cbv, hf, hfits.snakeCase.isPlain_append (by cbv) (by decide)⟩
    · refine @Path.isDotted_concat _ ["lib", folder] ?_ (by simp)
      exact List.forall_mem_cons.mpr ⟨by decide, List.forall_mem_singleton.mpr hdotless⟩

theorem exists_ite {b : Bool} {x : Datum.Read Files}
    (hx : ∃ fs, x = .ok fs ∧ ∀ f ∈ fs, Beside f.1) :
    ∃ fs, (if b then x else pure []) = .ok fs ∧ ∀ f ∈ fs, Beside f.1 := by
  cases b
  case false => exact ⟨[], rfl, nofun⟩
  case true => exact hx

-- The files beside those of the engine.
theorem exists_extras {p q : Schema} {f : Plan.Frame} {settings : Settings} {kept : Groups}
    (h : p.Planned f) (hm : q.models = p.models) (hs : q.screens = p.screens)
    (hn : q.name.IsText) :
    ∃ fs, extras q settings kept = .ok fs ∧ ∀ f ∈ fs, Beside f.1 := by
  obtain ⟨models, hmodels, hmb⟩ := @exists_ite (kept.get "models").isEmpty _
    (@exists_standIns "models" Placeholder.model p.models (by cbv) (by decide)
      (fun d hd => (exists_placeholder (h.models d hd)).1) h.models)
  obtain ⟨screens, hscreens, hsb⟩ := @exists_ite (kept.get "screens").isEmpty _
    (@exists_standIns "screens" Placeholder.screen p.screens (by cbv) (by decide)
      (fun d hd => (exists_placeholder (h.screens d hd)).2) h.screens)
  obtain ⟨name, hname⟩ := Datum.exists_toText hn
  obtain ⟨content, hcontent⟩ : ∃ content, Placeholder.smokeTest q.name = .ok content := by
    rw [Placeholder.smokeTest, hname]
    exact ⟨_, rfl⟩
  obtain ⟨test, htest, htb⟩ := @exists_ite settings.tests
    (Placeholder.smokeTest q.name >>= fun content => pure [("test/widget_test.dart", content)])
    ⟨_, bind_eq_ok.mpr ⟨content, hcontent, rfl⟩, List.forall_mem_singleton.mpr
      (@Output.beside_joining ["test", "widget_test.dart"] (by cbv) (by decide) (by decide))⟩
  rw [← hm] at hmodels
  rw [← hs] at hscreens
  refine ⟨models ++ screens ++ test, ?_, ?_⟩
  · rw [extras_eq]
    exact bind_eq_ok.mpr ⟨models, hmodels, bind_eq_ok.mpr ⟨screens, hscreens,
      bind_eq_ok.mpr ⟨test, htest, rfl⟩⟩⟩
  · exact List.forall_mem_append.mpr ⟨List.forall_mem_append.mpr ⟨hmb, hsb⟩, htb⟩

end Rebuild

end Refit
