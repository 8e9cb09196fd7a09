import Refit.Proofs.Disk.Refusals
import Refit.Proofs.Disk.Storing
import Refit.Proofs.Rebuild.Execution
import Refit.Proofs.Rebuild.Setup

/-!
Plans that were made run cleanly: all modules are installed, and there are no warnings but those of
the plan, and those about files that the disk refuses.
-/

namespace Refit

open Datum (Shows)

namespace Rebuild

open Ledger (holding)
open Output (Beside configPath configFile corePaths modulePaths)

variable {p q : Schema} {f : Plan.Frame} {tables : List Datum} {project : ProjectRecord}
  {cs : Configs} {m : String} {c : Dict} {out : Location} {cwd : List String}

theorem create_shown (h : q.Shown f tables) :
    ∃ project : ProjectRecord, project.definition = q.definition ∧
      Ends (Engine.ledger.create q.definition) {} (.ok (.text project.id)) (holding project []) := by
  have ⟨name, hname⟩ := Datum.exists_toText (Output.isText_nameOf h)
  refine ⟨⟨name ++ "-" ++ toString 1, q.definition, []⟩, rfl, ?_⟩
  have hcreate : Ledger.create {} (.dict q.definition) = (.ok (name ++ "-" ++ toString 1),
      holding ⟨name ++ "-" ++ toString 1, q.definition, []⟩ []) := by
    simp [Ledger.create, Datum.asDict, Datum.entries?, Datum.opened, hname, bind, Except.bind, pure,
      Except.pure, holding, ProjectRecord.entriesOf]
  change ((Ledger.create {} (.dict q.definition)).1.map Datum.text,
    (Ledger.create {} (.dict q.definition)).2) = _
  rw [hcreate]
  rfl

/-! Files -/

theorem generate_holding (hn : (cs.map Prod.fst).Nodup) (h : (m, c) ∈ cs) :
    Ends (Engine.ledger.generate (.text project.id) (some (.text m))) (holding project cs)
      ((Output.module (.text m) c).mapError .fault) (holding project cs) := by
  have hgenerate : Output.generate (holding project cs) (.text project.id) (some (.text m)) =
      (Output.module (.text m) c).mapError .fault := by
    rw [Output.generate, Ledger.find_holding]
    have hkey : (Datum.text m).asKey = .ok (.text m) := by simp [Datum.asKey]
    have hself : c.map (fun e => (e.1, (holding project cs).current e.2)) = c := List.map_id _
    simp only [bind, Except.bind, hkey, Except.mapError, Ledger.config?_holding hn h]
    rw [hself]
  change (Output.generate (holding project cs) (.text project.id) (some (.text m)), _) = _
  rw [hgenerate]

-- What the files of a project are: outside the folder of the configurations, or documents in it.
def IsOutput (cs : Configs) (x : String × String) : Prop :=
  Beside x.1 ∨ ∃ e ∈ cs, x.1 = configPath e.1 ∧ configFile (.text e.1) e.2 = .ok x.2

-- A file that a module of a project comes with.
def IsModuleFile (cs : Configs) (x : String × String) : Prop :=
  ∃ e ∈ cs, ∃ fs, Output.module (.text e.1) e.2 = .ok fs ∧ x ∈ fs

theorem generateModules_holding (hn : (cs.map Prod.fst).Nodup) {es : Configs} (hs : es ⊆ cs)
    (hu : ∀ e ∈ cs, Output.Usable e.1 e.2) {files : Files} :
    ∃ own : Files, Ends (generateModules .ledger (.text project.id) (es.map fun e => .text e.1) files)
        (holding project cs) (.ok (files.putAll own, es.length, [])) (holding project cs) ∧
      own.map Prod.fst = es.flatMap (fun e => modulePaths e.1 e.2) ∧
      (∀ x ∈ own, IsOutput cs x ∧ IsModuleFile cs x) ∧ ∀ e ∈ es, ∃ content,
        configFile (.text e.1) e.2 = .ok content ∧ (configPath e.1, content) ∈ own := by
  induction es generalizing files
  case nil => exact ⟨[], Ends.pure_iff.mpr ⟨rfl, rfl⟩, rfl, nofun, nofun⟩
  case cons e es ih =>
    have ⟨he, hes⟩ := List.cons_subset.mp hs
    have ⟨content, fs, hcontent, hmodule, hbeside⟩ := Output.exists_module (hu e he)
    have hone := @generate_holding project _ _ _ hn he
    rw [hmodule] at hone
    have ⟨own, hrest, hpaths, hown, hdocuments⟩ :=
      @ih hes (files.putAll ((configPath e.1, content) :: fs))
    refine ⟨(configPath e.1, content) :: fs ++ own, ?runs, ?paths, ?outputs, ?documents⟩
    case runs =>
      rw [Files.putAll_append]
      refine (Ends.bind_of_ok (Work.outcome_iff.mpr hone)).mpr ?_
      exact (Ends.bind_of_ok hrest).mpr (Ends.pure_iff.mpr ⟨rfl, rfl⟩)
    case paths => rw [List.map_append, Output.module_paths hmodule, hpaths, List.flatMap_cons]
    case outputs =>
      intro x hx
      rcases List.mem_append.mp hx with hx | hx
      · refine ⟨?_, e, he, _, hmodule, hx⟩
        rcases List.mem_cons.mp hx with rfl | hx
        · exact .inr ⟨e, he, rfl, hcontent⟩
        · exact .inl (hbeside x hx)
      · exact hown x hx
    case documents =>
      refine List.forall_mem_cons.mpr ⟨⟨content, hcontent, .head _⟩, fun e' he' => ?_⟩
      exact (hdocuments e' he').imp fun _ ⟨hc, hm⟩ => ⟨hc, List.mem_append_right _ hm⟩

-- At the path of a configuration there is nothing else than its document.
theorem IsOutput.content_eq (hn : (cs.map Prod.fst).Nodup) (hid : ∀ e ∈ cs, Path.Fits e.1)
    {e : String × Dict} (he : e ∈ cs) {content content' : String}
    (hc : configFile (.text e.1) e.2 = .ok content) (h : IsOutput cs (configPath e.1, content')) :
    content' = content := by
  rcases h with hbeside | ⟨e', he', hpath, hc'⟩
  case inl => exact absurd (by rw [(Output.plain_configPath (hid e he)).2]; rfl) hbeside.outside
  case inr =>
    have hname : e.1 = e'.1 := Output.configPath_inj.mp hpath
    have hconfig : e.2 = e'.2 := by
      refine Option.some.inj ((lookup_of_nodup hn he).symm.trans ?_)
      rw [hname]
      exact lookup_of_nodup hn he'
    rw [← hname, ← hconfig, hc] at hc'
    exact (Except.ok.inj hc').symm

-- All files that the engine makes of a project whose modules are configured.
theorem generate_holding_all (h : q.Shown f tables) (hdefinition : project.definition = q.definition)
    (hn : (cs.map Prod.fst).Nodup) (hu : ∀ e ∈ cs, Output.Usable e.1 e.2) :
    ∃ made : Files, Ends (Rebuild.generate .ledger (.text project.id) (cs.map fun e => .text e.1))
        (holding project cs) (.ok (Files.putAll [] made, cs.length, [])) (holding project cs) ∧
      made.map Prod.fst = corePaths ++ cs.flatMap (fun e => modulePaths e.1 e.2) ∧
      (∀ x ∈ made, IsOutput cs x ∧ (x.1 ∈ corePaths ∨ IsModuleFile cs x)) ∧
      ∀ e ∈ cs, ∃ content, configFile (.text e.1) e.2 = .ok content ∧
        (configPath e.1, content) ∈ made := by
  have ⟨core, hcore, hbeside⟩ := @Output.exists_core _ _ _ h
    { project with modules := ProjectRecord.entriesOf cs } hdefinition
  have hproject : Ends (Engine.ledger.generate (.text project.id) none) (holding project cs)
      (.ok core) (holding project cs) := by
    change (Output.generate (holding project cs) (.text project.id) none, _) = _
    rw [Output.generate, Ledger.find_holding]
    exact congrArg (·, _) hcore
  have ⟨own, hmodules, hpaths, hown, hdocuments⟩ := @generateModules_holding project _ hn _
    (List.Subset.refl _) hu (Files.putAll [] core)
  refine ⟨core ++ own, ?_, by rw [List.map_append, Output.core_paths hcore, hpaths],
    List.forall_mem_append.mpr ⟨fun x hx => ⟨.inl (hbeside x hx), .inl ?_⟩,
      fun x hx => (hown x hx).imp_right .inr⟩, ?_⟩
  · rw [Files.putAll_append]
    exact (Ends.bind_of_ok (Work.outcome_iff.mpr hproject)).mpr hmodules
  · exact Output.core_paths hcore ▸ List.mem_map_of_mem hx
  · intro e he
    exact (hdocuments e he).imp fun _ hc => hc.imp_right (List.mem_append_right _)

-- The files that the workers make of a plan that was made, once its modules are configured.
structure Produced (p : Schema) (f : Plan.Frame) (settings : Settings) (kept : Groups) (cs : Configs)
    (files : Files) : Prop where
  configured : cs.map Prod.fst = f.modules
  furnished : ∀ e ∈ cs, Furnished p.tables f e.1 e.2
  nodup : (files.map Prod.fst).Nodup
  plain : ∀ x ∈ files, Path.Plain x.1
  dotted : ∀ x ∈ files, Path.IsDotted (Path.steps x.1)
  documents : ∀ e ∈ cs, ∃ content, configFile (.text e.1) e.2 = .ok content ∧
    (configPath e.1, content) ∈ files
  paths : ∃ extra, extras p.numbered settings kept = .ok extra ∧ ∀ path,
    path ∈ files.map Prod.fst ↔ path ∈ corePaths ∨ (∃ e ∈ cs, path ∈ modulePaths e.1 e.2) ∨
      path ∈ extra.map Prod.fst
  origin : ∃ extra, extras p.numbered settings kept = .ok extra ∧
    ∀ x ∈ files, x.1 ∈ corePaths ∨ IsModuleFile cs x ∨ x ∈ extra

-- What the workers make of a plan that was made: all its modules, and no warnings.
theorem produce_planned {settings : Settings} {kept : Groups} (h : p.Planned f) :
    ∃ (project : ProjectRecord) (cs : Configs) (files : Files),
      Produced p f settings kept cs files ∧
      Ends (produce .ledger .ledger p.numbered settings kept (f.modules.map .text) out) {}
        (.ok ⟨.text project.id, f.modules.map .text, files, f.modules.length, []⟩)
        (holding project cs) := by
  have hshown := h.shown
  have ⟨project, hdefinition, hcreate⟩ := create_shown hshown
  have ⟨entries, hentries⟩ := exists_entriesOf hshown
  have ⟨cs, hcs, hfurnished, hconfigure⟩ := @configure_shown project [] _ _ _ _ hshown h.tables
    hentries _ h.modules_nodup (fun _ _ => List.not_mem_nil)
  have hn : (cs.map Prod.fst).Nodup := hcs ▸ h.modules_nodup
  have hid : ∀ e ∈ cs, Path.Fits e.1 := fun e he =>
    h.modules_names _ (hcs ▸ List.mem_map_of_mem he)
  have ⟨made, hgenerate, hpaths, hmade, hdocuments⟩ := @generate_holding_all _ _ _ project _ hshown
    hdefinition hn fun e he => (hfurnished e he).usable
  have hname : p.numbered.name.IsText :=
    ⟨_, @Schema.Shown.get_text _ _ _ "name" f.name _ hshown rfl⟩
  have ⟨extra, hextra, hbeside⟩ := @exists_extras p p.numbered f settings kept h rfl rfl hname
  have hnames : cs.map (fun e => Datum.text e.1) = f.modules.map .text := by
    rw [← hcs, List.map_map]
    rfl
  have hlength : cs.length = f.modules.length := by rw [← hcs, List.length_map]
  have hself : p.numbered.map (Engine.ledger.current (holding project cs)) = p.numbered := by
    rw [← @Ledger.amid_none project cs ""]
    exact map_current_amid
  rw [hnames, hlength] at hgenerate
  have houtputs : ∀ x ∈ made ++ extra, IsOutput cs x :=
    List.forall_mem_append.mpr ⟨fun x hx => (hmade x hx).1, fun x hx => .inl (hbeside x hx)⟩
  refine ⟨project, cs, Files.putAll [] (made ++ extra), ⟨hcs, hfurnished, Files.nodup_putAll .nil,
    ?plain, ?dotted, ?documents, ⟨extra, hextra, fun path => ?paths⟩, extra, hextra, ?origin⟩, ?runs⟩
  case runs =>
    rw [Files.putAll_append]
    refine (Ends.bind_of_ok (Ends.mapError_ok_iff.mpr hcreate)).mpr ?_
    refine (Ends.bind_of_ok (Work.ofRead_ok_iff.mpr ⟨hentries, rfl⟩)).mpr ?_
    refine (Ends.bind_of_ok hconfigure).mpr ((Ends.bind_of_ok hgenerate).mpr ?_)
    rw [← hself] at hextra
    refine Ends.get_bind_iff.mpr ((Ends.bind_of_ok (Work.ofRead_ok_iff.mpr ⟨hextra, rfl⟩)).mpr ?_)
    exact Ends.pure_iff.mpr ⟨rfl, rfl⟩
  case paths =>
    rw [Files.mem_keys_putAll, List.map_append, hpaths]
    simp
  case plain =>
    intro x hx
    rcases houtputs x ((Files.mem_of_mem_putAll hx).resolve_left (List.not_mem_nil)) with
      hbeside | ⟨e, he, hpath, _⟩
    · exact hbeside.plain
    · exact hpath ▸ (Output.plain_configPath (hid e he)).1
  case dotted =>
    intro x hx
    rcases houtputs x ((Files.mem_of_mem_putAll hx).resolve_left (List.not_mem_nil)) with
      hbeside | ⟨e, he, hpath, _⟩
    · exact hbeside.dotted
    · exact hpath ▸ Output.dotted_configPath (hid e he)
  case origin =>
    intro x hx
    rcases List.mem_append.mp ((Files.mem_of_mem_putAll hx).resolve_left List.not_mem_nil) with
      hx | hx
    · exact (hmade x hx).2.imp_right .inl
    · exact .inr (.inr hx)
  case documents =>
    intro e he
    obtain ⟨content, hcontent, hmem⟩ := hdocuments e he
    refine ⟨content, hcontent, Files.mem_putAll_of_forall (List.mem_append_left _ hmem) ?_⟩
    exact fun c hc => (houtputs _ hc).content_eq hn hid he hcontent

/-! Writing -/

theorem isInside_of_plain {path : String} (h : Path.Plain path) :
    isInside cwd out (out ++ .ofText path) := by
  have hfrom : (out ++ .ofText path).from_ cwd = out.from_ cwd ++ Path.steps path := by
    rw [Location.append_eq h.root?_eq_none, Location.from_, Location.from_]
    cases out.root
    case none => exact (List.append_assoc ..).symm
    case some => rfl
  rw [isInside, List.isPrefixOf_iff_prefix, Location.resolved, Location.resolved, hfrom,
    Location.settle, Location.settle, List.foldl_append]
  exact ⟨Path.steps path, (Location.foldl_advance h.not_mem_steps).symm⟩

theorem exists_tryStore {target : Location} {content : String} {warning : String → String}
    (h : ¬target.HasNull) (d : Disk) :
    ∃ w d', Ends (tryStore cwd target content warning) d (.ok w) d' ∧
      (w = none ∨ ∃ reason, w = some (warning reason)) := by
  have ⟨r, d', hs⟩ := Ends.exists_ends (Disk.store cwd target content) d
  cases r
  case ok => exact ⟨none, d', tryStore_ends hs, .inl rfl⟩
  case error e =>
    obtain ⟨t, rfl⟩ := (Disk.store_stopsBy _ _ _ hs).exists_file h
    exact ⟨_, d', tryStore_ends hs, .inr ⟨_, rfl⟩⟩

def refusedWrite (x : String × String) : String :=
  "Could not write " ++ x.1 ++ ": " ++ x.2

theorem writeFiles_cons_iff {path content : String} {files : Files} {d d' : Disk}
    {r : Except Stop (Nat × List String)} (hl : ¬out.HasNull) (hp : Path.Plain path) :
    Ends (writeFiles cwd out ((path, content) :: files)) d r d' ↔
      Ends (tryStore cwd (out ++ .ofText path) content
        (fun e => "Could not write " ++ path ++ ": " ++ e) >>= tally (writeFiles cwd out files))
        d r d' := by
  have hcontains : (out ++ .ofText path).text.toList.contains '\x00' = false := by
    simpa using fun h => Location.not_hasNull_append hp hl (Location.hasNull_iff.mpr h)
  simp only [writeFiles, hcontains, isInside_of_plain hp]
  rfl

-- Files at plain paths are written, except for those that the disk refuses.
theorem exists_writeFiles {files : Files} (hl : ¬out.HasNull) (hp : ∀ x ∈ files, Path.Plain x.1)
    (d : Disk) : ∃ (n : Nat) (refused : List (String × String)) (d' : Disk),
      Ends (writeFiles cwd out files) d (.ok (n, refused.map refusedWrite)) d' ∧
      n + refused.length = files.length := by
  induction files generalizing d
  case nil => exact ⟨0, [], d, Ends.pure_iff.mpr ⟨rfl, rfl⟩, rfl⟩
  case cons x files ih =>
    have ⟨path, content⟩ := x
    have ⟨hx, hp⟩ := List.forall_mem_cons.mp hp
    have ⟨w, d₁, hstore, hw⟩ := @exists_tryStore cwd _ content
      (fun e => "Could not write " ++ path ++ ": " ++ e) (Location.not_hasNull_append hx hl) d
    have ⟨n, refused, d₂, hrest, hlength⟩ := ih hp d₁
    rcases hw with rfl | ⟨reason, rfl⟩
    case inl =>
      refine ⟨n + 1, refused, d₂, (writeFiles_cons_iff hl hx).mpr ?_, ?_⟩
      · refine (Ends.bind_of_ok hstore).mpr ((Ends.bind_of_ok hrest).mpr ?_)
        exact Ends.pure_iff.mpr ⟨rfl, rfl⟩
      · rw [List.length_cons, ← hlength, Nat.add_right_comm]
    case inr =>
      refine ⟨n, (path, reason) :: refused, d₂, (writeFiles_cons_iff hl hx).mpr ?_, ?_⟩
      · refine (Ends.bind_of_ok hstore).mpr ((Ends.bind_of_ok hrest).mpr ?_)
        exact Ends.pure_iff.mpr ⟨rfl, rfl⟩
      · rw [List.length_cons, List.length_cons, ← hlength, Nat.add_assoc]

-- The disk can have a path in the output folder.
def FitsIn (out : Location) (path : String) : Prop :=
  (∀ s ∈ Path.steps path, s.utf8ByteSize ≤ Disk.nameLimit) ∧
    (out ++ ⟨none, Path.steps path⟩ : Location).text.utf8ByteSize ≤ Disk.pathLimit

instance : DecidablePred (FitsIn out) := fun path => by
  unfold FitsIn
  infer_instance

theorem beside_of_fits {paths : List String} (hp : ∀ path ∈ paths, Path.Plain path)
    (hd : ∀ path ∈ paths, Path.IsDotted (Path.steps path)) (hf : ∀ path ∈ paths, FitsIn out path) :
    Disk.Beside out (paths.map Path.steps) where
  named hmem := by
    obtain ⟨path, hpath, hnil⟩ := List.mem_map.mp hmem
    obtain ⟨_, _, hlast, _⟩ := hd path hpath
    rw [hnil] at hlast
    cases hlast
  passable := List.forall_mem_map.mpr fun path hpath =>
    ⟨fun _ => (hp path hpath).isPlain_of_mem_steps, (hf path hpath).1, (hf path hpath).2⟩
  apart := List.forall_mem_map.mpr fun x hx => List.forall_mem_map.mpr fun y hy =>
    (hd x hx).eq_of_extends (hd y hy)

section

variable {p : List String} {ways : List (List String)} {d : Disk}

theorem exists_tryStore_takes {path content : String} {warning : String → String}
    (hb : Disk.Beside out ways) (hd : d.Takes cwd out p ways) (hplain : Path.Plain path)
    (hway : Path.steps path ∈ ways) :
    ∃ d', Ends (tryStore cwd (out ++ .ofText path) content warning) d (.ok none) d' ∧
      d'.Takes cwd out p ways := by
  obtain ⟨d', hstore, htakes⟩ := hd.store hb hway content
  have hpath : Location.ofText path = ⟨none, Path.steps path⟩ := by
    rw [Location.ofText, hplain.root?_eq_none]
  exact ⟨d', hpath ▸ tryStore_ends hstore, htakes⟩

-- In a folder that takes them no file is refused.
theorem exists_writeFiles_takes {files : Files} (hb : Disk.Beside out ways)
    (hd : d.Takes cwd out p ways)
    (hf : ∀ path ∈ files.map Prod.fst, Path.Plain path ∧ Path.steps path ∈ ways) :
    ∃ d', Ends (writeFiles cwd out files) d (.ok (files.length, [])) d' ∧
      d'.Takes cwd out p ways := by
  induction files generalizing d
  case nil => exact ⟨d, Ends.pure_iff.mpr ⟨rfl, rfl⟩, hd⟩
  case cons x files ih =>
    have ⟨path, content⟩ := x
    obtain ⟨⟨hplain, hway⟩, hf⟩ := List.forall_mem_cons.mp hf
    obtain ⟨d₁, hstore, htakes⟩ := exists_tryStore_takes hb hd hplain hway
    obtain ⟨d₂, hrest, htakes⟩ := ih htakes hf
    have hnull := Disk.not_hasNull_of_isFolder hd.rooted.isFolder
    refine ⟨d₂, (writeFiles_cons_iff hnull hplain).mpr ?_, htakes⟩
    refine (Ends.bind_of_ok hstore).mpr ((Ends.bind_of_ok hrest).mpr ?_)
    exact Ends.pure_iff.mpr ⟨rfl, rfl⟩

theorem exists_copyCategory_takes {category : String} {fs : List SourceFile}
    (hb : Disk.Beside out ways) (hd : d.Takes cwd out p ways)
    (hf : ∀ f ∈ fs, Path.Plain (Category.target category f.path) ∧
      Path.steps (Category.target category f.path) ∈ ways) :
    ∃ d', Ends (copyCategory cwd out category fs) d (.ok (fs.length, [])) d' ∧
      d'.Takes cwd out p ways := by
  induction fs generalizing d
  case nil => exact ⟨d, Ends.pure_iff.mpr ⟨rfl, rfl⟩, hd⟩
  case cons f fs ih =>
    obtain ⟨⟨hplain, hway⟩, hf⟩ := List.forall_mem_cons.mp hf
    obtain ⟨d₁, hstore, htakes⟩ := exists_tryStore_takes hb hd hplain hway
    obtain ⟨d₂, hrest, htakes⟩ := ih htakes hf
    refine ⟨d₂, (Ends.bind_of_ok hstore).mpr ((Ends.bind_of_ok hrest).mpr ?_), htakes⟩
    exact Ends.pure_iff.mpr ⟨rfl, rfl⟩

-- The paths of the kept files in the output folder.
def keptPaths (kept : Groups) : List String :=
  kept.flatMap fun g => g.2.map fun f => Category.target g.1 f.path

theorem exists_copyKept_takes {kept : Groups} (hb : Disk.Beside out ways)
    (hd : d.Takes cwd out p ways)
    (hf : ∀ path ∈ keptPaths kept, Path.Plain path ∧ Path.steps path ∈ ways) :
    ∃ n d', Ends (copyKept cwd out kept) d (.ok (n, [])) d' := by
  induction kept generalizing d
  case nil => exact ⟨0, d, Ends.pure_iff.mpr ⟨rfl, rfl⟩⟩
  case cons g kept ih =>
    have ⟨category, fs⟩ := g
    rw [keptPaths, List.flatMap_cons, List.forall_mem_append, List.forall_mem_map] at hf
    obtain ⟨d₁, hcopies, htakes⟩ := exists_copyCategory_takes hb hd hf.1
    obtain ⟨n, d₂, hrest⟩ := ih htakes hf.2
    refine ⟨fs.length + n, d₂, (Ends.bind_of_ok hcopies).mpr ((Ends.bind_of_ok hrest).mpr ?_)⟩
    exact Ends.pure_iff.mpr ⟨rfl, rfl⟩

end

theorem isRefusal_refusedWrite {x : String × String} : isRefusal (refusedWrite x) :=
  isRefusal_write

-- A file at a plain path is found there once all files are written.
theorem content?_of_written {files : Files} {path content : String} {d d' : Disk}
    (hn : (files.map Prod.fst).Nodup) (hp : ∀ x ∈ files, Path.Plain x.1)
    (hd : d.Overridden (generatedWrites cwd out files) d') (hx : (path, content) ∈ files) :
    d'.content? ((out ++ .ofText path).reach cwd) = some content.toUTF8.toList := by
  have hlast : (generatedWrites cwd out files).last? ((out ++ .ofText path).reach cwd) =
      some content := by
    refine lookup_of_forall (List.mem_reverse.mpr ?_) fun c hc => ?_
    · refine List.mem_map.mpr ⟨(path, content), List.mem_filter.mpr ⟨hx, ?_⟩, rfl⟩
      exact isInside_of_plain (hp _ hx)
    · obtain ⟨⟨path', c'⟩, hmem, heq⟩ := List.mem_map.mp (List.mem_reverse.mp hc)
      have hmem := (List.mem_filter.mp hmem).1
      have ⟨hplace, hcontent⟩ := Prod.mk.inj heq
      have hplain := hp _ hx
      have hplain' := hp _ hmem
      rw [Location.reach_append_eq hplain'.root?_eq_none hplain'.not_mem_steps,
        Location.reach_append_eq hplain.root?_eq_none hplain.not_mem_steps] at hplace
      obtain rfl := (hplain'.steps_inj hplain).mp (List.append_cancel_left hplace)
      exact hcontent ▸ Option.some.inj
        ((lookup_of_nodup hn hmem).symm.trans (lookup_of_nodup hn hx))
  rw [hd.files, Disk.Writes.onto_eq_last?, hlast]
  rfl

/-! The whole -/

-- The result of a run that has installed the modules of a plan, copied some files and had some
-- refused.
def quietResult (p : Schema) (settings : Settings) (id : String) (modules : List String)
    (out : Location) (n copied : Nat) (refused : List (String × String)) : RebuildResult where
  success := true
  output := .text out.text
  projectId := .text id
  generated := n
  copied := copied
  installed := modules.length
  warnings := p.warnings ++ (refused.map refusedWrite).map .text
  nextSteps := (nextSteps out settings (modules.map .text)).map .text

-- Its warnings tell of each file that was refused.
theorem unrefused_quietResult {settings : Settings} {id : String} {modules : List String}
    {n copied : Nat} {refused : List (String × String)}
    (h : Unrefused p (quietResult p settings id modules out n copied refused)) : refused = [] := by
  refine List.eq_nil_iff_forall_not_mem.mpr fun x hx =>
    h (refusedWrite x) ?_ isRefusal_refusedWrite
  rw [quietResult, List.drop_left]
  exact List.mem_map_of_mem (List.mem_map_of_mem hx)

-- A run to whose workers nothing happens, with no program to finish it.
theorem execute_quietly (refused : List (String × String)) {settings : Settings} {kept : Groups}
    {id : String} {modules : List String} {files : Files} {n copied : Nat} {l : Ledger}
    {before opened : Session} {written filled : Disk} (hsettings : settings.NoFinish)
    (hids : p.moduleIds = .ok (modules.map .text))
    (hproduce : Ends (produce .ledger .ledger p.numbered settings kept (modules.map .text) out) {}
      (.ok ⟨.text id, modules.map .text, files, modules.length, []⟩) l)
    (hout : Ends (makeOutput out) before (.ok ()) opened)
    (hwrites : Ends (writeFiles opened.cwd out files) opened.disk
      (.ok (n, refused.map refusedWrite)) written)
    (hcopies : Ends (copyKept opened.cwd out kept) written (.ok (copied, [])) filled) :
    (execute (some .ledger) (some .ledger) p settings out kept).Ends {} before
      (.ok (quietResult p settings id modules out n copied refused)) l
      { opened with disk := filled } := by
  have hmodules : p.moduleIds.mapError Stop.fault = .ok (modules.map .text) := by
    rw [hids]
    rfl
  have hnone : finishing settings = [] := by simp [finishing, hsettings.1, hsettings.2]
  have hfinish : Ends (finish out settings) { opened with disk := filled } (.ok [])
      { opened with disk := filled } := by
    rw [finish, hnone]
    exact (Ends.bind_of_ok (Ends.pure_iff.mpr ⟨rfl, rfl⟩)).mpr (Ends.pure_iff.mpr ⟨rfl, rfl⟩)
  refine (Job.Ends.bind_of_ok (Job.Ends.ofExcept_iff.mpr ⟨hmodules.symm, rfl, rfl⟩)).mpr ?_
  refine (Job.Ends.bind_of_ok (Job.Ends.ofExcept_iff.mpr ⟨rfl, rfl, rfl⟩)).mpr ?_
  refine (Job.Ends.bind_of_ok (Job.Ends.ofAction_iff.mpr ⟨hout, rfl⟩)).mpr ?_
  refine (Job.Ends.bind_of_ok (Job.Ends.ofWork_iff.mpr ⟨hproduce, rfl⟩)).mpr ?_
  refine (Job.Ends.bind_of_ok (Job.Ends.ofAction_iff.mpr
    ⟨Action.change_iff.mpr ⟨written, hwrites, rfl⟩, rfl⟩)).mpr ?_
  refine (Job.Ends.bind_of_ok (Job.Ends.ofAction_iff.mpr
    ⟨Action.change_iff.mpr ⟨filled, hcopies, rfl⟩, rfl⟩)).mpr ?_
  refine (Job.Ends.bind_of_ok (Job.Ends.ofAction_iff.mpr ⟨hfinish, rfl⟩)).mpr ?_
  exact Job.Ends.pure_iff.mpr ⟨by simp [quietResult], rfl, rfl⟩

theorem copyKept_nil {d : Disk} : Ends (copyKept cwd out []) d (.ok (0, [])) d :=
  Ends.pure_iff.mpr ⟨rfl, rfl⟩

-- A plan that was made of a snapshot runs to an end. Where no file is refused, the disk is overridden
-- by the files that its workers make.
theorem exists_perform {s : Snapshot} {o : Options} {settings : Settings} {out : String}
    {before made : Session} (hs : s.Fits) (ho : o.Fits) (hsettings : settings.NoFinish)
    (hout : Ends (makeOutput (.ofText out)) before (.ok ()) made) :
    ∃ (p : Schema) (f : Plan.Frame) (project : ProjectRecord) (cs : Configs) (files : Files)
      (r : RebuildResult) (after : Session),
      Schema.ofSnapshot s o = .ok p ∧ p.Planned f ∧ Produced p f settings [] cs files ∧
      Ends (produce .ledger .ledger p.numbered settings [] (f.modules.map .text) (.ofText out)) {}
        (.ok ⟨.text project.id, f.modules.map .text, files, f.modules.length, []⟩)
        (holding project cs) ∧
      (perform (some .ledger) (some .ledger) p settings out []).Ends {} before (.ok r)
        (holding project cs) after ∧
      r.success ∧ (Unrefused p r →
        made.disk.Overridden (generatedWrites before.cwd (.ofText out) files) after.disk) := by
  have ⟨p, f, hp, hplanned⟩ := Schema.exists_planned hs ho
  obtain ⟨project, cs, files, hproduced, hproduce⟩ :=
    @produce_planned p f (.ofText out) settings [] hplanned
  obtain ⟨opened, hopened, rfl⟩ := makeOutput_ok hout
  obtain ⟨n, refused, filled, hwrites, _⟩ := @exists_writeFiles (.ofText out) before.cwd files
    (Disk.not_hasNull_of_makeFolders hopened) hproduced.plain opened
  have hends := execute_quietly _ hsettings hplanned.moduleIds_eq hproduce hout hwrites copyKept_nil
  refine ⟨p, f, project, cs, files, _, _, hp, hplanned, hproduced, hproduce,
    perform_iff.mpr ⟨_, hends, rfl⟩, rfl, fun hw => ?_⟩
  obtain rfl : refused = [] := unrefused_quietResult hw
  exact (writeFiles_returns hwrites nofun).1

-- A plan that was made of a snapshot runs cleanly, whatever the snapshot and the options are.
--
-- All its modules are installed, the warnings are those of the plan and those about files that the
-- disk refuses, and the database has the tables of the plan. Where no file is refused, the
-- configuration of each module is found as a document of its own.
theorem perform_ofSnapshot {s : Snapshot} {o : Options} {out : String} {before made : Session}
    (hs : s.Typed) (ho : o.Typed) (hout : Ends (makeOutput (.ofText out)) before (.ok ()) made) :
    ∃ (p : Schema) (ids : List Datum) (r : RebuildResult) (l : Ledger) (project : ProjectRecord)
      (after : Session),
      Schema.ofSnapshot s o = .ok p ∧ p.moduleIds = .ok ids ∧
      (perform (some .ledger) (some .ledger) p {} out []).Ends {} before (.ok r) l after ∧
      r.success ∧ r.installed = ids.length ∧ l.find r.projectId = .ok project ∧
      (∃ refused : List (String × String),
        r.warnings = p.warnings ++ (refused.map refusedWrite).map .text) ∧
      (Unrefused p r → r.warnings = p.warnings ∧ ∀ m ∈ ids, ∃ name config content,
        m = .text name ∧ project.config? m = some config ∧ configFile m config = .ok content ∧
        after.disk.content? ((.ofText out ++ .ofText (configPath name) : Location).reach before.cwd) =
          some content.toUTF8.toList) ∧
      (.text "drift" ∈ ids → ∃ config ts, project.config? "drift" = some config ∧
        Dict.get config "tables" (.list []) = .list ts ∧ List.Forall₂ SameTable ts p.tables) := by
  have ⟨p, f, hp, hplanned⟩ := Schema.exists_ofSnapshot hs ho
  obtain ⟨project, cs, files, ⟨hcs, hfurnished, hnodup, hplain, _, hdocuments, _, _⟩, hproduce⟩ :=
    @produce_planned p f (.ofText out) {} [] hplanned
  obtain ⟨opened, hopened, rfl⟩ := makeOutput_ok hout
  have ⟨n, refused, filled, hwrites, _⟩ := @exists_writeFiles (.ofText out) before.cwd files
    (Disk.not_hasNull_of_makeFolders hopened) hplain opened
  have hn : (cs.map Prod.fst).Nodup := hcs ▸ hplanned.modules_nodup
  have hends := execute_quietly _ ⟨rfl, rfl⟩ hplanned.moduleIds_eq hproduce hout hwrites copyKept_nil
  refine ⟨p, f.modules.map .text, _, holding project cs, _, _, hp, hplanned.moduleIds_eq,
    perform_iff.mpr ⟨_, hends, rfl⟩, rfl, ?installed, Ledger.find_holding, ⟨refused, rfl⟩,
    fun hw => ?unrefused, fun hd => ?tables⟩
  case installed => rw [quietResult, List.length_map]
  case unrefused =>
    obtain rfl := unrefused_quietResult hw
    refine ⟨List.append_nil _, fun m hm => ?_⟩
    obtain ⟨name, hname, rfl⟩ := List.mem_map.mp hm
    rw [← hcs] at hname
    obtain ⟨⟨name, config⟩, he, rfl⟩ := List.mem_map.mp hname
    have ⟨content, hcontent, hmem⟩ := hdocuments _ he
    have ⟨hoverridden, _⟩ := writeFiles_returns hwrites nofun
    exact ⟨name, config, content, rfl, Ledger.config?_holding hn he, hcontent,
      content?_of_written hnodup hplain hoverridden hmem⟩
  case tables =>
    obtain ⟨name, hname, htext⟩ := List.mem_map.mp hd
    obtain rfl := Datum.text.inj htext
    rw [← hcs] at hname
    obtain ⟨⟨name, config⟩, he, rfl⟩ := List.mem_map.mp hname
    have ⟨ts, hts, hsame⟩ := (hfurnished _ he).tables rfl
    exact ⟨config, ts, Ledger.config?_holding hn he, hts, hsame⟩

-- Whether the disk can have all files that are made of a plan, and those that it keeps.
def plannedFits (p : Schema) (settings : Settings) (out : String) (kept : Groups) : Bool :=
  (p.moduleIds.toOption.any fun ids =>
    ids.all fun id => FitsIn (.ofText out) (configPath id.shown)) &&
  (extras p.numbered settings kept).toOption.any fun extra =>
    (corePaths ++ Output.sourceOwners.map Prod.fst ++ extra.map Prod.fst ++ keptPaths kept).all
      fun path => FitsIn (.ofText out) path

theorem Produced.fits {settings : Settings} {out : String} {kept : Groups} {cs : Configs}
    {files : Files} (h : Produced p f settings kept cs files) (hplanned : p.Planned f)
    (hfits : plannedFits p settings out kept) :
    ∀ path ∈ files.map Prod.fst ++ keptPaths kept, FitsIn (.ofText out) path := by
  obtain ⟨hids, hextra⟩ := Bool.and_eq_true_iff.mp hfits
  obtain ⟨ids, hids, hnames⟩ := any_toOption.mp hids
  obtain rfl := Except.ok.inj (hids.symm.trans hplanned.moduleIds_eq)
  obtain ⟨extra, hextra, hothers⟩ := any_toOption.mp hextra
  obtain ⟨extra', hextra', hpaths⟩ := h.paths
  obtain rfl := Except.ok.inj (hextra'.symm.trans hextra)
  simp only [List.all_eq_true, decide_eq_true_eq, List.forall_mem_append] at hnames hothers
  obtain ⟨⟨⟨hcore, hsources⟩, hextras⟩, hkept⟩ := hothers
  refine List.forall_mem_append.mpr ⟨fun path hpath => ?_, hkept⟩
  rcases (hpaths path).mp hpath with hpath | ⟨e, he, hpath⟩ | hpath
  case inl => exact hcore path hpath
  case inr.inr => exact hextras path hpath
  case inr.inl =>
    rcases List.mem_cons.mp hpath with rfl | hpath
    case inl =>
      have hname := hnames _ (List.mem_map_of_mem (h.configured ▸ List.mem_map_of_mem he))
      rwa [show (Datum.text e.1).shown = e.1 by simp [Datum.shown, Datum.bare]] at hname
    case inr => exact hsources _ (List.mem_map_of_mem (Output.mem_sourceOwners hpath))

-- A run into an empty folder has no file refused, as long as the disk can have the paths.
theorem exists_perform_fits {s : Snapshot} {o : Options} {settings : Settings} {out : String}
    {kept : Groups} {before made : Session} {base : List String} (hs : s.Fits) (ho : o.Fits)
    (hsettings : settings.NoFinish) (hp : Schema.ofSnapshot s o = .ok p)
    (hout : Ends (makeOutput (.ofText out)) before (.ok ()) made)
    (hroot : made.disk.Rooted before.cwd (.ofText out) base)
    (hempty : ∀ w ≠ [], made.disk.find? (base ++ w) = none)
    (hkept : ∀ path ∈ keptPaths kept, Path.Plain path ∧ Path.IsDotted (Path.steps path))
    (hfits : plannedFits p settings out kept) :
    ∃ (r : RebuildResult) (l : Ledger) (filled : Disk),
      (perform (some .ledger) (some .ledger) p settings out kept).Ends {} before (.ok r) l
        { before with disk := filled } ∧ r.success ∧ r.warnings = p.warnings := by
  have ⟨p', f, hp', hplanned⟩ := Schema.exists_planned hs ho
  obtain rfl := Except.ok.inj (hp'.symm.trans hp)
  obtain ⟨project, cs, files, hproduced, hproduce⟩ :=
    @produce_planned p' f (.ofText out) settings kept hplanned
  have hplain : ∀ path ∈ files.map Prod.fst ++ keptPaths kept, Path.Plain path :=
    List.forall_mem_append.mpr
      ⟨List.forall_mem_map.mpr hproduced.plain, fun path hpath => (hkept path hpath).1⟩
  have hdotted : ∀ path ∈ files.map Prod.fst ++ keptPaths kept, Path.IsDotted (Path.steps path) :=
    List.forall_mem_append.mpr
      ⟨List.forall_mem_map.mpr hproduced.dotted, fun path hpath => (hkept path hpath).2⟩
  have hb := beside_of_fits hplain hdotted (hproduced.fits hplanned hfits)
  obtain ⟨hfiles, hcopied⟩ := List.forall_mem_append.mp fun path hpath =>
    (⟨hplain path hpath, List.mem_map_of_mem hpath⟩ : Path.Plain path ∧ _)
  obtain ⟨opened, hopened, rfl⟩ := makeOutput_ok hout
  obtain ⟨written, hwrites, htakes⟩ := exists_writeFiles_takes hb (hroot.takes hb hempty) hfiles
  obtain ⟨n, filled, hcopies⟩ := exists_copyKept_takes hb htakes hcopied
  have hquiet := execute_quietly [] hsettings hplanned.moduleIds_eq hproduce hout hwrites hcopies
  exact ⟨_, _, filled, perform_iff.mpr ⟨_, hquiet, rfl⟩, rfl, List.append_nil _⟩

theorem unrefused_of_warnings_eq {r : RebuildResult} (h : r.warnings = p.warnings) :
    Unrefused p r := by
  rw [Unrefused, h, List.drop_length]
  exact nofun

-- A project with one model, and options that add a module and leave out others.
def shop : Snapshot :=
  { name := "shop"
    architecture := ⟨"layer-first", 0.6, default, ""⟩
    dependencies := { persistence := "hive", networking := "dio" }
    models := [{
      name := "Order"
      file := "lib/order.dart"
      fields := [⟨"id", "int", false, .null, []⟩] }] }

def shopOptions : Options :=
  { extraModules := .list ["analytics"], excludedModules := .list ["pwa", "design", "api"] }

theorem typed_shop : shop.Typed where
  name := ⟨_, rfl⟩
  description := ⟨_, rfl⟩
  version := ⟨_, rfl⟩
  architecture := ⟨_, rfl⟩
  confidence := by decide +kernel
  state := ⟨_, rfl⟩
  models := List.forall_mem_singleton.mpr {
    name := ⟨_, rfl, by decide +kernel⟩
    file := ⟨_, rfl⟩
    fields := List.forall_mem_singleton.mpr ⟨⟨_, rfl⟩, ⟨_, rfl⟩, .inl rfl, nofun⟩
    relationships := nofun }
  screens := nofun
  widgets := nofun
  theme := nofun

theorem typed_shopOptions : shopOptions.Typed where
  encryption := ⟨_, rfl⟩
  architecture := ⟨_, rfl⟩
  state := ⟨_, rfl⟩
  extraModules := ⟨_, rfl, List.forall_mem_singleton.mpr ⟨_, rfl, by decide +kernel⟩⟩
  excludedModules := ⟨_, rfl, by simp [Datum.IsText]⟩

-- The output folder of a run in an empty working folder.
theorem exists_output_workFolder : ∃ made : Session,
    Ends (makeOutput (.ofText "out")) workFolder (.ok ()) made ∧
      made.disk.Rooted workFolder.cwd (.ofText "out") ["work", "out"] ∧
      ∀ w ≠ [], made.disk.find? (["work", "out"] ++ w) = none := by
  have h : Ends.returnsWith (makeOutput (.ofText "out")) workFolder fun _ made =>
      made.disk.nodes == [(["work"], .folder), (["work", "out"], .folder)] := by
    decide +kernel
  obtain ⟨_, made, hmade, hnodes⟩ := Ends.of_returnsWith h
  have hdisk : made.disk = ⟨[(["work"], .folder), (["work", "out"], .folder)]⟩ :=
    congrArg Disk.mk (eq_of_beq hnodes)
  refine ⟨made, hmade, ?_, fun w hw => ?_⟩
  all_goals rw [hdisk]
  case refine_1 => exact ⟨eq_ok_of_any (by decide +kernel), rfl⟩
  case refine_2 =>
    obtain ⟨name, w, rfl⟩ := List.exists_cons_of_ne_nil hw
    simp [Disk.find?, List.lookup_cons]

theorem warnings_workFolder {s : Snapshot} {o : Options} {r : RebuildResult} {l : Ledger}
    {after : Session} (hs : s.Fits) (ho : o.Fits) (hp : Schema.ofSnapshot s o = .ok p)
    (hfits : plannedFits p {} "out" [])
    (hends : (perform (some .ledger) (some .ledger) p {} "out" []).Ends {} workFolder (.ok r) l
      after) : r.warnings = p.warnings := by
  obtain ⟨made, hout, hroot, hempty⟩ := exists_output_workFolder
  obtain ⟨r', l', filled, hends', -, hwarnings⟩ := exists_perform_fits hs ho
    (show Settings.NoFinish {} from ⟨rfl, rfl⟩) hp hout hroot hempty (List.forall_mem_nil _) hfits
  obtain rfl := Except.ok.inj (hends.unique hends').1
  exact hwarnings

theorem perform_ofSnapshot_shop :
    ∃ (p : Schema) (r : RebuildResult) (l : Ledger) (project : ProjectRecord) (after : Session)
      (config : Dict) (content : String) (ts : List Datum),
      Schema.ofSnapshot shop shopOptions = .ok p ∧
      (perform (some .ledger) (some .ledger) p {} "out" []).Ends {} workFolder (.ok r) l after ∧
      r.success ∧ r.installed = 3 ∧ r.warnings = p.warnings ∧
      l.find r.projectId = .ok project ∧ project.config? "drift" = some config ∧
      configFile "drift" config = .ok content ∧
      after.disk.content? ["work", "out", "config", "modules", "drift.yaml"] =
        some content.toUTF8.toList ∧
      Dict.get config "tables" (.list []) = .list ts ∧ List.Forall₂ SameTable ts p.tables := by
  have h : (Schema.ofSnapshot shop shopOptions).toOption.any fun p =>
      (p.moduleIds.toOption.any fun ids => ids.length == 3 && ids.any (·.same "drift")) &&
      plannedFits p {} "out" [] := by
    decide +kernel
  obtain ⟨made, hout, _⟩ := exists_output_workFolder
  obtain ⟨p, ids, r, l, project, after, hp, hids, hends, hsuccess, hinstalled, hproject, _, hclean,
    htables⟩ := perform_ofSnapshot typed_shop typed_shopOptions hout
  obtain ⟨p', hp', h⟩ := any_toOption.mp h
  obtain rfl := Except.ok.inj (hp'.symm.trans hp)
  obtain ⟨hmodules, hfits⟩ := Bool.and_eq_true_iff.mp h
  obtain ⟨ids', hids', h⟩ := any_toOption.mp hmodules
  obtain rfl := Except.ok.inj (hids'.symm.trans hids)
  obtain ⟨hlength, hdrift⟩ := Bool.and_eq_true_iff.mp h
  have hwarnings := warnings_workFolder typed_shop.fits typed_shopOptions.fits hp hfits hends
  obtain ⟨-, hconfigs⟩ := hclean (unrefused_of_warnings_eq hwarnings)
  obtain ⟨m, hm, hdrift⟩ := List.any_eq_true.mp hdrift
  obtain ⟨name, config, content, rfl, hconfig, hcontent, hfound⟩ := hconfigs m hm
  obtain rfl := eq_of_beq (Datum.same_text ▸ hdrift)
  obtain ⟨config', ts, hconfig', hts, hsame⟩ := htables hm
  obtain rfl := Option.some.inj (hconfig.symm.trans hconfig')
  have hplace : (.ofText "out" ++ .ofText (configPath "drift") : Location).reach workFolder.cwd =
      ["work", "out", "config", "modules", "drift.yaml"] := by
    decide +kernel
  exact ⟨p', r, l, project, after, config, content, ts, hp, hends, hsuccess,
    hinstalled.trans (congrArg _ (eq_of_beq hlength)), hwarnings, hproject, hconfig, hcontent,
    hplace ▸ hfound, hts, hsame⟩

end Rebuild

end Refit
