import Refit.Proofs.Rebuild.Generation
import Refit.Proofs.Rebuild.Writing

/-!
A plan that is carried out: the disk afterwards is the disk before, with the generated files written
over it and then the kept ones.
-/

namespace Refit

-- Settings by which no program runs once the files are written.
def Settings.NoFinish (settings : Settings) : Prop :=
  settings.createsFlutter = false ∧ settings.formats = false

namespace Rebuild

variable {σ : Type} {s : Schema} {settings : Settings} {kept : Groups} {out : Location}
  {st st' : σ} {before after : Session} {r : RebuildResult}

-- How workers make the files of a plan: the project is entered and its modules are configured,
-- the engine answers for the project and then for each configured module, and the other files
-- are added.
structure Made (engine : Engine σ) (caller : Caller σ) (s : Schema) (settings : Settings)
    (kept : Groups) (modules : List Datum) (st st' : σ) where
  project : Datum
  entered : σ
  created : Ends (engine.create s.definition) st (.ok project) entered
  entries : Dict
  entries_eq : entriesOf s = .ok entries
  configured : List Datum
  warnings : List String
  prepared : σ
  configures : Ends (configure engine caller s entries project modules) entered
    (.ok (configured, warnings)) prepared
  core : Except Stop Files
  answers : List (Except Stop Files)
  answered :
    Answers engine project (none :: configured.map some) prepared (core :: answers) st'
  extra : Extra (s.map (engine.current st')) settings kept

namespace Made

variable {engine : Engine σ} {caller : Caller σ} {modules : List Datum}

-- All files that are made, in turn.
def sources (m : Made engine caller s settings kept modules st st') : Files :=
  filesOf m.core ++ m.answers.flatMap filesOf ++ m.extra.all

-- The files to be written: at each path the last one that is made.
def files (m : Made engine caller s settings kept modules st st') : Files :=
  Files.putAll [] m.sources

end Made

theorem produce_returns {engine : Engine σ} {caller : Caller σ} {modules : List Datum}
    {p : Product}
    (h : Ends (produce engine caller s settings kept modules out) st (.ok p) st') :
    ∃ m : Made engine caller s settings kept modules st st',
      p.project = m.project ∧ p.configured = m.configured ∧ p.files = m.files ∧
        p.installed = m.answers.countP (·.isOk) ∧
        ∃ ws, warningsOf "generation" (ungenerated m.configured m.answers) = .ok ws ∧
          p.warnings = m.warnings ++ (coreWarnings m.core ++ ws) := by
  rw [produce] at h
  have ⟨project, t, hcreate, h⟩ := Ends.bind_ok_iff.mp h
  have ⟨entries, t', hread, h⟩ := Ends.bind_ok_iff.mp h
  have ⟨⟨configured, ws⟩, u, hconf, h⟩ := Ends.bind_ok_iff.mp h
  have ⟨⟨files, n, ws'⟩, v, hgen, h⟩ := Ends.bind_ok_iff.mp h
  have ⟨extra, v', hread', h⟩ := Ends.bind_ok_iff.mp (Ends.get_bind_iff.mp h)
  obtain ⟨hp, rfl⟩ := Ends.pure_ok_iff.mp h
  obtain ⟨hentries, rfl⟩ := Work.ofRead_ok_iff.mp hread
  obtain ⟨hextra, rfl⟩ := Work.ofRead_ok_iff.mp hread'
  obtain ⟨core, answers, vs, hanswers, rfl, hn, hvs, rfl⟩ := generate_returns hgen
  obtain ⟨e, rfl⟩ := extras_returns hextra
  refine ⟨⟨project, t', Ends.mapError_ok_iff.mp hcreate, entries, hentries, configured, ws, u, hconf,
    core, answers, hanswers, e⟩, ?_⟩
  rw [hp]
  exact ⟨rfl, rfl, Files.putAll_append.symm, hn, vs, hvs, rfl⟩

theorem makeOutput_ok (h : Ends (makeOutput out) before (.ok ()) after) :
    ∃ d, Ends (Disk.makeFolders before.cwd out) before.disk (.ok ()) d ∧
      after = { before with disk := d } := by
  rw [makeOutput, Ends.tryCatch_iff] at h
  rcases h with ⟨_, _, h⟩ | ⟨e, t, _, h⟩
  case inl => exact Action.change_iff.mp h
  case inr => split at h <;> cases (Ends.throw_iff.mp h).1

theorem makeOutput_returns (h : Ends (makeOutput out) before (.ok ()) after) :
    ∃ d, before.disk.Overridden [] d ∧ after = { before with disk := d } :=
  have ⟨d, hd, ha⟩ := makeOutput_ok h
  ⟨d, Disk.makeFolders_stays _ _ _ hd, ha⟩

theorem finish_of_noFinish {ws : List String} (hs : settings.NoFinish)
    (h : Ends (finish out settings) before (.ok ws) after) : ws = [] ∧ after = before := by
  have hnone : finishing settings = [] := by simp [finishing, hs.1, hs.2]
  rw [finish, hnone, List.mapM_nil] at h
  have ⟨_, _, hp, h⟩ := Ends.bind_ok_iff.mp h
  obtain ⟨rfl, rfl⟩ := Ends.pure_ok_iff.mp hp
  obtain ⟨hw, rfl⟩ := Ends.pure_ok_iff.mp h
  exact ⟨hw, rfl⟩

-- The phases of a run that returns: the workers make the files, the output folder is there, the
-- files are written, the kept ones are copied, and programs finish the project.
structure Ran (engine : Option (Engine σ)) (caller : Option (Caller σ)) (s : Schema)
    (settings : Settings) (out : Location) (kept : Groups) (st st' : σ) (before after : Session)
    (r : RebuildResult) where
  modules : List Datum
  modules_eq : s.moduleIds = .ok modules
  worker : Engine σ
  tools : Caller σ
  workers : checkWorkers engine caller modules out = .ok (worker, tools)
  made : Made worker tools s.numbered settings kept modules st st'
  failedModules : List String
  failedModules_eq :
    warningsOf "generation" (ungenerated made.configured made.answers) = .ok failedModules
  opened : Disk
  opens : before.disk.Overridden [] opened
  filled : Disk
  refusedWrites : List String
  generated : Nat
  generated_eq : r.generated = generated
  writes : Ends (writeFiles before.cwd out made.files) opened (.ok (generated, refusedWrites)) filled
  done : Disk
  refusedCopies : List String
  copied : Nat
  copied_eq : r.copied = copied
  copies : Ends (copyKept before.cwd out kept) filled (.ok (copied, refusedCopies)) done
  failedPrograms : List String
  finishes : Ends (finish out settings) { before with disk := done } (.ok failedPrograms) after
  installed_eq : r.installed = made.answers.countP (·.isOk)
  warnings_eq : r.warnings = s.warnings ++ (made.warnings ++ (coreWarnings made.core ++ failedModules)
    ++ refusedWrites ++ refusedCopies ++ failedPrograms).map .text

theorem execute_returns {engine : Option (Engine σ)} {caller : Option (Caller σ)}
    (h : (execute engine caller s settings out kept).Ends st before (.ok r) st' after) :
    Nonempty (Ran engine caller s settings out kept st st' before after r) := by
  rw [execute] at h
  have ⟨modules, _, _, j₁, h₁⟩ := Job.Ends.bind_ok_iff.mp h
  obtain ⟨hmodules, rfl, rfl⟩ := Job.Ends.ofExcept_iff.mp j₁
  have ⟨⟨e, c⟩, _, _, j₂, h₂⟩ := Job.Ends.bind_ok_iff.mp h₁
  obtain ⟨hworkers, rfl, rfl⟩ := Job.Ends.ofExcept_iff.mp j₂
  have ⟨_, _, _, j₃, h₃⟩ := Job.Ends.bind_ok_iff.mp h₂
  obtain ⟨hout, rfl⟩ := Job.Ends.ofAction_iff.mp j₃
  obtain ⟨opened, hopened, rfl⟩ := makeOutput_returns hout
  rw [fill] at h₃
  have ⟨p, _, _, j₄, h₄⟩ := Job.Ends.bind_ok_iff.mp h₃
  obtain ⟨hmade, rfl⟩ := Job.Ends.ofWork_iff.mp j₄
  have ⟨m, _, _, hfiles, hinstalled, failed, hfailed, hwarnings⟩ := produce_returns hmade
  have ⟨⟨n, ws⟩, _, _, j₅, h₅⟩ := Job.Ends.bind_ok_iff.mp h₄
  obtain ⟨hchange, rfl⟩ := Job.Ends.ofAction_iff.mp j₅
  obtain ⟨filled, hwrite, rfl⟩ := Action.change_iff.mp hchange
  have ⟨⟨n', ws'⟩, _, _, j₆, h₆⟩ := Job.Ends.bind_ok_iff.mp h₅
  obtain ⟨hchange', rfl⟩ := Job.Ends.ofAction_iff.mp j₆
  obtain ⟨done, hcopy, rfl⟩ := Action.change_iff.mp hchange'
  have ⟨ws'', _, _, j₇, h₇⟩ := Job.Ends.bind_ok_iff.mp h₆
  obtain ⟨hfinish, rfl⟩ := Job.Ends.ofAction_iff.mp j₇
  obtain ⟨hr, rfl, rfl⟩ := Job.Ends.pure_iff.mp h₇
  have hr := Except.ok.inj hr
  refine ⟨⟨modules, mapError_eq_ok.mp hmodules.symm, e, c, hworkers.symm, m, failed, hfailed, opened,
    hopened, filled, ws, n, hr ▸ rfl, hfiles ▸ hwrite, done, ws', n', hr ▸ rfl, hcopy, ws'', hfinish,
    ?installed, ?warnings⟩⟩
  case installed => rw [hr, ← hinstalled]
  case warnings => rw [hr, ← hwarnings]

-- The warnings that a run adds to those of its plan tell of no file that was refused.
def Unrefused (s : Schema) (r : RebuildResult) : Prop :=
  ∀ w, .text w ∈ r.warnings.drop s.warnings.length → ¬isRefusal w

-- They tell of no file that could not be copied.
def Copied (s : Schema) (r : RebuildResult) : Prop :=
  ∀ w, .text w ∈ r.warnings.drop s.warnings.length → ¬isCopyRefusal w

theorem Unrefused.copied (h : Unrefused s r) : Copied s r :=
  fun w hw hc => h w hw (isRefusal_of_isCopyRefusal hc)

namespace Ran

variable {engine : Option (Engine σ)} {caller : Option (Caller σ)}

theorem after_eq (x : Ran engine caller s settings out kept st st' before after r)
    (hs : settings.NoFinish) : after = { before with disk := x.done } :=
  (finish_of_noFinish hs x.finishes).2

theorem warnings_sub (x : Ran engine caller s settings out kept st st' before after r) :
    ∀ w ∈ x.refusedWrites ++ x.refusedCopies, .text w ∈ r.warnings.drop s.warnings.length := by
  intro w hw
  rw [x.warnings_eq, List.drop_left]
  refine List.mem_map_of_mem (List.mem_append_left _ ?_)
  rw [List.append_assoc]
  exact List.mem_append_right _ hw

theorem writes_overridden (x : Ran engine caller s settings out kept st st' before after r)
    (hw : Unrefused s r) :
    x.opened.Overridden (generatedWrites before.cwd out x.made.files) x.filled ∧
      x.generated = (generatedWrites before.cwd out x.made.files).length :=
  writeFiles_returns x.writes fun w h => hw w (x.warnings_sub w (List.mem_append_left _ h))

theorem copies_overridden (x : Ran engine caller s settings out kept st st' before after r)
    (hw : Copied s r) :
    x.filled.Overridden (keptWrites before.cwd out kept) x.done ∧
      x.copied = (keptWrites before.cwd out kept).length :=
  copyKept_returns x.copies fun w h => hw w (x.warnings_sub w (List.mem_append_right _ h))

end Ran

-- The disk after a run: what was there, overridden by the files that were made, overridden by the
-- files that are kept.
theorem execute_overrides {engine : Option (Engine σ)} {caller : Option (Caller σ)}
    (hs : settings.NoFinish)
    (h : (execute engine caller s settings out kept).Ends st before (.ok r) st' after)
    (hw : Unrefused s r) :
    ∃ (modules : List Datum) (worker : Engine σ) (tools : Caller σ)
      (m : Made worker tools s.numbered settings kept modules st st'),
      s.moduleIds = .ok modules ∧ m.configured.Sublist modules ∧
      checkWorkers engine caller modules out = .ok (worker, tools) ∧
      before.disk.Overridden
        (generatedWrites before.cwd out m.files ++ keptWrites before.cwd out kept) after.disk ∧
      after = { before with disk := after.disk } ∧
      (m.files.map Prod.fst).Nodup ∧
      (∀ path, m.files.lookup path = m.sources.reverse.lookup path) ∧
      r.generated = (generatedWrites before.cwd out m.files).length ∧
      r.copied = (keptWrites before.cwd out kept).length ∧
      r.installed = m.answers.countP (·.isOk) := by
  have ⟨x⟩ := execute_returns h
  have ⟨hgenerated, hn⟩ := x.writes_overridden hw
  have ⟨hkept, hn'⟩ := x.copies_overridden hw.copied
  have hdisk : after.disk = x.done := congrArg Session.disk (x.after_eq hs)
  refine ⟨x.modules, x.worker, x.tools, x.made, x.modules_eq, configure_sublist x.made.configures,
    x.workers, ?disk, ?rest, Files.nodup_putAll List.nodup_nil, fun path => ?last, ?_, ?_,
    x.installed_eq⟩
  case disk => exact hdisk ▸ (x.opens.trans hgenerated).trans hkept
  case rest => exact hdisk ▸ x.after_eq hs
  case last => rw [Made.files, Files.lookup_putAll, List.lookup_nil, Option.or_none]
  · rw [x.generated_eq, hn]
  · rw [x.copied_eq, hn']

/-! Reporting -/

-- What is reported of a run.
def reported (s : Schema) (out : String) : Except Stop RebuildResult → Except Stop RebuildResult
  | .ok r => .ok r
  | .error (.failure f) =>
    .ok { success := false, output := .text out, warnings := s.warnings, error := .text f.message }
  | .error e => .error e

section

variable {engine : Option (Engine σ)} {caller : Option (Caller σ)} {out : String}
  {q : Except Stop RebuildResult}

theorem perform_iff :
    (perform engine caller s settings out kept).Ends st before q st' after ↔
      ∃ x, (execute engine caller s settings (.ofText out) kept).Ends st before x st' after ∧
        q = reported s out x := by
  have ⟨x, t, u, hx⟩ :=
    Job.Ends.exists_ends (execute engine caller s settings (.ofText out) kept) st before
  have hp : (perform engine caller s settings out kept).Ends st before (reported s out x) t u := by
    rw [perform, Job.Ends.bind_of_ok (Job.Ends.outcome_iff.mpr hx)]
    split
    · exact Job.Ends.pure_iff.mpr ⟨rfl, rfl, rfl⟩
    · exact Job.Ends.pure_iff.mpr ⟨rfl, rfl, rfl⟩
    case h_3 e he => exact Job.Ends.throw_iff.mpr ⟨by cases e <;> simp_all [reported], rfl, rfl⟩
  constructor
  case mp =>
    intro h
    obtain ⟨rfl, rfl, rfl⟩ := h.unique hp
    exact ⟨x, hx, rfl⟩
  case mpr =>
    rintro ⟨y, hy, rfl⟩
    obtain ⟨rfl, rfl, rfl⟩ := hy.unique hx
    exact hp

-- A failure is reported by a result without success.
theorem execute_of_success
    (h : (perform engine caller s settings out kept).Ends st before (.ok r) st' after)
    (hr : r.success) :
    (execute engine caller s settings (.ofText out) kept).Ends st before (.ok r) st' after := by
  have ⟨x, hx, hq⟩ := perform_iff.mp h
  rw [reported.eq_def] at hq
  split at hq
  case h_1 => exact hq ▸ hx
  case h_2 => simp [Except.ok.inj hq] at hr
  case h_3 => cases hq

theorem standard_iff :
    Ends (standard s settings out kept) before q after ↔
      ∃ l, (perform (some .ledger) (some .ledger) s settings out kept).Ends
        {} before q l after := by
  constructor
  · intro h
    have ⟨hq, hs⟩ := Ends.iff_eqs.mp h
    exact ⟨_, Job.Ends.iff_eqs.mpr ⟨hq, rfl, hs⟩⟩
  · rintro ⟨l, h⟩
    have ⟨hq, _, hs⟩ := Job.Ends.iff_eqs.mp h
    exact Ends.iff_eqs.mpr ⟨hq, hs⟩

end

/-! A small run -/

-- A plan with one module and one model.
def smallPlan : Schema :=
  { definition := [(.text "name", .text "demo"),
      (.text "modules", .list [.record [("id", .text "state")]])]
    models := [.record [("source", .text "lib/models/user.dart"), ("name", .text "User")]] }

def keptHome : Groups :=
  [("screens", [⟨"lib/screens/home_screen.dart", "class HomeScreen \x7b\x7d\n"⟩])]

def workFolder : Session :=
  { disk := ⟨[(["work"], .folder)]⟩, cwd := ["work"], home := [], temp := [] }

theorem execute_overrides_smallPlan :
    ∃ (st' : Ledger) (after : Session) (r : RebuildResult),
      (execute (some .ledger) (some .ledger) smallPlan { tests := true } (.ofText "out")
        keptHome).Ends {} workFolder (.ok r) st' after ∧
      r.generated = 8 ∧
      ∃ (modules : List Datum) (worker : Engine Ledger) (tools : Caller Ledger)
        (m : Made worker tools smallPlan.numbered { tests := true } keptHome modules {} st'),
        workFolder.disk.Overridden
          (generatedWrites ["work"] (.ofText "out") m.files ++
            keptWrites ["work"] (.ofText "out") keptHome) after.disk ∧
        (generatedWrites ["work"] (.ofText "out") m.files).length = 8 := by
  have h : Job.Ends.returnsWith (execute (some .ledger) (some .ledger) smallPlan { tests := true }
      (.ofText "out") keptHome) {} workFolder fun r _ => r.warnings.isEmpty && r.generated == 8 := by
    decide +kernel
  have ⟨r, st', after, hends, hp⟩ := Job.Ends.of_returnsWith h
  simp only [Bool.and_eq_true, List.isEmpty_iff, beq_iff_eq] at hp
  have hw : Unrefused smallPlan r := fun w hm => by simp [hp.1] at hm
  have ⟨modules, worker, tools, m, _, _, _, hd, _, _, _, hn, _⟩ :=
    execute_overrides ⟨rfl, rfl⟩ hends hw
  exact ⟨st', after, r, hends, hp.2, modules, worker, tools, m, hd, by
    exact Int.ofNat_inj.mp (hn.symm.trans hp.2)⟩

end Rebuild

end Refit
