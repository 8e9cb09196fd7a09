import Refit.Proofs.Rebuild.Events
import Refit.Proofs.Rebuild.Execution
import Refit.Proofs.Rebuild.Turns

/-!
The account of a rebuild: what the workers were asked for and in which order, what became of each
module, and what the warnings tell of.
-/

namespace Refit.Rebuild

variable {σ α β : Type} {engine : Engine σ} {caller : Caller σ} {s : Schema} {entries : Dict}
  {settings : Settings} {kept : Groups} {project : Datum} {modules : List Datum} {st st' t u : σ}
  {log log' : List Event}

/-! Fates -/

-- What becomes of a module.
inductive Fate
  | unconfigured (reason : String)
  | ungenerated (reason : String)
  | installed
  deriving DecidableEq

namespace Fate

def unconfigured? : Fate → Option String
  | unconfigured reason => some reason
  | _ => none

def ungenerated? : Fate → Option String
  | ungenerated reason => some reason
  | _ => none

end Fate

namespace Turn

-- What becomes of a module, given its turn and the files that the engine answers with afterwards.
def fate (x : Turn (Except Stop Files)) : Fate :=
  match x.ending with
  | .malformed f => .unconfigured f.message
  | .refused c a => .unconfigured (refusal c a)
  | .unapplied _ e => .unconfigured e.message
  | .applied _ (.error e) => .ungenerated e.message
  | .applied _ (.ok _) => .installed

-- What the workers are asked for in a turn.
def events (project : Datum) (x : Turn α) : List Event :=
  x.issued.map (fun p => .called p.1 p.2) ++
    (x.application.map fun a => .applied project x.module a.1 a.2).toList

-- The request for the files of a module, if it is configured.
def request? (project : Datum) (x : Turn (Except Stop Files)) : Option Event :=
  x.next?.map (.asked project (some x.module))

theorem unconfigured?_eq {x : Turn (Except Stop Files)} :
    x.unconfigured? = x.fate.unconfigured?.map (x.module, ·) := by
  rcases x with ⟨_, _, _ | _ | _ | ⟨_, _ | _⟩⟩ <;> rfl

theorem ungenerated_eq {xs : List (Turn (Except Stop Files))} :
    ungenerated (xs.filterMap configured?) (xs.filterMap next?) =
      xs.filterMap fun x => x.fate.ungenerated?.map (x.module, ·) := by
  induction xs
  case nil => rfl
  case cons x xs ih =>
    rcases x with ⟨_, _, _ | _ | _ | ⟨_, _ | _⟩⟩
    case applied.error => exact congrArg _ ih
    all_goals exact ih

theorem countP_isOk {xs : List (Turn (Except Stop Files))} :
    (xs.filterMap next?).countP (·.isOk) = xs.countP (·.fate = .installed) := by
  induction xs
  case nil => rfl
  case cons x xs ih =>
    rcases x with ⟨_, _, _ | _ | _ | ⟨_, _ | _⟩⟩
    all_goals
      rw [List.countP_cons, ← ih]
      first
        | rfl
        | exact List.countP_cons

end Turn

/-! Noting -/

theorem Called.of_noted {xs : List (ToolCall × Except Stop Datum)}
    (h : Called caller.noted xs (t, log) (u, log')) :
    Called caller xs t u ∧ log' = log ++ xs.map fun p => .called p.1 p.2 := by
  induction xs generalizing t log
  case nil =>
    cases h
    exact ⟨.nil, (List.append_nil _).symm⟩
  case cons x xs ih =>
    rcases h with _ | @⟨_, _, _, _, ⟨v, log₁⟩, _, hcall, hrest⟩
    obtain ⟨hcall', rfl⟩ := Work.noted_iff.mp hcall
    obtain ⟨hrest', rfl⟩ := ih hrest
    exact ⟨.cons hcall' hrest', List.append_assoc ..⟩

theorem Applies.of_noted {module : Datum} {a : Option (Dict × Except Stop Unit)}
    (h : Applies engine.noted project module a (t, log) (u, log')) :
    Applies engine project module a t u ∧
      log' = log ++ (a.map fun a => .applied project module a.1 a.2).toList := by
  cases a
  case none =>
    cases h
    exact ⟨rfl, (List.append_nil _).symm⟩
  case some => exact Work.noted_iff.mp h

-- Tools that note down their calls, or that are not called by the modules of a plan.
def Notes (tools : Caller (σ × List Event)) (caller : Caller σ) (modules : List Datum) : Prop :=
  tools = caller.noted ∨ ∀ m ∈ modules, Schema.needsTools m = false

theorem Turns.of_noted {tools : Caller (σ × List Event)} {xs : List (Turn α)}
    (hn : Notes tools caller (xs.map Turn.module))
    (h : Turns engine.noted tools s entries project xs (t, log) (u, log')) :
    Turns engine caller s entries project xs t u ∧
      log' = log ++ xs.flatMap (Turn.events project) := by
  induction xs generalizing t log
  case nil =>
    cases h
    exact ⟨.nil, (List.append_nil _).symm⟩
  case cons x xs ih =>
    rcases h with _ | @⟨_, _, _, ⟨v, log₁⟩, ⟨w, log₂⟩, _, hfollows, hcalled, happlied, hrest⟩
    have ⟨hcalled', hlog₁⟩ : Called caller x.issued t v ∧
        log₁ = log ++ x.issued.map fun p => .called p.1 p.2 := by
      rcases hn with rfl | hn
      case inl => exact hcalled.of_noted
      case inr =>
        have hnone : x.issued = [] := by
          rw [Schema.calls_of_not_needsTools (hn x.module (.head _))] at hfollows
          exact Turn.issued_eq_nil hfollows
        rw [hnone] at hcalled ⊢
        cases hcalled
        exact ⟨.nil, (List.append_nil _).symm⟩
    obtain ⟨happlied', rfl⟩ := happlied.of_noted
    obtain ⟨hrest', rfl⟩ := ih (hn.imp_right fun h m hm => h m (.tail _ hm)) hrest
    refine ⟨.cons hfollows hcalled' happlied' hrest', ?_⟩
    rw [hlog₁, List.flatMap_cons, Turn.events]
    simp only [List.append_assoc]

theorem Answers.of_noted {ws : List (Option Datum)} {rs : List (Except Stop Files)}
    (h : Answers engine.noted project ws (t, log) rs (u, log')) :
    Answers engine project ws t rs u ∧ log' = log ++ ws.zipWith (.asked project) rs := by
  induction ws generalizing t log rs
  case nil =>
    cases h
    exact ⟨.nil, (List.append_nil _).symm⟩
  case cons w ws ih =>
    rcases h with _ | @⟨_, _, r, rs, _, ⟨v, log₁⟩, _, hasked, hrest⟩
    obtain ⟨hasked', rfl⟩ := Work.noted_iff.mp hasked
    obtain ⟨hrest', rfl⟩ := ih hrest
    exact ⟨.cons hasked' hrest', List.append_assoc ..⟩

theorem workers_of_noted {engine : Option (Engine σ)} {caller : Option (Caller σ)}
    {out : Location} {e' : Engine (σ × List Event)} {c' : Caller (σ × List Event)}
    (h : checkWorkers (engine.map .noted) (caller.map .noted) modules out = .ok (e', c')) :
    ∃ e c, checkWorkers engine caller modules out = .ok (e, c) ∧ e' = e.noted ∧
      Notes c' c modules := by
  cases engine
  case none => cases h
  case some e =>
    cases caller
    case some c =>
      obtain ⟨rfl, rfl⟩ := Prod.mk.inj (Except.ok.inj h)
      exact ⟨e, c, rfl, rfl, .inl rfl⟩
    case none =>
      by_cases hneeding : (modules.filter Schema.needsTools).isEmpty
      case pos =>
        simp only [checkWorkers, hneeding, Option.map] at h
        obtain ⟨rfl, rfl⟩ := Prod.mk.inj (Except.ok.inj h)
        refine ⟨e, fun _ => return .null, by simp only [checkWorkers, hneeding]; rfl, rfl, .inr ?_⟩
        intro m hm
        exact Bool.eq_false_iff.mpr (List.filter_eq_nil_iff.mp (List.isEmpty_iff.mp hneeding) m hm)
      case neg => simp [checkWorkers, hneeding] at h

/-! The account -/

-- The account of what workers do for a plan: the project is entered, each module has its turn, and
-- only then the engine is asked for files, of the project and of each module that is configured.
structure Account (engine : Engine σ) (caller : Caller σ) (s : Schema) (settings : Settings)
    (kept : Groups) (modules : List Datum) (st st' : σ) where
  project : Datum
  entered : σ
  created : Ends (engine.create s.definition) st (.ok project) entered
  entries : Dict
  entries_eq : entriesOf s = .ok entries
  turns : List (Turn (Except Stop Files))
  modules_eq : turns.map Turn.module = modules
  prepared : σ
  taken : Turns engine caller s entries project turns entered prepared
  core : Except Stop Files
  answered : Answers engine project (none :: (turns.filterMap Turn.configured?).map some) prepared
    (core :: turns.filterMap Turn.next?) st'
  extra : Extra (s.map (engine.current st')) settings kept

namespace Account

-- What the workers are asked for, from first to last.
def events (a : Account engine caller s settings kept modules st st') : List Event :=
  .entered s.definition (.ok a.project) :: a.turns.flatMap (Turn.events a.project) ++
    .asked a.project none a.core :: a.turns.filterMap (Turn.request? a.project)

-- The modules that are not configured, each with the reason.
def unconfigured (a : Account engine caller s settings kept modules st st') :
    List (Datum × String) :=
  a.turns.filterMap fun x => x.fate.unconfigured?.map (x.module, ·)

-- The modules that are configured but have no files, each with the reason.
def ungenerated (a : Account engine caller s settings kept modules st st') :
    List (Datum × String) :=
  a.turns.filterMap fun x => x.fate.ungenerated?.map (x.module, ·)

-- How many modules are installed.
def installed (a : Account engine caller s settings kept modules st st') : Nat :=
  a.turns.countP (·.fate = .installed)

-- The files to be written: at each path the last one that is made.
def files (a : Account engine caller s settings kept modules st st') : Files :=
  Files.putAll [] (filesOf a.core ++ (a.turns.filterMap Turn.next?).flatMap filesOf ++ a.extra.all)

-- Every module has one fate.
theorem total (a : Account engine caller s settings kept modules st st') :
    a.installed + a.unconfigured.length + a.ungenerated.length = modules.length := by
  have h (xs : List (Turn (Except Stop Files))) :
      xs.countP (·.fate = .installed) +
        (xs.filterMap fun x => x.fate.unconfigured?.map (x.module, ·)).length +
        (xs.filterMap fun x => x.fate.ungenerated?.map (x.module, ·)).length = xs.length := by
    induction xs
    case nil => rfl
    case cons x xs ih =>
      cases hx : x.fate
      all_goals
        simp only [List.countP_cons, List.filterMap_cons, hx, Fate.unconfigured?, Fate.ungenerated?,
          Option.map, List.length_cons, ← ih]
        grind
  have hlength : a.turns.length = modules.length := by
    simpa using congrArg List.length a.modules_eq
  exact (h a.turns).trans hlength

end Account

-- Nothing of a plan is malformed that is well formed throughout.
theorem Turns.not_malformed {xs : List (Turn α)} {x : Turn α} {f : Fault}
    (hs : ∀ t, s.WellFormed (engine.current t))
    (h : Turns engine caller s entries project xs t u) (hx : x ∈ xs) : x.ending ≠ .malformed f := by
  induction h
  case nil => cases hx
  case cons y ys t u _ _ hfollows _ _ _ ih =>
    rcases List.mem_cons.mp hx with rfl | hx
    · intro hending
      have ⟨_, hending'⟩ := hfollows
      rw [hending] at hending'
      exact hending'.1 ⟨hs t, hs u⟩
    · exact ih hx

theorem Answers.length_eq {ws : List (Option Datum)} {rs : List (Except Stop Files)}
    (h : Answers engine project ws t rs u) : rs.length = ws.length := by
  induction h
  case nil => rfl
  case cons ih => exact congrArg (· + 1) ih

theorem zipWith_asked {xs : List (Turn (Except Stop Files))} :
    ((xs.filterMap Turn.configured?).map some).zipWith (.asked project)
      (xs.filterMap Turn.next?) = xs.filterMap (Turn.request? project) := by
  induction xs
  case nil => rfl
  case cons x xs ih =>
    rcases x with ⟨_, _, _ | _ | _ | _⟩
    case applied => exact congrArg _ ih
    all_goals exact ih

-- What noted workers make of a plan is what the workers make of it, and their notes account for it.
theorem Made.exists_account {tools : Caller (σ × List Event)} (hn : Notes tools caller modules)
    (m : Made engine.noted tools s settings kept modules (st, []) (st', log)) :
    ∃ a : Account engine caller s settings kept modules st st', log = a.events ∧
      a.core = m.core ∧ a.files = m.files ∧ a.installed = m.answers.countP (·.isOk) ∧
      warningsOf "configuration" a.unconfigured = .ok m.warnings ∧
      a.ungenerated = Rebuild.ungenerated m.configured m.answers := by
  obtain ⟨project, ⟨entered, log₁⟩, hcreated, entries, hentries, configured, ws, ⟨prepared, log₂⟩,
    hconfigures, core, answers, hanswered, extra⟩ := m
  obtain ⟨hcreated', rfl⟩ := Work.noted_iff.mp hcreated
  obtain ⟨hanswered', rfl⟩ := hanswered.of_noted
  have hlength : answers.length = configured.length := by simpa using hanswered.length_eq
  obtain ⟨ys, rfl, rfl, hwarnings, rfl, htaken⟩ := configure_turns hentries hconfigures hlength
  obtain ⟨htaken', rfl⟩ := htaken.of_noted hn
  have hunconfigured : ys.filterMap Turn.unconfigured? =
      ys.filterMap fun x => x.fate.unconfigured?.map (x.module, ·) :=
    congrArg (List.filterMap · ys) (funext fun _ => Turn.unconfigured?_eq)
  rw [hunconfigured] at hwarnings
  refine ⟨⟨project, entered, hcreated', entries, hentries, ys, rfl, prepared, htaken', core,
    hanswered', extra⟩, ?_, rfl, rfl, Turn.countP_isOk.symm, hwarnings, Turn.ungenerated_eq.symm⟩
  rw [List.zipWith_cons_cons, zipWith_asked]
  rfl

-- A run that returns is accounted for.
--
-- The notes of the workers are those of the account: in the turn of a module its calls are made up to
-- the first that is refused, it is configured if none is, and files are asked for once all modules
-- had their turns. A module is installed, or else one warning tells of it. What cannot be read of a
-- plan costs a module its turn as well, but nothing of a well formed plan does.
theorem execute_accounts {engine : Option (Engine σ)} {caller : Option (Caller σ)}
    {out : Location} {before after : Session} {r : RebuildResult}
    (h : (execute (engine.map .noted) (caller.map .noted) s settings out kept).Ends
      (st, []) before (.ok r) (st', log) after) :
    ∃ (worker : Engine σ) (tools : Caller σ) (modules : List Datum)
      (a : Account worker tools s.numbered settings kept modules st st'),
      s.moduleIds = .ok modules ∧ checkWorkers engine caller modules out = .ok (worker, tools) ∧
      log = a.events ∧ r.installed = a.installed ∧
      a.installed + a.unconfigured.length + a.ungenerated.length = modules.length ∧
      ((∀ t, s.numbered.WellFormed (worker.current t)) →
        ∀ x ∈ a.turns, ∀ f, x.ending ≠ .malformed f) ∧
      ∃ (unconfigured ungenerated refusedWrites refusedCopies failedPrograms : List String)
        (opened filled done : Disk) (generated copied : Nat),
        warningsOf "configuration" a.unconfigured = .ok unconfigured ∧
        warningsOf "generation" a.ungenerated = .ok ungenerated ∧
        Ends (writeFiles before.cwd out a.files) opened (.ok (generated, refusedWrites)) filled ∧
        Ends (copyKept before.cwd out kept) filled (.ok (copied, refusedCopies)) done ∧
        Ends (finish out settings) { before with disk := done } (.ok failedPrograms) after ∧
        r.warnings = s.warnings ++ (unconfigured ++ coreWarnings a.core ++ ungenerated ++
          refusedWrites ++ refusedCopies ++ failedPrograms).map .text := by
  have ⟨⟨modules, hmodules, e', c', hnoted, m, failed, hfailed, opened, _, filled, ws, n, _, hwrites,
    done, ws', n', _, hcopies, ws'', hfinishes, hinstalled, hwarnings⟩⟩ := execute_returns h
  obtain ⟨e, c, hworkers, rfl, hn⟩ := workers_of_noted hnoted
  have ⟨a, hlog, hcore, hfiles, ha, hunconfigured, hungenerated⟩ := m.exists_account hn
  refine ⟨e, c, modules, a, hmodules, hworkers, hlog, ?_, a.total,
    fun hs _ hx _ => a.taken.not_malformed hs hx, m.warnings, failed, ws, ws', ws'', opened, filled,
    done, n, n', hunconfigured, hungenerated ▸ hfailed, hfiles ▸ hwrites, hcopies, hfinishes, ?_⟩
  · rw [hinstalled, ha]
  · rw [hwarnings, hcore, ← List.append_assoc m.warnings]

/-! A plan with a module that cannot be configured -/

-- The columns of its table are no list, so the tool refuses the table.
def unevenPlan : Schema :=
  { definition := [(.text "name", .text "demo"),
      (.text "modules", .list [.record [("id", .text "drift")], .record [("id", .text "state")]])]
    tables := [.record [("name", .text "users"), ("columns", .int 3)]] }

theorem execute_accounts_unevenPlan :
    ∃ (st' : Ledger) (log : List Event) (after : Session) (r : RebuildResult),
      (execute (some Engine.ledger.noted) (some Caller.ledger.noted) unevenPlan {} (.ofText "out")
        []).Ends ({}, []) workFolder (.ok r) (st', log) after ∧
      r.warnings.length = 1 ∧
      ∃ (worker : Engine Ledger) (tools : Caller Ledger) (modules : List Datum)
        (a : Account worker tools unevenPlan.numbered {} [] modules {} st'),
        unevenPlan.moduleIds = .ok modules ∧ log = a.events ∧ a.installed = 1 := by
  have h : Job.Ends.returnsWith (execute (some Engine.ledger.noted) (some Caller.ledger.noted)
      unevenPlan {} (.ofText "out") []) ({}, []) workFolder fun r _ =>
        r.warnings.length == 1 && r.installed == 1 := by
    decide +kernel
  have ⟨r, ⟨st', log⟩, after, hends, hp⟩ := Job.Ends.of_returnsWith h
  simp only [Bool.and_eq_true, beq_iff_eq] at hp
  have ⟨worker, tools, modules, a, hmodules, _, hlog, hinstalled, _⟩ :=
    @execute_accounts Ledger unevenPlan {} [] {} st' log (some .ledger) (some .ledger) _ _ _ _ hends
  exact ⟨st', log, after, r, hends, hp.1, worker, tools, modules, a, hmodules, hlog,
    Int.ofNat_inj.mp (hinstalled.symm.trans hp.2)⟩

end Refit.Rebuild
