import Refit.Proofs.Plan.Preservation
import Refit.Proofs.Rebuild.Clean
import Refit.Proofs.Session.Runs
import Refit.Proofs.Source.Reading

/-!
Rebuilds that report: a plan that was made is carried out to a result, whatever the disk refuses.

What the workers make of it is complete, the disk costs warnings at most, and programs that write
nothing end or cost warnings. So nothing stops the rebuild but a failure to make the output folder,
which the result tells of.
-/

namespace Refit

-- Programs that write nothing in the runs to come.
def Programs.Idle (p : Programs) : Prop :=
  ∀ o ∈ p.script, o.files = []

theorem Programs.Idle.next {p : Programs} {c : Command} (h : p.Idle) : (p.next c).2.Idle :=
  fun o ho => h o (List.mem_of_mem_tail ho)

theorem Action.exists_run {s : Session} {c : Command} (h : s.programs.Idle) :
    ∃ o s', Ends (Action.run c) s (.ok o) s' ∧ s'.programs.Idle := by
  obtain ⟨r, s', hrun⟩ := Ends.exists_ends (Action.run c) s
  obtain ⟨rfl, rfl⟩ := Action.run_quiet (fun o ho => h o (List.mem_of_mem_head? ho)) hrun
  exact ⟨_, _, hrun, h.next⟩

namespace Rebuild

variable {p : Schema} {f : Plan.Frame} {settings : Settings} {kept : Groups} {out : Location}
  {cwd : List String} {before : Session}

/-! Copying -/

-- Kept files at paths without a zero byte.
def Copyable (out : Location) (kept : Groups) : Prop :=
  ∀ category f, kept.Holds category f → ¬(out ++ .ofText (Category.target category f.path)).HasNull

theorem exists_tally {rest : Disk.Change (Nat × List String)} {w : Option String} {d : Disk}
    (h : ∃ x d', Ends rest d (.ok x) d') : ∃ x d', Ends (tally rest w) d (.ok x) d' := by
  obtain ⟨x, d', hrest⟩ := h
  cases w
  case none => exact ⟨_, d', (Ends.bind_of_ok hrest).mpr (Ends.pure_iff.mpr ⟨rfl, rfl⟩)⟩
  case some => exact ⟨_, d', (Ends.bind_of_ok hrest).mpr (Ends.pure_iff.mpr ⟨rfl, rfl⟩)⟩

theorem exists_copyCategory {category : String} {fs : List SourceFile}
    (h : ∀ f ∈ fs, ¬(out ++ .ofText (Category.target category f.path)).HasNull) (d : Disk) :
    ∃ x d', Ends (copyCategory cwd out category fs) d (.ok x) d' := by
  induction fs generalizing d
  case nil => exact ⟨_, d, Ends.pure_iff.mpr ⟨rfl, rfl⟩⟩
  case cons f fs ih =>
    have ⟨hf, hfs⟩ := List.forall_mem_cons.mp h
    obtain ⟨w, d₁, hstore, _⟩ := @exists_tryStore cwd _ f.content
      (fun e => "Could not copy " ++ f.path ++ ": " ++ e) hf d
    obtain ⟨x, d₂, htally⟩ := @exists_tally _ w _ (ih hfs d₁)
    exact ⟨x, d₂, (Ends.bind_of_ok hstore).mpr htally⟩

theorem exists_copyKept (h : Copyable out kept) (d : Disk) :
    ∃ x d', Ends (copyKept cwd out kept) d (.ok x) d' := by
  induction kept generalizing d
  case nil => exact ⟨_, d, Ends.pure_iff.mpr ⟨rfl, rfl⟩⟩
  case cons g kept ih =>
    obtain ⟨category, fs⟩ := g
    obtain ⟨x, d₁, hcategory⟩ := @exists_copyCategory out cwd category fs
      (fun f hf => h category f (Groups.holds_cons.mpr (.inl ⟨rfl, hf⟩))) d
    obtain ⟨y, d₂, hkept⟩ := ih (fun c f hf => h c f (Groups.holds_cons.mpr (.inr hf))) d₁
    exact ⟨_, d₂, (Ends.bind_of_ok hcategory).mpr ((Ends.bind_of_ok hkept).mpr
      (Ends.pure_iff.mpr ⟨rfl, rfl⟩))⟩

/-! Finishing -/

theorem exists_finishOne {words : List String} {label : String} (h : before.programs.Idle) :
    ∃ w after, Ends (finishOne out words label) before (.ok w) after ∧ after.programs.Idle := by
  obtain ⟨o, after, hrun, hidle⟩ := @Action.exists_run before
    ⟨words.map .text, some out, .int finishLimit⟩ h
  have hanswer : ∃ w, Ends (finishOne out words label) before (.ok w) after := by
    cases o
    all_goals exact ⟨_, (Ends.bind_of_ok hrun).mpr (Ends.pure_iff.mpr ⟨rfl, rfl⟩)⟩
  obtain ⟨w, hw⟩ := hanswer
  exact ⟨w, after, hw, hidle⟩

theorem exists_finish (h : before.programs.Idle) :
    ∃ ws after, Ends (finish out settings) before (.ok ws) after := by
  have hall {steps : List (List String × String)} : ∃ ws after,
      Ends (steps.mapM fun step => finishOne out step.1 step.2) before (.ok ws) after := by
    induction steps generalizing before
    case nil => exact ⟨[], before, Ends.pure_iff.mpr ⟨rfl, rfl⟩⟩
    case cons step steps ih =>
      obtain ⟨w, between, hone, hidle⟩ := @exists_finishOne out before step.1 step.2 h
      obtain ⟨ws, after, hrest⟩ := ih hidle
      refine ⟨w :: ws, after, ?_⟩
      rw [List.mapM_cons]
      exact (Ends.bind_of_ok hone).mpr ((Ends.bind_of_ok hrest).mpr (Ends.pure_iff.mpr ⟨rfl, rfl⟩))
  obtain ⟨ws, after, hends⟩ := @hall (finishing settings)
  exact ⟨_, after, (Ends.bind_of_ok hends).mpr (Ends.pure_iff.mpr ⟨rfl, rfl⟩)⟩

/-! The whole -/

theorem makeOutput_stopsBy (h : ¬out.HasNull) :
    StopsBy (fun e => ∃ f, e = .failure f) (makeOutput out) := by
  have hfolders : StopsBy (fun e => ∃ t, e = .file t)
      (Action.change fun cwd => Disk.makeFolders cwd out) := by
    intro s e s' hends
    obtain ⟨d, hd, _⟩ := Action.change_iff.mp hends
    exact (Disk.makeFolders_stopsBy _ _ _ hd).exists_file h
  refine hfolders.tryCatch fun e he => ?_
  obtain ⟨t, rfl⟩ := he
  exact .of_throw ⟨_, rfl⟩

-- The workers make a plan that was made, and what they make is written.
theorem exists_fill (h : p.Planned f) (hout : ¬out.HasNull) (hkept : Copyable out kept)
    (hidle : before.programs.Idle) :
    ∃ r l after, (fill .ledger .ledger p settings out kept (f.modules.map .text)).Ends {} before
      (.ok r) l after := by
  obtain ⟨project, cs, files, hproduced, hproduce⟩ := @produce_planned p f out settings kept h
  obtain ⟨n, refused, filled, hwrites, _⟩ :=
    @exists_writeFiles out before.cwd files hout hproduced.plain before.disk
  obtain ⟨x, done, hcopies⟩ := @exists_copyKept kept out before.cwd hkept filled
  obtain ⟨ws, after, hfinish⟩ := @exists_finish settings out { before with disk := done } hidle
  have hmade : (Job.ofWork (produce .ledger .ledger p.numbered settings kept
      (f.modules.map .text) out)).Ends {} before _ _ before :=
    Job.Ends.ofWork_iff.mpr ⟨hproduce, rfl⟩
  have hwritten : (Job.ofAction (Action.change fun cwd => writeFiles cwd out files)).Ends
      (Ledger.holding project cs) before _ _ _ :=
    Job.Ends.ofAction_iff.mpr ⟨Action.change_iff.mpr ⟨filled, hwrites, rfl⟩, rfl⟩
  have hcopied : (Job.ofAction (Action.change fun cwd => copyKept cwd out kept)).Ends
      (Ledger.holding project cs) { before with disk := filled } _ _ _ :=
    Job.Ends.ofAction_iff.mpr ⟨Action.change_iff.mpr ⟨done, hcopies, rfl⟩, rfl⟩
  have hfinished : (Job.ofAction (finish out settings)).Ends (Ledger.holding project cs) _ _ _ _ :=
    Job.Ends.ofAction_iff.mpr ⟨hfinish, rfl⟩
  exact ⟨_, _, after, (Job.Ends.bind_of_ok hmade).mpr ((Job.Ends.bind_of_ok hwritten).mpr
    ((Job.Ends.bind_of_ok hcopied).mpr ((Job.Ends.bind_of_ok hfinished).mpr
      (Job.Ends.pure_iff.mpr ⟨rfl, rfl, rfl⟩))))⟩

-- A plan that was made is carried out, unless the output folder cannot be made.
theorem exists_execute (h : p.Planned f) (hout : ¬out.HasNull) (hkept : Copyable out kept)
    (hidle : before.programs.Idle) :
    ∃ x l after, (execute (some .ledger) (some .ledger) p settings out kept).Ends {} before x l
      after ∧ ∀ e, x = .error e → ∃ f, e = .failure f := by
  have hmodules : p.moduleIds.mapError Stop.fault = .ok (f.modules.map .text) := by
    rw [h.moduleIds_eq]
    rfl
  have hstart {x : Except Stop RebuildResult} {l : Ledger} {after : Session}
      (hrest : (Job.ofAction (makeOutput out) >>= fun _ => fill .ledger .ledger p settings out kept
        (f.modules.map .text)).Ends {} before x l after) :
      (execute (some .ledger) (some .ledger) p settings out kept).Ends {} before x l after := by
    refine (Job.Ends.bind_of_ok (Job.Ends.ofExcept_iff.mpr ⟨hmodules.symm, rfl, rfl⟩)).mpr ?_
    exact (Job.Ends.bind_of_ok (Job.Ends.ofExcept_iff.mpr ⟨rfl, rfl, rfl⟩)).mpr hrest
  obtain ⟨r, opened, hopened⟩ := Ends.exists_ends (makeOutput out) before
  cases r
  case error e =>
    refine ⟨.error e, {}, opened, hstart ?_, fun e' he => ?_⟩
    · exact Job.Ends.bind_of_error (Job.Ends.ofAction_iff.mpr ⟨hopened, rfl⟩)
    · exact Except.error.inj he ▸ makeOutput_stopsBy hout _ _ _ hopened
  case ok =>
    obtain ⟨d, hd, rfl⟩ := makeOutput_ok hopened
    obtain ⟨r, l, after, hfilled⟩ :=
      @exists_fill p f settings kept out { before with disk := d } h hout hkept hidle
    refine ⟨.ok r, l, after, hstart ?_, nofun⟩
    exact (Job.Ends.bind_of_ok (Job.Ends.ofAction_iff.mpr ⟨hopened, rfl⟩)).mpr hfilled

theorem exists_standard {out : String} (h : p.Planned f) (hout : '\x00' ∉ out.toList)
    (hkept : Copyable (.ofText out) kept) (hidle : before.programs.Idle) :
    ∃ r after, Ends (standard p settings out kept) before (.ok r) after := by
  obtain ⟨x, l, after, hends, hx⟩ := @exists_execute p f settings kept (.ofText out) before h
    (fun hn => hout (Location.hasNull_ofText hn)) hkept hidle
  have hreported : ∃ r, reported p out x = .ok r := by
    cases x
    case ok r => exact ⟨r, rfl⟩
    case error e =>
      obtain ⟨f, rfl⟩ := hx e rfl
      exact ⟨_, rfl⟩
  obtain ⟨r, hr⟩ := hreported
  exact ⟨r, after, standard_iff.mpr ⟨l, perform_iff.mpr ⟨x, hends, hr.symm⟩⟩⟩

end Rebuild

end Refit
