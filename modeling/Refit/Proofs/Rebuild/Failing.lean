import Refit.Proofs.Disk.Refusals
import Refit.Proofs.Rebuild.Confinement

/-!
Rebuilds that fail: all that a failure may leave behind is the output folder.

A failure is one that this library reports of its own. Once the project is entered, whatever else
stops the workers or the disk costs a warning or stops the rebuild for another reason.
-/

namespace Refit

variable {τ α β : Type}

-- A computation that is stopped by no failure.
def Unfailing (c : ExceptT Stop (StateM τ) α) : Prop :=
  ∀ s r s', Ends c s r s' → ∀ f, r ≠ .error (.failure f)

theorem unfailing_iff {c : ExceptT Stop (StateM τ) α} :
    Unfailing c ↔ StopsBy (fun e => ∀ f, e ≠ .failure f) c := by
  constructor
  · exact fun h s e s' hc f he => h s _ s' hc f (congrArg _ he)
  · rintro h s r s' hc f rfl
    exact h s _ s' hc f rfl

namespace Unfailing

variable {c : ExceptT Stop (StateM τ) α} {g : α → ExceptT Stop (StateM τ) β} {e : Stop}

theorem of_pure {x : α} : Unfailing (pure x : ExceptT Stop (StateM τ) α) :=
  unfailing_iff.mpr .of_pure

theorem of_get : Unfailing (get : ExceptT Stop (StateM τ) τ) :=
  unfailing_iff.mpr .of_get

theorem bind (hc : Unfailing c) (hg : ∀ x, Unfailing (g x)) : Unfailing (c >>= g) :=
  unfailing_iff.mpr (.bind (unfailing_iff.mp hc) fun x => unfailing_iff.mp (hg x))

theorem mapM {f : α → ExceptT Stop (StateM τ) β} {xs : List α} (hf : ∀ x, Unfailing (f x)) :
    Unfailing (xs.mapM f) :=
  unfailing_iff.mpr (.mapM fun x => unfailing_iff.mp (hf x))

theorem outcome {w : Work τ α} : Unfailing w.outcome := by
  intro s r s' hc f hr
  have ⟨q, t, hw⟩ := Ends.exists_ends w s
  cases hr.symm.trans (hc.unique (Work.outcome_iff.mpr hw)).1

theorem ofRead {x : Datum.Read α} : Unfailing (Work.ofRead x : Work τ α) := by
  intro s r s' hc f hr
  have ⟨hq, _⟩ := Work.ofRead_iff.mp hc
  cases x <;> simp_all [Except.mapError]

end Unfailing

/-! Changes of the disk -/

namespace Disk

variable {cwd : List String} {l : Location} {k : Nat}

-- What the disk refuses is no failure.
theorem Refuses.ne_failure {e : Stop} (h : Refuses l e) (f : Failure) : e ≠ .failure f := by
  rcases h with ⟨_, rfl⟩ | ⟨rfl, _⟩ <;> simp

theorem makeFoldersFrom_unfailing : Unfailing (makeFoldersFrom cwd k l) :=
  unfailing_iff.mpr (makeFoldersFrom_stopsBy.mono fun _ => Refuses.ne_failure)

theorem writeBytes_unfailing {content : List UInt8} : Unfailing (writeBytes cwd l content) :=
  unfailing_iff.mpr (writeBytes_stopsBy.mono fun _ => Refuses.ne_failure)

theorem store_unfailing {content : String} : Unfailing (store cwd l content) :=
  .bind makeFoldersFrom_unfailing fun _ => writeBytes_unfailing

end Disk

/-! Programs -/

namespace Action

theorem change_unfailing {c : List String → Disk.Change α} (hc : ∀ cwd, Unfailing (c cwd)) :
    Unfailing (change c) := by
  intro s r s' h
  have ⟨d, hd, _⟩ := change_iff.mp h
  exact hc _ _ _ _ hd

theorem placeFiles_unfailing {target : Location} {cwd : List String}
    {files : List (Location × List UInt8)} : Unfailing (placeFiles target cwd files) := by
  induction files
  case nil => exact .of_pure
  case cons f files ih =>
    exact .bind Disk.makeFoldersFrom_unfailing fun _ => .bind Disk.writeBytes_unfailing fun _ => ih

theorem run_unfailing {c : Command} : Unfailing (run c) := by
  intro s r s' h f hr
  have ⟨q, d, hd, hq, _⟩ := run_iff.mp h
  cases q
  case ok => cases hr.symm.trans hq
  case error e =>
    have he : e = .failure f := Except.error.inj (hq.symm.trans hr)
    exact placeFiles_unfailing _ _ _ hd f (he ▸ rfl)

end Action

namespace Rebuild

variable {σ : Type} {engine : Engine σ} {caller : Caller σ} {s : Schema} {settings : Settings}
  {kept : Groups} {out target : Location} {cwd : List String} {modules : List Datum} {st st' : σ}
  {before after : Session}

/-! Working -/

theorem configure_unfailing {entries : Dict} {project : Datum} :
    Unfailing (configure engine caller s entries project modules) := by
  induction modules
  case nil => exact .of_pure
  case cons m ms ih =>
    refine .bind .outcome fun r => .bind .ofRead fun w => .bind ih fun _ => ?_
    cases w <;> exact .of_pure

theorem generateModules_unfailing {project : Datum} {files : Files} :
    Unfailing (generateModules engine project modules files) := by
  induction modules generalizing files
  case nil => exact .of_pure
  case cons m ms ih =>
    refine .bind .outcome fun r => ?_
    cases r
    case ok => exact .bind ih fun _ => .of_pure
    case error => exact .bind .ofRead fun _ => .bind ih fun _ => .of_pure

theorem generate_unfailing {project : Datum} : Unfailing (generate engine project modules) := by
  refine .bind .outcome fun r => ?_
  cases r
  case ok => exact generateModules_unfailing
  case error => exact .bind generateModules_unfailing fun _ => .of_pure

-- The workers fail only where the project cannot be entered.
theorem produce_failed {f : Failure}
    (h : Ends (produce engine caller s settings kept modules out) st (.error (.failure f)) st') :
    ∃ e, Ends (engine.create s.definition) st (.error e) st' := by
  rcases Ends.bind_iff.mp h with ⟨project, t, _, h⟩ | ⟨e, he, h⟩
  case inl =>
    refine absurd rfl (Unfailing.bind .ofRead (fun _ => ?_) _ _ _ h f)
    refine .bind configure_unfailing fun _ => .bind generate_unfailing fun _ => ?_
    exact .bind .of_get fun _ => .bind .ofRead fun _ => .of_pure
  case inr =>
    have ⟨q, hq, hr⟩ := Ends.mapError_iff.mp h
    cases q
    case ok => cases hr
    case error => exact ⟨_, hq⟩

/-! Writing -/

theorem tryStore_unfailing {content : String} {warning : String → String} :
    Unfailing (tryStore cwd target content warning) := by
  intro d q d' hd f hq
  have ⟨r, t, hs⟩ := Ends.exists_ends (Disk.store cwd target content) d
  have ⟨ha, _⟩ := hd.unique (tryStore_ends hs)
  rw [hq] at ha
  cases r
  case ok => cases ha
  case error e =>
    cases e <;> cases ha
    exact Disk.store_unfailing _ _ _ hs _ rfl

theorem tally_unfailing {rest : Disk.Change (Nat × List String)} {w : Option String}
    (h : Unfailing rest) : Unfailing (tally rest w) :=
  .bind h fun _ => by cases w <;> exact .of_pure

theorem writeFiles_unfailing {fs : Files} : Unfailing (writeFiles cwd out fs) := by
  induction fs
  case nil => exact .of_pure
  case cons f fs ih =>
    have ⟨path, content⟩ := f
    simp only [writeFiles]
    split
    case isTrue =>
      intro d r d' h f hr
      rcases Ends.bind_iff.mp h with ⟨_, _, h, _⟩ | ⟨_, rfl, h⟩
      · cases (Ends.throw_iff.mp h).1
      · cases hr.symm.trans (Ends.throw_iff.mp h).1
    case isFalse =>
      split
      case isTrue hi => exact .bind tryStore_unfailing fun _ => tally_unfailing ih
      case isFalse => exact .bind .of_pure fun _ => tally_unfailing ih

theorem copyCategory_unfailing {category : String} {fs : List SourceFile} :
    Unfailing (copyCategory cwd out category fs) := by
  induction fs
  case nil => exact .of_pure
  case cons f fs ih => exact .bind tryStore_unfailing fun _ => tally_unfailing ih

theorem copyKept_unfailing : Unfailing (copyKept cwd out kept) := by
  induction kept
  case nil => exact .of_pure
  case cons g kept ih =>
    exact .bind copyCategory_unfailing fun _ => .bind ih fun _ => .of_pure

theorem finishOne_unfailing {words : List String} {label : String} :
    Unfailing (finishOne out words label) := by
  refine .bind Action.run_unfailing fun o => ?_
  cases o <;> exact .of_pure

theorem finish_unfailing : Unfailing (finish out settings) :=
  .bind (.mapM fun _ => finishOne_unfailing) fun _ => .of_pure

/-! The whole -/

theorem fill_failed {f : Failure}
    (h : (fill engine caller s settings out kept modules).Ends st before (.error (.failure f)) st'
      after) :
    after = before ∧ ∃ e, Ends (engine.create s.numbered.definition) st (.error e) st' := by
  rcases Job.Ends.bind_iff.mp h with ⟨p, _, _, _, h₁⟩ | ⟨_, ⟨⟩, j₁⟩
  case inr =>
    obtain ⟨hp, rfl⟩ := Job.Ends.ofWork_iff.mp j₁
    exact ⟨rfl, produce_failed hp⟩
  rcases Job.Ends.bind_iff.mp h₁ with ⟨_, _, _, _, h₂⟩ | ⟨_, ⟨⟩, j₂⟩
  case inr =>
    have ⟨hwrite, _⟩ := Job.Ends.ofAction_iff.mp j₂
    exact absurd rfl (Action.change_unfailing (fun _ => writeFiles_unfailing) _ _ _ hwrite f)
  rcases Job.Ends.bind_iff.mp h₂ with ⟨_, _, _, _, h₃⟩ | ⟨_, ⟨⟩, j₃⟩
  case inr =>
    have ⟨hcopy, _⟩ := Job.Ends.ofAction_iff.mp j₃
    exact absurd rfl (Action.change_unfailing (fun _ => copyKept_unfailing) _ _ _ hcopy f)
  rcases Job.Ends.bind_iff.mp h₃ with ⟨_, _, _, _, h₄⟩ | ⟨_, ⟨⟩, j₄⟩
  case inr =>
    have ⟨hfinish, _⟩ := Job.Ends.ofAction_iff.mp j₄
    exact absurd rfl (finish_unfailing _ _ _ hfinish f)
  cases (Job.Ends.pure_iff.mp h₄).1

theorem fill_success {r : RebuildResult}
    (h : (fill engine caller s settings out kept modules).Ends st before (.ok r) st' after) :
    r.success := by
  have ⟨_, _, _, _, h₁⟩ := Job.Ends.bind_ok_iff.mp h
  have ⟨_, _, _, _, h₂⟩ := Job.Ends.bind_ok_iff.mp h₁
  have ⟨_, _, _, _, h₃⟩ := Job.Ends.bind_ok_iff.mp h₂
  have ⟨_, _, _, _, h₄⟩ := Job.Ends.bind_ok_iff.mp h₃
  rw [Except.ok.inj (Job.Ends.pure_iff.mp h₄).1]

-- What a failed rebuild leaves behind: of the disk at most new folders on the way to the output
-- folder, and of the work at most a project that could not be entered.
structure Abandoned (engine : Option (Engine σ)) (s : Schema) (out : Location) (st st' : σ)
    (before after : Session) : Prop where
  rest : after = { before with disk := after.disk }
  folders : Disk.Paved before.cwd out before.disk after.disk
  work : st' = st ∨ ∃ worker ∈ engine, ∃ e,
    Ends (worker.create s.numbered.definition) st (.error e) st'

variable {engine : Option (Engine σ)} {caller : Option (Caller σ)}

theorem Abandoned.refl : Abandoned engine s out st st before before :=
  ⟨rfl, .refl _, .inl rfl⟩

theorem mem_of_checkWorkers {e : Engine σ} {c : Caller σ}
    (h : checkWorkers engine caller modules out = .ok (e, c)) : e ∈ engine := by
  cases engine
  case none => cases h
  case some worker =>
    cases caller
    case some => exact congrArg some (Prod.mk.inj (Except.ok.inj h)).1
    case none =>
      by_cases hn : (modules.filter Schema.needsTools).isEmpty
      case pos =>
        simp only [checkWorkers, hn] at h
        exact congrArg some (Prod.mk.inj (Except.ok.inj h)).1
      case neg => simp [checkWorkers, hn] at h

theorem execute_failed {f : Failure}
    (h : (execute engine caller s settings out kept).Ends st before (.error (.failure f)) st' after) :
    Abandoned engine s out st st' before after := by
  rcases Job.Ends.bind_iff.mp h with ⟨modules, _, _, j₁, h₁⟩ | ⟨_, _, j₁⟩
  all_goals obtain ⟨_, rfl, rfl⟩ := Job.Ends.ofExcept_iff.mp j₁
  case inr => exact .refl
  rcases Job.Ends.bind_iff.mp h₁ with ⟨⟨e, c⟩, _, _, j₂, h₂⟩ | ⟨_, _, j₂⟩
  all_goals obtain ⟨hworkers, rfl, rfl⟩ := Job.Ends.ofExcept_iff.mp j₂
  case inr => exact .refl
  rcases Job.Ends.bind_iff.mp h₂ with ⟨_, _, u, j₃, h₃⟩ | ⟨_, _, j₃⟩
  all_goals
    obtain ⟨hout, rfl⟩ := Job.Ends.ofAction_iff.mp j₃
    have ⟨hrest, hpaved, _⟩ := makeOutput_ends hout
  case inr => exact ⟨hrest, hpaved, .inl rfl⟩
  case inl =>
    obtain ⟨rfl, hentered⟩ := fill_failed h₃
    exact ⟨hrest, hpaved, .inr ⟨e, mem_of_checkWorkers hworkers.symm, hentered⟩⟩

theorem execute_success {r : RebuildResult}
    (h : (execute engine caller s settings out kept).Ends st before (.ok r) st' after) :
    r.success := by
  have ⟨_, _, _, _, h₁⟩ := Job.Ends.bind_ok_iff.mp h
  have ⟨_, _, _, _, h₂⟩ := Job.Ends.bind_ok_iff.mp h₁
  have ⟨_, _, _, _, h₃⟩ := Job.Ends.bind_ok_iff.mp h₂
  exact fill_success h₃

theorem perform_failed {out : String} {r : RebuildResult}
    (h : (perform engine caller s settings out kept).Ends st before (.ok r) st' after)
    (hr : r.success = false) : Abandoned engine s (.ofText out) st st' before after := by
  have ⟨x, hx, hq⟩ := perform_iff.mp h
  rw [reported.eq_def] at hq
  split at hq
  case h_1 =>
    have hsuccess := execute_success hx
    simp [← Except.ok.inj hq, hr] at hsuccess
  case h_2 => exact execute_failed hx
  case h_3 => cases hq

end Rebuild

end Refit
