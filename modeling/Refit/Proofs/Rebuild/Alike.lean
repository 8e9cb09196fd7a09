import Refit.Proofs.Rebuild.Confinement
import Refit.Proofs.Session.Alike

/-!
One plan carried out in two sessions: if the output folder lies apart from the places where the
disks differ, both runs have the same result and write the same.
-/

namespace Refit.Rebuild

open Disk (Alike)

variable {off : List String → Prop} {cwd : List String} {out target : Location} {kept : Groups}
  {targets : List Location} {settings : Settings} {σ : Type}

/-! Writing -/

theorem tryStore_respects {content : String} {warning : String → String}
    (h : target.Avoids off cwd) :
    Respects (Alike off) (tryStore cwd target content warning) := by
  intro d d' q s hd hs
  obtain ⟨r, t, hr⟩ := Ends.exists_ends (Disk.store cwd target content) d
  obtain ⟨rfl, rfl⟩ := hs.unique (tryStore_ends hr)
  obtain ⟨t', hr', ht⟩ := Disk.store_respects h _ _ _ _ hd hr
  exact ⟨t', tryStore_ends hr', ht⟩

theorem tally_respects {rest : Disk.Change (Nat × List String)} {w : Option String}
    (h : Respects (Alike off) rest) : Respects (Alike off) (tally rest w) :=
  .bind h fun _ => by cases w <;> exact .of_pure

theorem writeFiles_respects {fs : Files} (h : ∀ x ∈ fs, (out ++ .ofText x.1).Avoids off cwd) :
    Respects (Alike off) (writeFiles cwd out fs) := by
  induction fs
  case nil => exact .of_pure
  case cons f fs ih =>
    obtain ⟨hf, hfs⟩ := List.forall_mem_cons.mp h
    obtain ⟨path, content⟩ := f
    simp only [writeFiles]
    split
    case isTrue => exact .throw_bind
    case isFalse =>
      split
      case isTrue => exact .bind (tryStore_respects hf) fun _ => tally_respects (ih hfs)
      case isFalse => exact .bind .of_pure fun _ => tally_respects (ih hfs)

theorem copyCategory_respects {category : String} {fs : List SourceFile}
    (h : ∀ f ∈ fs, (out ++ .ofText (Category.target category f.path)).Avoids off cwd) :
    Respects (Alike off) (copyCategory cwd out category fs) := by
  induction fs
  case nil => exact .of_pure
  case cons f fs ih =>
    obtain ⟨hf, hfs⟩ := List.forall_mem_cons.mp h
    exact .bind (tryStore_respects hf) fun _ => tally_respects (ih hfs)

-- Kept files never step back, so below the output folder they meet none of the places.
theorem copyKept_respects (h : out.Apart off cwd) (hk : kept.Forward) :
    Respects (Alike off) (copyKept cwd out kept) := by
  induction kept
  case nil => exact .of_pure
  case cons g kept ih =>
    obtain ⟨category, fs⟩ := g
    have hrest : Groups.Forward kept := fun c f h => hk c f (Groups.holds_cons.mpr (.inr h))
    refine .bind (copyCategory_respects fun f hf => ?_) fun _ => .bind (ih hrest) fun _ => .of_pure
    obtain ⟨hc, hp⟩ := hk category f (Groups.holds_cons.mpr (.inl ⟨rfl, hf⟩))
    exact h.append Category.root?_target (not_mem_steps_target hc hp)

/-! Finishing -/

-- Where the programs that finish a project write.
def finishTargets (settings : Settings) : List Location :=
  (finishing settings).map fun e => Command.target ⟨e.1.map .text, none, .int finishLimit⟩

theorem finish_respects :
    Respects (Session.Alike off cwd (finishTargets settings)) (finish out settings) := by
  refine .bind (.mapM fun e he => ?_) fun _ => .of_pure
  refine .bind (Action.run_respects (List.mem_map_of_mem he)) fun o => ?_
  split <;> exact .of_pure

/-! The whole -/

theorem makeOutput_respects (h : out.Avoids off cwd) :
    Respects (Session.Alike off cwd targets) (makeOutput out) := by
  refine .tryCatch (Action.change_respects (Disk.makeFolders_respects h)) fun e => ?_
  split <;> exact .of_throw

section

variable {engine : Option (Engine σ)} {caller : Option (Caller σ)} {s : Schema}

-- All files that the workers make of a plan are written clear of the places.
def Clears (off : List String → Prop) (cwd : List String) (engine : Option (Engine σ))
    (caller : Option (Caller σ)) (s : Schema) (settings : Settings) (out : Location)
    (kept : Groups) : Prop :=
  ∀ modules e c, s.moduleIds = .ok modules → checkWorkers engine caller modules out = .ok (e, c) →
    ∀ st p st', Ends (produce e c s.numbered settings kept modules out) st (.ok p) st' →
      ∀ x ∈ p.files, (out ++ .ofText x.1).Avoids off cwd

theorem execute_respects (h : out.Apart off cwd) (hk : kept.Forward)
    (hc : Clears off cwd engine caller s settings out kept) :
    Job.Respects (Session.Alike off cwd (finishTargets settings))
      (execute engine caller s settings out kept) := by
  refine .bind_of .ofExcept fun modules _ _ _ _ hm => ?_
  refine .bind_of .ofExcept fun w _ _ _ _ hw => .bind (.ofAction (makeOutput_respects h.way)) fun _ => ?_
  have hmodules := mapError_eq_ok.mp (Job.Ends.ofExcept_iff.mp hm).1.symm
  have hclear := hc modules w.1 w.2 hmodules (Job.Ends.ofExcept_iff.mp hw).1.symm
  refine .bind_of .ofWork fun p st _ st' _ hp => ?_
  have hfiles := hclear st p st' (Job.Ends.ofWork_iff.mp hp).1
  refine .bind (.ofAction (Action.change_respects (writeFiles_respects hfiles))) fun _ => ?_
  refine .bind (.ofAction (Action.change_respects (copyKept_respects h hk))) fun _ => ?_
  exact .bind (.ofAction finish_respects) fun _ => .of_pure

-- A plan is carried out alike in sessions that are alike.
theorem perform_respects {out : String} (h : (Location.ofText out).Apart off cwd) (hk : kept.Forward)
    (hc : Clears off cwd engine caller s settings (.ofText out) kept) :
    Job.Respects (Session.Alike off cwd (finishTargets settings))
      (perform engine caller s settings out kept) := by
  intro st u v q st' u' hR hu
  obtain ⟨x, hx, rfl⟩ := perform_iff.mp hu
  obtain ⟨v', hv, hR⟩ := execute_respects h hk hc _ _ _ _ _ _ hR hx
  exact ⟨v', perform_iff.mpr ⟨x, hv, rfl⟩, hR⟩

end

end Refit.Rebuild
