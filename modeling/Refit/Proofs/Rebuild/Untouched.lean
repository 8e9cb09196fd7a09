import Refit.Proofs.Disk.Untouched
import Refit.Proofs.Rebuild.Alike

/-!
What a rebuild leaves as it is: the places that all of its paths keep clear of.
-/

namespace Refit.Rebuild

open Disk (Untouched)

variable {off : List String → Prop} {cwd : List String} {out target : Location} {σ : Type}
  {engine : Option (Engine σ)} {caller : Option (Caller σ)} {s : Schema} {settings : Settings}
  {kept : Groups} {st st' : σ} {before after : Session}

theorem tryStore_untouched {content : String} {warning : String → String}
    (h : target.Avoids off cwd) :
    Stays (Untouched off) (tryStore cwd target content warning) := by
  intro d r d' hd
  obtain ⟨q, t, hs⟩ := Ends.exists_ends (Disk.store cwd target content) d
  obtain ⟨_, rfl⟩ := hd.unique (tryStore_ends hs)
  exact Disk.store_untouched h _ _ _ hs

theorem tally_untouched {rest : Disk.Change (Nat × List String)} {w : Option String}
    (h : Stays (Untouched off) rest) : Stays (Untouched off) (tally rest w) :=
  .bind .trans h fun _ => by cases w <;> exact .of_pure .refl

theorem writeFiles_untouched {fs : Files} (h : ∀ x ∈ fs, (out ++ .ofText x.1).Avoids off cwd) :
    Stays (Untouched off) (writeFiles cwd out fs) := by
  induction fs
  case nil => exact .of_pure .refl
  case cons f fs ih =>
    obtain ⟨hf, hfs⟩ := List.forall_mem_cons.mp h
    obtain ⟨path, content⟩ := f
    simp only [writeFiles]
    split
    case isTrue =>
      intro d r d' h
      rcases Ends.bind_iff.mp h with ⟨_, _, h, _⟩ | ⟨_, _, h⟩
      · cases (Ends.throw_iff.mp h).1
      · exact (Ends.throw_iff.mp h).2 ▸ .refl _
    case isFalse =>
      split
      case isTrue =>
        exact .bind .trans (tryStore_untouched hf) fun _ => tally_untouched (ih hfs)
      case isFalse => exact .bind .trans (.of_pure .refl) fun _ => tally_untouched (ih hfs)

theorem copyCategory_untouched {category : String} {fs : List SourceFile}
    (h : ∀ f ∈ fs, (out ++ .ofText (Category.target category f.path)).Avoids off cwd) :
    Stays (Untouched off) (copyCategory cwd out category fs) := by
  induction fs
  case nil => exact .of_pure .refl
  case cons f fs ih =>
    obtain ⟨hf, hfs⟩ := List.forall_mem_cons.mp h
    exact .bind .trans (tryStore_untouched hf) fun _ => tally_untouched (ih hfs)

theorem copyKept_untouched (h : out.Apart off cwd) (hk : kept.Forward) :
    Stays (Untouched off) (copyKept cwd out kept) := by
  induction kept
  case nil => exact .of_pure .refl
  case cons g kept ih =>
    obtain ⟨category, fs⟩ := g
    have hrest : Groups.Forward kept := fun c f h => hk c f (Groups.holds_cons.mpr (.inr h))
    refine .bind .trans (copyCategory_untouched fun f hf => ?_) fun _ =>
      .bind .trans (ih hrest) fun _ => .of_pure .refl
    obtain ⟨hc, hp⟩ := hk category f (Groups.holds_cons.mpr (.inl ⟨rfl, hf⟩))
    exact h.append Category.root?_target (not_mem_steps_target hc hp)

/-! Finishing -/

theorem run_untouched {c : Command} {targets : List Location} {q : Except Stop Outcome}
    (hcwd : before.cwd = cwd) (hc : c.target ∈ targets)
    (hp : before.programs.Avoid off cwd targets) (h : Ends (Action.run c) before q after) :
    Untouched off before.disk after.disk ∧ after.cwd = cwd ∧
      after.programs.Avoid off cwd targets := by
  obtain ⟨_, d, hd, _, rfl⟩ := Action.run_iff.mp h
  rw [hcwd] at hd
  exact ⟨Action.placeFiles_untouched (hp.files hc) _ _ _ hd, hcwd, hp.next⟩

theorem mapM_finishOne_untouched {es : List (List String × String)} {targets : List Location}
    {q : Except Stop (List (Option String))}
    (hes : ∀ e ∈ es, Command.target ⟨e.1.map .text, some out, .int finishLimit⟩ ∈ targets)
    (hcwd : before.cwd = cwd) (hp : before.programs.Avoid off cwd targets)
    (h : Ends (es.mapM fun (words, label) => finishOne out words label) before q after) :
    Untouched off before.disk after.disk ∧ after.cwd = cwd := by
  induction es generalizing before after q
  case nil =>
    obtain ⟨_, rfl⟩ := Ends.pure_iff.mp h
    exact ⟨.refl _, hcwd⟩
  case cons e es ih =>
    obtain ⟨he, hes⟩ := List.forall_mem_cons.mp hes
    rw [List.mapM_cons] at h
    have hone {u : Session} {x : Except Stop (Option String)}
        (h : Ends (finishOne out e.1 e.2) before x u) :
        Untouched off before.disk u.disk ∧ u.cwd = cwd ∧ u.programs.Avoid off cwd targets := by
      rcases Ends.bind_iff.mp h with ⟨_, v, hrun, h⟩ | ⟨_, _, hrun⟩
      case inr => exact run_untouched hcwd he hp hrun
      case inl =>
        have hsame : u = v := by
          split at h
          all_goals exact (Ends.pure_iff.mp h).2
        exact hsame ▸ run_untouched hcwd he hp hrun
    rcases Ends.bind_iff.mp h with ⟨_, u, h₁, h⟩ | ⟨_, _, h₁⟩
    case inr =>
      obtain ⟨hu, hcwd', _⟩ := hone h₁
      exact ⟨hu, hcwd'⟩
    case inl =>
      obtain ⟨hu, hcwd', hp'⟩ := hone h₁
      refine And.imp_left hu.trans ?_
      rcases Ends.bind_iff.mp h with ⟨_, _, h₂, h⟩ | ⟨_, _, h₂⟩
      case inl =>
        rw [(Ends.pure_iff.mp h).2]
        exact ih hes hcwd' hp' h₂
      case inr => exact ih hes hcwd' hp' h₂

theorem finish_untouched {q : Except Stop (List String)} (hcwd : before.cwd = cwd)
    (hp : before.programs.Avoid off cwd (finishTargets settings))
    (h : Ends (finish out settings) before q after) :
    Untouched off before.disk after.disk ∧ after.cwd = cwd := by
  have hes : ∀ e ∈ finishing settings,
      Command.target ⟨e.1.map .text, some out, .int finishLimit⟩ ∈ finishTargets settings :=
    fun e he => List.mem_map_of_mem he
  rcases Ends.bind_iff.mp h with ⟨_, t, hm, h⟩ | ⟨_, _, hm⟩
  · exact (Ends.pure_iff.mp h).2 ▸ mapM_finishOne_untouched hes hcwd hp hm
  · exact mapM_finishOne_untouched hes hcwd hp hm

/-! The whole -/

theorem fill_untouched {engine : Engine σ} {caller : Caller σ} {modules : List Datum}
    {r : Except Stop RebuildResult} (hcwd : before.cwd = cwd) (hout : out.Apart off cwd)
    (hk : kept.Forward)
    (hfiles : ∀ p st', Ends (produce engine caller s.numbered settings kept modules out) st (.ok p)
      st' → ∀ x ∈ p.files, (out ++ .ofText x.1).Avoids off cwd)
    (hp : before.programs.Avoid off cwd (finishTargets settings))
    (h : (fill engine caller s settings out kept modules).Ends st before r st' after) :
    Untouched off before.disk after.disk := by
  subst hcwd
  rcases Job.Ends.bind_iff.mp h with ⟨p, _, _, j₁, h₁⟩ | ⟨_, _, j₁⟩
  all_goals obtain ⟨hproduce, rfl⟩ := Job.Ends.ofWork_iff.mp j₁
  case inr => exact .refl _
  rcases Job.Ends.bind_iff.mp h₁ with ⟨_, _, _, j₂, h₂⟩ | ⟨_, _, j₂⟩
  all_goals
    have ⟨hchange, _⟩ := Job.Ends.ofAction_iff.mp j₂
    obtain ⟨filled, hwrite, rfl⟩ := Action.change_iff.mp hchange
    have hfilled := writeFiles_untouched (hfiles p _ hproduce) _ _ _ hwrite
  case inr => exact hfilled
  rcases Job.Ends.bind_iff.mp h₂ with ⟨_, _, _, j₃, h₃⟩ | ⟨_, _, j₃⟩
  all_goals
    have ⟨hchange', _⟩ := Job.Ends.ofAction_iff.mp j₃
    obtain ⟨done, hcopy, rfl⟩ := Action.change_iff.mp hchange'
    have hdone := hfilled.trans (copyKept_untouched hout hk _ _ _ hcopy)
  case inr => exact hdone
  rcases Job.Ends.bind_iff.mp h₃ with ⟨_, _, _, j₄, h₄⟩ | ⟨_, _, j₄⟩
  all_goals
    have ⟨hfinish, _⟩ := Job.Ends.ofAction_iff.mp j₄
    have hfinished := (finish_untouched rfl (by exact hp) hfinish).1
  case inl =>
    obtain ⟨_, rfl, rfl⟩ := Job.Ends.pure_iff.mp h₄
    exact hdone.trans hfinished
  case inr => exact hdone.trans hfinished

-- Carrying out a plan leaves the places alone that its files keep clear of.
theorem execute_untouched {r : Except Stop RebuildResult} (hcwd : before.cwd = cwd)
    (hout : out.Apart off cwd) (hk : kept.Forward)
    (hc : Clears off cwd engine caller s settings out kept)
    (hp : before.programs.Avoid off cwd (finishTargets settings))
    (h : (execute engine caller s settings out kept).Ends st before r st' after) :
    Untouched off before.disk after.disk := by
  rcases Job.Ends.bind_iff.mp h with ⟨modules, _, _, j₁, h₁⟩ | ⟨_, _, j₁⟩
  all_goals obtain ⟨hmodules, rfl, rfl⟩ := Job.Ends.ofExcept_iff.mp j₁
  case inr => exact .refl _
  rcases Job.Ends.bind_iff.mp h₁ with ⟨⟨e, c⟩, _, _, j₂, h₂⟩ | ⟨_, _, j₂⟩
  all_goals obtain ⟨hworkers, rfl, rfl⟩ := Job.Ends.ofExcept_iff.mp j₂
  case inr => exact .refl _
  have hfiles := hc modules e c (mapError_eq_ok.mp hmodules.symm) hworkers.symm
  rcases Job.Ends.bind_iff.mp h₂ with ⟨_, _, u, j₃, h₃⟩ | ⟨_, _, j₃⟩
  all_goals
    have ⟨hmake, _⟩ := Job.Ends.ofAction_iff.mp j₃
    have ⟨hu, hpaved, _⟩ := makeOutput_ends hmake
    rw [hcwd] at hpaved
    have hmade := Untouched.of_paved hout.way hpaved
  case inr => exact hmade
  case inl =>
    have hcwd' : u.cwd = cwd := by rw [hu, hcwd]
    have hp' : u.programs.Avoid off cwd (finishTargets settings) := by
      rw [hu]
      exact hp
    exact hmade.trans (fill_untouched hcwd' hout hk (hfiles _) hp' h₃)

theorem perform_untouched {out : String} {r : Except Stop RebuildResult} (hcwd : before.cwd = cwd)
    (hout : (Location.ofText out).Apart off cwd) (hk : kept.Forward)
    (hc : Clears off cwd engine caller s settings (.ofText out) kept)
    (hp : before.programs.Avoid off cwd (finishTargets settings))
    (h : (perform engine caller s settings out kept).Ends st before r st' after) :
    Untouched off before.disk after.disk := by
  obtain ⟨_, hx, _⟩ := perform_iff.mp h
  exact execute_untouched hcwd hout hk hc hp hx

end Refit.Rebuild
