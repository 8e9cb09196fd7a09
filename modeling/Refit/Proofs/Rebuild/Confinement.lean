import Refit.Proofs.Disk.Confinement
import Refit.Proofs.Plan.Preservation
import Refit.Proofs.Rebuild.Execution
import Refit.Proofs.Session.Runs
import Refit.Proofs.Source.Path

/-!
A rebuild writes files only inside its output folder, whatever the paths are that it is given.

A generated file is checked before it is written. A kept one is not: it stays inside because no
file with a step back in its path is ever kept, and because its place is made of its path.
-/

namespace Refit

-- Kept files without a step back in their paths.
def Groups.Forward (kept : Groups) : Prop :=
  ∀ category f, kept.Holds category f → ".." ∉ Path.steps category ∧ ".." ∉ Path.steps f.path

theorem Category.not_mem_steps_name {c : Category} : ".." ∉ Path.steps c.name := by
  cases c <;> decide +kernel

theorem Category.not_isExcluded_of_of? {path : String} {c : Category} (h : of? path = some c) :
    SourceFile.isExcluded path = false := by
  rw [of?] at h
  split at h
  case isTrue => cases h
  case isFalse he => simpa using he

theorem Schema.forward_keptFiles {p : Schema} {fs : List SourceFile} {kept : Groups}
    (h : p.keptFiles fs = .ok kept) : kept.Forward := by
  intro category f hf
  have ⟨_, c, hc, hname⟩ := Groups.holds_ofFiles.mp ((holds_keptFiles h).mp hf).1
  exact ⟨hname ▸ Category.not_mem_steps_name,
    SourceFile.not_mem_steps_of_not_isExcluded (Category.not_isExcluded_of_of? hc)⟩

namespace Rebuild

open Disk (Confined Inside)

variable {σ : Type} {s : Schema} {settings : Settings} {kept : Groups} {out target : Location}
  {cwd : List String} {st st' : σ} {before after : Session}

/-! Writing -/

theorem tryStore_confined {root : List String} {content : String} {warning : String → String}
    (h : root <+: target.reach cwd) :
    Stays (Confined root) (tryStore cwd target content warning) := by
  intro d q d' hd
  have ⟨r, t, hs⟩ := Ends.exists_ends (Disk.store cwd target content) d
  obtain ⟨_, rfl⟩ := hd.unique (tryStore_ends hs)
  exact Disk.store_confined h _ _ _ hs

theorem tally_confined {root : List String} {rest : Disk.Change (Nat × List String)}
    {w : Option String} (h : Stays (Confined root) rest) : Stays (Confined root) (tally rest w) :=
  .bind .trans h fun _ => by cases w <;> exact .of_pure .refl

-- What is checked is where the path leads to.
theorem prefix_of_isInside (hcwd : ".." ∉ cwd) (h : isInside cwd out target) :
    out.reach cwd <+: target.reach cwd := by
  rw [isInside, Location.resolved_eq_reach hcwd, Location.resolved_eq_reach hcwd] at h
  exact List.isPrefixOf_iff_prefix.mp h

theorem writeFiles_confined {fs : Files} (hcwd : ".." ∉ cwd) :
    Stays (Confined (out.reach cwd)) (writeFiles cwd out fs) := by
  induction fs
  case nil => exact .of_pure .refl
  case cons f fs ih =>
    have ⟨path, content⟩ := f
    simp only [writeFiles]
    split
    case isTrue =>
      intro d q d' h
      rcases Ends.bind_iff.mp h with ⟨_, _, h, _⟩ | ⟨_, _, h⟩
      · cases (Ends.throw_iff.mp h).1
      · exact (Ends.throw_iff.mp h).2 ▸ .refl _
    case isFalse =>
      split
      case isTrue hi =>
        exact .bind .trans (tryStore_confined (prefix_of_isInside hcwd hi)) fun _ => tally_confined ih
      case isFalse => exact .bind .trans (.of_pure .refl) fun _ => tally_confined ih

theorem not_mem_steps_target {category path : String} (hc : ".." ∉ Path.steps category)
    (hp : ".." ∉ Path.steps path) : ".." ∉ Path.steps (Category.target category path) := by
  have ⟨rest, hrest, hsteps⟩ := @Category.steps_target category path
  rw [hsteps, List.cons_append, List.mem_cons, List.mem_append]
  rintro (h | h | h)
  · exact absurd h (by decide)
  · exact hc h
  · exact hp (hrest h)

-- A kept file goes below the folder of its category.
theorem prefix_of_forward {category path : String} (hc : ".." ∉ Path.steps category)
    (hp : ".." ∉ Path.steps path) :
    out.reach cwd <+: (out ++ .ofText (Category.target category path)).reach cwd := by
  rw [Location.reach_append_eq Category.root?_target (not_mem_steps_target hc hp)]
  exact List.prefix_append _ _

theorem copyCategory_confined {category : String} {fs : List SourceFile}
    (hc : ".." ∉ Path.steps category) (hf : ∀ f ∈ fs, ".." ∉ Path.steps f.path) :
    Stays (Confined (out.reach cwd)) (copyCategory cwd out category fs) := by
  induction fs
  case nil => exact .of_pure .refl
  case cons f fs ih =>
    have ⟨hf, hfs⟩ := List.forall_mem_cons.mp hf
    exact .bind .trans (tryStore_confined (prefix_of_forward hc hf)) fun _ => tally_confined (ih hfs)

theorem copyKept_confined (hk : kept.Forward) :
    Stays (Confined (out.reach cwd)) (copyKept cwd out kept) := by
  induction kept
  case nil => exact .of_pure .refl
  case cons g kept ih =>
    have ⟨category, fs⟩ := g
    have hrest : Groups.Forward kept := fun c f h => hk c f (Groups.holds_cons.mpr (.inr h))
    have hown : ∀ f ∈ fs, ".." ∉ Path.steps category ∧ ".." ∉ Path.steps f.path :=
      fun f h => hk category f (Groups.holds_cons.mpr (.inl ⟨rfl, h⟩))
    refine .bind .trans ?own fun _ => .bind .trans (ih hrest) fun _ => .of_pure .refl
    cases fs
    case nil => exact .of_pure .refl
    case cons f fs => exact copyCategory_confined (hown f (.head _)).1 fun f h => (hown f h).2

/-! The whole -/

theorem makeOutput_ends {q : Except Stop Unit} (h : Ends (makeOutput out) before q after) :
    after = { before with disk := after.disk } ∧
      Disk.Paved before.cwd out before.disk after.disk ∧
      (q = .ok () → after.disk.find? (out.reach before.cwd) = some .folder) := by
  rw [makeOutput, Ends.tryCatch_iff] at h
  rcases h with ⟨_, rfl, h⟩ | ⟨e, t, h, ht⟩
  case inl =>
    obtain ⟨d, hd, rfl⟩ := Action.change_iff.mp h
    exact ⟨rfl, Disk.makeFolders_paves _ _ _ hd, fun _ => Disk.find?_of_makeFolders hd⟩
  case inr =>
    obtain ⟨d, hd, rfl⟩ := Action.change_iff.mp h
    have hthrown : (∃ e', q = .error e') ∧ after = { before with disk := d } := by
      split at ht
      · exact ⟨⟨_, (Ends.throw_iff.mp ht).1⟩, (Ends.throw_iff.mp ht).2⟩
      · exact ⟨⟨_, (Ends.throw_iff.mp ht).1⟩, (Ends.throw_iff.mp ht).2⟩
    obtain ⟨⟨_, rfl⟩, rfl⟩ := hthrown
    exact ⟨rfl, Disk.makeFolders_paves _ _ _ hd, fun hq => by cases hq⟩

-- The programs that are run next write nothing.
def Quiet (s : Session) (n : Nat) : Prop :=
  ∀ o ∈ s.programs.script.take n, o.files = []

theorem run_of_quiet {c : Command} {n : Nat} {q : Except Stop Outcome} (hq : Quiet before (n + 1))
    (h : Ends (Action.run c) before q after) : after.disk = before.disk ∧ Quiet after n := by
  have hfiles : ∀ o ∈ before.programs.script.head?, o.files = [] := by
    intro o ho
    have ⟨os, hs⟩ := List.head?_eq_some_iff.mp ho
    exact hq o (by simp [hs])
  have ⟨_, ha⟩ := Action.run_quiet hfiles h
  refine ⟨ha ▸ rfl, fun o ho => hq o ?_⟩
  rw [ha] at ho
  cases hs : before.programs.script
  case nil => simp [Programs.next, hs] at ho
  case cons => simpa [Programs.next, hs] using .inr (by simpa [Programs.next, hs] using ho)

theorem finishOne_of_quiet {words : List String} {label : String} {n : Nat}
    {q : Except Stop (Option String)} (hq : Quiet before (n + 1))
    (h : Ends (finishOne out words label) before q after) :
    after.disk = before.disk ∧ Quiet after n := by
  rcases Ends.bind_iff.mp h with ⟨o, t, hrun, h⟩ | ⟨_, _, hrun⟩
  case inl =>
    have hafter : after = t := by
      split at h
      all_goals exact (Ends.pure_iff.mp h).2
    exact hafter ▸ run_of_quiet hq hrun
  case inr => exact run_of_quiet hq hrun

theorem mapM_finishOne_of_quiet {programs : List (List String × String)}
    {q : Except Stop (List (Option String))} (hq : Quiet before programs.length)
    (h : Ends (programs.mapM fun (words, label) => finishOne out words label) before q after) :
    after.disk = before.disk := by
  induction programs generalizing before q
  case nil => exact (Ends.pure_iff.mp h).2 ▸ rfl
  case cons p ps ih =>
    rw [List.mapM_cons] at h
    rcases Ends.bind_iff.mp h with ⟨_, t, hp, h⟩ | ⟨_, _, hp⟩
    case inl =>
      have ⟨hd, ht⟩ := finishOne_of_quiet hq hp
      rcases Ends.bind_iff.mp h with ⟨_, u, hps, h⟩ | ⟨_, _, hps⟩
      case inl =>
        obtain ⟨_, rfl⟩ := Ends.pure_iff.mp h
        exact (ih ht hps).trans hd
      case inr => exact (ih ht hps).trans hd
    case inr => exact (finishOne_of_quiet hq hp).1

theorem finish_of_quiet {q : Except Stop (List String)}
    (hq : Quiet before (finishing settings).length) (h : Ends (finish out settings) before q after) :
    after.disk = before.disk := by
  rcases Ends.bind_iff.mp h with ⟨_, t, hm, h⟩ | ⟨_, _, hm⟩
  · exact (Ends.pure_iff.mp h).2 ▸ mapM_finishOne_of_quiet hq hm
  · exact mapM_finishOne_of_quiet hq hm

-- A disk after files were written inside the output folder, if any were.
def WrittenInside (out : Location) (before after : Session) : Prop :=
  ∃ ws, before.disk.Overridden ws after.disk ∧ ∀ w ∈ ws, Inside (out.reach before.cwd) w.1

theorem WrittenInside.refl (out : Location) (s : Session) : WrittenInside out s s :=
  ⟨[], .refl _, nofun⟩

theorem fill_confined {engine : Engine σ} {caller : Caller σ} {modules : List Datum}
    {q : Except Stop RebuildResult} (hcwd : ".." ∉ before.cwd) (hk : kept.Forward)
    (hq : Quiet before (finishing settings).length)
    (h : (fill engine caller s settings out kept modules).Ends st before q st' after) :
    Confined (out.reach before.cwd) before.disk after.disk := by
  rcases Job.Ends.bind_iff.mp h with ⟨p, _, _, j₁, h₁⟩ | ⟨_, _, j₁⟩
  all_goals obtain ⟨_, rfl⟩ := Job.Ends.ofWork_iff.mp j₁
  case inr => exact .refl _
  rcases Job.Ends.bind_iff.mp h₁ with ⟨_, _, _, j₂, h₂⟩ | ⟨_, _, j₂⟩
  all_goals
    have ⟨hchange, _⟩ := Job.Ends.ofAction_iff.mp j₂
    obtain ⟨filled, hwrite, rfl⟩ := Action.change_iff.mp hchange
    have hfilled := writeFiles_confined hcwd _ _ _ hwrite
  case inr => exact hfilled
  rcases Job.Ends.bind_iff.mp h₂ with ⟨_, _, _, j₃, h₃⟩ | ⟨_, _, j₃⟩
  all_goals
    have ⟨hchange', _⟩ := Job.Ends.ofAction_iff.mp j₃
    obtain ⟨done, hcopy, rfl⟩ := Action.change_iff.mp hchange'
    have hdone := hfilled.trans (copyKept_confined hk _ _ _ hcopy)
  case inr => exact hdone
  rcases Job.Ends.bind_iff.mp h₃ with ⟨_, _, _, j₄, h₄⟩ | ⟨_, _, j₄⟩
  all_goals
    have ⟨hfinish, _⟩ := Job.Ends.ofAction_iff.mp j₄
    have hsame := finish_of_quiet (by exact hq) hfinish
  case inl =>
    obtain ⟨_, rfl, rfl⟩ := Job.Ends.pure_iff.mp h₄
    exact hsame ▸ hdone
  case inr => exact hsame ▸ hdone

theorem execute_writes_inside {engine : Option (Engine σ)} {caller : Option (Caller σ)}
    {q : Except Stop RebuildResult} (hcwd : ".." ∉ before.cwd) (hk : kept.Forward)
    (hq : Quiet before (finishing settings).length)
    (h : (execute engine caller s settings out kept).Ends st before q st' after) :
    WrittenInside out before after := by
  rcases Job.Ends.bind_iff.mp h with ⟨modules, _, _, j₁, h₁⟩ | ⟨_, _, j₁⟩
  all_goals obtain ⟨_, rfl, rfl⟩ := Job.Ends.ofExcept_iff.mp j₁
  case inr => exact .refl out _
  rcases Job.Ends.bind_iff.mp h₁ with ⟨⟨e, c⟩, _, _, j₂, h₂⟩ | ⟨_, _, j₂⟩
  all_goals obtain ⟨_, rfl, rfl⟩ := Job.Ends.ofExcept_iff.mp j₂
  case inr => exact .refl out _
  rcases Job.Ends.bind_iff.mp h₂ with ⟨_, _, u, j₃, h₃⟩ | ⟨_, _, j₃⟩
  all_goals
    have ⟨hout, _⟩ := Job.Ends.ofAction_iff.mp j₃
    have ⟨hu, hpaved, hfolder⟩ := makeOutput_ends hout
  case inr => exact ⟨[], .of_paved hpaved, nofun⟩
  case inl =>
    rw [hu] at h₃ hfolder
    have ⟨ws, hws, hi⟩ := fill_confined (by exact hcwd) hk (by exact hq) h₃ (hfolder rfl)
    exact ⟨ws, (Disk.Overridden.of_paved hpaved).trans hws, hi⟩

-- Every file that a rebuild writes, and every file that is changed by it, is inside the output
-- folder. What the programs write that finish a project is not looked at here.
theorem standard_writes_inside {out : String} {fs : List SourceFile}
    {q : Except Stop RebuildResult} (hcwd : ".." ∉ before.cwd) (hk : s.keptFiles fs = .ok kept)
    (hq : Quiet before (finishing settings).length)
    (h : Ends (standard s settings out kept) before q after) :
    let root := (Location.ofText out).reach before.cwd
    ∃ ws, before.disk.Overridden ws after.disk ∧ (∀ w ∈ ws, Inside root w.1) ∧
      ∀ p, after.disk.content? p ≠ before.disk.content? p → Inside root p := by
  have ⟨_, hp⟩ := standard_iff.mp h
  have ⟨_, hx, _⟩ := perform_iff.mp hp
  have ⟨ws, hws, hi⟩ := execute_writes_inside hcwd (Schema.forward_keptFiles hk) hq hx
  exact ⟨ws, hws, hi, fun p => hws.inside_of_ne hi⟩

/-! Names and paths that lead out of the output folder -/

def strayModel : SourceFile :=
  ⟨"lib/../../models/stray.dart", "class Stray \x7b\x7d\n"⟩

def ownModel : SourceFile :=
  ⟨"//lib//models//own.dart", "class Own \x7b\x7d\n"⟩

-- A plan with a module whose name steps back, and with models at odd paths.
def straying : Schema :=
  { definition := [(.text "name", .text "demo"),
      (.text "modules", .list [.record [("id", .text "../../../stray")]])]
    preserved := [.text strayModel.path, .text ownModel.path] }

theorem keptFiles_straying :
    straying.keptFiles [strayModel, ownModel] = .ok [("models", [ownModel])] := by
  have h : (straying.keptFiles [strayModel, ownModel]).toOption.any fun kept =>
      kept == [("models", [ownModel])] := by
    decide +kernel
  have ⟨_, hk, he⟩ := any_toOption.mp h
  exact eq_of_beq he ▸ hk

theorem standard_writes_inside_straying :
    ∃ r after, Ends (standard straying {} "out" [("models", [ownModel])]) workFolder (.ok r) after ∧
      r.success ∧ r.copied = 1 ∧
      r.warnings.map Datum.shown =
        ["Skipped generated file outside output directory: config/modules/../../../stray.yaml"] ∧
      ∀ p, after.disk.content? p ≠ workFolder.disk.content? p → Inside ["work", "out"] p := by
  have h : Ends.returnsWith (standard straying {} "out" [("models", [ownModel])]) workFolder
      fun r _ => r.success && r.copied == 1 && r.warnings.map Datum.shown ==
        ["Skipped generated file outside output directory: config/modules/../../../stray.yaml"] := by
    decide +kernel
  have ⟨r, after, hends, hp⟩ := Ends.of_returnsWith h
  simp only [Bool.and_eq_true, beq_iff_eq] at hp
  have ⟨_, _, _, hi⟩ := standard_writes_inside (by decide) keptFiles_straying
    (by simp [Quiet, workFolder]) hends
  exact ⟨r, after, hends, hp.1.1, hp.1.2, hp.2, hi⟩

end Rebuild

end Refit
