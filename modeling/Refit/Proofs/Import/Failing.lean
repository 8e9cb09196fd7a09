import Refit.Proofs.Rebuild.Events
import Refit.Proofs.Rebuild.Failing
import Refit.Proofs.Session.Looks
import Refit.Proofs.Source.Cloning

/-!
Imports that fail leave the files on the disk as they were.

An import fails before its rebuild begins, when nothing but a clone was made, or together with its
rebuild, when the output folder may be there as well. The clone is removed either way.
-/

namespace Refit

variable {σ : Type} {engine : Option (Engine σ)} {caller : Option (Caller σ)} {i : Import}
  {st st' : σ} {before after : Session} {r : ImportResult}

theorem Session.HasTemp.of_looked {s s' : Session} (h : s.HasTemp) (hl : s.Looked s') :
    s'.HasTemp where
  proper := hl.temp ▸ h.proper
  forward := hl.temp ▸ h.forward
  leads := hl.disk ▸ hl.temp ▸ h.leads

theorem Clone.Tame.of_looked {url : String} {s s' : Session} (h : Tame url s) (hl : s.Looked s') :
    Tame url s' where
  below := hl.programs ▸ h.below
  revision := hl.programs ▸ h.revision
  nameless := hl.temp ▸ h.nameless

-- A result that tells of no rebuild is none of success.
def ImportResult.Settled (r : ImportResult) : Prop :=
  r.rebuild = none → r.success = false

namespace Import

open Rebuild (Abandoned)
open Session (Looked)

-- What a failed import leaves behind, apart from a clone: what its rebuild does, if that was begun.
inductive Left (engine : Option (Engine σ)) (out : Location) (r : ImportResult) (st st' : σ)
    (before after : Session) : Prop
  | early : r.rebuild = none → st' = st → Looked before after → Left engine out r st st' before after
  | late (s : Schema) (between : Session) : r.rebuild.isSome → Looked before between →
    Abandoned engine s out st st' between after → Left engine out r st st' before after

namespace Left

variable {out : Location}

theorem looked_left {between : Session} (h₁ : Looked before between)
    (h₂ : Left engine out r st st' between after) : Left engine out r st st' before after := by
  cases h₂
  case early hr hst h => exact .early hr hst (h₁.trans h)
  case late s mid hr hmid h => exact .late s mid hr (h₁.trans hmid) h

end Left

-- A reported failure is a result, so nothing of the kind stops a rebuild that is performed.
theorem perform_ne_failure {s : Schema} {settings : Settings} {out : String} {kept : Groups}
    {f : Failure} : ¬(Rebuild.perform engine caller s settings out kept).Ends st before
      (.error (.failure f)) st' after := by
  intro h
  have ⟨x, _, hx⟩ := Rebuild.perform_iff.mp h
  rw [Rebuild.reported.eq_def] at hx
  split at hx
  case h_1 => cases hx
  case h_2 => cases hx
  case h_3 hne _ => exact hne f (Except.error.inj hx.symm)

theorem rebuildBy_left {source : String} {s : Snapshot} {files : Action (List SourceFile)}
    (hf : Looks files)
    (h : (i.rebuildBy engine caller source s files).Ends st before (.ok r) st' after)
    (hr : r.success = false) : Left engine (.ofText i.out) r st st' before after := by
  have ⟨⟨schema, kept, settings⟩, _, u, j₁, h₁⟩ := Job.Ends.bind_ok_iff.mp h
  obtain ⟨hplan, rfl⟩ := Job.Ends.ofAction_iff.mp j₁
  have ⟨result, _, _, hperform, h₂⟩ := Job.Ends.bind_ok_iff.mp h₁
  obtain ⟨hresult, rfl, rfl⟩ := Job.Ends.pure_iff.mp h₂
  rw [Except.ok.inj hresult] at hr ⊢
  exact .late _ u rfl (plan_looks hf _ _ _ hplan) (Rebuild.perform_failed hperform hr)

theorem rebuildBy_failed {source : String} {s : Snapshot} {files : Action (List SourceFile)}
    {f : Failure} (hf : Looks files)
    (h : (i.rebuildBy engine caller source s files).Ends st before (.error (.failure f)) st' after) :
    st' = st ∧ Looked before after := by
  rcases Job.Ends.bind_iff.mp h with ⟨_, _, _, _, h₁⟩ | ⟨_, _, j₁⟩
  case inl =>
    rcases Job.Ends.bind_iff.mp h₁ with ⟨_, _, _, _, h₂⟩ | ⟨_, ⟨⟩, hperform⟩
    · cases (Job.Ends.pure_iff.mp h₂).1
    · exact absurd hperform perform_ne_failure
  case inr =>
    have ⟨hplan, hst⟩ := Job.Ends.ofAction_iff.mp j₁
    exact ⟨hst, plan_looks hf _ _ _ hplan⟩

theorem exportedBy_left {path : String}
    (h : (i.exportedBy engine caller path).Ends st before (.ok r) st' after)
    (hr : r.success = false) : Left engine (.ofText i.out) r st st' before after := by
  have ⟨q, _, u, j₁, h₁⟩ := Job.Ends.bind_ok_iff.mp h
  obtain ⟨hanalyse, rfl⟩ := Job.Ends.ofAction_iff.mp (Job.Ends.outcome_iff.mp j₁)
  have hlooked := analyseExport_looks _ _ _ hanalyse
  split at h₁
  case h_1 => exact .looked_left hlooked (rebuildBy_left .of_pure h₁ hr)
  case h_2 =>
    obtain ⟨hresult, rfl, rfl⟩ := Job.Ends.pure_iff.mp h₁
    exact .early (Except.ok.inj hresult ▸ rfl) rfl hlooked
  case h_3 => cases (Job.Ends.throw_iff.mp h₁).1

/-! Clones -/

theorem orFailed_returns {j : Job σ ImportResult} {failed : String → ImportResult}
    (h : (orFailed j failed).Ends st before (.ok r) st' after) :
    j.Ends st before (.ok r) st' after ∨
      ∃ f, j.Ends st before (.error (.failure f)) st' after ∧ r = failed f.message := by
  have ⟨q, _, _, j₁, h₁⟩ := Job.Ends.bind_ok_iff.mp h
  have hq := Job.Ends.outcome_iff.mp j₁
  split at h₁
  case h_1 =>
    obtain ⟨hr, rfl, rfl⟩ := Job.Ends.pure_iff.mp h₁
    exact .inl (Except.ok.inj hr ▸ hq)
  case h_2 f =>
    obtain ⟨hr, rfl, rfl⟩ := Job.Ends.pure_iff.mp h₁
    exact .inr ⟨f, hq, Except.ok.inj hr⟩
  case h_3 => cases (Job.Ends.throw_iff.mp h₁).1

theorem andThen_returns {j : Job σ ImportResult} {last : Action Unit}
    (h : (andThen j last).Ends st before (.ok r) st' after) :
    ∃ between, j.Ends st before (.ok r) st' between ∧ Ends last between (.ok ()) after := by
  have ⟨q, _, u, j₁, h₁⟩ := Job.Ends.bind_ok_iff.mp h
  have ⟨_, _, v, j₂, h₂⟩ := Job.Ends.bind_ok_iff.mp h₁
  obtain ⟨hlast, rfl⟩ := Job.Ends.ofAction_iff.mp j₂
  obtain ⟨hq, rfl, rfl⟩ := Job.Ends.ofExcept_iff.mp h₂
  exact ⟨u, hq ▸ Job.Ends.outcome_iff.mp j₁, hlast⟩

theorem cloneBy_left {url : String} {c : Clone}
    (h : (i.cloneBy engine caller url c).Ends st before (.ok r) st' after)
    (hr : r.success = false) :
    ∃ between, Left engine (.ofText i.out) r st st' before between ∧
      Ends (Clone.remove c.path) between (.ok ()) after := by
  have ⟨between, htried, hremove⟩ := andThen_returns h
  refine ⟨between, ?_, hremove⟩
  have hanalyse {root : Location} : Looks (do Analysis.inFolder root (← i.depthOf)) :=
    .bind depthOf_looks fun _ => Analysis.inFolder_looks
  rcases orFailed_returns htried with hj | ⟨f, hj, rfl⟩
  case inl =>
    have ⟨_, _, _, j₁, h₁⟩ := Job.Ends.bind_ok_iff.mp hj
    obtain ⟨ha, rfl⟩ := Job.Ends.ofAction_iff.mp j₁
    exact .looked_left (hanalyse _ _ _ ha) (rebuildBy_left SourceTree.read_looks h₁ hr)
  case inr =>
    rcases Job.Ends.bind_iff.mp hj with ⟨_, _, _, j₁, h₁⟩ | ⟨_, _, j₁⟩
    all_goals
      obtain ⟨ha, rfl⟩ := Job.Ends.ofAction_iff.mp j₁
      have hlooked := hanalyse _ _ _ ha
    case inl =>
      obtain ⟨rfl, hrest⟩ := rebuildBy_failed SourceTree.read_looks h₁
      exact .early rfl rfl (hlooked.trans hrest)
    case inr => exact .early rfl rfl hlooked

/-! Success -/

section

variable {source path url : String} {snap : Snapshot} {files : Action (List SourceFile)}

theorem rebuildBy_settled
    (h : (i.rebuildBy engine caller source snap files).Ends st before (.ok r) st' after) :
    r.Settled := by
  obtain ⟨_, _, _, _, h⟩ := Job.Ends.bind_ok_iff.mp h
  obtain ⟨_, _, _, _, h⟩ := Job.Ends.bind_ok_iff.mp h
  obtain ⟨hr, _, _⟩ := Job.Ends.pure_iff.mp h
  obtain rfl := Except.ok.inj hr
  exact fun hnone => by cases hnone

theorem exportedBy_settled (h : (i.exportedBy engine caller path).Ends st before (.ok r) st' after) :
    r.Settled := by
  obtain ⟨_, _, _, _, h⟩ := Job.Ends.bind_ok_iff.mp h
  split at h
  case h_1 => exact rebuildBy_settled h
  case h_2 =>
    obtain ⟨hr, _, _⟩ := Job.Ends.pure_iff.mp h
    exact Except.ok.inj hr ▸ fun _ => rfl
  case h_3 => cases (Job.Ends.throw_iff.mp h).1

theorem repositoryBy_settled
    (h : (i.repositoryBy engine caller url).Ends st before (.ok r) st' after) : r.Settled := by
  obtain ⟨c, _, _, _, h⟩ := Job.Ends.bind_ok_iff.mp h
  split at h
  case h_1 =>
    obtain ⟨hr, _, _⟩ := Job.Ends.pure_iff.mp h
    exact Except.ok.inj hr ▸ fun _ => rfl
  case h_2 =>
    obtain ⟨_, h, _⟩ := andThen_returns h
    rcases orFailed_returns h with h | ⟨_, _, rfl⟩
    case inl =>
      obtain ⟨_, _, _, _, h⟩ := Job.Ends.bind_ok_iff.mp h
      exact rebuildBy_settled h
    case inr => exact fun _ => rfl

theorem exported_settled (h : Ends (i.exported path) before (.ok r) after) : r.Settled := by
  obtain ⟨_, h⟩ := Job.Ends.startingAt_iff.mp h
  exact exportedBy_settled h

theorem repository_settled (h : Ends (i.repository url) before (.ok r) after) : r.Settled := by
  obtain ⟨_, h⟩ := Job.Ends.startingAt_iff.mp h
  exact repositoryBy_settled h

end

/-! What is spared -/

variable {out : Location}

-- What a failed import leaves as it was: of the places of a kind, all but some that become folders
-- on the way to the output folder, and of the work all but a project that could not be entered.
structure Spared (engine : Option (Engine σ)) (out : Location) (kind : List String → Prop)
    (r : ImportResult) (st st' : σ) (before after : Session) : Prop where
  places : ∀ p, kind p → after.disk.find? p = before.disk.find? p ∨
    (out.Passes before.cwd p ∧ before.disk.find? p = none ∧ after.disk.find? p = some .folder)
  early : r.rebuild = none →
    st' = st ∧ ∀ p, kind p → after.disk.find? p = before.disk.find? p
  work : st' = st ∨ ∃ worker ∈ engine, ∃ definition e,
    Ends (worker.create definition) st (.error e) st'

theorem Left.spared (h : Left engine out r st st' before after) :
    Spared engine out (fun _ => True) r st st' before after := by
  cases h
  case early hr hst h =>
    have hsame (p : List String) : after.disk.find? p = before.disk.find? p := by rw [h.disk]
    exact ⟨fun p _ => .inl (hsame p), fun _ => ⟨hst, fun p _ => hsame p⟩, .inl hst⟩
  case late s between hr hlooked h =>
    have hpaved := h.folders
    rw [hlooked.disk, hlooked.cwd] at hpaved
    refine ⟨fun p _ => hpaved p, fun hn => ?_, h.work.imp_right ?_⟩
    · simp [hn] at hr
    · exact fun ⟨worker, hw, e, he⟩ => ⟨worker, hw, _, e, he⟩

-- What is spared between a clone's being made and its being removed is spared all in all, apart
-- from the folder of the clone.
theorem Spared.around {root : List String} {made left : Session}
    (h : Spared engine out (fun _ => True) r st st' made left) (hcwd : made.cwd = before.cwd)
    (h₁ : Disk.Apart root before.disk made.disk) (h₂ : Disk.Apart root left.disk after.disk) :
    Spared engine out (fun p => ¬root <+: p) r st st' before after where
  places p hp := by
    rw [h₂ p hp, ← h₁ p hp, ← hcwd]
    exact h.places p trivial
  early hr := by
    have ⟨hst, hp⟩ := h.early hr
    refine ⟨hst, fun p hout => ?_⟩
    rw [h₂ p hout, hp p trivial, h₁ p hout]
  work := h.work

theorem repositoryBy_spared {url : String} (ht : before.HasTemp) (hg : Clone.Tame url before)
    (h : (i.repositoryBy engine caller url).Ends st before (.ok r) st' after)
    (hr : r.success = false) :
    ∃ k, let root := before.temp ++ [Clone.tempName k]
      before.disk.find? root = none ∧
      Spared engine (.ofText i.out) (fun p => ¬root <+: p) r st st' before after := by
  have ⟨c, _, u, j₁, h₁⟩ := Job.Ends.bind_ok_iff.mp h
  obtain ⟨hfetch, rfl⟩ := Job.Ends.ofAction_iff.mp j₁
  have ⟨config, t, hconfig, hmake⟩ := Ends.bind_ok_iff.mp hfetch
  have hlooked := Config.current_looks _ _ _ hconfig
  have ⟨k, _, hclone⟩ := Clone.exists_made (ht.of_looked hlooked) (hg.of_looked hlooked) hmake
  have ⟨hnew, hmade⟩ := And.intro hclone.new hclone.apart
  rw [hlooked.disk, hlooked.temp] at hnew hmade
  have hcwd := hclone.cwd.trans hlooked.cwd
  refine ⟨k, hnew, ?_⟩
  split at h₁
  case h_1 =>
    obtain ⟨hresult, rfl, rfl⟩ := Job.Ends.pure_iff.mp h₁
    have hleft : Left engine (.ofText i.out) r st' st' after after :=
      .early (Except.ok.inj hresult ▸ rfl) rfl (.refl _)
    exact hleft.spared.around hcwd hmade (.refl _)
  case h_2 hc =>
    have ⟨left, hleft, hremove⟩ := cloneBy_left h₁ hr
    have hroot : (Clone.rootOf (.ofText c.path)).reach left.cwd =
        before.temp ++ [Clone.tempName k] := by
      rw [(hclone.cloned hc).2.1, hlooked.temp, Location.ofText_text (Clone.proper_placeOf ht.proper),
        Clone.rootOf_placeOf hg.nameless, Location.reach_absolute]
      simpa using ⟨ht.forward, (Clone.tempName_ne (by decide)).symm⟩
    have ⟨hremoved, _⟩ := Clone.remove_apart (by simp [hroot]) hremove
    exact hleft.spared.around hcwd hmade (hroot ▸ hremoved)

/-! What the workers were asked for -/

-- Nothing but projects that could not be entered.
def NothingDone (log : List Event) : Prop :=
  ∀ event ∈ log, ∃ definition e, event = .entered definition (.error e)

theorem nothingDone_of_work {start left : σ} {log : List Event}
    (h : (left, log) = (start, []) ∨ ∃ worker ∈ engine.map Engine.noted, ∃ definition e,
      Ends (worker.create definition) (start, []) (.error e) (left, log)) :
    NothingDone log := by
  rcases h with h | ⟨_, hw, definition, e, h⟩
  case inl => simp [NothingDone, (Prod.mk.inj h).2]
  case inr =>
    obtain ⟨worker, _, rfl⟩ := Option.map_eq_some_iff.mp hw
    have ⟨_, hlog⟩ := Work.noted_iff.mp h
    intro event hevent
    rw [hlog, List.nil_append, List.mem_singleton] at hevent
    exact ⟨definition, e, hevent⟩

theorem content?_eq_of_find? {d d' : Disk} {p : List String}
    (h : d'.find? p = d.find? p ∨
      (out.Passes before.cwd p ∧ d.find? p = none ∧ d'.find? p = some .folder)) :
    d'.content? p = d.content? p := by
  rcases h with h | ⟨_, hn, hf⟩
  · simp [Disk.content?, h]
  · simp [Disk.content?, hn, hf]

end Import

-- A plan with a module that tools configure.
def toolPlan : Schema :=
  { definition := [(.text "modules", .list [.record [("id", .text "drift")]])] }

-- A session in which the next clone succeeds with one file.
def cloningSession : Session :=
  { disk := ⟨[(["work"], .folder), (["tmp"], .folder)]⟩, cwd := ["work"], home := [], temp := ["tmp"]
    programs := { script := [.ended 0 "" "" [(⟨none, ["README.md"]⟩, [])]] } }

theorem hasTemp_cloningSession : cloningSession.HasTemp where
  proper := by simp [Path.Proper, cloningSession, Path.counts]
  forward := by simp [cloningSession]
  leads k := by
    cases k
    case zero => rfl
    case succ => simp [cloningSession, Disk.find?, lookup_cons_ite]

theorem tame_cloningSession : Clone.Tame "a/b" cloningSession where
  below := by
    have hname : ".." ∉ Path.steps (Clone.nameOf "a/b") := by decide +kernel
    simp [cloningSession, Outcome.files, hname]
  revision := by simp [cloningSession]
  nameless := by
    intro h
    revert h
    decide +kernel

end Refit
