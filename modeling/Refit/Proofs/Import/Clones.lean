import Mathlib.Logic.Function.Basic
import Refit.Proofs.Import.Failing
import Refit.Proofs.Rebuild.Paths
import Refit.Proofs.Rebuild.Untouched
import Refit.Proofs.Source.CloneFolders

/-!
The temporary folders of clones: one is made with a clone, and it is gone again with the clone,
however an import of it ends.
-/

namespace Refit

/-! The folder of temporary folders -/

namespace Disk

variable {d d' : Disk} {temp : List String} {n name : String}

-- What is in a folder, by names.
def listing (d : Disk) (folder : List String) (name : String) : Option Node :=
  d.find? (folder ++ [name])

theorem Apart.listing_eq (h : Apart (temp ++ [n]) d d') (hn : name ≠ n) :
    d'.listing temp name = d.listing temp name :=
  h _ fun hp => hn (by simpa [eq_comm] using hp)

theorem listing_remove (d : Disk) (temp : List String) (n : String) :
    (d.remove (temp ++ [n])).listing temp = Function.update (d.listing temp) n none := by
  funext name
  rw [Function.update_apply, listing, find?_remove (by simp)]
  simp [listing, eq_comm]

end Disk

namespace Clone

variable {url : String} {s s' t : Session} {c : Clone} {k : Nat}

namespace Made

theorem of_looked (h : Made url t c s' k) (hl : s.Looked t) : Made url s c s' k where
  new := hl.disk ▸ hl.temp ▸ h.new
  apart := hl.disk ▸ hl.temp ▸ h.apart
  cwd := h.cwd.trans hl.cwd
  temp := h.temp.trans hl.temp
  script := hl.programs ▸ h.script
  failed := hl.temp ▸ h.failed
  cloned := hl.temp ▸ h.cloned
  asked := hl.programs ▸ h.asked

-- A clone that failed leaves no folder behind.
theorem listing_failed (h : Made url s c s' k) (hc : c.error ≠ none) :
    s'.disk.listing s.temp = s.disk.listing s.temp := by
  funext name
  by_cases hn : name = tempName k
  case pos =>
    have hgone := (h.failed (Option.isSome_iff_ne_none.mpr hc)).2
    rw [hn, Disk.listing, Disk.listing, hgone, h.new]
  case neg => exact h.apart.listing_eq hn

-- A clone that succeeded leaves one new folder.
theorem listing_cloned (h : Made url s c s' k) (hc : c.error = none) :
    s'.disk.listing s.temp =
      Function.update (s.disk.listing s.temp) (tempName k) (some .folder) := by
  funext name
  rw [Function.update_apply]
  split
  case isTrue hn => exact hn ▸ (h.cloned hc).2.2
  case isFalse hn => exact h.apart.listing_eq hn

-- The folder of a clone is removed with it, as long as the folders that it is in are there.
theorem remove_ends (h : Made url s c s' k) (hc : c.error = none) (ht : s.HasTemp)
    (hf : Fetchable url s) (hk : s.freshTemp = tempName k)
    (hkept : ∀ p, s'.disk.find? p = some .folder → t.disk.find? p = some .folder) :
    Ends (remove c.path) t (.ok ()) { t with disk := t.disk.remove (s.temp ++ [tempName k]) } := by
  have hleads : t.disk.Leads s.temp := fun m => hkept _ (ht.leads.of_apart h.apart m)
  have ⟨_, hpath, hfolder⟩ := h.cloned hc
  have hremove := Clone.remove_ends (s := t) ht.proper hf.named.1
    (Disk.place_of_leads (hk ▸ hf.fits) ht.forward hleads)
  rw [if_pos (hkept _ hfolder)] at hremove
  exact hpath ▸ hremove

-- Removing a clone again does nothing.
theorem removals_end {n : Nat} (h : Made url s c s' k) (hc : c.error = none) (ht : s.HasTemp)
    (hf : Fetchable url s) (hk : s.freshTemp = tempName k) :
    Ends ((List.replicate (n + 1) c.path).forM remove) s' (.ok ())
      { s' with disk := s'.disk.remove (s.temp ++ [tempName k]) } := by
  have hleads := ht.leads.of_apart (h.apart.trans (.of_remove (List.prefix_refl _)))
  rw [List.replicate_succ, (h.cloned hc).2.1]
  refine (Ends.bind_of_ok ((h.cloned hc).2.1 ▸ h.remove_ends hc ht hf hk fun _ => id)).mpr ?_
  refine removals_of_gone ht.proper hf.named.1 ?_ ?_
  · exact Disk.place_of_leads (hk ▸ hf.fits) ht.forward hleads
  · rw [Disk.find?_remove (by simp), if_pos (List.prefix_refl _)]

end Made

end Clone

/-! Imports -/

variable {σ : Type} {i : Import} {extra : List String} {before after : Session}

namespace Import

-- A place that an import writes to of its own: it is on the way to the output folder or in it, it is
-- on the way to the document of an added module, or a program writes there that is run after the
-- clone was made.
def Touches (i : Import) (extra : List String) (s : Session) (p : List String) : Prop :=
  (Location.ofText i.out).Passes s.cwd p ∨ (Location.ofText i.out).reach s.cwd <+: p ∨
    (∃ m ∈ extra, (Location.ofText i.out ++ .ofText (Output.configPath m)).Passes s.cwd p) ∨
    ∃ settings, ∃ l ∈ Rebuild.finishTargets settings, ∃ o ∈ s.programs.script.tail,
      ∃ f ∈ o.files, (l ++ f.1).Passes s.cwd p

-- The numbers that an import clones with can be written.
def Writable (i : Import) (s : Session) : Prop :=
  ∀ config t, Ends Config.current s (.ok config) t →
    (i.cloneDepth.orElse (config.get "clone.depth" (.int 1))).hasText ∧
      (config.get "clone.timeout" (.int Clone.defaultTimeout)).hasText

-- A session whose places of some kind an import leaves alone.
structure Spares (off : List String → Prop) (i : Import) (extra : List String) (s : Session) :
    Prop where
  output : (Location.ofText i.out).Apart off s.cwd
  modules : ∀ m ∈ extra, (Location.ofText i.out ++ .ofText (Output.configPath m)).Avoids off s.cwd
  programs : ∀ settings, s.programs.Avoid off s.cwd (Rebuild.finishTargets settings)

variable {off : List String → Prop}

theorem Spares.of_looked {t : Session} (h : Spares off i extra before) (hl : before.Looked t) :
    Spares off i extra t where
  output := hl.cwd ▸ h.output
  modules := hl.cwd ▸ h.modules
  programs := hl.cwd ▸ hl.programs ▸ h.programs

/-! Rebuilding -/

section

variable {st st' : σ} {snap : Snapshot} {files : Action (List SourceFile)}

-- What is kept of a plan is chosen from the files that are read, where files are kept at all.
theorem plan_returns {p : Schema × Groups × Settings}
    (h : Ends (i.plan snap files) before (.ok p) after) :
    Schema.ofSnapshot snap i.options = .ok p.1 ∧
      (p.2.1 = [] ∨ ∃ fs t, Ends files before (.ok fs) t ∧ p.1.keptFiles fs = .ok p.2.1) := by
  obtain ⟨made, _, hread, h₁⟩ := Ends.bind_ok_iff.mp h
  obtain ⟨hmade, rfl⟩ := Action.ofRead_ok_iff.mp hread
  have hrest {kept : Groups} {t : Session}
      (h : Ends (do return (made, kept, ← i.settingsOf)) t (.ok p) after) : p.1 = made ∧ p.2.1 = kept := by
    obtain ⟨_, _, _, h⟩ := Ends.bind_ok_iff.mp h
    obtain ⟨rfl, _⟩ := Ends.pure_ok_iff.mp h
    exact ⟨rfl, rfl⟩
  split at h₁
  case isTrue =>
    obtain ⟨fs, t, hfiles, h₂⟩ := Ends.bind_ok_iff.mp h₁
    obtain ⟨kept, _, hkept, h₂⟩ := Ends.bind_ok_iff.mp h₂
    obtain ⟨rfl, rfl⟩ := hrest h₂
    exact ⟨hmade, .inr ⟨fs, t, hfiles, (Action.ofRead_ok_iff.mp hkept).1⟩⟩
  case isFalse =>
    obtain ⟨kept, _, hkept, h₂⟩ := Ends.bind_ok_iff.mp h₁
    obtain ⟨rfl, _⟩ := Ends.pure_ok_iff.mp hkept
    obtain ⟨rfl, hkept⟩ := hrest h₂
    exact ⟨hmade, .inl hkept⟩

theorem forward_of_plan {p : Schema × Groups × Settings}
    (h : Ends (i.plan snap files) before (.ok p) after) : p.2.1.Forward := by
  rcases (plan_returns h).2 with hnone | ⟨_, _, _, hkept⟩
  · rw [hnone]
    exact fun _ _ hf => absurd hf (by simp [Groups.Holds])
  · exact Schema.forward_keptFiles hkept

-- Planning and rebuilding leave the places alone, however they end.
theorem rebuildBy_untouched {source : String} {r : Except Stop ImportResult} {st st' : Ledger}
    (hf : Looks files) (hs : snap.Found) (ho : i.options.Worded extra)
    (hc : Spares off i extra before)
    (h : (i.rebuildBy (some .ledger) (some .ledger) source snap files).Ends st before r st' after) :
    Disk.Untouched off before.disk after.disk := by
  rcases Job.Ends.bind_iff.mp h with ⟨⟨made, kept, settings⟩, _, t, j₁, h₁⟩ | ⟨_, _, j₁⟩
  all_goals
    obtain ⟨hplan, rfl⟩ := Job.Ends.ofAction_iff.mp j₁
    have hlooked := plan_looks hf _ _ _ hplan
  case inr => exact hlooked.disk ▸ .refl _
  case inl =>
    obtain ⟨hmade, _⟩ := plan_returns hplan
    have hkept : kept.Forward := forward_of_plan hplan
    have hspares := hc.of_looked hlooked
    have hclear : Rebuild.Clears off t.cwd (some .ledger) (some .ledger) made settings
        (.ofText i.out) kept :=
      Rebuild.clears_of_worded hspares.output (Schema.worded_ofSnapshot hs ho hmade) hspares.modules
    have hperformed {q : Except Stop RebuildResult} {st₁ st₂ : Ledger} {u : Session}
        (h : (Rebuild.perform (some .ledger) (some .ledger) made settings i.out kept).Ends st₁ t q st₂
          u) : Disk.Untouched off before.disk u.disk :=
      hlooked.disk ▸ Rebuild.perform_untouched rfl hspares.output hkept hclear
        (hspares.programs settings) h
    rcases Job.Ends.bind_iff.mp h₁ with ⟨_, _, _, j₂, h₂⟩ | ⟨_, _, j₂⟩
    case inl =>
      obtain ⟨_, rfl, rfl⟩ := Job.Ends.pure_iff.mp h₂
      exact hperformed j₂
    case inr => exact hperformed j₂

/-! Imports of a clone -/

-- A job whose failures are reported leaves what it left before.
theorem orFailed_ends {j : Job σ ImportResult} {failed : String → ImportResult}
    {r : Except Stop ImportResult} (h : (orFailed j failed).Ends st before r st' after) :
    ∃ q, j.Ends st before q st' after := by
  obtain ⟨q, t, u, hj⟩ := Job.Ends.exists_ends j st before
  have h := (Job.Ends.bind_of_ok (Job.Ends.outcome_iff.mpr hj)).mp h
  cases q
  case ok =>
    obtain ⟨_, rfl, rfl⟩ := Job.Ends.pure_iff.mp h
    exact ⟨_, hj⟩
  case error e =>
    cases e
    case failure =>
      obtain ⟨_, rfl, rfl⟩ := Job.Ends.pure_iff.mp h
      exact ⟨_, hj⟩
    all_goals
      obtain ⟨_, rfl, rfl⟩ := Job.Ends.throw_iff.mp h
      exact ⟨_, hj⟩

-- The action after a job is done however the job ends.
theorem andThen_ends {α : Type} {j : Job σ α} {last : Action Unit} {r : Except Stop α}
    (h : (andThen j last).Ends st before r st' after) :
    ∃ q x between, j.Ends st before q st' between ∧ Ends last between x after := by
  obtain ⟨q, t, u, hj⟩ := Job.Ends.exists_ends j st before
  rw [andThen, Job.Ends.bind_of_ok (Job.Ends.outcome_iff.mpr hj)] at h
  rcases Job.Ends.bind_iff.mp h with ⟨_, _, _, j₁, h₁⟩ | ⟨_, _, j₁⟩
  all_goals obtain ⟨hlast, rfl⟩ := Job.Ends.ofAction_iff.mp j₁
  case inl =>
    obtain ⟨_, rfl, rfl⟩ := Job.Ends.ofExcept_iff.mp h₁
    exact ⟨_, _, u, hj, hlast⟩
  case inr => exact ⟨_, _, u, hj, hlast⟩

end

-- An import of a clone leaves the places alone until it removes the clone.
theorem cloneBy_ends {url : String} {c : Clone} {r : Except Stop ImportResult} {st st' : Ledger}
    (ho : i.options.Worded extra) (hc : Spares off i extra before)
    (h : (i.cloneBy (some .ledger) (some .ledger) url c).Ends st before r st' after) :
    ∃ between x, Disk.Untouched off before.disk between.disk ∧
      Ends (Clone.remove c.path) between x after := by
  obtain ⟨_, x, between, hj, hremove⟩ := andThen_ends h
  obtain ⟨_, hj⟩ := orFailed_ends hj
  refine ⟨between, x, ?_, hremove⟩
  rcases Job.Ends.bind_iff.mp hj with ⟨snap, _, t, j₁, h₁⟩ | ⟨_, _, j₁⟩
  all_goals
    obtain ⟨ha, rfl⟩ := Job.Ends.ofAction_iff.mp j₁
    have hlooked := (Looks.bind depthOf_looks fun _ => Analysis.inFolder_looks) _ _ _ ha
  case inr => exact hlooked.disk ▸ .refl _
  case inl =>
    obtain ⟨_, _, _, ha⟩ := Ends.bind_ok_iff.mp ha
    exact hlooked.disk ▸ rebuildBy_untouched SourceTree.read_looks (Analysis.found_inFolder ha) ho
      (hc.of_looked hlooked) h₁

/-! The whole -/

variable {url : String}

-- Fetching a repository makes its clone, unless there is no configuration to fetch it with.
theorem fetch_cases {r : Except Stop Clone} (ht : before.HasTemp) (hf : Clone.Fetchable url before)
    (hw : i.Writable before) (h : Ends (i.fetch url) before r after) :
    (∃ e, r = .error e ∧ before.Looked after) ∨ ∃ c k, r = .ok c ∧ before.freshTemp = Clone.tempName k ∧
      Clone.Made url before c after k := by
  rcases Ends.bind_iff.mp h with ⟨config, t, hconfig, hmake⟩ | ⟨e, rfl, hconfig⟩
  all_goals have hlooked := Config.current_looks _ _ _ hconfig
  case inr => exact .inl ⟨e, rfl, hlooked⟩
  case inl =>
    obtain ⟨hdepth, htimeout⟩ := hw config t hconfig
    have ht' := ht.of_looked hlooked
    have hf' := hf.of_looked hlooked
    obtain ⟨c, _, hc⟩ := Clone.make_returns (i.branch.orElse (config.get "clone.branch" "main")) ht'
      hf' hdepth htimeout
    obtain ⟨rfl, rfl⟩ := hmake.unique hc
    obtain ⟨k, hk, hmade⟩ := Clone.exists_made ht' hf'.tame hc
    refine .inr ⟨c, k, rfl, ?_, hmade.of_looked hlooked⟩
    rw [← hk, Session.freshTemp, Session.freshTemp, hlooked.disk, hlooked.temp]

-- What an import touches is all that it writes to once its clone is made.
theorem spares_untouched {s : Session} (hcwd : before.cwd = s.cwd)
    (hscript : ∀ o ∈ before.programs.script, o ∈ s.programs.script.tail) :
    Spares (fun p => ¬i.Touches extra s p) i extra before := by
  refine ⟨⟨fun p hp => ?_, fun p hp => ?_⟩, fun m hm p hp => ?_, fun settings => ?_⟩
  · exact not_not.mpr (.inl (hcwd ▸ hp))
  · exact not_not.mpr (.inr (.inl (hcwd ▸ hp)))
  · exact not_not.mpr (.inr (.inr (.inl ⟨m, hm, hcwd ▸ hp⟩)))
  · intro o ho f hf l hl p hp
    exact not_not.mpr (.inr (.inr (.inr ⟨settings, l, hl, o, hscript o ho, f, hf, hcwd ▸ hp⟩)))

-- However an import ends, its clone is gone, and what it did not touch of its own is as it was.
theorem repositoryBy_listing {r : Except Stop ImportResult} {st st' : Ledger} {name : String}
    (ht : before.HasTemp) (hf : Clone.Fetchable url before) (ho : i.options.Worded extra)
    (hw : i.Writable before) (hname : ¬i.Touches extra before (before.temp ++ [name]))
    (h : (i.repositoryBy (some .ledger) (some .ledger) url).Ends st before r st' after) :
    after.disk.listing before.temp name = before.disk.listing before.temp name := by
  rcases Job.Ends.bind_iff.mp h with ⟨c, _, u, j₁, h₁⟩ | ⟨_, rfl, j₁⟩
  all_goals
    obtain ⟨hfetch, rfl⟩ := Job.Ends.ofAction_iff.mp j₁
    rcases fetch_cases ht hf hw hfetch with ⟨_, he, hlooked⟩ | ⟨c, k, hc, hk, hmade⟩
  case inr.inl => rw [hlooked.disk]
  case inr.inr => cases hc
  case inl.inl => cases he
  case inl.inr =>
    obtain rfl := Except.ok.inj hc
    split at h₁
    case h_1 he =>
      obtain ⟨_, rfl, rfl⟩ := Job.Ends.pure_iff.mp h₁
      rw [hmade.listing_failed (by simp [he])]
    case h_2 he =>
      obtain ⟨between, _, hleft, hremove⟩ := cloneBy_ends ho
        (spares_untouched hmade.cwd hmade.script) h₁
      obtain ⟨_, rfl⟩ := hremove.unique (hmade.remove_ends he ht hf hk hleft.folders)
      rw [Disk.listing_remove, Function.update_apply]
      split
      case isTrue hn => exact hn ▸ hmade.new.symm
      case isFalse hn => exact (hleft.same _ hname).trans (hmade.apart.listing_eq hn)

end Import

theorem fetchable_cloningSession : Clone.Fetchable "a/b" cloningSession where
  named := by decide +kernel
  nullFree := by decide
  fits := by
    have h : (cloningSession.disk.place cloningSession.cwd (.absolute (cloningSession.temp ++
        [cloningSession.freshTemp]))).toOption.any fun p =>
          p == cloningSession.temp ++ [cloningSession.freshTemp] := by
      decide +kernel
    obtain ⟨p, hp, h⟩ := any_toOption.mp h
    rw [hp, eq_of_beq h]
  below := by simp [cloningSession, Outcome.files]
  written := by
    have h : Ends.returnsWith (Action.placeFiles (.absolute (Clone.placeOf cloningSession.temp
        cloningSession.freshTemp "a/b")) cloningSession.cwd [(⟨none, ["README.md"]⟩, [])])
        (cloningSession.disk.set (cloningSession.temp ++ [cloningSession.freshTemp]) .folder)
        fun _ _ => true := by
      decide +kernel
    obtain ⟨_, d, hd, _⟩ := Ends.of_returnsWith h
    intro o ho
    obtain rfl := Option.some.inj ho
    exact ⟨d, hd⟩
  revision := by simp [cloningSession]

theorem writable_cloningSession : ({ out := "out" } : Import).Writable cloningSession := by
  have h : Ends.returnsWith Config.current cloningSession fun config _ =>
      (Datum.null.orElse (config.get "clone.depth" (.int 1))).hasText &&
        (config.get "clone.timeout" (.int Clone.defaultTimeout)).hasText := by
    decide +kernel
  obtain ⟨config, _, hconfig, htexts⟩ := Ends.of_returnsWith h
  intro config' t hends
  obtain ⟨heq, _⟩ := hends.unique hconfig
  obtain rfl := Except.ok.inj heq
  simpa using htexts

theorem not_touches_cloningSession :
    ¬({ out := "out" } : Import).Touches [] cloningSession ["tmp", "replant-git-00000000"] := by
  have hsteps : (Location.ofText "out") = ⟨none, ["out"]⟩ := by decide +kernel
  rintro (⟨k, hk⟩ | hreach | ⟨m, hm, _⟩ | ⟨_, _, _, o, ho, _⟩)
  · rw [hsteps] at hk
    rcases k with _ | k
    · simp [cloningSession, Location.reach] at hk
    · simp [cloningSession, Location.reach] at hk
  · rw [hsteps] at hreach
    simp [cloningSession, Location.reach] at hreach
  · cases hm
  · simp [cloningSession] at ho

-- Choices that are not made are in words.
theorem Options.worded_default : Options.Worded {} [] where
  plain := by simp [toDatum, Datum.record_plain_iff, Datum.Plain, Datum.AllPlain]
  architecture := ⟨_, rfl⟩
  state := ⟨_, rfl⟩
  extraModules := rfl

theorem freshTemp_cloningSession : cloningSession.freshTemp = "replant-git-00000000" := by
  decide +kernel

end Refit
