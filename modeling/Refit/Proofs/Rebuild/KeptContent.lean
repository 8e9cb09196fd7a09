import Refit.Proofs.Plan.Preservation
import Refit.Proofs.Rebuild.Execution

/-!
What becomes of the files that are kept.

A kept file is found at its place below the folder of its category. The path from there does not
tell files apart that lie in folders of one name below different ones, so several may have the same
place. The last of them is the one that is found.
-/

namespace Refit.Rebuild

variable {s : Schema} {settings : Settings} {kept : Groups} {fs : List SourceFile} {f : SourceFile}
  {category : String} {before after : Session} {r : RebuildResult}

theorem mem_keptWrites {cwd : List String} {out : Location} {w : List String × String} :
    w ∈ keptWrites cwd out kept ↔ ∃ category f, kept.Holds category f ∧
      w = (keptPlace cwd out category f.path, f.content) := by
  simp only [keptWrites, List.mem_flatMap, List.mem_map, Groups.Holds]
  constructor
  · rintro ⟨⟨category, own⟩, hg, f, hf, rfl⟩
    exact ⟨category, f, ⟨own, hg, hf⟩, rfl⟩
  · rintro ⟨category, f, ⟨own, hg, hf⟩, rfl⟩
    exact ⟨(category, own), hg, f, hf, rfl⟩

-- Once all are copied, the place of a kept file holds the last of those that are copied there.
theorem Ran.exists_last {σ : Type} {engine : Option (Engine σ)} {caller : Option (Caller σ)}
    {out : Location} {st st' : σ}
    (x : Ran engine caller s settings out kept st st' before after r) (hw : Copied s r)
    (hf : kept.Holds category f) :
    ∃ last, (keptWrites before.cwd out kept).last? (keptPlace before.cwd out category f.path) =
        some last ∧
      x.done.content? (keptPlace before.cwd out category f.path) = some last.toUTF8.toList := by
  obtain ⟨last, hlast⟩ := Disk.Writes.exists_last? (mem_keptWrites.mpr ⟨category, f, hf, rfl⟩)
  refine ⟨last, hlast, ?_⟩
  rw [(x.copies_overridden hw).1.files, Disk.Writes.onto_eq_last?, hlast]
  rfl

theorem standard_kept_content {out : String} (hs : settings.NoFinish)
    (hk : s.keptFiles fs = .ok kept)
    (h : Ends (standard s settings out kept) before (.ok r) after) (hr : r.success)
    (hw : Unrefused s r) (hf : kept.Holds category f) :
    let writes := keptWrites before.cwd (.ofText out) kept
    let place := keptPlace before.cwd (.ofText out) category f.path
    f ∈ fs ∧ ∃ last, writes.last? place = some last ∧
      after.disk.content? place = some last.toUTF8.toList ∧
      (after.disk.content? place = some f.content.toUTF8.toList ↔ f.content = last) ∧
      ((∀ w ∈ writes, w.1 = place → w.2 = f.content) →
        after.disk.content? place = some f.content.toUTF8.toList) := by
  intro writes place
  have ⟨l, h⟩ := standard_iff.mp h
  have ⟨x⟩ := execute_returns (execute_of_success h hr)
  have ⟨last, hlast, hdone⟩ := x.exists_last hw.copied hf
  have hcontent : after.disk.content? place = some last.toUTF8.toList := by
    have hdisk : after.disk = x.done := congrArg Session.disk (x.after_eq hs)
    exact hdisk ▸ hdone
  have hown : after.disk.content? place = some f.content.toUTF8.toList ↔ f.content = last := by
    rw [hcontent, Option.some.injEq, Disk.toUTF8_toList_inj, eq_comm]
  have hselected := (Groups.holds_ofFiles.mp ((Schema.holds_keptFiles hk).mp hf).1).1
  refine ⟨hselected.mem, last, hlast, hcontent, hown, fun hsame => ?_⟩
  exact hown.mpr (hsame _ (Disk.Writes.mem_of_last? hlast) rfl).symm

/-! Two features that each have a model in a file of one name -/

def authUser : SourceFile :=
  ⟨"lib/features/auth/models/user.dart", "class A \x7b\x7d\n"⟩

def blogUser : SourceFile :=
  ⟨"lib/features/blog/models/user.dart", "class B \x7b\x7d\n"⟩

-- A plan that keeps both.
def twoUsers : Schema :=
  { definition := [(.text "name", .text "demo")]
    preserved := [.text authUser.path, .text blogUser.path] }

theorem keptFiles_twoUsers :
    twoUsers.keptFiles [authUser, blogUser] = .ok [("models", [authUser, blogUser])] := by
  have h : (twoUsers.keptFiles [authUser, blogUser]).toOption.any fun kept =>
      kept == [("models", [authUser, blogUser])] := by
    decide +kernel
  have ⟨_, hk, he⟩ := any_toOption.mp h
  exact eq_of_beq he ▸ hk

theorem standard_twoUsers :
    ∃ r after, Ends (standard twoUsers {} "out" [("models", [authUser, blogUser])]) workFolder
        (.ok r) after ∧
      r.success ∧ r.warnings = [] ∧
      after.disk.content? ["work", "out", "lib", "models", "user.dart"] =
        some blogUser.content.toUTF8.toList := by
  have h : Ends.returnsWith (standard twoUsers {} "out" [("models", [authUser, blogUser])])
      workFolder fun r after => r.success && r.warnings.isEmpty &&
        after.disk.content? ["work", "out", "lib", "models", "user.dart"] ==
          some blogUser.content.toUTF8.toList := by
    decide +kernel
  have ⟨r, after, hends, hp⟩ := Ends.of_returnsWith h
  simp only [Bool.and_eq_true, List.isEmpty_iff, beq_iff_eq] at hp
  exact ⟨r, after, hends, hp.1.1, hp.1.2, hp.2⟩

theorem kept_content_twoUsers :
    let kept : Groups := [("models", [authUser, blogUser])]
    let place := keptPlace workFolder.cwd (.ofText "out") "models" authUser.path
    ∃ (r : RebuildResult) (after : Session) (last : String),
      Ends (standard twoUsers {} "out" kept) workFolder (.ok r) after ∧
      (keptWrites workFolder.cwd (.ofText "out") kept).last? place = some last ∧
      after.disk.content? place = some last.toUTF8.toList := by
  have ⟨r, after, h, hr, hw, _⟩ := standard_twoUsers
  have hw : Unrefused twoUsers r := fun w hm => by simp [hw] at hm
  have hf : Groups.Holds [("models", [authUser, blogUser])] "models" authUser :=
    ⟨_, .head _, .head _⟩
  have ⟨_, last, hlast, hcontent, _⟩ :=
    standard_kept_content ⟨rfl, rfl⟩ keptFiles_twoUsers h hr hw hf
  exact ⟨r, after, last, h, hlast, hcontent⟩

-- Both models are kept, at one place, and the content of the first is lost.
theorem exists_kept_content_lost :
    ∃ kept r after, twoUsers.keptFiles [authUser, blogUser] = .ok kept ∧
      Ends (standard twoUsers {} "out" kept) workFolder (.ok r) after ∧ r.success ∧
      r.warnings = [] ∧ kept.Holds "models" authUser ∧
      after.disk.content? (keptPlace workFolder.cwd (.ofText "out") "models" authUser.path) ≠
        some authUser.content.toUTF8.toList := by
  have ⟨r, after, h, hr, hw, hcontent⟩ := standard_twoUsers
  refine ⟨_, r, after, keptFiles_twoUsers, h, hr, hw, ⟨_, .head _, .head _⟩, ?_⟩
  have hplace : keptPlace workFolder.cwd (.ofText "out") "models" authUser.path =
      ["work", "out", "lib", "models", "user.dart"] := by
    decide +kernel
  rw [hplace, hcontent, ne_eq, Option.some.injEq, Disk.toUTF8_toList_inj]
  decide

end Refit.Rebuild
