import Refit.Proofs.Import.Clones
import Refit.Proofs.Import.Resolved

/-!
The import of a clone that was made, step by step: it is analysed, rebuilt and removed.
-/

namespace Refit

variable {i : Import} {s t u v : Session} {c : Clone} {url : String} {depth : Datum}
  {snap : Snapshot} {settings : Settings} {made : Schema} {out : String}

theorem Schema.forward_keptOf {p : Schema} {keep : Bool} {read : Except Stop (List SourceFile)}
    {kept : Groups} (h : p.keptOf keep read = .ok kept) : kept.Forward := by
  rw [keptOf] at h
  split at h
  case isTrue =>
    obtain ⟨fs, _, hkept⟩ := bind_eq_ok.mp h
    exact forward_keptFiles (mapError_eq_ok.mp hkept)
  case isFalse =>
    obtain rfl := Except.ok.inj h
    exact fun _ _ hf => absurd hf (by simp [Groups.Holds])

-- Carrying out a plan leaves every folder a folder.
theorem Rebuild.carryOut_keeps_folders {keep : Bool} {read : Except Stop (List SourceFile)}
    {r : Except Stop RebuildResult}
    (h : Ends (carryOut made settings out (made.keptOf keep read)) s r u) :
    ∀ p, s.disk.find? p = some .folder → u.disk.find? p = some .folder := by
  rcases Ends.bind_iff.mp h with ⟨kept, t, hkept, hstandard⟩ | ⟨_, _, hkept⟩
  all_goals obtain ⟨hk, rfl⟩ := Action.ofExcept_iff.mp hkept
  case inr => exact fun _ => id
  obtain ⟨_, hperform⟩ := Job.Ends.startingAt_iff.mp hstandard
  have hnowhere (l : Location) : l.Avoids (fun _ => False) t.cwd := fun _ _ => id
  exact (perform_untouched rfl ⟨hnowhere _, fun _ _ => id⟩ (Schema.forward_keptOf hk.symm)
    (fun _ _ _ _ _ _ _ _ _ _ _ => hnowhere _) (fun _ _ _ _ _ _ => hnowhere _) hperform).folders

namespace Import

variable {σ α : Type} {st st' : σ}

-- The result of an import whose failures are reported.
def settled (source name : String) : Except Stop ImportResult → Except Stop ImportResult
  | .ok r => .ok r
  | .error e => unanalysed source name e

theorem orFailed_settled {j : Job σ ImportResult} {r : Except Stop ImportResult} {name : String}
    (h : j.Ends st s r st' u) :
    (orFailed j fun m => .failed url m name).Ends st s (settled url name r) st' u := by
  refine (Job.Ends.bind_of_ok (Job.Ends.outcome_iff.mpr h)).mpr ?_
  cases r
  case ok => exact Job.Ends.pure_iff.mpr ⟨rfl, rfl, rfl⟩
  case error e =>
    cases e
    case failure => exact Job.Ends.pure_iff.mpr ⟨rfl, rfl, rfl⟩
    all_goals exact Job.Ends.throw_iff.mpr ⟨rfl, rfl, rfl⟩

theorem andThen_of_ok {j : Job σ α} {last : Action Unit} {r : Except Stop α}
    (h : j.Ends st s r st' u) (hlast : Ends last u (.ok ()) v) :
    (andThen j last).Ends st s r st' v := by
  refine (Job.Ends.bind_of_ok (Job.Ends.outcome_iff.mpr h)).mpr ?_
  refine (Job.Ends.bind_of_ok (Job.Ends.ofAction_iff.mpr ⟨hlast, rfl⟩)).mpr ?_
  exact Job.Ends.ofExcept_iff.mpr ⟨rfl, rfl, rfl⟩

/-! Imports whose clone was made -/

section

variable (hfetch : Ends (i.fetch url) s (.ok c) t) (hc : c.error = none)
  (hdepth : Ends i.depthOf t (.ok depth) t)

include hfetch hc hdepth

theorem repository_unanalysed {e : Stop}
    (ha : Ends (Analysis.inFolder (.ofText c.path) depth) t (.error e) t)
    (hremove : Ends (Clone.remove c.path) t (.ok ()) v) :
    Ends (i.repository url) s (unanalysed url c.name e) v := by
  refine Job.Ends.startingAt_iff.mpr ⟨{}, ?_⟩
  refine (Job.Ends.bind_of_ok (Job.Ends.ofAction_iff.mpr ⟨hfetch, rfl⟩)).mpr ?_
  rw [hc]
  refine andThen_of_ok (orFailed_settled (r := .error e) (Job.Ends.bind_of_error ?_)) hremove
  exact Job.Ends.ofAction_iff.mpr ⟨(Ends.bind_of_ok hdepth).mpr ha, rfl⟩

theorem repository_rebuilt {r : Except Stop ImportResult}
    (ha : Ends (Analysis.inFolder (.ofText c.path) depth) t (.ok snap) t)
    (h : ∃ st', (i.rebuildBy (some .ledger) (some .ledger) url snap
      (SourceTree.read (.ofText c.path))).Ends {} t r st' u)
    (hremove : Ends (Clone.remove c.path) u (.ok ()) v) :
    Ends (i.repository url) s (settled url c.name r) v := by
  obtain ⟨st', h⟩ := h
  refine Job.Ends.startingAt_iff.mpr ⟨st', ?_⟩
  refine (Job.Ends.bind_of_ok (Job.Ends.ofAction_iff.mpr ⟨hfetch, rfl⟩)).mpr ?_
  rw [hc]
  refine andThen_of_ok (orFailed_settled ((Job.Ends.bind_of_ok ?_).mpr h)) hremove
  exact Job.Ends.ofAction_iff.mpr ⟨(Ends.bind_of_ok hdepth).mpr ha, rfl⟩

end

end Import

end Refit
