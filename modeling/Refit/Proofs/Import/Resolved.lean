import Refit.Import
import Refit.Proofs.Session.Looks

/-!
Imports in a session whose configuration is resolved: what is planned for an analysed project, and
carried out.
-/

namespace Refit

theorem Config.current_ends {s : Session} {r : Resolved} (h : s.config = some r) :
    Ends current s (.ok r) s := by
  rw [current, Ends.get_bind_iff, h]
  exact Ends.pure_iff.mpr ⟨rfl, rfl⟩

-- What a plan keeps of the files that were read, where files are kept at all.
def Schema.keptOf (p : Schema) (keep : Bool) (read : Except Stop (List SourceFile)) :
    Except Stop Groups :=
  if keep then do (p.keptFiles (← read)).mapError .fault else .ok []

-- Carries out a plan with the files that it keeps.
def Rebuild.carryOut (p : Schema) (settings : Settings) (out : String)
    (kept : Except Stop Groups) : Action RebuildResult := do
  standard p settings out (← Action.ofExcept kept)

namespace Import

variable {i : Import} {s v : Session} {r : Config.Resolved} {snap : Snapshot} {made : Schema}
  {files : Action (List SourceFile)} {read : Except Stop (List SourceFile)} {f : Fault}
  {result : Except Stop RebuildResult}

theorem settingsOf_ends (hr : s.config = some r) (hi : i.settings = none) :
    Ends i.settingsOf s (.ok r.settings) s := by
  rw [settingsOf, hi]
  exact (Ends.bind_of_ok (Config.current_ends hr)).mpr (Ends.pure_iff.mpr ⟨rfl, rfl⟩)

theorem depthOf_ends (hr : s.config = some r) :
    Ends i.depthOf s (.ok (i.depth.orElse (r.get "analysis.depth" "deep"))) s := by
  rw [depthOf, Datum.orElse]
  split
  case isTrue => exact Ends.pure_iff.mpr ⟨rfl, rfl⟩
  case isFalse =>
    exact (Ends.bind_of_ok (Config.current_ends hr)).mpr (Ends.pure_iff.mpr ⟨rfl, rfl⟩)

theorem plan_ends (hr : s.config = some r) (hi : i.settings = none)
    (hmade : Schema.ofSnapshot snap i.options = .ok made) (hf : Ends files s read s) :
    Ends (i.plan snap files) s
      ((made.keptOf i.keepCode read).map fun kept => (made, kept, r.settings)) s := by
  have hrest (kept : Groups) : Ends (do return (made, kept, ← i.settingsOf)) s
      (.ok (made, kept, r.settings)) s :=
    (Ends.bind_of_ok (settingsOf_ends hr hi)).mpr (Ends.pure_iff.mpr ⟨rfl, rfl⟩)
  refine (Ends.bind_of_ok (Action.ofRead_ok_iff.mpr ⟨hmade, rfl⟩)).mpr ?_
  rw [Schema.keptOf]
  split
  case isFalse => exact (Ends.bind_of_ok (Ends.pure_iff.mpr ⟨rfl, rfl⟩)).mpr (hrest [])
  case isTrue =>
    cases read
    case error e => exact Ends.bind_of_error hf
    case ok fs =>
      refine (Ends.bind_of_ok hf).mpr ?_
      change Ends _ s (((made.keptFiles fs).mapError .fault).map _) s
      cases made.keptFiles fs
      case error => exact Ends.bind_of_error (Action.ofExcept_iff.mpr ⟨rfl, rfl⟩)
      case ok kept => exact (Ends.bind_of_ok (Action.ofRead_ok_iff.mpr ⟨rfl, rfl⟩)).mpr (hrest kept)

theorem plan_fails (hf : Schema.ofSnapshot snap i.options = .error f) :
    Ends (i.plan snap files) s (.error (.fault f)) s :=
  Ends.bind_of_error (Action.ofExcept_iff.mpr ⟨by rw [hf]; rfl, rfl⟩)

theorem rebuildBy_ends {source : String} (hr : s.config = some r) (hi : i.settings = none)
    (hmade : Schema.ofSnapshot snap i.options = .ok made) (hf : Ends files s read s)
    (h : Ends (Rebuild.carryOut made r.settings i.out (made.keptOf i.keepCode read)) s result v) :
    ∃ st', (i.rebuildBy (some .ledger) (some .ledger) source snap files).Ends {} s
      (result.map (.done source snap made)) st' v := by
  have hplan := plan_ends hr hi hmade hf
  rw [Rebuild.carryOut] at h
  cases hk : made.keptOf i.keepCode read
  case error e =>
    rw [hk] at h hplan
    obtain ⟨rfl, rfl⟩ := h.unique (Ends.bind_of_error (Action.ofExcept_iff.mpr ⟨rfl, rfl⟩))
    exact ⟨_, Job.Ends.bind_of_error (Job.Ends.ofAction_iff.mpr ⟨hplan, rfl⟩)⟩
  case ok kept =>
    rw [hk] at h hplan
    obtain ⟨st', h⟩ := Job.Ends.startingAt_iff.mp
      ((Ends.bind_of_ok (Action.ofExcept_iff.mpr ⟨rfl, rfl⟩)).mp h)
    refine ⟨st', (Job.Ends.bind_of_ok (Job.Ends.ofAction_iff.mpr ⟨hplan, rfl⟩)).mpr ?_⟩
    cases result
    case error => exact Job.Ends.bind_of_error h
    case ok => exact (Job.Ends.bind_of_ok h).mpr (Job.Ends.pure_iff.mpr ⟨rfl, rfl, rfl⟩)

theorem rebuildBy_fails {source : String} (hf : Schema.ofSnapshot snap i.options = .error f) :
    (i.rebuildBy (some .ledger) (some .ledger) source snap files).Ends {} s (.error (.fault f)) {} s :=
  Job.Ends.bind_of_error (Job.Ends.ofAction_iff.mpr ⟨plan_fails hf, rfl⟩)

/-! Exports -/

variable {path : String} {e : Export} {x : Except Stop ImportResult}

theorem exported_ends (ha : Ends (i.analyseExport path) s (.ok (e, snap)) s)
    (h : ∃ st', (i.rebuildBy (some .ledger) (some .ledger) path snap (pure e.dartFiles)).Ends {} s x
      st' v) : Ends (i.exported path) s x v := by
  obtain ⟨st', h⟩ := h
  refine Job.Ends.startingAt_iff.mpr ⟨st', ?_⟩
  exact (Job.Ends.bind_of_ok
    (Job.Ends.outcome_iff.mpr (Job.Ends.ofAction_iff.mpr ⟨ha, rfl⟩))).mpr h

-- The result that tells of an analysis that failed, or what stopped it.
def unanalysed (source : String) (name : String) : Stop → Except Stop ImportResult
  | .failure f => .ok (.failed source f.message name)
  | e => .error e

theorem exported_fails {e : Stop} (ha : Ends (i.analyseExport path) s (.error e) s) :
    Ends (i.exported path) s (unanalysed path "" e) s := by
  refine Job.Ends.startingAt_iff.mpr ⟨{}, (Job.Ends.bind_of_ok
    (Job.Ends.outcome_iff.mpr (Job.Ends.ofAction_iff.mpr ⟨ha, rfl⟩))).mpr ?_⟩
  cases e
  case failure => exact Job.Ends.pure_iff.mpr ⟨rfl, rfl, rfl⟩
  all_goals exact Job.Ends.throw_iff.mpr ⟨rfl, rfl, rfl⟩

end Import

end Refit
