import Refit.Proofs.Disk.Writes

/-!
Changes of a disk that write files only inside a folder.
-/

namespace Refit

namespace Disk

variable {root p : List String} {d d' d'' : Disk} {ws vs : Writes} {cwd : List String}

-- A place inside a folder.
def Inside (root p : List String) : Prop :=
  root <+: p ∧ p ≠ root

-- A disk after files were written inside a folder, as long as the folder is there.
def Confined (root : List String) (d d' : Disk) : Prop :=
  d.find? root = some .folder → ∃ ws, d.Overridden ws d' ∧ ∀ w ∈ ws, Inside root w.1

namespace Writes
theorem onto_of_not_mem {t : Tree} (h : ∀ w ∈ ws, w.1 ≠ p) : ws.onto t p = t p := by
  rw [onto_eq_last?]
  cases hl : ws.last? p
  case none => rfl
  case some content => exact absurd rfl (h _ (mem_of_last? hl))
end Writes

theorem Overridden.inside_of_ne (h : d.Overridden ws d') (hi : ∀ w ∈ ws, Inside root w.1)
    (hne : d'.content? p ≠ d.content? p) : Inside root p := by
  by_contra hp
  refine hne ?_
  rw [h.files]
  exact Writes.onto_of_not_mem fun w hw he => hp (he ▸ hi w hw)

namespace Confined

theorem of_overridden_nil (h : d.Overridden [] d') : Confined root d d' :=
  fun _ => ⟨[], h, by simp⟩

theorem refl (d : Disk) : Confined root d d :=
  of_overridden_nil (.refl d)

theorem trans (h₁ : Confined root d d') (h₂ : Confined root d' d'') : Confined root d d'' := by
  intro hroot
  have ⟨ws, hws, hi⟩ := h₁ hroot
  have ⟨vs, hvs, hj⟩ := h₂ (hws.folders root hroot)
  refine ⟨ws ++ vs, hws.trans hvs, fun w hw => ?_⟩
  exact (List.mem_append.mp hw).elim (hi w) (hj w)

-- A file is never written where the folder is.
theorem of_overridden_singleton {content : String} (h : d.Overridden [(p, content)] d')
    (hp : root <+: p) : Confined root d d' := by
  intro hroot
  refine ⟨_, h, fun w hw => ?_⟩
  rw [List.mem_singleton.mp hw]
  refine ⟨hp, fun he => ?_⟩
  have hfolder := h.folders root hroot
  have hfile : d'.content? p = some content.toUTF8.toList := by
    rw [h.files, Writes.onto_singleton, Function.update_self]
  simp [content?, show p = root from he, hfolder] at hfile

end Confined

variable {target : Location} {content : String}

theorem store_confined (h : root <+: target.reach cwd) :
    Stays (Confined root) (store cwd target content) := by
  intro d r d' hs
  rcases store_cases hs with ⟨_, hd⟩ | ⟨_, hd⟩
  · exact .of_overridden_nil hd
  · exact .of_overridden_singleton hd h

end Disk

end Refit
