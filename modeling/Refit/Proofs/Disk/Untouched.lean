import Refit.Proofs.Disk.Alike
import Refit.Proofs.Disk.Writes
import Refit.Proofs.Session.Runs

/-!
Changes that leave some places of the disk as they are: those that every written path keeps clear
of. A folder stays a folder in any case.
-/

namespace Refit

variable {off : List String → Prop} {cwd : List String} {l target : Location} {d d' d'' : Disk}

namespace Disk

-- A disk after changes that left some places alone, and every folder a folder.
structure Untouched (off : List String → Prop) (d d' : Disk) : Prop where
  same : ∀ p, off p → d'.find? p = d.find? p
  folders : ∀ p, d.find? p = some .folder → d'.find? p = some .folder

namespace Untouched

theorem refl (d : Disk) : Untouched off d d :=
  ⟨fun _ _ => rfl, fun _ => id⟩

theorem trans (h₁ : Untouched off d d') (h₂ : Untouched off d' d'') : Untouched off d d'' where
  same p hp := (h₂.same p hp).trans (h₁.same p hp)
  folders p hp := h₂.folders p (h₁.folders p hp)

theorem of_paved (hl : l.Avoids off cwd) (h : Paved cwd l d d') : Untouched off d d' where
  same p hp := (h p).resolve_right fun ⟨hpasses, _⟩ => hl p hpasses hp
  folders p hp := by
    rcases h p with h | ⟨_, hnone, _⟩
    · rw [h, hp]
    · rw [hp] at hnone
      cases hnone

end Untouched

theorem makeFolders_untouched (hl : l.Avoids off cwd) :
    Stays (Untouched off) (makeFolders cwd l) :=
  fun _ _ _ h => .of_paved hl (makeFolders_paves _ _ _ h)

theorem writeBytes_untouched {b : List UInt8} (hl : l.Avoids off cwd) :
    Stays (Untouched off) (writeBytes cwd l b) := by
  intro d r d' h
  rcases writeBytes_cases h with ⟨_, rfl⟩ | ⟨_, hne, rfl⟩
  case inl => exact .refl _
  case inr =>
    have hset (p : List String) (hp : p ≠ l.reach cwd) :
        (d.set (l.reach cwd) (.file b)).find? p = d.find? p := by
      rw [find?_set (ne_nil_of_find?_ne hne), if_neg hp]
    refine ⟨fun p hp => hset p fun heq => hl p (heq ▸ .last) hp, fun p hp => ?_⟩
    rw [hset p fun heq => hne (heq ▸ hp), hp]

theorem store_untouched {content : String} (hl : l.Avoids off cwd) :
    Stays (Untouched off) (store cwd l content) :=
  .bind .trans (makeFolders_untouched hl.parent) fun _ => writeBytes_untouched hl

end Disk

theorem Action.placeFiles_untouched {fs : List (Location × List UInt8)}
    (hf : ∀ x ∈ fs, (target ++ x.1).Avoids off cwd) :
    Stays (Disk.Untouched off) (placeFiles target cwd fs) := by
  induction fs
  case nil => exact .of_pure .refl
  case cons f fs ih =>
    obtain ⟨hf, hfs⟩ := List.forall_mem_cons.mp hf
    exact .bind .trans (Disk.makeFolders_untouched hf.parent) fun _ =>
      .bind .trans (Disk.writeBytes_untouched hf) fun _ => ih hfs

-- A program may write files, but it leaves every folder a folder.
theorem Action.run_keeps_folders {c : Command} {s s' : Session} {r : Except Stop Outcome}
    {p : List String} (h : Ends (run c) s r s') (hp : s.disk.find? p = some .folder) :
    s'.disk.find? p = some .folder := by
  obtain ⟨_, d, hd, _, rfl⟩ := run_iff.mp h
  have hnowhere : ∀ x ∈ (s.programs.next c).1.files,
      (c.target ++ x.1).Avoids (fun _ => False) s.cwd := fun _ _ _ _ => id
  exact (placeFiles_untouched hnowhere _ _ _ hd).folders p hp

end Refit
