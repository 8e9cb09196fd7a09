import Refit.Proofs.Disk.Folders
import Refit.Proofs.Session.Respects

/-!
Disks that differ at some places only. Along paths that keep clear of those places they look the
same, and the same is written.
-/

namespace Refit

variable {off : List String → Prop} {cwd : List String} {l : Location} {d d' : Disk}

-- No place on the way of a path is among some.
def Location.Avoids (off : List String → Prop) (cwd : List String) (l : Location) : Prop :=
  ∀ p, l.Passes cwd p → ¬off p

theorem Location.Avoids.parent (h : l.Avoids off cwd) : l.parent.Avoids off cwd :=
  fun p hp => h p hp.of_parent

namespace Disk

-- Away from some places the same is on both disks.
def Alike (off : List String → Prop) (d d' : Disk) : Prop :=
  ∀ p, ¬off p → d'.find? p = d.find? p

theorem Alike.refl (d : Disk) : Alike off d d :=
  fun _ _ => rfl

theorem find?_set_eq {p q : List String} {n : Node} :
    (d.set p n).find? q = if q ≠ [] ∧ q = p then some n else d.find? q := by
  by_cases hq : q = []
  case pos => simp [find?, hq]
  case neg => simp [find?, set, hq, lookup_setNode]

theorem Alike.set {p : List String} {n : Node} (h : Alike off d d') :
    Alike off (d.set p n) (d'.set p n) := by
  intro q hq
  rw [find?_set_eq, find?_set_eq, h q hq]

/-! Looking -/

theorem walk_alike {at_ steps : List String} (h : Alike off d d')
    (hp : ∀ k, ¬off ((steps.take k).foldl Location.advance at_)) :
    d'.walk at_ steps = d.walk at_ steps := by
  induction steps generalizing at_
  case nil => rfl
  case cons s steps ih =>
    have hs : d'.walk (Location.advance at_ s) steps = d.walk (Location.advance at_ s) steps :=
      ih fun k => hp (k + 1)
    rw [Location.advance] at hs
    rw [walk, walk, h at_ (hp 0)]
    split
    · rfl
    · rfl
    · split
      case isTrue hup => simpa [hup] using hs
      case isFalse hup => simpa [hup] using congrArg _ hs

theorem place_alike (h : Alike off d d') (hl : l.Avoids off cwd) :
    d'.place cwd l = d.place cwd l := by
  have hw := @walk_alike off d d' (if l.root.isSome then [] else cwd) l.steps h fun k =>
    hl _ ⟨k, rfl⟩
  simp only [place, hw]

-- Where a path that keeps clear of the places leads to, the same is found.
theorem find?_alike {p : List String} (h : Alike off d d') (hl : l.Avoids off cwd)
    (hp : d.place cwd l = .ok p) : d'.find? p = d.find? p :=
  h p (place_eq_ok hp ▸ hl _ .last)

theorem look?_alike (h : Alike off d d') (hl : l.Avoids off cwd) :
    d'.look? cwd l = d.look? cwd l := by
  rw [look?, look?, place_alike h hl]
  split
  case h_1 p hp => rw [find?_alike h hl hp]
  all_goals rfl

theorem isFolder_alike (h : Alike off d d') (hl : l.Avoids off cwd) :
    d'.isFolder cwd l = d.isFolder cwd l := by
  rw [isFolder, isFolder, look?_alike h hl]

theorem isFile_alike (h : Alike off d d') (hl : l.Avoids off cwd) :
    d'.isFile cwd l = d.isFile cwd l := by
  rw [isFile, isFile, look?_alike h hl]

theorem readBytes_alike (h : Alike off d d') (hl : l.Avoids off cwd) :
    d'.readBytes cwd l = d.readBytes cwd l := by
  rw [readBytes, readBytes, place_alike h hl]
  cases hp : d.place cwd l
  case error => rfl
  case ok p => simp only [bind, Except.bind, find?_alike h hl hp]

/-! Writing -/

theorem lift_respects {α : Type} {q : Disk → Except Stop α}
    (hq : ∀ d d', Alike off d d' → q d' = q d) : Respects (Alike off) (lift q) := by
  intro d d' r s h hs
  obtain ⟨rfl, rfl⟩ := lift_iff.mp hs
  exact ⟨d', lift_iff.mpr ⟨(hq s d' h).symm, rfl⟩, h⟩

-- A place that a path leads to is not among the places where the disks differ.
theorem place_respects {α : Type} {f : List String → Change α} (hl : l.Avoids off cwd)
    (hf : ∀ p, ¬off p → Respects (Alike off) (f p)) :
    Respects (Alike off) (lift (fun d => d.place cwd l) >>= f) :=
  .bind_of (lift_respects fun _ _ h => place_alike h hl) fun p _ _ hp =>
    hf p (place_eq_ok (lift_iff.mp hp).1.symm ▸ hl _ .last)

theorem makeFolder_respects (hl : l.Avoids off cwd) :
    Respects (Alike off) (makeFolder cwd l) := by
  refine place_respects hl fun p hp => .get_bind (fun d d' h => by rw [h p hp]) fun d => ?_
  split
  · exact .of_throw
  · exact .of_modify fun _ _ h => h.set

theorem unlessFolder_respects {e : Stop} (hl : l.Avoids off cwd) :
    Respects (Alike off) (unlessFolder cwd l e) := by
  refine .bind (lift_respects fun _ _ h => isFolder_alike h hl) fun b => ?_
  split
  · exact .of_pure
  · exact .of_throw

theorem makeUnlessFolder_respects (hl : l.Avoids off cwd) :
    Respects (Alike off) (makeUnlessFolder cwd l) := by
  refine .tryCatch (makeFolder_respects hl) fun e => ?_
  split
  · exact .of_throw
  · exact unlessFolder_respects hl
  · exact .of_throw

theorem makeFoldersFrom_respects {k : Nat} (hl : l.Avoids off cwd) :
    Respects (Alike off) (makeFoldersFrom cwd k l) := by
  induction k generalizing l
  case zero =>
    rw [makeFoldersFrom]
    exact makeUnlessFolder_respects hl
  case succ k ih =>
    rw [makeFoldersFrom]
    refine .tryCatch (makeFolder_respects hl) fun e => ?_
    split
    · exact .bind (ih hl.parent) fun _ => makeUnlessFolder_respects hl
    · exact unlessFolder_respects hl
    · exact .of_throw

theorem makeFolders_respects (hl : l.Avoids off cwd) :
    Respects (Alike off) (makeFolders cwd l) :=
  makeFoldersFrom_respects hl

theorem writeBytes_respects {b : List UInt8} (hl : l.Avoids off cwd) :
    Respects (Alike off) (writeBytes cwd l b) := by
  refine place_respects hl fun p hp => .get_bind (fun d d' h => by rw [h p hp]) fun d => ?_
  split
  · exact .of_throw
  · exact .of_modify fun _ _ h => h.set

theorem store_respects {content : String} (hl : l.Avoids off cwd) :
    Respects (Alike off) (store cwd l content) :=
  .bind (makeFolders_respects hl.parent) fun _ => writeBytes_respects hl

end Disk

end Refit
