import Refit.Proofs.Disk.Folders
import Refit.Proofs.Session.Stops
import Refit.Proofs.Source.Naming

/-!
What the disk refuses: what it says is about a file, unless the path has a zero byte in it.
-/

namespace Refit

/-! Zero bytes -/

namespace Location

variable {l m : Location}

-- A path with a character that no disk can have in a name.
def HasNull (l : Location) : Prop :=
  ∃ s ∈ l.root.toList ++ l.steps, '\x00' ∈ s.toList

theorem hasNull_iff : l.HasNull ↔ '\x00' ∈ l.text.toList := by
  have hjoined {ss : List String} :
      '\x00' ∈ ("/".joining ss).toList ↔ ∃ s ∈ ss, '\x00' ∈ s.toList := by
    rw [String.joining, String.toList_ofList, Text.mem_join (by decide)]
    simp
  rcases l with ⟨_ | r, steps⟩
  case none =>
    cases steps
    case nil => simp [HasNull, text]
    case cons s ss =>
      rw [HasNull, Option.toList_none, List.nil_append]
      exact hjoined.symm
  case some => simpa [HasNull, text] using or_congr_right hjoined.symm

theorem hasNull_of_parent (h : l.parent.HasNull) : l.HasNull := by
  have ⟨s, hs, hn⟩ := h
  refine ⟨s, ?_, hn⟩
  rcases List.mem_append.mp hs with hs | hs
  · exact List.mem_append_left _ hs
  · exact List.mem_append_right _ (List.dropLast_subset _ hs)

theorem not_hasNull_append {path : String} (h : Path.Plain path) (hl : ¬l.HasNull) :
    ¬(l ++ ofText path).HasNull := by
  rintro ⟨s, hs, hn⟩
  rw [append_eq h.root?_eq_none] at hs
  rcases List.mem_append.mp hs with hs | hs
  · exact hl ⟨s, List.mem_append_left _ hs, hn⟩
  · rcases List.mem_append.mp hs with hs | hs
    · exact hl ⟨s, List.mem_append_right _ hs, hn⟩
    · exact (Path.isPlain_iff.mp (h.isPlain_of_mem_steps hs)).2.2.2 hn

end Location

namespace Disk

variable {α : Type} {cwd : List String} {l : Location} {d d' : Disk} {s e : Stop}

-- Why a change at a path is refused.
def Refuses (l : Location) (e : Stop) : Prop :=
  (∃ t, e = .file t) ∨ (e = .nullInPath ∧ l.HasNull)

theorem Refuses.of_parent (h : Refuses l.parent e) : Refuses l e :=
  h.imp_right fun ⟨he, hl⟩ => ⟨he, Location.hasNull_of_parent hl⟩

theorem Refuses.exists_file (h : Refuses l e) (hl : ¬l.HasNull) : ∃ t, e = .file t :=
  h.resolve_right fun ⟨_, hn⟩ => hl hn

theorem place_refuses (h : d.place cwd l = .error e) : Refuses l e := by
  rw [place] at h
  split at h
  case isTrue hn =>
    exact .inr ⟨(Except.error.inj h).symm, Location.hasNull_iff.mpr (by simpa using hn)⟩
  case isFalse =>
    split at h
    case isTrue => exact .inl ⟨_, (Except.error.inj h).symm⟩
    case isFalse =>
      cases hw : d.walk (if l.root.isSome then [] else cwd) l.steps
      case error t => exact .inl ⟨t l.text, by simpa [hw, Except.mapError] using h.symm⟩
      case ok => simp [hw, Except.mapError] at h

theorem place_of_hasNull (h : l.HasNull) : d.place cwd l = .error .nullInPath := by
  rw [place, if_pos]
  simpa using Location.hasNull_iff.mp h

theorem isFolder_refuses (h : d.isFolder cwd l = .error e) : ∃ t, e = .file t := by
  rw [isFolder] at h
  cases hl : d.look? cwd l
  case ok => simp [hl, bind, Except.bind, pure, Except.pure] at h
  case error e' =>
    obtain rfl : e' = e := by simpa [hl, bind, Except.bind] using h
    rw [look?] at hl
    split at hl
    · cases hl
    · exact ⟨_, (Except.error.inj hl).symm⟩
    · cases hl

theorem lift_stopsBy {q : Disk → Except Stop α} {P : Stop → Prop}
    (hq : ∀ d e, q d = .error e → P e) : StopsBy P (lift q) := by
  intro d e d' hd
  exact hq d e (lift_iff.mp hd).1.symm

theorem makeFolder_stopsBy : StopsBy (Refuses l) (makeFolder cwd l) := by
  refine .bind (lift_stopsBy fun _ _ => place_refuses) fun p => .bind .of_get fun d => ?_
  split
  · exact .of_throw (.inl ⟨_, rfl⟩)
  · exact .of_modify

theorem unlessFolder_stopsBy (h : Refuses l s) : StopsBy (Refuses l) (unlessFolder cwd l s) := by
  refine .bind (lift_stopsBy fun _ _ h => .inl (isFolder_refuses h)) fun b => ?_
  split
  · exact .of_pure
  · exact .of_throw h

theorem makeUnlessFolder_stopsBy : StopsBy (Refuses l) (makeUnlessFolder cwd l) := by
  refine .tryCatch makeFolder_stopsBy fun e he => ?_
  split
  · exact .of_throw he
  · exact unlessFolder_stopsBy he
  · exact .of_throw he

theorem makeFoldersFrom_stopsBy {k : Nat} : StopsBy (Refuses l) (makeFoldersFrom cwd k l) := by
  induction k generalizing l
  case zero =>
    rw [makeFoldersFrom]
    exact makeUnlessFolder_stopsBy
  case succ k ih =>
    rw [makeFoldersFrom]
    refine .tryCatch makeFolder_stopsBy fun e he => ?_
    split
    · exact .bind (ih.mono fun _ => .of_parent) fun _ => makeUnlessFolder_stopsBy
    · exact unlessFolder_stopsBy he
    · exact .of_throw he

theorem makeFolders_stopsBy : StopsBy (Refuses l) (makeFolders cwd l) :=
  makeFoldersFrom_stopsBy

theorem writeBytes_stopsBy {content : List UInt8} :
    StopsBy (Refuses l) (writeBytes cwd l content) := by
  refine .bind (lift_stopsBy fun _ _ => place_refuses) fun p => .bind .of_get fun d => ?_
  split
  · exact .of_throw (.inl ⟨_, rfl⟩)
  · exact .of_modify

theorem store_stopsBy {content : String} : StopsBy (Refuses l) (store cwd l content) :=
  .bind (makeFolders_stopsBy.mono fun _ => .of_parent) fun _ => writeBytes_stopsBy

-- No folder is made at a path with a zero byte.
theorem not_hasNull_of_makeFolders (h : Ends (makeFolders cwd l) d (.ok ()) d') :
    ¬l.HasNull := by
  intro hl
  have hfolder : Ends (makeFolder cwd l) d (.error .nullInPath) d :=
    Ends.bind_of_error (lift_iff.mpr ⟨(place_of_hasNull hl).symm, rfl⟩)
  have hfolders {k : Nat} : Ends (makeFoldersFrom cwd k l) d (.error .nullInPath) d := by
    cases k
    all_goals
      rw [makeFoldersFrom]
      exact (Ends.tryCatch_of_error hfolder).mpr (Ends.throw_iff.mpr ⟨rfl, rfl⟩)
  cases (h.unique hfolders).1

end Disk

end Refit
