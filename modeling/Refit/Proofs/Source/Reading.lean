import Refit.Proofs.Disk.Refusals
import Refit.Source.Tree

/-!
Folders whose sources can be read.

The disk answers about every path that is not too long for it. A file that cannot be read is left
out, so nothing stops a reading but a zero byte in a name, which no disk has.
-/

namespace Refit

/-! Paths -/

namespace Location

variable {l m : Location} {s w : String}

theorem hasNull_append (h : (l ++ m).HasNull) : l.HasNull ∨ m.HasNull := by
  cases hm : m.root
  case some =>
    change (l.join m).HasNull at h
    rw [join, hm] at h
    exact .inr h
  case none =>
    obtain ⟨s, hs, hn⟩ := h
    rw [append_eq hm, List.mem_append, List.mem_append] at hs
    rcases hs with hs | hs | hs
    · exact .inl ⟨s, List.mem_append_left _ hs, hn⟩
    · exact .inl ⟨s, List.mem_append_right _ hs, hn⟩
    · exact .inr ⟨s, List.mem_append_right _ hs, hn⟩

theorem root?_of_ofText {cs : List Char} (h : Path.root? cs = some w) : w = "/" ∨ w = "//" := by
  rw [Path.root?.eq_def] at h
  split at h
  all_goals first | exact .inl (Option.some.inj h).symm | exact .inr (Option.some.inj h).symm | cases h

theorem hasNull_ofText (h : (ofText s).HasNull) : '\x00' ∈ s.toList := by
  obtain ⟨w, hw, hn⟩ := h
  rcases List.mem_append.mp hw with hw | hw
  case inl =>
    rcases root?_of_ofText (Option.mem_toList.mp hw) with rfl | rfl
    all_goals exact absurd hn (by decide)
  case inr =>
    obtain ⟨cs, hcs, rfl⟩ := List.mem_map.mp (List.mem_filter.mp hw).1
    exact Text.mem_of_mem_split hcs (by simpa using hn)

-- A path that is not too long for the disk.
structure Short (l : Location) : Prop where
  whole : l.text.utf8ByteSize ≤ Disk.pathLimit
  steps : ∀ s ∈ l.steps, s.utf8ByteSize ≤ Disk.nameLimit

end Location

namespace Disk

variable {d : Disk} {cwd : List String} {l : Location} {e : Stop}

theorem walk_of_short {at_ steps : List String} {t : String → FileTrouble}
    (h : ∀ s ∈ steps, s.utf8ByteSize ≤ nameLimit) (hw : d.walk at_ steps = .error t) :
    t = .missing ∨ t = .notFolder := by
  induction steps generalizing at_
  case nil => cases hw
  case cons s steps ih =>
    have ⟨hs, hsteps⟩ := List.forall_mem_cons.mp h
    rw [walk] at hw
    split at hw
    case h_1 => exact .inl (Except.error.inj hw).symm
    case h_2 => exact .inr (Except.error.inj hw).symm
    case h_3 =>
      split at hw
      case isTrue => exact ih hsteps hw
      case isFalse =>
        split at hw
        case isTrue hlong => exact absurd hlong (Nat.not_lt.mpr hs)
        case isFalse => exact ih hsteps hw

theorem place_of_short {p : String} (h : l.Short) : d.place cwd l ≠ .error (.file (.nameTooLong p)) := by
  intro hp
  rw [place] at hp
  split at hp
  case isTrue => cases hp
  case isFalse =>
    split at hp
    case isTrue hlong => exact absurd hlong (Nat.not_lt.mpr h.whole)
    case isFalse =>
      cases hw : d.walk (if l.root.isSome then [] else cwd) l.steps
      case ok => simp [hw, Except.mapError] at hp
      case error t => rcases walk_of_short h.steps hw with rfl | rfl <;> simp [hw, Except.mapError] at hp

theorem exists_look? (h : l.Short) : ∃ n, d.look? cwd l = .ok n := by
  rw [look?]
  split
  case h_1 => exact ⟨_, rfl⟩
  case h_2 hp => exact absurd hp (place_of_short h)
  case h_3 => exact ⟨_, rfl⟩

theorem exists_isFolder (h : l.Short) : ∃ b, d.isFolder cwd l = .ok b :=
  exists_bind (exists_look? h) fun _ => ⟨_, rfl⟩

theorem exists_isFile (h : l.Short) : ∃ b, d.isFile cwd l = .ok b :=
  exists_bind (exists_look? h) fun _ => ⟨_, rfl⟩

theorem not_hasNull_of_isFolder (h : d.isFolder cwd l = .ok true) : ¬l.HasNull := by
  intro hl
  obtain ⟨p, hp, _⟩ := exists_place_of_isFolder h
  rw [place_of_hasNull hl] at hp
  cases hp

theorem readText_refuses (h : d.readText cwd l = .error e) :
    Refuses l e ∨ ∃ t, e = .undecodable t := by
  rw [readText] at h
  cases hb : d.readBytes cwd l
  case error e' =>
    obtain rfl : e' = e := by simpa [hb, bind, Except.bind] using h
    rw [readBytes] at hb
    cases hp : d.place cwd l
    case error e'' =>
      obtain rfl : e'' = e' := by simpa [hp, bind, Except.bind] using hb
      exact .inl (place_refuses hp)
    case ok p =>
      simp only [hp, bind, Except.bind] at hb
      split at hb
      · cases hb
      · exact .inl (.inl ⟨_, (Except.error.inj hb).symm⟩)
      · exact .inl (.inl ⟨_, (Except.error.inj hb).symm⟩)
  case ok b =>
    cases hd : Utf8.decode b
    case error t => exact .inr ⟨t, by simpa [hb, hd, bind, Except.bind, Except.mapError] using h.symm⟩
    case ok => simp [hb, hd, bind, Except.bind, Except.mapError, pure, Except.pure] at h

-- No name on the disk has a zero byte.
def NullFree (d : Disk) : Prop :=
  ∀ n ∈ d.nodes, ∀ w ∈ n.1, '\x00' ∉ w.toList

theorem NullFree.below {p : List String} {n : List String × Node} (h : d.NullFree)
    (hn : n ∈ d.below p) : '\x00' ∉ ("/".joining n.1).toList := by
  have ⟨m, hm, hsome⟩ := List.mem_filterMap.mp (List.mem_mergeSort.mp hn)
  split at hsome
  case isTrue =>
    obtain rfl := Option.some.inj hsome
    rw [String.joining, String.toList_ofList, Text.mem_join (by decide)]
    rintro ⟨cs, hcs, hnull⟩
    obtain ⟨w, hw, rfl⟩ := List.mem_map.mp hcs
    exact h m hm w (List.mem_of_mem_drop hw) hnull
  case isFalse => cases hsome

end Disk

namespace SourceTree

variable {root : Location} {s : Session}

theorem exists_load {paths : List String} (h : ∀ p ∈ paths, ¬(root ++ .ofText p).HasNull) :
    ∃ fs, Ends (load root paths) s (.ok fs) s ∧ ∀ f ∈ fs, f.path ∈ paths := by
  have ⟨loaded, hloaded, hpaths⟩ : ∃ loaded : List (Option SourceFile),
      (paths.mapM fun p => loadOne root p s.disk s.cwd) = .ok loaded ∧
        ∀ x ∈ loaded, ∀ f ∈ x, f.path ∈ paths := by
    refine exists_mapM_all fun p hp => ?_
    rw [loadOne]
    split
    case h_1 => exact ⟨_, rfl, by rintro _ ⟨⟩; exact hp⟩
    case h_2 => exact ⟨_, rfl, nofun⟩
    case h_3 => exact ⟨_, rfl, nofun⟩
    case h_4 e hfile htext he =>
      rcases Disk.readText_refuses he with hrefuses | ⟨t, rfl⟩
      · obtain ⟨t, rfl⟩ := hrefuses.exists_file (h p hp)
        exact absurd rfl (hfile t)
      · exact absurd rfl (htext t)
  refine ⟨loaded.filterMap id, Action.ask_iff.mpr ⟨?_, rfl⟩, fun f hf => ?_⟩
  · rw [hloaded]
    rfl
  · obtain ⟨x, hx, rfl⟩ := List.mem_filterMap.mp hf
    exact hpaths _ hx f rfl

theorem exists_dartPaths (hn : s.disk.NullFree) (hroot : s.disk.isFolder s.cwd root = .ok true) :
    ∃ ps, Ends (dartPaths root) s (.ok ps) s ∧ ∀ p ∈ ps, '\x00' ∉ p.toList := by
  have ⟨place, hplace, _⟩ := Disk.exists_place_of_isFolder hroot
  refine ⟨dartPathsAt s.disk place, Action.ask_iff.mpr ⟨?_, rfl⟩, fun p hp => ?_⟩
  · rw [hroot, hplace]
    rfl
  · obtain ⟨n, hmem, hpath⟩ := List.mem_filterMap.mp hp
    rw [dartPath?.eq_def] at hpath
    split at hpath
    case h_1 =>
      dsimp only at hpath
      split at hpath
      case isTrue => exact Option.some.inj hpath ▸ hn.below hmem
      case isFalse => cases hpath
    case h_2 => cases hpath

-- The sources of a folder are read, whatever is in it.
theorem exists_read (hn : s.disk.NullFree) (hroot : s.disk.isFolder s.cwd root = .ok true)
    (hshort : (root.child manifestName).Short) :
    ∃ fs, Ends (read root) s (.ok fs) s ∧ ∀ f ∈ fs, '\x00' ∉ f.path.toList := by
  have ⟨paths, hpaths, hnull⟩ := exists_dartPaths hn hroot
  have ⟨b, hb⟩ := @Disk.exists_isFile s.disk s.cwd _ hshort
  have hall : ∀ p ∈ (if b then [manifestName] else []) ++ paths, '\x00' ∉ p.toList := by
    refine List.forall_mem_append.mpr ⟨?_, hnull⟩
    split
    · exact List.forall_mem_singleton.mpr (by decide)
    · exact nofun
  have ⟨fs, hfs, hmem⟩ := @exists_load root s _ fun p hp hp' =>
    (Location.hasNull_append hp').elim (Disk.not_hasNull_of_isFolder hroot)
      fun h => hall p hp (Location.hasNull_ofText h)
  refine ⟨fs, (Ends.bind_of_ok hpaths).mpr ?_, fun f hf => hall _ (hmem f hf)⟩
  exact (Ends.bind_of_ok (Action.ask_iff.mpr ⟨hb.symm, rfl⟩)).mpr hfs

end SourceTree

end Refit
