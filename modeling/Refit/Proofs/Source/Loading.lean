import Refit.Proofs.Source.Contents

/-!
Reading the sources in a folder, all of them or those that a selector admits.

However a folder is come to, a source in it is read alike, unless its path is too long for the disk
on one of the ways alone. What is read of some of the paths is what is read of all of them, less the
files at the others.
-/

namespace Refit

/-! Paths to one folder -/

namespace Location

variable {l m : Location} {w : String}

theorem append_eq_of_rooted (h : m.root = some w) : l ++ m = m := by
  change l.join m = m
  rw [join, h]

theorem up_not_mem_resolved {cwd : List String} (h : ".." ∉ cwd) : ".." ∉ l.resolved cwd := by
  rw [resolved_eq_reach h, reach_eq_foldl]
  have hfoldl {at_ : List String} (hat : ".." ∉ at_) : ".." ∉ l.steps.foldl advance at_ := by
    induction l.steps generalizing at_
    case nil => exact hat
    case cons w ws ih =>
      refine ih ?_
      rw [advance]
      split
      case isTrue => exact fun hm => hat (List.mem_of_mem_dropLast hm)
      case isFalse hw => simpa [hat] using fun heq => hw (by simp [← heq])
  refine hfoldl ?_
  split
  · exact List.not_mem_nil
  · exact h

theorem hasNull_append_right (h : m.root = none) (hn : m.HasNull) : (l ++ m).HasNull := by
  obtain ⟨s, hs, hn⟩ := hn
  rw [h] at hs
  rw [append_eq h]
  exact ⟨s, List.mem_append_right _ (List.mem_append_right _ (by simpa using hs)), hn⟩

end Location

namespace Disk

variable {d : Disk} {cwd p steps : List String} {l l' m : Location}

-- Ways that lead to one place, or that are both in trouble.
inductive Agree : Except Stop (List String) → Except Stop (List String) → Prop
  | place (q : List String) : Agree (.ok q) (.ok q)
  | trouble (t t' : FileTrouble) : Agree (.error (.file t)) (.error (.file t'))
  | null : Agree (.error .nullInPath) (.error .nullInPath)

-- A path that is not too long for the disk.
def Fits (l : Location) : Prop :=
  l.text.utf8ByteSize ≤ pathLimit

instance : Decidable (Fits l) :=
  inferInstanceAs (Decidable (_ ≤ _))

theorem place_of_not_fits (hn : ¬l.HasNull) (h : ¬Fits l) :
    d.place cwd l = .error (.file (.nameTooLong l.text)) := by
  have hnull : ¬l.text.toList.contains '\x00' = true := by
    rwa [List.contains_iff_mem, ← Location.hasNull_iff]
  rw [place, if_neg hnull, if_pos (Nat.not_le.mp h)]

theorem agree_walk {t t' : String} :
    Agree ((d.walk p steps).mapError fun e => .file (e t))
      ((d.walk p steps).mapError fun e => .file (e t')) := by
  cases d.walk p steps
  case ok q => exact .place q
  case error e => exact .trouble _ _

-- A way goes on from a folder alike, however the folder was come to.
theorem Rooted.agree (h : d.Rooted cwd l p) (h' : d.Rooted cwd l' p) (hm : m.root = none)
    (hfits : Fits (l ++ m) ↔ Fits (l' ++ m)) :
    Agree (d.place cwd (l ++ m)) (d.place cwd (l' ++ m)) := by
  by_cases hn : m.HasNull
  case pos =>
    rw [place_of_hasNull (Location.hasNull_append_right hm hn),
      place_of_hasNull (Location.hasNull_append_right hm hn)]
    exact .null
  case neg =>
    have hnull {l : Location} (h : d.Rooted cwd l p) : ¬(l ++ m).HasNull :=
      fun hlm => (Location.hasNull_append hlm).elim (not_hasNull_of_isFolder h.isFolder) hn
    by_cases hl : Fits (l ++ m)
    case pos =>
      rw [h.place_append hm hn hl, h'.place_append hm hn (hfits.mp hl)]
      exact agree_walk
    case neg =>
      rw [place_of_not_fits (hnull h) hl, place_of_not_fits (hnull h') (mt hfits.mpr hl)]
      exact .trouble _ _

end Disk

namespace SourceTree

variable {d : Disk} {cwd p : List String} {l l' : Location} {path : String} {paths : List String}
  {fs : List SourceFile} {s t : Session} {q : String → Bool}

/-! Reading -/

-- The path of a source in a folder is not too long for the disk.
def Fits (l : Location) (path : String) : Prop :=
  Disk.Fits (l ++ .ofText path)

instance : Decidable (Fits l path) :=
  inferInstanceAs (Decidable (Disk.Fits _))

theorem loadOne_eq_of_agree
    (h : Disk.Agree (d.place cwd (l ++ .ofText path)) (d.place cwd (l' ++ .ofText path))) :
    loadOne l path d cwd = loadOne l' path d cwd := by
  rw [loadOne, loadOne, Disk.readText, Disk.readText, Disk.readBytes, Disk.readBytes]
  revert h
  generalize d.place cwd (l ++ .ofText path) = r, d.place cwd (l' ++ .ofText path) = r'
  rintro ⟨⟩
  case trouble => rfl
  case null => rfl
  case place q =>
    simp only [bind, Except.bind]
    rcases d.find? q with _ | _ | b
    case none => rfl
    case some.folder => rfl
    case some.file => rfl

theorem loadOne_eq (h : d.Rooted cwd l p) (h' : d.Rooted cwd l' p)
    (hfits : Fits l path ↔ Fits l' path) : loadOne l path d cwd = loadOne l' path d cwd := by
  cases hroot : (Location.ofText path).root
  case none => exact loadOne_eq_of_agree (h.agree h' hroot hfits)
  case some =>
    have happend : l ++ .ofText path = l' ++ .ofText path := by
      rw [Location.append_eq_of_rooted hroot, Location.append_eq_of_rooted hroot]
    rw [loadOne, loadOne, happend]

theorem loadOne_of_not_fits (hn : ¬(l ++ .ofText path).HasNull) (h : ¬Fits l path) :
    loadOne l path d cwd = .ok none := by
  rw [loadOne, Disk.readText, Disk.readBytes, Disk.place_of_not_fits hn h]
  rfl

theorem path_of_loadOne {f : SourceFile} (h : loadOne l path d cwd = .ok (some f)) :
    f.path = path := by
  rw [loadOne] at h
  split at h
  case h_1 =>
    obtain rfl := Option.some.inj (Except.ok.inj h)
    rfl
  all_goals cases h

-- The source at a path, none where nothing can be read.
def found (d : Disk) (cwd : List String) (l : Location) (path : String) : Option SourceFile :=
  (loadOne l path d cwd).toOption.join

theorem filterMap_found {loaded : List (Option SourceFile)}
    (h : List.Forall₂ (fun path o => loadOne l path d cwd = .ok o) paths loaded) :
    loaded.filterMap id = paths.filterMap (found d cwd l) := by
  induction h
  case nil => rfl
  case cons path o paths loaded hpath _ ih =>
    rw [List.filterMap_cons, List.filterMap_cons, ih, found, hpath]
    rfl

theorem load_iff : Ends (load l paths) s (.ok fs) t ↔
    (∀ path ∈ paths, ∃ o, loadOne l path s.disk s.cwd = .ok o) ∧
      fs = paths.filterMap (found s.disk s.cwd l) ∧ t = s := by
  rw [load, Action.ask_iff, eq_comm, bind_eq_ok, ← and_assoc]
  refine and_congr_left' ⟨?_, ?_⟩
  case refine_1 =>
    rintro ⟨loaded, hloaded, hfs⟩
    have hall := mapM_eq_ok.mp hloaded
    refine ⟨fun path hpath => (exists_of_forall₂ hall hpath).imp fun _ h => h.2, ?_⟩
    exact (pure_eq_ok.mp hfs).symm.trans (filterMap_found hall)
  case refine_2 =>
    rintro ⟨hall, rfl⟩
    obtain ⟨loaded, hloaded⟩ := exists_mapM hall
    exact ⟨loaded, hloaded, pure_eq_ok.mpr (filterMap_found (mapM_eq_ok.mp hloaded))⟩

-- Paths that are passed over take their files with them, and no others.
theorem load_filter (h : Ends (load l paths) s (.ok fs) t) :
    Ends (load l (paths.filter q)) s (.ok (fs.filter (q ·.path))) s := by
  obtain ⟨hall, rfl, -⟩ := load_iff.mp h
  refine load_iff.mpr ⟨fun path hpath => hall path (List.mem_filter.mp hpath).1, ?_, rfl⟩
  rw [List.filterMap_filter, List.filter_filterMap]
  refine List.filterMap_congr fun path hpath => ?_
  obtain ⟨o, ho⟩ := hall path hpath
  rw [found, ho]
  cases o
  case none => exact (ite_self none).symm
  case some f =>
    change Option.filter _ (some f) = if q path then some f else none
    rw [← path_of_loadOne ho, Option.filter_some]

theorem load_congr (h : ∀ path ∈ paths, loadOne l path s.disk s.cwd = loadOne l' path s.disk s.cwd)
    (hl : Ends (load l paths) s (.ok fs) t) : Ends (load l' paths) s (.ok fs) t := by
  obtain ⟨hall, rfl, rfl⟩ := load_iff.mp hl
  refine load_iff.mpr ⟨fun path hpath => h path hpath ▸ hall path hpath, ?_, rfl⟩
  refine List.filterMap_congr fun path hpath => ?_
  rw [found, found, h path hpath]

/-! Selecting -/

-- An extraction reads what it selects of all that an analysis reads.
theorem select_ends {sel : Selector} (h : s.disk.Rooted s.cwd l p) (h' : s.disk.Rooted s.cwd l' p)
    (hfits : ∀ path ∈ dartPathsAt s.disk p, Fits l path ↔ Fits l' path)
    (hread : Ends (read l') s (.ok fs) t) :
    Ends (select l sel) s (.ok (fs.filter (sel.admits ·.path))) s := by
  obtain ⟨paths, u, hpaths, hread⟩ := Ends.bind_ok_iff.mp hread
  obtain ⟨hpaths, rfl⟩ := hpaths.unique (dartPaths_ends h')
  obtain rfl := Except.ok.inj hpaths
  obtain ⟨b, u, hb, hload⟩ := Ends.bind_ok_iff.mp hread
  obtain ⟨-, rfl⟩ := Action.ask_iff.mp hb
  have hmanifest : (if b then [manifestName] else []).filter sel.admits = [] := by
    have hdart : sel.admits manifestName = false := by
      rw [Selector.admits, show Path.isDart manifestName = false by decide, Bool.false_and]
    cases b <;> simp [hdart]
  have hselected := load_filter (q := sel.admits) hload
  rw [List.filter_append, hmanifest, List.nil_append] at hselected
  refine (Ends.bind_of_ok (dartPaths_ends h)).mpr (load_congr (fun path hpath => ?_) hselected)
  exact loadOne_eq h' h (hfits path (List.mem_filter.mp hpath).1).symm

end SourceTree

end Refit
