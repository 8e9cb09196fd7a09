import Refit.Proofs.Disk.Mirrored
import Refit.Proofs.Disk.Storing
import Refit.Proofs.Source.Listing

/-!
What is read of the sources in a folder, as what is in the folder tells it. Folders that hold the
same give the same sources, and a file that is no source does not count.
-/

namespace Refit

namespace Disk

variable {d d' : Disk} {cwd p p' q steps : List String} {l : Location} {s : String} {b : List UInt8}

/-! Files that segments lead to -/

-- What is in the file that segments lead to from a place.
def contentFrom (d : Disk) (p steps : List String) : Option (List UInt8) :=
  (d.walk p steps).toOption.bind d.content?

theorem contentFrom_nil : d.contentFrom p [] = d.content? p :=
  rfl

theorem contentFrom_cons (h : s ≠ "..") : d.contentFrom p (s :: steps) =
    if d.find? p = some .folder ∧ s.utf8ByteSize ≤ nameLimit then d.contentFrom (p ++ [s]) steps
    else none := by
  rw [contentFrom, walk]
  rcases hp : d.find? p with _ | _ | _
  case none => simp [Except.toOption]
  case some.folder =>
    by_cases hlong : nameLimit < s.utf8ByteSize
    case pos => simp [h, hlong, Nat.not_le.mpr hlong, Except.toOption]
    case neg => simp [h, hlong, Nat.not_lt.mp hlong, contentFrom]
  case some.file => simp [Except.toOption]

theorem Mirrored.contentFrom_eq (h : Mirrored d d' p p') (hup : ".." ∉ steps) :
    d'.contentFrom p' steps = d.contentFrom p steps := by
  have hfind := h.find?_walk hup
  rw [contentFrom, contentFrom]
  cases hw : d.walk p steps
  all_goals
    cases hw' : d'.walk p' steps
    all_goals simp [hw, hw', Except.map] at hfind
  case error.error => rfl
  case ok.ok => simp [Except.toOption, content?, hfind]

-- Storing a file somewhere else changes nothing of the file.
theorem contentFrom_set (hq : d.find? q ≠ some .folder) (hne : q ≠ p ++ steps)
    (hup : ".." ∉ steps) : (d.set q (.file b)).contentFrom p steps = d.contentFrom p steps := by
  have hset (r : List String) : (d.set q (.file b)).find? r =
      if r = q then some (.file b) else d.find? r :=
    find?_set (ne_nil_of_find?_ne hq)
  induction steps generalizing p
  case nil =>
    have hpq : p ≠ q := by
      rintro rfl
      simp at hne
    rw [contentFrom_nil, contentFrom_nil, content?, content?, hset, if_neg hpq]
  case cons s steps ih =>
    obtain ⟨hs, hsteps⟩ := List.ne_and_not_mem_of_not_mem_cons hup
    rw [contentFrom_cons hs.symm, contentFrom_cons hs.symm, hset]
    by_cases hpq : p = q
    case pos => simp [hpq, hq]
    case neg => rw [if_neg hpq, ih (by simpa using hne) hsteps]

end Disk

namespace SourceTree

variable {d d' : Disk} {cwd p p' q rel : List String} {l : Location} {path : String} {b : List UInt8}
  {n : List String × Disk.Node} {s : Session}

/-! The ways to sources -/

-- The ways to the Dart sources below a place.
def waysAt (d : Disk) (p : List String) : List (List String) :=
  ((d.below p).filter fun n => (dartPath? n).isSome).map Prod.fst

theorem dartPath?_eq (h : dartPath? n = some path) : path = "/".joining n.1 := by
  rw [dartPath?.eq_def] at h
  split at h
  case h_1 => exact (Option.some.inj (Option.ite_none_right_eq_some.mp h).2).symm
  case h_2 => cases h

theorem dartPathsAt_eq : dartPathsAt d p = (waysAt d p).map "/".joining := by
  rw [dartPathsAt, waysAt]
  induction d.below p
  case nil => rfl
  case cons n ns ih =>
    rw [List.filterMap_cons, List.filter_cons]
    cases hn : dartPath? n
    case none => simpa using ih
    case some path => simpa [dartPath?_eq hn] using ih

-- What a way to a place leads to from a place before it.
def entry (p : List String) (n : List String × Disk.Node) : Option (List String × Disk.Node) :=
  if p.isPrefixOf n.1 && n.1 != p then some (n.1.drop p.length, n.2) else none

-- The ways are listed in their order, so they are told by what is below the place.
theorem waysAt_eq (h : (d'.nodes.filterMap (entry p')).filter (fun n => (dartPath? n).isSome) =
      (d.nodes.filterMap (entry p)).filter fun n => (dartPath? n).isSome) :
    waysAt d' p' = waysAt d p := by
  have hsorted (d : Disk) (p : List String) :
      (waysAt d p).Pairwise fun a b => Path.before a b := by
    refine List.pairwise_map.mpr (List.Pairwise.filter _ ?_)
    exact List.pairwise_mergeSort (fun a b c => Path.before_trans a.1 b.1 c.1)
      (fun a b => Path.before_total a.1 b.1) _
  refine List.Perm.eq_of_pairwise (fun _ _ _ _ => Path.before_antisymm) (hsorted d' p') (hsorted d p) ?_
  refine List.Perm.map _ ?_
  refine ((List.mergeSort_perm _ _).filter _).trans ?_
  exact (List.Perm.of_eq h).trans ((List.mergeSort_perm _ _).filter _).symm

theorem filterMap_setNode {β : Type} {g : List String × Disk.Node → Option β} {m : Disk.Node}
    {ns : List (List String × Disk.Node)} (hg : ∀ m, g (q, m) = none) :
    (Disk.setNode q m ns).filterMap g = ns.filterMap g := by
  induction ns
  case nil => simp [Disk.setNode, hg]
  case cons n ns ih =>
    obtain ⟨k, x⟩ := n
    rw [Disk.setNode]
    split
    case isTrue hk => simp [← eq_of_beq hk, hg]
    case isFalse => simp [List.filterMap_cons, ih]

-- A way to a file that is read with the sources of a project.
def IsRead (rel : List String) : Prop :=
  rel = [manifestName] ∨ (dartPath? (rel, .file [])).isSome

theorem waysAt_set (hq : ∀ rel, q = p ++ rel → ¬IsRead rel) :
    waysAt (d.set q (.file b)) p = waysAt d p := by
  refine waysAt_eq ?_
  rw [List.filter_filterMap, List.filter_filterMap]
  refine filterMap_setNode fun m => ?_
  rw [entry]
  split
  case isFalse => rfl
  case isTrue hp =>
    obtain ⟨rel, rfl⟩ := List.isPrefixOf_iff_prefix.mp (Bool.and_eq_true_iff.mp hp).1
    have hnone : dartPath? (rel, m) = none := by
      cases m
      case folder => rfl
      case file => simpa [IsRead, dartPath?] using fun h => hq rel rfl (.inr h)
    simp [hnone]

/-! The sources -/

-- The source that a path leads to, if it is a file with text.
def sourceAt (d : Disk) (p : List String) (path : String) : Option SourceFile :=
  (d.contentFrom p (Path.steps path)).bind fun b =>
    (Utf8.decode b).toOption.map fun s => ⟨path, s.withUnixLines⟩

def pathsAt (d : Disk) (p : List String) : List String :=
  (if (d.content? (p ++ [manifestName])).isSome then [manifestName] else []) ++ dartPathsAt d p

-- The sources of the project in a folder.
def sourcesAt (d : Disk) (p : List String) : List SourceFile :=
  (pathsAt d p).filterMap (sourceAt d p)

-- A folder whose sources are found by names, on paths that are not too long.
structure Readable (d : Disk) (cwd : List String) (l : Location) (p : List String) : Prop where
  rooted : d.Rooted cwd l p
  manifest : (l.child manifestName).text.utf8ByteSize ≤ Disk.pathLimit
  names : ∀ rel ∈ waysAt d p, Path.Proper rel ∧ ".." ∉ rel ∧ ∀ w ∈ rel, '\x00' ∉ w.toList
  fits : ∀ rel ∈ waysAt d p, (l ++ ⟨none, rel⟩).text.utf8ByteSize ≤ Disk.pathLimit

theorem ofText_manifestName : Location.ofText manifestName = ⟨none, [manifestName]⟩ := by
  decide +kernel

namespace Readable

variable (h : Readable d cwd l p)

include h

-- Each path that is read leads down from the folder.
theorem exists_way (hpath : path ∈ pathsAt d p) : ∃ rel, (rel = [manifestName] ∨ rel ∈ waysAt d p) ∧
    Location.ofText path = ⟨none, rel⟩ ∧ ".." ∉ rel ∧ (∀ w ∈ rel, '\x00' ∉ w.toList) ∧
      (l ++ ⟨none, rel⟩).text.utf8ByteSize ≤ Disk.pathLimit := by
  rcases List.mem_append.mp hpath with hpath | hpath
  case inl =>
    obtain rfl : path = manifestName := by
      split at hpath
      · exact List.mem_singleton.mp hpath
      · cases hpath
    refine ⟨_, .inl rfl, ofText_manifestName, by decide, by decide, h.manifest⟩
  case inr =>
    rw [dartPathsAt_eq] at hpath
    obtain ⟨rel, hrel, rfl⟩ := List.mem_map.mp hpath
    obtain ⟨hproper, hup, hnull⟩ := h.names rel hrel
    refine ⟨rel, .inr hrel, ?_, hup, hnull, h.fits rel hrel⟩
    rw [Location.ofText, Path.root?_eq_none (Path.head?_joining hproper), Path.steps_joining hproper]

theorem loadOne_eq (hpath : path ∈ pathsAt d p) : loadOne l path d cwd = .ok (sourceAt d p path) := by
  obtain ⟨rel, _, heq, _, hnull, hfits⟩ := h.exists_way hpath
  have hplace := h.rooted.place_append rfl (by simpa [Location.HasNull] using hnull) hfits
  have hsteps : Path.steps path = rel := congrArg Location.steps heq
  rw [loadOne, Disk.readText, Disk.readBytes, heq, hplace, sourceAt, Disk.contentFrom, hsteps]
  cases hw : d.walk p rel
  case error => rfl
  case ok q =>
    simp only [Except.mapError, Except.toOption, Option.bind_some, Disk.content?, bind, Except.bind]
    rcases d.find? q with _ | _ | b
    case none => rfl
    case some.folder => rfl
    case some.file =>
      simp only [Option.bind_some]
      cases Utf8.decode b <;> rfl

end Readable

theorem dartPaths_ends (h : s.disk.Rooted s.cwd l p) :
    Ends (dartPaths l) s (.ok (dartPathsAt s.disk p)) s := by
  refine Action.ask_iff.mpr ⟨?_, rfl⟩
  rw [h.isFolder, h.place]
  rfl

-- What is read of a folder is told by what is in it.
theorem read_ends (h : Readable s.disk s.cwd l p) :
    Ends (read l) s (.ok (sourcesAt s.disk p)) s := by
  have hmanifest : Ends (Action.isFile (l.child manifestName)) s
      (.ok (s.disk.content? (p ++ [manifestName])).isSome) s := by
    refine Action.ask_iff.mpr ⟨?_, rfl⟩
    exact (Disk.isFile_eq (h.rooted.place_child (by decide) (by decide) (by decide) h.manifest)).symm
  refine (Ends.bind_of_ok (dartPaths_ends h.rooted)).mpr ((Ends.bind_of_ok hmanifest).mpr ?_)
  refine Action.ask_iff.mpr ⟨?_, rfl⟩
  have hall : ((pathsAt s.disk p).mapM fun path => loadOne l path s.disk s.cwd) =
      .ok ((pathsAt s.disk p).map (sourceAt s.disk p)) :=
    mapM_eq_ok.mpr (List.forall₂_map_right_iff.mpr (List.forall₂_same.mpr fun _ => h.loadOne_eq))
  rw [pathsAt] at hall
  rw [hall, sourcesAt, pathsAt]
  simp [bind, Except.bind, pure, Except.pure, List.filterMap_map]

theorem sourcesAt_mirrored (h : Readable d cwd l p) (hm : Disk.Mirrored d d' p p') :
    sourcesAt d' p' = sourcesAt d p := by
  have hpaths : pathsAt d' p' = pathsAt d p := by
    rw [pathsAt, pathsAt, dartPathsAt, dartPathsAt, hm.below, Disk.content?, Disk.content?, hm.find?]
  rw [sourcesAt, sourcesAt, hpaths]
  refine List.filterMap_congr fun path hpath => ?_
  obtain ⟨rel, _, heq, hup, _⟩ := h.exists_way hpath
  have hsteps : Path.steps path = rel := congrArg Location.steps heq
  rw [sourceAt, sourceAt, hsteps, hm.contentFrom_eq hup]

/-! Storing a file that is no source -/

variable (h : Readable d cwd l p) (hq : d.find? q ≠ some .folder)
  (hread : ∀ rel, q = p ++ rel → ¬IsRead rel)

include h hq hread

theorem sourcesAt_set : sourcesAt (d.set q (.file b)) p = sourcesAt d p := by
  have hmanifest : (d.set q (.file b)).content? (p ++ [manifestName]) =
      d.content? (p ++ [manifestName]) := by
    have hne : p ++ [manifestName] ≠ q := fun heq => hread _ heq.symm (.inl rfl)
    rw [Disk.content?, Disk.content?, Disk.find?_set (Disk.ne_nil_of_find?_ne hq), if_neg hne]
  have hpaths : pathsAt (d.set q (.file b)) p = pathsAt d p := by
    rw [pathsAt, pathsAt, hmanifest, dartPathsAt_eq, dartPathsAt_eq, waysAt_set hread]
  rw [sourcesAt, sourcesAt, hpaths]
  refine List.filterMap_congr fun path hpath => ?_
  obtain ⟨rel, hrel, heq, hup, _⟩ := h.exists_way hpath
  have hsteps : Path.steps path = rel := congrArg Location.steps heq
  rw [sourceAt, sourceAt, hsteps, Disk.contentFrom_set hq (fun heq => hread rel heq ?_) hup]
  rcases hrel with hrel | hrel
  case inl => exact .inl hrel
  case inr =>
    obtain ⟨n, hn, rfl⟩ := List.mem_map.mp hrel
    obtain ⟨rel, m⟩ := n
    have hway := (List.mem_filter.mp hn).2
    cases m
    case folder => cases hway
    case file => exact .inr (by simpa [dartPath?] using hway)

theorem readable_set : Readable (d.set q (.file b)) cwd l p where
  rooted := by
    have hfolder := h.rooted.folder
    refine ⟨(Disk.Grows.set hq).place h.rooted.place, ?_⟩
    rw [Disk.find?_set (Disk.ne_nil_of_find?_ne hq), if_neg (by rintro rfl; exact hq hfolder), hfolder]
  manifest := h.manifest
  names := by
    rw [waysAt_set hread]
    exact h.names
  fits := by
    rw [waysAt_set hread]
    exact h.fits

end SourceTree

end Refit
