import Refit.Proofs.Source.Contents
import Refit.Project.InFolder

/-!
The analysis of the project in a folder, as what is in the folder tells it. Folders that hold the
same are analysed alike, wherever they are.
-/

namespace Refit

variable {d d' : Disk} {cwd p p' : List String} {l : Location} {s : Session}

/-! Answers -/

-- An action that leaves the session as it is comes to an answer, or to none when it is stopped.
def Answers {α : Type} (a : Action α) (s : Session) (o : Option α) : Prop :=
  ∃ x, Ends a s x s ∧ x.toOption = o

namespace Answers

variable {α β : Type} {a : Action α} {f : α → Action β} {o : Option α} {k : α → Option β} {x : α}
  {e : Stop}

theorem of_ok (h : Ends a s (.ok x) s) : Answers a s (some x) :=
  ⟨_, h, rfl⟩

theorem bind (ha : Answers a s o) (hf : ∀ x, o = some x → Answers (f x) s (k x)) :
    Answers (a >>= f) s (o.bind k) := by
  obtain ⟨r, hr, rfl⟩ := ha
  cases r
  case error e => exact ⟨_, Ends.bind_of_error hr, rfl⟩
  case ok x =>
    obtain ⟨q, hq, hk⟩ := hf x rfl
    exact ⟨q, (Ends.bind_of_ok hr).mpr hq, hk⟩

theorem bind_of_ok {o : Option β} (ha : Ends a s (.ok x) s) (hf : Answers (f x) s o) :
    Answers (a >>= f) s o := by
  obtain ⟨q, hq, hk⟩ := hf
  exact ⟨q, (Ends.bind_of_ok ha).mpr hq, hk⟩

theorem throw_bind : Answers (throw e >>= f) s none :=
  ⟨_, Ends.bind_of_error (Ends.throw_iff.mpr ⟨rfl, rfl⟩), rfl⟩

theorem ofExcept {r : Except Stop α} : Answers (Action.ofExcept r) s r.toOption :=
  ⟨_, Action.ofExcept_iff.mpr ⟨rfl, rfl⟩, rfl⟩

theorem ofRead {r : Datum.Read α} : Answers (Action.ofRead r) s r.toOption :=
  ⟨_, Action.ofExcept_iff.mpr ⟨rfl, rfl⟩, by cases r <;> rfl⟩

end Answers

/-! What is told of a folder -/

-- The text of the file at a place.
def Disk.textAt (d : Disk) (p : List String) : Option String :=
  (d.content? p).bind fun b => (Utf8.decode b).toOption.map String.withUnixLines

def Manifest.placed (d : Disk) (p : List String) : Option Manifest :=
  (d.textAt (p ++ [fileName])).bind fun t => (ofText t).toOption

-- The architecture of the sources at a place.
def Assessment.placed (d : Disk) (p : List String) : Assessment :=
  Architecture.classify (fun at_ => d.folderNames (p ++ at_))
    (.folder "lib" "lib" (Folder.nodesAt d Folder.depth p "lib" "lib"))

namespace Analysis

-- The snapshot of the project at a place, if there is one.
def placed (d : Disk) (p : List String) (depth : Datum) (bound : Int) : Option Snapshot :=
  (Depth.ofDatum depth).toOption.bind fun depth =>
    if d.find? (p ++ ["lib"]) = some .folder then
      (Manifest.placed d p).map fun m =>
        let t := snapshot m (.placed d (p ++ ["lib"])) (SourceTree.sourcesAt d p) depth
        { t with stats := { t.stats with files := countFiles bound d p } }
    else none

-- A folder that a project can be analysed in.
structure Analysable (d : Disk) (cwd p : List String) : Prop where
  readable : SourceTree.Readable d cwd (.absolute p) p
  sources : ((Location.absolute p).child "lib").text.utf8ByteSize ≤ Disk.pathLimit

end Analysis

/-! Analysing -/

theorem Action.readText_answers (h : s.disk.place s.cwd l = .ok p) :
    Answers (readText l) s (s.disk.textAt p) := by
  refine ⟨_, Action.ask_iff.mpr ⟨rfl, rfl⟩, ?_⟩
  rw [Disk.readText, Disk.readBytes, h, Disk.textAt, Disk.content?]
  simp only [bind, Except.bind]
  rcases s.disk.find? p with _ | _ | b
  case none => rfl
  case some.folder => rfl
  case some.file =>
    simp only [Option.bind_some]
    cases Utf8.decode b <;> rfl

theorem Manifest.inFolder_answers (h : SourceTree.Readable s.disk s.cwd l p) :
    Answers (inFolder l) s (placed s.disk p) := by
  have hplace := h.rooted.place_child (by decide) (by decide) (by decide) h.manifest
  refine .bind_of_ok (Action.ask_iff.mpr ⟨(Disk.isFile_eq hplace).symm, rfl⟩) ?_
  rw [placed]
  cases hc : s.disk.content? (p ++ [SourceTree.manifestName])
  case none =>
    rw [Disk.textAt, show fileName = SourceTree.manifestName from rfl, hc]
    exact .throw_bind
  case some b => exact .bind (Action.readText_answers hplace) fun _ _ => .ofRead

theorem Assessment.inFolder_ends (h : s.disk.place s.cwd l = .ok p) (hl : l.name = "lib") :
    Ends (inFolder l) s (.ok (placed s.disk p)) s := by
  have hany : s.disk.placeIfAny s.cwd l = .ok (some p) := by rw [Disk.placeIfAny, h]
  have htree : Ends (Folder.inFolder l "lib") s
      (.ok (.folder "lib" "lib" (Folder.nodesAt s.disk Folder.depth p "lib" "lib"))) s := by
    refine Action.ask_iff.mpr ⟨?_, rfl⟩
    rw [hany, hl]
    rfl
  rw [inFolder, hl]
  refine (Ends.bind_of_ok htree).mpr (Action.ask_iff.mpr ⟨?_, rfl⟩)
  rw [hany]
  rfl

namespace Analysis

-- The analysis of a project is told by what is in its folder, but for what stops it. The way to the
-- folder counts only as far as it names the folder.
theorem resolved_answers {depth : Datum} {bound : Int} (hnull : ¬l.HasNull)
    (hroot : l.resolved s.cwd = p) (h : Analysable s.disk s.cwd p) :
    Answers (inFolder l depth bound) s (placed s.disk p depth bound) := by
  have hnull : ¬l.text.toList.contains '\x00' = true := by
    rwa [List.contains_iff_mem, ← Location.hasNull_iff]
  have hplace : s.disk.place s.cwd ((Location.absolute p).child "lib") = .ok (p ++ ["lib"]) :=
    h.readable.rooted.place_child (by decide) (by decide) (by decide) h.sources
  refine .bind .ofExcept fun depth _ => ?_
  rw [if_neg hnull]
  refine .bind_of_ok (Ends.get_iff.mpr ⟨rfl, rfl⟩) ?_
  rw [hroot]
  refine .bind_of_ok (Action.ask_iff.mpr ⟨h.readable.rooted.isFolder.symm, rfl⟩) ?_
  refine .bind_of_ok (Action.ask_iff.mpr ⟨(Disk.isFolder_eq hplace).symm, rfl⟩) ?_
  by_cases hlib : s.disk.find? (p ++ ["lib"]) = some .folder
  case neg =>
    rw [if_neg hlib, if_pos (by simpa using hlib)]
    exact .throw_bind
  case pos =>
    rw [if_pos hlib, if_neg (by simp [hlib]), Option.map_eq_bind]
    refine .bind (Manifest.inFolder_answers h.readable) fun m _ => ?_
    refine .bind_of_ok (Assessment.inFolder_ends hplace (by simp [Location.name, Location.child])) ?_
    refine .bind_of_ok (SourceTree.read_ends h.readable) ?_
    refine .bind_of_ok (Ends.get_iff.mpr ⟨rfl, rfl⟩) ?_
    exact .of_ok (Ends.pure_iff.mpr ⟨rfl, rfl⟩)

theorem inFolder_answers {depth : Datum} {bound : Int} (hcwd : ".." ∉ s.cwd)
    (hl : s.disk.Rooted s.cwd l p) (h : Analysable s.disk s.cwd p) :
    Answers (inFolder l depth bound) s (placed s.disk p depth bound) := by
  refine resolved_answers (Disk.not_hasNull_of_isFolder hl.isFolder) ?_ h
  rw [Location.resolved_eq_reach hcwd, Disk.place_eq_ok hl.place]

/-! Folders that hold the same -/

variable (hm : Disk.Mirrored d d' p p')

include hm

theorem nodesAt_mirrored {k : Nat} {rel : List String} {name path : String} :
    Folder.nodesAt d' k (p' ++ rel) name path = Folder.nodesAt d k (p ++ rel) name path := by
  induction k generalizing rel name path
  case zero => rfl
  case succ k ih =>
    rw [Folder.nodesAt, Folder.nodesAt, hm.children]
    refine List.map_congr_left fun n _ => ?_
    obtain ⟨own, n⟩ := n
    cases n
    case file => rfl
    case folder => simp only [List.append_assoc, ih]

theorem placed_mirrored {depth : Datum} {bound : Int} (h : SourceTree.Readable d cwd l p) :
    placed d' p' depth bound = placed d p depth bound := by
  have hmanifest : Manifest.placed d' p' = Manifest.placed d p := by
    rw [Manifest.placed, Manifest.placed, Disk.textAt, Disk.textAt, Disk.content?, Disk.content?,
      hm.find?]
  have hassessment : Assessment.placed d' (p' ++ ["lib"]) = Assessment.placed d (p ++ ["lib"]) := by
    rw [Assessment.placed, Assessment.placed, nodesAt_mirrored hm]
    congr 1
    funext at_
    rw [List.append_assoc, List.append_assoc, Disk.folderNames, Disk.folderNames, hm.children]
  rw [placed, placed, hmanifest, hassessment, SourceTree.sourcesAt_mirrored h hm, hm.find?,
    countFiles, countFiles, hm.below]

end Analysis

end Refit
