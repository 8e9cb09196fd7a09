import Refit.Proofs.Disk.Refusals
import Refit.Proofs.Disk.Storing
import Refit.Proofs.Source.Cloning

/-!
The folder of a clone from its being made to its being removed: making a clone always comes to a
result, and removing it takes its folder away and nothing else.
-/

namespace Refit

/-! Paths that lead somewhere -/

namespace Disk

variable {d d' : Disk} {cwd cwd' at_ ws temp q : List String} {n : String}

-- A way that can be walked can be walked on any disk that has the folders on it.
theorem walk_of_folders (h : d.walk at_ ws = .ok q)
    (hf : ∀ k < ws.length, d'.find? ((ws.take k).foldl Location.advance at_) = some .folder) :
    d'.walk at_ ws = .ok q := by
  induction ws generalizing at_
  case nil => exact h
  case cons w ws ih =>
    have hat : d'.find? at_ = some .folder := hf 0 (by simp)
    have hnext : ∀ k < ws.length,
        d'.find? ((ws.take k).foldl Location.advance (Location.advance at_ w)) = some .folder :=
      fun k hk => hf (k + 1) (by simpa using hk)
    rw [Location.advance] at hnext
    rw [walk] at h ⊢
    rw [hat]
    split at h
    case h_1 => cases h
    case h_2 => cases h
    case h_3 =>
      split
      case isTrue hup => exact ih (by simpa [hup] using h) (by simpa [hup] using hnext)
      case isFalse hup =>
        split
        case isTrue hlong => simp [hup, hlong] at h
        case isFalse hlong => exact ih (by simpa [hup, hlong] using h) (by simpa [hup] using hnext)

-- Whether a path leads into a folder that is there does not depend on what else is there, nor on
-- the working folder.
theorem place_of_leads (h : d.place cwd (.absolute (temp ++ [n])) = .ok q) (hf : ".." ∉ temp)
    (hleads : d'.Leads temp) : d'.place cwd' (.absolute (temp ++ [n])) = .ok q := by
  rw [place] at h ⊢
  split at h
  case isTrue => cases h
  case isFalse hnull =>
    split at h
    case isTrue => cases h
    case isFalse hlong =>
      rw [if_neg hnull, if_neg hlong]
      have hw := mapError_eq_ok.mp h
      refine mapError_eq_ok.mpr (walk_of_folders hw fun k hk => ?_)
      have hk : k ≤ temp.length := by
        simp only [Location.absolute, List.length_append, List.length_singleton] at hk
        omega
      simp only [Location.absolute, List.take_append_of_le_length hk]
      rw [Location.foldl_advance fun hm => hf (List.mem_of_mem_take hm)]
      exact hleads k

end Disk

namespace Clone

variable {url : String} {s s' : Session} {branch depth timeout : Datum}

/-! Names -/

theorem nameOf_ne_empty : nameOf url ≠ "" := by
  simp only [nameOf]
  split <;> split <;> simp_all

theorem steps_nameOf_eq (h : nameOf url ≠ ".") : Path.steps (nameOf url) = [nameOf url] :=
  Path.steps_eq_singleton (by simp [Path.counts, nameOf_ne_empty, h]) not_mem_nameOf

-- A name has no zero byte that its address does not have.
theorem not_null_nameOf (h : '\x00' ∉ url.toList) : '\x00' ∉ (nameOf url).toList := by
  have hsplit {s : String} (hs : '\x00' ∉ s.toList) :
      '\x00' ∉ ((s.splitAt '/').getLast?.getD "").toList := by
    cases h : (s.splitAt '/').getLast?
    case none => simp
    case some w =>
      have ⟨cs, hcs, hw⟩ := List.mem_map.mp (List.mem_of_getLast? h)
      rw [Option.getD_some, ← hw, String.toList_ofList]
      exact fun hm => hs (Text.mem_of_mem_split hcs hm)
  have hskip {s : String} (hs : '\x00' ∉ s.toList) : '\x00' ∉ (s.skipLastChars 4).toList := by
    simp only [String.skipLastChars, String.toList_ofList]
    exact fun hm => hs (List.mem_of_mem_take hm)
  have hcolons : '\x00' ∉ ((url.withoutTrailing (· == '/')).replacing ":" "/").toList := by
    simp only [String.replacing, String.withoutTrailing, String.toList_ofList]
    intro hm
    rcases Text.mem_of_mem_replaceSeq hm with hm | hm
    · exact absurd hm (by decide)
    · exact h (Text.mem_of_mem_dropEndWhile hm)
  simp only [nameOf]
  split <;> split
  · decide
  · exact hskip (hsplit hcolons)
  · decide
  · exact hsplit hcolons

/-! Making -/

-- An address and a session in which its clone can be made: it gives a name of its own, there is
-- room for a temporary folder, the program that clones can write its files below the place that it
-- is given, and the one that is asked for the revision writes none.
structure Fetchable (url : String) (s : Session) : Prop where
  named : nameOf url ≠ "." ∧ nameOf url ≠ ".."
  nullFree : '\x00' ∉ url.toList
  fits : s.disk.place s.cwd (.absolute (s.temp ++ [s.freshTemp])) = .ok (s.temp ++ [s.freshTemp])
  below : ∀ o ∈ s.programs.script.head?, ∀ f ∈ o.files, f.1.root = none ∧ ".." ∉ f.1.steps
  written : ∀ o ∈ s.programs.script.head?, ∃ d, Ends (Action.placeFiles
    (.absolute (placeOf s.temp s.freshTemp url)) s.cwd o.files)
    (s.disk.set (s.temp ++ [s.freshTemp]) .folder) (.ok ()) d
  revision : ∀ o ∈ s.programs.script[1]?, o.files = []

theorem Fetchable.tame (h : Fetchable url s) : Tame url s where
  below o ho f hf := by
    obtain ⟨hroot, hup⟩ := h.below o ho f hf
    refine ⟨hroot, ?_⟩
    rw [steps_nameOf_eq h.named.1, List.singleton_append, List.mem_cons]
    rintro (heq | hm)
    · exact h.named.2 heq.symm
    · exact hup hm
  revision := h.revision
  nameless hn := by simp [steps_nameOf_eq h.named.1] at hn

theorem Fetchable.of_looked (h : Fetchable url s) (hl : s.Looked s') : Fetchable url s' := by
  have hfresh : s'.freshTemp = s.freshTemp := by
    rw [Session.freshTemp, Session.freshTemp, hl.disk, hl.temp]
  refine ⟨h.named, h.nullFree, ?_, hl.programs ▸ h.below, ?_, hl.programs ▸ h.revision⟩
  · rw [hfresh, hl.disk, hl.cwd, hl.temp]
    exact h.fits
  · rw [hfresh, hl.disk, hl.cwd, hl.temp, hl.programs]
    exact h.written

theorem Fetchable.not_hasNull (h : Fetchable url s) :
    ¬(Location.absolute (placeOf s.temp s.freshTemp url)).HasNull := by
  have hroot : ¬(Location.absolute (s.temp ++ [s.freshTemp])).HasNull := fun hn => by
    have hplace := h.fits
    rw [Disk.place_of_hasNull hn] at hplace
    cases hplace
  rintro ⟨w, hw, hn⟩
  rw [placeOf, steps_nameOf_eq h.named.1, Location.absolute, Option.toList_some,
    ← List.append_assoc, List.mem_append] at hw
  rcases hw with hw | hw
  · exact hroot ⟨w, hw, hn⟩
  · exact not_null_nameOf h.nullFree (List.mem_singleton.mp hw ▸ hn)

theorem resolveCommit_returns {l : Location}
    (hq : ∀ o ∈ s.programs.script.head?, o.files = []) :
    ∃ commit s', Ends (resolveCommit l) s (.ok commit) s' := by
  obtain ⟨r, t, hrun⟩ := Ends.exists_ends
    (Action.run ⟨["git", "rev-parse", "HEAD"].map Datum.text, some l, .int 30⟩) s
  obtain ⟨rfl, _⟩ := Action.run_quiet hq hrun
  rw [resolveCommit]
  simp only [Ends.bind_of_ok hrun]
  split
  · exact ⟨_, _, Ends.pure_iff.mpr ⟨rfl, rfl⟩⟩
  · exact ⟨_, _, Ends.pure_iff.mpr ⟨rfl, rfl⟩⟩
  · exact ⟨_, _, Ends.pure_iff.mpr ⟨rfl, rfl⟩⟩

theorem sizeOf_returns {l : Location} (h : ¬l.HasNull) :
    ∃ size, Ends (Action.sizeOf l) s (.ok size) s := by
  rw [Action.sizeOf]
  simp only [Action.ask_iff]
  split
  case h_1 => exact ⟨_, rfl, trivial⟩
  case h_2 => exact ⟨_, rfl, trivial⟩
  case h_3 e hne hplace =>
    obtain ⟨t, ht⟩ := (Disk.place_refuses hplace).exists_file h
    exact absurd ht (hne t)

theorem troubleOf_returns {o : Outcome} (h : timeout.hasText) :
    ∃ e, troubleOf timeout o = .ok e := by
  cases o
  case ended status output errors files =>
    rw [troubleOf]
    split
    · exact ⟨_, rfl⟩
    · exact ⟨_, rfl⟩
  case late => exact ⟨_, by rw [troubleOf, Datum.toText, if_pos h]; rfl⟩
  case absent => exact ⟨_, rfl⟩

-- The program that clones is run, whatever it does.
theorem run_returns {l : List Datum} (hf : Fetchable url s) (hproper : Path.Proper s.temp)
    (hl : words (.text url) branch depth (.absolute (placeOf s.temp s.freshTemp url)) = .ok l) :
    ∃ o s', Ends (Action.run ⟨l, none, timeout⟩)
      { s with disk := s.disk.set (s.temp ++ [s.freshTemp]) .folder } (.ok o) s' := by
  obtain ⟨k, hk, _⟩ := @exists_freeName ((s.disk.children s.temp).map Prod.fst)
  have htarget : Command.target ⟨l, none, timeout⟩ = .absolute (placeOf s.temp s.freshTemp url) := by
    rw [target_words hl, Session.freshTemp, hk, Location.ofText_text (proper_placeOf hproper)]
  suffices h : ∃ d, Ends (Action.placeFiles (.absolute (placeOf s.temp s.freshTemp url)) s.cwd
      (s.programs.next ⟨l, none, timeout⟩).1.files)
      (s.disk.set (s.temp ++ [s.freshTemp]) .folder) (.ok ()) d by
    obtain ⟨d, hd⟩ := h
    exact ⟨_, _, Action.run_iff.mpr ⟨.ok (), d, htarget ▸ hd, rfl, rfl⟩⟩
  rw [Programs.files_next]
  cases ho : s.programs.script.head?
  case none => exact ⟨_, Ends.pure_iff.mpr ⟨rfl, rfl⟩⟩
  case some o => exact hf.written o ho

-- Making a clone comes to a result, for every outcome of the programs.
theorem make_returns (branch : Datum) (ht : s.HasTemp) (hf : Fetchable url s) (hd : depth.hasText)
    (hto : timeout.hasText) :
    ∃ c s', Ends (make url branch depth timeout) s (.ok c) s' := by
  have htemp : Ends makeTemp s _ _ := makeTemp_iff.mpr ⟨rfl, rfl⟩
  obtain ⟨l, hl⟩ : ∃ l, words (.text url) branch depth
      (.absolute (placeOf s.temp s.freshTemp url)) = .ok l :=
    ⟨_, by rw [words, Datum.toText, if_pos hd]; rfl⟩
  obtain ⟨o, u, hrun⟩ : ∃ o u, Ends (Action.run ⟨l, none, timeout⟩)
      { s with disk := s.disk.set (s.temp ++ [s.freshTemp]) .folder } (.ok o) u :=
    run_returns hf ht.proper hl
  obtain ⟨e, he⟩ := @troubleOf_returns timeout o hto
  rw [make]
  simp only [Ends.bind_of_ok htemp, absolute_placeOf,
    Ends.bind_of_ok (Action.ofRead_ok_iff.mpr ⟨hl, rfl⟩), Ends.bind_of_ok hrun,
    Ends.bind_of_ok (Action.ofRead_ok_iff.mpr ⟨he, rfl⟩)]
  cases e
  case some e => exact ⟨_, _, (Ends.bind_of_ok (Ends.modify_iff.mpr ⟨rfl, rfl⟩)).mpr
      (Ends.pure_iff.mpr ⟨rfl, rfl⟩)⟩
  case none =>
    have hscript : u.programs.script = s.programs.script.tail := by
      obtain ⟨_, _, _, _, rfl⟩ := Action.run_iff.mp hrun
      rfl
    have hquiet : ∀ o ∈ u.programs.script.head?, o.files = [] := fun o ho =>
      hf.revision o (List.head?_tail ▸ hscript ▸ ho)
    obtain ⟨commit, v, hcommit⟩ := @resolveCommit_returns u
      (.absolute (placeOf s.temp s.freshTemp url)) hquiet
    obtain ⟨size, hsize⟩ := @sizeOf_returns v _ hf.not_hasNull
    exact ⟨_, _, (Ends.bind_of_ok hcommit).mpr ((Ends.bind_of_ok hsize).mpr
      (Ends.pure_iff.mpr ⟨rfl, rfl⟩))⟩

-- A clone whose depth cannot be written stops before a program is run, and its folder is left.
theorem make_stops (h : depth.hasText = false) :
    Ends (make url branch depth timeout) s (.error (.fault .unwritableInteger))
      { s with disk := s.disk.set (s.temp ++ [s.freshTemp]) .folder } := by
  have htemp : Ends makeTemp s _ _ := makeTemp_iff.mpr ⟨rfl, rfl⟩
  refine (Ends.bind_of_ok htemp).mpr (Ends.bind_of_error (Action.ofExcept_iff.mpr ⟨?_, rfl⟩))
  rw [words, Datum.toText, h]
  rfl

/-! Removing -/

variable {temp : List String} {k : Nat}

-- Removing a clone takes its temporary folder away, if that is there.
theorem remove_ends (hproper : Path.Proper temp) (hnamed : nameOf url ≠ ".")
    (hplace : s.disk.place s.cwd (.absolute (temp ++ [tempName k])) =
      .ok (temp ++ [tempName k])) :
    Ends (remove (Location.absolute (placeOf temp (tempName k) url)).text) s (.ok ())
      { s with disk :=
        if s.disk.find? (temp ++ [tempName k]) = some .folder then
          s.disk.remove (temp ++ [tempName k])
        else s.disk } := by
  have hroot : rootOf (.ofText (Location.absolute (placeOf temp (tempName k) url)).text) =
      .absolute (temp ++ [tempName k]) := by
    rw [Location.ofText_text (proper_placeOf hproper), rootOf_placeOf]
    intro hn
    simp [steps_nameOf_eq hnamed] at hn
  have hpath : ¬((Location.absolute (placeOf temp (tempName k) url)).text == "") = true := by
    simp [Location.text, Location.absolute]
  have hname : (Location.absolute (temp ++ [tempName k])).name = tempName k := by
    simp [Location.name, Location.absolute]
  have hwhole : (tempName k != "" && tempName k != "..") = true := by
    simp [tempName_ne (show "".beginsWith tempStart = false by decide),
      tempName_ne (show "..".beginsWith tempStart = false by decide)]
  have hlook : Ends (Action.isFolder (.absolute (temp ++ [tempName k]))) s
      (.ok (s.disk.find? (temp ++ [tempName k]) == some .folder)) s :=
    Action.ask_iff.mpr ⟨(Disk.isFolder_eq hplace).symm, rfl⟩
  have hask : Ends (Action.ask fun d cwd => d.place cwd (.absolute (temp ++ [tempName k]))) s
      (.ok (temp ++ [tempName k])) s :=
    Action.ask_iff.mpr ⟨hplace.symm, rfl⟩
  rw [remove, if_neg hpath, hroot, Ends.bind_of_ok hlook, hname, hwhole]
  by_cases hf : s.disk.find? (temp ++ [tempName k]) = some .folder
  case pos =>
    rw [if_pos (by simp [hf]), if_pos hf]
    exact (Ends.bind_of_ok hask).mpr (Ends.modify_iff.mpr ⟨rfl, rfl⟩)
  case neg =>
    rw [if_neg (by simpa using hf), if_neg hf]
    exact Ends.pure_iff.mpr ⟨rfl, rfl⟩

-- Whatever is at a path that is not too long, removing a clone there comes to an end.
theorem exists_remove {path : String} (h : (rootOf (.ofText path)).Short) :
    ∃ s', Ends (remove path) s (.ok ()) s' := by
  rw [remove]
  split
  case isTrue => exact ⟨_, Ends.pure_iff.mpr ⟨rfl, rfl⟩⟩
  case isFalse =>
    obtain ⟨b, hb⟩ : ∃ b, s.disk.isFolder s.cwd (rootOf (.ofText path)) = .ok b :=
      Disk.exists_isFolder h
    have hlook : Ends (Action.isFolder (rootOf (.ofText path))) s (.ok b) s :=
      Action.ask_iff.mpr ⟨hb.symm, rfl⟩
    cases b
    case false => exact ⟨_, (Ends.bind_of_ok hlook).mpr (Ends.pure_iff.mpr ⟨rfl, rfl⟩)⟩
    case true =>
      obtain ⟨q, hq, _⟩ := Disk.exists_place_of_isFolder hb
      have hask : Ends (Action.ask fun d cwd => d.place cwd (rootOf (.ofText path))) s (.ok q) s :=
        Action.ask_iff.mpr ⟨hq.symm, rfl⟩
      exact ⟨_, (Ends.bind_of_ok hlook).mpr
        ((Ends.bind_of_ok hask).mpr (Ends.modify_iff.mpr ⟨rfl, rfl⟩))⟩

-- Where its folder is gone, removing a clone does nothing, however often.
theorem removals_of_gone {n : Nat} (hproper : Path.Proper temp) (hnamed : nameOf url ≠ ".")
    (hplace : s.disk.place s.cwd (.absolute (temp ++ [tempName k])) =
      .ok (temp ++ [tempName k]))
    (hgone : s.disk.find? (temp ++ [tempName k]) = none) :
    Ends ((List.replicate n (Location.absolute (placeOf temp (tempName k) url)).text).forM remove) s
      (.ok ()) s := by
  induction n
  case zero => exact Ends.pure_iff.mpr ⟨rfl, rfl⟩
  case succ n ih =>
    have hremove := remove_ends hproper hnamed hplace
    rw [if_neg (by simp [hgone])] at hremove
    rw [List.replicate_succ]
    exact (Ends.bind_of_ok hremove).mpr ih

end Clone

end Refit
