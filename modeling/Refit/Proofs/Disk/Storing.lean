import Refit.Proofs.Disk.Mirrored
import Refit.Proofs.Disk.Writes

/-!
Files that are stored. In a folder that is there nothing but the file changes, and it can be read; in
one that is empty all files are stored that can stand next to each other.
-/

namespace Refit.Disk

variable {cwd p q v w at_ steps : List String} {l m : Location} {d d' : Disk} {n : Node}
  {b : List UInt8} {ways : List (List String)} {k : Nat} {name : String}

/-! Folders that stay -/

-- All folders of a disk are folders of another.
def Grows (d d' : Disk) : Prop :=
  ∀ r, d.find? r = some .folder → d'.find? r = some .folder

theorem Grows.set (hq : d.find? q ≠ some .folder) : d.Grows (d.set q n) := by
  intro r hr
  rw [find?_set (ne_nil_of_find?_ne hq), if_neg (by rintro rfl; exact hq hr), hr]

theorem Grows.of_paved (h : Paved cwd l d d') : d.Grows d' := by
  intro r hr
  rcases h r with h | ⟨_, hnone, _⟩
  · exact h.trans hr
  · cases hr.symm.trans hnone

theorem Grows.walk (hd : d.Grows d') (h : d.walk at_ steps = .ok p) :
    d'.walk at_ steps = .ok p := by
  induction steps generalizing at_
  case nil => exact h
  case cons s steps ih =>
    rw [Disk.walk] at h ⊢
    split at h
    case h_1 => cases h
    case h_2 => cases h
    case h_3 hat =>
      rw [hd _ hat]
      split at h
      case isTrue hup => simpa [hup] using ih h
      case isFalse hup =>
        split at h
        case isTrue => cases h
        case isFalse hlong => simpa [hup, hlong] using ih h

theorem Grows.place (hd : d.Grows d') (h : d.place cwd l = .ok p) : d'.place cwd l = .ok p := by
  rw [Disk.place] at h ⊢
  split at h
  case isTrue => cases h
  case isFalse hnull =>
    rw [if_neg hnull]
    split at h
    case isTrue => cases h
    case isFalse hlong =>
      rw [if_neg hlong]
      exact mapError_eq_ok.mpr (hd.walk (mapError_eq_ok.mp h))

theorem Grows.rooted (hd : d.Grows d') (h : d.Rooted cwd l p) : d'.Rooted cwd l p :=
  ⟨hd.place h.place, hd _ h.folder⟩

/-! Looking -/

theorem isFolder_eq (h : d.place cwd l = .ok p) :
    d.isFolder cwd l = .ok (d.find? p == some .folder) := by
  simp only [isFolder, look?, h]
  rcases d.find? p with _ | _ | _ <;> rfl

theorem isFolder_of_place (h : d.place cwd l = .ok p) (hp : d.find? p = some .folder) :
    d.isFolder cwd l = .ok true := by
  rw [isFolder_eq h, hp]
  rfl

theorem isFile_eq (h : d.place cwd l = .ok p) : d.isFile cwd l = .ok (d.content? p).isSome := by
  simp only [isFile, look?, h, content?]
  rcases d.find? p with _ | _ | _ <;> rfl

theorem isFile_of_place (h : d.place cwd l = .ok p) (hp : d.find? p = some (.file b)) :
    d.isFile cwd l = .ok true := by
  rw [isFile_eq h, content?, hp]
  rfl

theorem readBytes_of_place (h : d.place cwd l = .ok p) (hp : d.find? p = some (.file b)) :
    d.readBytes cwd l = .ok b := by
  rw [readBytes, h]
  simp only [bind, Except.bind, hp]

theorem isFile_of_readBytes (h : d.readBytes cwd l = .ok b) : d.isFile cwd l = .ok true := by
  obtain ⟨p, hp, hb⟩ := bind_eq_ok.mp h
  split at hb
  case h_1 hfile => exact isFile_of_place hp hfile
  case h_2 => cases hb
  case h_3 => cases hb

/-! Storing -/

theorem unlessFolder_ends {s : Stop} (h : d.isFolder cwd l = .ok true) :
    Ends (unlessFolder cwd l s) d (.ok ()) d :=
  (Ends.bind_of_ok (lift_iff.mpr ⟨h.symm, rfl⟩)).mpr (Ends.pure_iff.mpr ⟨rfl, rfl⟩)

theorem makeFolder_present (h : d.Rooted cwd l p) :
    Ends (makeFolder cwd l) d (.error (.file (.present l.text))) d := by
  refine (Ends.bind_of_ok (lift_iff.mpr ⟨h.place.symm, rfl⟩)).mpr (Ends.get_bind_iff.mpr ?_)
  rw [h.folder]
  exact Ends.throw_iff.mpr ⟨rfl, rfl⟩

-- A file can be stored at a path: the folder around is there, and the path leads to no folder.
structure Storable (d : Disk) (cwd : List String) (l : Location) (p : List String) : Prop where
  around : d.isFolder cwd l.parent = .ok true
  place : d.place cwd l = .ok p
  free : d.find? p ≠ some .folder

-- To make a folder that is there changes nothing.
theorem makeFolders_of_isFolder (h : d.isFolder cwd l = .ok true) :
    Ends (makeFolders cwd l) d (.ok ()) d := by
  obtain ⟨p, hplace, hfolder⟩ := exists_place_of_isFolder h
  rw [makeFolders]
  cases l.steps.length
  all_goals
    rw [makeFoldersFrom]
    exact (Ends.tryCatch_of_error (makeFolder_present ⟨hplace, hfolder⟩)).mpr (unlessFolder_ends h)

theorem writeText_of_place (h : d.place cwd l = .ok p) (hfree : d.find? p ≠ some .folder)
    (content : String) :
    Ends (writeText cwd l content) d (.ok ()) (d.set p (.file content.toUTF8.toList)) := by
  refine (Ends.bind_of_ok (lift_iff.mpr ⟨h.symm, rfl⟩)).mpr (Ends.get_bind_iff.mpr ?_)
  split
  case h_1 hp => exact absurd hp hfree
  case h_2 => exact Ends.modify_iff.mpr ⟨rfl, rfl⟩

namespace Storable

theorem store (h : Storable d cwd l p) (content : String) :
    Ends (store cwd l content) d (.ok ()) (d.set p (.file content.toUTF8.toList)) :=
  (Ends.bind_of_ok (makeFolders_of_isFolder h.around)).mpr
    (writeText_of_place h.place h.free content)

-- A file can still be stored once another one is, or the same.
theorem set (h : Storable d cwd l p) (hq : d.find? q ≠ some .folder) :
    Storable (d.set q (.file b)) cwd l p := by
  obtain ⟨around, hplace, hfolder⟩ := exists_place_of_isFolder h.around
  refine ⟨isFolder_of_place ((Grows.set hq).place hplace) ?_, (Grows.set hq).place h.place, ?_⟩
  all_goals
    rw [find?_set (ne_nil_of_find?_ne hq)]
  · rw [if_neg (by rintro rfl; exact hq hfolder), hfolder]
  · split
    · simp
    · exact h.free

end Storable

/-! Folders that are made on a way -/

-- Where a path leads to no file, it leads to a folder once one is made there, or was there before.
theorem exists_tryFolder (handler : Stop → Change Unit)
    (hh : handler (.file (.present l.text)) = unlessFolder cwd l (.file (.present l.text)))
    (h : d.place cwd l = .ok p) (hfile : ∀ b, d.find? p ≠ some (.file b)) :
    ∃ d', Ends (tryCatch (makeFolder cwd l) handler) d (.ok ()) d' ∧ d'.Rooted cwd l p := by
  cases hp : d.find? p
  case none =>
    have hfree : d.find? p ≠ some .folder := by simp [hp]
    refine ⟨d.set p .folder, Ends.tryCatch_iff.mpr (.inl ⟨_, rfl, ?_⟩), (Grows.set hfree).place h, ?_⟩
    · refine (Ends.bind_of_ok (lift_iff.mpr ⟨h.symm, rfl⟩)).mpr (Ends.get_bind_iff.mpr ?_)
      rw [hp]
      exact Ends.modify_iff.mpr ⟨rfl, rfl⟩
    · rw [find?_set (ne_nil_of_find?_ne hfree), if_pos rfl]
  case some n =>
    cases n
    case file b => exact absurd hp (hfile b)
    case folder =>
      have hroot : d.Rooted cwd l p := ⟨h, hp⟩
      exact ⟨d, (Ends.tryCatch_of_error (makeFolder_present hroot)).mpr
        (hh ▸ unlessFolder_ends hroot.isFolder), hroot⟩

theorem exists_makeFoldersFrom (h : d.place cwd l = .ok p)
    (hfile : ∀ b, d.find? p ≠ some (.file b)) :
    ∃ d', Ends (makeFoldersFrom cwd k l) d (.ok ()) d' ∧ d'.Rooted cwd l p := by
  cases k
  all_goals
    rw [makeFoldersFrom]
    exact exists_tryFolder _ rfl h hfile

-- A way without files leads to its end, unless a folder is missing.
theorem walk_of_clear (hup : ".." ∉ w) (hshort : ∀ s ∈ w, s.utf8ByteSize ≤ nameLimit)
    (hclear : ∀ v, v <+: w → v ≠ w → ∀ b, d.find? (p ++ v) ≠ some (.file b)) :
    d.walk p w = .ok (p ++ w) ∨ d.walk p w = .error .missing := by
  induction w generalizing p
  case nil => exact .inl (by rw [walk, List.append_nil])
  case cons s w ih =>
    obtain ⟨hs, hup⟩ := List.ne_and_not_mem_of_not_mem_cons hup
    obtain ⟨hlong, hshort⟩ := List.forall_mem_cons.mp hshort
    rw [walk]
    split
    case h_1 => exact .inr rfl
    case h_2 b hb =>
      exact absurd (by rwa [List.append_nil]) (hclear [] List.nil_prefix (by simp) b)
    case h_3 =>
      have hrest := ih (p := p ++ [s]) hup hshort fun v hv hne b => by
        rw [List.append_assoc, List.singleton_append]
        exact hclear (s :: v) (List.prefix_cons_inj s |>.mpr hv) (by simpa using hne) b
      rw [if_neg (by simpa using hs.symm), if_neg (Nat.not_lt.mpr hlong)]
      simpa using hrest

-- A way from a folder that the disk does not refuse: it goes forward, and is short enough.
structure Passable (l : Location) (w : List String) : Prop where
  plain : ∀ s ∈ w, Path.isPlain s
  names : ∀ s ∈ w, s.utf8ByteSize ≤ nameLimit
  whole : (l ++ ⟨none, w⟩).text.utf8ByteSize ≤ pathLimit

theorem append_concat : l ++ ⟨none, w ++ [name]⟩ = (l ++ ⟨none, w⟩ : Location).child name := by
  rw [Location.append_eq rfl, Location.append_eq rfl, Location.child, List.append_assoc]

theorem parent_child : (l.child name).parent = l := by
  rw [Location.child, Location.parent, List.dropLast_concat]

namespace Passable

theorem forward (h : Passable l w) : ".." ∉ w :=
  fun hw => absurd (h.plain _ hw) (by decide)

theorem not_hasNull (h : Passable l w) : ¬(⟨none, w⟩ : Location).HasNull := by
  rintro ⟨s, hs, hn⟩
  exact (Path.isPlain_iff.mp (h.plain s hs)).2.2.2 hn

theorem of_concat (h : Passable l (w ++ [name])) : Passable l w where
  plain s hs := h.plain s (List.mem_append_left _ hs)
  names s hs := h.names s (List.mem_append_left _ hs)
  whole := by
    have hname : name ≠ "" := by
      rintro rfl
      exact absurd (h.plain "" (by simp)) (by decide)
    have hwhole := h.whole
    rw [append_concat] at hwhole
    exact (Rooted.utf8ByteSize_text_le_child hname).trans hwhole

theorem place_child (h : Passable l (w ++ [name])) (hd : d.Rooted cwd (l ++ ⟨none, w⟩) p) :
    d.place cwd (l ++ ⟨none, w ++ [name]⟩) = .ok (p ++ [name]) := by
  obtain ⟨-, hup, -, hn⟩ := Path.isPlain_iff.mp (h.plain name (by simp))
  have hwhole := h.whole
  rw [append_concat] at hwhole ⊢
  exact hd.place_child hn hup (h.names name (by simp)) hwhole

end Passable

-- Folders can be made on a way without files.
theorem exists_makeFolders (hd : d.Rooted cwd l p) (hw : Passable l w) (hk : w.length ≤ k)
    (hclear : ∀ v, v <+: w → ∀ b, d.find? (p ++ v) ≠ some (.file b)) :
    ∃ d', Ends (makeFoldersFrom cwd k (l ++ ⟨none, w⟩)) d (.ok ()) d' ∧
      d'.Rooted cwd (l ++ ⟨none, w⟩) (p ++ w) := by
  induction w using List.reverseRecOn generalizing k
  case nil =>
    have hl : l ++ ⟨none, []⟩ = l := by rw [Location.append_eq rfl, List.append_nil]
    rw [hl, List.append_nil]
    exact exists_makeFoldersFrom hd.place (by simp [hd.folder])
  case append_singleton w name ih =>
    have hplace := hd.place_append (m := ⟨none, w ++ [name]⟩) rfl hw.not_hasNull hw.whole
    rcases walk_of_clear hw.forward hw.names fun v hv _ => hclear v hv with hwalk | hwalk
    all_goals rw [hwalk] at hplace
    case inl => exact exists_makeFoldersFrom hplace (hclear _ List.prefix_rfl)
    case inr =>
      rw [List.length_append, List.length_singleton] at hk
      obtain ⟨k, rfl⟩ := Nat.exists_eq_add_one.mpr (Nat.lt_of_lt_of_le (Nat.succ_pos _) hk)
      obtain ⟨d₁, hmade, hroot⟩ := ih hw.of_concat (Nat.le_of_succ_le_succ hk) fun v hv =>
        hclear v (hv.trans (List.prefix_append _ _))
      have hfile (b : List UInt8) : d₁.find? (p ++ w ++ [name]) ≠ some (.file b) := by
        rcases makeFoldersFrom_paves _ _ _ hmade (p ++ w ++ [name]) with h | ⟨_, _, h⟩
        · rw [h, List.append_assoc]
          exact hclear _ List.prefix_rfl b
        · rw [h]
          exact nofun
      have hmissing : Ends (makeFolder cwd (l ++ ⟨none, w ++ [name]⟩)) d
          (.error (.file (.missing (l ++ ⟨none, w ++ [name]⟩ : Location).text))) d :=
        Ends.bind_of_error (lift_iff.mpr ⟨hplace.symm, rfl⟩)
      have hparent : (l ++ ⟨none, w ++ [name]⟩ : Location).parent = l ++ ⟨none, w⟩ := by
        rw [append_concat, parent_child]
      rw [makeFoldersFrom, ← List.append_assoc]
      simp only [Ends.tryCatch_of_error hmissing, hparent, Ends.bind_of_ok hmade]
      exact exists_tryFolder _ rfl (hw.place_child hroot) hfile

-- The places that a path to a folder passes are folders.
theorem Rooted.find?_take (hd : d.Rooted cwd l p) :
    d.find? (({ l with steps := l.steps.take k } : Location).reach cwd) = some .folder := by
  have hplace := hd.place
  rw [Disk.place] at hplace
  split at hplace
  case isTrue => cases hplace
  case isFalse =>
    split at hplace
    case isTrue => cases hplace
    case isFalse =>
      have hwalk := mapError_eq_ok.mp hplace
      rw [← List.take_append_drop k l.steps, walk_append] at hwalk
      obtain ⟨q, hq, hrest⟩ := bind_eq_ok.mp hwalk
      have hreach : ({ l with steps := l.steps.take k } : Location).reach cwd = q :=
        (walk_eq_ok hq).symm
      rw [hreach]
      cases hdrop : l.steps.drop k
      case nil =>
        rw [hdrop] at hrest
        obtain rfl := Except.ok.inj hrest
        exact hd.folder
      case cons =>
        rw [hdrop, walk] at hrest
        split at hrest
        case h_1 => cases hrest
        case h_2 => cases hrest
        case h_3 hfolder => exact hfolder

-- What is made on the way to a path lies on the way from the folder there.
theorem Rooted.of_passes (hd : d.Rooted cwd l p) (hup : ".." ∉ w)
    (h : (l ++ ⟨none, w⟩ : Location).Passes cwd q) (hq : d.find? q = none) :
    ∃ v, v <+: w ∧ q = p ++ v := by
  obtain ⟨k, rfl⟩ := h
  rw [Location.append_eq rfl] at hq ⊢
  rcases Nat.le_total k l.steps.length with hk | hk
  case inl =>
    rw [List.take_append_of_le_length hk, hd.find?_take] at hq
    cases hq
  case inr =>
    refine ⟨w.take (k - l.steps.length), List.take_prefix _ _, ?_⟩
    have htake : { l with steps := (l.steps ++ w).take k } =
        l ++ (⟨none, w.take (k - l.steps.length)⟩ : Location) := by
      rw [Location.append_eq rfl, List.take_append, List.take_of_length_le hk]
    rw [htake, Location.reach_append_eq rfl fun h => hup (List.mem_of_mem_take h),
      ← place_eq_ok hd.place]

/-! Files stored next to each other -/

-- Ways from a folder to files that can be there together: none leads through the end of another.
structure Beside (l : Location) (ways : List (List String)) : Prop where
  named : [] ∉ ways
  passable : ∀ w ∈ ways, Passable l w
  apart : ∀ v ∈ ways, ∀ w ∈ ways, v <+: w → v = w

-- A folder from which ways lead to files, or to what can become a file.
structure Takes (d : Disk) (cwd : List String) (l : Location) (p : List String)
    (ways : List (List String)) : Prop where
  rooted : d.Rooted cwd l p
  free : ∀ w ∈ ways, d.find? (p ++ w) ≠ some .folder
  clear : ∀ w ∈ ways, ∀ v, v <+: w → v ≠ w → ∀ b, d.find? (p ++ v) ≠ some (.file b)

-- A folder with nothing in it takes all files.
theorem Rooted.takes (hd : d.Rooted cwd l p) (hb : Beside l ways)
    (hempty : ∀ w ≠ [], d.find? (p ++ w) = none) : d.Takes cwd l p ways where
  rooted := hd
  free w hw := by
    rw [hempty w (ne_of_mem_of_not_mem hw hb.named)]
    exact nofun
  clear w _ v _ _ b := by
    by_cases hv : v = []
    case pos =>
      rw [hv, List.append_nil, hd.folder]
      exact nofun
    case neg =>
      rw [hempty v hv]
      exact nofun

-- A file is stored, and the folder takes the others as before.
theorem Takes.store (h : d.Takes cwd l p ways) (hb : Beside l ways) (hw : w ∈ ways)
    (content : String) : ∃ d', Ends (store cwd (l ++ ⟨none, w⟩) content) d (.ok ()) d' ∧
      d'.Takes cwd l p ways := by
  obtain ⟨v, name, rfl⟩ := (List.eq_nil_or_concat' w).resolve_left (ne_of_mem_of_not_mem hw hb.named)
  have hpassable := hb.passable _ hw
  have hbelow {u : List String} (hu : u ∈ ways) : ¬u <+: v := fun huv => by
    have heq := hb.apart _ hu _ hw (huv.trans (List.prefix_append _ _))
    rw [heq] at huv
    exact absurd huv.length_le (by simp)
  obtain ⟨d₁, hmade, hroot⟩ := exists_makeFolders (k := (l.steps ++ v).length) h.rooted
    hpassable.of_concat (by simp) fun u hu b =>
      h.clear _ hw u (hu.trans (List.prefix_append _ _)) (by rintro rfl; exact absurd hu.length_le (by simp)) b
  have hpaved := makeFoldersFrom_paves _ _ _ hmade
  have hmoved (q : List String) : d₁.find? q = d.find? q ∨
      d₁.find? q = some .folder ∧ ∃ u, u <+: v ∧ q = p ++ u :=
    (hpaved q).imp_right fun ⟨hq, hnone, hfolder⟩ =>
      ⟨hfolder, h.rooted.of_passes hpassable.of_concat.forward hq hnone⟩
  have hfree {u : List String} (hu : u ∈ ways) : d₁.find? (p ++ u) ≠ some .folder := by
    rcases hmoved (p ++ u) with hsame | ⟨_, u', hu', heq⟩
    · exact hsame ▸ h.free u hu
    · obtain rfl := List.append_cancel_left heq
      exact absurd hu' (hbelow hu)
  have hplace := hpassable.place_child hroot
  rw [List.append_assoc] at hplace
  have hnil := ne_nil_of_find?_ne (hfree hw)
  have hparent : Ends (makeFolders cwd (l ++ ⟨none, v ++ [name]⟩ : Location).parent) d (.ok ()) d₁ := by
    rw [append_concat, parent_child]
    exact hmade
  refine ⟨_, (Ends.bind_of_ok hparent).mpr (writeText_of_place hplace (hfree hw) content),
    ?rooted, ?free, ?clear⟩
  case rooted => exact (Grows.set (hfree hw)).rooted ((Grows.of_paved hpaved).rooted h.rooted)
  case free =>
    intro u hu
    rw [find?_set hnil]
    split
    · exact nofun
    · exact hfree hu
  case clear =>
    intro u hu u' hu' hne b
    rw [find?_set hnil]
    split
    case isTrue heq =>
      obtain rfl := List.append_cancel_left heq
      exact absurd (hb.apart _ hw _ hu hu') hne
    case isFalse =>
      rcases hmoved (p ++ u') with hsame | ⟨hfolder, _⟩
      · exact hsame ▸ h.clear u hu u' hu' hne b
      · rw [hfolder]
        exact nofun

end Refit.Disk
