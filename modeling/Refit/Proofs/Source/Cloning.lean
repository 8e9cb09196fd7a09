import Mathlib.Data.List.Nodup
import Mathlib.Data.List.Perm.Subperm
import Refit.Proofs.Disk.Untouched
import Refit.Proofs.Session.Looks
import Refit.Proofs.Session.Runs
import Refit.Proofs.Source.Path

/-!
The folder of a clone: it is a new one, and nothing outside of it is touched when the clone is made
or removed.
-/

namespace Refit

/-! Names of temporary folders -/

namespace Clone

variable {n m : Nat} {taken : List String}

theorem toList_tempName : (tempName n).toList =
    tempStart.toList ++ (List.replicate (8 - (toString n).length) '0' ++ Nat.toDigits 10 n) := by
  simp [tempName, Number.padLeft, Nat.repr_eq_ofList_toDigits]

theorem tempName_injective : Function.Injective tempName := by
  intro n m h
  have h := congrArg String.toList h
  rw [toList_tempName, toList_tempName, List.append_cancel_left_eq] at h
  have hv := congrArg (Nat.ofDigitChars 10 · 0) h
  simpa [Nat.ofDigitChars_append] using hv

theorem not_mem_tempName : '/' ∉ (tempName n).toList := by
  rw [toList_tempName, List.mem_append, List.mem_append, List.mem_replicate]
  rintro (h | h | h)
  · revert h
    decide
  · exact absurd h.2 (by decide)
  · have hd := Nat.isDigit_of_mem_toDigits (by decide) (by decide) h
    exact absurd hd (by decide)

theorem beginsWith_tempName : (tempName n).beginsWith tempStart := by
  simp [String.beginsWith, toList_tempName]

theorem tempName_ne {w : String} (hw : w.beginsWith tempStart = false) : tempName n ≠ w := by
  rintro rfl
  simp [beginsWith_tempName] at hw

theorem counts_tempName : Path.counts (tempName n) := by
  have hempty : tempName n ≠ "" := tempName_ne (by decide)
  have hdot : tempName n ≠ "." := tempName_ne (by decide)
  simp [Path.counts, hempty, hdot]

-- There are more names to choose from than are taken.
theorem exists_freeName : ∃ n, freeName taken = tempName n ∧ tempName n ∉ taken := by
  rw [freeName]
  cases hf : ((List.range (taken.length + 1)).map tempName).find? fun n => !taken.contains n
  case some w =>
    have ⟨n, _, hn⟩ := List.mem_map.mp (List.mem_of_find?_eq_some hf)
    have hw := List.find?_some hf
    exact ⟨n, hn.symm, by simpa [hn] using hw⟩
  case none =>
    have hsub : (List.range (taken.length + 1)).map tempName ⊆ taken := by
      intro w hw
      simpa using List.find?_eq_none.mp hf w hw
    have hnodup : ((List.range (taken.length + 1)).map tempName).Nodup :=
      List.nodup_range.map tempName_injective
    have hlength := (List.subperm_of_subset hnodup hsub).length_le
    simp only [List.length_map, List.length_range] at hlength
    omega

end Clone

/-! Paths from the root -/

theorem Location.ofText_text {ws : List String} (h : Path.Proper ws) :
    ofText (absolute ws).text = absolute ws := by
  have htext : (absolute ws).text.toList = '/' :: ("/".joining ws).toList := by
    simp [text, absolute]
  rw [ofText, htext, Path.root?_cons (Path.head?_joining h), Path.steps_cons htext, Path.steps_joining h]
  rfl

theorem Location.parent_absolute {ws : List String} :
    (absolute ws).parent = absolute (ws.take (ws.length - 1)) := by
  rw [← List.dropLast_eq_take]
  rfl

namespace Disk

variable {root p q : List String} {d d' d'' : Disk} {cwd : List String} {l : Location}

theorem lookup_filter_prefix {ns : List (List String × Node)} (h : ¬p <+: q) :
    (ns.filter fun n => !p.isPrefixOf n.1).lookup q = ns.lookup q := by
  induction ns
  case nil => rfl
  case cons n ns ih =>
    have ⟨k, m⟩ := n
    rw [List.filter_cons]
    split
    case isTrue => rw [lookup_cons_ite, lookup_cons_ite, ih]
    case isFalse hk =>
      rw [lookup_cons_ite, ih, if_neg]
      rintro rfl
      simp [h] at hk

/-! Disks that are the same outside of a folder -/

-- A disk after changes inside a folder, the folder itself included.
def Apart (root : List String) (d d' : Disk) : Prop :=
  ∀ p, ¬root <+: p → d'.find? p = d.find? p

namespace Apart

theorem refl (d : Disk) : Apart root d d :=
  fun _ _ => rfl

theorem trans (h₁ : Apart root d d') (h₂ : Apart root d' d'') : Apart root d d'' :=
  fun p hp => (h₂ p hp).trans (h₁ p hp)

theorem of_set {n : Node} (hp : root <+: p) (hne : root ≠ []) : Apart root d (d.set p n) := by
  intro q hq
  have hpne : p ≠ [] := by
    rintro rfl
    exact hne (List.prefix_nil.mp hp)
  rw [find?_set hpne, if_neg]
  rintro rfl
  exact hq hp

theorem of_remove (hp : root <+: p) : Apart root d (d.remove p) := by
  intro q hq
  have hpq : ¬p <+: q := fun h => hq (hp.trans h)
  by_cases hnil : q = []
  case pos => simp [find?, hnil]
  case neg => simp [find?, remove, hnil, lookup_filter_prefix hpq]

end Apart

theorem find?_remove (hp : p ≠ []) :
    (d.remove p).find? q = if p <+: q then none else d.find? q := by
  by_cases hq : p <+: q
  case pos =>
    have hne : q ≠ [] := by
      rintro rfl
      exact hp (List.prefix_nil.mp hq)
    rw [if_pos hq, find?, if_neg (by simpa using hne), List.lookup_eq_none_iff]
    intro n hn
    have hout : p.isPrefixOf n.1 = false := by simpa using (List.mem_filter.mp hn).2
    rw [bne_iff_ne]
    rintro rfl
    exact absurd (List.isPrefixOf_iff_prefix.mpr hq) (by simp [hout])
  case neg => rw [if_neg hq, Apart.of_remove (List.prefix_refl p) q hq]

-- A place that a path leads to, every folder on the way being there.
def Leads (d : Disk) (p : List String) : Prop :=
  ∀ k, d.find? (p.take k) = some .folder

variable {temp rest : List String} {n : String} {r : Except Stop Unit}

theorem Leads.of_apart (h : d.Leads temp) (ha : Apart (temp ++ [n]) d d') : d'.Leads temp := by
  intro k
  rw [ha _ fun hp => ?_, h k]
  have hlength := hp.length_le
  simp only [List.length_append, List.length_singleton, List.length_take] at hlength
  omega

-- Folders that are made on the way to a place inside a folder that can be made.
theorem makeFolders_apart {k : Nat} (hleads : d.Leads temp) (hf : ".." ∉ temp ++ [n] ++ rest)
    (h : Ends (makeFolders cwd (.absolute ((temp ++ [n] ++ rest).take k))) d r d') :
    Apart (temp ++ [n]) d d' := by
  intro p hp
  rcases makeFolders_paves _ _ _ h p with h | ⟨⟨j, hj⟩, hnone, _⟩
  case inl => exact h
  case inr =>
    have hplace : p = (temp ++ [n] ++ rest).take (min j k) := by
      rw [hj, ← List.take_take]
      exact Location.reach_absolute fun h => hf (List.mem_of_mem_take (List.mem_of_mem_take h))
    generalize min j k = m at hplace
    by_cases hm : m ≤ temp.length
    case pos =>
      rw [hplace, List.append_assoc, List.take_append_of_le_length hm, hleads m] at hnone
      cases hnone
    case neg =>
      refine absurd ?_ hp
      rw [hplace, List.take_append, List.take_of_length_le (by simp; omega)]
      exact List.prefix_append _ _

theorem writeBytes_apart {content : List UInt8} (hne : root ≠ []) (hl : root <+: l.reach cwd) :
    Stays (Apart root) (writeBytes cwd l content) := by
  intro d r d' h
  rcases writeBytes_cases h with ⟨_, rfl⟩ | ⟨_, _, rfl⟩
  · exact .refl _
  · exact .of_set hl hne

end Disk

namespace Clone

open Disk (Apart Leads)

variable {temp names : List String} {n : String} {cwd : List String} {d d' : Disk}
  {r : Except Stop Unit}

theorem placeFiles_apart {files : List (Location × List UInt8)} (hleads : d.Leads temp)
    (hfiles : ∀ f ∈ files, f.1.root = none ∧ ".." ∉ temp ++ [n] ++ (names ++ f.1.steps))
    (h : Ends (Action.placeFiles (.absolute (temp ++ [n] ++ names)) cwd files) d r d') :
    Apart (temp ++ [n]) d d' := by
  induction files generalizing d r
  case nil => exact (Ends.pure_iff.mp h).2 ▸ .refl _
  case cons f files ih =>
    have ⟨⟨hroot, hforward⟩, hfiles⟩ := List.forall_mem_cons.mp hfiles
    have hown : Location.absolute (temp ++ [n] ++ names) ++ f.1 =
        .absolute (temp ++ [n] ++ (names ++ f.1.steps)) := by
      rw [Location.append_eq hroot, ← List.append_assoc]
      rfl
    simp only [Action.placeFiles, hown, Location.parent_absolute] at h
    rcases Ends.bind_iff.mp h with ⟨_, t, hmake, h⟩ | ⟨_, _, hmake⟩
    all_goals have hmade := Disk.makeFolders_apart hleads hforward hmake
    case inr => exact hmade
    have hinside : temp ++ [n] <+:
        (Location.absolute (temp ++ [n] ++ (names ++ f.1.steps))).reach cwd := by
      rw [Location.reach_absolute hforward]
      exact List.prefix_append _ _
    rcases Ends.bind_iff.mp h with ⟨_, u, hwrite, h⟩ | ⟨_, _, hwrite⟩
    all_goals
      have hwritten := hmade.trans (Disk.writeBytes_apart (by simp) hinside _ _ _ hwrite)
    case inl => exact hwritten.trans (ih (hleads.of_apart hwritten) hfiles h)
    case inr => exact hwritten

/-! The name of a clone -/

variable {url : String}

theorem not_mem_nameOf : '/' ∉ (nameOf url).toList := by
  have htail {s : String} : '/' ∉ ((s.splitAt '/').getLast?.getD "").toList := by
    cases h : (s.splitAt '/').getLast?
    case none => simp
    case some w =>
      have ⟨cs, hcs, hw⟩ := List.mem_map.mp (List.mem_of_getLast? h)
      simpa [← hw] using Text.not_mem_of_mem_split hcs
  have hskip {s : String} (h : '/' ∉ s.toList) : '/' ∉ (s.skipLastChars 4).toList := by
    simp only [String.skipLastChars, String.toList_ofList]
    exact fun hm => h (List.mem_of_mem_take hm)
  simp only [nameOf]
  split <;> split
  · decide
  · exact hskip htail
  · decide
  · exact htail

-- The name of a clone is a segment, unless it stands for the folder around it.
theorem steps_nameOf : Path.steps (nameOf url) = [] ∨ Path.steps (nameOf url) = [nameOf url] := by
  rw [Path.steps_eq, Text.split_eq_singleton not_mem_nameOf]
  by_cases hc : Path.counts (nameOf url) <;> simp [hc]

/-! Making a clone -/

-- The place of a clone in a temporary folder.
def placeOf (temp : List String) (n url : String) : List String :=
  temp ++ [n] ++ Path.steps (nameOf url)

theorem proper_placeOf {temp : List String} {k : Nat} (h : Path.Proper temp) :
    Path.Proper (placeOf temp (tempName k) url) := by
  intro w hw
  rw [placeOf, List.mem_append, List.mem_append, List.mem_singleton] at hw
  rcases hw with (hw | rfl) | hw
  · exact h w hw
  · exact ⟨counts_tempName, not_mem_tempName⟩
  · exact Path.counts_of_mem_steps hw

theorem absolute_placeOf {temp : List String} {n : String} :
    Location.absolute (temp ++ [n]) ++ .ofText (nameOf url) = .absolute (placeOf temp n url) := by
  have hroot : Path.root? (nameOf url).toList = none :=
    Path.root?_eq_none fun h => not_mem_nameOf (List.mem_of_mem_head? h)
  rw [placeOf]
  generalize nameOf url = name at *
  rw [Location.append_eq hroot]
  rfl

end Clone

variable {s s' : Session} {url : String}

-- A session whose temporary folder is there.
structure Session.HasTemp (s : Session) : Prop where
  proper : Path.Proper s.temp
  forward : ".." ∉ s.temp
  leads : s.disk.Leads s.temp

-- The name of the next temporary folder.
def Session.freshTemp (s : Session) : String :=
  Clone.freeName ((s.disk.children s.temp).map Prod.fst)

namespace Clone

-- An address whose clone stays in its temporary folder: the program that clones writes below the
-- place that it is given, the one that is asked for the revision writes nothing, and where the
-- address gives no name of its own the temporary folder is not in another one of its kind.
structure Tame (url : String) (s : Session) : Prop where
  below : ∀ o ∈ s.programs.script.head?, ∀ f ∈ o.files,
    f.1.root = none ∧ ".." ∉ Path.steps (nameOf url) ++ f.1.steps
  revision : ∀ o ∈ s.programs.script[1]?, o.files = []
  nameless : Path.steps (nameOf url) = [] →
    (s.temp.getLast?.getD "").beginsWith tempStart = false

theorem makeTemp_iff {r : Except Stop (List String)} : Ends makeTemp s r s' ↔
    let p := s.temp ++ [s.freshTemp]
    r = .ok p ∧ s' = { s with disk := s.disk.set p .folder } :=
  Ends.of_run rfl

theorem find?_eq_none_of_not_mem_children {d : Disk} {p : List String} {n : String}
    (h : n ∉ (d.children p).map Prod.fst) : d.find? (p ++ [n]) = none := by
  by_contra hf
  have ⟨m, hm⟩ := Option.ne_none_iff_exists'.mp hf
  rw [Disk.find?, if_neg (by simp)] at hm
  obtain ⟨a, b, hnodes, _⟩ := List.lookup_eq_some_iff.mp hm
  refine h (List.mem_map.mpr ⟨(n, m), ?_, rfl⟩)
  rw [Disk.children, List.mem_mergeSort, List.mem_filterMap]
  exact ⟨(p ++ [n], m), hnodes ▸ by simp, by simp⟩

theorem target_words {branch depth timeout : Datum} {l : Location} {ws : List Datum}
    {folder : Option Location} (h : words (.text url) branch depth l = .ok ws) :
    Command.target ⟨ws, folder, timeout⟩ = .ofText l.text := by
  have ⟨_, _, h⟩ := bind_eq_ok.mp h
  rw [← pure_eq_ok.mp h]
  simp [Command.target, Datum.shown, Datum.bare]

-- Running the program that clones, which writes below its place.
theorem run_apart {temp : List String} {k : Nat} {l : List Datum} {branch depth timeout : Datum}
    {q : Except Stop Outcome} (hproper : Path.Proper temp) (hforward : ".." ∉ temp)
    (hleads : s.disk.Leads temp)
    (hbelow : ∀ o ∈ s.programs.script.head?, ∀ f ∈ o.files,
      f.1.root = none ∧ ".." ∉ Path.steps (nameOf url) ++ f.1.steps)
    (hl : words (.text url) branch depth (.absolute (placeOf temp (tempName k) url)) = .ok l)
    (h : Ends (Action.run ⟨l, none, timeout⟩) s q s') :
    Disk.Apart (temp ++ [tempName k]) s.disk s'.disk ∧
      s' = { s with disk := s'.disk, programs := s'.programs } ∧
      s'.programs.script = s.programs.script.tail := by
  have ⟨_, d, hd, _, hs⟩ := Action.run_iff.mp h
  subst hs
  refine ⟨?_, rfl, rfl⟩
  rw [target_words hl, Location.ofText_text (proper_placeOf hproper)] at hd
  refine placeFiles_apart hleads ?_ hd
  intro f hf
  rw [Programs.files_next] at hf
  cases ho : s.programs.script.head?
  case none => simp [ho] at hf
  case some o =>
    have ⟨hroot, hsteps⟩ := hbelow o ho f (by simpa [ho] using hf)
    refine ⟨hroot, ?_⟩
    rw [List.mem_append, List.mem_append, List.mem_singleton]
    rintro ((h | h) | h)
    · exact hforward h
    · exact tempName_ne (by decide) h.symm
    · exact hsteps h

theorem resolveCommit_quiet {l : Location} {q : Except Stop String}
    (hq : ∀ o ∈ s.programs.script.head?, o.files = []) (h : Ends (resolveCommit l) s q s') :
    s' = { s with programs := s'.programs } ∧
      s'.programs.script = s.programs.script.tail := by
  rcases Ends.bind_iff.mp h with ⟨o, t, hrun, h⟩ | ⟨_, _, hrun⟩
  all_goals have ⟨_, ht⟩ := Action.run_quiet hq hrun
  case inr => exact ht ▸ ⟨rfl, rfl⟩
  have hsame : s' = t := by
    split at h
    all_goals exact (Ends.pure_iff.mp h).2
  rw [hsame, ht]
  exact ⟨rfl, rfl⟩

-- What is left once a clone was made: a new folder that holds it, and that is gone again where it
-- failed. Nothing is changed outside of the folder, and the program that clones has run.
structure Made (url : String) (s : Session) (c : Clone) (s' : Session) (k : Nat) : Prop where
  new : s.disk.find? (s.temp ++ [tempName k]) = none
  apart : Disk.Apart (s.temp ++ [tempName k]) s.disk s'.disk
  cwd : s'.cwd = s.cwd
  temp : s'.temp = s.temp
  script : ∀ o ∈ s'.programs.script, o ∈ s.programs.script.tail
  failed : c.error.isSome → c.success = false ∧ s'.disk.find? (s.temp ++ [tempName k]) = none
  cloned : c.error = none → c.success ∧
    c.path = (Location.absolute (placeOf s.temp (tempName k) url)).text ∧
    s'.disk.find? (s.temp ++ [tempName k]) = some .folder
  asked : c.error = none → s'.programs.script = s.programs.script.tail.tail

-- A clone is made in a new folder, and nothing is changed outside of it.
theorem exists_made {c : Clone} {branch depth timeout : Datum} (ht : s.HasTemp) (hg : Tame url s)
    (h : Ends (make url branch depth timeout) s (.ok c) s') :
    ∃ k, s.freshTemp = tempName k ∧ Made url s c s' k := by
  have ⟨k, hk, hnew⟩ := @exists_freeName ((s.disk.children s.temp).map Prod.fst)
  refine ⟨k, hk, ?_⟩
  have hnone := find?_eq_none_of_not_mem_children hnew
  have ⟨p, _, hp, h₁⟩ := Ends.bind_ok_iff.mp h
  have ⟨hp, htemp⟩ := makeTemp_iff.mp hp
  rw [Session.freshTemp, hk] at hp htemp
  rw [Except.ok.inj hp, absolute_placeOf] at h₁
  have ⟨l, t, hread, h₂⟩ := Ends.bind_ok_iff.mp h₁
  obtain ⟨hwords, rfl⟩ := Action.ofRead_ok_iff.mp hread
  have hmade : Disk.Apart (s.temp ++ [tempName k]) s.disk t.disk :=
    htemp ▸ .of_set (List.prefix_refl _) (by simp)
  have hfolder : t.disk.find? (s.temp ++ [tempName k]) = some .folder := by
    rw [htemp, Disk.find?_set (by simp), if_pos rfl]
  have ⟨o, u, hrun, h₃⟩ := Ends.bind_ok_iff.mp h₂
  have ⟨hran, hu, hscript⟩ := run_apart ht.proper ht.forward (ht.leads.of_apart hmade)
    (by simpa [htemp] using hg.below) hwords hrun
  have hfolder : u.disk.find? (s.temp ++ [tempName k]) = some .folder :=
    Action.run_keeps_folders hrun hfolder
  have hcwd : u.cwd = s.cwd := by rw [hu, htemp]
  have htemp' : u.temp = s.temp := by rw [hu, htemp]
  have hrest : u.programs.script = s.programs.script.tail := by rw [hscript, htemp]
  have ⟨e, v, he, h₄⟩ := Ends.bind_ok_iff.mp h₃
  obtain ⟨_, rfl⟩ := Action.ofRead_ok_iff.mp he
  cases e
  case some e =>
    have ⟨_, w, hremove, h₅⟩ := Ends.bind_ok_iff.mp h₄
    have ⟨_, hw⟩ := Ends.modify_iff.mp hremove
    obtain ⟨rfl, rfl⟩ := Ends.pure_ok_iff.mp h₅
    rw [hw]
    refine ⟨hnone, (hmade.trans hran).trans (.of_remove (List.prefix_refl _)), hcwd, htemp',
      fun o ho => hrest ▸ ho, fun _ => ⟨rfl, ?_⟩, nofun, nofun⟩
    rw [Disk.find?_remove (by simp), if_pos (List.prefix_refl _)]
  case none =>
    have ⟨commit, w, hcommit, h₅⟩ := Ends.bind_ok_iff.mp h₄
    have ⟨hw, hlater⟩ := resolveCommit_quiet (by simpa [hscript, htemp] using hg.revision) hcommit
    have ⟨size, x, hsize, h₆⟩ := Ends.bind_ok_iff.mp h₅
    have hx := Looks.ask _ _ _ hsize
    obtain ⟨rfl, rfl⟩ := Ends.pure_ok_iff.mp h₆
    have hdisk := hx.disk
    rw [hw] at hdisk
    refine ⟨hnone, hdisk ▸ hmade.trans hran, hx.cwd.trans (hw ▸ hcwd), hx.temp.trans (hw ▸ htemp'),
      fun o ho => ?_, nofun, fun _ => ⟨rfl, rfl, hdisk ▸ hfolder⟩, fun _ => ?_⟩
    · rw [hx.programs, hlater, hrest] at ho
      exact List.mem_of_mem_tail ho
    · rw [hx.programs, hlater, hrest]

-- The configuration plays no part in making a clone.
theorem make_keeps_config {branch depth timeout : Datum} :
    Stays (fun s s' => s'.config = s.config) (make url branch depth timeout) := by
  have htrans {s t u : Session} (h₁ : t.config = s.config) (h₂ : u.config = t.config) :
      u.config = s.config :=
    h₂.trans h₁
  have hpure {α : Type} {x : α} :
      Stays (fun s s' : Session => s'.config = s.config) (pure x : Action α) :=
    fun _ _ _ h => congrArg Session.config (Ends.pure_iff.mp h).2
  have hread {α : Type} {x : Datum.Read α} :
      Stays (fun s s' : Session => s'.config = s.config) (Action.ofRead x) :=
    fun _ _ _ h => congrArg Session.config (Action.ofExcept_iff.mp h).2
  have hrun {c : Command} : Stays (fun s s' : Session => s'.config = s.config) (Action.run c) := by
    intro s r s' h
    obtain ⟨_, _, _, _, rfl⟩ := Action.run_iff.mp h
    rfl
  have htemp : Stays (fun s s' => s'.config = s.config) makeTemp :=
    fun _ _ _ h => (makeTemp_iff.mp h).2 ▸ rfl
  refine .bind htrans htemp fun _ => .bind htrans hread fun _ => .bind htrans hrun fun _ =>
    .bind htrans hread fun e => ?_
  cases e
  case some =>
    exact .bind htrans (fun _ _ _ h => (Ends.modify_iff.mp h).2 ▸ rfl) fun _ => hpure
  case none =>
    refine .bind htrans (.bind htrans hrun fun o => ?_) fun _ => .bind htrans ?_ fun _ => hpure
    · split
      all_goals exact hpure
    · exact fun _ _ _ h => congrArg Session.config (Action.ask_iff.mp h).2

/-! Removing a clone -/

theorem rootOf_placeOf {temp : List String} {k : Nat}
    (h : Path.steps (nameOf url) = [] → (temp.getLast?.getD "").beginsWith tempStart = false) :
    rootOf (.absolute (placeOf temp (tempName k) url)) = .absolute (temp ++ [tempName k]) := by
  rw [rootOf, placeOf]
  rcases @steps_nameOf url with hn | hn
  case inl =>
    rw [hn, List.append_nil, if_neg]
    simpa [Location.parent, Location.name, Location.absolute] using h hn
  case inr =>
    rw [hn, if_pos]
    · simp [Location.parent, Location.absolute]
    · simpa [Location.parent, Location.name, Location.absolute] using beginsWith_tempName

theorem removeFolder_apart {p : List String} {whole : Bool} {d : Disk} (hp : p ≠ []) :
    Disk.Apart p d (removeFolder p whole d) := by
  rw [removeFolder]
  split
  · exact .of_remove (List.prefix_refl _)
  · exact .trans (.of_remove (List.prefix_refl _)) (.of_set (List.prefix_refl _) hp)

theorem remove_apart {path : String} {q : Except Stop Unit}
    (hroot : (rootOf (.ofText path)).reach s.cwd ≠ []) (h : Ends (remove path) s q s') :
    Disk.Apart ((rootOf (.ofText path)).reach s.cwd) s.disk s'.disk ∧
      s' = { s with disk := s'.disk } := by
  simp only [remove] at h
  generalize rootOf (.ofText path) = l at *
  split at h
  case isTrue =>
    obtain ⟨_, rfl⟩ := Ends.pure_iff.mp h
    exact ⟨.refl _, rfl⟩
  case isFalse =>
    rcases Ends.bind_iff.mp h with ⟨b, t, hb, h₁⟩ | ⟨_, _, hb⟩
    all_goals obtain ⟨_, rfl⟩ := Action.ask_iff.mp hb
    case inr => exact ⟨.refl _, rfl⟩
    split at h₁
    case isFalse =>
      obtain ⟨_, rfl⟩ := Ends.pure_iff.mp h₁
      exact ⟨.refl _, rfl⟩
    case isTrue =>
      rcases Ends.bind_iff.mp h₁ with ⟨p, u, hp, h₂⟩ | ⟨_, _, hp⟩
      all_goals obtain ⟨hplace, rfl⟩ := Action.ask_iff.mp hp
      case inr => exact ⟨.refl _, rfl⟩
      have ⟨_, hs⟩ := Ends.modify_iff.mp h₂
      have hplace := Disk.place_eq_ok hplace.symm
      rw [hs, ← hplace]
      exact ⟨removeFolder_apart (hplace ▸ hroot), rfl⟩

end Clone

end Refit
