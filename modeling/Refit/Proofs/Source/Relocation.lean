import Refit.Proofs.Source.Grouping
import Refit.Proofs.Source.Path

/-!
Where a kept file goes, told by the segments of its path, and that it stays there.

A place is found by looking for the name of a category between two slashes in the text of a path,
while categories are found by folders. The two agree because a name stands between two slashes
exactly if a folder has that name.
-/

namespace Refit

namespace Text

variable {needle s t a w v : List Char} {c x : Char} {ws : List (List Char)}

/-! The last occurrence of a sequence -/

theorem afterLast?_eq_none_iff : afterLast? needle s = none ↔ ¬needle <:+: s := by
  induction s
  case nil => simp [afterLast?]
  case cons y ys ih =>
    rw [afterLast?, List.infix_cons_iff]
    split <;> simp_all

theorem afterLast?_append (h : ¬(x :: needle) <:+: needle ++ t) :
    afterLast? (x :: needle) (a ++ (x :: needle) ++ t) = some t := by
  induction a
  case nil =>
    have hnone : afterLast? (x :: needle) (needle ++ t) = none := afterLast?_eq_none_iff.mpr h
    simp [afterLast?, hnone]
  case cons y ys ih =>
    rw [List.cons_append, List.cons_append, afterLast?, ih]

/-! Texts that are put together from parts -/

theorem join_split : join [c] (split c s) = s := by
  induction s
  case nil => rfl
  case cons y ys ih =>
    rw [split_cons]
    split
    case isTrue hy => rw [join_cons_of_ne_nil split_ne_nil, ih, beq_iff_eq.mp hy]; rfl
    case isFalse => rw [join_consHead split_ne_nil, ih]

theorem split_join (hne : ws ≠ []) (h : ∀ w ∈ ws, c ∉ w) : split c (join [c] ws) = ws := by
  induction ws
  case nil => contradiction
  case cons w ws ih =>
    have ⟨hw, hws⟩ := List.forall_mem_cons.mp h
    cases ws
    case nil => exact split_eq_singleton hw
    case cons v vs =>
      rw [join_cons_of_ne_nil (List.cons_ne_nil v vs), List.append_assoc, List.singleton_append,
        split_append hw, ih (List.cons_ne_nil v vs) hws]

-- A part that begins a text and ends before a character is the first part of the text.
theorem concat_prefix_iff (hw : c ∉ w) (hv : c ∉ v) : w ++ [c] <+: v ++ c :: s ↔ w = v := by
  induction w generalizing v
  case nil =>
    cases v
    case nil => simp
    case cons y ys => simpa using (List.ne_and_not_mem_of_not_mem_cons hv).1
  case cons x xs ih =>
    have ⟨hx, hxs⟩ := List.ne_and_not_mem_of_not_mem_cons hw
    cases v
    case nil => simp [Ne.symm hx]
    case cons y ys =>
      simp [List.cons_prefix_cons, ih hxs (List.ne_and_not_mem_of_not_mem_cons hv).2]

theorem suffix_append_cons_iff (hc : c ∉ w) : w <:+ a ++ c :: s ↔ w <:+ s := by
  rw [← List.reverse_prefix, ← List.reverse_prefix, List.reverse_append, List.reverse_cons,
    List.append_assoc, List.singleton_append, prefix_append_cons_iff (by simpa using hc)]

-- Between two separators there are the parts of a text but for the last one.
theorem between_infix_iff (hw : c ∉ w) (h : ∀ v ∈ ws, c ∉ v) :
    c :: (w ++ [c]) <:+: ws.flatMap (c :: ·) ↔ w ∈ ws.dropLast := by
  induction ws
  case nil => simp
  case cons v vs ih =>
    have ⟨hv, hvs⟩ := List.forall_mem_cons.mp h
    have hrest : c :: (w ++ [c]) <:+: v ++ vs.flatMap (c :: ·) ↔
        c :: (w ++ [c]) <:+: vs.flatMap (c :: ·) :=
      ⟨fun hi => by_contra fun hn => not_infix_append_left _ hv hn hi,
        fun hi => hi.trans (List.suffix_append v _).isInfix⟩
    rw [List.flatMap_cons, List.cons_append, List.infix_cons_iff, List.prefix_cons_inj, hrest,
      ih hvs]
    cases vs
    case nil =>
      have hnot : ¬w ++ [c] <+: v := fun hp => hv (hp.subset (List.mem_concat_self))
      simpa using hnot
    case cons u us =>
      rw [List.flatMap_cons, List.cons_append, concat_prefix_iff hw hv,
        List.dropLast_cons_of_ne_nil (List.cons_ne_nil u us), List.mem_cons]

end Text

namespace Path

variable {path w e : String} {ws b : List String}

-- The segments of a path that a text writes, empty ones and single dots too.
theorem not_mem_of_mem_splitAt (h : w ∈ path.splitAt '/') : '/' ∉ w.toList := by
  have ⟨cs, hcs, hw⟩ := List.mem_map.mp h
  rw [← hw, String.toList_ofList]
  exact Text.not_mem_of_mem_split hcs

theorem joining_splitAt : "/".joining (path.splitAt '/') = path := by
  have hlists : (path.splitAt '/').map String.toList = Text.split '/' path.toList := by
    simp [String.splitAt, Function.comp_def]
  have hsep : "/".toList = ['/'] := rfl
  rw [String.joining, hlists, hsep, Text.join_split, String.ofList_toList]

theorem splitAt_joining (hne : ws ≠ []) (h : ∀ w ∈ ws, '/' ∉ w.toList) :
    ("/".joining ws).splitAt '/' = ws := by
  have hsep : "/".toList = ['/'] := rfl
  have hsplit : Text.split '/' (Text.join ['/'] (ws.map String.toList)) = ws.map String.toList :=
    Text.split_join (by simpa using hne) (List.forall_mem_map.mpr h)
  simp [String.splitAt, String.joining, hsep, hsplit, Function.comp_def]

theorem cons_toList_joining (hne : ws ≠ []) :
    '/' :: ("/".joining ws).toList = (ws.map String.toList).flatMap ('/' :: ·) := by
  obtain ⟨w, ws, rfl⟩ := List.exists_cons_of_ne_nil hne
  simp [String.joining, Text.join_cons_eq_flatMap]

theorem cons_toList (h : path.splitAt '/' = ws) (hne : ws ≠ []) :
    '/' :: path.toList = (ws.map String.toList).flatMap ('/' :: ·) := by
  rw [← cons_toList_joining hne, ← h, joining_splitAt]

-- How a path ends is seen at its last segment.
theorem finishesWith_eq (h : path.splitAt '/' = ws ++ [w]) (he : '/' ∉ e.toList) :
    path.finishesWith e = w.finishesWith e := by
  have hpath : '/' :: path.toList =
      (ws.map String.toList).flatMap ('/' :: ·) ++ '/' :: w.toList := by
    rw [cons_toList h (by simp)]
    simp
  have hiff : e.toList <:+ path.toList ↔ e.toList <:+ w.toList := by
    have hwhole : e.toList <:+ '/' :: path.toList ↔ e.toList <:+ path.toList :=
      Text.suffix_append_cons_iff (a := []) he
    rw [← hwhole, hpath, Text.suffix_append_cons_iff he]
  rw [Bool.eq_iff_iff, String.finishesWith, String.finishesWith, List.isSuffixOf_iff_suffix,
    List.isSuffixOf_iff_suffix, hiff]

-- A path by its folders and the name of its file, as a text writes them.
structure Written (path : String) (ws : List String) (w : String) : Prop where
  splitAt : path.splitAt '/' = ws ++ [w]
  counts : counts w

namespace Written

variable (h : Written path ws w)
include h

theorem eq_joining : path = "/".joining (ws ++ [w]) := by
  rw [← h.splitAt, joining_splitAt]

theorem steps_eq : steps path = ws.filter Path.counts ++ [w] := by
  have hsplit : steps path = (path.splitAt '/').filter Path.counts := rfl
  rw [hsplit, h.splitAt, List.filter_append, List.filter_cons_of_pos h.counts, List.filter_nil]

theorem name_eq : name path = w := by
  rw [name, h.steps_eq, List.getLast?_concat, Option.getD_some]

theorem parts_eq : parts path = folders path ++ [w] := by
  rw [folders, parts, h.steps_eq, ← List.append_assoc, List.dropLast_concat]

theorem folders_eq : folders path = (root? path.toList).toList ++ ws.filter Path.counts := by
  rw [folders, parts, h.steps_eq, ← List.append_assoc, List.dropLast_concat]

theorem stem_eq : Selector.stem path = w.skipLastChars ".dart".length := by
  rw [Selector.stem, h.parts_eq, List.getLast?_concat, Option.getD_some]

end Written

theorem splitAt_ne_nil : path.splitAt '/' ≠ [] := by
  simpa [String.splitAt] using Text.split_ne_nil

theorem exists_written (h : isDart path) : ∃ ws w, Written path ws w := by
  have ⟨ws, w, hsplit⟩ := (List.eq_nil_or_concat' (path.splitAt '/')).resolve_left splitAt_ne_nil
  refine ⟨ws, w, hsplit, ?_⟩
  rw [isDart, finishesWith_eq hsplit (by decide)] at h
  rw [Path.counts, Bool.and_eq_true, bne_iff_ne, bne_iff_ne]
  constructor
  all_goals
    rintro rfl
    revert h
    decide

end Path

namespace Category

variable {category path w : String} {ws a b : List String} {c d : Category}

theorem exists_last (h : category ∈ b) : ∃ a b', b = a ++ category :: b' ∧ category ∉ b' := by
  have ⟨as, bs, hb, hn⟩ := List.eq_append_cons_of_mem (List.mem_reverse.mpr h)
  refine ⟨bs.reverse, as.reverse, ?_, by simpa using hn⟩
  simpa using congrArg List.reverse hb

theorem mem_map_toList_iff : category.toList ∈ b.map String.toList ↔ category ∈ b :=
  List.mem_map_of_injective fun _ _ => String.toList_injective

theorem joining_below (hb : b ≠ []) :
    "/".joining ("lib" :: category :: b) = "lib/" ++ category ++ "/" ++ "/".joining b := by
  obtain ⟨w, ws, rfl⟩ := List.exists_cons_of_ne_nil hb
  have hlib : "lib" ++ "/" = "lib/" := rfl
  rw [Path.joining_cons, Path.joining_cons, hlib, String.append_assoc, String.append_assoc,
    String.append_assoc]

theorem target_eq_of_last_folder (h : path.splitAt '/' = a ++ category :: b) (hb : b ≠ [])
    (hlast : category ∉ b.dropLast) :
    target category path = "/".joining ("lib" :: category :: b) := by
  have hs {w : String} (hw : w ∈ a ++ category :: b) : '/' ∉ w.toList :=
    Path.not_mem_of_mem_splitAt (h ▸ hw)
  have hc : '/' ∉ category.toList := hs (by simp)
  have hpath : '/' :: path.toList = (a.map String.toList).flatMap ('/' :: ·) ++
      ('/' :: (category.toList ++ ['/'])) ++ ("/".joining b).toList := by
    rw [Path.cons_toList h (by simp)]
    simp [← Path.cons_toList_joining hb]
  have hbehind : ¬ '/' :: (category.toList ++ ['/']) <:+:
      category.toList ++ ['/'] ++ ("/".joining b).toList := by
    rw [List.append_assoc, List.singleton_append, Path.cons_toList_joining hb]
    refine Text.not_infix_append_left _ hc ?_
    rw [Text.between_infix_iff hc (List.forall_mem_map.mpr fun w hw => hs (by simp [hw])),
      ← List.map_dropLast, mem_map_toList_iff]
    exact hlast
  have hafter : Text.afterLast? ('/' :: category.toList ++ ['/']) ('/' :: path.toList) =
      some ("/".joining b).toList :=
    hpath ▸ Text.afterLast?_append hbehind
  simp only [target, hafter, String.ofList_toList]
  rw [joining_below hb]

theorem target_eq_of_no_folder (hc : '/' ∉ category.toList)
    (h : category ∉ (path.splitAt '/').dropLast) :
    target category path = "/".joining ["lib", category, Path.name path] := by
  have hnone : Text.afterLast? ('/' :: category.toList ++ ['/']) ('/' :: path.toList) = none := by
    have hslashed : '/' :: (category.toList ++ ['/']) <:+:
          ((path.splitAt '/').map String.toList).flatMap ('/' :: ·) ↔
        category ∈ (path.splitAt '/').dropLast := by
      rw [Text.between_infix_iff hc
        (List.forall_mem_map.mpr fun w hw => Path.not_mem_of_mem_splitAt hw),
        ← List.map_dropLast, mem_map_toList_iff]
    have hpath : '/' :: path.toList = _ := Path.cons_toList rfl Path.splitAt_ne_nil
    rw [Text.afterLast?_eq_none_iff, hpath]
    exact hslashed.not.mpr h
  simp only [target, hnone]
  rw [joining_below (List.cons_ne_nil _ _), Path.joining_singleton]

-- A kept file keeps its name, and of its folders those behind the last one of the category.
theorem exists_written_target (h : Path.Written path ws w) (hc : '/' ∉ category.toList) :
    ∃ b, Path.Written (target category path) ("lib" :: category :: b) w ∧
      b ⊆ ws ∧ category ∉ b := by
  have hs {v : String} (hv : v ∈ ws ++ [w]) : '/' ∉ v.toList :=
    Path.not_mem_of_mem_splitAt (h.splitAt ▸ hv)
  have hwritten {b : List String} (hb : b ⊆ ws) :
      Path.Written ("/".joining ("lib" :: category :: (b ++ [w]))) ("lib" :: category :: b) w := by
    refine ⟨Path.splitAt_joining (List.cons_ne_nil _ _) ?_, h.counts⟩
    simp only [List.forall_mem_cons]
    refine ⟨by decide, hc, fun v hv => hs ?_⟩
    exact (List.mem_append.mp hv).elim (fun hv => by simp [hb hv]) fun hv => by simp [hv]
  by_cases hmem : category ∈ ws
  case pos =>
    obtain ⟨a, b, rfl, hb⟩ := exists_last hmem
    have hsplit : path.splitAt '/' = a ++ category :: (b ++ [w]) := by simp [h.splitAt]
    have htarget : target category path = "/".joining ("lib" :: category :: (b ++ [w])) :=
      target_eq_of_last_folder hsplit (by simp) (by simpa using hb)
    have hsub : b ⊆ a ++ category :: b := fun v hv => by simp [hv]
    exact ⟨b, htarget ▸ hwritten hsub, hsub, hb⟩
  case neg =>
    have htarget : target category path = "/".joining ("lib" :: category :: ([] ++ [w])) := by
      rw [target_eq_of_no_folder hc (by simpa [h.splitAt] using hmem), h.name_eq, List.nil_append]
    exact ⟨[], htarget ▸ hwritten (List.nil_subset ws), List.nil_subset ws, List.not_mem_nil⟩

theorem target_target (h : Path.Written path ws w) (hc : '/' ∉ category.toList) :
    target category (target category path) = target category path := by
  have ⟨b, hb, _, hlast⟩ := exists_written_target h hc
  have hsplit : (target category path).splitAt '/' = ["lib"] ++ category :: (b ++ [w]) := hb.splitAt
  rw [target_eq_of_last_folder hsplit (by simp) (by simpa using hlast)]
  exact hb.eq_joining.symm

theorem slash_not_mem_name (c : Category) : '/' ∉ c.name.toList := by
  cases c <;> decide

theorem counts_name (c : Category) : Path.counts c.name := by
  cases c <;> decide

-- Of the folders that a kept file comes to stand in, two may be new.
theorem folders_target (h : Path.Written path ws w) : ∃ rest ⊆ Path.folders path,
    Path.folders (target c.name path) = ["lib", c.name] ++ rest := by
  have ⟨b, hb, hsub, _⟩ := exists_written_target h (slash_not_mem_name c)
  have hkept : ("lib" :: c.name :: b).filter Path.counts =
      "lib" :: c.name :: b.filter Path.counts := by
    rw [List.filter_cons_of_pos (by decide), List.filter_cons_of_pos (counts_name c)]
  refine ⟨b.filter Path.counts, ?_, ?_⟩
  · rw [h.folders_eq]
    exact List.Subset.trans (List.filter_subset _ hsub) (List.subset_append_right _ _)
  · rw [hb.folders_eq, root?_target, hkept]
    rfl

theorem isExcluded_of_target (h : Path.Written path ws w)
    (hx : SourceFile.isExcluded (target c.name path)) : SourceFile.isExcluded path := by
  have ⟨b, hb, _⟩ := exists_written_target h (slash_not_mem_name c)
  have ⟨rest, hsub, hfolders⟩ := folders_target h (c := c)
  have hnew : ∀ v ∈ ["lib", c.name], v.beginsWith "." = false ∧
      SourceFile.skippedFolders.contains v = false := by
    cases c <;> decide
  have hslash : ∀ e ∈ SourceFile.generatedEndings, '/' ∉ e.toList := by
    decide
  simp only [SourceFile.isExcluded, Bool.or_eq_true, List.any_eq_true, or_assoc] at hx ⊢
  rcases hx with ⟨e, he, hx⟩ | ⟨v, hv, hx⟩ | ⟨v, hv, hx⟩
  case inl =>
    refine .inl ⟨e, he, ?_⟩
    rw [Path.finishesWith_eq h.splitAt (hslash e he)]
    rwa [Path.finishesWith_eq hb.splitAt (hslash e he)] at hx
  case inr.inl =>
    refine .inr (.inl ⟨v, ?_, hx⟩)
    rw [h.parts_eq]
    rw [hb.parts_eq, hfolders, List.append_assoc, List.mem_append] at hv
    rcases hv with hv | hv
    · cases (hnew v hv).1.symm.trans hx
    · exact List.mem_append.mpr ((List.mem_append.mp hv).imp_left fun hv => hsub hv)
  case inr.inr =>
    refine .inr (.inr ⟨v, ?_, hx⟩)
    rw [hfolders, List.mem_append] at hv
    rcases hv with hv | hv
    · cases (hnew v hv).2.symm.trans hx
    · exact hsub hv

theorem mem_selector_folders_iff : c.name ∈ d.selector.folders ↔ d = c := by
  cases c <;> cases d <;> decide

theorem lib_not_mem_selector_folders (d : Category) : "lib" ∉ d.selector.folders := by
  cases d <;> decide

theorem isDart_target (h : Path.Written path ws w) :
    Path.isDart (target c.name path) = Path.isDart path := by
  have ⟨b, hb, _⟩ := exists_written_target h (slash_not_mem_name c)
  rw [Path.isDart, Path.isDart, Path.finishesWith_eq hb.splitAt (by decide),
    Path.finishesWith_eq h.splitAt (by decide)]

theorem admits_target (h : Path.Written path ws w) (hd : Path.isDart path) :
    c.selector.admits (target c.name path) := by
  have ⟨rest, _, hfolders⟩ := folders_target h (c := c)
  rw [Selector.admits, isDart_target h, hd, Bool.true_and, Bool.or_eq_true, List.any_eq_true]
  refine .inl ⟨c.name, by simp [hfolders], ?_⟩
  exact List.contains_iff_mem.mpr (mem_selector_folders_iff.mpr rfl)

-- Of the other categories none admits a kept file that it did not admit before.
theorem admits_of_target (h : Path.Written path ws w)
    (ha : d.selector.admits (target c.name path)) : d = c ∨ d.selector.admits path := by
  have ⟨b, hb, _⟩ := exists_written_target h (slash_not_mem_name c)
  have ⟨rest, hsub, hfolders⟩ := folders_target h (c := c)
  rw [Selector.admits, isDart_target h, hb.stem_eq, ← h.stem_eq, Bool.and_eq_true,
    Bool.or_eq_true, List.any_eq_true] at ha
  rw [Selector.admits, Bool.and_eq_true, Bool.or_eq_true, List.any_eq_true]
  obtain ⟨hd, ⟨v, hv, hvd⟩ | he⟩ := ha
  case inr => exact .inr ⟨hd, .inr he⟩
  case inl =>
    rw [hfolders, List.mem_append, List.mem_pair] at hv
    rcases hv with (rfl | rfl) | hv
    · exact absurd (List.contains_iff_mem.mp hvd) (lib_not_mem_selector_folders d)
    · exact .inl (mem_selector_folders_iff.mp (List.contains_iff_mem.mp hvd))
    · exact .inr ⟨hd, .inl ⟨v, hsub hv, hvd⟩⟩

theorem of?_target (h : of? path = some c) : of? (target c.name path) = some c := by
  obtain ⟨hd, hx, hfirst⟩ := of?_eq_some_iff.mp h
  obtain ⟨ws, w, hw⟩ := Path.exists_written hd
  obtain ⟨_, before, after, hall, hbefore⟩ := List.find?_eq_some_iff_append.mp hfirst
  have hlater : c ∉ before := fun hmem =>
    (List.nodup_cons.mp (List.nodup_middle.mp (hall ▸ nodup_all))).1 (List.mem_append_left _ hmem)
  have hnone : ∀ d ∈ before, !d.selector.admits (target c.name path) := by
    intro d hmem
    rw [Bool.not_eq_true', ← Bool.not_eq_true]
    intro ha
    rcases admits_of_target hw ha with rfl | ha
    · exact hlater hmem
    · simpa [ha] using hbefore d hmem
  refine of?_eq_some_iff.mpr ⟨isDart_target hw ▸ hd, fun ht => hx (isExcluded_of_target hw ht), ?_⟩
  exact List.find?_eq_some_iff_append.mpr ⟨admits_target hw hd, before, after, hall, hnone⟩

-- Segments are those that a text writes, so the place is told by them even if some are empty.
theorem target_stable (h : of? path = some c) :
    ¬SourceFile.isExcluded (target c.name path) ∧ of? (target c.name path) = some c ∧
      target c.name (target c.name path) = target c.name path ∧
      (∀ (fs : List SourceFile) (f : SourceFile) (name : String), f.FirstIn fs →
        f.path = target c.name path → ((Groups.ofFiles fs).Holds name f ↔ name = c.name)) ∧
      (∀ a b, path.splitAt '/' = a ++ c.name :: b → b ≠ [] → c.name ∉ b.dropLast →
        target c.name path = "/".joining ("lib" :: c.name :: b)) ∧
      (c.name ∉ (path.splitAt '/').dropLast →
        target c.name path = "/".joining ["lib", c.name, Path.name path]) := by
  have hkept : of? (target c.name path) = some c := of?_target h
  have ⟨ws, w, hw⟩ := Path.exists_written (of?_eq_some_iff.mp h).1
  have hagain (fs : List SourceFile) (f : SourceFile) (name : String) (hf : f.FirstIn fs)
      (hp : f.path = target c.name path) : (Groups.ofFiles fs).Holds name f ↔ name = c.name := by
    rw [Groups.holds_ofFiles, hp, hkept]
    simp [hf, eq_comm]
  exact ⟨(of?_eq_some_iff.mp hkept).2.1, hkept, target_target hw (slash_not_mem_name c), hagain,
    fun _ _ => target_eq_of_last_folder, target_eq_of_no_folder (slash_not_mem_name c)⟩

-- A model below two folders of its category, one in the other, and below those of two other ones.
def nestedModel : String :=
  "/theme/models/views/models/models/user.dart"

theorem target_stable_nestedModel :
    of? nestedModel = some models ∧ target "models" nestedModel = "lib/models/user.dart" ∧
      of? "lib/models/user.dart" = some models ∧
      target "models" "lib/models/user.dart" = "lib/models/user.dart" := by
  have h : of? nestedModel = some models := by decide +kernel
  have ⟨_, hkept, hagain, _, hfolder, _⟩ := target_stable h
  have hplace : target "models" nestedModel = "lib/models/user.dart" :=
    hfolder ["", "theme", "models", "views", "models"] ["user.dart"] (by decide +kernel) (by decide)
      (by decide)
  have hname : models.name = "models" := rfl
  rw [hname, hplace] at hkept hagain
  exact ⟨h, hplace, hkept, hagain⟩

end Category

end Refit
