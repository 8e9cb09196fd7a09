import Mathlib.Data.List.Induction
import Refit.Proofs.Config.Paths
import Refit.Proofs.Project.Reordered
import Refit.Proofs.Source.Grouping

/-!
The theme of a project, told at once from all its sources: the entry point's, then those of the
theme files by their paths.

A merge of one file after the other comes to the same: of a colour or a font the last source that
gives one decides, a named colour is what the last source that names it says, and theme files alone
make a theme custom.
-/

namespace Refit

/-! Bindings -/

namespace Dict

variable {bs : List (String × String)} {ns : List String} {k n v : String} {f : String → Datum}
  {d : Datum}

theorem get?_map :
    get? (ns.map fun n => (.text n, f n)) k = if k ∈ ns then some (f k) else none := by
  induction ns
  case nil => simp [Dict.get?]
  case cons n ns ih =>
    rw [List.map_cons, get?_cons, ih]
    by_cases hk : k = n
    case pos => simp [hk]
    case neg => simp [hk]

-- What is set at one of several names stands in its place, and at any other name at the end.
theorem set_map (hn : ns.Nodup) : set (ns.map fun n => (.text n, f n)) k d =
    (if k ∈ ns then ns else ns ++ [k]).map fun n => (.text n, if n = k then d else f n) := by
  rw [set]
  induction ns
  case nil => simp [put]
  case cons n ns ih =>
    obtain ⟨hfirst, hn⟩ := List.nodup_cons.mp hn
    rw [List.map_cons, put, Datum.same_text]
    by_cases hk : n = k
    case pos =>
      subst hk
      have hrest : ns.map (fun m => (Datum.text m, if m = n then d else f m)) =
          ns.map fun m => (Datum.text m, f m) :=
        List.map_congr_left fun m hm => by rw [if_neg (ne_of_mem_of_not_mem hm hfirst)]
      rw [if_pos (beq_self_eq_true n), if_pos (List.mem_cons_self ..), List.map_cons, hrest,
        if_pos rfl]
    case neg =>
      have hmem : k ∈ n :: ns ↔ k ∈ ns := by simp [Ne.symm hk]
      rw [if_neg (by simpa using hk), ih hn]
      simp only [hmem]
      split <;> simp [hk]

-- Names in the order in which they come first, each with what it is bound to last.
def lastBindings (bs : List (String × String)) : Dict :=
  (bs.map Prod.fst).eraseDups.map fun n => (.text n, .ofOption .text (bs.reverse.lookup n))

theorem get?_lastBindings : get? (lastBindings bs) n = (bs.reverse.lookup n).map .text := by
  have hmem : n ∈ (bs.map Prod.fst).eraseDups ↔ (bs.reverse.lookup n).isSome := by
    simp [List.lookup_isSome_iff]
  rw [lastBindings, get?_map]
  simp only [hmem]
  cases bs.reverse.lookup n <;> rfl

theorem lastBindings_append :
    lastBindings (bs ++ [(k, v)]) = set (lastBindings bs) k (.text v) := by
  have hnames : ((bs ++ [(k, v)]).map Prod.fst).eraseDups =
      if k ∈ (bs.map Prod.fst).eraseDups then (bs.map Prod.fst).eraseDups
      else (bs.map Prod.fst).eraseDups ++ [k] := by
    rw [List.map_append, List.eraseDups_append]
    simp only [List.mem_eraseDups]
    by_cases hk : k ∈ bs.map Prod.fst
    case pos => simp [List.removeAll, hk]
    case neg => simp [List.removeAll, hk, List.eraseDups_cons]
  have hvalues (n : String) : Datum.ofOption .text ((bs ++ [(k, v)]).reverse.lookup n) =
      if n = k then .text v else .ofOption .text (bs.reverse.lookup n) := by
    rw [List.reverse_append, List.reverse_singleton, List.singleton_append, lookup_cons_ite]
    split <;> rfl
  rw [lastBindings, lastBindings, set_map (nodup_eraseDups _), hnames]
  simp only [hvalues]

theorem foldl_set (bs : List (String × String)) :
    bs.foldl (fun (es : Dict) b => es.set b.1 (.text b.2)) [] = lastBindings bs := by
  induction bs using List.reverseRecOn
  case nil => rfl
  case append_singleton bs b ih =>
    rw [List.foldl_append, ih, lastBindings_append]
    rfl

end Dict

/-! Sequences of sources -/

theorem Datum.ofOption_eq {α : Type} {f : α → Datum} {a : Option α} :
    ofOption f a = (a.map f).getD .null := by
  cases a <;> rfl

namespace Theme

variable {t : Theme} {source : String} {sources : List String} {f : SourceFile}
  {fs gs files : List SourceFile} {entry : Option SourceFile} {fact : String → Option String}

-- The last fact of a kind that a sequence of sources gives.
def lastOf (fact : String → Option String) (sources : List String) : Option String :=
  (sources.filterMap fact).getLast?

theorem lastOf_cons :
    lastOf fact (source :: sources) = (lastOf fact sources).or (fact source) := by
  rw [lastOf, lastOf, List.filterMap_cons]
  cases fact source
  case none => rw [Option.or_none]
  case some =>
    rw [List.getLast?_cons]
    cases (sources.filterMap fact).getLast? <;> rfl

theorem getD_or {α β : Type} {f : α → β} {a b : Option α} {d : β} :
    (a.map f).getD ((b.map f).getD d) = ((a.or b).map f).getD d := by
  cases a <;> rfl

-- A theme to which the facts of a sequence of sources are added.
def after (t : Theme) (sources : List String) : Theme :=
  { t with
    usesMaterial := t.usesMaterial ||
      sources.any fun s => s.holds "MaterialApp" || s.holds "ThemeData"
    usesCupertino := t.usesCupertino ||
      sources.any fun s => s.holds "CupertinoApp" || s.holds "CupertinoThemeData"
    primary := ((lastOf primaryOf sources).map .text).getD t.primary
    font := ((lastOf fontOf sources).map .text).getD t.font
    colors := (sources.flatMap colorsOf).foldl (fun cs c => cs.set c.1 (.text c.2)) t.colors }

theorem foldl_merge : sources.foldl merge t = t.after sources := by
  induction sources generalizing t
  case nil => simp [after, lastOf]
  case cons source sources ih =>
    rw [List.foldl_cons, ih]
    simp [after, merge, lastOf_cons, Bool.or_assoc, getD_or]

-- What the theme files add, beside the facts of their sources.
theorem foldl_mergeFile : files.foldl mergeFile t =
    { t.after (files.map (·.content)) with
      isCustom := t.isCustom || !files.isEmpty
      file := (files.getLast?.map (.text ·.path)).getD t.file } := by
  induction files generalizing t
  case nil => simp [after, lastOf]
  case cons f files ih =>
    have hafter : t.after (f.content :: files.map (·.content)) =
        (t.merge f.content).after (files.map (·.content)) := by
      rw [← foldl_merge, List.foldl_cons, foldl_merge]
    rw [List.foldl_cons, ih, List.map_cons, hafter, List.getLast?_cons]
    cases files.getLast? <;> simp [after, mergeFile]

-- The theme that an entry point and theme files give, told from the sequence of their sources.
def told (entry : Option SourceFile) (files : List SourceFile) : Theme :=
  let sources := (entry.toList ++ files).map (·.content)
  { usesMaterial := sources.any fun s => s.holds "MaterialApp" || s.holds "ThemeData"
    usesCupertino := sources.any fun s => s.holds "CupertinoApp" || s.holds "CupertinoThemeData"
    primary := .ofOption .text (lastOf primaryOf sources)
    font := .ofOption .text (lastOf fontOf sources)
    colors := Dict.lastBindings (sources.flatMap colorsOf)
    isCustom := !files.isEmpty
    file := .ofOption .text (files.getLast?.map (·.path)) }

theorem gather_eq : gather entry files = told entry files := by
  have hstart : (entry.map fun f => merge {} f.content).getD {} =
      after {} (entry.toList.map (·.content)) := by
    rw [← foldl_merge]
    cases entry <;> rfl
  have hafter : (after {} (entry.toList.map (·.content))).after (files.map (·.content)) =
      after {} ((entry.toList ++ files).map (·.content)) := by
    rw [← foldl_merge, ← foldl_merge, List.map_append, ← List.foldl_append, foldl_merge]
  rw [gather, hstart, foldl_mergeFile, hafter]
  simp only [after, told, Dict.foldl_set, Datum.ofOption_eq, Option.map_map, Bool.false_or]
  rfl

/-! The files of a project -/

-- A selection has one file at a path.
theorem ascending_filesOf : (filesOf fs).Pairwise fun f g => f.path < g.path := by
  have hselected : ((selector.select fs).map (·.path)).Nodup := by
    rw [Selector.select_eq]
    exact (List.filter_sublist.map _).nodup SourceFile.nodup_path_firsts
  have hdistinct : ((filesOf fs).map (·.path)).Nodup :=
    (filesOf_perm_select.map _).nodup_iff.mpr ((List.filter_sublist.map _).nodup hselected)
  refine ((pairwise_filesOf fs).and (List.pairwise_map.mp hdistinct)).imp ?_
  intro f g ⟨hle, hne⟩
  exact String.not_le.mp fun hge => hne (String.le_antisymm hle hge)

-- A merge of one file after the other gives what all sources together tell, and a project hands it
-- its theme files in the order of their paths, in whatever order they are listed.
theorem gather_told (entry : Option SourceFile) (files : List SourceFile) :
    gather entry files = told entry files ∧
    (∀ name, (gather entry files).colors.get? name =
      (((entry.toList ++ files).flatMap (colorsOf ·.content)).reverse.lookup name).map .text) ∧
    (∀ fs : List SourceFile, ∃ themes : List SourceFile,
      themes.Perm ((selector.select fs).filter (! isEntryPoint ·.path)) ∧
      (themes.Pairwise fun f g => f.path < g.path) ∧
      ofFiles fs = told (fs.find? (isEntryPoint ·.path)) themes) ∧
    ∀ fs gs : List SourceFile, fs.Perm gs → (fs.map (·.path)).Nodup →
      AtMostOne (isEntryPoint ·.path) fs → ofFiles fs = ofFiles gs := by
  refine ⟨gather_eq, fun name => ?_, fun fs => ?_, fun fs gs h hn he => ofFiles_perm h hn he⟩
  case refine_1 =>
    rw [gather_eq, told, Dict.get?_lastBindings, List.flatMap_map]
  case refine_2 =>
    exact ⟨filesOf fs, filesOf_perm_select, ascending_filesOf, gather_eq⟩

theorem gather_told_stock :
    (Analysis.stockFiles.map (·.path)).Nodup ∧
    AtMostOne (isEntryPoint ·.path) Analysis.stockFiles ∧
    ofFiles Analysis.stockFiles = ofFiles Analysis.stockFiles.reverse :=
  have hn : (Analysis.stockFiles.map (·.path)).Nodup := by decide
  have he : AtMostOne (isEntryPoint ·.path) Analysis.stockFiles := by decide +kernel
  ⟨hn, he, (gather_told none []).2.2.2 _ _ (List.reverse_perm _).symm hn he⟩

end Theme

end Refit
