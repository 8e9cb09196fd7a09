import Refit.Proofs.Plan.Typed

/-!
The classes of a snapshot in its plan: each of them once, in the order in which they come first.

A class is told by the text of its file and that of its name, which may be any texts.
-/

namespace Refit

/-! Classes by their texts -/

def Datum.word? : Datum → Option String
  | text s => some s
  | _ => none

-- A class by the text of its file and that of its name.
def classBy? (file name : Datum) : Option (String × String) := do
  return (← file.word?, ← name.word?)

def Model.class? (m : Model) : Option (String × String) :=
  classBy? m.file m.name

def Screen.class? (c : Screen) : Option (String × String) :=
  classBy? c.file c.name

def Widget.class? (w : Widget) : Option (String × String) :=
  classBy? w.file w.name

-- The class that an entry of a plan is about.
def Datum.class? (d : Datum) : Option (String × String) := do
  let es ← d.entries?
  classBy? (← es.get? "source") (← es.get? "name")

structure Screen.Spelled (c : Screen) : Prop where
  name : c.name.IsText
  file : c.file.IsText

structure Widget.Spelled (w : Widget) : Prop where
  name : w.name.IsText
  file : w.file.IsText

-- A snapshot with texts for names, as far as a plan is made of them.
structure Snapshot.Spelled (s : Snapshot) : Prop where
  name : s.name.IsText
  -- A low confidence is told in per cent, so it has to be finite.
  confidence : s.architecture.confidence < 0.7 →
    ¬(s.architecture.confidence * 100).isNaN ∧ ¬(s.architecture.confidence * 100).isInf
  state : s.dependencies.state.IsText
  models : ∀ m ∈ s.models, m.Spelled
  screens : ∀ c ∈ s.screens, c.Spelled
  widgets : ∀ w ∈ s.widgets, w.Spelled
  theme : ∀ t ∈ s.theme, t.primary.IsTextOrNull

-- Modules that are asked for, and modules that are not wanted.
structure Options.Lists (o : Options) (extra excluded : List String) : Prop where
  extraModules : o.extraModules = .list (extra.map .text)
  excludedModules : o.excludedModules = .list (excluded.map .text)

-- Those of a list that are the first with their class.
def firstBy {α : Type} (class? : α → Option (String × String)) (xs : List α) : List α :=
  xs.eraseDupsBy fun a b => class? a == class? b

theorem firstBy_cons {α : Type} {class? : α → Option (String × String)} {x : α} {xs : List α} :
    firstBy class? (x :: xs) =
      x :: firstBy class? (xs.filter fun y => !class? y == class? x) := by
  rw [firstBy, List.eraseDupsBy_cons]
  simp only [firstBy, Bool.decide_eq_false]

theorem map_firstBy {α : Type} {class? : α → Option (String × String)} (xs : List α) :
    (firstBy class? xs).map class? = (xs.map class?).eraseDups := by
  match xs with
  | [] => rfl
  | x :: xs =>
    rw [firstBy_cons, List.map_cons, List.map_cons, List.eraseDups_cons, List.filter_map,
      map_firstBy]
    rfl
termination_by xs.length
decreasing_by exact Nat.lt_succ_of_le (List.length_filter_le _ _)

namespace Plan

variable {s : Snapshot} {o : Options} {m : Model} {c : Screen} {w : Widget}

/-! Splitting off repetitions -/

def ClassKey.spelled (c : String × String) : ClassKey :=
  ⟨.text c.1, .text c.2⟩

theorem ClassKey.any_same_spelled {c : String × String} {cs : List (String × String)} :
    (cs.map spelled).any (same (spelled c)) = decide (c ∈ cs) := by
  rw [Bool.eq_iff_iff, List.any_eq_true, decide_eq_true_iff]
  simp [same, spelled]

-- Of values whose classes are known, the first with each class are kept.
theorem exists_split_firstBy {α : Type} {key : α → Datum.Read ClassKey}
    {class? : α → Option (String × String)} {xs : List α} (taken : List (String × String))
    (h : ∀ x ∈ xs, ∃ c, class? x = some c ∧ key x = .ok (.spelled c)) :
    ∃ again, split key (taken.map .spelled) xs =
        .ok (firstBy class? (xs.filter (class? · ∉ taken.map some)), again) ∧
      again ⊆ xs ∧
      (firstBy class? (xs.filter (class? · ∉ taken.map some))).length + again.length =
        xs.length := by
  induction xs generalizing taken
  case nil => exact ⟨[], rfl, List.Subset.refl _, rfl⟩
  case cons x xs ih =>
    obtain ⟨⟨c, hc, hkey⟩, hxs⟩ := List.forall_mem_cons.mp h
    by_cases ht : c ∈ taken
    case pos =>
      obtain ⟨again, hsplit, hsub, hlength⟩ := ih taken hxs
      rw [List.filter_cons_of_neg (by simpa [hc] using ht)]
      refine ⟨x :: again, ?_, List.cons_subset_cons _ hsub, congrArg (· + 1) hlength⟩
      rw [split, hkey]
      simp only [bind, Except.bind, ClassKey.any_same_spelled, ht, decide_true, if_true, hsplit]
      rfl
    case neg =>
      have hkeys : (taken ++ [c]).map ClassKey.spelled = taken.map .spelled ++ [.spelled c] := by simp
      have hfirst : firstBy class? ((x :: xs).filter (class? · ∉ taken.map some)) =
          x :: firstBy class? (xs.filter (class? · ∉ (taken ++ [c]).map some)) := by
        rw [List.filter_cons_of_pos (by simpa [hc] using ht), firstBy_cons, hc,
          ← filter_not_mem_append, List.map_append, List.map_singleton]
      obtain ⟨again, hsplit, hsub, hlength⟩ := ih (taken ++ [c]) hxs
      rw [hkeys] at hsplit
      rw [hfirst]
      refine ⟨again, ?_, List.subset_cons_of_subset _ hsub, ?_⟩
      · rw [split, hkey]
        simp only [bind, Except.bind, ClassKey.any_same_spelled, ht, decide_false,
          Bool.false_eq_true, if_false, hsplit]
        rfl
      · rw [List.length_cons, List.length_cons, ← hlength]
        omega

theorem exists_split_nil {α : Type} {key : α → Datum.Read ClassKey}
    {class? : α → Option (String × String)} {xs : List α}
    (h : ∀ x ∈ xs, ∃ c, class? x = some c ∧ key x = .ok (.spelled c)) :
    ∃ again, split key [] xs = .ok (firstBy class? xs, again) ∧ again ⊆ xs ∧
      (firstBy class? xs).length + again.length = xs.length := by
  have hall : xs.filter (class? · ∉ ([] : List (String × String)).map some) = xs := by simp
  have hsplit := exists_split_firstBy [] h
  rw [hall] at hsplit
  exact hsplit

theorem exists_keys {α : Type} {key : α → Datum.Read ClassKey}
    {class? : α → Option (String × String)} {xs : List α}
    (h : ∀ x ∈ xs, ∃ c, class? x = some c ∧ key x = .ok (.spelled c)) :
    ∃ cs : List (String × String), xs.map class? = cs.map some ∧
      xs.mapM key = .ok (cs.map .spelled) := by
  induction xs
  case nil => exact ⟨[], rfl, rfl⟩
  case cons x xs ih =>
    obtain ⟨⟨c, hc, hkey⟩, hxs⟩ := List.forall_mem_cons.mp h
    obtain ⟨cs, hcs, hkeys⟩ := ih hxs
    exact ⟨c :: cs, by rw [List.map_cons, hc, hcs]; rfl,
      mapM_eq_ok.mpr (.cons hkey (mapM_eq_ok.mp hkeys))⟩

/-! What is told of a class -/

theorem classBy?_text {file name : String} :
    classBy? (.text file) (.text name) = some (file, name) :=
  rfl

theorem exists_classKey {file name : Datum} (hf : file.IsText) (hn : name.IsText) :
    ∃ c, classBy? file name = some c ∧ ClassKey.of file name = .ok (.spelled c) := by
  obtain ⟨file, rfl⟩ := hf
  obtain ⟨name, rfl⟩ := hn
  have hfile := Datum.asKey_eq_ok.mpr ⟨rfl, @Datum.isKey_text file⟩
  have hname := Datum.asKey_eq_ok.mpr ⟨rfl, @Datum.isKey_text name⟩
  exact ⟨(file, name), rfl, by rw [ClassKey.of, hfile, hname]; rfl⟩

theorem exists_modelMigration_class (h : m.Spelled) :
    ∃ d, modelMigration o m = .ok d ∧ d.class? = m.class? := by
  rw [modelMigration]
  split
  case isTrue => exact ⟨_, rfl, rfl⟩
  case isFalse =>
    obtain ⟨fields, hfields⟩ : ∃ ds, (m.fields.mapM fun f => f.toDatum.unshared) = .ok ds :=
      exists_mapM fun f hf => ⟨_, Datum.unshared_of_tidy _ (h.fields f hf).tidy⟩
    rw [hfields]
    exact ⟨_, rfl, rfl⟩

theorem exists_modelMigrations {models : List Model} (h : ∀ m ∈ models, m.Spelled) :
    ∃ ds, models.mapM (modelMigration o) = .ok ds ∧
      ds.map Datum.class? = models.map Model.class? := by
  induction models
  case nil => exact ⟨[], rfl, rfl⟩
  case cons m models ih =>
    obtain ⟨hm, hmodels⟩ := List.forall_mem_cons.mp h
    obtain ⟨d, hd, hclass⟩ := @exists_modelMigration_class o m hm
    obtain ⟨ds, hds, hclasses⟩ := ih hmodels
    exact ⟨d :: ds, mapM_eq_ok.mpr (.cons hd (mapM_eq_ok.mp hds)),
      by rw [List.map_cons, List.map_cons, hclass, hclasses]⟩

theorem class?_screenMigration : (screenMigration o c).class? = c.class? := by
  rw [screenMigration]
  split
  · rfl
  · rfl

/-! Warnings of repetitions -/

def tellsDuplicate (warning : String) : Bool :=
  warning.beginsWith "Duplicate model "

theorem tellsDuplicate_duplicateWarning {w : String} (h : duplicateWarning m = .ok w) :
    tellsDuplicate w := by
  simp only [duplicateWarning, bind_eq_ok, pure_eq_ok] at h
  obtain ⟨name, _, file, _, rfl⟩ := h
  simp [tellsDuplicate, String.beginsWith]

theorem not_tellsDuplicate_append {start rest : String}
    (h : start.toList.head?.any (· != 'D')) : tellsDuplicate (start ++ rest) = false := by
  obtain ⟨c, hc, hne⟩ := (Option.any_eq_true _ _).mp h
  obtain ⟨cs, hstart⟩ := List.head?_eq_some_iff.mp hc
  have hfirst : 'D' ≠ c := Ne.symm (by simpa using hne)
  simp [tellsDuplicate, String.beginsWith, hstart, List.isPrefixOf, hfirst]

theorem not_tellsDuplicate_chooseArchitecture {target : Datum} :
    ∀ w ∈ (chooseArchitecture s target).2, tellsDuplicate w = false := by
  rw [chooseArchitecture]
  split
  · split
    · exact List.forall_mem_singleton.mpr (by decide)
    · rw [customAsLayers]
      split
      · exact List.forall_mem_singleton.mpr (by decide)
      · exact List.forall_mem_nil _
  · split
    · exact List.forall_mem_nil _
    · rw [String.append_assoc]
      exact List.forall_mem_singleton.mpr (not_tellsDuplicate_append (by decide))

theorem not_tellsDuplicate_confidenceWarnings {confidence : Float} {ws : List String}
    (h : confidenceWarnings confidence = .ok ws) : ∀ w ∈ ws, tellsDuplicate w = false := by
  rw [confidenceWarnings] at h
  split at h
  · obtain ⟨share, _, h⟩ := bind_eq_ok.mp h
    rw [← pure_eq_ok.mp h, String.append_assoc]
    exact List.forall_mem_singleton.mpr (not_tellsDuplicate_append (by decide))
  · exact pure_eq_ok.mp h ▸ List.forall_mem_nil _

theorem not_tellsDuplicate_chooseState {target state : Datum} {ws : List String}
    (h : chooseState s target = .ok (state, ws)) : ∀ w ∈ ws, tellsDuplicate w = false := by
  rw [chooseState] at h
  split at h
  · obtain ⟨-, rfl⟩ := Prod.mk.inj (pure_eq_ok.mp h)
    exact List.forall_mem_nil _
  · split at h
    · obtain ⟨-, rfl⟩ := Prod.mk.inj (pure_eq_ok.mp h)
      rw [String.append_assoc]
      exact List.forall_mem_singleton.mpr (not_tellsDuplicate_append (by decide))
    · split at h
      · obtain ⟨-, rfl⟩ := Prod.mk.inj (pure_eq_ok.mp h)
        exact List.forall_mem_nil _
      · split at h
        · obtain ⟨-, rfl⟩ := Prod.mk.inj (pure_eq_ok.mp h)
          exact List.forall_mem_singleton.mpr (by decide)
        · obtain ⟨detected, _, h⟩ := bind_eq_ok.mp h
          obtain ⟨-, rfl⟩ := Prod.mk.inj (pure_eq_ok.mp h)
          rw [String.append_assoc]
          exact List.forall_mem_singleton.mpr (not_tellsDuplicate_append (by decide))

theorem not_tellsDuplicate_migrationWarnings {models : List Model} {ws : List String}
    (h : migrationWarnings o models = .ok ws) : ∀ w ∈ ws, tellsDuplicate w = false := by
  rw [migrationWarnings] at h
  split at h
  · exact pure_eq_ok.mp h ▸ List.forall_mem_nil _
  · obtain ⟨empty, hempty, h⟩ := bind_eq_ok.mp h
    rw [← pure_eq_ok.mp h]
    refine List.forall_mem_append.mpr ⟨forall_mem_of_mapM hempty fun m _ w hw => ?_, ?_⟩
    · simp only [emptyWarning, bind_eq_ok, pure_eq_ok] at hw
      obtain ⟨name, _, file, _, rfl⟩ := hw
      simp only [String.append_assoc]
      exact not_tellsDuplicate_append (by decide)
    · split
      · rw [String.append_assoc]
        exact List.forall_mem_singleton.mpr (not_tellsDuplicate_append (by decide))
      · exact List.forall_mem_nil _

/-! Promised files -/

theorem mem_distinct {ds : List Datum} (h : ∀ d ∈ ds, d.IsText) {d : Datum} :
    d ∈ distinct ds ↔ d ∈ ds := by
  obtain ⟨ms, rfl⟩ := Datum.exists_texts h
  rw [distinct_texts]
  simp only [List.mem_map, List.mem_eraseDups]

theorem nodup_distinct {ds : List Datum} (h : ∀ d ∈ ds, d.IsText) : (distinct ds).Nodup := by
  obtain ⟨ms, rfl⟩ := Datum.exists_texts h
  rw [distinct_texts]
  exact (nodup_eraseDups ms).map fun _ _ => Datum.text.inj

-- The files of classes, told by the classes.
theorem mem_files {α : Type} {file name : α → Datum} {xs : List α} {d : Datum}
    (h : ∀ x ∈ xs, (name x).IsText ∧ (file x).IsText) :
    d ∈ xs.map file ↔ ∃ f n, d = .text f ∧
      some (f, n) ∈ xs.map fun x => classBy? (file x) (name x) := by
  simp only [List.mem_map]
  constructor
  · rintro ⟨x, hx, rfl⟩
    obtain ⟨⟨n, hn⟩, f, hf⟩ := h x hx
    exact ⟨f, n, hf, x, hx, by rw [hf, hn]; rfl⟩
  · rintro ⟨f, n, rfl, x, hx, hclass⟩
    obtain ⟨⟨n', hn⟩, f', hf⟩ := h x hx
    rw [hf, hn, classBy?_text, Option.some.injEq, Prod.mk.injEq] at hclass
    exact ⟨x, hx, by rw [hf, hclass.1]⟩

-- Warnings of repetitions stand for them one by one.
theorem countP_tellsDuplicate {again : List Model} {ws before after : List String}
    (h : again.mapM duplicateWarning = .ok ws) (hbefore : ∀ w ∈ before, tellsDuplicate w = false)
    (hafter : ∀ w ∈ after, tellsDuplicate w = false) :
    (before ++ ws ++ after).countP tellsDuplicate = again.length := by
  have hall : ∀ w ∈ ws, tellsDuplicate w :=
    forall_mem_of_mapM h fun m _ w hw => tellsDuplicate_duplicateWarning hw
  have hnone {us : List String} (hu : ∀ w ∈ us, tellsDuplicate w = false) :
      us.countP tellsDuplicate = 0 :=
    List.countP_eq_zero.mpr fun w hw => by simp [hu w hw]
  rw [List.countP_append, List.countP_append, hnone hbefore, hnone hafter,
    List.countP_eq_length.mpr hall, Nat.zero_add, Nat.add_zero, (mapM_eq_ok.mp h).length_eq]

end Plan

/-! The account of a plan -/

-- What a plan makes of the classes of a snapshot, with its modules and those it may not have.
structure Schema.Accounts (p : Schema) (s : Snapshot) (o : Options)
    (modules excluded : List String) : Prop where
  models : p.models.map Datum.class? = (s.models.map Model.class?).eraseDups
  screens : p.screens.map Datum.class? = (s.screens.map Screen.class?).eraseDups
  widgets : p.widgets.map Datum.class? =
    ((s.widgets.map Widget.class?).filter (· ∉ s.screens.map Screen.class?)).eraseDups
  duplicates : ∃ ws : List String, p.warnings = ws.map .text ∧
    ws.countP Plan.tellsDuplicate + p.models.length = s.models.length
  preserved_nodup : p.preserved.Nodup
  preserved : ∀ d, d ∈ p.preserved ↔ ∃ file name, d = .text file ∧
    (o.keepModels.truthy ∧ some (file, name) ∈ p.models.map Datum.class? ∨
      o.keepScreens.truthy ∧ some (file, name) ∈ p.screens.map Datum.class? ∨
      some (file, name) ∈ p.widgets.map Datum.class?)
  tables : List.Forall₂ (fun m d => ∃ t, Table.ofModel m = .ok t ∧ t.toDatum = d)
    (if !o.keepModels.truthy && modules.contains "drift" then firstBy Model.class? s.models else [])
    p.tables
  moduleIds : p.moduleIds = .ok (modules.map .text)
  modules_nodup : modules.Nodup
  modules_wanted : ∀ m ∈ modules, m ∉ excluded

namespace Plan

variable {s : Snapshot} {o : Options}

theorem mem_preservedFiles {models : List Model} {screens : List Screen} {widgets : List Widget}
    (hm : ∀ m ∈ models, m.Spelled) (hc : ∀ c ∈ screens, c.Spelled) (hw : ∀ w ∈ widgets, w.Spelled) :
    (preservedFiles o models screens widgets).Nodup ∧
    ∀ d, d ∈ preservedFiles o models screens widgets ↔ ∃ file name, d = .text file ∧
      (o.keepModels.truthy ∧ some (file, name) ∈ models.map Model.class? ∨
        o.keepScreens.truthy ∧ some (file, name) ∈ screens.map Screen.class? ∨
        some (file, name) ∈ widgets.map Widget.class?) := by
  have htexts : ∀ d ∈ (if o.keepModels.truthy then models.map (·.file) else []) ++
      (if o.keepScreens.truthy then screens.map (·.file) else []) ++ widgets.map (·.file),
      d.IsText := by
    refine List.forall_mem_append.mpr ⟨List.forall_mem_append.mpr ⟨?_, ?_⟩, ?_⟩
    · split
      · exact List.forall_mem_map.mpr fun m h => (hm m h).file
      · exact nofun
    · split
      · exact List.forall_mem_map.mpr fun c h => (hc c h).file
      · exact nofun
    · exact List.forall_mem_map.mpr fun w h => (hw w h).file
  refine ⟨nodup_distinct htexts, fun d => ?_⟩
  have hmodels := @mem_files _ Model.file Model.name models d fun m h => ⟨(hm m h).name, (hm m h).file⟩
  have hscreens := @mem_files _ Screen.file Screen.name screens d
    fun c h => ⟨(hc c h).name, (hc c h).file⟩
  have hwidgets := @mem_files _ Widget.file Widget.name widgets d
    fun w h => ⟨(hw w h).name, (hw w h).file⟩
  have hkept {b : Bool} {ds : List Datum} : d ∈ (if b then ds else []) ↔ b ∧ d ∈ ds := by
    cases b
    · simp
    · simp
  rw [preservedFiles, mem_distinct htexts, List.mem_append, List.mem_append, hkept, hkept,
    hmodels, hscreens, hwidgets]
  constructor
  · rintro ((⟨hb, f, n, hd, h⟩ | ⟨hb, f, n, hd, h⟩) | ⟨f, n, hd, h⟩)
    · exact ⟨f, n, hd, .inl ⟨hb, h⟩⟩
    · exact ⟨f, n, hd, .inr (.inl ⟨hb, h⟩)⟩
    · exact ⟨f, n, hd, .inr (.inr h)⟩
  · rintro ⟨f, n, hd, ⟨hb, h⟩ | ⟨hb, h⟩ | h⟩
    · exact .inl (.inl ⟨hb, f, n, hd, h⟩)
    · exact .inl (.inr ⟨hb, f, n, hd, h⟩)
    · exact .inr ⟨f, n, hd, h⟩

theorem exists_tables_of_models {modules : List String} {models : List Model}
    (h : ∀ m ∈ models, m.Spelled) :
    ∃ ts, tables o (modules.map .text) models = .ok ts ∧
      List.Forall₂ (fun m d => ∃ t, Table.ofModel m = .ok t ∧ t.toDatum = d)
        (if !o.keepModels.truthy && modules.contains "drift" then models else []) ts := by
  have hdrift : (modules.map Datum.text).any (Datum.same "drift") = modules.contains "drift" := by
    rw [List.contains_eq_mem]
    exact Datum.any_same_texts
  rw [tables, hdrift]
  split
  case isTrue =>
    obtain ⟨ts, hts⟩ := exists_mapM fun m hm => (Table.exists_ofModel (h m hm)).imp fun _ => And.left
    refine ⟨ts.map Table.toDatum, by rw [hts]; rfl, ?_⟩
    rw [List.forall₂_map_right_iff]
    exact (mapM_eq_ok.mp hts).imp fun m t ht => ⟨t, ht, rfl⟩
  case isFalse => exact ⟨[], rfl, .nil⟩

theorem exists_definition_modules {architecture state : Datum} {modules : List Datum}
    (hn : s.name.IsText) (ht : ∀ t ∈ s.theme, t.primary.IsTextOrNull) :
    ∃ d, definition s o architecture state modules = .ok d ∧
      Dict.get d "modules" (.list []) = .list (modules.map fun m =>
        .record [("id", m), ("enabled", .bool true), ("config", .dict [])]) := by
  obtain ⟨name, hname⟩ := hn
  obtain ⟨color, hcolor⟩ := exists_themeColor ht
  rw [definition, hcolor, hname]
  exact ⟨_, rfl, rfl⟩

end Plan

-- Every snapshot with texts for names has a plan, which neither loses a class nor tells of one
-- twice.
theorem Schema.exists_accounts {s : Snapshot} {o : Options} {extra excluded : List String}
    (hs : s.Spelled) (ho : o.Lists extra excluded) :
    ∃ p modules, Schema.ofSnapshot s o = .ok p ∧ p.Accounts s o modules excluded := by
  obtain ⟨w₂, hconfidence⟩ := Plan.exists_confidenceWarnings hs.confidence
  obtain ⟨state, w₃, hstate, _⟩ := @Plan.exists_chooseState s o.state hs.state
  obtain ⟨modules, hmodules, hnodup, hwanted⟩ :=
    @Plan.exists_chooseModules s o _ _ ho.extraModules ho.excludedModules
  have hmodelKeys : ∀ m ∈ s.models, ∃ c, m.class? = some c ∧ Plan.modelKey m = .ok (.spelled c) :=
    fun m hm => Plan.exists_classKey (hs.models m hm).file (hs.models m hm).name
  have hscreenKeys : ∀ c ∈ s.screens, ∃ k, c.class? = some k ∧ Plan.screenKey c = .ok (.spelled k) :=
    fun c hc => Plan.exists_classKey (hs.screens c hc).file (hs.screens c hc).name
  have hwidgetKeys : ∀ w ∈ s.widgets, ∃ k, w.class? = some k ∧ Plan.widgetKey w = .ok (.spelled k) :=
    fun w hw => Plan.exists_classKey (hs.widgets w hw).file (hs.widgets w hw).name
  obtain ⟨again, hmodels, hagain, hlength⟩ := Plan.exists_split_nil hmodelKeys
  obtain ⟨_, hscreens, _, _⟩ := Plan.exists_split_nil hscreenKeys
  have hmodelsSub := Plan.split_subset hmodels
  have hscreensSub := Plan.split_subset hscreens
  obtain ⟨taken, htaken, hkeys⟩ := Plan.exists_keys fun c hc => hscreenKeys c (hscreensSub hc)
  obtain ⟨_, hwidgets, _, _⟩ := Plan.exists_split_firstBy taken hwidgetKeys
  have hwidgetsSub := Plan.split_subset hwidgets
  have hmodelsSpelled : ∀ m ∈ firstBy Model.class? s.models, m.Spelled :=
    fun m hm => hs.models m (hmodelsSub hm)
  have hscreensSpelled : ∀ c ∈ firstBy Screen.class? s.screens, c.Spelled :=
    fun c hc => hs.screens c (hscreensSub hc)
  obtain ⟨w₄, hduplicates⟩ := exists_mapM fun m hm =>
    Plan.exists_duplicateWarning (hs.models m (hagain hm))
  obtain ⟨w₅, hmigrating⟩ := @Plan.exists_migrationWarnings o _ hmodelsSpelled
  obtain ⟨migrations, hmigrations, hclasses⟩ := @Plan.exists_modelMigrations o _ hmodelsSpelled
  obtain ⟨generation, hgeneration⟩ := @Plan.exists_generation o state _ _ hmodelsSpelled
    fun c hc => (hscreensSpelled c hc).name
  obtain ⟨tables, htables, hall⟩ := @Plan.exists_tables_of_models o modules _ hmodelsSpelled
  obtain ⟨definition, hdefinition, hentries⟩ := @Plan.exists_definition_modules s o
    (Plan.chooseArchitecture s o.architecture).1 state (modules.map .text) hs.name hs.theme
  have hscreenClasses : ((firstBy Screen.class? s.screens).map (Plan.screenMigration o)).map
      Datum.class? = (firstBy Screen.class? s.screens).map Screen.class? := by
    rw [List.map_map]
    exact List.map_congr_left fun c _ => Plan.class?_screenMigration
  have htakenAll {x : Option (String × String)} :
      x ∈ taken.map some ↔ x ∈ s.screens.map Screen.class? := by
    rw [← htaken, map_firstBy, List.mem_eraseDups]
  let widgets := firstBy Widget.class? (s.widgets.filter (·.class? ∉ taken.map some))
  have hwidgetClasses : (widgets.map Plan.widgetMigration).map Datum.class? =
      widgets.map Widget.class? := List.map_map
  obtain ⟨hpreservedOnce, hpreserved⟩ := @Plan.mem_preservedFiles o _ _ widgets hmodelsSpelled
    hscreensSpelled fun w hw => hs.widgets w (hwidgetsSub hw)
  have hwarnings : ((Plan.chooseArchitecture s o.architecture).2 ++ w₂ ++ w₃ ++ w₄ ++ w₅).countP
      Plan.tellsDuplicate = again.length :=
    Plan.countP_tellsDuplicate hduplicates
      (List.forall_mem_append.mpr ⟨List.forall_mem_append.mpr
        ⟨Plan.not_tellsDuplicate_chooseArchitecture,
          Plan.not_tellsDuplicate_confidenceWarnings hconfidence⟩,
        Plan.not_tellsDuplicate_chooseState hstate⟩)
      (Plan.not_tellsDuplicate_migrationWarnings hmigrating)
  refine ⟨{
    definition := definition
    models := migrations
    screens := (firstBy Screen.class? s.screens).map (Plan.screenMigration o)
    widgets := widgets.map Plan.widgetMigration
    generation := generation
    preserved := Plan.preservedFiles o (firstBy Model.class? s.models)
      (firstBy Screen.class? s.screens) widgets
    warnings := ((Plan.chooseArchitecture s o.architecture).2 ++ w₂ ++ w₃ ++ w₄ ++ w₅).map .text
    tables := tables }, modules, ?made, ?_⟩
  case made =>
    simp only [Schema.ofSnapshot, hconfidence, hstate, hmodules, hmodels, hduplicates, hscreens,
      hkeys, hwidgets, hmigrating, hmigrations, hgeneration, htables, hdefinition, bind,
      Except.bind, pure, Except.pure, widgets]
  exact {
    models := hclasses.trans (map_firstBy _)
    screens := hscreenClasses.trans (map_firstBy _)
    widgets := by
      rw [hwidgetClasses, map_firstBy, List.filter_map]
      simp only [htakenAll]
      rfl
    duplicates := ⟨_, rfl, by
      rw [hwarnings, ← hlength, Nat.add_comm, ← List.length_map, hclasses, List.length_map]⟩
    preserved_nodup := hpreservedOnce
    preserved := by
      rw [hclasses, hscreenClasses, hwidgetClasses]
      exact hpreserved
    tables := hall
    moduleIds := Schema.moduleIds_of_modules (by rw [Schema.modules, hentries]; rfl)
    modules_nodup := hnodup
    modules_wanted := hwanted }

-- A model that is found twice, and a screen that is found again as a widget.
def crowded : Snapshot :=
  let order (file : String) : Model :=
    { name := "Order", file := .text file, fields := [⟨"id", "int", false, .null, []⟩] }
  { name := "shop"
    architecture := ⟨"clean", 0.9, default, ""⟩
    models := [order "lib/order.dart", order "lib/order.dart", order "lib/old/order.dart"]
    screens := [{ name := "Home", file := "lib/home.dart" }, { name := "Home", file := "lib/home.dart" }]
    widgets := [{ name := "Home", file := "lib/home.dart" }, { name := "Tile", file := "lib/home.dart" },
      { name := "Tile", file := "lib/home.dart" }] }

def crowdedOptions : Options :=
  { keepModels := .bool false
    extraModules := .list ["drift", "analytics", "analytics"]
    excludedModules := .list ["pwa"] }

theorem Schema.exists_accounts_crowded :
    ∃ p modules, Schema.ofSnapshot crowded crowdedOptions = .ok p ∧
      p.Accounts crowded crowdedOptions modules ["pwa"] ∧
      p.models.length = 2 ∧ p.screens.length = 1 ∧ p.widgets.length = 1 ∧
      p.preserved.length = 1 ∧ p.tables.length = 2 := by
  have hspelled : crowded.Spelled := {
    name := ⟨_, rfl⟩
    confidence := by decide +kernel
    state := ⟨_, rfl⟩
    models := by
      have horder {file : String} : Model.Spelled { name := "Order", file := .text file, fields :=
          [⟨"id", "int", false, .null, []⟩] } :=
        ⟨⟨_, rfl⟩, ⟨_, rfl⟩,
          List.forall_mem_singleton.mpr ⟨⟨_, rfl⟩, ⟨_, rfl⟩, .inl rfl, nofun⟩, nofun⟩
      simpa [crowded] using ⟨horder, horder⟩
    screens := by simpa [crowded] using Screen.Spelled.mk ⟨_, rfl⟩ ⟨_, rfl⟩
    widgets := by
      simpa [crowded] using ⟨Widget.Spelled.mk ⟨_, rfl⟩ ⟨_, rfl⟩, Widget.Spelled.mk ⟨_, rfl⟩ ⟨_, rfl⟩⟩
    theme := nofun }
  obtain ⟨p, modules, hp, haccounts⟩ :=
    @exists_accounts crowded crowdedOptions ["drift", "analytics", "analytics"] ["pwa"] hspelled
      ⟨rfl, rfl⟩
  have h : (Schema.ofSnapshot crowded crowdedOptions).toOption.any fun p =>
      p.models.length == 2 && p.screens.length == 1 && p.widgets.length == 1 &&
        p.preserved.length == 1 && p.tables.length == 2 := by
    decide +kernel
  obtain ⟨p', hp', h⟩ := any_toOption.mp h
  obtain rfl := Except.ok.inj (hp'.symm.trans hp)
  simp only [Bool.and_eq_true, beq_iff_eq] at h
  obtain ⟨⟨⟨⟨hmodels, hscreens⟩, hwidgets⟩, hpreserved⟩, htables⟩ := h
  exact ⟨p', modules, hp, haccounts, hmodels, hscreens, hwidgets, hpreserved, htables⟩

end Refit
