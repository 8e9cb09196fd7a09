import Refit.Proofs.Rebuild.Failing
import Refit.Proofs.Rebuild.Planned

/-!
Classes with different names, and what comes of them.

Different names of classes are different in words. So no table, no path of a plan and no stand-in
that is called by the words of one class is taken by another one.
-/

namespace Refit

-- The kinds of classes that have stand-ins.
inductive ClassKind where
  | models
  | screens

namespace ClassKind

def folder : ClassKind → String
  | models => "models"
  | screens => "screens"

-- What the stand-in for a class holds.
def source : ClassKind → Datum → Datum.Read String
  | models => Placeholder.model
  | screens => Placeholder.screen

def names (s : Snapshot) : ClassKind → List Datum
  | models => s.models.map (·.name)
  | screens => s.screens.map (·.name)

def migrations (p : Schema) : ClassKind → List Datum
  | models => p.models
  | screens => p.screens

end ClassKind

-- Different names as classes have them.
structure ClassNames (ns : List String) : Prop where
  nodup : ns.Nodup
  named : ∀ n ∈ ns, isClassName n

-- Where a class has its stand-in, in the folder of its kind.
def standInPath (folder name : String) : String :=
  "lib/" ++ folder ++ "/" ++ snakeCase name ++ ".dart"

-- Documents with these names, in turn.
def Datum.Named (ds : List Datum) (ns : List String) : Prop :=
  List.Forall₂ (fun d n => d.field "name" = .ok (.text n)) ds ns

-- What is made of things with these names has names that are made of theirs.
theorem Datum.named_map {α : Type} {name : α → Datum} {word : String → String} {xs : List α}
    {ds : List Datum} {ns : List String} (hxs : xs.map name = ns.map .text)
    (h : List.Forall₂
      (fun x d => ∀ n, name x = .text n → d.field "name" = .ok (.text (word n))) xs ds) :
    Named ds (ns.map word) := by
  induction h generalizing ns
  case nil =>
    obtain rfl := List.map_eq_nil_iff.mp hxs.symm
    exact .nil
  case cons x d xs ds hx _ ih =>
    rw [List.map_cons] at hxs
    obtain ⟨n, ns, rfl, hn, hrest⟩ := List.map_eq_cons_iff.mp hxs.symm
    exact .cons (hx n hn.symm) (ih hrest.symm)

theorem Datum.named_of_same {α : Type} {name : α → Datum} {xs : List α} {ds : List Datum}
    {ns : List String} (hxs : xs.map name = ns.map .text)
    (h : List.Forall₂ (fun x d => d.field "name" = .ok (name x)) xs ds) : Named ds ns := by
  rw [← List.map_id ns]
  exact named_map hxs (h.imp fun x d hd n hn => by rw [hd, hn, id])

variable {a b folder : String} {ns : List String}

theorem snakeCase_className_inj (ha : isClassName a) (hb : isClassName b) :
    snakeCase a = snakeCase b ↔ a = b := by
  rw [isClassName, Bool.and_eq_true] at ha hb
  exact snakeCase_inj ha.1 hb.1 (ha.2.trans hb.2.symm)

theorem standInPath_inj : standInPath folder a = standInPath folder b ↔
    snakeCase a = snakeCase b :=
  Text.enclosed_inj

-- The two kinds of classes have folders of their own.
theorem models_ne_screens {v w : String} :
    "lib/" ++ "models" ++ "/" ++ v ++ ".dart" ≠ "lib/" ++ "screens" ++ "/" ++ w ++ ".dart" := by
  intro h
  have hletter := congrArg (·.toList[4]?) h
  simp at hletter

namespace ClassNames

theorem nodup_words (h : ClassNames ns) : (ns.map snakeCase).Nodup :=
  (List.nodup_map_iff_inj_on h.nodup).mpr fun a ha b hb =>
    (snakeCase_className_inj (h.named a ha) (h.named b hb)).mp

theorem nodup_paths (h : ClassNames ns) : (ns.map (standInPath folder)).Nodup :=
  (List.nodup_map_iff_inj_on h.nodup).mpr fun a ha b hb hpath =>
    (snakeCase_className_inj (h.named a ha) (h.named b hb)).mp (standInPath_inj.mp hpath)

end ClassNames

/-! What a plan has of them -/

namespace Plan

variable {o : Options} {m : Model} {c : Screen} {k : ClassKey} {taken : List ClassKey}

theorem name_modelKey (h : modelKey m = .ok k) : k.name = m.name := by
  simp only [modelKey, ClassKey.of, bind_eq_ok, pure_eq_ok, Datum.asKey_eq_ok] at h
  obtain ⟨_, _, _, ⟨rfl, _⟩, rfl⟩ := h
  rfl

theorem name_screenKey (h : screenKey c = .ok k) : k.name = c.name := by
  simp only [screenKey, ClassKey.of, bind_eq_ok, pure_eq_ok, Datum.asKey_eq_ok] at h
  obtain ⟨_, _, _, ⟨rfl, _⟩, rfl⟩ := h
  rfl

-- Of classes with different names none is left out.
theorem split_of_nodup {α : Type} {key : α → Datum.Read ClassKey} {name : α → Datum}
    {xs first again : List α} (hkey : ∀ x k, key x = .ok k → k.name = name x)
    (hxs : xs.map name = ns.map .text) (hns : ns.Nodup)
    (htaken : ∀ n ∈ ns, ∀ k ∈ taken, ¬(Datum.text n).same k.name)
    (h : split key taken xs = .ok (first, again)) : first = xs := by
  induction xs generalizing ns taken first again
  case nil =>
    obtain ⟨rfl, _⟩ := Prod.mk.inj (pure_eq_ok.mp h)
    rfl
  case cons x xs ih =>
    rw [List.map_cons] at hxs
    obtain ⟨n, ns, rfl, hx, hrest⟩ := List.map_eq_cons_iff.mp hxs.symm
    obtain ⟨hnew, hns⟩ := List.nodup_cons.mp hns
    obtain ⟨hfree, hfrees⟩ := List.forall_mem_cons.mp htaken
    rw [split] at h
    obtain ⟨k, hk, h⟩ := bind_eq_ok.mp h
    have hname : k.name = .text n := (hkey x k hk).trans hx.symm
    have hnone : taken.any k.same = false := by
      refine List.any_eq_false.mpr fun t ht hsame => hfree t ht ?_
      rw [ClassKey.same, Bool.and_eq_true, hname] at hsame
      exact hsame.2
    have hfrees' : ∀ n' ∈ ns, ∀ t ∈ taken ++ [k], ¬(Datum.text n').same t.name := by
      intro n' hn'
      refine List.forall_mem_append.mpr ⟨hfrees n' hn', List.forall_mem_singleton.mpr ?_⟩
      rw [hname, Datum.same_text, beq_iff_eq]
      exact fun heq => hnew (heq ▸ hn')
    rw [hnone, if_neg Bool.false_ne_true] at h
    obtain ⟨⟨rest, again⟩, hsplit, h⟩ := bind_eq_ok.mp h
    obtain ⟨rfl, _⟩ := Prod.mk.inj (pure_eq_ok.mp h)
    rw [ih hrest.symm hns hfrees' hsplit]

theorem filesFor_texts {names fs : List Datum} (hs : names = ns.map .text)
    (h : filesFor folder names = .ok fs) : fs = (ns.map (standInPath folder)).map .text := by
  have hfiles : filesFor folder (ns.map .text) =
      .ok ((ns.map (standInPath folder)).map .text) := by
    rw [filesFor, mapM_eq_ok, List.forall₂_map_left_iff, List.map_map, List.forall₂_map_right_iff]
    exact List.forall₂_same.mpr fun _ _ => rfl
  exact Except.ok.inj (h.symm.trans (hs ▸ hfiles))

end Plan

namespace Schema

variable {s : Snapshot} {o : Options} {p : Schema}

theorem get?_generation {modelFiles screenFiles : List Datum} {theme state : List String}
    (h : p.generation = [(.text "theme", .texts theme), (.text "models", .list modelFiles),
      (.text "screens", .list screenFiles), (.text "widgets", .list []),
      (.text "state", .texts state)]) :
    p.generation.get? "models" = some (.list modelFiles) ∧
      p.generation.get? "screens" = some (.list screenFiles) := by
  rw [h]
  exact ⟨by simp [Dict.get?], by simp [Dict.get?]⟩

theorem named_tables {modules : List Datum} {models : List Model} (hk : ¬o.keepModels.truthy)
    (hm : models.map (·.name) = ns.map .text) (h : Plan.tables o modules models = .ok p.tables) :
    Datum.Named p.tables
      (if modules.any (Datum.same "drift") then ns.map snakeCase else []) := by
  rw [Plan.tables, Bool.not_eq_true _ |>.mp hk, Bool.not_false, Bool.true_and] at h
  split at h
  case isFalse hdrift =>
    rw [if_neg hdrift, ← pure_eq_ok.mp h]
    exact .nil
  case isTrue hdrift =>
    obtain ⟨ts, hts, h⟩ := bind_eq_ok.mp h
    rw [if_pos hdrift]
    refine Datum.named_map hm ?_
    rw [← pure_eq_ok.mp h, List.forall₂_map_right_iff]
    refine (mapM_eq_ok.mp hts).imp fun m t ht n hn => ?_
    simp only [Table.ofModel, bind_eq_ok, pure_eq_ok] at ht
    obtain ⟨_, _, _, _, word, hword, _, _, rfl⟩ := ht
    rw [hn] at hword
    obtain rfl := Except.ok.inj hword
    rfl

-- What is planned for classes: a migration for each and, if models are made anew, a path for each.
theorem classes_ofSnapshot {k : ClassKind} (hp : ofSnapshot s o = .ok p)
    (hs : k.names s = ns.map .text) (hn : ns.Nodup) : Datum.Named (k.migrations p) ns ∧
      (¬o.keepModels.truthy →
        p.generation.get? k.folder = some (.texts (ns.map (standInPath k.folder)))) := by
  obtain ⟨_, _, models, screens, -, ⟨_, hmodels⟩, ⟨_, hscreens⟩, hgeneration, hmigrations,
    hmigrations', -, -⟩ := ofSnapshot_ok hp
  obtain ⟨modelFiles, screenFiles, hfiles, hfiles', heq⟩ := Plan.generation_ok hgeneration
  obtain ⟨hlisted, hlisted'⟩ := get?_generation heq
  cases k
  case models =>
    obtain rfl := Plan.split_of_nodup (fun _ _ => Plan.name_modelKey) hs hn
      (fun _ _ => List.forall_mem_nil _) hmodels
    refine ⟨Datum.named_of_same hs ?_, fun hk => hlisted.trans ?_⟩
    · exact (mapM_eq_ok.mp hmigrations).imp fun _ _ => Plan.name_modelMigration
    · rw [if_neg hk] at hfiles
      rw [Plan.filesFor_texts hs hfiles]
      rfl
  case screens =>
    obtain rfl := Plan.split_of_nodup (fun _ _ => Plan.name_screenKey) hs hn
      (fun _ _ => List.forall_mem_nil _) hscreens
    refine ⟨Datum.named_of_same hs ?_, fun _ => hlisted'.trans ?_⟩
    · rw [ClassKind.migrations, hmigrations', List.forall₂_map_right_iff]
      exact List.forall₂_same.mpr fun _ _ => Plan.name_screenMigration
    · rw [Plan.filesFor_texts hs hfiles']
      rfl

-- Models that are made anew have a table each where the database is among the modules.
theorem tables_ofSnapshot (hp : ofSnapshot s o = .ok p) (hk : ¬o.keepModels.truthy)
    (hs : ClassKind.models.names s = ns.map .text) (hn : ns.Nodup) :
    ∃ modules, Plan.chooseModules s o = .ok modules ∧ Datum.Named p.tables
      (if modules.any (Datum.same "drift") then ns.map snakeCase else []) := by
  obtain ⟨_, modules, models, _, hmodules, ⟨_, hmodels⟩, -, -, -, -, htables, -⟩ := ofSnapshot_ok hp
  obtain rfl := Plan.split_of_nodup (fun _ _ => Plan.name_modelKey) hs hn
    (fun _ _ => List.forall_mem_nil _) hmodels
  exact ⟨modules, hmodules, named_tables hk hs htables⟩

end Schema

/-! What is made of them -/

namespace Rebuild

variable {σ : Type} {k : ClassKind} {p q : Schema} {source : Datum → Datum.Read String}
  {ds : List Datum} {fs : Files} {has has' : String → String → Prop} {path content : String}

-- What stands in for some classes, at the paths of their names.
def OwnFiles (folder : String) (source : Datum → Datum.Read String) (migrations : List Datum)
    (ns : List String) (has : String → String → Prop) : Prop :=
  List.Forall₂ (fun d n => ∃ content, source d = .ok content ∧ has (standInPath folder n) content)
    migrations ns

theorem OwnFiles.imp (h : OwnFiles folder source ds ns has)
    (hhas : ∀ n content, has (standInPath folder n) content → has' (standInPath folder n) content) :
    OwnFiles folder source ds ns has' :=
  List.Forall₂.imp (fun _ _ ⟨content, hc, hp⟩ => ⟨content, hc, hhas _ _ hp⟩) h

-- The stand-ins of classes with these names, one for each in turn.
theorem ownFiles_of_standsIn (hn : Datum.Named ds ns)
    (h : List.Forall₂ (StandsIn folder source) ds fs) :
    fs.map Prod.fst = ns.map (standInPath folder) ∧
      OwnFiles folder source ds ns fun path content => (path, content) ∈ fs := by
  induction h generalizing ns
  case nil =>
    obtain rfl := List.forall₂_nil_left_iff.mp hn
    exact ⟨rfl, .nil⟩
  case cons d f ds fs hf _ ih =>
    obtain ⟨n, ns, hname, hrest, rfl⟩ := List.forall₂_cons_left_iff.mp hn
    obtain ⟨hpaths, hown⟩ := ih hrest
    obtain ⟨_, word, hname', hword, hpath, hcontent⟩ := hf
    obtain rfl := Except.ok.inj (hname.symm.trans hname')
    obtain rfl := Except.ok.inj hword
    have hf : f = (standInPath folder n, f.2) := Prod.ext hpath rfl
    refine ⟨by rw [List.map_cons, List.map_cons, hpaths, hpath]; rfl, .cons ?first ?rest⟩
    case first => exact ⟨f.2, hcontent, hf ▸ List.mem_cons_self ..⟩
    case rest =>
      have hrest : OwnFiles folder source ds ns fun path content => (path, content) ∈ f :: fs :=
        hown.imp fun _ _ => List.mem_cons_of_mem _
      exact hrest

-- Files of one kind among others keep their content if no other has a path of theirs.
theorem mem_putAll_amid {base first own last : Files} (hn : (own.map Prod.fst).Nodup)
    (hfirst : ∀ x ∈ first, path ≠ x.1) (hlast : ∀ x ∈ last, path ≠ x.1)
    (hx : (path, content) ∈ own) : (path, content) ∈ base.putAll (first ++ own ++ last) := by
  refine Files.mem_putAll_of_forall (by simp [hx]) fun c hc => ?_
  rcases List.mem_append.mp hc with hc | hc
  case inr => exact absurd rfl (hlast _ hc)
  case inl =>
    rcases List.mem_append.mp hc with hc | hc
    case inl => exact absurd rfl (hfirst _ hc)
    case inr => exact congrArg Prod.snd (List.inj_on_of_nodup_map hn hc hx rfl)

namespace Extra

variable {settings : Settings} {base : Files}

theorem ne_test (e : Extra q settings []) : ∀ x ∈ e.test, standInPath folder a ≠ x.1 := by
  by_cases ht : settings.tests
  case neg => exact e.no_test ht ▸ List.forall_mem_nil _
  case pos =>
    obtain ⟨content, _, heq⟩ := e.tests ht
    rw [heq, List.forall_mem_singleton]
    intro h
    have hletter := congrArg (·.toList.head?) h
    simp [standInPath] at hletter

theorem ne_screens (e : Extra q settings []) : ∀ x ∈ e.screens, standInPath "models" a ≠ x.1 := by
  intro x hx
  obtain ⟨_, _, _, _, _, _, hpath, _⟩ := exists_of_forall₂ (e.screens_stand rfl).flip hx
  exact hpath ▸ models_ne_screens

theorem ne_models (e : Extra q settings []) : ∀ x ∈ e.models, standInPath "screens" a ≠ x.1 := by
  intro x hx
  obtain ⟨_, _, _, _, _, _, hpath, _⟩ := exists_of_forall₂ (e.models_stand rfl).flip hx
  exact hpath ▸ models_ne_screens.symm

-- The stand-ins for a kind of classes stay, whatever files they are added to.
theorem own (e : Extra q settings []) (hq : Datum.Named (k.migrations q) ns) (hn : ClassNames ns) :
    OwnFiles k.folder k.source (k.migrations q) ns
      fun path content => (path, content) ∈ base.putAll e.all := by
  cases k
  case models =>
    obtain ⟨hpaths, hown⟩ := ownFiles_of_standsIn hq (e.models_stand rfl)
    have hnodup : (e.models.map Prod.fst).Nodup := hpaths ▸ hn.nodup_paths
    refine OwnFiles.imp hown fun n content hx => ?_
    have hlast : ∀ x ∈ e.screens ++ e.test, standInPath "models" n ≠ x.1 :=
      List.forall_mem_append.mpr ⟨e.ne_screens, e.ne_test⟩
    have hall : e.all = [] ++ e.models ++ (e.screens ++ e.test) := List.append_assoc ..
    exact hall ▸ mem_putAll_amid hnodup (List.forall_mem_nil _) hlast hx
  case screens =>
    obtain ⟨hpaths, hown⟩ := ownFiles_of_standsIn hq (e.screens_stand rfl)
    have hnodup : (e.screens.map Prod.fst).Nodup := hpaths ▸ hn.nodup_paths
    exact OwnFiles.imp hown fun n content hx => mem_putAll_amid hnodup e.ne_models e.ne_test hx

end Extra

-- Workers that leave the values of a plan as they are leave its migrations.
theorem migrations_current {engine : Engine σ} {st : σ} (hkeep : ∀ d, engine.current st d = d) :
    k.migrations (p.numbered.map (engine.current st)) = k.migrations p := by
  cases k
  case models => exact List.map_id'' hkeep _
  case screens => exact List.map_id'' hkeep _

namespace Made

variable {engine : Engine σ} {caller : Caller σ} {settings : Settings} {modules : List Datum}
  {st st' : σ}

-- The stand-ins stay among the files that the workers make.
theorem own (m : Made engine caller p.numbered settings [] modules st st')
    (hkeep : ∀ d, engine.current st' d = d) (hp : Datum.Named (k.migrations p) ns)
    (hn : ClassNames ns) : OwnFiles k.folder k.source (k.migrations p) ns
      fun path content => (path, content) ∈ m.files := by
  have hfiles : m.files =
      (Files.putAll [] (filesOf m.core ++ m.answers.flatMap filesOf)).putAll m.extra.all :=
    Files.putAll_append
  rw [hfiles, ← migrations_current hkeep]
  exact m.extra.own ((migrations_current hkeep).symm ▸ hp) hn

theorem lookup_of_mem (m : Made engine caller p.numbered settings [] modules st st')
    (h : (path, content) ∈ m.files) : m.files.lookup path = some content :=
  lookup_of_nodup (Files.nodup_putAll List.nodup_nil) h

end Made

/-! The whole -/

-- What a run without sources writes for the classes of a kind, whatever its workers are: among its
-- files there is what stands in for each class at the path of its name.
def WritesOwn (p : Schema) (k : ClassKind) (ns : List String) : Prop :=
  ∀ {σ : Type} {engine : Engine σ} {caller : Option (Caller σ)} {settings : Settings}
    {out : Location} {st st' : σ} {before after : Session} {r : RebuildResult},
    (execute (some engine) caller p settings out []).Ends st before (.ok r) st' after →
    (∀ d, engine.current st' d = d) →
    ∃ x : Ran (some engine) caller p settings out [] st st' before after r,
      OwnFiles k.folder k.source (k.migrations p) ns fun path content =>
        x.made.files.lookup path = some content

theorem writesOwn (hp : Datum.Named (k.migrations p) ns) (hn : ClassNames ns) :
    WritesOwn p k ns := by
  intro σ engine caller settings out st st' before after r h hkeep
  have ⟨x⟩ := execute_returns h
  have hworker : x.worker = engine := (Option.some.inj (mem_of_checkWorkers x.workers)).symm
  have hkeep : ∀ d, x.worker.current st' d = d := by rwa [hworker]
  exact ⟨x, (x.made.own hkeep hp hn).imp fun _ _ => x.made.lookup_of_mem⟩

-- Whether a file is found in the output folder after a run.
def Stored (before after : Session) (out path content : String) : Prop :=
  after.disk.content? ((.ofText out ++ .ofText path : Location).reach before.cwd) =
    some content.toUTF8.toList

-- Classes with different names come to different outputs.
--
-- Their names are different in words. So the plan of a snapshot whose models, or screens, have
-- different names has different tables for them and lists different paths, and a run without
-- sources writes a stand-in of its own for each of them, which is found there once it is done.
theorem classes_apart :
    (∀ a b : String, isClassName a → isClassName b → (snakeCase a = snakeCase b ↔ a = b)) ∧
    (∀ a b : String, standInPath "models" a ≠ standInPath "screens" b) ∧
    (∀ (s : Snapshot) (o : Options) (p : Schema) (k : ClassKind) (ns : List String),
      Schema.ofSnapshot s o = .ok p → ¬o.keepModels.truthy →
      k.names s = ns.map .text → ClassNames ns →
      Datum.Named (k.migrations p) ns ∧
      p.generation.get? k.folder = some (.texts (ns.map (standInPath k.folder))) ∧
      (ns.map (standInPath k.folder)).Nodup ∧ WritesOwn p k ns ∧
      (k = .models → (ns.map snakeCase).Nodup ∧
        ∃ modules, Plan.chooseModules s o = .ok modules ∧ Datum.Named p.tables
          (if modules.any (Datum.same "drift") then ns.map snakeCase else []))) ∧
    ∀ (s : Snapshot) (o : Options) (settings : Settings) (out : String) (before made : Session),
      s.Typed → o.Typed → settings.NoFinish →
      Ends (makeOutput (.ofText out)) before (.ok ()) made →
      ∃ (p : Schema) (r : RebuildResult) (l : Ledger) (after : Session),
        Schema.ofSnapshot s o = .ok p ∧
        (perform (some .ledger) (some .ledger) p settings out []).Ends {} before (.ok r) l after ∧
        r.success ∧ (∀ d, l.current d = d) ∧
        (Unrefused p r → ∀ (k : ClassKind) (ns : List String),
          k.names s = ns.map .text → ClassNames ns →
          OwnFiles k.folder k.source (k.migrations p) ns (Stored before after out)) := by
  refine ⟨fun a b => snakeCase_className_inj, fun a b => models_ne_screens, ?plans, ?runs⟩
  case plans =>
    intro s o p k ns hp hk hs hn
    obtain ⟨hnamed, hlisted⟩ := Schema.classes_ofSnapshot hp hs hn.nodup
    refine ⟨hnamed, hlisted hk, hn.nodup_paths, writesOwn hnamed hn, ?tables⟩
    rintro rfl
    exact ⟨hn.nodup_words, Schema.tables_ofSnapshot hp hk hs hn.nodup⟩
  case runs =>
    intro s o settings out before made hs ho hsettings hout
    obtain ⟨p, f, project, cs, files, r, after, hp, -, hproduced, hproduce, hends, hsuccess,
      hwritten⟩ := exists_perform hs.fits ho.fits hsettings hout
    obtain ⟨m, -, -, rfl, -⟩ := produce_returns hproduce
    refine ⟨p, r, _, after, hp, hends, hsuccess, fun _ => rfl, fun hw k ns hk hn => ?_⟩
    have hnamed := (Schema.classes_ofSnapshot hp hk hn.nodup).1
    have hkeep (d : Datum) : Engine.ledger.current (Ledger.holding project cs) d = d := rfl
    exact (m.own hkeep hnamed hn).imp fun n content hx =>
      content?_of_written hproduced.nodup hproduced.plain (hwritten hw) hx

-- A project with two models, one of them called by the first word of the other, and a screen.
def market : Snapshot :=
  { shop with
    models := [{ name := "User", file := "lib/user.dart" },
      { name := "UserProfile", file := "lib/user.dart" }]
    screens := [{ name := "HomeScreen", file := "lib/home.dart" }] }

theorem typed_market : market.Typed :=
  { typed_shop with
    models := by
      have hmodel {n : String} (hn : isIdentifier n) :
          Model.Typed { name := .text n, file := "lib/user.dart" } :=
        ⟨⟨_, rfl, hn⟩, ⟨_, rfl⟩, nofun, nofun⟩
      simp only [market, List.forall_mem_cons]
      exact ⟨hmodel (by decide +kernel), hmodel (by decide +kernel), List.forall_mem_nil _⟩
    screens := List.forall_mem_singleton.mpr ⟨⟨_, rfl, by decide +kernel⟩, ⟨_, rfl⟩⟩ }

-- Options with which its models are made anew and no module is added.
def marketOptions : Options :=
  { keepModels := .bool false
    excludedModules := .list ["drift", "pwa", "design", "api", "state"] }

theorem typed_marketOptions : marketOptions.Typed where
  encryption := ⟨_, rfl⟩
  architecture := ⟨_, rfl⟩
  state := ⟨_, rfl⟩
  extraModules := ⟨_, rfl, List.forall_mem_nil _⟩
  excludedModules := ⟨_, rfl, by simp [Datum.IsText]⟩

theorem classes_apart_market :
    ClassNames ["User", "UserProfile"] ∧ ClassNames ["HomeScreen"] ∧
    snakeCase "User" ≠ snakeCase "UserProfile" ∧
    ∃ (p : Schema) (r : RebuildResult) (l : Ledger) (after : Session),
      Schema.ofSnapshot market marketOptions = .ok p ∧
      p.generation.get? "models" =
        some (.texts ["lib/models/user.dart", "lib/models/user_profile.dart"]) ∧
      p.generation.get? "screens" = some (.texts ["lib/screens/home_screen.dart"]) ∧
      (perform (some .ledger) (some .ledger) p {} "out" []).Ends {} workFolder (.ok r) l after ∧
      (∃ x : Ran (some .ledger) (some .ledger) p {} (.ofText "out") [] {} l workFolder after r,
        OwnFiles "models" Placeholder.model p.models ["User", "UserProfile"] fun path content =>
          x.made.files.lookup path = some content) ∧
      OwnFiles "models" Placeholder.model p.models ["User", "UserProfile"]
        (Stored workFolder after "out") ∧
      OwnFiles "screens" Placeholder.screen p.screens ["HomeScreen"]
        (Stored workFolder after "out") := by
  have h : (Schema.ofSnapshot market marketOptions).toOption.any fun p =>
      plannedFits p {} "out" [] := by
    decide +kernel
  have hmodels : ClassNames ["User", "UserProfile"] := ⟨by decide, by decide⟩
  have hscreens : ClassNames ["HomeScreen"] := ⟨by decide, by decide⟩
  obtain ⟨made, hout, _⟩ := exists_output_workFolder
  obtain ⟨hinj, -, hplan, hrun⟩ := classes_apart
  obtain ⟨p, r, l, after, hp, hends, hsuccess, hkeep, hstored⟩ :=
    hrun market marketOptions {} "out" workFolder made typed_market typed_marketOptions ⟨rfl, rfl⟩
      hout
  obtain ⟨p', hp', hfits⟩ := any_toOption.mp h
  obtain rfl := Except.ok.inj (hp'.symm.trans hp)
  have hfound := hstored (unrefused_of_warnings_eq
    (warnings_workFolder typed_market.fits typed_marketOptions.fits hp hfits hends))
  obtain ⟨-, hlisted, -, hwrites, -⟩ :=
    hplan market marketOptions p' .models _ hp (by decide) rfl hmodels
  obtain ⟨-, hlisted', -⟩ := hplan market marketOptions p' .screens _ hp (by decide) rfl hscreens
  have hwords : snakeCase "User" ≠ snakeCase "UserProfile" :=
    mt (hinj _ _ (by decide) (by decide)).mp (by decide)
  exact ⟨hmodels, hscreens, hwords, p', r, l, after, hp, hlisted, hlisted', hends,
    hwrites (execute_of_success hends hsuccess) hkeep, hfound .models _ rfl hmodels,
    hfound .screens _ rfl hscreens⟩

end Rebuild

end Refit
