import Mathlib.Data.List.Basic
import Mathlib.Data.List.Forall2
import Refit.Proofs.Session.Ends

/-!
What the workers make of a plan: the files of the engine's answers in turn, then the stand-ins and
the first test. Of several files at one path the last one counts.
-/

namespace Refit

namespace Files

variable {fs gs : Files} {x : String × String} {p q content : String}

theorem lookup_put :
    (fs.put p content).lookup q = if q = p then some content else List.lookup q fs := by
  induction fs
  case nil => exact lookup_cons_ite
  case cons f fs ih =>
    have ⟨k, c⟩ := f
    rw [put]
    exact lookup_put_step beq_iff_eq ih

theorem mem_keys_put : q ∈ (fs.put p content).map Prod.fst ↔ q = p ∨ q ∈ fs.map Prod.fst := by
  induction fs
  case nil => simp [put]
  case cons f fs ih =>
    have ⟨k, c⟩ := f
    rw [put]
    split
    case isTrue h => simp [eq_of_beq h]
    case isFalse => rw [List.map_cons, List.mem_cons, ih, List.map_cons, List.mem_cons, or_left_comm]

theorem mem_keys_putAll :
    q ∈ (fs.putAll gs).map Prod.fst ↔ q ∈ fs.map Prod.fst ∨ q ∈ gs.map Prod.fst := by
  induction gs generalizing fs
  case nil => simp [putAll]
  case cons g gs ih =>
    change q ∈ ((fs.put g.1 g.2).putAll gs).map Prod.fst ↔ _
    rw [ih, mem_keys_put, List.map_cons, List.mem_cons, or_assoc, or_left_comm]

theorem nodup_put (h : (fs.map Prod.fst).Nodup) : ((fs.put p content).map Prod.fst).Nodup := by
  induction fs
  case nil => simp [put]
  case cons f fs ih =>
    have ⟨k, c⟩ := f
    have ⟨hk, hfs⟩ := List.nodup_cons.mp h
    rw [put]
    split
    case isTrue => exact h
    case isFalse hne =>
      refine List.nodup_cons.mpr ⟨fun hmem => ?_, ih hfs⟩
      rcases mem_keys_put.mp hmem with rfl | hmem
      · exact hne (beq_self_eq_true _)
      · exact hk hmem

theorem putAll_append {hs : Files} : fs.putAll (gs ++ hs) = (fs.putAll gs).putAll hs :=
  List.foldl_append

theorem nodup_putAll (h : (fs.map Prod.fst).Nodup) : ((fs.putAll gs).map Prod.fst).Nodup := by
  induction gs generalizing fs
  case nil => exact h
  case cons g gs ih => exact ih (nodup_put h)

-- The last file at a path counts, wherever the path came up first.
theorem lookup_putAll :
    (fs.putAll gs).lookup q = (gs.reverse.lookup q).or (List.lookup q fs) := by
  induction gs generalizing fs
  case nil => simp [putAll]
  case cons g gs ih =>
    have ⟨k, c⟩ := g
    change ((fs.put k c).putAll gs).lookup q = _
    rw [ih, lookup_put, List.reverse_cons, List.lookup_append, Option.or_assoc, lookup_cons_ite]
    split <;> simp

theorem mem_of_mem_put (h : x ∈ fs.put p content) : x = (p, content) ∨ x ∈ fs := by
  induction fs
  case nil => exact .inl (List.mem_singleton.mp h)
  case cons f fs ih =>
    have ⟨k, d⟩ := f
    rw [put] at h
    split at h
    case isTrue hq =>
      rcases List.mem_cons.mp h with rfl | h
      · exact .inl (by rw [eq_of_beq hq])
      · exact .inr (.tail _ h)
    case isFalse =>
      rcases List.mem_cons.mp h with rfl | h
      · exact .inr (.head _)
      · exact (ih h).imp_right (.tail _)

theorem mem_of_mem_putAll (h : x ∈ fs.putAll gs) : x ∈ fs ∨ x ∈ gs := by
  induction gs generalizing fs
  case nil => exact .inl h
  case cons g gs ih =>
    rcases ih h with h | h
    · rcases mem_of_mem_put h with rfl | h
      · exact .inr (.head _)
      · exact .inl h
    · exact .inr (.tail _ h)

-- A file is kept if all files at its path are the same.
theorem mem_putAll_of_forall (hx : (p, content) ∈ gs)
    (h : ∀ c, (p, c) ∈ gs → c = content) : (p, content) ∈ fs.putAll gs := by
  have hl : List.lookup p (fs.putAll gs) = some content := by
    rw [lookup_putAll, lookup_of_forall (List.mem_reverse.mpr hx) fun c hc =>
      h c (List.mem_reverse.mp hc), Option.some_or]
  have ⟨_, _, hs, _⟩ := List.lookup_eq_some_iff.mp hl
  exact hs ▸ List.mem_append_right _ (.head _)

end Files

namespace Rebuild

variable {σ : Type} {engine : Engine σ} {caller : Caller σ} {s : Schema} {entries : Dict}
  {project : Datum} {modules configured : List Datum} {files : Files} {ws : List String} {n : Nat}
  {st st' : σ}

/-! Modules -/

-- The warnings about modules with which a step failed, each with the reason.
def warningsOf (step : String) (failed : List (Datum × String)) : Datum.Read (List String) :=
  failed.mapM fun (m, reason) => moduleWarning m step reason

theorem warningsOf_cons {step reason w : String} {failed : List (Datum × String)} {m : Datum} :
    warningsOf step ((m, reason) :: failed) = .ok (w :: ws) ↔
      moduleWarning m step reason = .ok w ∧ warningsOf step failed = .ok ws := by
  simp only [warningsOf, mapM_eq_ok, List.forall₂_cons]

-- A module that is not configured is left out, and no order is changed.
theorem configure_sublist
    (h : Ends (configure engine caller s entries project modules) st (.ok (configured, ws)) st') :
    configured.Sublist modules := by
  induction modules generalizing configured ws st st'
  case nil =>
    have ⟨hr, _⟩ := Ends.pure_ok_iff.mp h
    have ⟨hc, _⟩ := Prod.mk.inj hr
    exact hc ▸ .slnil
  case cons m ms ih =>
    have ⟨r, t, _, h⟩ := Ends.bind_ok_iff.mp h
    have ⟨w, u, _, h⟩ := Ends.bind_ok_iff.mp h
    have ⟨⟨done, vs⟩, v, hrest, h⟩ := Ends.bind_ok_iff.mp h
    have ih := ih hrest
    cases w
    case none =>
      have ⟨hr, _⟩ := Ends.pure_ok_iff.mp h
      have ⟨hc, _⟩ := Prod.mk.inj hr
      exact hc ▸ ih.cons_cons m
    case some =>
      have ⟨hr, _⟩ := Ends.pure_ok_iff.mp h
      have ⟨hc, _⟩ := Prod.mk.inj hr
      exact hc ▸ ih.cons m

-- The engine answers requests for the files of a project, or of modules of it, in turn.
inductive Answers (engine : Engine σ) (project : Datum) :
    List (Option Datum) → σ → List (Except Stop Files) → σ → Prop
  | nil {t : σ} : Answers engine project [] t [] t
  | cons {which : Option Datum} {rest : List (Option Datum)} {r : Except Stop Files}
      {rs : List (Except Stop Files)} {t u v : σ} : Ends (engine.generate project which) t r u →
      Answers engine project rest u rs v → Answers engine project (which :: rest) t (r :: rs) v

-- The files of an answer, none where the engine failed.
def filesOf (answer : Except Stop Files) : Files :=
  answer.toOption.getD []

-- The modules whose files the engine did not answer with, each with the reason.
def ungenerated : List Datum → List (Except Stop Files) → List (Datum × String)
  | m :: ms, .error e :: answers => (m, e.message) :: ungenerated ms answers
  | _ :: ms, .ok _ :: answers => ungenerated ms answers
  | _, _ => []

theorem generateModules_returns {files' : Files}
    (h : Ends (generateModules engine project modules files) st (.ok (files', n, ws)) st') :
    ∃ answers, Answers engine project (modules.map some) st answers st' ∧
      files' = files.putAll (answers.flatMap filesOf) ∧ n = answers.countP (·.isOk) ∧
      warningsOf "generation" (ungenerated modules answers) = .ok ws := by
  induction modules generalizing files files' n ws st
  case nil =>
    have ⟨hr, hs⟩ := Ends.pure_ok_iff.mp h
    obtain ⟨rfl, rfl, rfl⟩ : files' = files ∧ n = 0 ∧ ws = [] := by simpa using hr
    exact ⟨[], hs ▸ .nil, rfl, rfl, rfl⟩
  case cons m ms ih =>
    have ⟨r, t, hg, h⟩ := Ends.bind_ok_iff.mp h
    have hg := Work.outcome_iff.mp hg
    rcases r with e | own
    case ok =>
      have ⟨⟨fs, k, vs⟩, u, hrest, h⟩ := Ends.bind_ok_iff.mp h
      have ⟨hr, hs⟩ := Ends.pure_ok_iff.mp h
      obtain ⟨rfl, rfl, rfl⟩ : files' = fs ∧ n = k + 1 ∧ ws = vs := by simpa using hr
      have ⟨answers, ha, hf, hn, hw⟩ := ih (hs ▸ hrest)
      refine ⟨.ok own :: answers, .cons hg ha, ?_, ?_, hw⟩
      · rw [hf, List.flatMap_cons, Files.putAll_append]
        rfl
      · rw [hn, List.countP_cons_of_pos rfl]
    case error =>
      have ⟨w, u, hw, h⟩ := Ends.bind_ok_iff.mp h
      have ⟨⟨fs, k, vs⟩, v, hrest, h⟩ := Ends.bind_ok_iff.mp h
      have ⟨hr, hs⟩ := Ends.pure_ok_iff.mp h
      obtain ⟨rfl, rfl, rfl⟩ : files' = fs ∧ n = k ∧ ws = w :: vs := by simpa using hr
      have ⟨hw, hu⟩ := Work.ofRead_ok_iff.mp hw
      have ⟨answers, ha, hf, hn, hws⟩ := ih (hs ▸ hrest)
      refine ⟨.error e :: answers, .cons (hu ▸ hg) ha, ?_, ?_, warningsOf_cons.mpr ⟨hw, hws⟩⟩
      · rw [hf]
        rfl
      · rw [hn, List.countP_cons_of_neg (by simp [Except.isOk, Except.toBool])]

-- The warning about the files of the project itself.
def coreWarnings : Except Stop Files → List String
  | .ok _ => []
  | .error e => ["Core file generation failed: " ++ e.message]

theorem generate_returns
    (h : Ends (generate engine project configured) st (.ok (files, n, ws)) st') :
    ∃ core answers ws',
      Answers engine project (none :: configured.map some) st (core :: answers) st' ∧
      files = Files.putAll [] (filesOf core ++ answers.flatMap filesOf) ∧
      n = answers.countP (·.isOk) ∧
      warningsOf "generation" (ungenerated configured answers) = .ok ws' ∧
      ws = coreWarnings core ++ ws' := by
  have ⟨r, t, hg, h⟩ := Ends.bind_ok_iff.mp h
  have hg := Work.outcome_iff.mp hg
  rcases r with e | core
  case ok =>
    have ⟨answers, ha, hf, hn, hw⟩ := generateModules_returns h
    exact ⟨.ok core, answers, ws, .cons hg ha, by rw [hf, Files.putAll_append]; rfl, hn, hw, rfl⟩
  case error =>
    have ⟨⟨fs, k, vs⟩, u, hrest, h⟩ := Ends.bind_ok_iff.mp h
    have ⟨hr, hs⟩ := Ends.pure_ok_iff.mp h
    obtain ⟨rfl, rfl, rfl⟩ : files = fs ∧ n = k ∧ ws = _ := by simpa using hr
    have ⟨answers, ha, hf, hn, hw⟩ := generateModules_returns (hs ▸ hrest)
    exact ⟨.error e, answers, vs, .cons hg ha, hf, hn, hw, rfl⟩

/-! Stand-ins -/

-- A file that stands in for a class: its path is made from the name, in the folder of its kind.
def StandsIn (folder : String) (source : Datum → Datum.Read String) (migration : Datum)
    (file : String × String) : Prop :=
  ∃ name word, migration.field "name" = .ok name ∧ Column.snakeOf name = .ok word ∧
    file.1 = "lib/" ++ folder ++ "/" ++ word ++ ".dart" ∧ source migration = .ok file.2

theorem standIns_returns {folder : String} {source : Datum → Datum.Read String}
    {migrations : List Datum} (h : standIns folder source migrations = .ok files) :
    List.Forall₂ (StandsIn folder source) migrations files := by
  refine (mapM_eq_ok.mp h).imp fun m f hf => ?_
  simp only [bind_eq_ok, pure_eq_ok] at hf
  have ⟨content, hc, name, hn, word, hw, hf⟩ := hf
  exact ⟨name, word, hn, hw, hf ▸ rfl, hf ▸ hc⟩

-- The files beside those of the engine.
structure Extra (s : Schema) (settings : Settings) (kept : Groups) where
  models : Files
  screens : Files
  test : Files
  models_stand : (kept.get "models").isEmpty →
    List.Forall₂ (StandsIn "models" Placeholder.model) s.models models
  no_models : ¬(kept.get "models").isEmpty → models = []
  screens_stand : (kept.get "screens").isEmpty →
    List.Forall₂ (StandsIn "screens" Placeholder.screen) s.screens screens
  no_screens : ¬(kept.get "screens").isEmpty → screens = []
  tests : settings.tests →
    ∃ content, Placeholder.smokeTest s.name = .ok content ∧ test = [("test/widget_test.dart", content)]
  no_test : ¬settings.tests → test = []

variable {settings : Settings} {kept : Groups}

-- The files beside those of the engine, the stand-ins first.
def Extra.all (e : Extra s settings kept) : Files :=
  e.models ++ e.screens ++ e.test

theorem extras_eq : extras s settings kept =
    ((if (kept.get "models").isEmpty then standIns "models" Placeholder.model s.models
      else pure []) >>= fun models =>
    (if (kept.get "screens").isEmpty then standIns "screens" Placeholder.screen s.screens
      else pure []) >>= fun screens =>
    (if settings.tests then
        Placeholder.smokeTest s.name >>= fun content => pure [("test/widget_test.dart", content)]
      else pure []) >>= fun test =>
    pure (models ++ screens ++ test)) := by
  rw [extras]
  split <;> split <;> split <;> simp

-- Files that are made under a condition, and none otherwise.
theorem made_if_eq_ok {b : Bool} {x : Datum.Read Files}
    (h : (if b then x else pure []) = .ok files) :
    (b → x = .ok files) ∧ (¬b → files = []) := by
  cases b
  case true => exact ⟨fun _ => h, fun hb => absurd rfl hb⟩
  case false => exact ⟨nofun, fun _ => (pure_eq_ok.mp h).symm⟩

theorem extras_returns (h : extras s settings kept = .ok files) :
    ∃ e : Extra s settings kept, files = e.all := by
  simp only [extras_eq, bind_eq_ok, pure_eq_ok] at h
  have ⟨models, hm, screens, hs, test, ht, h⟩ := h
  have ⟨hm, hnomodels⟩ := made_if_eq_ok hm
  have ⟨hs, hnoscreens⟩ := made_if_eq_ok hs
  have ⟨ht, hnotest⟩ := made_if_eq_ok ht
  refine ⟨⟨models, screens, test, ?models, hnomodels, ?screens, hnoscreens, ?test, hnotest⟩, h.symm⟩
  case models => exact fun hk => standIns_returns (hm hk)
  case screens => exact fun hk => standIns_returns (hs hk)
  case test =>
    intro hk
    have ⟨content, hc, ht⟩ := bind_eq_ok.mp (ht hk)
    exact ⟨content, hc, (pure_eq_ok.mp ht).symm⟩

end Rebuild

end Refit
