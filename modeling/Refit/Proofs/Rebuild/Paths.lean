import Refit.Proofs.Plan.Worded
import Refit.Proofs.Rebuild.Alike
import Refit.Proofs.Rebuild.Execution
import Refit.Proofs.Rebuild.Failing
import Refit.Proofs.Rebuild.Sources

/-!
The paths of the files that are made of a plan: they lead below the output folder, unless a module
has a name that leads elsewhere.
-/

namespace Refit

-- A path that leads below the folder that it is taken from.
structure Path.Inward (path : String) : Prop where
  relative : Path.root? path.toList = none
  forward : ".." ∉ Path.steps path

theorem Location.Apart.append_ofText {off : List String → Prop} {cwd : List String} {out : Location}
    {path : String} (h : out.Apart off cwd) (hp : Path.Inward path) :
    (out ++ .ofText path).Avoids off cwd :=
  h.append hp.relative hp.forward

/-! Files of the engine -/

namespace Output

variable {p : ProjectRecord} {m : Datum} {c : Dict} {fs : Files}

theorem inward_core (h : core p = .ok fs) : ∀ f ∈ fs, Path.Inward f.1 := by
  simp only [core, bind_eq_ok, pure_eq_ok] at h
  obtain ⟨_, _, _, _, _, _, _, _, _, _, rfl⟩ := h
  simp only [List.forall_mem_cons]
  exact ⟨⟨by decide +kernel, by decide +kernel⟩, ⟨by decide +kernel, by decide +kernel⟩,
    ⟨by decide +kernel, by decide +kernel⟩, ⟨by decide +kernel, by decide +kernel⟩,
    List.forall_mem_nil _⟩

theorem inward_sourceOf (h : sourceOf m c = .ok fs) : ∀ f ∈ fs, Path.Inward f.1 := by
  have hone {path : String} {x : Datum.Read String} (hp : Path.Inward path)
      (h : (do return [(path, ← x)]) = Except.ok fs) : ∀ f ∈ fs, Path.Inward f.1 := by
    obtain ⟨content, _, h⟩ := bind_eq_ok.mp h
    exact pure_eq_ok.mp h ▸ List.forall_mem_singleton.mpr hp
  rw [sourceOf.eq_def] at h
  split at h
  case h_1 => exact hone ⟨by decide +kernel, by decide +kernel⟩ h
  case h_2 => exact hone ⟨by decide +kernel, by decide +kernel⟩ h
  case h_3 => exact hone ⟨by decide +kernel, by decide +kernel⟩ h
  case h_4 => exact hone ⟨by decide +kernel, by decide +kernel⟩ h
  case h_5 =>
    split at h
    · exact hone ⟨by decide +kernel, by decide +kernel⟩ h
    · exact hone ⟨by decide +kernel, by decide +kernel⟩ h
  case h_6 => exact pure_eq_ok.mp h ▸ List.forall_mem_nil _

-- The files of a module, apart from the document of its configuration.
theorem inward_module (h : module m c = .ok fs) {f : String × String} (hf : f ∈ fs) :
    Path.Inward f.1 ∨ ∃ t, m.toText = .ok t ∧ f.1 = configPath t := by
  simp only [module, bind_eq_ok, pure_eq_ok] at h
  obtain ⟨t, ht, _, _, sources, hsources, rfl⟩ := h
  rcases List.mem_cons.mp hf with rfl | hf
  · exact .inr ⟨t, ht, rfl⟩
  · exact .inl (inward_sourceOf hsources f hf)

theorem inward_generate {l : Ledger} {id : Datum} {which : Option Datum}
    (h : generate l id which = .ok fs) {f : String × String} (hf : f ∈ fs) :
    Path.Inward f.1 ∨ ∃ m ∈ which, ∃ t, m.toText = .ok t ∧ f.1 = configPath t := by
  obtain ⟨p, _, hfiles⟩ := bind_eq_ok.mp h
  rcases which with _ | m
  case none => exact .inl (inward_core hfiles f hf)
  case some =>
    obtain ⟨k, hk, hown⟩ := bind_eq_ok.mp hfiles
    obtain ⟨rfl, _⟩ := Datum.asKey_eq_ok.mp (mapError_eq_ok.mp hk)
    split at hown
    case h_1 => cases hown
    case h_2 => exact (inward_module (mapError_eq_ok.mp hown) hf).imp_right fun ht => ⟨_, rfl, ht⟩

-- The modules that a plan has of its own have names that lead below the output folder.
theorem inward_ownModules : ∀ m ∈ Plan.ownModules, Path.Inward (configPath m) := by
  simp only [Plan.ownModules, List.forall_mem_cons]
  exact ⟨⟨by decide +kernel, by decide +kernel⟩, ⟨by decide +kernel, by decide +kernel⟩,
    ⟨by decide +kernel, by decide +kernel⟩, ⟨by decide +kernel, by decide +kernel⟩,
    ⟨by decide +kernel, by decide +kernel⟩, List.forall_mem_nil _⟩

end Output

/-! Stand-ins -/

namespace Datum

variable {store : Store} {n : Nat} {outer : List Nat} {d : Datum}

theorem currentFrom_text {w : String} : currentFrom store n outer (text w) = text w := by
  cases n <;> rfl

-- Adding to lists leaves the name of a class as it is.
theorem NamesClass.current (h : d.NamesClass) : (d.current store).NamesClass := by
  obtain ⟨fs, name, rfl, hname, hslash⟩ := h
  rw [Datum.current]
  split
  case isTrue => exact ⟨fs, name, rfl, hname, hslash⟩
  case isFalse =>
    generalize (record fs :: store.flatMap Prod.snd).foldl (fun n x => n + x.depth + 1) 0 = m
    refine ⟨fs.map fun f => (f.1, currentFrom store (2 * m + 1) [] f.2), name, ?_, ?_, hslash⟩
    · simp [currentFrom, record]
    · induction fs
      case nil => cases hname
      case cons f fs ih =>
        rw [lookup_cons_ite] at hname
        rw [List.map_cons, lookup_cons_ite]
        split at hname
        case isTrue hkey => rw [if_pos hkey, Option.some.inj hname, currentFrom_text]
        case isFalse hkey => rw [if_neg hkey, ih hname]

end Datum

namespace Rebuild

variable {off : List String → Prop} {cwd : List String} {out : Location} {settings : Settings}
  {kept : Groups} {s : Schema}

theorem inward_standIns {folder : String} {source : Datum → Datum.Read String} {ds : List Datum}
    {fs : Files} (hd : ∀ d ∈ ds, d.NamesClass) (hfolder : Path.isPlain folder)
    (h : List.Forall₂ (StandsIn folder source) ds fs) : ∀ f ∈ fs, Path.Inward f.1 := by
  induction h
  case nil => exact List.forall_mem_nil _
  case cons d f ds fs hf _ ih =>
    obtain ⟨hdown, hds⟩ := List.forall_mem_cons.mp hd
    refine List.forall_mem_cons.mpr ⟨?_, ih hds⟩
    obtain ⟨name, word, hname, hword, hpath, _⟩ := hf
    obtain ⟨_, w, rfl, hw, hslash⟩ := hdown
    obtain rfl := Except.ok.inj (hname.symm.trans (Datum.field_record hw))
    obtain rfl := Except.ok.inj hword
    obtain ⟨hsegment, hforward⟩ := @Path.forward_append (snakeCase w) ".dart"
      (not_mem_snakeCase (by decide) hslash) (by decide +kernel) (by decide)
    obtain ⟨hcounts, hup, hproper, _⟩ := Path.isPlain_iff.mp hfolder
    have hsegments : Path.Proper ["lib", folder, snakeCase w ++ ".dart"] := by
      simp only [Path.Proper, List.forall_mem_cons]
      exact ⟨by decide, ⟨hcounts, hproper⟩, hsegment, List.forall_mem_nil _⟩
    rw [hpath, standIn_path]
    refine ⟨Path.root?_eq_none (Path.head?_joining hsegments), ?_⟩
    rw [Path.steps_joining hsegments]
    simp [hup.symm, hforward.symm]

theorem inward_extra {e : Extra s settings kept} (hm : ∀ d ∈ s.models, d.NamesClass)
    (hc : ∀ d ∈ s.screens, d.NamesClass) : ∀ f ∈ e.all, Path.Inward f.1 := by
  have hgiven {b : Bool} {fs : Files} (h₁ : b → ∀ f ∈ fs, Path.Inward f.1) (h₂ : ¬b → fs = []) :
      ∀ f ∈ fs, Path.Inward f.1 := by
    cases b
    case true => exact h₁ rfl
    case false => exact h₂ (by decide) ▸ List.forall_mem_nil _
  rw [Extra.all, List.forall_mem_append, List.forall_mem_append]
  refine ⟨⟨hgiven (fun hk => ?_) e.no_models, hgiven (fun hk => ?_) e.no_screens⟩,
    hgiven (fun hk => ?_) e.no_test⟩
  · exact inward_standIns hm (by decide +kernel) (e.models_stand hk)
  · exact inward_standIns hc (by decide +kernel) (e.screens_stand hk)
  · obtain ⟨content, _, htest⟩ := e.tests hk
    have hpath : Path.Inward "test/widget_test.dart" := ⟨by decide +kernel, by decide +kernel⟩
    exact htest ▸ List.forall_mem_singleton.mpr hpath

/-! The whole -/

-- What the engine answers with leads below the output folder, the documents of modules apart.
theorem inward_answers {project : Datum} {which : List (Option Datum)} {l l' : Ledger}
    {answers : List (Except Stop Files)} (h : Answers .ledger project which l answers l')
    {f : String × String} (hf : f ∈ answers.flatMap filesOf) :
    Path.Inward f.1 ∨ ∃ m, some m ∈ which ∧ ∃ t, m.toText = .ok t ∧ f.1 = Output.configPath t := by
  induction h
  case nil => cases hf
  case cons r rs t u v hr _ ih =>
    rw [List.flatMap_cons, List.mem_append] at hf
    rcases hf with hf | hf
    case inl =>
      cases r
      case ok fs =>
        rcases Output.inward_generate (Prod.mk.inj hr).1 hf with hf | ⟨m, hm, ht⟩
        · exact .inl hf
        · exact .inr ⟨m, hm ▸ .head _, ht⟩
      case error => cases hf
    case inr => exact (ih hf).imp_right fun ⟨m, hm, ht⟩ => ⟨m, .tail _ hm, ht⟩

-- Of the plan's own classes and modules nothing is written at the places, if no module has a name
-- that leads there.
theorem clears_ledger (h : out.Apart off cwd) (hm : ∀ d ∈ s.models, d.NamesClass)
    (hc : ∀ d ∈ s.screens, d.NamesClass)
    (hmodules : ∀ ids, s.moduleIds = .ok ids → ∀ m ∈ ids, ∀ t, m.toText = .ok t →
      (out ++ .ofText (Output.configPath t)).Avoids off cwd) :
    Clears off cwd (some .ledger) (some .ledger) s settings out kept := by
  intro ids e c hids hworkers st p st' hp x hx
  obtain rfl := Option.some.inj (mem_of_checkWorkers hworkers)
  obtain ⟨made, _, _, hfiles, _⟩ := produce_returns hp
  rw [hfiles] at hx
  have hx := (Files.mem_of_mem_putAll hx).resolve_left List.not_mem_nil
  rw [Made.sources, ← List.flatMap_cons, List.mem_append] at hx
  rcases hx with hx | hx
  case inl =>
    rcases inward_answers made.answered hx with hx | ⟨m, hm, t, ht, hpath⟩
    case inl => exact h.append_ofText hx
    case inr =>
      obtain ⟨_, hconfigured, heq⟩ := List.mem_map.mp ((List.mem_cons.mp hm).resolve_left nofun)
      have hmem := (configure_sublist made.configures).subset hconfigured
      exact hpath ▸ hmodules ids hids m (Option.some.inj heq ▸ hmem) t ht
  case inr =>
    refine h.append_ofText (inward_extra (List.forall_mem_map.mpr fun d hd => ?_)
      (List.forall_mem_map.mpr fun d hd => ?_) x hx)
    · exact (hm d hd).current
    · exact (hc d hd).current

-- Of a plan in words nothing is written at the places, if none of the added modules has a name that
-- leads there.
theorem clears_of_worded {extra : List String} (h : out.Apart off cwd) (hw : s.Worded extra)
    (hextra : ∀ m ∈ extra, (out ++ .ofText (Output.configPath m)).Avoids off cwd) :
    Clears off cwd (some .ledger) (some .ledger) s settings out kept := by
  refine clears_ledger h hw.models hw.screens fun ids hids m hm t ht => ?_
  obtain ⟨ms, hms, hown⟩ := hw.modules
  obtain rfl := Except.ok.inj (hids.symm.trans hms)
  obtain ⟨n, hn, rfl⟩ := List.mem_map.mp hm
  obtain rfl := Except.ok.inj (Datum.toText_text.symm.trans ht)
  rcases hown n hn with hn | hn
  · exact h.append_ofText (Output.inward_ownModules n hn)
  · exact hextra n hn

end Rebuild

end Refit
