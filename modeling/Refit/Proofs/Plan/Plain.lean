import Refit.Proofs.Plan.Preservation
import Refit.Proofs.Project.Stored

/-!
Plans of plain snapshots, which are plain.

What a plan holds is taken from the snapshot and the options, or made of texts.
-/

namespace Refit

open Datum

variable {s : Snapshot} {o : Options} {m : Model} {d : Datum} {ds : List Datum}

theorem Datum.allPlain_texts {ss : List String} : AllPlain (ss.map text) :=
  allPlain_iff.mpr (List.forall_mem_map.mpr fun _ _ => trivial)

theorem Datum.ofOption_plain {α : Type} {f : α → Datum} {a : Option α} (h : ∀ x, (f x).Plain) :
    (ofOption f a).Plain := by
  cases a
  case none => trivial
  case some a => exact h a

namespace Plan

/-! Choices -/

theorem chooseArchitecture_plain {target : Datum} (hs : s.architecture.detected.Plain)
    (ht : target.Plain) : (chooseArchitecture s target).1.Plain := by
  rw [chooseArchitecture]
  split
  · split
    · trivial
    · rw [customAsLayers]
      split
      · trivial
      · exact hs
  · split
    · exact ht
    · trivial

theorem chooseState_plain {target : Datum} {c : Choice} (hs : s.dependencies.state.Plain)
    (ht : target.Plain) (h : chooseState s target = .ok c) : c.1.Plain := by
  rw [chooseState] at h
  split at h
  · exact pure_eq_ok.mp h ▸ ht
  · split at h
    · exact pure_eq_ok.mp h ▸ trivial
    · split at h
      · exact pure_eq_ok.mp h ▸ hs
      · split at h
        · exact pure_eq_ok.mp h ▸ trivial
        · have ⟨_, _, h⟩ := bind_eq_ok.mp h
          exact pure_eq_ok.mp h ▸ trivial

-- The modules that a plan may have without being asked for them.
def ownModules : List String :=
  ["drift", "pwa", "design", "api", "state"]

theorem mem_chooseModules {extra : List Datum} (ho : o.extraModules.items = .ok extra)
    (h : chooseModules s o = .ok ds) : ∀ d ∈ ds, (∃ m ∈ ownModules, d = text m) ∨ d ∈ extra := by
  simp only [chooseModules, bind_eq_ok, pure_eq_ok, mapM_asKey] at h
  obtain ⟨asked, hasked, _, ⟨rfl, _⟩, excluded, _, _, _, rfl⟩ := h
  obtain rfl : extra = asked := Except.ok.inj (ho.symm.trans hasked)
  have hown {m : String} (hm : m ∈ ownModules) :
      (∃ n ∈ ownModules, text m = text n) ∨ text m ∈ extra :=
    .inl ⟨m, hm, rfl⟩
  have hgiven {b : Bool} {m : String} (hm : m ∈ ownModules) : ∀ d ∈ if b then [text m] else [],
      (∃ n ∈ ownModules, d = text n) ∨ d ∈ extra := by
    cases b
    case true => exact List.forall_mem_singleton.mpr (hown hm)
    case false => exact nofun
  suffices hall : ∀ d ∈ _, (∃ m ∈ ownModules, d = text m) ∨ d ∈ extra from
    fun d hd => hall d (mem_of_mem_distinct (List.mem_filter.mp hd).1)
  simp only [List.forall_mem_append]
  refine ⟨⟨⟨⟨⟨hgiven ?_, hgiven ?_⟩, hgiven ?_⟩, hgiven ?_⟩,
    List.forall_mem_singleton.mpr (hown ?_)⟩, fun _ => .inr⟩
  all_goals decide

theorem chooseModules_plain (ho : o.extraModules.Plain) (h : chooseModules s o = .ok ds) :
    AllPlain ds := by
  obtain ⟨extra, hextra, _⟩ := bind_eq_ok.mp h
  refine allPlain_iff.mpr fun d hd => ?_
  rcases mem_chooseModules hextra h d hd with ⟨_, _, rfl⟩ | hd
  · trivial
  · exact items_plain ho hextra d hd

/-! The definition -/

theorem firstParts_plain {n : Nat} {e : Datum} (hd : d.Plain) (h : d.firstParts n = .ok e) :
    e.Plain := by
  have htake {xs : List Datum} (hxs : AllPlain xs) : AllPlain (xs.take n) :=
    allPlain_iff.mpr fun x hx => allPlain_iff.mp hxs x (List.mem_of_mem_take hx)
  rw [firstParts, opened_of_plain hd] at h
  cases d
  case text => cases h; trivial
  case bytes => cases h; trivial
  case list => cases h; exact htake hd
  case tuple => cases h; exact htake hd
  all_goals cases h

theorem offlineSection_plain (ho : o.encryption.Plain) : (offlineSection o).Plain := by
  rw [offlineSection]
  split
  case isTrue => simp [record_plain_iff, Plain, ho]
  case isFalse => trivial

theorem orElse_plain {e : Datum} (hd : d.Plain) (he : e.Plain) : (d.orElse e).Plain := by
  rw [Datum.orElse]
  split
  · exact hd
  · exact he

theorem definition_plain {architecture state : Datum} {es : Dict} (hname : s.name.Plain)
    (hdescription : s.description.Plain) (hversion : s.flutterVersion.Plain)
    (ho : o.encryption.Plain) (ha : architecture.Plain) (ht : state.Plain) (hd : AllPlain ds)
    (h : definition s o architecture state ds = .ok es) : EntriesPlain es := by
  simp only [definition, bind_eq_ok, pure_eq_ok] at h
  obtain ⟨color, _, shortName, hshort, rfl⟩ := h
  have hmodules : AllPlain (ds.map fun m =>
      .record [("id", m), ("enabled", .bool true), ("config", .dict [])]) := by
    rw [allPlain_iff, List.forall_mem_map]
    intro m hm
    simp [record_plain_iff, Plain, EntriesPlain, allPlain_iff.mp hd m hm]
  have hweb := firstParts_plain hname hshort
  have hflutter : (s.flutterVersion.orElse "3.10.0").Plain := orElse_plain hversion trivial
  simp [EntriesPlain, AllPlain, Plain, record_plain_iff, texts, offlineSection_plain ho, *]

/-! Classes -/

theorem modelMigration_plain (hm : m.toDatum.Plain) (h : modelMigration o m = .ok d) :
    d.Plain := by
  have ⟨_, hname, _, hfile, _, hfields, _⟩ := hm
  rw [modelMigration] at h
  split at h
  case isTrue =>
    cases h
    exact ⟨trivial, trivial, trivial, hfile, trivial, hname, trivial⟩
  case isFalse =>
    have ⟨ds, hds, hd⟩ := bind_eq_ok.mp h
    have hcopies : AllPlain ds := by
      refine allPlain_iff.mpr (forall_mem_of_mapM hds fun f hf x hfx => ?_)
      have hplain := List.forall_mem_map.mp (allPlain_iff.mp hfields) f hf
      rw [unshared_of_plain _ hplain] at hfx
      exact Except.ok.inj hfx ▸ hplain
    exact pure_eq_ok.mp hd ▸ ⟨trivial, trivial, trivial, hfile, trivial, hname, trivial, hcopies,
      trivial⟩

theorem screenMigration_plain {c : Screen} (hc : c.toDatum.Plain) (ho : o.applyDesign.Plain) :
    (screenMigration o c).Plain := by
  have ⟨_, hname, _, hfile, _, hkind, _, hroute, _, hscaffold, _⟩ := hc
  rw [screenMigration]
  split
  · exact ⟨trivial, trivial, trivial, hfile, trivial, hname, trivial, ho, trivial⟩
  · exact ⟨trivial, trivial, trivial, hfile, trivial, hname, trivial, hkind, trivial, hroute,
      trivial, hscaffold, trivial⟩

theorem filesFor_plain {folder : String} {names : List Datum} (h : filesFor folder names = .ok ds) :
    AllPlain ds := by
  refine allPlain_iff.mpr (forall_mem_of_mapM h fun n _ x hn => ?_)
  have ⟨_, _, hx⟩ := bind_eq_ok.mp hn
  exact pure_eq_ok.mp hx ▸ trivial

theorem generation_plain {state : Datum} {models : List Model} {screens : List Screen} {es : Dict}
    (h : generation o state models screens = .ok es) : EntriesPlain es := by
  rw [generation] at h
  split at h
  case isTrue =>
    simp only [bind_eq_ok, pure_eq_ok] at h
    obtain ⟨_, rfl, screenFiles, hscreens, rfl⟩ := h
    exact ⟨trivial, allPlain_texts, trivial, trivial, trivial, filesFor_plain hscreens, trivial,
      trivial, trivial, allPlain_texts, trivial⟩
  case isFalse =>
    simp only [bind_eq_ok, pure_eq_ok] at h
    obtain ⟨modelFiles, hmodels, screenFiles, hscreens, rfl⟩ := h
    exact ⟨trivial, allPlain_texts, trivial, filesFor_plain hmodels, trivial,
      filesFor_plain hscreens, trivial, trivial, trivial, allPlain_texts, trivial⟩

theorem column_plain {c : Column} (hname : c.dartName.Plain) (htype : c.dartType.Plain)
    (hinitial : c.initial.Plain) : c.toDatum.Plain := by
  have hreference : (Datum.ofOption (fun r : Reference => .record [("table", .text r.table),
      ("column", "id"), ("on_delete", "cascade")]) c.reference).Plain :=
    ofOption_plain fun _ => ⟨trivial, trivial, trivial, trivial, trivial, trivial, trivial⟩
  exact ⟨trivial, trivial, trivial, hname, trivial, htype, trivial, trivial, trivial, trivial,
    trivial, trivial, trivial, trivial, trivial, trivial, trivial, hinitial, trivial, hreference,
    trivial⟩

theorem ofField_plain {f : Field} {c : Column} (hf : f.toDatum.Plain)
    (h : Column.ofField f = .ok c) : c.toDatum.Plain := by
  have ⟨_, hname, _, htype, _, _, _, hinitial, _⟩ := hf
  rw [Column.ofField] at h
  split at h
  all_goals
    simp only [bind_eq_ok, pure_eq_ok] at h
    obtain ⟨_, _, _, _, _, _, _, _, rfl⟩ := h
    exact column_plain hname htype hinitial

theorem ofModel_plain {t : Table} (hm : m.toDatum.Plain) (h : Table.ofModel m = .ok t) :
    t.toDatum.Plain := by
  have ⟨_, hname, _, _, _, hfields, _, _, _, hrelationships, _⟩ := hm
  simp only [Table.ofModel, bind_eq_ok, pure_eq_ok] at h
  obtain ⟨columns, hcolumns, _, _, _, _, links, hlinks, rfl⟩ := h
  have hown : ∀ c ∈ columns, c.toDatum.Plain := forall_mem_of_mapM hcolumns fun f hf _ hfc =>
    ofField_plain (List.forall_mem_map.mp (allPlain_iff.mp hfields) f hf) hfc
  have hall : AllPlain ((Table.withKey columns).map Column.toDatum) := by
    rw [allPlain_iff, List.forall_mem_map, Table.withKey]
    split
    · exact hown
    · exact List.forall_mem_cons.mpr ⟨column_plain trivial trivial trivial, hown⟩
  have hrelated : AllPlain (links.map fun l => .record [("type", l.type),
      ("related_table", .text l.table), ("foreign_key", .text l.foreignKey)]) := by
    rw [allPlain_iff, List.forall_mem_map]
    refine forall_mem_of_mapM hlinks fun r hr l hrl => ?_
    have ⟨_, htype, _⟩ := List.forall_mem_map.mp (allPlain_iff.mp hrelationships) r hr
    simp only [Table.linkOf, bind_eq_ok, pure_eq_ok] at hrl
    obtain ⟨_, _, _, _, rfl⟩ := hrl
    exact ⟨trivial, htype, trivial, trivial, trivial, trivial, trivial⟩
  exact ⟨trivial, trivial, trivial, hname, trivial, hall, trivial, hrelated, trivial, trivial,
    trivial, trivial, trivial⟩

theorem preservedFiles_plain {models : List Model} {screens : List Screen} {widgets : List Widget}
    (hm : ∀ m ∈ models, m.toDatum.Plain) (hc : ∀ c ∈ screens, c.toDatum.Plain)
    (hw : ∀ w ∈ widgets, w.toDatum.Plain) :
    AllPlain (preservedFiles o models screens widgets) := by
  refine allPlain_iff.mpr fun d hd => ?_
  refine (?_ : ∀ d ∈ _, d.Plain) d (mem_of_mem_distinct hd)
  have hown {α : Type} {b : Bool} {as : List α} {file : α → Datum}
      (h : ∀ a ∈ as, (file a).Plain) : ∀ d ∈ if b then as.map file else [], d.Plain := by
    cases b
    case true => exact List.forall_mem_map.mpr h
    case false => exact nofun
  simp only [List.forall_mem_append]
  refine ⟨⟨hown fun m h => ?_, hown fun c h => ?_⟩, List.forall_mem_map.mpr fun w h => ?_⟩
  · have ⟨_, _, _, hfile, _⟩ := hm m h
    exact hfile
  · have ⟨_, _, _, hfile, _⟩ := hc c h
    exact hfile
  · have ⟨_, _, _, hfile, _⟩ := hw w h
    exact hfile

theorem tables_plain {modules : List Datum} {models : List Model}
    (hm : ∀ m ∈ models, m.toDatum.Plain) (h : tables o modules models = .ok ds) :
    AllPlain ds := by
  rw [tables] at h
  split at h
  case isTrue =>
    have ⟨ts, hts, hd⟩ := bind_eq_ok.mp h
    rw [← pure_eq_ok.mp hd, allPlain_iff, List.forall_mem_map]
    exact forall_mem_of_mapM hts fun m hm' _ hmt => ofModel_plain (hm m hm') hmt
  case isFalse => exact pure_eq_ok.mp h ▸ trivial

end Plan

theorem Schema.ofSnapshot_plain {p : Schema} (hs : s.toDatum.Plain) (ho : o.toDatum.Plain)
    (h : Schema.ofSnapshot s o = .ok p) : p.toDatum.Plain := by
  obtain ⟨_, hname, _, harchitecture, _, hdescription, _, hversion, _, _, _, hdependencies, _,
    hmodels, _, hscreens, _, hwidgets, _⟩ := hs
  obtain ⟨_, hdetected, _⟩ := harchitecture
  obtain ⟨_, hlibrary, _⟩ := hdependencies
  obtain ⟨_, _, _, _, _, hdesign, _, _, _, htarget, _, hstate, _, hencryption, _, hextra, _⟩ := ho
  simp only [Schema.ofSnapshot, bind_eq_ok, pure_eq_ok] at h
  obtain ⟨_, _, ⟨state, _⟩, hchosen, modules, hids, ⟨models, _⟩, hfirst, _, _, ⟨screens, _⟩,
    hshown, _, _, ⟨widgets, _⟩, hown, _, _, migrations, hmigrations, generation, hgeneration,
    tables, htables, definition, hdefinition, rfl⟩ := h
  have hm : ∀ m ∈ models, m.toDatum.Plain := fun m hm =>
    List.forall_mem_map.mp (allPlain_iff.mp hmodels) m (Plan.split_subset hfirst hm)
  have hc : ∀ c ∈ screens, c.toDatum.Plain := fun c hc =>
    List.forall_mem_map.mp (allPlain_iff.mp hscreens) c (Plan.split_subset hshown hc)
  have hw : ∀ w ∈ widgets, w.toDatum.Plain := fun w hw =>
    List.forall_mem_map.mp (allPlain_iff.mp hwidgets) w (Plan.split_subset hown hw)
  have hmoved : AllPlain migrations := allPlain_iff.mpr <|
    forall_mem_of_mapM hmigrations fun m hm' _ => Plan.modelMigration_plain (hm m hm')
  have hscreen : AllPlain (screens.map (Plan.screenMigration o)) := allPlain_iff.mpr <|
    List.forall_mem_map.mpr fun c hc' => Plan.screenMigration_plain (hc c hc') hdesign
  have hwidget : AllPlain (widgets.map Plan.widgetMigration) := by
    refine allPlain_iff.mpr (List.forall_mem_map.mpr fun w hw' => ?_)
    obtain ⟨_, hname, _, hfile, _⟩ := hw w hw'
    exact ⟨trivial, trivial, trivial, hfile, trivial, hname, trivial⟩
  exact ⟨trivial, Plan.definition_plain hname hdescription hversion hencryption
      (Plan.chooseArchitecture_plain hdetected htarget)
      (Plan.chooseState_plain hlibrary hstate hchosen) (Plan.chooseModules_plain hextra hids)
      hdefinition,
    trivial, ⟨trivial, hmoved, trivial, hscreen, trivial, hwidget, trivial⟩,
    trivial, Plan.generation_plain hgeneration, trivial, Plan.preservedFiles_plain hm hc hw,
    trivial, allPlain_texts, trivial, Plan.tables_plain hm htables, trivial⟩

end Refit
