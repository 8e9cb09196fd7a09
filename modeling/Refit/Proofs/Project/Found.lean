import Refit.Project.InFolder
import Refit.Proofs.Plan.Typed
import Refit.Proofs.Session.Ends
import Refit.Proofs.Text.Groups

/-!
What an analysis finds: plain values, and names of classes that files can be called by.

Only the packages that a manifest declares are taken as its document has them, which may hold
themselves.
-/

namespace Refit

open Datum (AllPlain EntriesPlain)

theorem Datum.IsText.plain {d : Datum} (h : d.IsText) : d.Plain := by
  obtain ⟨s, rfl⟩ := h
  trivial

theorem Datum.IsTextOrNull.plain {d : Datum} (h : d.IsTextOrNull) : d.Plain := by
  rcases h with rfl | h
  · trivial
  · exact h.plain

theorem Datum.ofOption_isTextOrNull {α : Type} {f : α → Datum} (h : ∀ a, (f a).IsText)
    {a : Option α} : (ofOption f a).IsTextOrNull := by
  cases a
  case none => exact .inl rfl
  case some a => exact .inr (h a)

/-! Classes -/

-- A group that is a word gives a name in every match.
theorem Pattern.fits_group {p : Pattern} {n : Nat} {text : String} {m : Match}
    (hp : p.Grouped n (Repeats Letter.isWord)) (h : m ∈ p.all text) :
    (Datum.text (m.group n)).Fits :=
  ⟨_, rfl, fun hs => absurd (hp.of_mem_all h _ hs) (by decide),
    fun hn => absurd (hp.of_mem_all h _ hn) (by decide)⟩

open Pattern in
theorem Model.grouped_header : header.Grouped 1 (Repeats Letter.isWord) := by
  simp [header, Grouped, lineStart, Pattern.star, opt, plus, blank, word, nameList, Pattern.char,
    Field.metadata, noneOf]

open Pattern in
theorem Outline.grouped_widgetClass : widgetClass.Grouped 1 (Repeats Letter.isWord) := by
  simp [widgetClass, Grouped, plus, blank, word, wordEdge]

theorem Field.Typed.plain {f : Field} (h : f.Typed) : f.toDatum.Plain :=
  ⟨trivial, h.name.plain, trivial, h.type.plain, trivial, trivial, trivial, h.initial.plain,
    trivial, Datum.allPlain_iff.mpr fun a ha => (h.annotations a ha).plain, trivial⟩

theorem Relationship.Typed.plain {r : Relationship} (h : r.Typed) : r.toDatum.Plain :=
  ⟨trivial, h.type.plain, trivial, h.target.plain, trivial, h.field.plain, trivial⟩

theorem Field.typed_of_mem_ofBody {f : Field} {body : String} (h : f ∈ ofBody body) : f.Typed := by
  obtain ⟨m, _, hm⟩ := List.mem_filterMap.mp h
  simp only [ofMatch?] at hm
  split at hm
  case isTrue => cases hm
  case isFalse =>
    obtain rfl := Option.some.inj hm
    exact ⟨⟨_, rfl⟩, ⟨_, rfl⟩, Datum.ofOption_isTextOrNull fun _ => ⟨_, rfl⟩,
      List.forall_mem_map.mpr fun _ _ => ⟨_, rfl⟩⟩

theorem Relationship.typed_of_mem_ofDeclared {r : Relationship} {fs : List Field}
    (hf : ∀ f ∈ fs, f.Typed) (h : r ∈ ofDeclared fs) : r.Typed := by
  obtain ⟨f, hmem, hr⟩ := List.mem_filterMap.mp h
  split at hr
  case h_1 =>
    obtain ⟨_, _, rfl⟩ := Option.map_eq_some_iff.mp hr
    exact ⟨⟨_, rfl⟩, ⟨_, rfl⟩, (hf f hmem).name⟩
  case h_2 => cases hr

-- A model in words, whose name gives its name to a file.
structure Model.Found (m : Model) : Prop where
  plain : m.toDatum.Plain
  spelled : m.Spelled
  name : m.name.Fits

structure Screen.Found (c : Screen) : Prop where
  plain : c.toDatum.Plain
  name : c.name.Fits
  file : c.file.IsText

structure Widget.Found (w : Widget) : Prop where
  plain : w.toDatum.Plain
  name : w.name.IsText
  file : w.file.IsText

theorem Model.found_ofFiles {m : Model} {fs : List SourceFile} (h : m ∈ ofFiles fs) : m.Found := by
  obtain ⟨f, _, hm⟩ := List.mem_flatMap.mp h
  obtain ⟨match_, hmatch, hm⟩ := List.mem_filterMap.mp hm
  simp only [ofMatch?] at hm
  split at hm
  case isTrue => cases hm
  case isFalse =>
    obtain rfl := Option.some.inj hm
    refine ⟨⟨trivial, trivial, trivial, trivial, trivial, ?fields, trivial, Datum.allPlain_texts,
      trivial, ?relationships, trivial, trivial, trivial, trivial, trivial⟩, ⟨⟨_, rfl⟩, ⟨_, rfl⟩,
      fun _ => Field.typed_of_mem_ofBody, fun _ => ?related⟩,
      Pattern.fits_group grouped_header hmatch⟩
    case fields =>
      exact Datum.allPlain_iff.mpr (List.forall_mem_map.mpr fun _ hx =>
        (Field.typed_of_mem_ofBody hx).plain)
    case related => exact Relationship.typed_of_mem_ofDeclared fun _ => Field.typed_of_mem_ofBody
    case relationships =>
      exact Datum.allPlain_iff.mpr (List.forall_mem_map.mpr fun _ hx =>
        (Relationship.typed_of_mem_ofDeclared (fun _ => Field.typed_of_mem_ofBody) hx).plain)

theorem Outline.fits_of_mem_uiClasses {c : UiClass} {source : String} (h : c ∈ uiClasses source) :
    (Datum.text c.name).Fits := by
  obtain ⟨m, hm, rfl⟩ := List.mem_map.mp h
  exact Pattern.fits_group grouped_widgetClass hm

theorem Screen.found_ofFiles {c : Screen} {fs : List SourceFile} (h : c ∈ ofFiles fs) :
    c.Found := by
  obtain ⟨f, _, hc⟩ := List.mem_flatMap.mp h
  obtain ⟨u, hu, rfl⟩ := List.mem_map.mp hc
  refine ⟨⟨trivial, trivial, trivial, trivial, trivial, trivial, trivial, trivial, trivial,
    Scaffold.plain_toDatum, trivial, Datum.allPlain_texts, trivial, Datum.allPlain_texts, trivial,
    trivial, trivial⟩, ?_, _, rfl⟩
  exact Outline.fits_of_mem_uiClasses (List.mem_filter.mp hu).1

namespace Widget

theorem plain_of_propOf? {body parameter : String} {p : Field}
    (h : propOf? body parameter = some p) : p.toDatum.Plain := by
  obtain ⟨m, _, hp⟩ := Option.bind_eq_some_iff.mp h
  dsimp only at hp
  split at hp
  case isTrue => cases hp
  case isFalse =>
    obtain rfl := Option.some.inj hp
    exact ⟨trivial, trivial, trivial, trivial, trivial, trivial, trivial, trivial, trivial, trivial,
      trivial⟩

theorem found_ofFiles {w : Widget} {fs : List SourceFile} (h : w ∈ ofFiles fs) : w.Found := by
  obtain ⟨f, _, hw⟩ := List.mem_flatMap.mp h
  obtain ⟨u, _, rfl⟩ := List.mem_map.mp hw
  refine ⟨⟨trivial, trivial, trivial, trivial, trivial, trivial, trivial, ?_, trivial, trivial,
    trivial⟩, ⟨_, rfl⟩, _, rfl⟩
  refine Datum.allPlain_iff.mpr (List.forall_mem_map.mpr fun p hp => ?_)
  simp only [ofClass, propsOf] at hp
  split at hp
  case h_1 => cases hp
  case h_2 =>
    obtain ⟨parameter, _, hp⟩ := List.mem_filterMap.mp hp
    split at hp
    case isTrue => cases hp
    case isFalse => exact plain_of_propOf? hp

end Widget

/-! Themes -/

namespace Theme

variable {t : Theme} {source : String} {fs : List SourceFile}

theorem entriesPlain_setAll {cs : List (String × String)} {es : Dict} (h : EntriesPlain es) :
    EntriesPlain (cs.foldl (fun (es : Dict) c => es.set c.1 (.text c.2)) es) := by
  induction cs generalizing es
  case nil => exact h
  case cons c cs ih => exact ih (Datum.put_plain h trivial trivial)

-- A theme in words.
structure Found (t : Theme) : Prop where
  primary : t.primary.IsTextOrNull
  font : t.font.IsTextOrNull
  colors : EntriesPlain t.colors
  file : t.file.IsTextOrNull

theorem Found.plain (h : t.Found) : t.toDatum.Plain :=
  ⟨trivial, trivial, trivial, trivial, trivial, h.primary.plain, trivial, h.font.plain, trivial,
    h.colors, trivial, trivial, trivial, h.file.plain, trivial⟩

theorem found_merge (h : t.Found) : (t.merge source).Found := by
  refine ⟨?_, ?_, entriesPlain_setAll h.colors, h.file⟩
  · cases hp : primaryOf source
    case none => simpa [merge, hp] using h.primary
    case some => exact .inr ⟨_, by rw [merge, hp]; rfl⟩
  · cases hf : fontOf source
    case none => simpa [merge, hf] using h.font
    case some => exact .inr ⟨_, by rw [merge, hf]; rfl⟩

theorem found_gather {entry : Option SourceFile} : (gather entry fs).Found := by
  have hfirst : ((entry.map fun f => merge {} f.content).getD {}).Found := by
    have hempty : Found {} := ⟨.inl rfl, .inl rfl, trivial, .inl rfl⟩
    cases entry
    case none => exact hempty
    case some => exact found_merge hempty
  rw [gather]
  generalize (entry.map fun f => merge {} f.content).getD {} = t at *
  induction fs generalizing t
  case nil => exact hfirst
  case cons f fs ih =>
    have h := @found_merge t f.content hfirst
    exact ih _ ⟨h.primary, h.font, h.colors, .inr ⟨_, rfl⟩⟩

end Theme

/-! Packages -/

namespace Dependencies

-- The technologies without the packages that they were told by.
def bare (p : Dependencies) : Dependencies :=
  { p with runtime := [], dev := [] }

-- Technologies that are told by name.
structure Found (p : Dependencies) : Prop where
  state : p.state.IsText
  plain : p.bare.toDatum.Plain

theorem found_ofPackages {runtime dev : Dict} : (ofPackages runtime dev).Found where
  state := ⟨_, rfl⟩
  plain := ⟨trivial, trivial, trivial, trivial, trivial, trivial, trivial, trivial, trivial,
    Datum.allPlain_texts, trivial, Datum.allPlain_texts, trivial, Datum.allPlain_texts, trivial,
    Datum.allPlain_texts, trivial, trivial, trivial, trivial, trivial, trivial, trivial, trivial,
    trivial, trivial, trivial⟩

-- A copy of technologies that are told by name differs from them in the packages only.
theorem Found.exists_copy {p : Dependencies} {e : Datum} (h : p.Found)
    (he : p.toDatum.unshared = .ok e) : ∃ q : Dependencies, q.toDatum = e ∧ q.bare = p.bare := by
  obtain ⟨_, hstate, _, hpersistence, _, hnetworking, _, hnavigation, _, hstates, _, hpersistences, _,
    hnetworks, _, hnavigations, _⟩ := h.plain
  have hown (d : Datum) (hd : d.Plain) : d.unshared = .ok d := Datum.unshared_of_plain d hd
  simp [toDatum, hown p.state hstate, hown p.persistence hpersistence,
    hown p.networking hnetworking, hown p.navigation hnavigation,
    hown (.list p.statePackages) hstates, hown (.list p.persistencePackages) hpersistences,
    hown (.list p.networkPackages) hnetworks, hown (.list p.navigationPackages) hnavigations] at he
  obtain ⟨runtime, _, dev, _, rfl⟩ := he
  exact ⟨{ p with runtime := runtime, dev := dev }, rfl, rfl⟩

theorem found_default : Found {} where
  state := ⟨_, rfl⟩
  plain := by simp [toDatum, bare, Datum.record_plain_iff, Datum.Plain, AllPlain, EntriesPlain]

end Dependencies

theorem Manifest.found_ofText {s : String} {m : Manifest} (h : ofText s = .ok m) :
    m.dependencies.Found := by
  have hdict {es : Dict} (h : ofDict es = .ok m) : m.dependencies.Found := by
    simp only [ofDict, bind_eq_ok, pure_eq_ok] at h
    obtain ⟨_, _, _, _, _, _, _, _, _, _, _, _, _, _, _, _, _, _, rfl⟩ := h
    exact Dependencies.found_ofPackages
  rw [ofText] at h
  split at h
  case h_1 => exact hdict h
  case h_2 => cases h
  case h_3 => exact hdict h

/-! Folder trees -/

namespace Folder

theorem plain_node {name path type fileType category : Datum} {cs : List Folder}
    (hname : name.Plain) (hpath : path.Plain) (htype : type.Plain) (hf : fileType.Plain)
    (hc : category.Plain) (h : ∀ c ∈ cs, c.toDatum.Plain) :
    (node name path type cs fileType category).toDatum.Plain := by
  rw [toDatum, toDatums_eq]
  exact ⟨trivial, hname, trivial, hpath, trivial, htype, trivial,
    Datum.allPlain_iff.mpr (List.forall_mem_map.mpr h), trivial, hf, trivial, hc, trivial⟩

theorem plain_folder {name path : String} {cs : List Folder} (h : ∀ c ∈ cs, c.toDatum.Plain) :
    (folder name path cs).toDatum.Plain :=
  plain_node trivial trivial trivial trivial trivial h

theorem plain_of_mem_nodesAt {d : Disk} {n : Nat} {at_ : List String} {name path : String}
    {t : Folder} (h : t ∈ nodesAt d n at_ name path) : t.toDatum.Plain := by
  induction n generalizing at_ name path t
  case zero => cases h
  case succ n ih =>
    rw [nodesAt] at h
    obtain ⟨⟨own, node⟩, _, rfl⟩ := List.mem_map.mp h
    cases node
    case folder => exact plain_folder fun _ hc => ih hc
    case file => exact plain_node trivial trivial trivial trivial trivial (List.forall_mem_nil _)

end Folder

namespace Architecture

theorem plain_of_mem_treeFrom {n : Nat} {path parent : String} {files : List (List String)}
    {t : Folder} (h : t ∈ treeFrom n path parent files) : t.toDatum.Plain := by
  induction n generalizing path parent files t
  case zero => cases h
  case succ n ih =>
    rw [treeFrom] at h
    obtain ⟨name, _, rfl⟩ := List.mem_map.mp h
    dsimp only
    split
    case isTrue => exact Folder.plain_node trivial trivial trivial trivial trivial fun _ hc => ih hc
    case isFalse => exact Folder.plain_folder fun _ hc => ih hc

end Architecture

-- An assessment in words, of a tree of plain values.
structure Assessment.Found (a : Assessment) : Prop where
  detected : a.detected.IsText
  reasoning : a.reasoning.IsText
  tree : a.structure_.toDatum.Plain
  confidence : ¬(a.confidence * 100).isNaN ∧ ¬(a.confidence * 100).isInf

namespace Architecture

variable {list : Lister}

theorem points_le (s : Style) : (score list s).points ≤ 100 := by
  cases s
  case clean => grind [score, cleanScore]
  case featureFirst => grind [score, featureScore]
  case layerFirst => grind [score, layerScore]

theorem finite_share : ∀ n ≤ 100, ¬(share n * 100).isNaN ∧ ¬(share n * 100).isInf := by
  decide +kernel

theorem found_classify {tree : Folder} (h : tree.toDatum.Plain) : (classify list tree).Found := by
  rw [classify]
  dsimp only
  split
  · exact ⟨⟨_, rfl⟩, ⟨_, rfl⟩, h, finite_share _ (Nat.sub_le ..)⟩
  · exact ⟨⟨_, rfl⟩, ⟨_, rfl⟩, h, finite_share _ (points_le _)⟩

end Architecture

/-! Snapshots -/

namespace Snapshot

variable {s : Snapshot} {o : Options} {e : Datum}

-- A snapshot without the packages of its manifest.
def bare (s : Snapshot) : Snapshot :=
  { s with dependencies := s.dependencies.bare }

-- A snapshot in words, whose models and screens give their names to files.
structure Found (s : Snapshot) : Prop where
  name : s.name.IsText
  description : s.description.IsText
  flutterVersion : s.flutterVersion.IsText
  dartVersion : s.dartVersion.IsText
  architecture : s.architecture.Found
  dependencies : s.dependencies.Found
  models : ∀ m ∈ s.models, m.Found
  screens : ∀ c ∈ s.screens, c.Found
  widgets : ∀ w ∈ s.widgets, w.Found
  theme : ∀ t ∈ s.theme, t.Found

theorem found_snapshot {m : Manifest} {a : Assessment} {fs : List SourceFile} {depth : Depth}
    (hm : m.dependencies.Found) (ha : a.Found) : (Analysis.snapshot m a fs depth).Found where
  name := ⟨_, rfl⟩
  description := ⟨_, rfl⟩
  flutterVersion := ⟨_, rfl⟩
  dartVersion := ⟨_, rfl⟩
  architecture := ha
  dependencies := hm
  models _ h := Model.found_ofFiles h
  screens c h := by
    dsimp only [Analysis.snapshot] at h
    split at h
    · cases h
    · exact Screen.found_ofFiles h
  widgets w h := by
    dsimp only [Analysis.snapshot] at h
    split at h
    · exact Widget.found_ofFiles h
    · cases h
  theme t h := by
    dsimp only [Analysis.snapshot] at h
    split at h
    · exact Option.some.inj h ▸ Theme.found_gather
    · cases h

namespace Found

-- What is counted is not what is found.
theorem withStats (h : s.Found) (stats : Stats) : Found { s with stats := stats } :=
  ⟨h.name, h.description, h.flutterVersion, h.dartVersion, h.architecture, h.dependencies, h.models,
    h.screens, h.widgets, h.theme⟩

-- Whatever is found can be planned with.
theorem fits (h : s.Found) : s.Fits where
  name := h.name
  description := h.description
  version := h.flutterVersion
  architecture := h.architecture.detected
  confidence _ := h.architecture.confidence
  state := h.dependencies.state
  models m hm := ⟨(h.models m hm).spelled, (h.models m hm).name⟩
  screens c hc := ⟨(h.screens c hc).name, (h.screens c hc).file⟩
  widgets w hw := ⟨(h.widgets w hw).name, (h.widgets w hw).file⟩
  theme t ht := (h.theme t ht).primary

theorem plain (h : s.Found) : s.bare.toDatum.Plain := by
  obtain ⟨name, hname⟩ := h.name
  obtain ⟨description, hdescription⟩ := h.description
  obtain ⟨flutterVersion, hflutter⟩ := h.flutterVersion
  obtain ⟨dartVersion, hdart⟩ := h.dartVersion
  obtain ⟨detected, hdetected⟩ := h.architecture.detected
  obtain ⟨reasoning, hreasoning⟩ := h.architecture.reasoning
  have hall {α : Type} {as : List α} {f : α → Datum} (h : ∀ a ∈ as, (f a).Plain) :
      AllPlain (as.map f) :=
    Datum.allPlain_iff.mpr (List.forall_mem_map.mpr h)
  have htheme : (Datum.ofOption Theme.toDatum s.theme).Plain := by
    cases ht : s.theme
    case none => trivial
    case some t => exact (h.theme t ht).plain
  refine ⟨trivial, ?_, trivial, ⟨trivial, ?_, trivial, trivial, trivial, h.architecture.tree, trivial,
    ?_, trivial⟩, trivial, ?_, trivial, ?_, trivial, ?_, trivial, h.dependencies.plain, trivial,
    hall fun m hm => (h.models m hm).plain, trivial, hall fun c hc => (h.screens c hc).plain,
    trivial, hall fun w hw => (h.widgets w hw).plain, trivial, htheme, trivial, Stats.plain_toDatum, trivial⟩
  · exact hname ▸ trivial
  · exact hdetected ▸ trivial
  · exact hreasoning ▸ trivial
  · exact hdescription ▸ trivial
  · exact hflutter ▸ trivial
  · exact hdart ▸ trivial

end Found

-- Plans do not look at the packages of a manifest.
theorem ofSnapshot_bare : Schema.ofSnapshot s.bare o = Schema.ofSnapshot s o :=
  rfl

-- What is read of a copy of a snapshot that was found differs from it in its packages only.
theorem Found.exists_copy (h : s.Found) (he : s.toDatum.unshared = .ok e) :
    ∃ t : Snapshot, ofDatum e = .ok t ∧ t.bare = s.bare := by
  obtain ⟨_, hname, _, harchitecture, _, hdescription, _, hflutter, _, hdart, _, _, _, hmodels, _,
    hscreens, _, hwidgets, _, htheme, _, hstats, _⟩ := h.plain
  have hown (d : Datum) (hd : d.Plain) : d.unshared = .ok d := Datum.unshared_of_plain d hd
  simp [toDatum, hown s.name hname, hown s.architecture.toDatum harchitecture,
    hown s.description hdescription, hown s.flutterVersion hflutter, hown s.dartVersion hdart,
    hown (.list (s.models.map Model.toDatum)) hmodels,
    hown (.list (s.screens.map Screen.toDatum)) hscreens,
    hown (.list (s.widgets.map Widget.toDatum)) hwidgets,
    hown (.ofOption Theme.toDatum s.theme) htheme, hown s.stats.toDatum hstats] at he
  obtain ⟨_, hdependencies, rfl⟩ := he
  obtain ⟨dependencies, rfl, hbare⟩ := h.dependencies.exists_copy hdependencies
  have hread : ofDatum { s with dependencies := dependencies }.toDatum =
      .ok { s with dependencies := dependencies } := by
    obtain ⟨reasoning, hreasoning⟩ := h.architecture.reasoning
    exact ofDatum_toDatum (hreasoning ▸ rfl)
  exact ⟨_, hread, by rw [bare, bare, hbare]⟩

end Snapshot

/-! Analyses -/

variable {s : Snapshot} {a : Assessment} {m : Manifest} {l : Location} {before after : Session}

theorem Architecture.found_ofPaths {paths : List String} : (ofPaths paths).Found :=
  found_classify (Folder.plain_folder fun _ => plain_of_mem_treeFrom)

theorem Analysis.found_ofFiles {fs : List SourceFile} {name : String} {depth : Datum}
    (h : ofFiles fs name depth = .ok s) : s.Found := by
  simp only [ofFiles, bind_eq_ok, pure_eq_ok, mapError_eq_ok] at h
  obtain ⟨d, _, m, hm, rfl⟩ := h
  refine Snapshot.found_snapshot ?_ Architecture.found_ofPaths
  have hfound : (m.getD {}).dependencies.Found := by
    rw [manifestOf] at hm
    split at hm
    case h_1 => exact pure_eq_ok.mp hm ▸ Dependencies.found_default
    case h_2 =>
      obtain ⟨m, hread, hm⟩ := bind_eq_ok.mp hm
      exact pure_eq_ok.mp hm ▸ Manifest.found_ofText hread
  split
  · exact hfound
  · exact hfound

theorem Folder.found_inFolder {path : String} {n : Nat} {t : Folder}
    (h : Ends (inFolder l path n) before (.ok t) after) : t.toDatum.Plain := by
  obtain ⟨h, _⟩ := Action.ask_iff.mp h
  obtain ⟨p, _, ht⟩ := bind_eq_ok.mp h.symm
  rw [← pure_eq_ok.mp ht]
  refine plain_folder ?_
  split
  · exact fun _ => plain_of_mem_nodesAt
  · exact List.forall_mem_nil _

theorem Assessment.found_inFolder (h : Ends (inFolder l) before (.ok a) after) : a.Found := by
  obtain ⟨t, _, ht, h⟩ := Ends.bind_ok_iff.mp h
  obtain ⟨h, _⟩ := Action.ask_iff.mp h
  obtain ⟨p, _, ha⟩ := bind_eq_ok.mp h.symm
  exact pure_eq_ok.mp ha ▸ Architecture.found_classify (Folder.found_inFolder ht)

theorem Manifest.found_inFolder (h : Ends (inFolder l) before (.ok m) after) :
    m.dependencies.Found := by
  obtain ⟨_, _, _, h⟩ := Ends.bind_ok_iff.mp h
  obtain ⟨_, _, _, h⟩ := Ends.bind_ok_iff.mp h.of_checked
  exact found_ofText (Action.ofRead_ok_iff.mp h).1

theorem Analysis.found_inFolder {depth : Datum} {bound : Int}
    (h : Ends (inFolder l depth bound) before (.ok s) after) : s.Found := by
  obtain ⟨d, _, _, h⟩ := Ends.bind_ok_iff.mp h
  obtain ⟨_, _, _, h⟩ := Ends.bind_ok_iff.mp (Ends.get_bind_iff.mp h.of_checked)
  obtain ⟨_, _, _, h⟩ := Ends.bind_ok_iff.mp h.of_checked
  obtain ⟨m, _, hm, h⟩ := Ends.bind_ok_iff.mp h.of_checked
  obtain ⟨a, _, ha, h⟩ := Ends.bind_ok_iff.mp h
  obtain ⟨fs, _, _, h⟩ := Ends.bind_ok_iff.mp h
  obtain ⟨_, _, _, h⟩ := Ends.bind_ok_iff.mp h
  obtain ⟨rfl, _⟩ := Ends.pure_ok_iff.mp h
  have hfound : (snapshot m a fs d).Found :=
    Snapshot.found_snapshot (Manifest.found_inFolder hm) (Assessment.found_inFolder ha)
  exact hfound.withStats _

end Refit
