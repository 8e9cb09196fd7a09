import Refit.Proofs.Datum.Numbers
import Refit.Proofs.Plan.Plain
import Refit.Proofs.Source.Listing
import Refit.Proofs.Source.Naming
import Refit.Rebuild.Output

/-!
Plans for snapshots whose values have the kinds that the fields ask for.

Such a snapshot always has a plan, and the plan is made of texts and tidy values.
-/

namespace Refit

/-! Snapshots -/

-- A text that may be absent.
def Datum.IsTextOrNull (d : Datum) : Prop :=
  d = .null ∨ d.IsText

def Datum.IsFlag (d : Datum) : Prop :=
  ∃ b, d = .bool b

-- A name of a class or a module.
def Datum.IsName (d : Datum) : Prop :=
  ∃ s, d = .text s ∧ isIdentifier s

structure Field.Typed (f : Field) : Prop where
  name : f.name.IsText
  type : f.type.IsText
  initial : f.initial.IsTextOrNull
  annotations : ∀ a ∈ f.annotations, a.IsText

structure Relationship.Typed (r : Relationship) : Prop where
  type : r.type.IsText
  target : r.target.IsText
  field : r.field.IsText

structure Model.Typed (m : Model) : Prop where
  name : m.name.IsName
  file : m.file.IsText
  fields : ∀ f ∈ m.fields, f.Typed
  relationships : ∀ r ∈ m.relationships, r.Typed

structure Screen.Typed (c : Screen) : Prop where
  name : c.name.IsName
  file : c.file.IsText

structure Widget.Typed (w : Widget) : Prop where
  name : w.name.IsName
  file : w.file.IsText

-- A snapshot with values of the right kinds, as far as a plan looks at them.
structure Snapshot.Typed (s : Snapshot) : Prop where
  name : s.name.IsText
  description : s.description.IsText
  version : s.flutterVersion.IsText
  architecture : s.architecture.detected.IsText
  -- A low confidence is told in per cent, so it has to be finite.
  confidence : s.architecture.confidence < 0.7 →
    ¬(s.architecture.confidence * 100).isNaN ∧ ¬(s.architecture.confidence * 100).isInf
  state : s.dependencies.state.IsText
  models : ∀ m ∈ s.models, m.Typed
  screens : ∀ c ∈ s.screens, c.Typed
  widgets : ∀ w ∈ s.widgets, w.Typed
  theme : ∀ t ∈ s.theme, t.primary.IsTextOrNull

-- Choices with values of the right kinds. What counts by its truth alone may be anything.
structure Options.Typed (o : Options) : Prop where
  encryption : o.encryption.IsFlag
  architecture : o.architecture.IsText
  state : o.state.IsText
  extraModules : ∃ ms, o.extraModules = .list ms ∧ ∀ m ∈ ms, m.IsName
  excludedModules : ∃ ms, o.excludedModules = .list ms ∧ ∀ m ∈ ms, m.IsText

/-! What a plan is made of -/

-- A model whose name may be any text.
structure Model.Spelled (m : Model) : Prop where
  name : m.name.IsText
  file : m.file.IsText
  fields : ∀ f ∈ m.fields, f.Typed
  relationships : ∀ r ∈ m.relationships, r.Typed

-- A name that files can be called by, in whatever script.
def Datum.Fits (d : Datum) : Prop :=
  ∃ s, d = .text s ∧ Path.Fits s

-- A snapshot with values of the right kinds, whose models and screens give their names to files.
structure Snapshot.Fits (s : Snapshot) : Prop where
  name : s.name.IsText
  description : s.description.IsText
  version : s.flutterVersion.IsText
  architecture : s.architecture.detected.IsText
  confidence : s.architecture.confidence < 0.7 →
    ¬(s.architecture.confidence * 100).isNaN ∧ ¬(s.architecture.confidence * 100).isInf
  state : s.dependencies.state.IsText
  models : ∀ m ∈ s.models, m.Spelled ∧ m.name.Fits
  screens : ∀ c ∈ s.screens, c.name.Fits ∧ c.file.IsText
  widgets : ∀ w ∈ s.widgets, w.name.IsText ∧ w.file.IsText
  theme : ∀ t ∈ s.theme, t.primary.IsTextOrNull

-- Choices with values of the right kinds, whose modules give their names to files.
structure Options.Fits (o : Options) : Prop where
  encryption : o.encryption.IsFlag
  architecture : o.architecture.IsText
  state : o.state.IsText
  extraModules : ∃ ms : List String, o.extraModules = .list (ms.map .text) ∧ ∀ m ∈ ms, Path.Fits m
  excludedModules : ∃ ms : List String, o.excludedModules = .list (ms.map .text)

namespace Datum

variable {d : Datum} {ds : List Datum}

theorem toText_text {s : String} : (text s).toText = .ok s := by
  simp [toText, hasText, shown, bare]

theorem IsName.isText (h : d.IsName) : d.IsText :=
  have ⟨s, hs, _⟩ := h
  ⟨s, hs⟩

theorem IsName.fits (h : d.IsName) : d.Fits :=
  have ⟨s, hs, hname⟩ := h
  ⟨s, hs, .of_isIdentifier hname⟩

theorem Fits.isText (h : d.Fits) : d.IsText :=
  have ⟨s, hs, _⟩ := h
  ⟨s, hs⟩

theorem IsText.orElse {e : Datum} (hd : d.IsText) (he : e.IsText) : (d.orElse e).IsText := by
  rw [Datum.orElse]
  split
  · exact hd
  · exact he

theorem IsText.isKey (h : d.IsText) : d.isKey := by
  obtain ⟨s, rfl⟩ := h
  exact isKey_text

theorem IsText.tidy {numbers : Bool} (h : d.IsText) : d.Tidy numbers := by
  obtain ⟨s, rfl⟩ := h
  trivial

theorem IsTextOrNull.tidy {numbers : Bool} (h : d.IsTextOrNull) : d.Tidy numbers := by
  rcases h with rfl | h
  · trivial
  · exact h.tidy

theorem any_same_texts {m : String} {ms : List String} :
    (ms.map Datum.text).any (Datum.same (.text m)) = decide (m ∈ ms) := by
  rw [Bool.eq_iff_iff, List.any_eq_true, decide_eq_true_iff]
  simp

theorem exists_texts (h : ∀ d ∈ ds, d.IsText) : ∃ ms : List String, ds = ms.map .text := by
  induction ds
  case nil => exact ⟨[], rfl⟩
  case cons d ds ih =>
    obtain ⟨⟨m, rfl⟩, hds⟩ := List.forall_mem_cons.mp h
    obtain ⟨ms, rfl⟩ := ih hds
    exact ⟨m :: ms, rfl⟩

end Datum

theorem Snapshot.Typed.fits {s : Snapshot} (h : s.Typed) : s.Fits where
  name := h.name
  description := h.description
  version := h.version
  architecture := h.architecture
  confidence := h.confidence
  state := h.state
  models m hm :=
    have hm := h.models m hm
    ⟨⟨hm.name.isText, hm.file, hm.fields, hm.relationships⟩, hm.name.fits⟩
  screens c hc := ⟨(h.screens c hc).name.fits, (h.screens c hc).file⟩
  widgets w hw := ⟨(h.widgets w hw).name.isText, (h.widgets w hw).file⟩
  theme := h.theme

theorem Options.Typed.fits {o : Options} (h : o.Typed) : o.Fits where
  encryption := h.encryption
  architecture := h.architecture
  state := h.state
  extraModules := by
    obtain ⟨ds, hds, hnames⟩ := h.extraModules
    obtain ⟨ms, rfl⟩ := Datum.exists_texts fun d hd => (hnames d hd).isText
    refine ⟨ms, hds, fun m hm => ?_⟩
    obtain ⟨_, hmem, hname⟩ := hnames _ (List.mem_map_of_mem hm)
    exact .of_isIdentifier (Datum.text.inj hmem ▸ hname)
  excludedModules := by
    obtain ⟨ds, hds, htexts⟩ := h.excludedModules
    obtain ⟨ms, rfl⟩ := Datum.exists_texts htexts
    exact ⟨ms, hds⟩

namespace Plan

variable {s : Snapshot} {o : Options} {target : Datum} {ds : List Datum}

theorem exists_confidenceWarnings {confidence : Float}
    (h : confidence < 0.7 → ¬(confidence * 100).isNaN ∧ ¬(confidence * 100).isInf) :
    ∃ ws, confidenceWarnings confidence = .ok ws := by
  rw [confidenceWarnings]
  split
  case isTrue hlow =>
    have ⟨hnumber, hfinite⟩ := h hlow
    refine exists_bind ?_ fun _ => ⟨_, rfl⟩
    rw [Datum.roundFloat, if_neg hnumber, if_neg hfinite]
    exact ⟨_, rfl⟩
  case isFalse => exact ⟨_, rfl⟩

theorem chooseArchitecture_text (hs : s.architecture.detected.IsText) (ht : target.IsText) :
    (chooseArchitecture s target).1.IsText := by
  rw [chooseArchitecture]
  split
  · split
    · exact ⟨_, rfl⟩
    · rw [customAsLayers]
      split
      · exact ⟨_, rfl⟩
      · exact hs
  · split
    · exact ht
    · exact ⟨_, rfl⟩

theorem exists_chooseState (hs : s.dependencies.state.IsText) :
    ∃ state ws, chooseState s target = .ok (state, ws) ∧ (target.IsText → state.IsText) := by
  have ⟨detected, hdetected⟩ := hs
  rw [chooseState]
  split
  · exact ⟨_, _, rfl, id⟩
  · split
    · exact ⟨_, _, rfl, fun _ => ⟨_, rfl⟩⟩
    · split
      · exact ⟨_, _, rfl, fun _ => hs⟩
      · split
        · exact ⟨_, _, rfl, fun _ => ⟨_, rfl⟩⟩
        · rw [hdetected, Datum.toText_text]
          exact ⟨_, _, rfl, fun _ => ⟨_, rfl⟩⟩

theorem filter_not_mem_append {α β : Type} [BEq β] [LawfulBEq β] {f : α → β} {xs : List α}
    {taken : List β} {c : β} :
    xs.filter (f · ∉ taken ++ [c]) = (xs.filter (f · ∉ taken)).filter fun x => !f x == c := by
  rw [List.filter_filter]
  refine List.filter_congr fun x _ => ?_
  by_cases h : f x = c
  case pos => simp [h]
  case neg => simp [h]

-- Of texts, those are kept that come first.
theorem distinct_texts {ms : List String} : distinct (ms.map .text) = ms.eraseDups.map .text := by
  have hfold (seen : List String) : (ms.map Datum.text).foldl
      (fun seen d => if seen.any d.same then seen else seen ++ [d]) (seen.map .text) =
        (seen ++ (ms.filter (· ∉ seen)).eraseDups).map .text := by
    induction ms generalizing seen
    case nil => simp
    case cons m ms ih =>
      rw [List.map_cons, List.foldl_cons, Datum.any_same_texts]
      by_cases hm : m ∈ seen
      case pos => rw [if_pos (by simpa using hm), ih, List.filter_cons_of_neg (by simpa using hm)]
      case neg =>
        rw [if_neg (by simpa using hm), List.filter_cons_of_pos (by simpa using hm),
          List.eraseDups_cons, ← filter_not_mem_append]
        simpa using ih (seen ++ [m])
  exact (hfold []).trans (by simp)

theorem exists_chooseModules {extra excluded : List String}
    (he : o.extraModules = .list (extra.map .text))
    (hx : o.excludedModules = .list (excluded.map .text)) :
    ∃ ms : List String, chooseModules s o = .ok (ms.map .text) ∧ ms.Nodup ∧
      ∀ m ∈ ms, m ∉ excluded := by
  let given (b : Bool) (m : String) : List String := if b then [m] else []
  let ids : List String :=
    given (o.offline.truthy || s.dependencies.persistence.same "drift") "drift"
      ++ given o.offline.truthy "pwa" ++ given o.applyDesign.truthy "design"
      ++ given (!s.dependencies.networking.same "none") "api" ++ ["state"] ++ extra
  have hgiven (b : Bool) (m : String) :
      (given b m).map Datum.text = if b then [Datum.text m] else [] := by
    cases b
    · rfl
    · rfl
  have hids : chooseModules s o = (ids.map Datum.text).mapM Datum.asKey >>= fun ids =>
      (excluded.map Datum.text).mapM Datum.asKey >>= fun excluded =>
        pure ((distinct ids).filter fun m => !excluded.any m.same) := by
    rw [chooseModules, he, hx]
    simp only [ids, List.map_append, hgiven]
    rfl
  have hkeys (ms : List String) : (ms.map Datum.text).mapM Datum.asKey = .ok (ms.map .text) :=
    Datum.mapM_asKey.mpr ⟨rfl, List.forall_mem_map.mpr fun m _ => Datum.isKey_text⟩
  have hkept {ms : List String} : (ms.map Datum.text).filter
      (fun m => !(excluded.map Datum.text).any m.same) = (ms.filter (· ∉ excluded)).map .text := by
    rw [List.filter_map]
    refine congrArg _ (List.filter_congr fun m _ => ?_)
    rw [Function.comp_apply, Datum.any_same_texts, decide_not]
  refine ⟨ids.eraseDups.filter (· ∉ excluded), ?_, (nodup_eraseDups _).filter _, fun m hm => ?_⟩
  · rw [hids, hkeys, hkeys, ← hkept, ← distinct_texts]
    rfl
  · simpa using (List.mem_filter.mp hm).2

theorem exists_moduleNames (ho : o.Fits) :
    ∃ ms : List String, chooseModules s o = .ok (ms.map .text) ∧ ms.Nodup ∧
      ∀ m ∈ ms, Path.Fits m := by
  obtain ⟨extra, hextra, hnames⟩ := ho.extraModules
  obtain ⟨excluded, hexcluded⟩ := ho.excludedModules
  obtain ⟨ms, hms, hnodup, _⟩ := @exists_chooseModules s _ _ _ hextra hexcluded
  refine ⟨ms, hms, hnodup, fun m hm => ?_⟩
  have hitems : o.extraModules.items = .ok (extra.map .text) := by rw [hextra]; rfl
  have hown : ∀ n ∈ ownModules, isIdentifier n := by decide +kernel
  rcases mem_chooseModules hitems hms _ (List.mem_map_of_mem hm) with ⟨n, hn, h⟩ | h
  · exact .of_isIdentifier (Datum.text.inj h ▸ hown n hn)
  · obtain ⟨_, hmem, h⟩ := List.mem_map.mp h
    exact Datum.text.inj h ▸ hnames _ hmem

theorem exists_split {α : Type} {xs : List α} (key : α → Datum.Read ClassKey)
    (taken : List ClassKey) (h : ∀ x ∈ xs, ∃ k, key x = .ok k) :
    ∃ first again, split key taken xs = .ok (first, again) ∧ first ⊆ xs ∧ again ⊆ xs := by
  induction xs generalizing taken
  case nil => exact ⟨[], [], rfl, List.Subset.refl _, List.Subset.refl _⟩
  case cons x xs ih =>
    have ⟨⟨k, hk⟩, hxs⟩ := List.forall_mem_cons.mp h
    by_cases ht : taken.any k.same
    case pos =>
      obtain ⟨first, again, hsplit, hf, ha⟩ := ih taken hxs
      refine ⟨first, x :: again, ?_, List.subset_cons_of_subset _ hf, List.cons_subset_cons _ ha⟩
      rw [split, hk]
      simp only [bind, Except.bind, ht, if_true, hsplit]
      rfl
    case neg =>
      obtain ⟨first, again, hsplit, hf, ha⟩ := ih (taken ++ [k]) hxs
      refine ⟨x :: first, again, ?_, List.cons_subset_cons _ hf, List.subset_cons_of_subset _ ha⟩
      rw [split, hk]
      simp only [bind, Except.bind, ht, hsplit]
      rfl

theorem exists_key {file name : Datum} (hf : file.IsText) (hn : name.IsText) :
    ∃ k, ClassKey.of file name = .ok k := by
  have hfile := Datum.asKey_eq_ok.mpr ⟨rfl, hf.isKey⟩
  have hname := Datum.asKey_eq_ok.mpr ⟨rfl, hn.isKey⟩
  exact ⟨_, by rw [ClassKey.of, hfile, hname]; rfl⟩

end Plan

/-! Migrations -/

-- A migration names its class and tells where the class comes from.
def Datum.IsMigration (d : Datum) : Prop :=
  ∃ (es : Dict) (file name : String), d = .dict es ∧ es.get? "source" = some (.text file) ∧
    es.get? "name" = some (.text name) ∧ Path.Fits name

-- A table of a plan, which has a name and columns.
def Datum.IsTable (d : Datum) : Prop :=
  ∃ (es : Dict) (name : String) (columns : List Datum), d = .dict es ∧ d.Tidy false ∧
    es.get? "name" = some (.text name) ∧ es.get? "columns" = some (.list columns)

theorem Field.Typed.tidy {f : Field} (h : f.Typed) : f.toDatum.Tidy false :=
  ⟨⟨_, rfl⟩, h.name.tidy, ⟨_, rfl⟩, h.type.tidy, ⟨_, rfl⟩, trivial, ⟨_, rfl⟩, h.initial.tidy,
    ⟨_, rfl⟩, Datum.allTidy_iff.mpr fun a ha => (h.annotations a ha).tidy, trivial⟩

namespace Plan

variable {s : Snapshot} {o : Options} {m : Model} {c : Screen}

theorem exists_modelMigration (h : m.Spelled) (hn : m.name.Fits) :
    ∃ d, modelMigration o m = .ok d ∧ d.IsMigration := by
  obtain ⟨name, hname, hword⟩ := hn
  obtain ⟨file, hfile⟩ := h.file
  rw [modelMigration, hname, hfile]
  split
  case isTrue => exact ⟨_, rfl, _, file, name, rfl, by simp [Dict.get?], by simp [Dict.get?], hword⟩
  case isFalse =>
    obtain ⟨fields, hfields⟩ : ∃ ds, (m.fields.mapM fun f => f.toDatum.unshared) = .ok ds :=
      exists_mapM fun f hf => ⟨_, Datum.unshared_of_tidy _ (h.fields f hf).tidy⟩
    rw [hfields]
    exact ⟨_, rfl, _, file, name, rfl, by simp [Dict.get?], by simp [Dict.get?], hword⟩

theorem screenMigration_isMigration (hn : c.name.Fits) (hf : c.file.IsText) :
    (screenMigration o c).IsMigration := by
  obtain ⟨name, hname, hword⟩ := hn
  obtain ⟨file, hfile⟩ := hf
  rw [screenMigration, hname, hfile]
  split
  case isTrue => exact ⟨_, file, name, rfl, by simp [Dict.get?], by simp [Dict.get?], hword⟩
  case isFalse => exact ⟨_, file, name, rfl, by simp [Dict.get?], by simp [Dict.get?], hword⟩

end Plan

/-! Tables -/

namespace Column

variable {d : Datum} {f : Field}

theorem exists_snakeOf (h : d.IsText) : ∃ s, snakeOf d = .ok s := by
  obtain ⟨s, rfl⟩ := h
  exact ⟨_, rfl⟩

theorem exists_anyMentions {word : String} {ds : List Datum} (h : ∀ d ∈ ds, d.IsText) :
    ∃ b, anyMentions word ds = .ok b := by
  induction ds
  case nil => exact ⟨_, rfl⟩
  case cons d ds ih =>
    obtain ⟨⟨s, rfl⟩, hds⟩ := List.forall_mem_cons.mp h
    refine exists_bind ⟨_, rfl⟩ fun found => ?_
    split
    · exact ⟨_, rfl⟩
    · exact ih hds

structure Typed (c : Column) : Prop where
  dartName : c.dartName.IsText
  dartType : c.dartType.IsText
  initial : c.initial.IsTextOrNull

theorem key_typed : key.Typed :=
  ⟨⟨_, rfl⟩, ⟨_, rfl⟩, .inl rfl⟩

theorem exists_ofField (h : f.Typed) : ∃ c, ofField f = .ok c ∧ c.Typed := by
  obtain ⟨name, hname⟩ := h.name
  obtain ⟨type, htype⟩ := h.type
  have ⟨primary, hprimary⟩ := @exists_anyMentions "primaryKey" _ h.annotations
  have ⟨unique, hunique⟩ := @exists_anyMentions "unique" _ h.annotations
  rw [ofField, hname, htype]
  dsimp only
  rw [hunique, hprimary]
  split
  case isTrue => exact ⟨_, rfl, ⟨_, rfl⟩, ⟨_, rfl⟩, h.initial⟩
  case isFalse => exact ⟨_, rfl, ⟨_, rfl⟩, ⟨_, rfl⟩, h.initial⟩

theorem Typed.tidy {c : Column} (h : c.Typed) : c.toDatum.Tidy false := by
  have hreference : (Datum.ofOption (fun r : Reference => .record [("table", .text r.table),
      ("column", "id"), ("on_delete", "cascade")]) c.reference).Tidy false := by
    cases c.reference
    case none => trivial
    case some => exact ⟨⟨_, rfl⟩, trivial, ⟨_, rfl⟩, trivial, ⟨_, rfl⟩, trivial, trivial⟩
  exact ⟨⟨_, rfl⟩, trivial, ⟨_, rfl⟩, h.dartName.tidy, ⟨_, rfl⟩, h.dartType.tidy, ⟨_, rfl⟩, trivial,
    ⟨_, rfl⟩, trivial, ⟨_, rfl⟩, trivial, ⟨_, rfl⟩, trivial, ⟨_, rfl⟩, trivial, ⟨_, rfl⟩,
    h.initial.tidy, ⟨_, rfl⟩, hreference, trivial⟩

end Column

namespace Table

variable {m : Model}

theorem exists_linkOf {r : Relationship} (h : r.Typed) :
    ∃ l, linkOf r = .ok l ∧ l.type.IsText := by
  have ⟨table, htable⟩ := Column.exists_snakeOf h.target
  have ⟨key, hkey⟩ := Column.exists_snakeOf h.field
  exact ⟨_, by rw [linkOf, htable, hkey]; rfl, h.type⟩

theorem exists_ofModel (h : m.Spelled) : ∃ t, ofModel m = .ok t ∧ t.toDatum.IsTable := by
  have ⟨columns, hcolumns, htyped⟩ :=
    exists_mapM_all fun f hf => Column.exists_ofField (h.fields f hf)
  have ⟨names, hnames⟩ : ∃ ns, (m.fields.mapM fun f => f.name.asKey) = .ok ns :=
    exists_mapM fun f hf => ⟨_, Datum.asKey_eq_ok.mpr ⟨rfl, (h.fields f hf).name.isKey⟩⟩
  have ⟨name, hname⟩ := Column.exists_snakeOf h.name
  have ⟨links, hlinks, hkinds⟩ :=
    exists_mapM_all fun r hr => exists_linkOf (h.relationships r hr)
  have hwithKey : ∀ c ∈ withKey columns, c.Typed := by
    rw [withKey]
    split
    · exact htyped
    · exact List.forall_mem_cons.mpr ⟨Column.key_typed, htyped⟩
  refine ⟨_, by rw [ofModel, hcolumns, hnames, hname, hlinks]; rfl, _, name, _, rfl, ?_, rfl, rfl⟩
  refine ⟨⟨_, rfl⟩, trivial, ⟨_, rfl⟩, h.name.tidy, ⟨_, rfl⟩, ?_, ⟨_, rfl⟩, ?_, ⟨_, rfl⟩,
    trivial, ⟨_, rfl⟩, trivial, trivial⟩
  · refine Datum.allTidy_iff.mpr fun d hd => ?_
    obtain ⟨c, hc, rfl⟩ := List.mem_map.mp hd
    exact (hwithKey c hc).tidy
  · refine Datum.allTidy_iff.mpr fun d hd => ?_
    obtain ⟨l, hl, rfl⟩ := List.mem_map.mp hd
    exact ⟨⟨_, rfl⟩, (hkinds l hl).tidy, ⟨_, rfl⟩, trivial, ⟨_, rfl⟩, trivial, trivial⟩

end Table

/-! The definition -/

namespace Plan

-- The texts that the definition of a project is made of.
structure Frame where
  name : String
  description : String
  architecture : String
  state : String
  color : String
  shortName : String
  version : String
  -- Whether what is stored is encrypted, if the project works offline.
  encryption : Option Bool
  modules : List String

namespace Frame

def web (f : Frame) : Dict :=
  Output.texts [("name", f.name), ("short_name", f.shortName), ("description", f.description),
    ("theme_color", f.color), ("background_color", "#FFFFFF"), ("display", "standalone"),
    ("orientation", "any"), ("start_url", "/"), ("scope", "/")]

def storage (encrypted : Bool) : Dict :=
  [(.text "type", "drift"), (.text "encryption", .bool encrypted)]

def offline (f : Frame) : Datum :=
  .ofOption (fun encrypted => .record [("strategy", "offline-first"),
    ("storage", .dict (storage encrypted)),
    ("caching", .record [("assets", .bool true), ("api", .bool true), ("ttl", .int 3600)]),
    ("sync", .record [("enabled", .bool true), ("strategy", "auto")])]) f.encryption

def entry (m : String) : Dict :=
  [(.text "id", .text m), (.text "enabled", .bool true), (.text "config", .dict [])]

def definition (f : Frame) : Dict :=
  [(.text "name", .text f.name), (.text "description", .text f.description),
    (.text "architecture", .text f.architecture), (.text "state_management", .text f.state),
    (.text "targets", .texts ["web"]), (.text "pwa", .dict f.web), (.text "offline", f.offline),
    (.text "flutter", .record [("version", .text f.version)]),
    (.text "modules", .list (f.modules.map fun m => .dict (entry m)))]

theorem tidy_texts {numbers : Bool} {es : List (String × String)} :
    Datum.EntriesTidy numbers (Output.texts es) := by
  refine Datum.entriesTidy_iff.mpr fun e he => ?_
  obtain ⟨e, _, rfl⟩ := List.mem_map.mp he
  exact ⟨⟨_, rfl⟩, trivial⟩

theorem tidy_offline {f : Frame} : f.offline.Tidy false := by
  rw [offline]
  cases f.encryption
  case none => trivial
  case some =>
    have hlifetime : Datum.isWritable 3600 := by decide +kernel
    exact ⟨⟨_, rfl⟩, trivial, ⟨_, rfl⟩, ⟨⟨_, rfl⟩, trivial, ⟨_, rfl⟩, trivial, trivial⟩,
      ⟨_, rfl⟩, ⟨⟨_, rfl⟩, trivial, ⟨_, rfl⟩, trivial, ⟨_, rfl⟩, hlifetime, trivial⟩,
      ⟨_, rfl⟩, ⟨⟨_, rfl⟩, trivial, ⟨_, rfl⟩, trivial, trivial⟩, trivial⟩

theorem tidy_modules {f : Frame} :
    (Datum.list (f.modules.map fun m => .dict (entry m))).Tidy false := by
  refine Datum.allTidy_iff.mpr fun d hd => ?_
  obtain ⟨m, _, rfl⟩ := List.mem_map.mp hd
  exact ⟨⟨_, rfl⟩, trivial, ⟨_, rfl⟩, trivial, ⟨_, rfl⟩, trivial, trivial⟩

theorem tidy_definition {f : Frame} : Datum.EntriesTidy false f.definition :=
  ⟨⟨_, rfl⟩, trivial, ⟨_, rfl⟩, trivial, ⟨_, rfl⟩, trivial, ⟨_, rfl⟩, trivial,
    ⟨_, rfl⟩, ⟨trivial, trivial⟩, ⟨_, rfl⟩, tidy_texts, ⟨_, rfl⟩, tidy_offline,
    ⟨_, rfl⟩, ⟨⟨_, rfl⟩, trivial, trivial⟩, ⟨_, rfl⟩, tidy_modules, trivial⟩

end Frame

variable {s : Snapshot} {o : Options}

theorem exists_themeColor (h : ∀ t ∈ s.theme, t.primary.IsTextOrNull) :
    ∃ color, themeColor s = .ok color := by
  have hprimary : ((s.theme.map Theme.primary).getD .null).IsTextOrNull := by
    cases ht : s.theme
    case none => exact .inl rfl
    case some t => exact h t ht
  rw [themeColor]
  split
  case isTrue => exact ⟨_, rfl⟩
  case isFalse hp =>
    rcases hprimary with h | ⟨p, h⟩
    case inl => simp [h, Datum.truthy] at hp
    case inr =>
      rw [h]
      refine exists_bind ⟨p, rfl⟩ fun p => ?_
      split
      · exact ⟨_, rfl⟩
      · exact ⟨_, rfl⟩

theorem exists_definition {architecture state : Datum} {ms : List String} (hs : s.Fits)
    (ho : o.Fits) (ha : architecture.IsText) (ht : state.IsText) :
    ∃ f : Frame, definition s o architecture state (ms.map .text) = .ok f.definition ∧
      f.modules = ms := by
  obtain ⟨name, hname⟩ := hs.name
  obtain ⟨description, hdescription⟩ := hs.description
  obtain ⟨version, hversion⟩ := hs.version
  obtain ⟨architecture, rfl⟩ := ha
  obtain ⟨state, rfl⟩ := ht
  obtain ⟨encrypted, hencrypted⟩ := ho.encryption
  obtain ⟨color, hcolor⟩ := exists_themeColor hs.theme
  let f : Frame := ⟨name, description, architecture, state, color, name.firstChars 12,
    if version != "" then version else "3.10.0", if o.offline.truthy then some encrypted else none,
    ms⟩
  have hoffline : offlineSection o = f.offline := by
    rw [offlineSection, hencrypted, Frame.offline]
    dsimp only [f]
    split
    · rfl
    · rfl
  have horElse : (Datum.text version).orElse "3.10.0" = .text f.version := by
    rw [Datum.orElse, Datum.truthy]
    dsimp only [f]
    split
    · rfl
    · rfl
  have hmodules : ((ms.map Datum.text).map fun m =>
      Datum.record [("id", m), ("enabled", .bool true), ("config", .dict [])]) =
        f.modules.map fun m => .dict (Frame.entry m) := by
    rw [List.map_map]
    rfl
  refine ⟨f, ?_, rfl⟩
  rw [definition, hcolor, hname, hdescription, hversion, hoffline, horElse, hmodules]
  rfl

theorem exists_duplicateWarning {m : Model} (h : m.Spelled) :
    ∃ w, duplicateWarning m = .ok w := by
  obtain ⟨name, hname⟩ := h.name
  obtain ⟨file, hfile⟩ := h.file
  exact ⟨_, by rw [duplicateWarning, hname, hfile, Datum.toText_text, Datum.toText_text]; rfl⟩

theorem exists_emptyWarning {m : Model} (h : m.Spelled) : ∃ w, emptyWarning m = .ok w := by
  obtain ⟨name, hname⟩ := h.name
  obtain ⟨file, hfile⟩ := h.file
  exact ⟨_, by rw [emptyWarning, hname, hfile, Datum.toText_text, Datum.toText_text]; rfl⟩

theorem exists_migrationWarnings {models : List Model} (h : ∀ m ∈ models, m.Spelled) :
    ∃ ws, migrationWarnings o models = .ok ws := by
  rw [migrationWarnings]
  split
  case isTrue => exact ⟨_, rfl⟩
  case isFalse =>
    refine exists_bind (exists_mapM fun m hm => ?_) fun ws => ⟨_, rfl⟩
    exact exists_emptyWarning (h m (List.mem_filter.mp hm).1)

theorem exists_filesFor {folder : String} {names : List Datum} (h : ∀ n ∈ names, n.IsText) :
    ∃ fs, filesFor folder names = .ok fs :=
  exists_mapM fun n hn => exists_bind (Column.exists_snakeOf (h n hn)) fun _ => ⟨_, rfl⟩

theorem exists_generation {state : Datum} {models : List Model} {screens : List Screen}
    (hm : ∀ m ∈ models, m.Spelled) (hc : ∀ c ∈ screens, c.name.IsText) :
    ∃ g, generation o state models screens = .ok g := by
  have ⟨modelFiles, hmodels⟩ := @exists_filesFor "models" (models.map (·.name))
    (List.forall_mem_map.mpr fun m h => (hm m h).name)
  have ⟨screenFiles, hscreens⟩ := @exists_filesFor "screens" (screens.map (·.name))
    (List.forall_mem_map.mpr hc)
  rw [generation, hmodels, hscreens]
  split
  · exact ⟨_, rfl⟩
  · exact ⟨_, rfl⟩

theorem exists_tables {modules : List Datum} {models : List Model}
    (h : ∀ m ∈ models, m.Spelled) :
    ∃ ts, tables o modules models = .ok ts ∧ ∀ t ∈ ts, t.IsTable := by
  rw [tables]
  split
  case isTrue =>
    obtain ⟨ts, hts, htables⟩ := exists_mapM_all fun m hm => Table.exists_ofModel (h m hm)
    rw [hts]
    exact ⟨_, rfl, List.forall_mem_map.mpr htables⟩
  case isFalse => exact ⟨[], rfl, List.forall_mem_nil _⟩

end Plan

/-! The plan -/

-- A plan whose definition is made of texts, and whose parts are tidy.
structure Schema.Planned (p : Schema) (f : Plan.Frame) : Prop where
  definition : p.definition = f.definition
  modules_nodup : f.modules.Nodup
  modules_names : ∀ m ∈ f.modules, Path.Fits m
  models : ∀ d ∈ p.models, d.IsMigration
  screens : ∀ d ∈ p.screens, d.IsMigration
  tables : ∀ d ∈ p.tables, d.IsTable

variable {s : Snapshot} {o : Options}

theorem Schema.exists_planned (hs : s.Fits) (ho : o.Fits) :
    ∃ p f, Schema.ofSnapshot s o = .ok p ∧ p.Planned f := by
  have ⟨w₂, hconfidence⟩ := Plan.exists_confidenceWarnings hs.confidence
  have ⟨state, w₃, hstate, htext⟩ := @Plan.exists_chooseState _ o.state hs.state
  have ⟨ms, hmodules, hnodup, hnames⟩ := @Plan.exists_moduleNames s _ ho
  have ⟨models, again, hmodels, hmodelsSub, hagainSub⟩ :=
    Plan.exists_split Plan.modelKey [] fun m hm =>
      Plan.exists_key (hs.models m hm).1.file (hs.models m hm).1.name
  have ⟨screens, _, hscreens, hscreensSub, _⟩ :=
    Plan.exists_split Plan.screenKey [] fun c hc =>
      Plan.exists_key (hs.screens c hc).2 (hs.screens c hc).1.isText
  have ⟨screenKeys, hscreenKeys⟩ : ∃ ks, screens.mapM Plan.screenKey = .ok ks :=
    exists_mapM fun c hc => Plan.exists_key (hs.screens c (hscreensSub hc)).2
      (hs.screens c (hscreensSub hc)).1.isText
  have ⟨widgets, _, hwidgets, _, _⟩ :=
    Plan.exists_split Plan.widgetKey screenKeys fun w hw =>
      Plan.exists_key (hs.widgets w hw).2 (hs.widgets w hw).1
  have ⟨w₄, hagain⟩ := exists_mapM fun m hm =>
    Plan.exists_duplicateWarning (hs.models m (hagainSub hm)).1
  have hspelled : ∀ m ∈ models, m.Spelled := fun m hm => (hs.models m (hmodelsSub hm)).1
  have ⟨w₅, hwarnings⟩ := @Plan.exists_migrationWarnings o _ hspelled
  have ⟨migrations, hmigrations, hmoved⟩ := exists_mapM_all fun m hm =>
    @Plan.exists_modelMigration o _ (hspelled m hm) (hs.models m (hmodelsSub hm)).2
  have ⟨generation, hgeneration⟩ :=
    @Plan.exists_generation o state _ _ hspelled fun c hc =>
      (hs.screens c (hscreensSub hc)).1.isText
  have ⟨tables, htables, hall⟩ :=
    @Plan.exists_tables o (ms.map .text) _ hspelled
  have ⟨f, hdefinition, hf⟩ :=
    @Plan.exists_definition _ _ _ _ ms hs ho
      (Plan.chooseArchitecture_text hs.architecture ho.architecture) (htext ho.state)
  refine ⟨{
    definition := f.definition
    models := migrations
    screens := screens.map (Plan.screenMigration o)
    widgets := widgets.map Plan.widgetMigration
    generation := generation
    preserved := Plan.preservedFiles o models screens widgets
    warnings := ((Plan.chooseArchitecture s o.architecture).2 ++ w₂ ++ w₃ ++ w₄ ++ w₅).map .text
    tables := tables }, f, ?_, ⟨rfl, hf ▸ hnodup, hf ▸ hnames, hmoved, ?_, hall⟩⟩
  · simp only [Schema.ofSnapshot, hconfidence, hstate, hmodules, hmodels, hagain, hscreens,
      hscreenKeys, hwidgets, hwarnings, hmigrations, hgeneration, htables, hdefinition, bind,
      Except.bind, pure, Except.pure]
  · refine List.forall_mem_map.mpr fun c hc => ?_
    have hc := hs.screens c (hscreensSub hc)
    exact Plan.screenMigration_isMigration hc.1 hc.2

theorem Schema.exists_ofSnapshot (hs : s.Typed) (ho : o.Typed) :
    ∃ p f, Schema.ofSnapshot s o = .ok p ∧ p.Planned f :=
  exists_planned hs.fits ho.fits

-- The modules of a plan are all switched on when it is made.
theorem Schema.moduleIds_of_modules {p : Schema} {ds : List Datum}
    (h : p.modules = .ok (ds.map fun m =>
      .record [("id", m), ("enabled", .bool true), ("config", .dict [])])) : p.moduleIds = .ok ds := by
  have hids {k : Datum → Datum.Read (Option Datum)} (hk : ∀ m,
      k (.record [("id", m), ("enabled", .bool true), ("config", .dict [])]) = .ok (some m)) :
      (ds.map fun m => .record [("id", m), ("enabled", .bool true), ("config", .dict [])]).mapM k =
        .ok (ds.map some) := by
    rw [mapM_eq_ok, List.forall₂_map_left_iff, List.forall₂_map_right_iff]
    exact List.forall₂_same.mpr fun m _ => hk m
  rw [moduleIds, h]
  refine bind_eq_ok.mpr ⟨_, rfl, bind_eq_ok.mpr ⟨_, hids fun m => rfl, ?_⟩⟩
  change Except.ok ((ds.map some).filterMap id) = .ok ds
  rw [List.filterMap_map]
  exact congrArg Except.ok List.filterMap_some

end Refit
