import Mathlib.Data.List.Forall2
import Refit.Proofs.Plan.Unrepeated

/-!
The columns of a table: one for each field in turn, behind a key of the table's own if no field is
a key.

A field is seen to be a key by its name as it stands, and a column is named by the words of that
name. So a table without a key of its own can have two columns of one name, as can a table of two
fields whose names have the same words.
-/

namespace Refit

/-! Fields -/

-- Whether one of some texts mentions a word.
def Datum.anyHolds (word : String) (ds : List Datum) : Bool :=
  ds.any fun d => d.word?.any (·.holds word)

-- A field that is the key of its table.
def Field.isKey (f : Field) : Bool :=
  f.name.same "id" || Datum.anyHolds "primaryKey" f.annotations

-- The names of the fields, of a model whose fields have texts for names.
def Model.fieldNames (m : Model) : List String :=
  m.fields.filterMap (·.name.word?)

-- A name that some source can have.
def isWordName (s : String) : Bool :=
  s != "" && s.toList.all Letter.isWord

-- A name as a field has it by the language's conventions.
def isFieldName (s : String) : Bool :=
  isAlnum s && !isCapital s

/-! The column of a field -/

-- A column is the key or refers to another table, but not both, and only a key of integers counts
-- by itself.
structure Column.Sound (c : Column) : Prop where
  counted : c.autoIncrement → c.primaryKey ∧ c.sqlType = "integer"
  own : c.primaryKey → c.reference = none

-- The column that a field is given.
structure Column.Stores (f : Field) (c : Column) : Prop where
  named : f.name.word?.map snakeCase = some c.name
  dartName : c.dartName = f.name
  dartType : c.dartType = f.type
  primaryKey : c.primaryKey = f.isKey
  sound : c.Sound

namespace Column

variable {f : Field} {fs : List Field} {c : Column} {columns : List Column} {word : String}
  {ds : List Datum}

theorem anyMentions_texts (h : ∀ d ∈ ds, d.IsText) :
    anyMentions word ds = .ok (Datum.anyHolds word ds) := by
  induction ds
  case nil => rfl
  case cons d ds ih =>
    obtain ⟨⟨s, rfl⟩, hds⟩ := List.forall_mem_cons.mp h
    have hmentions : (Datum.text s).mentions word = .ok (s.holds word) := rfl
    have hholds : Datum.anyHolds word (.text s :: ds) =
        (s.holds word || Datum.anyHolds word ds) := rfl
    rw [anyMentions, hmentions, ih hds, hholds]
    cases s.holds word
    · rfl
    · rfl

theorem exists_stores (h : f.Typed) : ∃ c, ofField f = .ok c ∧ c.Stores f := by
  obtain ⟨name, hname⟩ := h.name
  obtain ⟨type, htype⟩ := h.type
  have hprimary := @anyMentions_texts "primaryKey" _ h.annotations
  have hunique := @anyMentions_texts "unique" _ h.annotations
  have hword : f.name.word?.map snakeCase = some (snakeCase name) := by rw [hname]; rfl
  rw [ofField, hname, htype]
  dsimp only
  rw [hunique, hprimary]
  split
  case isTrue hid =>
    have hkey : true = f.isKey := by simp [Field.isKey, hname, hid]
    exact ⟨_, rfl, hword, hname.symm, htype.symm, hkey, ⟨by simp, by simp⟩⟩
  case isFalse hid =>
    have hkey : Datum.anyHolds "primaryKey" f.annotations = f.isKey := by
      simp [Field.isKey, hname, hid]
    exact ⟨_, rfl, hword, hname.symm, htype.symm, hkey, ⟨by simp, by simp +contextual⟩⟩

theorem stores_of_mapM (h : ∀ f ∈ fs, f.Typed) (hc : fs.mapM ofField = .ok columns) :
    List.Forall₂ Stores fs columns := by
  refine ((List.forall₂_and_left _ _).mpr ⟨h, mapM_eq_ok.mp hc⟩).imp fun f c ⟨hf, hc⟩ => ?_
  have ⟨d, hd, hstores⟩ := exists_stores hf
  exact Except.ok.inj (hd.symm.trans hc) ▸ hstores

theorem key_sound : key.Sound :=
  ⟨fun _ => ⟨rfl, rfl⟩, fun _ => rfl⟩

theorem names_of_stores (h : List.Forall₂ Stores fs columns) :
    columns.map (·.name) = (fs.filterMap (·.name.word?)).map snakeCase := by
  induction h
  case nil => rfl
  case cons f c fs cs hc _ ih =>
    obtain ⟨n, hn, hname⟩ := Option.map_eq_some_iff.mp hc.named
    simp [hn, hname, ih]

theorem any_primaryKey_of_stores (h : List.Forall₂ Stores fs columns) :
    columns.any (·.primaryKey) = fs.any Field.isKey := by
  induction h
  case nil => rfl
  case cons f c fs cs hc _ ih => rw [List.any_cons, List.any_cons, hc.primaryKey, ih]

end Column

/-! The columns of a table -/

namespace Table

variable {m : Model} {t : Table} {columns : List Column}

-- A table with the columns that the fields of a model are given, behind a key if none of them is
-- one.
structure Mapped (m : Model) (t : Table) (columns : List Column) : Prop where
  stores : List.Forall₂ Column.Stores m.fields columns
  columns : t.columns = if m.fields.any Field.isKey then columns else Column.key :: columns

theorem exists_mapped (h : m.Spelled) : ∃ t columns, ofModel m = .ok t ∧ t.Mapped m columns := by
  have ⟨t, ht, _⟩ := exists_ofModel h
  have hmade := ht
  simp only [ofModel, bind_eq_ok, pure_eq_ok] at hmade
  obtain ⟨columns, hcolumns, names, hnames, name, hname, links, hlinks, rfl⟩ := hmade
  have hstores := Column.stores_of_mapM h.fields hcolumns
  exact ⟨_, columns, ht, hstores, by rw [withKey, Column.any_primaryKey_of_stores hstores]⟩

namespace Mapped

theorem names (h : t.Mapped m columns) : t.columns.map (·.name) =
    if m.fields.any Field.isKey then m.fieldNames.map snakeCase
    else "id" :: m.fieldNames.map snakeCase := by
  rw [h.columns]
  split
  case isTrue => exact Column.names_of_stores h.stores
  case isFalse =>
    rw [List.map_cons, Column.names_of_stores h.stores]
    rfl

theorem keyed (h : t.Mapped m columns) : ∃ c ∈ t.columns, c.primaryKey := by
  rw [h.columns]
  split
  case isTrue hkey => exact List.any_eq_true.mp (Column.any_primaryKey_of_stores h.stores ▸ hkey)
  case isFalse => exact ⟨_, List.mem_cons_self .., rfl⟩

theorem sound (h : t.Mapped m columns) : ∀ c ∈ t.columns, c.Sound := by
  have hcolumns : ∀ c ∈ columns, c.Sound := fun c hc =>
    have ⟨_, _, hstores⟩ := exists_of_forall₂ h.stores.flip hc
    hstores.sound
  rw [h.columns]
  split
  case isTrue => exact hcolumns
  case isFalse => exact List.forall_mem_cons.mpr ⟨Column.key_sound, hcolumns⟩

-- The names of the columns are distinct if those of the fields are in words, and if a key that is
-- put in front finds its name free.
theorem nodup_names_iff (h : t.Mapped m columns) : (t.columns.map (·.name)).Nodup ↔
    (m.fieldNames.map snakeCase).Nodup ∧
      (m.fields.any Field.isKey ∨ "id" ∉ m.fieldNames.map snakeCase) := by
  rw [h.names]
  split
  case isTrue hkey => simp [hkey]
  case isFalse hkey => rw [List.nodup_cons, and_comm, or_iff_right hkey]

end Mapped

-- A field that is named as the key is one.
theorem any_isKey (h : "id" ∈ m.fieldNames) : m.fields.any Field.isKey := by
  obtain ⟨f, hf, hid⟩ := List.mem_filterMap.mp h
  have hname : f.name = .text "id" := by
    rw [Datum.word?.eq_def] at hid
    split at hid
    case h_1 heq => rw [heq, Option.some.inj hid]
    case h_2 => cases hid
  exact List.any_eq_true.mpr ⟨f, hf, by rw [Field.isKey, hname, Datum.same_text]; rfl⟩

theorem snakeCase_fieldName_inj {n k : String} (hn : isFieldName n) (hk : isFieldName k) :
    snakeCase n = snakeCase k ↔ n = k := by
  rw [isFieldName, Bool.and_eq_true, Bool.not_eq_true'] at hn hk
  exact snakeCase_inj hn.1 hk.1 (hn.2.trans hk.2.symm)

theorem Mapped.nodup_names (h : t.Mapped m columns) (hfields : ∀ n ∈ m.fieldNames, isFieldName n)
    (hn : m.fieldNames.Nodup) : (t.columns.map (·.name)).Nodup := by
  refine h.nodup_names_iff.mpr ⟨?_, ?_⟩
  · exact (List.nodup_map_iff_inj_on hn).mpr fun n hn k hk =>
      (snakeCase_fieldName_inj (hfields n hn) (hfields k hk)).mp
  · rw [← imp_iff_or_not]
    intro hid
    obtain ⟨n, hn, hwords⟩ := List.mem_map.mp hid
    have hsame : n = "id" :=
      (snakeCase_fieldName_inj (hfields n hn) (by decide)).mp (hwords.trans (by decide))
    exact any_isKey (hsame ▸ hn)

-- Every field has its column and every table its key, but two columns can have one name: they have
-- different names exactly if the fields have different words, none of them those of a key that is
-- put in front of them. Names that follow the conventions of the language are of that kind.
theorem ofModel_columns (m : Model) (h : m.Spelled) : ∃ t columns, ofModel m = .ok t ∧
    List.Forall₂ Column.Stores m.fields columns ∧
    t.columns = (if m.fields.any Field.isKey then columns else Column.key :: columns) ∧
    (∃ c ∈ t.columns, c.primaryKey) ∧ (∀ c ∈ t.columns, c.Sound) ∧
    ((t.columns.map (·.name)).Nodup ↔ (m.fieldNames.map snakeCase).Nodup ∧
      (m.fields.any Field.isKey ∨ "id" ∉ m.fieldNames.map snakeCase)) ∧
    (m.fieldNames.Nodup → (∀ n ∈ m.fieldNames, isFieldName n) →
      (t.columns.map (·.name)).Nodup) := by
  have ⟨t, columns, ht, hmapped⟩ := exists_mapped h
  exact ⟨t, columns, ht, hmapped.stores, hmapped.columns, hmapped.keyed, hmapped.sound,
    hmapped.nodup_names_iff, fun hn hfields => hmapped.nodup_names hfields hn⟩

-- A model with fields of these names.
def account (names : List String) : Model where
  name := "Account"
  file := "lib/models/account.dart"
  fields := names.map fun n => { name := .text n, type := "String" }

theorem spelled_account (names : List String) : (account names).Spelled where
  name := ⟨_, rfl⟩
  file := ⟨_, rfl⟩
  fields := List.forall_mem_map.mpr fun _ _ => ⟨⟨_, rfl⟩, ⟨_, rfl⟩, .inl rfl, nofun⟩
  relationships := nofun

theorem ofModel_columns_account : (account ["ownerId", "mail"]).Spelled ∧
    ∃ t, ofModel (account ["ownerId", "mail"]) = .ok t ∧ (t.columns.map (·.name)).Nodup :=
  have h := spelled_account ["ownerId", "mail"]
  have ⟨t, _, ht, _, _, _, _, _, hdistinct⟩ := ofModel_columns _ h
  ⟨h, t, ht, hdistinct (by decide) (by decide)⟩

theorem names_account (names : List String) : ∃ t, ofModel (account names) = .ok t ∧
    t.columns.map (·.name) =
      if "id" ∈ names then names.map snakeCase else "id" :: names.map snakeCase := by
  have ⟨t, _, ht, hmapped⟩ := exists_mapped (spelled_account names)
  have hnames : (account names).fieldNames = names := by
    simp [Model.fieldNames, account, List.filterMap_map, Datum.word?]
  have hkey : (account names).fields.any Field.isKey ↔ "id" ∈ names := by
    simp [account, Field.isKey, Datum.anyHolds, Function.comp_def]
  refine ⟨t, ht, ?_⟩
  rw [hmapped.names, hnames]
  simp only [hkey]

-- A private field takes the name of the key, and two spellings of a name come to one.
theorem not_every_table_distinct :
    (∃ t, ofModel (account ["_id"]) = .ok t ∧ t.columns.map (·.name) = ["id", "id"]) ∧
    (∃ t, ofModel (account ["id", "userName", "user_name"]) = .ok t ∧
      t.columns.map (·.name) = ["id", "user_name", "user_name"]) ∧
    ¬∀ m : Model, m.Spelled → m.fieldNames.Nodup → (∀ n ∈ m.fieldNames, isWordName n) →
      ∃ t, ofModel m = .ok t ∧ (t.columns.map (·.name)).Nodup := by
  have hid : ∃ t, ofModel (account ["_id"]) = .ok t ∧ t.columns.map (·.name) = ["id", "id"] :=
    names_account ["_id"]
  refine ⟨hid, names_account ["id", "userName", "user_name"], fun hall => ?_⟩
  have ⟨t, ht, hdistinct⟩ := hall _ (spelled_account ["_id"]) (by decide) (by decide)
  have ⟨_, ht', hnames⟩ := hid
  obtain rfl := Except.ok.inj (ht.symm.trans ht')
  exact absurd (hnames ▸ hdistinct) (by decide)

end Table

end Refit
