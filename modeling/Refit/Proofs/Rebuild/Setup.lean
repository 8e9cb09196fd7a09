import Refit.Proofs.Rebuild.Sources
import Refit.Proofs.Rebuild.Tools

/-!
The modules of a plan that was made: every call of theirs is answered, and files can be made of what
the tools leave behind.
-/

namespace Refit

namespace Tool

variable {key key' : String} {d d' : Datum} {es : Dict} {draft : Ledger.Draft}

theorem settings_run : (ExceptT.run (settings es)).run draft =
    (.ok (), { draft with config := draft.config.putAll es }) :=
  rfl

theorem appendTo_run : (ExceptT.run (appendTo key d)).run draft =
    match draft.config.get? key with
    | none => (.ok (), { draft with config := draft.config.set key (.list [d]) })
    | some old =>
      match Datum.added draft.store old d with
      | some (new, store) => (.ok (), ⟨draft.config.set key new, store⟩)
      | none => (.error (.noMember old.kind "append"), draft) := by
  have hget : (ExceptT.run (appendTo key d)).run draft = (ExceptT.run (do
      match draft.config.get? key with
      | none => set { draft with config := draft.config.set key (.list [d]) }
      | some old =>
        match Datum.added draft.store old d with
        | some (new, store) => set (⟨draft.config.set key new, store⟩ : Ledger.Draft)
        | none => throw (.noMember old.kind "append") : Ledger.Edit)).run draft :=
    rfl
  rw [hget]
  split
  · rfl
  · split <;> rfl

-- A first setting, and a list that is begun.
theorem setting_append_run (h : key ≠ key') :
    (ExceptT.run (do setting key d; appendTo key' d')).run ⟨[], []⟩ =
      (.ok (), ⟨[(.text key, d), (.text key', .list [d'])], []⟩) := by
  change (ExceptT.run (appendTo key' d')).run ⟨[(.text key, d)], []⟩ = _
  rw [appendTo_run]
  simp [Dict.get?, Dict.set, Dict.put, h]

end Tool

namespace Rebuild

open Datum (EntriesShow Shows)
open Ledger (amid holding)

variable {p : ProjectRecord} {ms : Configs} {m : String} {c : Dict} {q : Schema} {f : Plan.Frame}
  {tables : List Datum} {entries : Dict} {draft : Option Dict} {planned : List ToolCall}

-- Calls that leave a module with a configuration, whatever else is configured.
def SetsUp (p : ProjectRecord) (m : String) (planned : List ToolCall) (c : Dict) : Prop :=
  ∀ ms : Configs, m ∉ ms.map Prod.fst → ∃ draft : Option Dict, draft.getD [] = c ∧
    Ends (makeCalls .ledger planned) (holding p ms) (.ok none) (amid p ms m draft)

theorem SetsUp.nil : SetsUp p m [] [] :=
  fun _ _ => ⟨none, rfl, makeCalls_nil.mpr ⟨rfl, Ledger.amid_none⟩⟩

theorem SetsUp.call {t : Tool} {args : Dict} {w : Tool.Work} (hw : t.work args = .ok w)
    (hid : args.get? "project_id" = some (.text p.id))
    (hedit : (ExceptT.run w.edit).run ⟨[], []⟩ = (.ok (), ⟨c, []⟩)) :
    SetsUp p t.module [⟨.text t.name, .dict args⟩] c := by
  intro ms hm
  have ⟨answer, hcall, haccepts⟩ := @Tool.call_amid p ms none args c t w hm hw hid hedit
  rw [← @Ledger.amid_none p ms t.module]
  exact ⟨some c, rfl, (makeCalls_of_accepts hcall haccepts).mpr (makeCalls_nil.mpr ⟨rfl, rfl⟩)⟩

/-! Modules with one call -/

theorem manifest_setsUp (h : q.Shown f tables) :
    ∃ planned, q.calls (.text p.id) "pwa" = .ok planned ∧
      SetsUp p "pwa" planned [(.text "manifest", .dict f.web)] := by
  have hcalls : q.calls (.text p.id) "pwa" = .ok [⟨.text Tool.manifest.name,
      .dict (Dict.putAll [(.text "project_id", .text p.id)] f.web)⟩] := by
    rw [Schema.calls, Datum.asMapping_of_entries? h.webSection_entries?]
    rfl
  have hargs : Dict.putAll [(.text "project_id", .text p.id)] f.web =
      (.text "project_id", .text p.id) :: f.web := by
    simp [Dict.putAll, Dict.put, Plan.Frame.web, Output.texts]
  have hmanifest : ((.text "project_id", .text p.id) :: f.web).filter
      (fun e => !e.1.same "project_id") = f.web := by
    simp [Plan.Frame.web, Output.texts]
  rw [hargs] at hcalls
  refine ⟨_, hcalls, @SetsUp.call _ _ .manifest _ _ rfl rfl ?_⟩
  rw [hmanifest]
  rfl

-- The configuration of the module that has the theme.
def themeConfig (color : String) : Dict :=
  [(.text "theme", .record [("primary_color", .text color), ("dark_mode", .bool true),
    ("font_family", .null)])]

theorem theme_setsUp (h : q.Shown f tables) :
    ∃ planned, q.calls (.text p.id) "design" = .ok planned ∧
      SetsUp p "design" planned (themeConfig f.color) := by
  have hcalls : q.calls (.text p.id) "design" = .ok [Schema.call .theme (.text p.id)
      [("primary_color", .text f.color), ("dark_mode", .bool true)]] := by
    rw [Schema.calls, Datum.optional_of_entries? h.webSection_entries?]
    rfl
  exact ⟨_, hcalls, @SetsUp.call _ _ .theme _ _ rfl rfl rfl⟩

def clientConfig : Dict :=
  [(.text "client", "dio"), (.text "base_url", ""), (.text "timeout", .int 30)]

theorem client_setsUp :
    ∃ planned, q.calls (.text p.id) "api" = .ok planned ∧ SetsUp p "api" planned clientConfig := by
  refine ⟨_, rfl, @SetsUp.call _ _ .client _ _ rfl rfl ?_⟩
  rw [Tool.settings_run]
  simp [Dict.putAll, Dict.put, Dict.get, Dict.get?, clientConfig]

-- The configuration of the module that keeps the state.
def stateConfig (state : String) : Dict :=
  if state == "bloc" then
    [(.text "type", "bloc"), (.text "blocs", .list [.record [("name", "AppBloc"),
      ("events", .texts ["LoadData", "UpdateData"]),
      ("states", .texts ["Initial", "Loading", "Loaded", "Error"])]])]
  else
    [(.text "type", "riverpod"), (.text "providers", .list [.record [("name", "appState"),
      ("state_type", "Map<String, dynamic>"), ("auto_dispose", .bool true)]])]

theorem state_setsUp (h : q.Shown f tables) :
    ∃ planned, q.calls (.text p.id) "state" = .ok planned ∧
      SetsUp p "state" planned (stateConfig f.state) := by
  refine ⟨_, rfl, ?_⟩
  rw [Schema.stateCall, @Schema.Shown.get_text _ _ _ "state_management" f.state _ h rfl, Datum.same_text,
    stateConfig]
  split
  case isTrue =>
    refine @SetsUp.call _ _ .bloc _ _ rfl rfl ?_
    rw [Tool.setting_append_run (by decide)]
    rfl
  case isFalse =>
    refine @SetsUp.call _ _ .provider _ _ rfl rfl ?_
    rw [Tool.setting_append_run (by decide)]
    rfl

/-! Tables -/

-- A table of a configuration with the name and the columns of a table of a plan, numbers aside.
def SameTable (t u : Datum) : Prop :=
  ∃ name columns plain, t.field "name" = .ok name ∧ u.field "name" = .ok name ∧
    t.field "columns" = .ok columns ∧ u.field "columns" = .ok plain ∧ columns.unshared = .ok plain

-- What is recorded of a table of a plan.
structure Recorded (t u : Datum) : Prop where
  same : SameTable t u
  tidy : t.Tidy true
  named : ∃ n, t.field "name" = .ok n ∧ n.IsText

-- A call that records a table.
def Records (p : ProjectRecord) (c : ToolCall) (u : Datum) : Prop :=
  ∃ (args : Dict) (w : Tool.Work) (t : Datum), c = ⟨.text Tool.addTable.name, .dict args⟩ ∧ Tool.addTable.work args = .ok w ∧
    args.get? "project_id" = some (.text p.id) ∧ w.edit = Tool.appendTo "tables" t ∧ Recorded t u

theorem exists_tableCall {t u : Datum} (h : Shows t u) (hu : u.IsTable) :
    ∃ c, Schema.tableCall (.text p.id) t = .ok c ∧ Records p c u := by
  obtain ⟨es, name, columns, rfl, _, hname, hcolumns⟩ := hu
  have ⟨_, hname', hn⟩ := h.exists_field hname
  rw [hn.eq_of_not_isBlock rfl] at hname'
  have ⟨columns', hcolumns', hshow⟩ := h.exists_field hcolumns
  have ⟨ys, hys, hall⟩ := hshow.exists_items
  have ⟨fs, hfs, _⟩ := h.exists_entries?
  have ⟨htidy, hunshared⟩ := Datum.allShow_iff.mp hall
  let args : Dict := [(.text "project_id", .text p.id), (.text "name", .text name),
    (.text "columns", columns'), (.text "timestamps", fs.get "timestamps" (.bool false)),
    (.text "soft_delete", fs.get "soft_delete" (.bool false))]
  let table : Datum := .record [("name", .text name), ("columns", .list ys),
    ("timestamps", Tool.flag args "timestamps" false),
    ("soft_delete", Tool.flag args "soft_delete" false)]
  have hcall : Schema.tableCall (.text p.id) t = .ok ⟨.text Tool.addTable.name, .dict args⟩ := by
    rw [Schema.tableCall, hname', hcolumns', Datum.optional_of_entries? hfs,
      Datum.optional_of_entries? hfs]
    rfl
  have hwork : Tool.addTable.work args =
      .ok ⟨Tool.appendTo "tables" table, [("table", .text name)]⟩ :=
    bind_eq_ok.mpr ⟨.text name, rfl, bind_eq_ok.mpr ⟨.list ys, bind_eq_ok.mpr ⟨ys, hys, rfl⟩, rfl⟩⟩
  refine ⟨_, hcall, args, _, table, rfl, hwork, rfl, rfl, ⟨?same, ?tidy, _, rfl, name, rfl⟩⟩
  case same =>
    refine ⟨.text name, .list ys, .list columns, rfl, ?_, rfl, ?_, map_eq_ok.mpr ⟨_, hunshared, rfl⟩⟩
    · simp [Datum.field, Datum.opened, hname]
    · simp [Datum.field, Datum.opened, hcolumns]
  case tidy =>
    exact ⟨⟨_, rfl⟩, trivial, ⟨_, rfl⟩, htidy, ⟨_, rfl⟩, trivial, ⟨_, rfl⟩, trivial, trivial⟩

theorem exists_tableCalls {ts us : List Datum} (h : List.Forall₂ Shows ts us)
    (hu : ∀ u ∈ us, u.IsTable) :
    ∃ cs, ts.mapM (Schema.tableCall (.text p.id)) = .ok cs ∧ List.Forall₂ (Records p) cs us := by
  induction h
  case nil => exact ⟨[], rfl, .nil⟩
  case cons t u ts us ht _ ih =>
    have ⟨hu, hus⟩ := List.forall_mem_cons.mp hu
    have ⟨c, hc, hrecords⟩ := @exists_tableCall p t u ht hu
    have ⟨cs, hcs, hall⟩ := ih hus
    exact ⟨c :: cs, mapM_eq_ok.mpr (.cons hc (mapM_eq_ok.mp hcs)), .cons hrecords hall⟩

-- The configuration with certain tables, which is none without any.
def tablesDraft : List Datum → Option Dict
  | [] => none
  | ts => some [(.text "tables", .list ts)]

theorem tablesDraft_concat {ts : List Datum} {t : Datum} :
    tablesDraft (ts ++ [t]) = some [(.text "tables", .list (ts ++ [t]))] := by
  cases ts <;> rfl

-- Tables are recorded in their order.
theorem makeCalls_records {cs : List ToolCall} {us : List Datum}
    (h : List.Forall₂ (Records p) cs us) :
    ∃ ts, List.Forall₂ Recorded ts us ∧ ∀ (ms : Configs) (done : List Datum) (rest : List ToolCall)
      (r : Except Stop (Option String)) (l : Ledger), "drift" ∉ ms.map Prod.fst →
      (Ends (makeCalls .ledger (cs ++ rest)) (amid p ms "drift" (tablesDraft done)) r l ↔
        Ends (makeCalls .ledger rest) (amid p ms "drift" (tablesDraft (done ++ ts))) r l) := by
  induction h
  case nil => exact ⟨[], .nil, fun ms done rest r l _ => by rw [List.append_nil]; rfl⟩
  case cons c u cs us hc _ ih =>
    obtain ⟨args, w, t, rfl, hw, hid, hedit, hrecorded⟩ := hc
    have ⟨ts, hts, hrest⟩ := ih
    refine ⟨t :: ts, .cons hrecorded hts, fun ms done rest r l hm => ?_⟩
    have hrun : (ExceptT.run w.edit).run ⟨(tablesDraft done).getD [], []⟩ =
        (.ok (), ⟨[(.text "tables", .list (done ++ [t]))], []⟩) := by
      rw [hedit, Tool.appendTo_run]
      cases done <;> simp [tablesDraft, Dict.get?, Dict.set, Dict.put, Datum.added]
    obtain ⟨answer, hcall, haccepts⟩ := @Tool.call_amid p ms _ args _ .addTable w hm hw hid hrun
    rw [← tablesDraft_concat] at hcall
    rw [List.append_cons done]
    exact (makeCalls_of_accepts hcall haccepts).trans (hrest ms (done ++ [t]) rest r l hm)

-- The configuration of a database with certain tables.
def databaseConfig (ts : List Datum) (encrypted : Bool) : Dict :=
  (tablesDraft ts).getD [] ++
    if encrypted then
      [(.text "encryption", .record [("enabled", .bool true), ("strategy", "stored")])]
    else []

theorem database_setsUp (h : q.Shown f tables) (ht : ∀ t ∈ tables, t.IsTable) :
    ∃ planned ts encrypted, q.calls (.text p.id) "drift" = .ok planned ∧
      List.Forall₂ Recorded ts tables ∧ SetsUp p "drift" planned (databaseConfig ts encrypted) := by
  have ⟨encrypted, hencrypted⟩ := (h.wellFormed ht).exists_encrypts
  have ⟨cs, hcs, hrecords⟩ := @exists_tableCalls p _ _ h.tables ht
  have ⟨ts, hts, hmade⟩ := makeCalls_records hrecords
  rw [Schema.map_self] at hencrypted
  have hcalls : q.calls (.text p.id) "drift" = .ok (cs ++ if encrypted then
      [Schema.call .encrypt (.text p.id) [("strategy", "stored")]] else []) := by
    rw [Schema.calls, hcs, hencrypted]
    cases encrypted
    case false => rw [if_neg (by decide), List.append_nil]; rfl
    case true => rfl
  refine ⟨_, ts, encrypted, hcalls, hts, fun ms hm => ?_⟩
  rw [← @Ledger.amid_none p ms "drift"]
  cases encrypted
  case false =>
    refine ⟨tablesDraft ts, by simp [databaseConfig], ?_⟩
    exact (hmade ms [] [] _ _ hm).mpr (makeCalls_nil.mpr ⟨rfl, rfl⟩)
  case true =>
    refine ⟨some (databaseConfig ts true), rfl, (hmade ms [] _ _ _ hm).mpr ?_⟩
    have hrun : (ExceptT.run (Tool.setting "encryption" (.record [("enabled", .bool true),
        ("strategy", "stored")]))).run ⟨(tablesDraft ts).getD [], []⟩ =
          (.ok (), ⟨databaseConfig ts true, []⟩) := by
      rw [Tool.setting, Tool.settings_run]
      cases ts <;> simp [tablesDraft, databaseConfig, Dict.putAll, Dict.put]
    obtain ⟨answer, hcall, haccepts⟩ := @Tool.call_amid p ms (tablesDraft ts)
      [(.text "project_id", .text p.id), (.text "strategy", "stored")] _ .encrypt _ hm rfl rfl hrun
    exact (makeCalls_of_accepts hcall haccepts).mpr (makeCalls_nil.mpr ⟨rfl, rfl⟩)

/-! All modules -/

-- A configuration of a module of a plan with certain tables and a certain frame, once the tools are
-- done with it.
structure Furnished (tables : List Datum) (f : Plan.Frame) (m : String) (c : Dict) : Prop where
  usable : Output.Usable m c
  tables : m = "drift" →
    ∃ ts, Dict.get c "tables" (.list []) = .list ts ∧ List.Forall₂ SameTable ts tables
  state : m = "state" → c = stateConfig f.state
  theme : m = "design" → c = themeConfig f.color

theorem databaseConfig_furnished {ts : List Datum} {encrypted : Bool}
    (h : List.Forall₂ Recorded ts tables) :
    Furnished tables f "drift" (databaseConfig ts encrypted) := by
  have hget : Dict.get (databaseConfig ts encrypted) "tables" (.list []) = .list ts := by
    cases ts <;> cases encrypted <;> simp [databaseConfig, tablesDraft, Dict.get, Dict.get?]
  have hrecorded : ∀ t ∈ ts, t.Tidy true ∧ ∃ n, t.field "name" = .ok n ∧ n.IsText := by
    intro t ht
    obtain ⟨_, _, hr⟩ := exists_of_forall₂ h ht
    exact ⟨hr.tidy, hr.named⟩
  have htidy : Datum.AllTidy true ts := Datum.allTidy_iff.mpr fun t ht => (hrecorded t ht).1
  refine ⟨Output.usable_database ?_ hget fun t ht => (hrecorded t ht).2,
    fun _ => ⟨ts, hget, h.imp fun _ _ hr => hr.same⟩, fun hs => absurd hs (by decide),
    fun hs => absurd hs (by decide)⟩
  have hencryption : Datum.Tidy true (.record [("enabled", .bool true), ("strategy", "stored")]) :=
    ⟨⟨_, rfl⟩, trivial, ⟨_, rfl⟩, trivial, trivial⟩
  cases ts <;> cases encrypted
  case nil.false => trivial
  case nil.true => exact ⟨⟨_, rfl⟩, hencryption, trivial⟩
  case cons.false => exact ⟨⟨_, rfl⟩, htidy, trivial⟩
  case cons.true => exact ⟨⟨_, rfl⟩, htidy, ⟨_, rfl⟩, hencryption, trivial⟩

theorem stateConfig_usable {state : String} : Output.Usable "state" (stateConfig state) := by
  have hnames {name : String} {es : List (String × Datum)} :
      ∀ x ∈ [Datum.record (("name", .text name) :: es)], ∃ n, x.field "name" = .ok n ∧ n.IsText :=
    List.forall_mem_singleton.mpr ⟨_, rfl, _, rfl⟩
  rw [stateConfig]
  split
  case isTrue =>
    refine Output.usable_blocs ⟨⟨_, rfl⟩, trivial, ⟨_, rfl⟩, ⟨⟨⟨_, rfl⟩, trivial, ⟨_, rfl⟩, ?_, ⟨_, rfl⟩,
      ?_, trivial⟩, trivial⟩, trivial⟩ rfl rfl hnames
    · exact ⟨trivial, trivial, trivial⟩
    · exact ⟨trivial, trivial, trivial, trivial, trivial⟩
  case isFalse =>
    exact @Output.usable_providers _ _ "riverpod" ⟨⟨_, rfl⟩, trivial, ⟨_, rfl⟩, ⟨⟨⟨_, rfl⟩, trivial,
      ⟨_, rfl⟩, trivial, ⟨_, rfl⟩, trivial, trivial⟩, trivial⟩, trivial⟩ rfl (by decide) rfl hnames

theorem exists_setsUp (h : q.Shown f tables) (ht : ∀ t ∈ tables, t.IsTable) (m : String) :
    ∃ planned c, q.calls (.text p.id) (.text m) = .ok planned ∧ SetsUp p m planned c ∧
      Furnished tables f m c := by
  by_cases hd : m = "drift"
  case pos =>
    obtain ⟨planned, ts, encrypted, hcalls, hts, hup⟩ := @database_setsUp p _ _ _ h ht
    exact hd ▸ ⟨planned, _, hcalls, hup, databaseConfig_furnished hts⟩
  case neg =>
    suffices hu : ∃ planned c, q.calls (.text p.id) (.text m) = .ok planned ∧ SetsUp p m planned c ∧
        Output.Usable m c ∧ (m = "state" → c = stateConfig f.state) ∧
          (m = "design" → c = themeConfig f.color) by
      obtain ⟨planned, c, hcalls, hup, husable, hstate, htheme⟩ := hu
      exact ⟨planned, c, hcalls, hup, husable, fun hm => absurd hm hd, hstate, htheme⟩
    by_cases hn : Schema.needsTools (.text m)
    case neg =>
      have hn := Bool.eq_false_iff.mpr hn
      refine ⟨[], [], Schema.calls_of_not_needsTools hn, .nil, Output.usable_other hn, ?_, ?_⟩
      all_goals
        rintro rfl
        simp [Schema.needsTools, Schema.toolModules] at hn
    case pos =>
      have hm : m = "pwa" ∨ m = "design" ∨ m = "api" ∨ m = "state" := by
        simpa [Schema.needsTools, Schema.toolModules, hd] using hn
      rcases hm with rfl | rfl | rfl | rfl
      · obtain ⟨planned, hcalls, hup⟩ := @manifest_setsUp p _ _ _ h
        exact ⟨planned, _, hcalls, hup, Output.usable_manifest, fun hs => absurd hs (by decide),
          fun hs => absurd hs (by decide)⟩
      · obtain ⟨planned, hcalls, hup⟩ := @theme_setsUp p _ _ _ h
        exact ⟨planned, _, hcalls, hup, Output.usable_theme
          ⟨⟨_, rfl⟩, trivial, ⟨_, rfl⟩, trivial, ⟨_, rfl⟩, trivial, trivial⟩,
          fun hs => absurd hs (by decide), fun _ => rfl⟩
      · obtain ⟨planned, hcalls, hup⟩ := @client_setsUp p q
        have hlimit : Datum.isWritable 30 := by decide +kernel
        exact ⟨planned, _, hcalls, hup, Output.usable_client
          ⟨⟨_, rfl⟩, trivial, ⟨_, rfl⟩, trivial, ⟨_, rfl⟩, hlimit, trivial⟩ rfl,
          fun hs => absurd hs (by decide), fun hs => absurd hs (by decide)⟩
      · obtain ⟨planned, hcalls, hup⟩ := @state_setsUp p _ _ _ h
        exact ⟨planned, _, hcalls, hup, stateConfig_usable, fun _ => rfl,
          fun hs => absurd hs (by decide)⟩

theorem exists_entriesOf (h : q.Shown f tables) : ∃ entries, entriesOf q = .ok entries := by
  have ⟨ms, hms, hall⟩ := h.exists_modules
  refine exists_bind_of_ok hms (exists_bind (exists_mapM fun d hd => ?_) fun _ => ⟨_, rfl⟩)
  obtain ⟨_, hmem, hshow⟩ := exists_of_forall₂ hall hd
  obtain ⟨n, _, rfl⟩ := List.mem_map.mp hmem
  have ⟨v, hv, hid⟩ := @Shows.exists_field _ _ "id" (.text n) hshow rfl
  rw [hid.eq_of_not_isBlock rfl] at hv
  exact exists_bind_of_ok hv (exists_bind_of_ok (Datum.asKey_eq_ok.mpr ⟨rfl, Datum.isKey_text⟩) ⟨_, rfl⟩)

-- A plan that was made has no configuration of its own for any module.
theorem configOf_shown (h : q.Shown f tables) (hentries : entriesOf q = .ok entries) {d : Datum} :
    configOf Engine.ledger entries (amid p ms m draft) d = .ok [] := by
  have ⟨ys, hys, hmem⟩ := @entry_mem q entries d hentries
  have ⟨ys', hys', hall⟩ := h.exists_modules
  obtain rfl : ys = ys' := Except.ok.inj (hys.symm.trans hys')
  have hconfig : ∀ e ∈ Datum.dict [] :: ys, ∃ es, e.entries? = some es ∧
      ((Dict.get es "config").orElse (.dict [])).toDict = .ok [] := by
    refine List.forall_mem_cons.mpr ⟨⟨[], rfl, rfl⟩, fun e he => ?_⟩
    obtain ⟨_, hmem, hshow⟩ := exists_of_forall₂ hall he
    obtain ⟨n, _, rfl⟩ := List.mem_map.mp hmem
    obtain ⟨fs, hfs, hentries⟩ := hshow.exists_entries?
    obtain ⟨w, hw, hempty⟩ := @Shows.exists_get? _ _ "config" (.dict []) hentries rfl
    exact ⟨fs, hfs, by rw [Dict.get, hw, Option.getD_some, Datum.orElse, hempty.truthy_dict]; rfl⟩
  obtain ⟨es, hes, hnone⟩ := hconfig _ hmem
  exact bind_eq_ok.mpr ⟨es, Datum.asDict_of_entries? hes, hnone⟩

theorem configure_shown (h : q.Shown f tables) (ht : ∀ t ∈ tables, t.IsTable)
    (hentries : entriesOf q = .ok entries) {names : List String} (hn : names.Nodup)
    (hd : ∀ n ∈ names, n ∉ ms.map Prod.fst) :
    ∃ cs : Configs, cs.map Prod.fst = names ∧ (∀ e ∈ cs, Furnished tables f e.1 e.2) ∧
      Ends (configure .ledger .ledger q entries (.text p.id) (names.map .text)) (holding p ms)
        (.ok (names.map .text, [])) (holding p (ms ++ cs)) := by
  induction names generalizing ms
  case nil => exact ⟨[], rfl, nofun, Ends.pure_iff.mpr ⟨rfl, by rw [List.append_nil]⟩⟩
  case cons n names ih =>
    have ⟨hnot, hn⟩ := List.nodup_cons.mp hn
    have ⟨hfree, hd⟩ := List.forall_mem_cons.mp hd
    have ⟨planned, c, hcalls, hup, hfurnished⟩ := @exists_setsUp p _ _ _ h ht n
    obtain ⟨draft, rfl, hmade⟩ := hup ms hfree
    have hone := configureOne_of_calls hfree hcalls hmade (configOf_shown h hentries)
    have hd' : ∀ x ∈ names, x ∉ (ms ++ [(n, draft.getD [])]).map Prod.fst := by
      intro x hx hmem
      rw [List.map_append, List.mem_append, List.map_singleton, List.mem_singleton] at hmem
      exact hmem.elim (hd x hx) fun he : x = n => hnot (he ▸ hx)
    have ⟨cs, hcs, hall, hrest⟩ := ih hn hd'
    refine ⟨(n, draft.getD []) :: cs, by rw [List.map_cons, hcs], List.forall_mem_cons.mpr
      ⟨hfurnished, hall⟩, ?_⟩
    rw [List.append_assoc] at hrest
    refine (Ends.bind_of_ok (Work.outcome_iff.mpr hone)).mpr ?_
    refine (Ends.bind_of_ok (Work.ofRead_ok_iff.mpr ⟨rfl, rfl⟩)).mpr ?_
    exact (Ends.bind_of_ok hrest).mpr (Ends.pure_iff.mpr ⟨rfl, rfl⟩)

end Rebuild

end Refit
