import Refit.Proofs.Plan.Stored
import Refit.Proofs.Project.Shaped
import Refit.Proofs.Rebuild.Answering
import Refit.Proofs.Session.Looks

/-!
Which requests for a plan and for a rebuild are answered.

An analysis is answered if its sections are mappings and what is read of it has values of the right
kinds, and a plan that was made of such an analysis is answered wherever its paths can be asked for.
Other objects are stopped by faults that no tool expects.
-/

namespace Refit

/-! Kept files -/

theorem Category.not_null_target {category path : String} (hc : '\x00' ∉ category.toList)
    (hp : '\x00' ∉ path.toList) : '\x00' ∉ (target category path).toList := by
  have hlib {kept : String} (hk : '\x00' ∉ kept.toList) :
      '\x00' ∉ ("lib/" ++ category ++ "/" ++ kept).toList := by
    simp [hc, hk]
  rw [target]
  split
  case h_1 s hs =>
    obtain ⟨a, ha⟩ := Text.exists_of_afterLast? hs
    refine hlib fun hn => hp ?_
    rw [String.toList_ofList] at hn
    have hmem : '\x00' ∈ '/' :: path.toList := ha ▸ List.mem_append_right _ hn
    exact (List.mem_cons.mp hmem).resolve_left (by decide)
  case h_2 =>
    refine hlib fun hn => hp ?_
    rw [Path.name] at hn
    cases hlast : (Path.steps path).getLast?
    case none => simp [hlast] at hn
    case some w =>
      rw [hlast, Option.getD_some] at hn
      obtain ⟨cs, hcs, rfl⟩ := List.mem_map.mp (List.mem_filter.mp (List.mem_of_getLast? hlast)).1
      exact Text.mem_of_mem_split hcs (by simpa using hn)

namespace Schema

variable {p : Schema} {s : Snapshot} {o : Options} {fs : List SourceFile} {kept : Groups}
  {out : String}

theorem preserved_texts (hs : s.Typed) (h : ofSnapshot s o = .ok p) : ∀ d ∈ p.preserved, d.IsText := by
  obtain ⟨m, hm⟩ := preserved_ofSnapshot h
  intro d hd
  rw [hm] at hd
  rcases List.mem_append.mp (Plan.mem_of_mem_distinct hd) with hd | hd
  · rcases List.mem_append.mp hd with hd | hd
    · split at hd
      · obtain ⟨x, hx, rfl⟩ := List.mem_map.mp hd
        exact (hs.models x (m.models_sub hx)).file
      · cases hd
    · split at hd
      · obtain ⟨x, hx, rfl⟩ := List.mem_map.mp hd
        exact (hs.screens x (m.screens_sub hx)).file
      · cases hd
  · obtain ⟨x, hx, rfl⟩ := List.mem_map.mp hd
    exact (hs.widgets x (m.widgets_sub hx)).file

theorem exists_keptFiles (h : ∀ d ∈ p.preserved, d.IsText) : ∃ kept, p.keptFiles fs = .ok kept := by
  refine exists_bind (exists_mapM fun d hd => ?_) fun _ => ⟨_, rfl⟩
  exact ⟨d, Datum.asKey_eq_ok.mpr ⟨rfl, (h d hd).isKey⟩⟩

theorem copyable_keptFiles (h : p.keptFiles fs = .ok kept) (hout : '\x00' ∉ out.toList)
    (hfs : ∀ f ∈ fs, '\x00' ∉ f.path.toList) : Rebuild.Copyable (.ofText out) kept := by
  intro category f hf hn
  obtain ⟨hfirst, c, _, rfl⟩ := Groups.holds_ofFiles.mp ((holds_keptFiles h).mp hf).1
  have hname : '\x00' ∉ c.name.toList := by cases c <;> decide
  rcases Location.hasNull_append hn with hn | hn
  · exact hout (Location.hasNull_ofText hn)
  · exact Category.not_null_target hname (hfs f hfirst.mem) (Location.hasNull_ofText hn)

end Schema

namespace ToolRequest

-- An answer that tells whether its tool succeeded.
def Answered (d : Datum) : Prop :=
  ∃ es : Dict, d = .dict es ∧ (es.get? "status" = some "ok" ∨ es.get? "status" = some "error")

theorem answered_ok {fields : List (String × Datum)} : Answered (ok fields) :=
  ⟨_, rfl, .inl rfl⟩

theorem answered_failed {message : Datum} {fields : List (String × Datum)} :
    Answered (failed message fields) :=
  ⟨_, rfl, .inr rfl⟩

theorem answered_rebuilt {r : RebuildResult} : Answered (rebuilt r) := by
  rw [rebuilt]
  split
  · exact answered_ok
  · exact answered_failed

variable {d : Datum} {es : Dict} {s : Snapshot} {o : Options} {p : Schema} {f : Plan.Frame}
  {kept : Groups} {out path : String} {before : Session}

/-! Plans -/

theorem planRebuild_unfit {f : Fault} (h : Snapshot.ofDatum d = .error f) (hf : isUnfit f) :
    planRebuild d o = .ok (failed (.text ("Invalid analysis: " ++ f.message))) := by
  rw [planRebuild, h]
  exact if_pos hf

theorem planRebuild_typed (hd : d.Plain) (h : Snapshot.ofDatum d = .ok s) (hs : s.Typed)
    (ho : o.Typed) (hop : o.toDatum.Plain) :
    ∃ p, Schema.ofSnapshot s o = .ok p ∧ planRebuild d o = .ok (ok [("schema", p.toDatum)]) := by
  obtain ⟨p, f, hp, _⟩ := Schema.exists_ofSnapshot hs ho
  have hcopy : p.toDatum.unshared = .ok p.toDatum :=
    Datum.unshared_of_plain _ (Schema.ofSnapshot_plain (Snapshot.ofDatum_plain hd h) hop hp)
  refine ⟨p, hp, ?_⟩
  rw [planRebuild, h]
  exact bind_eq_ok.mpr ⟨p, hp, bind_eq_ok.mpr ⟨_, hcopy, rfl⟩⟩

/-! Rebuilds -/

-- A folder that a tool can ask for.
structure Askable (path : String) : Prop where
  folder : (Location.ofText path).Short
  manifest : ((Location.ofText path).child SourceTree.manifestName).Short

theorem exists_rebuildWith (h : p.Planned f) (hout : '\x00' ∉ out.toList)
    (hkept : Rebuild.Copyable (.ofText out) kept) (hidle : before.programs.Idle)
    (hc : ∃ r s', Ends Config.current before (.ok r) s') :
    ∃ a after, Ends (rebuildWith p (.text out) kept) before (.ok a) after ∧ Answered a := by
  obtain ⟨c, opened, hcurrent⟩ := hc
  have hlooked := Config.current_looks _ _ _ hcurrent
  obtain ⟨r, after, hends⟩ := @Rebuild.exists_standard p f c.settings kept opened out h hout hkept
    (hlooked.programs ▸ hidle)
  refine ⟨rebuilt r, after, (Ends.bind_of_ok hcurrent).mpr ?_, answered_rebuilt⟩
  refine (Ends.bind_of_ok (Ends.pure_iff.mpr ⟨rfl, rfl⟩)).mpr ?_
  exact (Ends.bind_of_ok hends).mpr (Ends.pure_iff.mpr ⟨rfl, rfl⟩)

theorem exists_rebuildProject (hs : s.Typed) (ho : o.Typed) (hp : Schema.ofSnapshot s o = .ok p)
    (hout : '\x00' ∉ out.toList) (hdisk : before.disk.NullFree) (hidle : before.programs.Idle)
    (hc : ∃ r s', Ends Config.current before (.ok r) s') {source : Datum}
    (hsource : source = .null ∨ ∃ path, source = .text path ∧ Askable path) :
    ∃ a after, Ends (rebuildProject p.toDatum (.text out) source) before (.ok a) after ∧
      Answered a := by
  obtain ⟨_, f, hp', hplanned⟩ := Schema.exists_ofSnapshot hs ho
  obtain rfl := Except.ok.inj (hp.symm.trans hp')
  have hread : Ends (Action.ofRead (Schema.ofDatum p.toDatum)) before (.ok p) before :=
    Action.ofRead_ok_iff.mpr ⟨Schema.ofDatum_toDatum, rfl⟩
  have hnone : Rebuild.Copyable (.ofText out) [] := by
    rintro _ _ ⟨_, h, _⟩
    cases h
  rw [rebuildProject]
  by_cases ht : source.truthy
  case neg =>
    obtain ⟨a, after, hends, ha⟩ := exists_rebuildWith hplanned hout hnone hidle hc
    refine ⟨a, after, (Ends.bind_of_ok hread).mpr ?_, ha⟩
    simpa [ht] using hends
  case pos =>
    obtain ⟨path, rfl, hfolder, hmanifest⟩ := hsource.resolve_left (by rintro rfl; cases ht)
    obtain ⟨b, hb⟩ := @Disk.exists_isFolder before.disk before.cwd _ hfolder
    have hasked : Ends (Action.isFolder (.ofText path)) before (.ok b) before :=
      Action.ask_iff.mpr ⟨hb.symm, rfl⟩
    have hpath : Ends (pathOf (.text path)) before (.ok path) before := Ends.pure_iff.mpr ⟨rfl, rfl⟩
    cases b
    case false =>
      refine ⟨notFolder path, before, (Ends.bind_of_ok hread).mpr ?_, answered_failed⟩
      simp only [ht]
      refine (Ends.bind_of_ok hpath).mpr ((Ends.bind_of_ok hasked).mpr ?_)
      exact Ends.pure_iff.mpr ⟨rfl, rfl⟩
    case true =>
      obtain ⟨fs, hfs, hnull⟩ := SourceTree.exists_read hdisk hb hmanifest
      obtain ⟨kept, hkept⟩ := @Schema.exists_keptFiles p fs (Schema.preserved_texts hs hp)
      obtain ⟨a, after, hends, ha⟩ :=
        exists_rebuildWith hplanned hout (Schema.copyable_keptFiles hkept hout hnull) hidle hc
      refine ⟨a, after, (Ends.bind_of_ok hread).mpr ?_, ha⟩
      simp only [ht]
      refine (Ends.bind_of_ok hpath).mpr ((Ends.bind_of_ok hasked).mpr ?_)
      refine (Ends.bind_of_ok hfs).mpr ?_
      exact (Ends.bind_of_ok (Action.ofRead_ok_iff.mpr ⟨hkept, rfl⟩)).mpr hends

/-! Requests -/

-- A request for a plan is answered where the analysis is a mapping with mappings as its sections and
-- with values of the right kinds, and so is a request to carry out the plan.
theorem plan_and_rebuild_answered (ho : o.Typed) (hop : o.toDatum.Plain) :
    (∀ d es, d.Plain → d.entries? = some es → Snapshot.Shaped es →
      (∀ s, Snapshot.ofDatum d = .ok s → s.Typed) → ∀ before,
        ∃ a, Ends (plan d o).answer before (.ok a) before ∧ Answered a ∧
          ∀ s, Snapshot.ofDatum d = .ok s →
            ∃ p, Schema.ofSnapshot s o = .ok p ∧ a = ok [("schema", p.toDatum)]) ∧
    (∀ s p out source before, s.Typed → Schema.ofSnapshot s o = .ok p → '\x00' ∉ out.toList →
      before.disk.NullFree → before.programs.Idle →
      (∃ r s', Ends Config.current before (.ok r) s') →
      (source = .null ∨ ∃ path, source = .text path ∧ Askable path) →
        ∃ a after, Ends (rebuild p.toDatum (.text out) source).answer before (.ok a) after ∧
          Answered a) := by
  constructor
  · intro d es hd h hshaped htyped before
    cases hread : Snapshot.ofDatum d
    case error f =>
      have hplan := @planRebuild_unfit d o f hread (Snapshot.ofDatum_unfit hd h hshaped f hread)
      exact ⟨_, Action.ofRead_ok_iff.mpr ⟨hplan, rfl⟩, answered_failed, nofun⟩
    case ok s =>
      obtain ⟨p, hp, hplan⟩ := planRebuild_typed hd hread (htyped s hread) ho hop
      refine ⟨_, Action.ofRead_ok_iff.mpr ⟨hplan, rfl⟩, answered_ok, ?_⟩
      rintro _ ⟨⟩
      exact ⟨p, hp, rfl⟩
  · intro s p out source before hs hp hout hdisk hidle hc hsource
    exact exists_rebuildProject hs ho hp hout hdisk hidle hc hsource

theorem typed_shopRead : shopRead.Typed where
  name := ⟨_, rfl⟩
  description := ⟨_, rfl⟩
  version := ⟨_, rfl⟩
  architecture := ⟨_, rfl⟩
  confidence := by decide +kernel
  state := ⟨_, rfl⟩
  models := List.forall_mem_singleton.mpr {
    name := ⟨_, rfl, by decide +kernel⟩
    file := ⟨_, rfl⟩
    fields := List.forall_mem_singleton.mpr ⟨⟨_, rfl⟩, ⟨_, rfl⟩, .inl rfl, nofun⟩
    relationships := nofun }
  screens := nofun
  widgets := nofun
  theme := nofun

theorem typed_default : Options.Typed {} :=
  ⟨⟨_, rfl⟩, ⟨_, rfl⟩, ⟨_, rfl⟩, ⟨_, rfl, nofun⟩, ⟨_, rfl, nofun⟩⟩

theorem plain_default : (Options.toDatum {}).Plain := by
  simp [Options.toDatum, Datum.record_plain_iff, Datum.Plain, Datum.AllPlain]

theorem shaped_storedShop : ∃ es, storedShop.entries? = some es ∧ Snapshot.Shaped es := by
  refine ⟨_, rfl, fun _ => rfl, ?assessment, nofun, ?screens, ?widgets, nofun, nofun, ?counts⟩
  case assessment =>
    rintro _ ⟨⟩
    exact ⟨nofun, nofun⟩
  case screens =>
    rintro _ ⟨⟩
    exact nofun
  case widgets =>
    rintro _ ⟨⟩
    exact nofun
  case counts => exact nofun

-- A folder with a project in it.
def shopFolder : Session :=
  { Rebuild.workFolder with
    disk := ⟨[(["work"], .folder), (["work", "shop"], .folder),
      (["work", "shop", "pubspec.yaml"], .file [])]⟩
    config := some { data := [] } }

theorem plan_and_rebuild_answered_shop :
    ∃ p a after,
      Ends (plan storedShop {}).answer shopFolder (.ok (ok [("schema", Schema.toDatum p)]))
        shopFolder ∧
      Ends (rebuild p.toDatum "out" "shop").answer shopFolder (.ok a) after ∧ Answered a := by
  obtain ⟨hplanned, hrebuilt⟩ := plan_and_rebuild_answered typed_default plain_default
  have hstored : storedShop.Plain := by
    simp [storedShop, Datum.record_plain_iff, Datum.Plain, Datum.AllPlain]
  have hshop : Snapshot.ofDatum storedShop = .ok shopRead := rfl
  have htyped : ∀ s, Snapshot.ofDatum storedShop = .ok s → s.Typed := by
    intro s hs
    obtain rfl := Except.ok.inj (hshop.symm.trans hs)
    exact typed_shopRead
  obtain ⟨es, hes, hshaped⟩ := shaped_storedShop
  obtain ⟨a, hends, _, hschema⟩ := hplanned storedShop es hstored hes hshaped htyped shopFolder
  obtain ⟨p, hp, rfl⟩ := hschema shopRead hshop
  have hshort : Askable "shop" := ⟨⟨by decide, by decide⟩, ⟨by decide, by decide⟩⟩
  have hdisk : ∀ n ∈ shopFolder.disk.nodes, ∀ w ∈ n.1, '\x00' ∉ w.toList := by decide +kernel
  have hcurrent : ∃ r s', Ends Config.current shopFolder (.ok r) s' := ⟨_, _, rfl⟩
  obtain ⟨b, after, hanswer, hanswered⟩ := hrebuilt shopRead p "out" "shop" shopFolder
    typed_shopRead hp (by decide) hdisk (List.forall_mem_nil _) hcurrent (.inr ⟨_, rfl, hshort⟩)
  exact ⟨p, b, after, hends, hanswer, hanswered⟩

-- An object with a text for a section, and one with a number for the definition of a project.
def flatAnalysis : Datum :=
  .record [("architecture", "clean")]

def flatSchema : Datum :=
  .record [("project_definition", .int 5)]

-- Not every object is answered: a text in place of a section stops the planning, and a number in
-- place of a definition the rebuild.
theorem not_every_object_answered :
    ¬(∀ d es o before, d.Plain → d.entries? = some es → Options.Typed o → o.toDatum.Plain →
      ∃ a after, Ends (plan d o).answer before (.ok a) after ∧ Answered a) ∧
    ¬(∀ d es out before, d.Plain → d.entries? = some es →
      ∃ a after, Ends (rebuild d (.text out) .null).answer before (.ok a) after ∧ Answered a) := by
  constructor
  · intro h
    have hstops : planRebuild flatAnalysis {} = .error (.noMember "str" "get") := rfl
    have hplain : flatAnalysis.Plain := by simp [flatAnalysis, Datum.record_plain_iff, Datum.Plain]
    obtain ⟨a, after, hends, _⟩ :=
      h flatAnalysis _ {} Rebuild.workFolder hplain rfl typed_default plain_default
    have hread := (Action.ofRead_ok_iff.mp hends).1
    rw [hstops] at hread
    cases hread
  · intro h
    have hstops : ∃ e, Schema.ofDatum flatSchema = .error e := ⟨_, rfl⟩
    have hplain : flatSchema.Plain := by simp [flatSchema, Datum.record_plain_iff, Datum.Plain]
    obtain ⟨e, he⟩ := hstops
    obtain ⟨a, after, hends, _⟩ := h flatSchema _ "out" Rebuild.workFolder hplain rfl
    obtain ⟨p, _, hread, _⟩ := Ends.bind_ok_iff.mp hends
    have hread := (Action.ofRead_ok_iff.mp hread).1
    rw [he] at hread
    cases hread

end ToolRequest

end Refit
