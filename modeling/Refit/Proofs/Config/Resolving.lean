import Refit.Proofs.Config.Variables
import Refit.Proofs.Disk.Storing
import Refit.Proofs.Session.Looks
import Refit.Proofs.Toml.Tables

/-!
The configuration in force: every variable that is set counts at its key, and any other path is
decided by the highest of the file of the project, the file of the user and the built-in values.
-/

namespace Refit.Config

variable {s t : Session} {l user project : Location} {es us ps : Dict}

/-! Files -/

-- What the file at a place holds. A file that is not there or breaks the format counts as empty.
inductive Holds (s : Session) (l : Location) : Dict → Prop
  | absent : s.disk.isFile s.cwd l = .ok false → Holds s l []
  | malformed {b : List UInt8} {text : String} : s.disk.readBytes s.cwd l = .ok b →
      Utf8.decode b = .ok text → Toml.read text = .error .malformed → Holds s l []
  | parsed {b : List UInt8} {text : String} {t : Dict} : s.disk.readBytes s.cwd l = .ok b →
      Utf8.decode b = .ok text → Toml.read text = .ok t → Holds s l t

namespace Holds

theorem keyed (h : Holds s l es) : Keyed (.dict es) := by
  cases h
  case absent => exact .nil
  case malformed => exact .nil
  case parsed h => exact Toml.keyed_read h

-- Whether the file is there, to which there is always an answer.
theorem exists_isFile (h : Holds s l es) : ∃ b, s.disk.isFile s.cwd l = .ok b := by
  cases h
  case absent h => exact ⟨false, h⟩
  case malformed h _ _ => exact ⟨true, Disk.isFile_of_readBytes h⟩
  case parsed h _ _ => exact ⟨true, Disk.isFile_of_readBytes h⟩

theorem tableOfFile_eq {b : List UInt8} {text : String} (hb : s.disk.readBytes s.cwd l = .ok b)
    (htext : Utf8.decode b = .ok text) : tableOfFile l s.disk s.cwd = tableOf text := by
  rw [tableOfFile, hb]
  dsimp only
  rw [htext]
  rfl

theorem readTable (h : Holds s l es) : Ends (readTable l) s (.ok es) s := by
  have hthere {b : List UInt8} (hb : s.disk.readBytes s.cwd l = .ok b)
      (hes : tableOfFile l s.disk s.cwd = .ok es) : Ends (Config.readTable l) s (.ok es) s := by
    have hfile := (Disk.isFile_of_readBytes hb).symm
    refine (Ends.bind_of_ok (Action.ask_iff.mpr ⟨hfile, rfl⟩)).mpr ?_
    exact Action.ask_iff.mpr ⟨hes.symm, rfl⟩
  cases h
  case absent h =>
    exact (Ends.bind_of_ok (Action.ask_iff.mpr ⟨h.symm, rfl⟩)).mpr (Ends.pure_iff.mpr ⟨rfl, rfl⟩)
  case malformed hb htext hread =>
    exact hthere hb ((tableOfFile_eq hb htext).trans (by rw [tableOf, hread]))
  case parsed hb htext hread =>
    exact hthere hb ((tableOfFile_eq hb htext).trans (by rw [tableOf, hread]))

end Holds

-- What a session becomes when the variables of its environment file are taken over.
inductive TakesOver (s : Session) : Session → Prop
  | nothing : s.disk.isFile s.cwd (s.workFolder.child ".env") = .ok false → TakesOver s s
  | file {t : Session} : s.disk.isFile s.cwd (s.workFolder.child ".env") = .ok true →
      Ends (Action.loadVariables (s.workFolder.child ".env")) s (.ok ()) t → TakesOver s t

theorem TakesOver.looked (h : TakesOver s t) : s.Looked t := by
  cases h
  case nothing => exact .refl s
  case file h => exact Action.loadVariables_looks _ _ _ h

/-! Layers -/

theorem apart_settingVariables : Apart settingVariables := by
  unfold Apart
  decide +kernel

-- All layers as one table.
theorem exists_layered {environment : String → Option String} (hus : Keyed (.dict us))
    (hps : Keyed (.dict ps))
    (hmeans : ∀ e ∈ settingVariables, ∀ v, environment e.1 = some v →
      ∃ w, Means (lookup (.dict defaults) e.2) v w) :
    ∃ data, layered us ps environment = .ok data ∧
      (∀ e ∈ settingVariables, ∀ v, environment e.1 = some v →
        ∃ w, Means (lookup (.dict defaults) e.2) v w ∧ find? (path e.2) (.dict data) = some w) ∧
      ∀ ks, (∀ e ∈ settingVariables, (environment e.1).isSome →
          ¬ ks <+: path e.2 ∧ ¬ path e.2 <+: ks) →
        Tableless ks [ps, us, defaults] →
        Decided ks [ps, us, defaults] (find? ks (.dict data)) := by
  have hlower := keyed_defaults.merge hus
  have htaken : ∀ e ∈ settingVariables, ∀ v, environment e.1 = some v →
      ∃ w, coerce v (lookup (.dict defaults) e.2) = .ok w ∧ Keyed w := by
    intro e he v hv
    obtain ⟨w, hw⟩ := hmeans e he v hv
    exact ⟨w, coerce_of_means hw, keyed_of_means hw⟩
  obtain ⟨data, hdata, _, hset, hrest⟩ :=
    exists_overlay (hlower.merge hps) apart_settingVariables htaken
  refine ⟨data, hdata, fun e he v hv => ?_, fun ks hks htable => ?_⟩
  · obtain ⟨w, hw⟩ := hmeans e he v hv
    exact ⟨w, hw, hset e he v w hv (coerce_of_means hw)⟩
  obtain ⟨hproject, htable⟩ := List.forall_mem_cons.mp htable
  obtain ⟨huser, htable⟩ := List.forall_mem_cons.mp htable
  obtain ⟨hdefaults, _⟩ := List.forall_mem_cons.mp htable
  rw [hrest ks hks]
  exact decided_merge hlower hps hproject
    (decided_merge keyed_defaults hus huser (decided_single keyed_defaults hdefaults))

/-! Resolving -/

-- What is left of resolving once the files are read.
def ofLayers (us ps : Dict) (user project : Location) : Action Resolved := do
  let environment := (← get).valueOf?
  let data ← Action.ofRead (layered us ps environment)
  return ⟨data, ← orNone user, ← orNone project⟩

theorem ends_resolve_iff {r : Except Stop Resolved} {s' : Session}
    (huser : Ends userFile s (.ok user) s) (hproject : Ends projectFile s (.ok project) s)
    (hus : Holds s user us) (hps : Holds s project ps) (ht : TakesOver s t) :
    Ends resolve s r s' ↔ Ends (ofLayers us ps user project) t r s' := by
  have hfile : Ends environmentFile s (.ok (s.workFolder.child ".env")) s :=
    Ends.get_bind_iff.mpr (Ends.pure_iff.mpr ⟨rfl, rfl⟩)
  refine (Ends.bind_of_ok huser).trans ((Ends.bind_of_ok hproject).trans ?_)
  refine (Ends.bind_of_ok hus.readTable).trans ((Ends.bind_of_ok hps.readTable).trans ?_)
  refine (Ends.bind_of_ok hfile).trans ?_
  cases ht
  case nothing h =>
    have hthere : Ends (Action.isFile (s.workFolder.child ".env")) s (.ok false) s :=
      Action.ask_iff.mpr ⟨h.symm, rfl⟩
    exact Ends.bind_of_ok hthere
  case file h hload =>
    have hthere : Ends (Action.isFile (s.workFolder.child ".env")) s (.ok true) s :=
      Action.ask_iff.mpr ⟨h.symm, rfl⟩
    exact (Ends.bind_of_ok hthere).trans (Ends.bind_of_ok hload)

-- What the parts of a session add up to.
theorem renew_of_parts {data : Dict} (huser : Ends userFile s (.ok user) s)
    (hproject : Ends projectFile s (.ok project) s) (hus : Holds s user us)
    (hps : Holds s project ps) (ht : TakesOver s t)
    (hdata : layered us ps t.valueOf? = .ok data) :
    ∃ r, Ends renew s (.ok r) { t with config := some r } ∧ r.data = data := by
  have horNone {l : Location} {es : Dict} (hl : Holds s l es) :
      ∃ place, Ends (orNone l) t (.ok place) t := by
    obtain ⟨b, hb⟩ := hl.exists_isFile
    have hlooked := ht.looked
    rw [← hlooked.disk, ← hlooked.cwd] at hb
    exact ⟨_, (Ends.bind_of_ok (Action.ask_iff.mpr ⟨hb.symm, rfl⟩)).mpr (Ends.pure_iff.mpr ⟨rfl, rfl⟩)⟩
  obtain ⟨userPlace, huserPlace⟩ := horNone hus
  obtain ⟨projectPlace, hprojectPlace⟩ := horNone hps
  have hlayers : Ends (ofLayers us ps user project) t (.ok ⟨data, userPlace, projectPlace⟩) t := by
    refine Ends.get_bind_iff.mpr ?_
    refine (Ends.bind_of_ok (Action.ofRead_ok_iff.mpr ⟨hdata, rfl⟩)).mpr ?_
    refine (Ends.bind_of_ok huserPlace).mpr ((Ends.bind_of_ok hprojectPlace).mpr ?_)
    exact Ends.pure_iff.mpr ⟨rfl, rfl⟩
  have hresolve := (ends_resolve_iff huser hproject hus hps ht).mpr hlayers
  refine ⟨⟨data, userPlace, projectPlace⟩, (Ends.bind_of_ok hresolve).mpr ?_, rfl⟩
  exact (Ends.bind_of_ok (Ends.modify_iff.mpr ⟨rfl, rfl⟩)).mpr (Ends.pure_iff.mpr ⟨rfl, rfl⟩)

theorem renew_of_fault {f : Fault} (huser : Ends userFile s (.ok user) s)
    (hproject : Ends projectFile s (.ok project) s) (hus : Holds s user us)
    (hps : Holds s project ps) (ht : TakesOver s t)
    (hdata : layered us ps t.valueOf? = .error f) : Ends renew s (.error (.fault f)) t := by
  have hlayers : Ends (ofLayers us ps user project) t (.error (.fault f)) t := by
    refine Ends.get_bind_iff.mpr (Ends.bind_of_error ?_)
    exact Action.ofExcept_iff.mpr ⟨by rw [hdata]; rfl, rfl⟩
  exact Ends.bind_of_error ((ends_resolve_iff huser hproject hus hps ht).mpr hlayers)

-- Where all variables mean something, resolving ends. Each of them counts at its key, and every
-- other path that is no table in any layer is decided by the highest layer that has a leaf there or
-- on the way there.
theorem exists_renew_decided (huser : Ends userFile s (.ok user) s)
    (hproject : Ends projectFile s (.ok project) s) (hus : Holds s user us)
    (hps : Holds s project ps) (ht : TakesOver s t)
    (hmeans : ∀ e ∈ settingVariables, ∀ v, t.valueOf? e.1 = some v →
      ∃ w, Means (lookup (.dict defaults) e.2) v w) :
    ∃ r, Ends renew s (.ok r) { t with config := some r } ∧
      (∀ e ∈ settingVariables, ∀ v, t.valueOf? e.1 = some v →
        ∃ w, Means (lookup (.dict defaults) e.2) v w ∧ find? (path e.2) (.dict r.data) = some w) ∧
      ∀ ks, (∀ e ∈ settingVariables, (t.valueOf? e.1).isSome →
          ¬ ks <+: path e.2 ∧ ¬ path e.2 <+: ks) →
        Tableless ks [ps, us, defaults] →
        Decided ks [ps, us, defaults] (find? ks (.dict r.data)) := by
  obtain ⟨data, hdata, hset, hrest⟩ := exists_layered hus.keyed hps.keyed hmeans
  obtain ⟨r, hr, rfl⟩ := renew_of_parts huser hproject hus hps ht hdata
  exact ⟨r, hr, hset, hrest⟩

-- A user whose file has a number for a whole table, in a project that names a branch and sets a
-- variable.
def layeredSession : Session where
  disk := ⟨[(["me"], .folder), (["me", ".config"], .folder), (["me", ".config", "replant"], .folder),
    (["me", ".config", "replant", "config.toml"], .file "clone = 3\n".toUTF8.toList),
    (["work"], .folder),
    (["work", ".replant.toml"], .file "clone.branch = 'dev'\n".toUTF8.toList),
    (["work", ".env"], .file "REPLANT_CLONE_DEPTH=007\n".toUTF8.toList)]⟩
  cwd := ["work"]
  home := ["me"]
  temp := ["tmp"]

def layeredUser : Dict :=
  [(.text "clone", .int 3)]

def layeredProject : Dict :=
  [(.text "clone", .record [("branch", .text "dev")])]

def isLayeredUser : Dict → Bool
  | [(.text "clone", .int 3)] => true
  | _ => false

def isLayeredProject : Dict → Bool
  | [(.text "clone", .dict [(.text "branch", .text "dev")])] => true
  | _ => false

theorem holds_layeredSession :
    Holds layeredSession (.absolute ["me", ".config", "replant", "config.toml"]) layeredUser ∧
      Holds layeredSession (.absolute ["work", ".replant.toml"]) layeredProject := by
  have huser : (Toml.read "clone = 3\n").toOption.any isLayeredUser := by
    decide +kernel
  have hproject : (Toml.read "clone.branch = 'dev'\n").toOption.any isLayeredProject := by
    decide +kernel
  have hbytes : (layeredSession.disk.readBytes layeredSession.cwd
      (.absolute ["me", ".config", "replant", "config.toml"])).toOption.any
        (· == "clone = 3\n".toUTF8.toList) ∧
      (layeredSession.disk.readBytes layeredSession.cwd
        (.absolute ["work", ".replant.toml"])).toOption.any
        (· == "clone.branch = 'dev'\n".toUTF8.toList) := by
    decide +kernel
  obtain ⟨t, ht, huser⟩ := any_toOption.mp huser
  obtain ⟨u, hu, hproject⟩ := any_toOption.mp hproject
  rw [isLayeredUser.eq_def] at huser
  rw [isLayeredProject.eq_def] at hproject
  split at huser
  case h_2 => cases huser
  split at hproject
  case h_2 => cases hproject
  exact ⟨.parsed (eq_ok_of_any hbytes.1) (by decide +kernel) ht,
    .parsed (eq_ok_of_any hbytes.2) (by decide +kernel) hu⟩

theorem exists_takesOver_layeredSession : ∃ t, TakesOver layeredSession t ∧
    ∀ e ∈ settingVariables,
      t.valueOf? e.1 = if e.1 = "REPLANT_CLONE_DEPTH" then some "007" else none := by
  have hfile : (layeredSession.disk.isFile layeredSession.cwd
      (layeredSession.workFolder.child ".env")).toOption.any (· == true) := by
    decide +kernel
  have hload : Ends.returnsWith (Action.loadVariables (layeredSession.workFolder.child ".env"))
      layeredSession fun _ t => settingVariables.all fun e =>
        t.valueOf? e.1 == if e.1 = "REPLANT_CLONE_DEPTH" then some "007" else none := by
    decide +kernel
  obtain ⟨_, t, ht, hvalues⟩ := Ends.of_returnsWith hload
  exact ⟨t, .file (eq_ok_of_any hfile) ht, fun e he => eq_of_beq (List.all_eq_true.mp hvalues e he)⟩

-- The depth comes from the variable and the branch from the project. The timeout that is built in
-- is gone, since the file of the user has no table there.
theorem exists_renew_decided_layered : ∃ t r,
    TakesOver layeredSession t ∧ Ends renew layeredSession (.ok r) { t with config := some r } ∧
      find? ["clone", "depth"] (.dict r.data) = some (.int 7) ∧
      find? ["clone", "branch"] (.dict r.data) = some (.text "dev") ∧
      find? ["clone", "timeout"] (.dict r.data) = none := by
  obtain ⟨t, ht, hvalues⟩ := exists_takesOver_layeredSession
  obtain ⟨hus, hps⟩ := holds_layeredSession
  have hdepth : path "clone.depth" = ["clone", "depth"] := by decide +kernel
  have hbuiltIn : lookup (.dict defaults) "clone.depth" = .int 1 := by
    rw [lookup, hdepth]
    rfl
  have honly : ∀ e ∈ settingVariables, e.1 = "REPLANT_CLONE_DEPTH" → e.2 = "clone.depth" := by
    decide
  have hset {e : String × String} (he : e ∈ settingVariables) {v : String}
      (hv : t.valueOf? e.1 = some v) : e.2 = "clone.depth" ∧ v = "007" := by
    rw [hvalues e he] at hv
    split at hv
    case isTrue hname => exact ⟨honly e he hname, (Option.some.inj hv).symm⟩
    case isFalse => cases hv
  have hmeans : ∀ e ∈ settingVariables, ∀ v, t.valueOf? e.1 = some v →
      ∃ w, Means (lookup (.dict defaults) e.2) v w := by
    intro e he v hv
    obtain ⟨hkey, rfl⟩ := hset he hv
    rw [hkey, hbuiltIn]
    exact ⟨_, .number (by decide) (by decide) (by decide)⟩
  have huser : Ends userFile layeredSession
      (.ok (.absolute ["me", ".config", "replant", "config.toml"])) layeredSession := rfl
  obtain ⟨r, hr, hown, hrest⟩ := exists_renew_decided huser rfl hus hps ht hmeans
  have hapart {k : String} (hk : k ≠ "depth") : ∀ e ∈ settingVariables, (t.valueOf? e.1).isSome →
      ¬ ["clone", k] <+: path e.2 ∧ ¬ path e.2 <+: ["clone", k] := by
    intro e he hv
    obtain ⟨v, hv⟩ := Option.isSome_iff_exists.mp hv
    rw [(hset he hv).1, hdepth]
    simp [hk, Ne.symm hk]
  have hkeyed : ∀ t ∈ [layeredProject, layeredUser, defaults], Keyed (.dict t) := by
    rintro _ (_ | ⟨_, _ | ⟨_, _ | ⟨_, ⟨⟩⟩⟩⟩)
    exacts [hps.keyed, hus.keyed, keyed_defaults]
  have htable : ∀ k ∈ ["branch", "timeout"],
      Tableless ["clone", k] [layeredProject, layeredUser, defaults] := by
    simp [Tableless, find?, present?, Dict.get?, Datum.record, layeredProject, layeredUser, defaults]
  refine ⟨t, r, ht, hr, ?_, ?_, ?_⟩
  case refine_1 =>
    obtain ⟨w, hw, hfind⟩ := hown _ (by decide) "007"
      (hvalues ("REPLANT_CLONE_DEPTH", "clone.depth") (by decide))
    rw [hbuiltIn] at hw
    rw [hdepth] at hfind
    cases hw
    exact hfind
  case refine_2 =>
    exact (hrest _ (hapart (by decide)) (htable _ (by decide))).unique hkeyed
      (.layer (.here rfl fun _ h => by cases h))
  case refine_3 =>
    have hproject : ∀ r, ¬ Says (.dict layeredProject) ["clone", "timeout"] r := by
      intro r h
      obtain ⟨v, hv, h⟩ := (Says.cons_iff hps.keyed).mp h
      obtain rfl := Option.some.inj hv
      obtain ⟨v, hv, _⟩ := (Says.cons_iff (hps.keyed.of_get? hv)).mp h
      cases hv
    have hgone : Says (.dict layeredUser) ["clone", "timeout"] none :=
      .before (List.prefix_append ["clone"] _) (by decide) rfl fun _ h => by cases h
    exact (hrest _ (hapart (by decide)) (htable _ (by decide))).unique hkeyed
      (.passed hproject (.layer hgone))

end Refit.Config
