import Mathlib.Data.List.Pairwise
import Refit.Proofs.Config.Resolving

/-!
Variables with texts that their settings have no use for.

Such a text is not passed over: the built-in value counts in its place, above the files of the user
and of the project. A text that passes for a numeral and is none stops the resolving altogether.
-/

namespace Refit.Config

variable {environment : String → Option String} {vs : List (String × String)} {es us ps : Dict}
  {builtIn v : Datum} {text : String} {f : Fault}

-- A text that is no value of a setting, by the built-in one.
inductive Unfit : Datum → String → Prop
  | truth {b : Bool} {s : String} : truthOf? s = none → Unfit (.bool b) s
  | number {i : Int} {s : String} : ¬ isNumeral s → Unfit (.int i) s

-- A text that passes for a numeral, though no integer is read from it.
inductive Trips : Datum → String → Fault → Prop
  | malformed {i : Int} {s : String} : isNumeral s → Number.Literal.integer s = .malformed →
      Trips (.int i) s (.badInteger 10 s)
  | tooLong {i : Int} {s : String} {n : Nat} : isNumeral s →
      Number.Literal.integer s = .tooLong n → Trips (.int i) s (.longInteger n)

theorem coerce_of_unfit (h : Unfit builtIn text) : coerce text builtIn = .ok builtIn := by
  cases h
  case truth h => rw [coerce, h, Option.getD_none]
  case number h => rw [coerce, if_neg h]

theorem coerce_eq_error_iff : coerce text builtIn = .error f ↔ Trips builtIn text f := by
  constructor
  · intro h
    rw [coerce.eq_def] at h
    split at h
    case h_2 =>
      split at h
      case isTrue hnumeral =>
        rw [Datum.readInteger] at h
        split at h
        case h_1 => cases h
        case h_2 hread =>
          cases h
          exact .malformed hnumeral hread
        case h_3 hread =>
          cases h
          exact .tooLong hnumeral hread
      case isFalse => cases h
    all_goals cases h
  · rintro (⟨hnumeral, hread⟩ | ⟨hnumeral, hread⟩)
    all_goals
      rw [coerce, if_pos hnumeral, Datum.readInteger, hread]
      rfl

theorem keyed_of_coerce (h : coerce text builtIn = .ok v) : Keyed v := by
  rw [coerce.eq_def] at h
  split at h
  case h_2 =>
    split at h
    case isTrue =>
      obtain ⟨i, _, rfl⟩ := map_eq_ok.mp h
      exact .leaf nofun nofun
    case isFalse =>
      cases h
      exact .leaf nofun nofun
  all_goals
    cases h
    exact .leaf nofun nofun

/-! Laying variables over a table -/

-- The variables of an environment without one of them.
def unset (environment : String → Option String) (name : String) : String → Option String :=
  fun n => if n = name then none else environment n

theorem unset_of_ne {name n : String} (h : n ≠ name) : unset environment name n = environment n :=
  if_neg h

-- Steps with one variable agree where what follows does.
theorem overlay_cons_congr {environment' : String → Option String} {e : String × String}
    {vs' : List (String × String)} (he : environment e.1 = environment' e.1)
    (hnone : overlay environment vs es = overlay environment' vs' es)
    (hsome : ∀ s v, environment e.1 = some s → coerce s (lookup (.dict defaults) e.2) = .ok v →
      overlay environment vs (assign es e.2 v) = overlay environment' vs' (assign es e.2 v)) :
    overlay environment (e :: vs) es = overlay environment' (e :: vs') es := by
  obtain ⟨name, key⟩ := e
  rw [overlay, overlay, ← he]
  cases hs : environment name
  case none => exact hnone
  case some s =>
    dsimp only
    cases hv : coerce s (lookup (.dict defaults) key)
    case error => rfl
    case ok v => exact hsome s v hs hv

theorem overlay_congr {environment' : String → Option String}
    (h : ∀ e ∈ vs, environment e.1 = environment' e.1) :
    overlay environment vs es = overlay environment' vs es := by
  induction vs generalizing es
  case nil => rfl
  case cons e vs ih =>
    obtain ⟨he, hvs⟩ := List.forall_mem_cons.mp h
    exact overlay_cons_congr he (ih hvs) fun _ _ _ _ => ih hvs

-- A variable that means what its key has anyway leaves no trace.
theorem overlay_unset {e : String × String} (hes : Keyed (.dict es)) (happart : Apart vs)
    (hnames : (vs.map Prod.fst).Nodup) (he : e ∈ vs) (henv : environment e.1 = some text)
    (hv : coerce text (lookup (.dict defaults) e.2) = .ok v)
    (hfind : find? (path e.2) (.dict es) = some v) :
    overlay (unset environment e.1) vs es = overlay environment vs es := by
  induction vs generalizing es
  case nil => cases he
  case cons e' vs ih =>
    obtain ⟨hnew, hnames⟩ := List.nodup_cons.mp hnames
    obtain ⟨hfirst, happart⟩ := List.pairwise_cons.mp happart
    have hne {d : String × String} (hd : d ∈ vs) : d.1 ≠ e'.1 := fun heq =>
      hnew (heq ▸ List.mem_map_of_mem hd)
    rcases List.mem_cons.mp he with rfl | hlater
    case inl =>
      have hnone : unset environment e.1 e.1 = none := if_pos rfl
      have hrest : ∀ d ∈ vs, unset environment e.1 d.1 = environment d.1 := fun d hd =>
        unset_of_ne (hne hd)
      calc overlay (unset environment e.1) (e :: vs) es
          = overlay (unset environment e.1) vs es := by rw [overlay, hnone]
        _ = overlay environment vs es := overlay_congr hrest
        _ = overlay environment vs (assign es e.2 v) := by
          rw [assign, assignAt_eq_self hes path_ne_nil hfind]
        _ = overlay environment (e :: vs) es := (overlay_cons_of_coerce henv hv).symm
    case inr =>
      have hother := @unset_of_ne environment _ _ (hne hlater).symm
      refine overlay_cons_congr hother (ih hes happart hnames hlater hfind) fun s w _ hs => ?_
      have hw := keyed_of_coerce hs
      obtain ⟨hthrough, hto⟩ := hfirst e hlater
      refine ih (hes.assignAt hw) happart hnames hlater ?_
      rw [assign, find?_assignAt hes ⟨hto, hthrough⟩, hfind]

-- The first of the texts that pass for numerals stops the overlay.
theorem exists_overlay_fault (h : ∃ e ∈ vs, ∃ s f, environment e.1 = some s ∧
      Trips (lookup (.dict defaults) e.2) s f) :
    ∃ e ∈ vs, ∃ s f, environment e.1 = some s ∧ Trips (lookup (.dict defaults) e.2) s f ∧
      overlay environment vs es = .error f := by
  induction vs generalizing es
  case nil =>
    obtain ⟨_, ⟨⟩, _⟩ := h
  case cons e' vs ih =>
    by_cases hfirst : ∃ s f, environment e'.1 = some s ∧ Trips (lookup (.dict defaults) e'.2) s f
    case pos =>
      obtain ⟨s, f, henv, htrips⟩ := hfirst
      refine ⟨e', .head _, s, f, henv, htrips, ?_⟩
      rw [overlay, henv]
      dsimp only
      rw [coerce_eq_error_iff.mpr htrips]
      rfl
    case neg =>
      obtain ⟨e, he, s, f, henv, htrips⟩ := h
      have hlater : e ∈ vs := (List.mem_cons.mp he).resolve_left fun heq => by
        subst heq
        exact hfirst ⟨s, f, henv, htrips⟩
      have hrest := fun fs => @ih fs ⟨e, hlater, s, f, henv, htrips⟩
      cases hname : environment e'.1
      case none =>
        obtain ⟨e, he, s, f, henv, htrips, hover⟩ := hrest es
        exact ⟨e, .tail _ he, s, f, henv, htrips, by rw [overlay, hname, hover]⟩
      case some s' =>
        cases hv : coerce s' (lookup (.dict defaults) e'.2)
        case error f => exact absurd ⟨s', f, hname, coerce_eq_error_iff.mp hv⟩ hfirst
        case ok v =>
          obtain ⟨e, he, s, f, henv, htrips, hover⟩ := hrest (assign es e'.2 v)
          refine ⟨e, .tail _ he, s, f, henv, htrips, ?_⟩
          rw [overlay_cons_of_coerce hname hv, hover]

/-! Layers -/

instance : Std.Symm fun a b : String × String =>
    ¬ path a.2 <+: path b.2 ∧ ¬ path b.2 <+: path a.2 :=
  ⟨fun _ _ h => h.symm⟩

theorem nodup_settingVariables : (settingVariables.map Prod.fst).Nodup := by
  decide

-- What a variable without a value of its setting leaves at its key, and when it leaves the layers
-- as they are without it.
theorem exists_layered_unfit (hus : Keyed (.dict us)) (hps : Keyed (.dict ps))
    (htrips : ∀ e ∈ settingVariables, ∀ s f, environment e.1 = some s →
      ¬ Trips (lookup (.dict defaults) e.2) s f) :
    ∃ data, layered us ps environment = .ok data ∧
      ∀ e ∈ settingVariables, ∀ s, environment e.1 = some s →
        Unfit (lookup (.dict defaults) e.2) s →
        find? (path e.2) (.dict data) = some (lookup (.dict defaults) e.2) ∧
        (layered us ps (unset environment e.1) = .ok data ↔
          find? (path e.2) (.dict (merge (merge defaults us) ps)) =
            some (lookup (.dict defaults) e.2)) := by
  have hlower : Keyed (.dict (merge (merge defaults us) ps)) := (keyed_defaults.merge hus).merge hps
  have htaken : ∀ e ∈ settingVariables, ∀ s, environment e.1 = some s →
      ∃ v, coerce s (lookup (.dict defaults) e.2) = .ok v ∧ Keyed v := by
    intro e he s hs
    cases hv : coerce s (lookup (.dict defaults) e.2)
    case error f => exact absurd (coerce_eq_error_iff.mp hv) (htrips e he s f hs)
    case ok v => exact ⟨v, rfl, keyed_of_coerce hv⟩
  obtain ⟨data, hdata, _, hset, _⟩ := exists_overlay hlower apart_settingVariables htaken
  refine ⟨data, hdata, fun e he s hs hunfit => ?_⟩
  have hv := coerce_of_unfit hunfit
  have hbuiltIn := hset e he s _ hs hv
  refine ⟨hbuiltIn, fun hunset => ?_, fun hfind => ?_⟩
  case refine_1 =>
    have htaken' : ∀ e' ∈ settingVariables, ∀ s, unset environment e.1 e'.1 = some s →
        ∃ v, coerce s (lookup (.dict defaults) e'.2) = .ok v ∧ Keyed v := by
      intro e' he' s hs
      rw [unset] at hs
      split at hs
      case isTrue => cases hs
      case isFalse => exact htaken e' he' s hs
    have happart : ∀ e' ∈ settingVariables, (unset environment e.1 e'.1).isSome →
        ¬ path e.2 <+: path e'.2 ∧ ¬ path e'.2 <+: path e.2 := by
      intro e' he' hsome
      have hne : e ≠ e' := by
        rintro rfl
        rw [unset, if_pos rfl] at hsome
        cases hsome
      exact apart_settingVariables.forall he he' hne
    obtain ⟨data', hdata', _, _, hrest⟩ := exists_overlay hlower apart_settingVariables htaken'
    obtain rfl := Except.ok.inj (hdata'.symm.trans hunset)
    rw [← hrest _ happart, hbuiltIn]
  case refine_2 =>
    rw [layered, overlay_unset hlower apart_settingVariables nodup_settingVariables he hs hv hfind]
    exact hdata

/-! Resolving -/

variable {s t : Session} {user project : Location}

-- Resolving ends unless a variable passes for a numeral that no integer is read from. A variable
-- without a value of its setting has the built-in value count at its key, so it is as if it were not
-- set exactly if the files of the user and of the project leave that value there.
theorem exists_renew_unless_trips (huser : Ends userFile s (.ok user) s)
    (hproject : Ends projectFile s (.ok project) s) (hus : Holds s user us)
    (hps : Holds s project ps) (ht : TakesOver s t) :
    ((∃ e ∈ settingVariables, ∃ v f, t.valueOf? e.1 = some v ∧
        Trips (lookup (.dict defaults) e.2) v f) →
      ∃ e ∈ settingVariables, ∃ v f, t.valueOf? e.1 = some v ∧
        Trips (lookup (.dict defaults) e.2) v f ∧ Ends renew s (.error (.fault f)) t) ∧
    ((∀ e ∈ settingVariables, ∀ v f, t.valueOf? e.1 = some v →
        ¬ Trips (lookup (.dict defaults) e.2) v f) →
      ∃ r, Ends renew s (.ok r) { t with config := some r } ∧
        ∀ e ∈ settingVariables, ∀ v, t.valueOf? e.1 = some v →
          Unfit (lookup (.dict defaults) e.2) v →
          find? (path e.2) (.dict r.data) = some (lookup (.dict defaults) e.2) ∧
          (layered us ps (unset t.valueOf? e.1) = .ok r.data ↔
            find? (path e.2) (.dict (merge (merge defaults us) ps)) =
              some (lookup (.dict defaults) e.2))) := by
  refine ⟨fun htrips => ?_, fun htrips => ?_⟩
  case refine_1 =>
    obtain ⟨e, he, v, f, hv, hf, hdata⟩ :=
      @exists_overlay_fault _ _ (merge (merge defaults us) ps) htrips
    exact ⟨e, he, v, f, hv, hf, renew_of_fault huser hproject hus hps ht hdata⟩
  case refine_2 =>
    obtain ⟨data, hdata, hunfit⟩ := exists_layered_unfit hus.keyed hps.keyed htrips
    obtain ⟨r, hr, rfl⟩ := renew_of_parts huser hproject hus hps ht hdata
    exact ⟨r, hr, hunfit⟩

-- A project that sets the depth of clones, where the variable for it has some text.
def depthSession (value : String) : Session where
  disk := ⟨[(["work"], .folder),
    (["work", ".replant.toml"], .file "clone.depth = 3\n".toUTF8.toList)]⟩
  cwd := ["work"]
  home := ["me"]
  temp := ["tmp"]
  environment := [("REPLANT_CLONE_DEPTH", value)]

def depthProject : Dict :=
  [(.text "clone", .record [("depth", .int 3)])]

def isDepthProject : Dict → Bool
  | [(.text "clone", .dict [(.text "depth", .int 3)])] => true
  | _ => false

theorem holds_depthSession (value : String) :
    Holds (depthSession value) (.absolute ["me", ".config", "replant", "config.toml"]) [] ∧
      Holds (depthSession value) (.absolute ["work", ".replant.toml"]) depthProject := by
  have hread : (Toml.read "clone.depth = 3\n").toOption.any isDepthProject := by
    decide +kernel
  have hbytes : ((depthSession "").disk.readBytes ["work"]
      (.absolute ["work", ".replant.toml"])).toOption.any
        (· == "clone.depth = 3\n".toUTF8.toList) := by
    decide +kernel
  have habsent : ((depthSession "").disk.isFile ["work"]
      (.absolute ["me", ".config", "replant", "config.toml"])).toOption.any (· == false) := by
    decide +kernel
  obtain ⟨t, ht, hproject⟩ := any_toOption.mp hread
  rw [isDepthProject.eq_def] at hproject
  split at hproject
  case h_2 => cases hproject
  exact ⟨.absent (eq_ok_of_any habsent), .parsed (eq_ok_of_any hbytes) (by decide +kernel) ht⟩

theorem takesOver_depthSession (value : String) :
    TakesOver (depthSession value) (depthSession value) := by
  have habsent : ((depthSession "").disk.isFile ["work"]
      ((depthSession "").workFolder.child ".env")).toOption.any (· == false) := by
    decide +kernel
  exact .nothing (eq_ok_of_any habsent)

theorem valueOf?_depthSession {value v : String} {e : String × String}
    (he : e ∈ settingVariables) (hv : (depthSession value).valueOf? e.1 = some v) :
    e = ("REPLANT_CLONE_DEPTH", "clone.depth") ∧ v = value := by
  have hnames : ∀ e ∈ settingVariables,
      e = ("REPLANT_CLONE_DEPTH", "clone.depth") ∨ (e.1 == "REPLANT_CLONE_DEPTH") = false := by
    decide
  rw [Session.valueOf?, depthSession, List.lookup_cons] at hv
  rcases hnames e he with rfl | hother
  · exact ⟨rfl, (Option.some.inj hv).symm⟩
  · rw [hother] at hv
    cases hv

def isInt (n : Int) : Datum → Bool
  | .int i => i == n
  | _ => false

theorem eq_of_isInt {n : Int} {d : Datum} (h : isInt n d) : d = .int n := by
  rw [isInt.eq_def] at h
  split at h
  case h_1 => rw [eq_of_beq h]
  case h_2 => cases h

theorem lookup_defaults_depth : lookup (.dict defaults) "clone.depth" = .int 1 := by
  exact eq_of_isInt (by decide +kernel)

theorem trips_squared : Trips (.int 1) "²" (.badInteger 10 "²") := by
  have hread : (match Number.Literal.integer "²" with
      | .malformed => true
      | _ => false) = true := by
    decide +kernel
  refine .malformed (by decide +kernel) ?_
  split at hread
  case h_1 h => exact h
  case h_2 => cases hread

-- A word puts the depth that is built in above that of the project, and a square stops everything.
theorem exists_renew_unless_trips_depth :
    (∃ r, Ends renew (depthSession "five") (.ok r) { depthSession "five" with config := some r } ∧
      find? (path "clone.depth") (.dict r.data) = some (.int 1) ∧
      layered [] depthProject (unset (depthSession "five").valueOf? "REPLANT_CLONE_DEPTH") ≠
        .ok r.data) ∧
    Ends renew (depthSession "²") (.error (.fault (.badInteger 10 "²"))) (depthSession "²") := by
  have huser (value : String) : Ends userFile (depthSession value)
      (.ok (.absolute ["me", ".config", "replant", "config.toml"])) (depthSession value) := rfl
  have hall (value : String) := exists_renew_unless_trips (huser value) rfl
    (holds_depthSession value).1 (holds_depthSession value).2 (takesOver_depthSession value)
  have hmem : ("REPLANT_CLONE_DEPTH", "clone.depth") ∈ settingVariables := by decide
  refine ⟨?word, ?square⟩
  case word =>
    have hword : ¬ isNumeral "five" := by decide +kernel
    have hnone : ∀ e ∈ settingVariables, ∀ v f, (depthSession "five").valueOf? e.1 = some v →
        ¬ Trips (lookup (.dict defaults) e.2) v f := by
      intro e he v f hv htrips
      obtain ⟨rfl, rfl⟩ := valueOf?_depthSession he hv
      rw [lookup_defaults_depth] at htrips
      cases htrips
      all_goals exact hword ‹_›
    obtain ⟨r, hr, hunfit⟩ := (hall "five").2 hnone
    have hdepth := hunfit _ hmem "five" rfl (lookup_defaults_depth ▸ .number hword)
    rw [lookup_defaults_depth] at hdepth
    have hlower : (find? (path "clone.depth")
        (.dict (merge (merge defaults []) depthProject))).any (isInt 3) := by
      decide +kernel
    refine ⟨r, hr, hdepth.1, fun hsame => ?_⟩
    rw [hdepth.2.mp hsame] at hlower
    cases hlower
  case square =>
    have htrips := trips_squared
    rw [← lookup_defaults_depth] at htrips
    obtain ⟨e, he, v, f, hv, hf, hends⟩ := (hall "²").1 ⟨_, hmem, "²", _, rfl, htrips⟩
    obtain ⟨rfl, rfl⟩ := valueOf?_depthSession he hv
    have hfault := (coerce_eq_error_iff.mpr hf).symm.trans (coerce_eq_error_iff.mpr htrips)
    exact Except.error.inj hfault ▸ hends

-- Neither of the two texts is passed over: without the variable the depth is that of the project.
theorem not_every_unusable_ignored :
    (∃ f, Ends renew (depthSession "²") (.error (.fault f)) (depthSession "²")) ∧
    (∃ r t, Ends renew (depthSession "five") (.ok r) t ∧ r.get "clone.depth" = .int 1) ∧
    ∃ r t, Ends renew ((depthSession "five").unsetVariable "REPLANT_CLONE_DEPTH") (.ok r) t ∧
      r.get "clone.depth" = .int 3 := by
  have hword : Ends.returnsWith renew (depthSession "five")
      fun r _ => isInt 1 (r.get "clone.depth") := by
    decide +kernel
  have hunset : Ends.returnsWith renew ((depthSession "five").unsetVariable "REPLANT_CLONE_DEPTH")
      fun r _ => isInt 3 (r.get "clone.depth") := by
    decide +kernel
  obtain ⟨r, t, hr, hdepth⟩ := Ends.of_returnsWith hword
  obtain ⟨r', t', hr', hdepth'⟩ := Ends.of_returnsWith hunset
  refine ⟨?square, ⟨r, t, hr, eq_of_isInt hdepth⟩, r', t', hr', eq_of_isInt hdepth'⟩
  case square =>
    have hlayered : ∃ f, layered [] depthProject (depthSession "²").valueOf? = .error f ∧ true :=
      exists_error (by decide +kernel)
    obtain ⟨f, hdata, _⟩ := hlayered
    exact ⟨f, renew_of_fault rfl rfl (holds_depthSession "²").1 (holds_depthSession "²").2
      (takesOver_depthSession "²") hdata⟩

end Refit.Config
