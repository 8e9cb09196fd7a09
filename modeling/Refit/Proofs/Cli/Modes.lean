import Refit.Proofs.Cli.Lines
import Refit.Proofs.Cli.Tasks

/-!
Commands in two modes: what they find is shown as text, or as JSON.

As long as it can be shown, the mode changes nothing of what is left behind. It does change the exit
status of an import that fails, of which JSON tells in words alone.
-/

namespace Refit

namespace Cli

variable {yaml : Yaml.Library} {a b : Dict} {t : Task} {f : Finding} {w u : Terminal}
  {s v : Session} {r : Except Ending Unit} {c : Refusal} {words rest : List String}

/-! Arguments -/

namespace SwitchedOn

variable {k : String}

theorem text_eq (h : SwitchedOn "json" a b) (hk : k ≠ "json") : text b k = text a k := by
  rw [text, text, h.get hk]

theorem isOn_eq {fallback : Bool} (h : SwitchedOn "json" a b) (hk : k ≠ "json") :
    isOn b k fallback = isOn a k fallback := by
  rw [isOn, isOn, h.get hk]

theorem choices_eq {defaults : Dict} (h : SwitchedOn "json" a b) :
    choices defaults b = choices defaults a := by
  simp only [choices, h.isOn_eq (by decide : "migrate_models" ≠ "json"),
    h.isOn_eq (by decide : "regenerate_screens" ≠ "json"),
    h.isOn_eq (by decide : "no_design" ≠ "json"), h.isOn_eq (by decide : "no_offline" ≠ "json"),
    h.isOn_eq (by decide : "encrypt" ≠ "json"), h.get (by decide : "architecture" ≠ "json"),
    h.get (by decide : "state" ≠ "json"), h.get (by decide : "modules" ≠ "json"),
    h.get (by decide : "exclude" ≠ "json")]

theorem work_eq (h : SwitchedOn "json" a b) : t.work yaml b = t.work yaml a := by
  have hoptions : optionsOf b = optionsOf a := by simp only [optionsOf, h.choices_eq]
  have himport : importOf b = importOf a := by
    rw [importOf, importOf, hoptions, h.text_eq (by decide), h.get (by decide), h.get (by decide),
      h.isOn_eq (by decide)]
  cases t
  case analyse => simp only [Task.work, h.text_eq (by decide : "path" ≠ "json"),
    h.get (by decide : "depth" ≠ "json")]
  case plan => simp only [Task.work, hoptions, h.text_eq (by decide : "analysis_file" ≠ "json")]
  case rebuild =>
    have hsources : sourcesOf b = sourcesOf a := by
      rw [sourcesOf, sourcesOf, h.isOn_eq (by decide), h.text_eq (by decide), h.text_eq (by decide)]
    simp only [Task.work, hsources, h.text_eq (by decide : "schema_file" ≠ "json"),
      h.text_eq (by decide : "output" ≠ "json")]
  case importRepository => simp only [Task.work, himport, h.text_eq (by decide : "url" ≠ "json")]
  case importExport => simp only [Task.work, himport, h.text_eq (by decide : "file" ≠ "json")]

theorem conclude_eq (h : SwitchedOn "json" a b) : f.conclude yaml b = f.conclude yaml a := by
  cases f
  case analysis => simp only [Finding.conclude, keep, h.text_eq (by decide : "save" ≠ "json")]
  case plan => simp only [Finding.conclude, keep, h.text_eq (by decide : "save" ≠ "json")]
  all_goals rfl

theorem operation_eq (h : SwitchedOn "json" a b) : t.operation yaml b = t.operation yaml a := by
  rw [Task.operation, Task.operation, h.work_eq]
  exact bind_congr fun f => h.conclude_eq

theorem legible (h : SwitchedOn "json" a b) (hl : Legible a) : Legible b := by
  rw [Legible, h.text_eq (by decide)]
  exact hl

end SwitchedOn

/-! Command lines -/

-- The exit status of a command line, by how it ends.
def status : Except Ending Unit → Nat
  | .ok () => 0
  | .error (.exit n) => n
  | .error (.stopped _) => 1

theorem reporting_ends {x : Talk Unit} (h : x.Ends w s r u v) :
    ∃ r' u', (Talk.reporting x).Ends w s r' u' v ∧ status r' = status r := by
  cases r
  case ok => exact ⟨_, u, .tryCatch_of_ok h, rfl⟩
  case error e =>
    cases e
    case exit n => exact ⟨_, u, (Talk.Ends.tryCatch_of_error h).mpr .of_throw, rfl⟩
    case stopped e =>
      have hsession : (getThe Session : Talk Session).Ends u v (.ok v) u v := rfl
      obtain ⟨q, u', hreport⟩ := Refit.Ends.exists_ends
        (Terminal.report (Terminal.asksForDetails (v.valueOf? "REPLANT_DEBUG")) e) u
      cases q
      case ok =>
        refine ⟨.error (.exit 1), u', (Talk.Ends.tryCatch_of_error h).mpr ?_, rfl⟩
        exact (Talk.Ends.bind_of_ok hsession).mpr
          ((Talk.Ends.bind_of_ok (.ofPrint hreport)).mpr .of_throw)
      case error e' =>
        refine ⟨.error (.stopped e'), u', (Talk.Ends.tryCatch_of_error h).mpr ?_, rfl⟩
        exact (Talk.Ends.bind_of_ok hsession).mpr (.bind_of_error (.ofPrint hreport))

theorem run_ends (h : (talk words).Ends {} { s with config := none } r u v) :
    (run words).run s = (⟨status r, u.output, u.errors⟩, v) := by
  have hd : ((ExceptT.run (talk words)).run {}).run { s with config := none } = ((r, u), v) := h
  have hrun : (run words).run s =
      ((fun x : Except Ending Unit × Terminal => (⟨status x.1, x.2.output, x.2.errors⟩ : Outcome))
        (((ExceptT.run (talk words)).run {}).run { s with config := none }).1,
      (((ExceptT.run (talk words)).run {}).run { s with config := none }).2) := rfl
  rw [hrun, hd]

theorem runCommand_of_parse (h : t.grammar.parse rest = .ok a) :
    runCommand commands (t.name :: rest) = Talk.reporting (t.run .standard a) := by
  rw [runCommand, Task.findCommand_name]
  change (orRefused (t.grammar.parse rest) >>= fun a => Talk.reporting (t.run .standard a)) = _
  rw [h]
  rfl

theorem runCommand_of_refused (h : t.grammar.parse rest = .error c) :
    runCommand commands (t.name :: rest) = throw (.exit (refusalStatus c)) := by
  rw [runCommand, Task.findCommand_name]
  change (orRefused (t.grammar.parse rest) >>= fun a => Talk.reporting (t.run .standard a)) = _
  rw [h]
  rfl

theorem talk_plain : (talk ("--plain" :: t.name :: rest)).Ends w s r u v ↔
    (runCommand commands (t.name :: rest)).Ends { w with plain := true } s r u v := by
  have hname : t.name ≠ "--" ∧ Grammar.isOption t.name = false ∧ isCommand t.name ∧
      t.name ≠ configName := by
    cases t <;> decide +kernel
  have hread : mainGrammar.read ("--plain" :: t.name :: rest) =
      .ok ⟨[(.text "plain", .bool true)], t.name :: rest⟩ := by
    rw [Grammar.read, Grammar.readFrom_switch (f := ⟨"plain", ["--plain"], .switch true⟩) rfl rfl
      (by decide +kernel) (by decide +kernel)]
    rw [List.length_cons, List.length_cons, Nat.mul_succ, Grammar.readFrom,
      if_neg (by rw [beq_iff_eq]; exact hname.1),
      if_neg (by rw [hname.2.1]; exact Bool.false_ne_true)]
    rfl
  have hprepare : (prepare [(.text "plain", .bool true)]).Ends w s (.ok ⟨⟩)
      { w with plain := true } s := rfl
  rw [talk, hread]
  change Talk.Ends (do
    if !isCommand t.name then throw (.exit (refusalStatus .usage))
    prepare [(.text "plain", .bool true)]
    if t.name == configName then runConfig rest
    else runCommand commands (t.name :: rest)) w s r u v ↔ _
  rw [if_neg (by simp [hname.2.2.1]), if_neg (by simpa using hname.2.2.2)]
  exact Talk.Ends.bind_of_ok hprepare

theorem Task.switches_json : t.grammar.Switches "json" where
  flags := by cases t <;> decide
  positions := by cases t <;> decide

theorem Task.flag?_json : t.grammar.flag? "--json" = some json := by
  cases t <;> rfl

-- What a command line asks for but for showing it.
def Task.asked (t : Task) (rest : List String) : Talk Unit := do
  t.operation .standard (← orRefused (t.grammar.parse rest))

-- A command line that asks for no JSON, if all that may be found with it can be shown in both
-- modes.
structure ShowsBoth (t : Task) (rest : List String) (s : Session) : Prop where
  textual : ∀ a, t.grammar.parse rest = .ok a → isOn a "json" = false
  legible : ∀ a, t.grammar.parse rest = .ok a → Legible a
  showable : ∀ a f v, t.grammar.parse rest = .ok a →
    (t.work .standard a).Ends {} s (.ok f) {} v → f.Showable

-- A command line that asks for an import which comes to a result, but not to success.
def AsksInVain (t : Task) (rest : List String) (s : Session) : Prop :=
  ∃ a, t.grammar.parse rest = .ok a ∧ t.FailsLate .standard a s

theorem talk_refused (h : t.grammar.parse rest = .error c) :
    (talk ("--plain" :: t.name :: rest)).Ends {} s (.error (.exit (refusalStatus c)))
      { plain := true } s := by
  rw [talk_plain, runCommand_of_refused h]
  exact .of_throw

theorem talk_of_run (ha : t.grammar.parse rest = .ok a)
    (h : (t.run .standard a).Ends { plain := true } s r u v) :
    ∃ r' u', (talk ("--plain" :: t.name :: rest)).Ends {} s r' u' v ∧ status r' = status r := by
  obtain ⟨r', u', hx, hstatus⟩ := reporting_ends h
  rw [← runCommand_of_parse ha] at hx
  exact ⟨r', u', talk_plain.mpr hx, hstatus⟩

-- Whether JSON is asked for or not, a command line leaves the same behind, and its exit status is
-- that of what it asks for. The only exception is an import without success, which exits well once
-- its result is shown as JSON.
theorem modes_agree (h : ShowsBoth t rest { s with config := none }) :
    ∃ (r : Except Ending Unit) (v : Session) (x y : Outcome),
      (t.asked rest).Ends {} { s with config := none } r {} v ∧
      (run ("--plain" :: t.name :: rest)).run s = (x, v) ∧
      (run ("--plain" :: t.name :: "--json" :: rest)).run s = (y, v) ∧ x.status = status r ∧
      (¬AsksInVain t rest { s with config := none } → y.status = x.status) ∧
      (AsksInVain t rest { s with config := none } → x.status = 1 ∧ y.status = 0) := by
  rcases @Grammar.parse_json_cases t.grammar rest t.switches_json t.flag?_json with
    ⟨c, ha, hb⟩ | ⟨a, b, ha, hb, hab⟩
  case inl =>
    refine ⟨.error (.exit (refusalStatus c)), _, _, _, ?_, run_ends (talk_refused ha),
      run_ends (talk_refused hb), rfl, fun _ => rfl, ?_⟩
    · rw [Task.asked, ha]
      exact .of_throw
    · rintro ⟨_, ha', _⟩
      cases ha.symm.trans ha'
  case inr =>
    have hvain : AsksInVain t rest { s with config := none } ↔
        t.FailsLate .standard b { s with config := none } := by
      rw [Task.FailsLate, hab.work_eq]
      refine ⟨?_, fun hlate => ⟨a, ha, hlate⟩⟩
      rintro ⟨_, ha', hlate⟩
      exact Except.ok.inj (ha.symm.trans ha') ▸ hlate
    have hquiet : (t.operation .standard a).Quiet := .bind Task.work_quiet fun _ => conclude_quiet
    obtain ⟨r, u, v, hop⟩ := Talk.Ends.exists_ends (t.operation .standard a) {}
      { s with config := none }
    obtain ⟨rfl, hplain⟩ := hquiet _ { plain := true } _ _ _ _ hop
    have hshowable : ∀ f v, (t.work .standard a).Ends { plain := true } { s with config := none }
        (.ok f) { plain := true } v → f.Showable := fun f v hf =>
      h.showable a f v ha (Task.work_quiet _ {} _ _ _ _ hf).2
    have hjson : isOn b "json" = true := by
      rw [isOn, Dict.get, hab.on]
      rfl
    obtain ⟨_, htext⟩ := run_text rfl (h.textual a ha) (h.legible a ha) hshowable hplain
    obtain ⟨r', _, hshown, hsame, hlate⟩ := run_json hjson (hab.legible (h.legible a ha))
      (hab.work_eq ▸ hshowable) (hab.operation_eq ▸ hplain)
    obtain ⟨_, _, hx, hstatus⟩ := talk_of_run ha htext
    obtain ⟨_, _, hy, hstatus'⟩ := talk_of_run hb hshown
    refine ⟨r, v, _, _, ?_, run_ends hx, run_ends hy, hstatus, fun hno => ?_, fun hvainly => ?_⟩
    · rw [Task.asked, ha]
      exact hop
    · obtain rfl := hsame (mt hvain.mpr hno)
      exact hstatus'.trans hstatus.symm
    · obtain ⟨rfl, rfl⟩ := hlate (hvain.mp hvainly)
      exact ⟨hstatus, hstatus'⟩

-- A session with an export of no files.
def exportSession : Session where
  disk := ⟨[(["home"], .folder), (["home", "in.txt"], .file [])]⟩
  cwd := ["home"]
  home := ["home"]
  temp := ["tmp"]

def analysingWords : List String :=
  ["--depth", "deep", "--save", "a.yaml", "in.txt"]

theorem modes_agree_export : ∃ (v : Session) (x y : Outcome),
    (run ("--plain" :: "analyze" :: analysingWords)).run exportSession = (x, v) ∧
      (run ("--plain" :: "analyze" :: "--json" :: analysingWords)).run exportSession = (y, v) ∧
      x.status = 0 ∧ y.status = 0 ∧ (v.disk.content? ["home", "a.yaml"]).isSome := by
  have hshown : (analyseGrammar.parse analysingWords).toOption.any fun a =>
      (!isOn a "json" && decide (text a "save" = "a.yaml")) &&
      (Task.analyse.work .standard a).returnsWith {} { exportSession with config := none }
        fun f => (f.document.unshared >>= Json.writeLenient).isOk := by
    decide +kernel
  have hruns : ((run ("--plain" :: "analyze" :: analysingWords)).run exportSession).1.status = 0 ∧
      (((run ("--plain" :: "analyze" :: analysingWords)).run exportSession).2.disk.content?
        ["home", "a.yaml"]).isSome := by
    decide +kernel
  obtain ⟨a, hparse, hshown⟩ := any_toOption.mp hshown
  obtain ⟨hwords, hjson⟩ := Bool.and_eq_true_iff.mp hshown
  obtain ⟨htext, hsave⟩ := Bool.and_eq_true_iff.mp hwords
  have hsame {b : Dict} (hb : analyseGrammar.parse analysingWords = .ok b) : b = a :=
    Except.ok.inj (hb.symm.trans hparse)
  have hshows : ShowsBoth .analyse analysingWords { exportSession with config := none } :=
    { textual := fun b hb => hsame hb ▸ (by simpa using htext)
      legible := fun b hb _ => by
        rw [hsame hb, of_decide_eq_true hsave]
        decide +kernel
      showable := fun b f v hb hf => by
        rw [hsame hb] at hf
        have hdocument := Talk.of_returnsWith hjson hf
        exact ⟨hdocument, analysis_prints _ _ _ _ _ hf⟩ }
  obtain ⟨r, v, x, y, -, hx, hy, -, hagree, -⟩ := modes_agree hshows
  have hno : ¬AsksInVain .analyse analysingWords { exportSession with config := none } := by
    rintro ⟨b, h, x, v, hwork, -⟩
    cases Task.work_finds _ _ _ _ _ hwork
    contradiction
  have hx' : (run ("--plain" :: "analyze" :: analysingWords)).run exportSession = (x, v) := hx
  rw [hx'] at hruns
  exact ⟨v, x, y, hx, hy, hruns.1, (hagree hno).trans hruns.1, hruns.2⟩

-- An import without success exits well if its result is shown as JSON, and badly otherwise.
theorem import_status_varies :
    ((run ["--plain", "import-export", "app.txt", "out"]).run exportSession).1.status = 1 ∧
      ((run ["--plain", "import-export", "app.txt", "out", "--json"]).run
        exportSession).1.status = 0 := by
  decide +kernel

end Cli

end Refit
