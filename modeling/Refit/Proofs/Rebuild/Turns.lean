import Refit.Proofs.Plan.Formed
import Refit.Proofs.Rebuild.Generation

/-!
The turns of modules to be configured.

In its turn the calls of a module are made one by one, up to the first that is refused. If none is,
the engine is asked to configure the module.
-/

namespace Refit

namespace Rebuild

/-! Calls -/

-- Whether a call succeeded: it answered with a mapping that says so.
def accepts : Except Stop Datum → Bool
  | .ok d => d.entries?.any fun es => (Dict.get es "success").truthy
  | .error _ => false

-- Why a call did not succeed.
def refusal (c : ToolCall) : Except Stop Datum → String
  | .ok d =>
    match refusal? c d with
    | .ok e => e.getD ""
    | .error f => f.message
  | .error e => e.message

theorem refusal?_eq_none_iff {c : ToolCall} {d : Datum} :
    refusal? c d = .ok none ↔ accepts (.ok d) := by
  have hrefused (e : Datum) : (do
      return some ((← c.tool.toText) ++ ": " ++ (← (e.orElse "unknown error").toText)) :
        Datum.Read (Option String)) ≠ .ok none := by
    intro h
    simp only [bind_eq_ok, pure_eq_ok] at h
    have ⟨_, _, _, _, h⟩ := h
    cases h
  rw [refusal?, accepts]
  cases he : d.entries?
  case none => simpa using hrefused d
  case some es =>
    by_cases ht : (Dict.get es "success").truthy
    case pos => simp [ht, pure, Except.pure]
    case neg => simpa [ht] using hrefused (Dict.get es "error")

/-! Turns -/

-- How the turn of a module ends: its part of the plan cannot be read, a call is refused, the engine
-- cannot configure the module, or it is configured. What comes after that is an `α`.
inductive Turn.Ending (α : Type)
  | malformed (f : Fault)
  | refused (call : ToolCall) (answer : Except Stop Datum)
  | unapplied (config : Dict) (e : Stop)
  | applied (config : Dict) (next : α)

-- The turn of a module, with the calls that succeeded.
structure Turn (α : Type) where
  module : Datum
  passed : List (ToolCall × Datum)
  ending : Turn.Ending α

namespace Turn

variable {α : Type}

-- The calls that are made, with the answers.
def issued (x : Turn α) : List (ToolCall × Except Stop Datum) :=
  x.passed.map (fun p => (p.1, .ok p.2)) ++
    match x.ending with
    | .refused c a => [(c, a)]
    | _ => []

-- What the engine is asked to apply, with its answer.
def application : Turn α → Option (Dict × Except Stop Unit)
  | ⟨_, _, .unapplied config e⟩ => some (config, .error e)
  | ⟨_, _, .applied config _⟩ => some (config, .ok ())
  | _ => none

-- Why the module is not configured, if it is not.
def reason? (x : Turn α) : Option String :=
  match x.ending with
  | .malformed f => some f.message
  | .refused c a => some (refusal c a)
  | .unapplied _ e => some e.message
  | .applied _ _ => none

-- A turn follows the plan: the calls are those of the plan up to the first that is refused, and the
-- configuration of the plan is applied exactly if none is. What is malformed ends the turn too, but
-- nothing of a well formed plan is.
def Follows (x : Turn α) (formed : Prop) (planned : Datum.Read (List ToolCall))
    (config : Datum.Read Dict) : Prop :=
  (∀ p ∈ x.passed, accepts (.ok p.2)) ∧
    match x.ending with
    | .malformed f => ¬formed ∧ (planned = .error f ∧ x.passed = [] ∨
        planned = .ok (x.passed.map Prod.fst) ∧ config = .error f)
    | .refused c a => ¬accepts a ∧ ∃ rest, planned = .ok (x.passed.map Prod.fst ++ c :: rest)
    | .unapplied d _ | .applied d _ => planned = .ok (x.passed.map Prod.fst) ∧ config = .ok d

end Turn

variable {σ : Type}

-- The calls are answered in turn.
inductive Called (caller : Caller σ) : List (ToolCall × Except Stop Datum) → σ → σ → Prop
  | nil {t : σ} : Called caller [] t t
  | cons {c : ToolCall} {a : Except Stop Datum} {rest : List (ToolCall × Except Stop Datum)}
      {t u v : σ} : Ends (caller c) t a u → Called caller rest u v →
      Called caller ((c, a) :: rest) t v

-- The configuration that a plan has for a module, as it is shown at a state.
def configOf (engine : Engine σ) (entries : Dict) (t : σ) (module : Datum) : Datum.Read Dict := do
  let entry := engine.current t ((Dict.at? entries module).getD (.dict []))
  ((Dict.get (← entry.asDict) "config").orElse (.dict [])).toDict

-- The engine answers to what it is asked to apply, if it is asked.
def Applies (engine : Engine σ) (project module : Datum) :
    Option (Dict × Except Stop Unit) → σ → σ → Prop
  | none, u, v => v = u
  | some (config, a), u, v => Ends (engine.apply project module config) u a v

variable {α : Type}

-- The modules have their turns one after the other.
inductive Turns (engine : Engine σ) (caller : Caller σ) (s : Schema) (entries : Dict)
    (project : Datum) : List (Turn α) → σ → σ → Prop
  | nil {t : σ} : Turns engine caller s entries project [] t t
  | cons {x : Turn α} {xs : List (Turn α)} {t u v w : σ} :
      x.Follows (s.WellFormed (engine.current t) ∧ s.WellFormed (engine.current u))
        ((s.map (engine.current t)).calls project x.module) (configOf engine entries u x.module) →
      Called caller x.issued t u → Applies engine project x.module x.application u v →
      Turns engine caller s entries project xs v w →
      Turns engine caller s entries project (x :: xs) t w

variable {engine : Engine σ} {caller : Caller σ} {s : Schema} {entries : Dict}
  {project module : Datum} {modules configured : List Datum} {ws : List String} {t u v : σ}

-- Why a module is not configured, given how the attempt ends.
def reasonOf : Except Stop (Option String) → Option String
  | .ok e => e
  | .error e => some e.message

-- Calls are made up to the first that is refused.
theorem makeCalls_ends {cs : List ToolCall} {r : Except Stop (Option String)}
    (h : Ends (makeCalls caller cs) t r u) :
    (r = .ok none ∧ ∃ passed : List (ToolCall × Datum), passed.map Prod.fst = cs ∧
      (∀ p ∈ passed, accepts (.ok p.2)) ∧ Called caller (passed.map fun p => (p.1, .ok p.2)) t u) ∨
    ∃ (passed : List (ToolCall × Datum)) (c : ToolCall) (a : Except Stop Datum)
      (rest : List ToolCall),
      cs = passed.map Prod.fst ++ c :: rest ∧ (∀ p ∈ passed, accepts (.ok p.2)) ∧ ¬accepts a ∧
      reasonOf r = some (refusal c a) ∧
      Called caller (passed.map (fun p => (p.1, .ok p.2)) ++ [(c, a)]) t u := by
  induction cs generalizing t
  case nil =>
    obtain ⟨rfl, rfl⟩ := Ends.pure_iff.mp h
    exact .inl ⟨rfl, [], rfl, nofun, .nil⟩
  case cons c cs ih =>
    rcases Ends.bind_iff.mp h with ⟨d, t', hc, h₁⟩ | ⟨e, rfl, hc⟩
    case inr =>
      refine .inr ⟨[], c, .error e, cs, rfl, nofun, by simp [accepts], rfl, ?_⟩
      exact .cons hc .nil
    have hcalled : Called caller [(c, .ok d)] t t' := .cons hc .nil
    cases hr : refusal? c d
    case error f =>
      rw [hr] at h₁
      have ⟨hq, hu⟩ := Ends.unique h₁ (Ends.bind_of_error (Work.ofRead_iff.mpr ⟨rfl, rfl⟩))
      refine .inr ⟨[], c, .ok d, cs, rfl, nofun, ?_, ?_, hu ▸ hcalled⟩
      · rw [← refusal?_eq_none_iff, hr]
        nofun
      · rw [hq, refusal, hr]
        rfl
    case ok e =>
      rw [hr, Ends.bind_of_ok (Work.ofRead_ok_iff.mpr ⟨rfl, rfl⟩)] at h₁
      cases e
      case some e =>
        obtain ⟨rfl, rfl⟩ := Ends.pure_iff.mp h₁
        refine .inr ⟨[], c, .ok d, cs, rfl, nofun, ?_, ?_, hcalled⟩
        · rw [← refusal?_eq_none_iff, hr]
          nofun
        · rw [refusal, hr]
          rfl
      case none =>
        have hd : accepts (.ok d) := refusal?_eq_none_iff.mp hr
        rcases ih h₁ with ⟨rfl, passed, rfl, hpassed, hrest⟩ |
          ⟨passed, c', a, rest, rfl, hpassed, ha, hreason, hrest⟩
        case inl =>
          refine .inl ⟨rfl, (c, d) :: passed, rfl, ?_, .cons hc hrest⟩
          exact List.forall_mem_cons.mpr ⟨hd, hpassed⟩
        case inr =>
          refine .inr ⟨(c, d) :: passed, c', a, rest, rfl, ?_, ha, hreason, .cons hc hrest⟩
          exact List.forall_mem_cons.mpr ⟨hd, hpassed⟩

-- The entry of a module, or the empty one where it has none.
theorem entry_mem (h : entriesOf s = .ok entries) : ∃ ms, s.modules = .ok ms ∧
    (Dict.at? entries module).getD (.dict []) ∈ .dict [] :: ms := by
  simp only [entriesOf, bind_eq_ok, pure_eq_ok] at h
  obtain ⟨ms, hms, named, hnamed, rfl⟩ := h
  refine ⟨ms, hms, ?_⟩
  cases ha : Dict.at? (Dict.putAll [] named) module
  case none => exact .head _
  case some v =>
    refine .tail _ ?_
    have hv := (Dict.mem_values_putAll (Dict.mem_of_at? ha)).resolve_left (by simp)
    have hsame : ms = named.map Prod.snd := by
      rw [← List.forall₂_eq_eq_eq, List.forall₂_map_right_iff]
      refine (mapM_eq_ok.mp hnamed).imp fun m e he => ?_
      simp only [bind_eq_ok, pure_eq_ok] at he
      obtain ⟨_, _, _, _, rfl⟩ := he
      rfl
    exact hsame ▸ hv

theorem exists_config (hentries : entriesOf s = .ok entries)
    (h : s.WellFormed (engine.current u)) : ∃ d, configOf engine entries u module = .ok d := by
  have ⟨ms, hms, hmem⟩ := @entry_mem s entries module hentries
  have ⟨es, hes, hconfig⟩ := h.modules ms hms _ hmem
  have ⟨d, hd⟩ := hconfig.exists_entries?
  exact ⟨d, by rw [configOf, Datum.asDict_of_entries? hes]; exact Datum.toDict_of_entries? hd⟩

-- One module has its turn.
theorem configureOne_ends {r : Except Stop (Option String)} (hentries : entriesOf s = .ok entries)
    (h : Ends (configureOne engine caller s entries project module) t r v) :
    ∃ (x : Turn Unit) (u : σ), x.module = module ∧ reasonOf r = x.reason? ∧
      x.Follows (s.WellFormed (engine.current t) ∧ s.WellFormed (engine.current u))
        ((s.map (engine.current t)).calls project module) (configOf engine entries u module) ∧
      Called caller x.issued t u ∧ Applies engine project module x.application u v := by
  rw [configureOne, Ends.get_bind_iff] at h
  cases hp : (s.map (engine.current t)).calls project module
  case error f =>
    rw [hp] at h
    have ⟨hr, hv⟩ := Ends.unique h (Ends.bind_of_error (Work.ofRead_iff.mpr ⟨rfl, rfl⟩))
    refine ⟨⟨module, [], .malformed f⟩, t, rfl, hr ▸ rfl, ⟨nofun, ?_, .inl ⟨rfl, rfl⟩⟩, .nil, hv⟩
    intro hformed
    have ⟨planned, hplanned⟩ := @Schema.WellFormed.exists_calls s _ project module hformed.1
    cases hp.symm.trans hplanned
  case ok planned =>
    rw [hp, Ends.bind_of_ok (Work.ofRead_ok_iff.mpr ⟨rfl, rfl⟩)] at h
    have ⟨q, u, hcalls⟩ := Ends.exists_ends (makeCalls caller planned) t
    rcases makeCalls_ends hcalls with ⟨rfl, passed, rfl, hpassed, hcalled⟩ |
      ⟨passed, c, a, rest, rfl, hpassed, ha, hreason, hcalled⟩
    case inl =>
      rw [Ends.bind_of_ok hcalls, Ends.get_bind_iff] at h
      change Ends (Work.ofRead (configOf engine entries u module) >>= _) u r v at h
      cases hc : configOf engine entries u module
      case error f =>
        rw [hc] at h
        have ⟨hr, hv⟩ := Ends.unique h (Ends.bind_of_error (Work.ofRead_iff.mpr ⟨rfl, rfl⟩))
        refine ⟨⟨module, passed, .malformed f⟩, u, rfl, hr ▸ rfl,
          ⟨hpassed, ?_, .inr ⟨rfl, hc⟩⟩, ?_, hv⟩
        · intro hformed
          have ⟨d, hd⟩ := @exists_config _ engine s entries module u hentries hformed.2
          cases hc.symm.trans hd
        · simpa [Turn.issued] using hcalled
      case ok d =>
        rw [hc, Ends.bind_of_ok (Work.ofRead_ok_iff.mpr ⟨rfl, rfl⟩)] at h
        have hissued : Called caller (passed.map (fun p => (p.1, Except.ok p.2)) ++ []) t u := by
          rwa [List.append_nil]
        rcases Ends.bind_iff.mp h with ⟨⟨⟩, v', happly, h₁⟩ | ⟨e, rfl, happly⟩
        case inl =>
          obtain ⟨rfl, rfl⟩ := Ends.pure_iff.mp h₁
          exact ⟨⟨module, passed, .applied d ()⟩, u, rfl, rfl, ⟨hpassed, rfl, hc⟩, hissued, happly⟩
        case inr =>
          exact ⟨⟨module, passed, .unapplied d e⟩, u, rfl, rfl, ⟨hpassed, rfl, hc⟩, hissued, happly⟩
    case inr =>
      have ⟨hr, hv⟩ : reasonOf r = reasonOf q ∧ v = u := by
        rcases q with e | _ | e
        case error =>
          obtain ⟨rfl, rfl⟩ := Ends.unique h (Ends.bind_of_error hcalls)
          exact ⟨rfl, rfl⟩
        case ok.none => cases hreason
        case ok.some =>
          rw [Ends.bind_of_ok hcalls] at h
          obtain ⟨rfl, rfl⟩ := Ends.pure_iff.mp h
          exact ⟨rfl, rfl⟩
      exact ⟨⟨module, passed, .refused c a⟩, u, rfl, hr.trans hreason,
        ⟨hpassed, ha, rest, rfl⟩, hcalled, hv⟩

namespace Turn

variable {α β : Type}

-- The module, if it is configured.
def configured? (x : Turn α) : Option Datum :=
  match x.ending with
  | .applied _ _ => some x.module
  | _ => none

-- The module and the reason, if it is not configured.
def unconfigured? (x : Turn α) : Option (Datum × String) :=
  x.reason?.map (x.module, ·)

-- What comes after the module is configured.
def next? (x : Turn α) : Option α :=
  match x.ending with
  | .applied _ b => some b
  | _ => none

theorem configured?_of_reason? {x : Turn α} (h : x.reason? = none) :
    x.configured? = some x.module := by
  rcases x with ⟨_, _, _ | _ | _ | _⟩
  case applied => rfl
  all_goals cases h

theorem configured?_of_unconfigured {x : Turn α} {e : String} (h : x.reason? = some e) :
    x.configured? = none := by
  rcases x with ⟨_, _, _ | _ | _ | _⟩
  case applied => cases h
  all_goals rfl

-- The calls of a module that no tool configures are none.
theorem issued_eq_nil {x : Turn α} {formed : Prop} {config : Datum.Read Dict}
    (h : x.Follows formed (.ok []) config) : x.issued = [] := by
  rcases x with ⟨m, _ | ⟨p, passed⟩, _ | _ | _ | _⟩
  all_goals simp_all [Follows, issued]

end Turn

theorem notConfigured_eq_ok {r : Except Stop (Option String)} {w : Option String} :
    notConfigured module r = .ok w ↔
      match w with
      | none => reasonOf r = none
      | some w => ∃ e, reasonOf r = some e ∧ moduleWarning module "configuration" e = .ok w := by
  rw [notConfigured.eq_def]
  rcases r with e | _ | e <;> cases w <;> simp [-bind_pure_comp, reasonOf, bind_eq_ok, pure_eq_ok]

-- The modules have their turns in order, and each that is not configured costs a warning.
theorem configure_ends (hentries : entriesOf s = .ok entries)
    (h : Ends (configure engine caller s entries project modules) t (.ok (configured, ws)) u) :
    ∃ turns : List (Turn Unit), turns.map Turn.module = modules ∧
      turns.filterMap Turn.configured? = configured ∧
      warningsOf "configuration" (turns.filterMap Turn.unconfigured?) = .ok ws ∧
      Turns engine caller s entries project turns t u := by
  induction modules generalizing configured ws t
  case nil =>
    obtain ⟨hr, rfl⟩ := Ends.pure_ok_iff.mp h
    obtain ⟨rfl, rfl⟩ := Prod.mk.inj hr
    exact ⟨[], rfl, rfl, rfl, .nil⟩
  case cons m ms ih =>
    have ⟨r, t₁, hone, h₁⟩ := Ends.bind_ok_iff.mp h
    have ⟨w, t₂, hread, h₂⟩ := Ends.bind_ok_iff.mp h₁
    obtain ⟨hw, rfl⟩ := Work.ofRead_ok_iff.mp hread
    have ⟨⟨done, vs⟩, t₃, hrest, h₃⟩ := Ends.bind_ok_iff.mp h₂
    obtain ⟨x, t', rfl, hreason, hfollows, hcalled, happlied⟩ :=
      configureOne_ends hentries (Work.outcome_iff.mp hone)
    rw [notConfigured_eq_ok, hreason] at hw
    cases w
    case none =>
      obtain ⟨hr, rfl⟩ := Ends.pure_ok_iff.mp h₃
      obtain ⟨rfl, rfl⟩ := Prod.mk.inj hr
      have ⟨xs, hmodules, hconfigured, hwarnings, hturns⟩ := ih hrest
      refine ⟨x :: xs, congrArg _ hmodules, ?_, ?_, .cons hfollows hcalled happlied hturns⟩
      · rw [List.filterMap_cons_some (Turn.configured?_of_reason? hw), hconfigured]
      · rw [List.filterMap_cons_none (by rw [Turn.unconfigured?, hw]; rfl), hwarnings]
    case some =>
      obtain ⟨hr, rfl⟩ := Ends.pure_ok_iff.mp h₃
      obtain ⟨rfl, rfl⟩ := Prod.mk.inj hr
      have ⟨xs, hmodules, hconfigured, hwarnings, hturns⟩ := ih hrest
      have ⟨e, he, hwarning⟩ := hw
      refine ⟨x :: xs, congrArg _ hmodules, ?_, ?_, .cons hfollows hcalled happlied hturns⟩
      · rw [List.filterMap_cons_none (Turn.configured?_of_unconfigured he), hconfigured]
      · rw [List.filterMap_cons_some (by rw [Turn.unconfigured?, he]; rfl)]
        exact warningsOf_cons.mpr ⟨hwarning, hwarnings⟩

/-! What comes after -/

namespace Turn

-- A turn without what comes after it.
def bare (x : Turn α) : Turn Unit where
  module := x.module
  passed := x.passed
  ending :=
    match x.ending with
    | .malformed f => .malformed f
    | .refused c a => .refused c a
    | .unapplied config e => .unapplied config e
    | .applied config _ => .applied config ()

theorem bare_issued {x : Turn α} : x.bare.issued = x.issued := by
  rcases x with ⟨_, _, _ | _ | _ | _⟩ <;> rfl

theorem bare_application {x : Turn α} : x.bare.application = x.application := by
  rcases x with ⟨_, _, _ | _ | _ | _⟩ <;> rfl

theorem bare_configured? {x : Turn α} : x.bare.configured? = x.configured? := by
  rcases x with ⟨_, _, _ | _ | _ | _⟩ <;> rfl

theorem bare_unconfigured? {x : Turn α} : x.bare.unconfigured? = x.unconfigured? := by
  rcases x with ⟨_, _, _ | _ | _ | _⟩ <;> rfl

theorem bare_follows {x : Turn α} {formed : Prop} {planned : Datum.Read (List ToolCall)}
    {config : Datum.Read Dict} :
    x.bare.Follows formed planned config ↔ x.Follows formed planned config := by
  rcases x with ⟨_, _, _ | _ | _ | _⟩ <;> rfl

-- What comes after turns is told in order, once for each module that is configured.
theorem exists_bare {xs : List (Turn Unit)} {bs : List α}
    (h : bs.length = (xs.filterMap configured?).length) :
    ∃ ys : List (Turn α), ys.map bare = xs ∧ ys.filterMap next? = bs := by
  induction xs generalizing bs
  case nil => exact ⟨[], rfl, (List.eq_nil_of_length_eq_zero h).symm⟩
  case cons x xs ih =>
    rcases x with ⟨m, passed, f | ⟨c, a⟩ | ⟨config, e⟩ | ⟨config, ⟨⟩⟩⟩
    case malformed =>
      have ⟨ys, hxs, hbs⟩ := ih h
      exact ⟨⟨m, passed, .malformed f⟩ :: ys, congrArg _ hxs, hbs⟩
    case refused =>
      have ⟨ys, hxs, hbs⟩ := ih h
      exact ⟨⟨m, passed, .refused c a⟩ :: ys, congrArg _ hxs, hbs⟩
    case unapplied =>
      have ⟨ys, hxs, hbs⟩ := ih h
      exact ⟨⟨m, passed, .unapplied config e⟩ :: ys, congrArg _ hxs, hbs⟩
    case applied =>
      cases bs
      case nil => cases h
      case cons b bs =>
        have ⟨ys, hxs, hbs⟩ := ih (Nat.succ.inj h)
        exact ⟨⟨m, passed, .applied config b⟩ :: ys, congrArg _ hxs, congrArg _ hbs⟩

end Turn

theorem Turns.of_bare {xs : List (Turn α)}
    (h : Turns engine caller s entries project (xs.map Turn.bare) t u) :
    Turns engine caller s entries project xs t u := by
  induction xs generalizing t
  case nil =>
    cases h
    exact .nil
  case cons x xs ih =>
    rcases h with _ | ⟨hfollows, hcalled, happlied, hrest⟩
    rw [Turn.bare_issued] at hcalled
    rw [Turn.bare_application] at happlied
    exact .cons (Turn.bare_follows.mp hfollows) hcalled happlied (ih hrest)

-- The modules have their turns, and what comes after them is told in order.
theorem configure_turns {bs : List α} (hentries : entriesOf s = .ok entries)
    (h : Ends (configure engine caller s entries project modules) t (.ok (configured, ws)) u)
    (hb : bs.length = configured.length) :
    ∃ turns : List (Turn α), turns.map Turn.module = modules ∧
      turns.filterMap Turn.configured? = configured ∧
      warningsOf "configuration" (turns.filterMap Turn.unconfigured?) = .ok ws ∧
      turns.filterMap Turn.next? = bs ∧ Turns engine caller s entries project turns t u := by
  obtain ⟨xs, rfl, rfl, hwarnings, hturns⟩ := configure_ends hentries h
  obtain ⟨ys, rfl, rfl⟩ := Turn.exists_bare hb
  refine ⟨ys, (@List.map_map _ _ _ Turn.module Turn.bare ys).symm, ?_, ?_, rfl, hturns.of_bare⟩
  · rw [List.filterMap_map]
    exact congrArg (List.filterMap · ys) (funext fun _ => Turn.bare_configured?.symm)
  · rw [List.filterMap_map] at hwarnings
    rw [← hwarnings]
    exact congrArg _ (congrArg (List.filterMap · ys) (funext fun _ => Turn.bare_unconfigured?.symm))

end Rebuild

end Refit
