import Refit.Proofs.Datum.Documents
import Refit.Proofs.Rebuild.Turns

/-!
A ledger that holds one project, and what the tools make of it.
-/

namespace Refit

-- The configurations of modules, by their names.
abbrev Configs := List (String × Dict)

namespace ProjectRecord

variable {m n : String} {c c' : Dict} {ms : Configs}

def entriesOf (ms : Configs) : List (Datum × Dict) :=
  ms.map fun e => (.text e.1, e.2)

theorem setConfig_of_not_mem (h : m ∉ ms.map Prod.fst) :
    setConfig (.text m) c (entriesOf ms) = entriesOf (ms ++ [(m, c)]) := by
  induction ms
  case nil => rfl
  case cons e ms ih =>
    have ⟨k, d⟩ := e
    have ⟨hk, hms⟩ := List.ne_and_not_mem_of_not_mem_cons h
    have hsame : ¬(Datum.text k).same (.text m) := by simpa using hk.symm
    exact (if_neg hsame).trans (congrArg _ (ih hms))

theorem setConfig_of_last (h : m ∉ ms.map Prod.fst) :
    setConfig (.text m) c' (entriesOf (ms ++ [(m, c)])) = entriesOf (ms ++ [(m, c')]) := by
  induction ms
  case nil => simp [entriesOf, setConfig]
  case cons e ms ih =>
    have ⟨k, d⟩ := e
    have ⟨hk, hms⟩ := List.ne_and_not_mem_of_not_mem_cons h
    have hsame : ¬(Datum.text k).same (.text m) := by simpa using hk.symm
    exact (if_neg hsame).trans (congrArg _ (ih hms))

theorem find?_entriesOf :
    ((entriesOf ms).find? fun e => e.1.same (.text m)).map Prod.snd = ms.lookup m := by
  induction ms
  case nil => rfl
  case cons e ms ih =>
    have ⟨k, d⟩ := e
    rw [lookup_cons_ite, entriesOf, List.map_cons, List.find?_cons]
    by_cases hk : m = k
    case pos => simp [hk]
    case neg =>
      have hsame : (Datum.text k).same (.text m) = false := by simpa using Ne.symm hk
      rw [if_neg hk, hsame]
      exact ih

end ProjectRecord

namespace Ledger

open ProjectRecord (entriesOf setConfig)

-- The ledger of a project in which certain modules are configured, and one more as far as it has
-- got.
def amid (p : ProjectRecord) (ms : Configs) (m : String) (draft : Option Dict) : Ledger :=
  { projects := [{ p with modules := entriesOf (ms ++ (draft.map (m, ·)).toList) }], count := 1 }

-- The ledger of a project in which certain modules are configured.
def holding (p : ProjectRecord) (ms : Configs) : Ledger :=
  { projects := [{ p with modules := entriesOf ms }], count := 1 }

variable {p : ProjectRecord} {ms : Configs} {m : String} {draft : Option Dict} {c : Dict}
  {d : Datum} {edit : Edit}

theorem amid_none : amid p ms m none = holding p ms := by
  rw [amid, Option.map_none, Option.toList_none, List.append_nil, holding]

theorem find_holding : (holding p ms).find (.text p.id) = .ok { p with modules := entriesOf ms } := by
  simp [find, holding, Datum.asKey, bind, Except.bind, Except.mapError]

theorem config?_holding (hn : (ms.map Prod.fst).Nodup) (h : (m, c) ∈ ms) :
    ProjectRecord.config? { p with modules := entriesOf ms } (.text m) = some c := by
  rw [ProjectRecord.config?, ProjectRecord.find?_entriesOf, lookup_of_nodup hn h]

theorem lookup_of_not_mem (h : m ∉ ms.map Prod.fst) : ms.lookup m = none :=
  List.lookup_eq_none_iff.mpr fun e he => by
    simpa using fun hm : m = e.1 => h (hm ▸ List.mem_map_of_mem he)

theorem lookup_concat (h : m ∉ ms.map Prod.fst) : (ms ++ [(m, c)]).lookup m = some c := by
  rw [List.lookup_append, lookup_of_not_mem h]
  simp

-- A change of the module under way.
theorem update_amid (hm : m ∉ ms.map Prod.fst)
    (hedit : (ExceptT.run edit).run ⟨draft.getD [], []⟩ = (.ok (), ⟨c, []⟩)) :
    (amid p ms m draft).update (.text p.id) (.text m) edit = (.ok (), amid p ms m (some c)) := by
  have hfind : (amid p ms m draft).find (.text p.id) =
      .ok { p with modules := entriesOf (ms ++ (draft.map (m, ·)).toList) } :=
    find_holding
  have hkey : (Datum.text m).asKey = .ok (.text m) := by simp [Datum.asKey]
  have hconfig : ProjectRecord.config? { p with modules := entriesOf (ms ++ (draft.map (m, ·)).toList) }
      (.text m) = draft := by
    rw [ProjectRecord.config?, ProjectRecord.find?_entriesOf]
    cases draft
    case none => simpa using lookup_of_not_mem hm
    case some => exact lookup_concat hm
  have hset : setConfig (.text m) c (entriesOf (ms ++ (draft.map (m, ·)).toList)) =
      entriesOf (ms ++ [(m, c)]) := by
    cases draft
    case none => simpa using ProjectRecord.setConfig_of_not_mem hm
    case some => exact ProjectRecord.setConfig_of_last hm
  rw [update, hfind]
  dsimp only
  rw [hkey]
  dsimp only
  rw [hconfig, show (amid p ms m draft).store = [] from rfl, hedit]
  dsimp only
  rw [hset]
  simp [put, amid, Except.mapError]

end Ledger

namespace Tool

open Ledger (amid)

variable {p : ProjectRecord} {ms : Configs} {draft : Option Dict} {args c : Dict} {t : Tool}
  {w : Work}

theorem ofName?_name : ofName? (.text t.name) = some t := by
  cases t <;> simp [ofName?, all, name]

theorem argsOf_dict (h : args ≠ []) : argsOf (.dict args) = .ok args := by
  have ht : (Datum.dict args).truthy := by simpa [Datum.truthy] using h
  rw [argsOf, Datum.orElse, if_pos ht]
  rfl

-- A tool whose arguments can be read changes the configuration of its module, and says so.
theorem call_amid (hm : t.module ∉ ms.map Prod.fst) (hw : t.work args = .ok w)
    (hid : args.get? "project_id" = some (.text p.id))
    (hedit : (ExceptT.run w.edit).run ⟨draft.getD [], []⟩ = (.ok (), ⟨c, []⟩)) :
    ∃ answer, Ends (Caller.ledger ⟨.text t.name, .dict args⟩) (amid p ms t.module draft)
        (.ok answer) (amid p ms t.module (some c)) ∧ Rebuild.accepts (.ok answer) := by
  have hargs : args ≠ [] := by
    rintro rfl
    cases hid
  have hfield : (Datum.dict args).field "project_id" = .ok (.text p.id) := by
    simp [Datum.field, Datum.opened, hid]
  have hprepare : t.prepare args = .ok (w, .text p.id) := by
    rw [prepare, hw, hfield]
    rfl
  have hkey : (Datum.text t.name).asKey = .ok (.text t.name) := by simp [Datum.asKey]
  refine ⟨.record (("success", .bool true) :: w.reply), ?_, rfl⟩
  change call ⟨.text t.name, .dict args⟩ (amid p ms t.module draft) = (_, _)
  rw [call, hkey]
  dsimp only
  rw [ofName?_name]
  dsimp only
  rw [argsOf_dict hargs]
  dsimp only
  rw [run, hprepare]
  dsimp only
  rw [Ledger.update_amid hm hedit]
  rfl

end Tool

namespace Rebuild

open Ledger (amid holding)

variable {p : ProjectRecord} {ms : Configs} {m : String} {draft : Option Dict} {s : Schema}
  {entries : Dict} {planned : List ToolCall}

section

variable {σ : Type} {caller : Caller σ} {c : ToolCall} {cs : List ToolCall} {answer : Datum}
  {r : Except Stop (Option String)} {t u v : σ}

theorem makeCalls_of_accepts (hc : Ends (caller c) t (.ok answer) u) (ha : accepts (.ok answer)) :
    Ends (makeCalls caller (c :: cs)) t r v ↔ Ends (makeCalls caller cs) u r v := by
  have hread : refusal? c answer = .ok none := refusal?_eq_none_iff.mpr ha
  rw [makeCalls, Ends.bind_of_ok hc, hread, Ends.bind_of_ok (Work.ofRead_ok_iff.mpr ⟨rfl, rfl⟩)]

theorem makeCalls_nil : Ends (makeCalls caller []) t r u ↔ r = .ok none ∧ u = t :=
  Ends.pure_iff

end

theorem map_current_amid : s.map (Engine.ledger.current (amid p ms m draft)) = s :=
  Schema.map_self

theorem apply_amid (hm : m ∉ ms.map Prod.fst) :
    Ends (Engine.ledger.apply (.text p.id) (.text m) []) (amid p ms m draft) (.ok ())
      (amid p ms m (some (draft.getD []))) :=
  Ledger.update_amid hm rfl

-- A module whose calls are answered is configured by them alone, if the plan has no configuration
-- for it.
theorem configureOne_of_calls (hm : m ∉ ms.map Prod.fst)
    (hplanned : s.calls (.text p.id) (.text m) = .ok planned)
    (hmade : Ends (makeCalls .ledger planned) (holding p ms) (.ok none) (amid p ms m draft))
    (hconfig : configOf Engine.ledger entries (amid p ms m draft) (.text m) = .ok []) :
    Ends (configureOne .ledger .ledger s entries (.text p.id) (.text m)) (holding p ms) (.ok none)
      (holding p (ms ++ [(m, draft.getD [])])) := by
  rw [← @Ledger.amid_none p ms m] at hmade ⊢
  rw [configureOne, Ends.get_bind_iff, map_current_amid, hplanned,
    Ends.bind_of_ok (Work.ofRead_ok_iff.mpr ⟨rfl, rfl⟩), Ends.bind_of_ok hmade]
  refine Ends.get_bind_iff.mpr ?_
  refine (Ends.bind_of_ok (Work.ofRead_ok_iff.mpr ⟨hconfig, rfl⟩)).mpr ?_
  exact (Ends.bind_of_ok (apply_amid hm)).mpr (Ends.pure_iff.mpr ⟨rfl, rfl⟩)

end Rebuild

end Refit
