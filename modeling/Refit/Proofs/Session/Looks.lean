import Refit.Import
import Refit.Proofs.Session.Ends

/-!
Actions that only look: they leave the disk, the folders of the session and the programs alone, and
change at most the environment and the configuration.
-/

namespace Refit

variable {α β : Type}

-- A session after it was looked at.
structure Session.Looked (s s' : Session) : Prop where
  disk : s'.disk = s.disk
  cwd : s'.cwd = s.cwd
  temp : s'.temp = s.temp
  programs : s'.programs = s.programs

namespace Session.Looked

variable {s t u : Session}

theorem refl (s : Session) : Looked s s :=
  ⟨rfl, rfl, rfl, rfl⟩

theorem trans (h₁ : Looked s t) (h₂ : Looked t u) : Looked s u where
  disk := h₂.disk.trans h₁.disk
  cwd := h₂.cwd.trans h₁.cwd
  temp := h₂.temp.trans h₁.temp
  programs := h₂.programs.trans h₁.programs

end Session.Looked

open Session (Looked)

abbrev Looks (a : Action α) : Prop :=
  Stays Looked a

-- An action that asks about the session, and leaves all of it as it is.
abbrev Asks (a : Action α) : Prop :=
  Stays Eq a

namespace Asks

variable {a : Action α} {f : α → Action β}

theorem looks (h : Asks a) : Looks a :=
  fun s r s' hs => h s r s' hs ▸ .refl s

theorem of_pure {x : α} : Asks (pure x) :=
  Stays.of_pure fun _ => rfl

theorem of_throw {e : Stop} : Asks (throw e : Action α) :=
  Stays.of_throw fun _ => rfl

theorem bind (ha : Asks a) (hf : ∀ x, Asks (f x)) : Asks (a >>= f) :=
  Stays.bind .trans ha hf

theorem get : Asks (get : Action Session) :=
  fun _ _ _ h => (Ends.get_iff.mp h).2.symm

theorem ofExcept {r : Except Stop α} : Asks (Action.ofExcept r) :=
  fun _ _ _ h => (Action.ofExcept_iff.mp h).2.symm

theorem ofRead {r : Datum.Read α} : Asks (Action.ofRead r) :=
  ofExcept

theorem ask {q : Disk → List String → Except Stop α} : Asks (Action.ask q) :=
  fun _ _ _ h => (Action.ask_iff.mp h).2.symm

theorem ite {p : Prop} [Decidable p] {b : Action α} (ha : Asks a) (hb : Asks b) :
    Asks (if p then a else b) := by
  split
  · exact ha
  · exact hb

-- What comes after a check.
theorem checked {p : Prop} [Decidable p] {e : Stop} {g : PUnit → Action β} (hg : ∀ u, Asks (g u)) :
    Asks (if p then throw e >>= g else g ⟨⟩) :=
  .ite (.bind .of_throw hg) (hg _)

end Asks

namespace Looks

variable {a : Action α} {f : α → Action β}

theorem of_pure {x : α} : Looks (pure x) :=
  Stays.of_pure .refl

theorem of_throw {e : Stop} : Looks (throw e : Action α) :=
  Stays.of_throw .refl

theorem bind (ha : Looks a) (hf : ∀ x, Looks (f x)) : Looks (a >>= f) :=
  Stays.bind .trans ha hf

theorem get : Looks (get : Action Session) :=
  Asks.get.looks

theorem ofExcept {r : Except Stop α} : Looks (Action.ofExcept r) :=
  Asks.ofExcept.looks

theorem ofRead {r : Datum.Read α} : Looks (Action.ofRead r) :=
  ofExcept

theorem ask {q : Disk → List String → Except Stop α} : Looks (Action.ask q) :=
  Asks.ask.looks

theorem modify {g : Session → Session} (hg : ∀ s, Looked s (g s)) :
    Looks (modify g : Action PUnit) := by
  intro s r s' h
  exact (Ends.modify_iff.mp h).2 ▸ hg s

theorem ite {p : Prop} [Decidable p] {b : Action α} (ha : Looks a) (hb : Looks b) :
    Looks (if p then a else b) := by
  split
  · exact ha
  · exact hb

end Looks

/-! The configuration -/

namespace Action

theorem setVariable_looks {name value : String} : Looks (setVariable name value) := by
  rw [setVariable]
  split
  · exact .of_throw
  · exact .modify fun _ => ⟨rfl, rfl, rfl, rfl⟩

theorem setMissing_looks {vs : EnvFile.Values} : Looks (setMissing vs) := by
  induction vs
  case nil => exact .of_pure
  case cons v vs ih =>
    rcases v with ⟨name, _ | value⟩
    case none => exact ih
    case some => exact .bind .get fun _ => .ite (.bind setVariable_looks fun _ => ih) ih

theorem loadVariables_looks {l : Location} : Looks (loadVariables l) :=
  .bind .get fun _ => .ite .of_pure <| .bind .ask fun _ => .bind .get fun _ => setMissing_looks

end Action

namespace Config

theorem userFile_looks : Looks userFile := by
  refine .bind .get fun s => ?_
  split
  · exact .of_pure
  · exact .of_throw

theorem readTable_looks {l : Location} : Looks (readTable l) :=
  .bind .ask fun _ => .ite .ask .of_pure

theorem orNone_looks {l : Location} : Looks (orNone l) :=
  .bind .ask fun _ => .of_pure

theorem resolve_looks : Looks resolve := by
  refine .bind userFile_looks fun user => .bind (.bind .get fun _ => .of_pure) fun project => ?_
  refine .bind readTable_looks fun _ => .bind readTable_looks fun _ => ?_
  refine .bind (.bind .get fun _ => .of_pure) fun file => .bind .ask fun _ => ?_
  have hrest {userTable projectTable : Dict} : Looks do
      let environment := (← get).valueOf?
      let data ← Action.ofRead (layered userTable projectTable environment)
      return (⟨data, ← orNone user, ← orNone project⟩ : Resolved) :=
    .bind .get fun _ => .bind .ofRead fun _ => .bind orNone_looks fun _ =>
      .bind orNone_looks fun _ => .of_pure
  exact .ite (.bind Action.loadVariables_looks fun _ => hrest) hrest

theorem current_looks : Looks current := by
  refine .bind .get fun s => ?_
  split
  · exact .of_pure
  · exact .bind resolve_looks fun _ => .bind (.modify fun _ => ⟨rfl, rfl, rfl, rfl⟩) fun _ => .of_pure

end Config

/-! The project -/

namespace SourceTree

theorem load_asks {root : Location} {paths : List String} : Asks (load root paths) :=
  .ask

theorem read_asks {root : Location} : Asks (read root) :=
  .bind .ask fun _ => .bind .ask fun _ => load_asks

theorem read_looks {root : Location} : Looks (read root) :=
  read_asks.looks

end SourceTree

theorem Export.inFile_asks {l : Location} : Asks (Export.inFile l) :=
  .bind .ask fun _ => .checked fun _ => .bind .ask fun _ => .of_pure

theorem Manifest.inFolder_asks {root : Location} : Asks (Manifest.inFolder root) :=
  .bind .ask fun _ => .checked fun _ => .bind .ask fun _ => .ofRead

theorem Assessment.inFolder_asks {l : Location} : Asks (Assessment.inFolder l) :=
  .bind .ask fun _ => .ask

theorem Analysis.inFolder_asks {root : Location} {depth : Datum} {bound : Int} :
    Asks (Analysis.inFolder root depth bound) :=
  .bind .ofExcept fun _ => .checked fun _ => .bind .get fun _ => .bind .ask fun _ =>
    .checked fun _ => .bind .ask fun _ => .checked fun _ => .bind Manifest.inFolder_asks fun _ =>
      .bind Assessment.inFolder_asks fun _ => .bind SourceTree.read_asks fun _ =>
        .bind .get fun _ => .of_pure

theorem Analysis.inFolder_looks {root : Location} {depth : Datum} {bound : Int} :
    Looks (Analysis.inFolder root depth bound) :=
  inFolder_asks.looks

namespace Import

variable {i : Import}

theorem settingsOf_looks : Looks i.settingsOf := by
  rw [settingsOf]
  split
  · exact .of_pure
  · exact .bind Config.current_looks fun _ => .of_pure

theorem depthOf_looks : Looks i.depthOf :=
  .ite .of_pure (.bind Config.current_looks fun _ => .of_pure)

theorem plan_looks {s : Snapshot} {files : Action (List SourceFile)} (h : Looks files) :
    Looks (i.plan s files) := by
  have hrest {p : Schema} {kept : Groups} : Looks do return (p, kept, ← i.settingsOf) :=
    .bind settingsOf_looks fun _ => .of_pure
  exact .bind .ofRead fun _ =>
    .ite (.bind h fun _ => .bind .ofRead fun _ => hrest) (.bind .of_pure fun _ => hrest)

theorem analyseExport_looks {path : String} : Looks (i.analyseExport path) :=
  .bind Export.inFile_asks.looks fun _ => .bind depthOf_looks fun _ => .bind .ofExcept fun _ => .of_pure

end Import

end Refit
