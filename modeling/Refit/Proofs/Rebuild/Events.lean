import Refit.Proofs.Session.Ends

/-!
What the workers of a rebuild are asked for, noted down with what they answer.

Noting changes nothing: the noted workers answer as the workers do.
-/

namespace Refit

-- One thing that the workers were asked for.
inductive Event where
  | entered (definition : Dict) (answer : Except Stop Datum)
  | called (call : ToolCall) (answer : Except Stop Datum)
  | applied (project module : Datum) (config : Dict) (answer : Except Stop Unit)
  | asked (project : Datum) (module : Option Datum) (answer : Except Stop Files)

variable {σ α β : Type}

-- Work whose answer is noted down.
def Work.noted (note : Except Stop α → Event) (w : Work σ α) : Work (σ × List Event) α :=
  ExceptT.mk fun (st, log) =>
    let (r, st') := (ExceptT.run w).run st
    (r, st', log ++ [note r])

-- An engine that notes down what it is asked for.
def Engine.noted (e : Engine σ) : Engine (σ × List Event) where
  create d := (e.create d).noted (.entered d)
  apply p m c := (e.apply p m c).noted (.applied p m c)
  generate p m := (e.generate p m).noted (.asked p m)
  current t := e.current t.1

-- A caller that notes down the calls.
def Caller.noted (c : Caller σ) : Caller (σ × List Event) :=
  fun call => (c call).noted (.called call)

theorem Work.noted_iff {note : Except Stop α → Event} {w : Work σ α} {st st' : σ}
    {log log' : List Event} {r : Except Stop α} :
    Ends (w.noted note) (st, log) r (st', log') ↔ Ends w st r st' ∧ log' = log ++ [note r] := by
  rw [Ends.iff_eqs, Ends.iff_eqs]
  constructor
  · rintro ⟨hr, hs⟩
    have ⟨hst, hlog⟩ := Prod.mk.inj hs
    exact ⟨⟨hr, hst⟩, hr ▸ hlog.symm⟩
  · rintro ⟨⟨rfl, rfl⟩, rfl⟩
    exact ⟨rfl, rfl⟩

end Refit
