import Refit.Datum.Identity
import Refit.Failure

/-!
The projects under way, each with its definition and the configuration of its modules.

A change that is refused leaves what it did so far. Projects are numbered, and no number is used
twice. A configuration may hold lists of the value that it was taken from, and these change with it.
-/

namespace Refit

structure ProjectRecord where
  id : String
  definition : Dict
  modules : List (Datum × Dict) := []
  deriving Inhabited

structure Ledger where
  projects : List ProjectRecord := []
  count : Nat := 0
  -- The lists with a number that were added to.
  store : Datum.Store := []
  deriving Inhabited

namespace ProjectRecord

def config? (p : ProjectRecord) (module : Datum) : Option Dict :=
  (p.modules.find? fun m => m.1.same module).map Prod.snd

def setConfig (module : Datum) (config : Dict) : List (Datum × Dict) → List (Datum × Dict)
  | [] => [(module, config)]
  | (m, c) :: r =>
    if m.same module then (m, config) :: r else (m, c) :: setConfig module config r

end ProjectRecord

namespace Ledger

-- A configuration that is being changed, and the lists with a number.
structure Draft where
  config : Dict
  store : Datum.Store

-- A change of a configuration, which may find something wrong on the way.
abbrev Edit := ExceptT Fault (StateM Draft) Unit

def nameOf (definition : Dict) : Datum :=
  (Dict.get definition "name").orElse "app"

-- Enters a project, under its name and number.
def create (l : Ledger) (definition : Datum) : Except Stop String × Ledger :=
  let n := l.count + 1
  let entered : Datum.Read (String × Dict) := do
    let es ← definition.asDict
    return ((← (nameOf es).toText) ++ "-" ++ toString n, es)
  match entered with
  | .error f => (.error (.fault f), { l with count := n })
  | .ok (id, es) =>
    (.ok id, { l with projects := l.projects ++ [{ id := id, definition := es }], count := n })

def find (l : Ledger) (id : Datum) : Except Stop ProjectRecord := do
  let id ← id.asKey.mapError .fault
  match l.projects.find? fun p => id.same (.text p.id) with
  | some p => .ok p
  | none => .error (.failure (.unknownProject id))

def put (l : Ledger) (p : ProjectRecord) : Ledger :=
  { l with projects := l.projects.map fun q => if q.id == p.id then p else q }

-- Changes the configuration of a module, which is empty at first.
def update (l : Ledger) (id module : Datum) (edit : Edit) : Except Stop Unit × Ledger :=
  match l.find id with
  | .error s => (.error s, l)
  | .ok p =>
    match module.asKey with
    | .error f => (.error (.fault f), l)
    | .ok module =>
      let (r, d) := (ExceptT.run edit).run ⟨(p.config? module).getD [], l.store⟩
      let p := { p with modules := ProjectRecord.setConfig module d.config p.modules }
      (r.mapError .fault, { l.put p with store := d.store })

-- Adds the entries of a value to the configuration of a module.
def apply (l : Ledger) (id module config : Datum) : Except Stop Unit × Ledger :=
  l.update id module <| ExceptT.mk fun d =>
    let (r, config) := Datum.absorb d.config config
    (r, { d with config })

-- A value with the items that its lists have by now.
def current (l : Ledger) (d : Datum) : Datum :=
  d.current l.store

end Ledger

end Refit
