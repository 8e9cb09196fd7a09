import Refit.Datum.Identity
import Refit.Project.Record

/-!
The plan of a rebuild, as it is stored and carried out.
-/

namespace Refit

structure Schema where
  definition : Dict
  models : List Datum := []
  screens : List Datum := []
  widgets : List Datum := []
  -- The files that the rebuild makes, by kind.
  generation : Dict := []
  preserved : List Datum := []
  warnings : List Datum := []
  tables : List Datum := []
  deriving Inhabited

namespace Schema

open Datum (Read)

def toDatum (s : Schema) : Datum :=
  .record [("project_definition", .dict s.definition),
    ("migrations", .record [("models", .list s.models), ("screens", .list s.screens),
      ("widgets", .list s.widgets)]),
    ("generation_plan", .dict s.generation), ("preserved_files", .list s.preserved),
    ("warnings", .list s.warnings), ("table_schemas", .list s.tables)]

def ofDatum (d : Datum) : Read Schema := do
  let migrations ← Record.orElse d "migrations" (.dict [])
  let definition ← (← Record.orElse d "project_definition" (.dict [])).toDict
  let models ← Record.items migrations "models"
  let screens ← Record.items migrations "screens"
  let widgets ← Record.items migrations "widgets"
  let generation ← (← Record.orElse d "generation_plan" (.dict [])).toDict
  let preserved ← Record.items d "preserved_files"
  let warnings ← Record.items d "warnings"
  let tables ← Record.items d "table_schemas"
  return ⟨definition, models, screens, widgets, generation, preserved, warnings, tables⟩

def name (s : Schema) : Datum :=
  Dict.get s.definition "name" "app"

-- The entries of the modules of the project.
def modules (s : Schema) : Read (List Datum) :=
  (Dict.get s.definition "modules" (.list [])).items

-- The modules that are not switched off.
def moduleIds (s : Schema) : Read (List Datum) := do
  let ids ← (← s.modules).mapM fun m => do
    let enabled ← Record.flag m "enabled" true
    if enabled then return some (← m.field "id") else return none
  return ids.reduceOption

/-! Values that change while a plan is carried out -/

-- A plan with every value of it changed.
def map (f : Datum → Datum) (s : Schema) : Schema :=
  { s with
    definition := s.definition.map fun e => (f e.1, f e.2)
    models := s.models.map f
    screens := s.screens.map f
    tables := s.tables.map f
    warnings := s.warnings.map f }

-- A plan with a number for every collection of the definition and the tables.
def numbered (s : Schema) : Schema :=
  let values := s.definition.map Prod.snd
  let all := Datum.numbered (values ++ s.tables)
  { s with
    definition := (s.definition.map Prod.fst).zip (all.take values.length)
    tables := all.drop values.length }

end Schema

end Refit
