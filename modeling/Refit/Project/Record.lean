import Refit.Datum.Fault

/-!
Reading the fields of a stored record.

An absent field has a default. A field that is there is kept as it is, whatever its kind, unless the
record needs a truth value, a number or a list of it.
-/

namespace Refit.Record

open Datum (Read)

-- The value of a field, or a default if there is none.
def optional (d : Datum) (key : String) (fallback : Datum) : Read Datum := do
  return Dict.get (← d.asDict) key fallback

def flag (d : Datum) (key : String) (fallback : Bool := false) : Read Bool := do
  return (← optional d key (.bool fallback)).truthy

def items (d : Datum) (key : String) : Read (List Datum) := do
  (← optional d key (.list [])).items

-- The parts of a field, each read as a record.
def each (d : Datum) (key : String) (read : Datum → Read α) : Read (List α) := do
  (← items d key).mapM read

-- The value of a field, an empty one counting as absent.
def orElse (d : Datum) (key : String) (fallback : Datum) : Read Datum := do
  return (← optional d key .null).orElse fallback

end Refit.Record
