import Refit.Failure

/-!
Handlers by name. A name is given away once.
-/

namespace Refit

structure Registry (α : Type) where
  handlers : List (String × α) := []

namespace Registry

variable {α : Type}

def has (r : Registry α) (name : String) : Bool :=
  (r.handlers.lookup name).isSome

def register (r : Registry α) (name : String) (a : α) : Except Stop (Registry α) :=
  if r.has name then .error (.toolTaken name) else .ok ⟨r.handlers ++ [(name, a)]⟩

def names (r : Registry α) : List String :=
  (r.handlers.map Prod.fst).mergeSort fun a b => a ≤ b

def find? (r : Registry α) (name : String) : Option α :=
  r.handlers.lookup name

end Registry

end Refit
