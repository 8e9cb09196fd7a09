import Refit.Datum.Basic

/-!
Collections that change while they stand in several places.

A list that gets a new item gets it in all its places. So every collection of a value has a number
before anything is added, and a store has the items of those that were added to.
-/

namespace Refit.Datum

/-! Supply -/

mutual

-- How many collections and dates of a value have no number, outside those that have one.
def unnumbered : Datum → Nat
  | list xs => unnumberedIn xs + 1
  | tuple xs => unnumberedIn xs + 1
  | set xs => unnumberedIn xs + 1
  | dict es => unnumberedAmong es + 1
  | date _ | time _ | moment _ _ => 1
  | _ => 0

def unnumberedIn : List Datum → Nat
  | [] => 0
  | x :: xs => unnumbered x + unnumberedIn xs

def unnumberedAmong : List (Datum × Datum) → Nat
  | [] => 0
  | (k, v) :: es => unnumbered k + unnumbered v + unnumberedAmong es

end

mutual

-- More than every number in a value.
def firstFree : Datum → Nat
  | shared n d => max (n + 1) (firstFree d)
  | list xs => firstFreeIn xs
  | tuple xs => firstFreeIn xs
  | set xs => firstFreeIn xs
  | dict es => firstFreeAmong es
  | _ => 0

def firstFreeIn : List Datum → Nat
  | [] => 0
  | x :: xs => max (firstFree x) (firstFreeIn xs)

def firstFreeAmong : List (Datum × Datum) → Nat
  | [] => 0
  | (k, v) :: es => max (max (firstFree k) (firstFree v)) (firstFreeAmong es)

end

structure Supply where
  -- The next number to be given.
  cursor : Nat
  -- The numbers from here on are kept for no shared value.
  free : Nat
  -- Where the numbers begin that are kept for the parts of each shared value.
  kept : List (Nat × Nat) := []

namespace Supply

abbrev Number := StateM Supply

-- Numbers a value unless it stands right inside its number.
def give (inside : Bool) (d : Number Datum) : Number Datum := do
  if inside then d
  else
    let n := (← get).cursor
    modify fun s => { s with cursor := n + 1 }
    return shared n (← d)

-- Numbers the parts of a shared value, which are the same in all its places.
def within (n parts : Nat) (d : Number Datum) : Number Datum := do
  let before := (← get).cursor
  modify fun s =>
    match s.kept.lookup n with
    | some first => { s with cursor := first }
    | none => ⟨s.free, s.free + parts, (n, s.free) :: s.kept⟩
  let d ← d
  modify fun s => { s with cursor := before }
  return shared n d

end Supply

open Supply

mutual

def number (inside : Bool) : Datum → Number Datum
  | shared n d => within n (unnumbered d) (number true d)
  | list xs => give inside do return list (← numberAll xs)
  | tuple xs => give inside do return tuple (← numberAll xs)
  | set xs => give inside do return set (← numberAll xs)
  | dict es => give inside do return dict (← numberEntries es)
  | date d => give inside (return date d)
  | time c => give inside (return time c)
  | moment d c => give inside (return moment d c)
  | d => return d

def numberAll : List Datum → Number (List Datum)
  | [] => return []
  | x :: xs => do
    let y ← number false x
    return y :: (← numberAll xs)

def numberEntries : List (Datum × Datum) → Number (List (Datum × Datum))
  | [] => return []
  | (k, v) :: es => do
    let e := (← number false k, ← number false v)
    return e :: (← numberEntries es)

end

-- Values with a number for each of their collections.
def numbered (xs : List Datum) : List Datum :=
  let first := firstFreeIn xs
  ((numberAll xs).run ⟨first, first + unnumberedIn xs, []⟩).1

/-! Values as they are now -/

-- The items of the lists that were added to, by the numbers of the lists.
abbrev Store := List (Nat × List Datum)

-- A value with the items that its lists have by now. Each list is gone through once on the way to
-- any place, so the fuel need be no more than all depths together.
def currentFrom (store : Store) : Nat → List Nat → Datum → Datum
  | 0, _, d => d
  | fuel + 1, outer, d =>
    let now (outer : List Nat) (x : Datum) : Datum := currentFrom store fuel outer x
    match d with
    | shared n d =>
      if outer.contains n then around n
      else
        match store.lookup n with
        | some xs => shared n (list (xs.map (now (n :: outer))))
        | none => shared n (now (n :: outer) d)
    | list xs => list (xs.map (now outer))
    | tuple xs => tuple (xs.map (now outer))
    | set xs => set (xs.map (now outer))
    | dict es => dict (es.map fun e => (now outer e.1, now outer e.2))
    | d => d

-- A value with the items that its lists have by now.
def current (store : Store) (d : Datum) : Datum :=
  if store.isEmpty then d
  else
    let depths := (d :: store.flatMap Prod.snd).foldl (fun n x => n + x.depth + 1) 0
    currentFrom store (2 * depths + 2) [] d

-- A list with an item added, if the value is one. A list with a number gets the item in the store,
-- where all its places find it.
def added (store : Store) (d : Datum) (item : Datum) : Option (Datum × Store) :=
  match d with
  | list xs => some (list (xs ++ [item]), store)
  | shared n (list xs) =>
    let items := (store.lookup n).getD xs ++ [item]
    some (shared n (list xs), (n, items) :: store.filter (·.1 != n))
  | _ => none

end Refit.Datum
