import Refit.Datum.Fault
import Refit.Toml.Number

/-!
Reading TOML.

A document is a list of lines that fill tables. Which table a line may still open or extend depends
on how the table came to be: a table with a header of its own is not opened again, and a table or a
list that was written as a value is not extended.
-/

namespace Refit.Toml

/-! Tables -/

-- Changes the table at a path, making the tables on the way that are not there. A list of tables
-- stands for its last one, if `lists` are entered.
def alter (lists : Bool) : List String → (Dict → Option Dict) → Dict → Option Dict
  | [], f, t => f t
  | k :: ks, f, t =>
    match t.get? k with
    | none => (alter lists ks f []).map fun u => t.set k (.dict u)
    | some (.dict u) => (alter lists ks f u).map fun u => t.set k (.dict u)
    | some (.list xs) =>
      match lists, xs.getLast? with
      | true, some (.dict u) =>
        (alter lists ks f u).map fun u => t.set k (.list (xs.dropLast ++ [.dict u]))
      | _, _ => none
    | some _ => none

-- Adds an entry that is not there yet.
def addEntry (lists : Bool) (path : List String) (v : Datum) (t : Dict) : Option Dict :=
  alter lists path.dropLast
    (fun t =>
      let k := path.getLast?.getD ""
      if t.has k then none else some (t.set k v))
    t

-- Adds an empty table to a list of tables.
def addTable (path : List String) (t : Dict) : Option Dict :=
  alter true path.dropLast
    (fun t =>
      let k := path.getLast?.getD ""
      match t.get? k with
      | none => some (t.set k (.list [.dict []]))
      | some (.list xs) => some (t.set k (.list (xs ++ [.dict []])))
      | some _ => none)
    t

-- Which paths are closed to some lines.
structure Guard where
  -- Tables that no header opens any more.
  opened : List (List String) := []
  -- Values that nothing below is added to.
  fixed : List (List String) := []
  -- Tables that count as opened from the next header on.
  pending : List (List String) := []

namespace Guard

def isFixed (g : Guard) (path : List String) : Bool :=
  g.fixed.any (·.isPrefixOf path)

def isOpened (g : Guard) (path : List String) : Bool :=
  g.opened.contains path

def settle (g : Guard) : Guard :=
  { g with opened := g.opened ++ g.pending, pending := [] }

-- Forgets what is known of a path and of all below it.
def forget (g : Guard) (path : List String) : Guard :=
  { g with
    opened := g.opened.filter fun p => !path.isPrefixOf p
    fixed := g.fixed.filter fun p => !path.isPrefixOf p }

def markOpened (g : Guard) (path : List String) : Guard :=
  { g with opened := path :: g.opened }

def markFixed (g : Guard) (path : List String) (v : Datum) : Guard :=
  match v with
  | .dict _ | .list _ => { g with fixed := path :: g.fixed }
  | _ => g

end Guard

def orMalformed (o : Option α) : Read α :=
  match o with
  | some a => .ok a
  | none => malformed

/-! Values -/

def word? (s : Rest) : Option (Datum × Rest) :=
  if "true".toList.isPrefixOf s then some (.bool true, s.drop 4)
  else if "false".toList.isPrefixOf s then some (.bool false, s.drop 5)
  else none

def scalar (s : Rest) : Read (Datum × Rest) :=
  match text? s with
  | some r => r.map fun (t, r) => (.text t, r)
  | none =>
    match word? s with
    | some r => .ok r
    | none =>
      match moment? s with
      | some r => r
      | none =>
        match clock? s with
        | some (c, r) => .ok (.time c, r)
        | none =>
          match number? s with
          | some r => r
          | none => orMalformed (special? s)

-- The room for values inside each other.
def fullRoom : Nat := 970

-- What is left of the room inside a list.
def listRoom (room : Nat) : Read Nat :=
  if room < 2 then .error .tooDeep else .ok (room - 2)

-- What is left of the room inside a table that is written as a value.
def tableRoom (room : Nat) : Read Nat :=
  if room < 3 then .error .tooDeep else .ok (room - 3)

mutual

def value (room : Nat) : Nat → Rest → Read (Datum × Rest)
  | 0, _ => malformed
  | n + 1, '[' :: r => do
    let room ← listRoom room
    match ← skipLines r with
    | ']' :: r => return (.list [], r)
    | r =>
      let (xs, r) ← items room n r
      return (.list xs, r)
  | n + 1, '\x7b' :: r => do
    let room ← tableRoom room
    match skipBlank r with
    | '\x7d' :: r => return (.dict [], r)
    | r =>
      let (t, r) ← entries room n r {} []
      return (.dict t, r)
  | _ + 1, s => scalar s
termination_by structural n => n

-- The items of a list, up to its closing bracket.
def items (room : Nat) : Nat → Rest → Read (List Datum × Rest)
  | 0, _ => malformed
  | n + 1, s => do
    let (x, r) ← value room n s
    match ← skipLines r with
    | ']' :: r => return ([x], r)
    | ',' :: r =>
      match ← skipLines r with
      | ']' :: r => return ([x], r)
      | r =>
        let (xs, r) ← items room n r
        return (x :: xs, r)
    | _ => malformed
termination_by structural n => n

-- The entries of a table that is written as a value, up to its closing brace.
def entries (room : Nat) : Nat → Rest → Guard → Dict → Read (Dict × Rest)
  | 0, _, _, _ => malformed
  | n + 1, s, g, t => do
    let (path, r) ← key s
    let (v, r) ← valueOfKey room n r
    if g.isFixed path then malformed
    let t ← orMalformed (addEntry false path v t)
    match skipBlank r with
    | '\x7d' :: r => return (t, r)
    | ',' :: r => entries room n (skipBlank r) (g.markFixed path v) t
    | _ => malformed
termination_by structural n => n

def valueOfKey (room : Nat) : Nat → Rest → Read (Datum × Rest)
  | 0, _ => malformed
  | n + 1, '=' :: r => value room n (skipBlank r)
  | _ + 1, _ => malformed
termination_by structural n => n

end

/-! Documents -/

-- A document that is read up to some line: its table, what is closed, and the path of the table
-- that the line belongs to.
structure Draft where
  table : Dict := []
  guard : Guard := {}
  header : List String := []

namespace Draft

-- The proper beginnings of a path, the empty one left out.
def beginnings (path : List String) : List (List String) :=
  (List.range (path.length - 1)).map fun i => path.take (i + 1)

-- A line with a key and a value.
def entry (d : Draft) (path : List String) (v : Datum) : Option Draft :=
  let full := d.header ++ path
  let around := (beginnings path).map (d.header ++ ·)
  if around.any d.guard.isOpened then none
  else if d.guard.isFixed full.dropLast then none
  else
    let g := { d.guard with pending := d.guard.pending ++ around }
    (addEntry true full v d.table).map fun t =>
      { d with table := t, guard := g.markFixed full v }

-- The header of a table.
def section_ (d : Draft) (path : List String) : Option Draft :=
  let g := d.guard.settle
  if g.isOpened path || g.isFixed path then none
  else (alter true path some d.table).map fun t => ⟨t, g.markOpened path, path⟩

-- The header of one more table in a list.
def sectionInList (d : Draft) (path : List String) : Option Draft :=
  let g := d.guard.settle
  if g.isFixed path then none
  else (addTable path d.table).map fun t => ⟨t, (g.forget path).markOpened path, path⟩

end Draft

-- A line, up to the comment that may follow.
def line (s : Rest) (d : Draft) : Read (Draft × Rest) :=
  match s with
  | '[' :: '[' :: r => do
    let (path, r) ← key (skipBlank r)
    let d ← orMalformed (d.sectionInList path)
    match r with
    | ']' :: ']' :: r => return (d, skipBlank r)
    | _ => malformed
  | '[' :: r => do
    let (path, r) ← key (skipBlank r)
    let d ← orMalformed (d.section_ path)
    match r with
    | ']' :: r => return (d, skipBlank r)
    | _ => malformed
  | s => do
    let (path, r) ← key s
    let (v, r) ← valueOfKey fullRoom (r.length + 2) r
    return (← orMalformed (d.entry path v), skipBlank r)

-- The number bounds the lines.
def lines : Nat → Rest → Draft → Read Dict
  | 0, _, d => .ok d.table
  | n + 1, s, d =>
    match skipBlank s with
    | [] => .ok d.table
    | '\n' :: r => lines n r d
    | s => do
      let (d, r) ← match s with
        | '#' :: _ => pure (d, s)
        | s => line s d
      match ← comment r with
      | [] => return d.table
      | '\n' :: r => lines n r d
      | _ => malformed

-- Both kinds of line ends are one.
def plainLines : List Char → List Char
  | '\r' :: '\n' :: r => '\n' :: plainLines r
  | c :: r => c :: plainLines r
  | [] => []

-- The table of a document.
def read (s : String) : Read Dict :=
  let cs := plainLines s.toList
  lines (cs.length + 1) cs {}

end Refit.Toml
