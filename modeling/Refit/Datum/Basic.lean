import Refit.Datum.Calendar
import Refit.Number.Decimal
import Refit.Text.Quoted

/-!
Values of the documents that this library reads and writes.

A document is not trusted: where a text is expected any value may stand, and it is kept as it is
until a rule needs its text. Mappings keep the order of their entries, and any value may be a key.

A value may stand in several places of a document, and a collection may hold itself. Such a value
has a number, and inside it the number stands for it. What a value is does not depend on its number:
`opened` gives the value itself.
-/

namespace Refit

inductive Datum where
  | null
  | bool (b : Bool)
  | int (i : Int)
  | float (x : Float)
  | text (s : String)
  | bytes (b : List UInt8)
  | date (d : Date)
  | time (c : Clock)
  | moment (d : Date) (c : Clock)
  | list (xs : List Datum)
  -- A sequence that cannot change, such as an entry of an ordered mapping.
  | tuple (xs : List Datum)
  | set (xs : List Datum)
  | dict (entries : List (Datum × Datum))
  -- A value that may stand in several places, with its number.
  | shared (n : Nat) (d : Datum)
  -- Inside the shared value of that number, the value itself.
  | around (n : Nat)
  deriving Inhabited

abbrev Dict := List (Datum × Datum)

namespace Datum

instance : Coe String Datum := ⟨text⟩

def ofOption (f : α → Datum) : Option α → Datum
  | none => null
  | some a => f a

def texts (ss : List String) : Datum :=
  list (ss.map text)

-- A mapping with text keys.
def record (fields : List (String × Datum)) : Datum :=
  dict (fields.map fun f => (text f.1, f.2))

def wholeNumber? : Datum → Option Int
  | bool b => some (if b then 1 else 0)
  | int i => some i
  | _ => none

-- A set of values. Whole numbers stand in their order, other values where they were met.
def setOf (xs : List Datum) : Datum :=
  let before (x y : Datum) : Bool := wholeNumber? x |>.any fun i => (wholeNumber? y).any (i ≤ ·)
  set (if xs.all (wholeNumber? · |>.isSome) then xs.mergeSort before else xs)

/-! Shared values -/

mutual

-- A value with the one of a number put where it stands for itself.
def refilled (n : Nat) (whole : Datum) : Datum → Datum
  | around m => if m == n then whole else around m
  | shared m d => if m == n then shared m d else shared m (refilled n whole d)
  | list xs => list (refilledList n whole xs)
  | tuple xs => tuple (refilledList n whole xs)
  | dict es => dict (refilledEntries n whole es)
  | d => d

def refilledList (n : Nat) (whole : Datum) : List Datum → List Datum
  | [] => []
  | x :: xs => refilled n whole x :: refilledList n whole xs

def refilledEntries (n : Nat) (whole : Datum) : List (Datum × Datum) → List (Datum × Datum)
  | [] => []
  | (k, v) :: es => (k, refilled n whole v) :: refilledEntries n whole es

end

-- The value itself, without its number.
def opened : Datum → Datum
  | shared n d => refilled n (shared n d) d
  | d => d

-- As `opened`, where only the outside of the value counts.
def bare : Datum → Datum
  | shared _ d => bare d
  | d => d

-- Empty values, zero and `null` count as absent where a default is ready.
def truthy : Datum → Bool
  | null => false
  | bool b => b
  | int i => i != 0
  | float x => x != 0
  | text s => s != ""
  | bytes b => !b.isEmpty
  | list xs => !xs.isEmpty
  | tuple xs => !xs.isEmpty
  | set xs => !xs.isEmpty
  | dict es => !es.isEmpty
  | shared _ d => truthy d
  | date _ | time _ | moment _ _ | around _ => true

-- The value itself, unless it counts as absent.
def orElse (d fallback : Datum) : Datum :=
  if d.truthy then d else fallback

/-! Equality of values: numbers are compared by value, whatever their kind. -/

def number? : Datum → Option (Int ⊕ Float)
  | bool b => some (.inl (if b then 1 else 0))
  | int i => some (.inl i)
  | float x => some (.inr x)
  | _ => none

-- Whether a float has exactly the value of an integer.
def floatIsInt (x : Float) (i : Int) : Bool :=
  !x.isNaN && !x.isInf &&
    let v := Number.binary x
    v.num % v.den == 0 && v.truncated == i

def sameNumber : Int ⊕ Float → Int ⊕ Float → Bool
  | .inl i, .inl j => i == j
  | .inr x, .inr y => x == y || (x.isNaN && y.isNaN)
  | .inl i, .inr x | .inr x, .inl i => floatIsInt x i

mutual

-- Whether two values are equal. Mappings are equal whatever the order of their entries.
def same (d e : Datum) : Bool :=
  match d, e.bare with
  | shared _ d, e => same d e
  | around n, around m => n == m
  | null, null => true
  | text a, text b => a == b
  | bytes a, bytes b => a == b
  | date a, date b => a == b
  | time a, time b => a == b
  | moment d c, moment d' c' => Moment.same d c d' c'
  | tuple xs, tuple ys => sameList xs ys
  | list xs, list ys => sameList xs ys
  | set xs, set ys => xs.length == ys.length && allIn xs ys
  | dict es, dict fs => es.length == fs.length && allEntriesIn es fs
  | bool b, d => (number? d).any (sameNumber (.inl (if b then 1 else 0)))
  | int i, d => (number? d).any (sameNumber (.inl i))
  | float x, d => (number? d).any (sameNumber (.inr x))
  | _, _ => false

def sameList : List Datum → List Datum → Bool
  | [], [] => true
  | x :: xs, y :: ys => same x y && sameList xs ys
  | _, _ => false

def allIn : List Datum → List Datum → Bool
  | [], _ => true
  | x :: xs, ys => ys.any (same x) && allIn xs ys

def allEntriesIn : List (Datum × Datum) → List (Datum × Datum) → Bool
  | [], _ => true
  | (k, v) :: es, fs => fs.any (fun f => same k f.1 && same v f.2) && allEntriesIn es fs

end

mutual

-- How deeply a value is nested.
def depth : Datum → Nat
  | shared _ d => depth d
  | tuple xs => depths xs + 1
  | list xs => depths xs + 1
  | set xs => depths xs + 1
  | dict es => entryDepths es + 1
  | _ => 1

def depths : List Datum → Nat
  | [] => 0
  | x :: xs => max (depth x) (depths xs)

def entryDepths : List (Datum × Datum) → Nat
  | [] => 0
  | (k, v) :: es => max (max (depth k) (depth v)) (entryDepths es)

end

-- The word for the kind of a value.
def kind : Datum → String
  | null => "NoneType"
  | bool _ => "bool"
  | int _ => "int"
  | float _ => "float"
  | text _ => "str"
  | bytes _ => "bytes"
  | date _ => "datetime.date"
  | time _ => "datetime.time"
  | moment _ _ => "datetime.datetime"
  | list _ => "list"
  | tuple _ => "tuple"
  | set _ => "set"
  | dict _ => "dict"
  | shared _ d => kind d
  | around _ => "list"

mutual

-- Values that can be keys: those without lists, sets and mappings.
def isKey : Datum → Bool
  | list _ | set _ | dict _ | around _ => false
  | tuple xs => areKeys xs
  | shared _ d => isKey d
  | _ => true

def areKeys : List Datum → Bool
  | [] => true
  | x :: xs => isKey x && areKeys xs

-- The part of a value that cannot be a key.
def keyFlaw : Datum → String
  | tuple xs => firstFlaw xs
  | shared _ d => keyFlaw d
  | d => d.kind

def firstFlaw : List Datum → String
  | [] => ""
  | x :: xs => if isKey x then firstFlaw xs else keyFlaw x

end

end Datum

namespace Dict

-- The value at a key.
def at? (es : Dict) (k : Datum) : Option Datum :=
  (es.find? fun e => e.1.same k).map Prod.snd

-- The value at a text key.
def get? : Dict → String → Option Datum
  | [], _ => none
  | (k, v) :: es, s =>
    match k with
    | .text t => if t == s then some v else get? es s
    | _ => get? es s

def get (es : Dict) (s : String) (fallback : Datum := .null) : Datum :=
  (es.get? s).getD fallback

def has (es : Dict) (s : String) : Bool :=
  (es.get? s).isSome

-- Sets the value at a key, in its old place or at the end.
def put : Dict → Datum → Datum → Dict
  | [], k, v => [(k, v)]
  | (k', v') :: es, k, v => if k'.same k then (k', v) :: es else (k', v') :: put es k v

def set (es : Dict) (s : String) (v : Datum) : Dict :=
  es.put (.text s) v

def putAll (es fs : Dict) : Dict :=
  fs.foldl (fun es f => es.put f.1 f.2) es

end Dict

end Refit
