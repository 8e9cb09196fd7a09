import Refit.Datum.Display
import Refit.Number.Literal

/-!
What can be wrong with a value, and the conversions that find it wrong.
-/

namespace Refit

-- Why a value could not be used. Kinds are the words of `Datum.kind`.
inductive Fault where
  | absentKey (key : Datum)
  | notIterable (kind : String)
  | notContainer (kind : String)
  | notMapping (kind : String)
  | notIndexed (kind : String)
  -- A position was asked for by something other than a number.
  | badPosition (holder asked : String)
  | noPosition (holder : String)
  | noMember (kind member : String)
  | notKey (kind : String)
  | notText (position : Nat) (kind : String)
  | notSearchable (kind : String)
  -- Bytes were compared with a text.
  | textForBytes
  -- The start or end of bytes was compared with a text.
  | textForEnd (member : String)
  | notInteger (kind : String)
  | notReal (kind : String)
  | badInteger (base : Nat) (text : String)
  | longInteger (digits : Nat)
  -- An integer that is too long to be written.
  | unwritableInteger
  | badReal (text : String)
  | undefinedInteger
  | infiniteInteger
  | tooLarge
  | notEntry (position : Nat)
  | entryLength (position length : Nat)
  | calendar (flaw : CalendarFlaw)
  -- A number that is no character's.
  | codePoint (n : Nat)
  | notSerializable (kind : String)
  | badKeyKind (kind : String)
  -- A collection that holds itself where none may.
  | circular
  -- A collection that holds itself, or is nested too deeply, where all of it is gone through.
  | tooDeep
  | mismatch (message : String)

-- The groups of faults that callers tell apart.
inductive Fault.Class where
  | key
  | kind
  | value
  | member
  | position
  | range
  | depth
  | text
  deriving DecidableEq

namespace Fault

def «class» : Fault → Class
  | absentKey _ => .key
  | notIterable _ | notContainer _ | notMapping _ | notIndexed _ | badPosition _ _ | notKey _
  | notText _ _ | notSearchable _ | textForBytes | textForEnd _ | notInteger _ | notReal _
  | notEntry _ | notSerializable _ | badKeyKind _ | mismatch _ => .kind
  | noPosition _ => .position
  | noMember _ _ => .member
  | badInteger _ _ | longInteger _ | unwritableInteger | badReal _ | undefinedInteger
  | entryLength _ _ | circular | calendar _ => .value
  | tooDeep => .depth
  | codePoint n => if n < Number.twos 31 then .value else .range
  | infiniteInteger | tooLarge => .range

def message : Fault → String
  | absentKey k => k.quoted
  | notIterable k => "'" ++ k ++ "' object is not iterable"
  | notContainer k => "argument of type '" ++ k ++ "' is not iterable"
  | notMapping k => "'" ++ k ++ "' object is not a mapping"
  | notIndexed k => "'" ++ k ++ "' object is not subscriptable"
  | badPosition "str" a => "string indices must be integers, not '" ++ a ++ "'"
  | badPosition "bytes" a => "byte indices must be integers or slices, not " ++ a
  | badPosition h a => h ++ " indices must be integers or slices, not " ++ a
  | noPosition "str" => "string index out of range"
  | noPosition h => h ++ " index out of range"
  | noMember k m => "'" ++ k ++ "' object has no attribute '" ++ m ++ "'"
  | notKey k => "unhashable type: '" ++ k ++ "'"
  | notText n k =>
    "sequence item " ++ toString n ++ ": expected str instance, " ++ k ++ " found"
  | notSearchable "bytes" => "cannot use a string pattern on a bytes-like object"
  | notSearchable k => "expected string or bytes-like object, got '" ++ k ++ "'"
  | textForBytes => "a bytes-like object is required, not 'str'"
  | textForEnd m => m ++ " first arg must be bytes or a tuple of bytes, not str"
  | notInteger k =>
    "int() argument must be a string, a bytes-like object or a real number, not '" ++ k ++ "'"
  | notReal k => "float() argument must be a string or a real number, not '" ++ k ++ "'"
  | badInteger b s =>
    "invalid literal for int() with base " ++ toString b ++ ": " ++ s.quoted.firstChars 200
  | longInteger n =>
    "Exceeds the limit (4300 digits) for integer string conversion: value has " ++ toString n
      ++ " digits; use sys.set_int_max_str_digits() to increase the limit"
  | unwritableInteger =>
    "Exceeds the limit (4300 digits) for integer string conversion; "
      ++ "use sys.set_int_max_str_digits() to increase the limit"
  | badReal s => "could not convert string to float: " ++ s.quoted
  | undefinedInteger => "cannot convert float NaN to integer"
  | infiniteInteger => "cannot convert float infinity to integer"
  | tooLarge => "int too large to convert to float"
  | notEntry n =>
    "cannot convert dictionary update sequence element #" ++ toString n ++ " to a sequence"
  | entryLength n l =>
    "dictionary update sequence element #" ++ toString n ++ " has length " ++ toString l
      ++ "; 2 is required"
  | calendar f => f.message
  | codePoint n =>
    if n < Number.twos 31 then "chr() arg not in range(0x110000)"
    else "Python int too large to convert to C int"
  | notSerializable k => "Object of type " ++ k ++ " is not JSON serializable"
  | badKeyKind k => "keys must be str, int, float, bool or None, not " ++ k
  | circular => "Circular reference detected"
  | tooDeep => "maximum recursion depth exceeded"
  | mismatch m => m

end Fault

namespace Datum

abbrev Read := Except Fault

-- The text of a value.
def toText (d : Datum) : Read String :=
  if d.hasText then .ok d.shown else .error .unwritableInteger

mutual

-- The value with a copy of every shared value in each of its places.
def unshared : Datum → Read Datum
  | list xs => (unsharedList xs).map list
  | tuple xs => (unsharedList xs).map tuple
  | dict es => (unsharedEntries es).map dict
  | shared _ d => unshared d
  | around _ => .error .tooDeep
  | d => .ok d

def unsharedList : List Datum → Read (List Datum)
  | [] => .ok []
  | x :: xs => do
    let y ← unshared x
    return y :: (← unsharedList xs)

def unsharedEntries : List (Datum × Datum) → Read (List (Datum × Datum))
  | [] => .ok []
  | (k, v) :: es => do
    let e := (← unshared k, ← unshared v)
    return e :: (← unsharedEntries es)

end

-- The entries of a mapping.
def entries? (d : Datum) : Option Dict :=
  match d.opened with
  | dict es => some es
  | _ => none

-- The items of a list.
def items? (d : Datum) : Option (List Datum) :=
  match d.opened with
  | list xs => some xs
  | _ => none

-- The entries of a value that has to be a mapping, when `member` of it is asked for.
def asDict (d : Datum) (member : String := "get") : Read Dict :=
  match d.entries? with
  | some es => .ok es
  | none => .error (.noMember d.kind member)

-- The value at a text key.
def field (d : Datum) (key : String) : Read Datum :=
  match d.opened with
  | dict es =>
    match Dict.get? es key with
    | some v => .ok v
    | none => .error (.absentKey (text key))
  | text _ => .error (.badPosition "str" "str")
  | bytes _ => .error (.badPosition "bytes" "str")
  | list _ => .error (.badPosition "list" "str")
  | tuple _ => .error (.badPosition "tuple" "str")
  | d => .error (.notIndexed d.kind)

-- The parts of a value: items, keys, characters or bytes.
def items (d : Datum) : Read (List Datum) :=
  match d.opened with
  | list xs => .ok xs
  | set xs => .ok xs
  | tuple xs => .ok xs
  | dict es => .ok (es.map Prod.fst)
  | text s => .ok (s.toList.map fun c => text (String.singleton c))
  | bytes b => .ok (b.map fun x => int x.toNat)
  | d => .error (.notIterable d.kind)

def asKey (d : Datum) : Read Datum :=
  if d.isKey then .ok d else .error (.notKey d.keyFlaw)

-- Adds entries from a sequence of pairs one by one, up to the first part that is none.
def absorbFrom : Nat → List Datum → Dict → Read Unit × Dict
  | _, [], es => (.ok (), es)
  | n, x :: xs, es =>
    match x.items with
    | .error _ => (.error (.notEntry n), es)
    | .ok [k, v] =>
      match k.asKey with
      | .error f => (.error f, es)
      | .ok k => absorbFrom (n + 1) xs (es.put k v)
    | .ok ys => (.error (.entryLength n ys.length), es)

-- A mapping with the entries of a value added, and what was wrong with one of them.
def absorb (es : Dict) (d : Datum) : Read Unit × Dict :=
  match d.opened with
  | dict fs => (.ok (), es.putAll fs)
  | d =>
    match d.items with
    | .error f => (.error f, es)
    | .ok xs => absorbFrom 0 xs es

-- A mapping, or a sequence of entries as one.
def toDict (d : Datum) : Read Dict :=
  match d.entries? with
  | some es => .ok es
  | none =>
    match absorb [] d with
    | (.ok (), es) => .ok es
    | (.error f, _) => .error f

-- The entries of a value that is merged into a mapping.
def asMapping (d : Datum) : Read Dict :=
  match d.entries? with
  | some es => .ok es
  | none => .error (.notMapping d.kind)

def readInteger (s : String) : Read Int :=
  match Number.Literal.integer s with
  | .value i => .ok i
  | .malformed => .error (.badInteger 10 s)
  | .tooLong n => .error (.longInteger n)

def floatInteger (x : Float) : Read Int :=
  if x.isNaN then .error .undefinedInteger
  else if x.isInf then .error .infiniteInteger
  else .ok (Number.binary x).truncated

def toInt : Datum → Read Int
  | bool b => .ok (if b then 1 else 0)
  | int i => .ok i
  | float x => floatInteger x
  | text s => readInteger s
  | d => .error (.notInteger d.kind)

-- The least integer that is too large for a float.
def floatLimit : Nat :=
  Number.twos 1024 - Number.twos 970

def integerFloat (i : Int) : Read Float :=
  if floatLimit ≤ i.natAbs then .error .tooLarge
  else
    let x := Number.nearestFloat i.natAbs 1
    .ok (if i < 0 then -x else x)

def toFloat : Datum → Read Float
  | bool b => .ok (if b then 1 else 0)
  | int i => integerFloat i
  | float x => .ok x
  | text s =>
    match Number.Literal.float? s with
    | some x => .ok x
    | none => .error (.badReal s)
  | d => .error (.notReal d.kind)

-- A float as the nearest integer.
def roundFloat (x : Float) : Read Int :=
  if x.isNaN then .error .undefinedInteger
  else if x.isInf then .error .infiniteInteger
  else .ok (Number.binary x).nearest

-- The texts of a list, joined.
def joinTexts (sep : String) (ds : List Datum) : Read String :=
  (go 0 ds).map (String.joining sep)
where
  go : Nat → List Datum → Read (List String)
    | _, [] => .ok []
    | n, text s :: r => (go (n + 1) r).map (s :: ·)
    | n, d :: _ => .error (.notText n d.kind)

-- Whether a text occurs in a value: in a text, or among the parts of another.
def mentions (s : String) (d : Datum) : Read Bool :=
  match d.bare with
  | text t => .ok (t.holds s)
  | list xs => .ok (xs.any (same (text s)))
  | set xs => .ok (xs.any (same (text s)))
  | tuple xs => .ok (xs.any (same (text s)))
  | dict es => .ok (Dict.has es s)
  | bytes _ => .error .textForBytes
  | d => .error (.notContainer d.kind)

-- The first parts of a text or a list.
def firstParts (n : Nat) (d : Datum) : Read Datum :=
  match d.opened with
  | text s => .ok (text (s.firstChars n))
  | list xs => .ok (list (xs.take n))
  | tuple xs => .ok (tuple (xs.take n))
  | bytes b => .ok (bytes (b.take n))
  | dict _ => .error (.notKey "slice")
  | d => .error (.notIndexed d.kind)

-- A value that has to be a text, when a member of it is asked for.
def asText (d : Datum) (member : String) : Read String :=
  match d with
  | text s => .ok s
  | bytes _ =>
    let atEnd := ["startswith", "endswith"].contains member
    .error (if atEnd then .textForEnd member else .textForBytes)
  | d => .error (.noMember d.kind member)

-- The text of a value that is matched against a pattern.
def searched : Datum → Read String
  | text s => .ok s
  | d => .error (.notSearchable d.kind)

end Datum

end Refit
