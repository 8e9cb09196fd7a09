import Refit.Datum.Fault

/-!
Writing TOML.

A table is written as its plain entries and then its tables, each under a header. A list of tables
is written as values where each of them fits on a line, and else with a header for each.
-/

namespace Refit.Toml

-- The longest line that a table in a list is written on.
def maxLine : Nat := 100

def indent (depth : Nat) : String :=
  String.ofList (List.replicate (4 * depth) ' ')

/-! Texts and keys -/

def escaped (c : Char) : List Char :=
  let letters :=
    [('\x08', 'b'), ('\n', 'n'), ('\x0c', 'f'), ('\r', 'r'), ('"', '"'), ('\\', '\\')]
  match letters.lookup c with
  | some e => ['\\', e]
  | none =>
    if (c < ' ' && c != '\t') || c == '\x7f' then '\\' :: 'u' :: Text.Quoted.hex 4 c.toNat else [c]

def textOf (s : String) : String :=
  String.ofList ('"' :: s.toList.flatMap escaped ++ ['"'])

def isPlainKey (s : String) : Bool :=
  !s.toList.isEmpty && s.toList.all fun c =>
    Letter.isAsciiUpper c || Letter.isAsciiLower c || Letter.isAsciiDigit c || c == '-' || c == '_'

def keyOf (k : Datum) : Except Fault String :=
  match k with
  | .text s => .ok (if isPlainKey s then s else textOf s)
  | k => do
    .error (.mismatch ("Invalid mapping key '" ++ (← k.toText) ++ "' of type '" ++ k.kind
      ++ "'. A string is required."))

/-! Values -/

def unwritable (d : Datum) : Fault :=
  .mismatch ("Object of type '" ++ d.kind ++ "' is not TOML serializable")

mutual

-- A value after a key. Lists are written over several lines.
def valueText (depth : Nat) : Datum → Except Fault String
  | .bool b => .ok (if b then "true" else "false")
  | .int i => (Datum.int i).toText
  | .float x => .ok (Datum.float x).shown
  | .date d => .ok (Datum.date d).shown
  | .moment d c => .ok (Datum.moment d c).shown
  | .time c => .ok (Datum.time c).shown
  | .text s => .ok (textOf s)
  | .list [] => .ok "[]"
  | .list xs => do
    let ls ← itemTexts (depth + 1) xs
    return "[\n" ++ ",\n".joining ls ++ ",\n" ++ indent depth ++ "]"
  | .dict [] => .ok "\x7b\x7d"
  | .dict es => do return "\x7b " ++ ", ".joining (← entryTexts es) ++ " \x7d"
  | d => .error (unwritable d)

def itemTexts (depth : Nat) : List Datum → Except Fault (List String)
  | [] => .ok []
  | x :: xs => do
    let s ← valueText depth x
    return (indent depth ++ s) :: (← itemTexts depth xs)

-- Inside a table that is a value, lists start at the margin again.
def entryTexts : List (Datum × Datum) → Except Fault (List String)
  | [] => .ok []
  | (k, v) :: es => do
    let s := (← keyOf k) ++ " = " ++ (← valueText 0 v)
    return s :: (← entryTexts es)

end

/-! Tables -/

def isTable : Datum → Bool
  | .dict _ => true
  | _ => false

-- Whether a table in a list fits on a line.
def fits (d : Datum) : Except Fault Bool := do
  let s := indent 1 ++ (← valueText 0 d) ++ ","
  return s.length ≤ maxLine && !s.holds "\n"

-- Whether all tables of a list fit, the first that does not settling it.
def allFit : List Datum → Except Fault Bool
  | [] => .ok true
  | x :: xs => do if ← fits x then allFit xs else return false

-- Whether a list is written with a header for each item.
def hasHeaders (xs : List Datum) : Except Fault Bool := do
  if xs.isEmpty || !xs.all isTable then return false else return !(← allFit xs)

-- How an entry of a table is written.
inductive Form where
  | plain
  | table
  | tables
  deriving DecidableEq

def formOf : Datum → Except Fault Form
  | .dict _ => .ok .table
  | .list xs => do return if ← hasHeaders xs then .tables else .plain
  | _ => .ok .plain

-- A piece of the text, or what was found wrong in its place.
abbrev Chunk := Except Fault String

-- The plain entries of a table, a line each.
def plainLine (e : Datum × Datum) : Option Chunk :=
  match formOf e.2 with
  | .ok .plain => some do return (← keyOf e.1) ++ " = " ++ (← valueText 0 e.2) ++ "\n"
  | _ => none

def header (name : String) (inList : Bool) : String :=
  if inList then "[[" ++ name ++ "]]\n" else "[" ++ name ++ "]\n"

def below (name : String) (k : Datum) : Except Fault String := do
  let part ← keyOf k
  return if name == "" then part else name ++ "." ++ part

-- An empty line stands before each table but the first piece of the text.
def gap (started : Bool) : List Chunk :=
  if started then [.ok "\n"] else []

-- The first entry whose form cannot be told.
def formTrouble? (es : Dict) : Option Fault :=
  es.findSome? fun e =>
    match formOf e.2 with
    | .error f => some f
    | .ok _ => none

-- Whether a table has a header: it is an item of a list, or it has a name and either plain entries
-- or no tables.
def isHeaded (name : String) (inList : Bool) (es : Dict) : Bool :=
  inList || (name != "" && (es.any (fun e => (plainLine e).isSome) || es.isEmpty))

mutual

-- The pieces of a table.
def chunks (name : String) (inList : Bool) : Datum → List Chunk
  | .dict es =>
    match formTrouble? es with
    | some f => [.error f]
    | none =>
      let head := if isHeaded name inList es then [Except.ok (header name inList)] else []
      let plain := es.filterMap plainLine
      head ++ plain ++ tableChunks name (!(head ++ plain).isEmpty) es
  | _ => []

-- The pieces of the tables among the entries.
def tableChunks (name : String) (started : Bool) : List (Datum × Datum) → List Chunk
  | [] => []
  | (k, .dict t) :: es =>
    gap started ++
      (match below name k with
      | .ok name => chunks name false (.dict t)
      | .error f => [.error f])
      ++ tableChunks name true es
  | (k, .list xs) :: es =>
    if formOf (.list xs) matches .ok .tables then
      (match below name k with
      | .ok name => listChunks name started xs
      | .error f => [.error f])
        ++ tableChunks name true es
    else tableChunks name started es
  | _ :: es => tableChunks name started es

def listChunks (name : String) (started : Bool) : List Datum → List Chunk
  | [] => []
  | x :: xs => gap started ++ chunks name true x ++ listChunks name true xs

end

-- The pieces of a document.
def document (t : Dict) : List Chunk :=
  chunks "" false (.dict t)

-- The pieces before the first that went wrong.
def upToFault : List Chunk → String × Option Fault
  | [] => ("", none)
  | .error f :: _ => ("", some f)
  | .ok s :: cs =>
    let (t, f) := upToFault cs
    (s ++ t, f)

-- The text of a document as far as it can be written, and what stopped it.
def write (t : Dict) : String × Option Fault :=
  upToFault (document t)

end Refit.Toml
