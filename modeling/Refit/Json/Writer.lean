import Refit.Datum.Fault

/-!
The JSON text of a value, over several lines and in ASCII.
-/

namespace Refit.Json

-- A character by its units of sixteen bits.
def unitEscape (n : Nat) : List Char :=
  '\\' :: 'u' :: Text.Quoted.hex 4 n

def escape (c : Char) : List Char :=
  if c == '"' || c == '\\' then ['\\', c]
  else if c == '\n' then ['\\', 'n']
  else if c == '\r' then ['\\', 'r']
  else if c == '\t' then ['\\', 't']
  else if c == '\x08' then ['\\', 'b']
  else if c == '\x0c' then ['\\', 'f']
  else if ' ' ≤ c && c ≤ '~' then [c]
  else if c.toNat < 0x10000 then unitEscape c.toNat
  else
    let n := c.toNat - 0x10000
    unitEscape (0xD800 + n / 0x400) ++ unitEscape (0xDC00 + n % 0x400)

def text (s : String) : String :=
  String.ofList ('"' :: s.toList.flatMap escape ++ ['"'])

-- As the shortest decimal, with names for what is no number.
def number (x : Float) : String :=
  { Number.Decimal.Layout.plain with notNumber := "NaN", infinite := "Infinity" }.write x

def shortKind (d : Datum) : String :=
  d.kind.replacing "datetime." ""

def integer (i : Int) : Except Fault String :=
  if Datum.isWritable i then .ok (toString i) else .error .unwritableInteger

-- A key as text. Numbers and the like are keys by the text of their value.
def key (k : Datum) : Except Fault String :=
  match k.bare with
  | .text s => .ok (text s)
  | .int i => (integer i).map text
  | .float x => .ok (text (number x))
  | .bool b => .ok (text (if b then "true" else "false"))
  | .null => .ok (text "null")
  | k => .error (.badKeyKind (shortKind k))

def newLine (depth : Nat) : String :=
  String.ofList ('\n' :: List.replicate (2 * depth) ' ')

-- What becomes of a value that JSON has no form for: its text, or a fault.
def other (lenient : Bool) (d : Datum) : Except Fault String :=
  if lenient then d.toText.map text else .error (.notSerializable (shortKind d))

-- Parts between brackets, a line each.
def block (depth : Nat) (first last : String) (parts : List String) : String :=
  first ++ newLine (depth + 1) ++ ("," ++ newLine (depth + 1)).intercalate parts
    ++ newLine depth ++ last

mutual

-- A value inside the shared values of certain numbers. None of them may stand in it again.
def node (lenient : Bool) (outer : List Nat) (depth : Nat) : Datum → Except Fault String
  | .null => .ok "null"
  | .bool b => .ok (if b then "true" else "false")
  | .int i => integer i
  | .float x => .ok (number x)
  | .text s => .ok (text s)
  | .list [] => .ok "[]"
  | .list xs => do return block depth "[" "]" (← nodeTexts lenient outer (depth + 1) xs)
  | .tuple [] => .ok "[]"
  | .tuple xs => do return block depth "[" "]" (← nodeTexts lenient outer (depth + 1) xs)
  | .dict [] => .ok "\x7b\x7d"
  | .dict es => do
    return block depth "\x7b" "\x7d" (← memberTexts lenient outer (depth + 1) es)
  | .shared n d =>
    if outer.contains n then .error .circular else node lenient (n :: outer) depth d
  | .around _ => .error .circular
  | d => other lenient d

def nodeTexts (lenient : Bool) (outer : List Nat) (depth : Nat) :
    List Datum → Except Fault (List String)
  | [] => .ok []
  | x :: xs => do
    let s ← node lenient outer depth x
    return s :: (← nodeTexts lenient outer depth xs)

def memberTexts (lenient : Bool) (outer : List Nat) (depth : Nat) :
    List (Datum × Datum) → Except Fault (List String)
  | [] => .ok []
  | (k, v) :: es => do
    let s ← key k
    let t ← node lenient outer depth v
    return (s ++ ": " ++ t) :: (← memberTexts lenient outer depth es)

end

-- Two columns a level.
def write (d : Datum) : Except Fault String :=
  node false [] 0 d

-- As `write`, with the text of each value that JSON has no form for.
def writeLenient (d : Datum) : Except Fault String :=
  node true [] 0 d

end Refit.Json
