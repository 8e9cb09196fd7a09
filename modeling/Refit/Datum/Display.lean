import Refit.Datum.Basic

/-!
The text of a value. A text stands for itself; inside a list or a mapping it is quoted.
-/

namespace Refit.Datum

def bytesQuoted (b : List UInt8) : String :=
  let cs := b.map fun x => Char.ofNat x.toNat
  let q := Text.Quoted.quote cs
  let esc (c : Char) : List Char :=
    if c == q || c == '\\' then ['\\', c]
    else if c == '\n' then ['\\', 'n']
    else if c == '\r' then ['\\', 'r']
    else if c == '\t' then ['\\', 't']
    else if 32 ≤ c.toNat && c.toNat < 127 then [c]
    else '\\' :: 'x' :: Text.Quoted.hex 2 c.toNat
  "b" ++ String.ofList (q :: cs.flatMap esc ++ [q])

def zoneQuoted (minutes : Int) : String :=
  if minutes == 0 then "datetime.timezone.utc"
  else "datetime.timezone(" ++ spanText minutes ++ ")"

def dateParts (d : Date) : List String :=
  [toString d.year, toString d.month, toString d.day]

-- Seconds and their fraction are left out where they are zero.
def clockParts (c : Clock) : List String :=
  [toString c.hour, toString c.minute]
    ++ (if c.second == 0 && c.micro == 0 then [] else [toString c.second])
    ++ (if c.micro == 0 then [] else [toString c.micro])
    ++ (c.offset.map fun o => "tzinfo=" ++ zoneQuoted o).toList

-- What stands for a collection inside itself.
def dots (mapping : Bool) : String :=
  if mapping then "\x7b...\x7d" else "[...]"

def call (name : String) (parts : List String) : String :=
  name ++ "(" ++ ", ".intercalate parts ++ ")"

mutual

-- The text of a value inside a list, a mapping or a message. Inside itself a collection is three
-- dots. The numbers are those of the shared values around, with whether each is a mapping.
def quotedIn (outer : List (Nat × Bool)) : Datum → String
  | null => "None"
  | bool b => if b then "True" else "False"
  | int i => toString i
  | float x => Number.shortText x
  | text s => s.quoted
  | bytes b => bytesQuoted b
  | date d => call "datetime.date" (dateParts d)
  | time c => call "datetime.time" (clockParts c)
  | moment d c => call "datetime.datetime" (dateParts d ++ clockParts c)
  | list xs => "[" ++ ", ".intercalate (quotedList outer xs) ++ "]"
  | tuple [x] => "(" ++ quotedIn outer x ++ ",)"
  | tuple xs => "(" ++ ", ".intercalate (quotedList outer xs) ++ ")"
  | set [] => "set()"
  | set xs => "\x7b" ++ ", ".intercalate (quotedList outer xs) ++ "\x7d"
  | dict es => "\x7b" ++ ", ".intercalate (quotedEntries outer es) ++ "\x7d"
  | shared n d =>
    match outer.lookup n with
    | some mapping => dots mapping
    | none => quotedIn ((n, d.bare matches dict _) :: outer) d
  | around n => dots ((outer.lookup n).getD false)

def quotedList (outer : List (Nat × Bool)) : List Datum → List String
  | [] => []
  | x :: xs => quotedIn outer x :: quotedList outer xs

def quotedEntries (outer : List (Nat × Bool)) : List (Datum × Datum) → List String
  | [] => []
  | (k, v) :: es => (quotedIn outer k ++ ": " ++ quotedIn outer v) :: quotedEntries outer es

end

def quoted (d : Datum) : String :=
  quotedIn [] d

-- The text of a value on its own.
def shown (d : Datum) : String :=
  match d.bare with
  | text s => s
  | date d => d.text
  | time c => c.text
  | moment d c => d.text ++ " " ++ c.text
  | _ => d.quoted

/-! Integers that are too long for a text -/

-- The least integer, but for its sign, whose digits are too many.
def integerLimit : Nat :=
  Number.tens 4300

def isWritable (i : Int) : Bool :=
  i.natAbs < integerLimit

mutual

-- Whether a value has a text, which needs every integer in it to be short enough.
def hasText : Datum → Bool
  | int i => isWritable i
  | list xs => haveTexts xs
  | tuple xs => haveTexts xs
  | set xs => haveTexts xs
  | dict es => entriesHaveTexts es
  | shared _ d => hasText d
  | _ => true

def haveTexts : List Datum → Bool
  | [] => true
  | x :: xs => hasText x && haveTexts xs

def entriesHaveTexts : List (Datum × Datum) → Bool
  | [] => true
  | (k, v) :: es => hasText k && hasText v && entriesHaveTexts es

end

end Refit.Datum
