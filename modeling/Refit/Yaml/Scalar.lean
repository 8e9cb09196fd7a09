import Refit.Datum.Fault
import Refit.Text.Pattern

/-!
The values that plain scalars stand for.

A plain scalar is a boolean, a number, a time or nothing at all if its text has that form, and else
a text. The forms are those of YAML 1.1.
-/

namespace Refit.Yaml

open Pattern

namespace Tag

def core (name : String) : String :=
  "tag:yaml.org,2002:" ++ name

def null := core "null"
def bool := core "bool"
def int := core "int"
def float := core "float"
def text := core "str"
def time := core "timestamp"
def merge := core "merge"
def value := core "value"
def indicator := core "yaml"
def seq := core "seq"
def map := core "map"
def set := core "set"
def ordered := core "omap"
def pairs := core "pairs"
def binary := core "binary"

end Tag

namespace Form

def digit : Pattern :=
  one Letter.isAsciiDigit

def upTo2 (p : Pattern) : Pattern :=
  many 1 (some 2) true p

def sign : Pattern :=
  opt (oneOf "-+")

def digits_ : Pattern :=
  star (oneOf "0123456789_")

def sixty : Pattern :=
  plus (char ':' ++ opt (oneOf "012345") ++ digit)

def truth : List (String × Bool) :=
  [("yes", true), ("Yes", true), ("YES", true), ("no", false), ("No", false), ("NO", false),
    ("true", true), ("True", true), ("TRUE", true), ("false", false), ("False", false),
    ("FALSE", false), ("on", true), ("On", true), ("ON", true), ("off", false), ("Off", false),
    ("OFF", false)]

def nothing : List String :=
  ["~", "null", "Null", "NULL", ""]

def exponent : Pattern :=
  opt (oneOf "eE" ++ oneOf "-+" ++ plus digit)

def float : Pattern :=
  anyOf [
    sign ++ digit ++ digits_ ++ char '.' ++ digits_ ++ exponent,
    char '.' ++ digit ++ digits_ ++ exponent,
    sign ++ digit ++ digits_ ++ sixty ++ char '.' ++ digits_,
    sign ++ char '.' ++ anyOf [lit "inf", lit "Inf", lit "INF"],
    char '.' ++ anyOf [lit "nan", lit "NaN", lit "NAN"]]

def int : Pattern :=
  anyOf [
    sign ++ lit "0b" ++ plus (oneOf "01_"),
    sign ++ char '0' ++ plus (oneOf "01234567_"),
    sign ++ (char '0' <|> (oneOf "123456789" ++ digits_)),
    sign ++ lit "0x" ++ plus (one fun c => Letter.isHex c || c == '_'),
    sign ++ oneOf "123456789" ++ digits_ ++ sixty]

def gap : Pattern :=
  oneOf " \t"

-- A date, or a date with a time of day. The groups are the numbers in order, the letter or sign of
-- the zone, and the zone's hours and minutes.
def moment (short : Pattern) : Pattern :=
  group 1 (digit ++ digit ++ digit ++ digit) ++ char '-' ++ group 2 short ++ char '-'
    ++ group 3 short
    ++ opt ((oneOf "Tt" <|> plus gap) ++ group 4 (upTo2 digit) ++ char ':'
      ++ group 5 (digit ++ digit) ++ char ':' ++ group 6 (digit ++ digit)
      ++ opt (char '.' ++ group 7 (star digit))
      ++ opt (star gap ++ (group 8 (char 'Z')
        <|> (group 9 (oneOf "-+") ++ group 10 (upTo2 digit)
          ++ opt (char ':' ++ group 11 (digit ++ digit))))))

-- A date alone is recognised only with all its digits.
def time : Pattern :=
  anyOf [
    many 4 (some 4) true digit ++ char '-' ++ digit ++ digit ++ char '-' ++ digit ++ digit,
    many 4 (some 4) true digit ++ char '-' ++ upTo2 digit ++ char '-' ++ upTo2 digit
      ++ (oneOf "Tt" <|> plus gap) ++ upTo2 digit
      ++ char ':' ++ digit ++ digit ++ char ':' ++ digit ++ digit
      ++ opt (char '.' ++ star digit)
      ++ opt (star gap ++ (char 'Z'
        <|> (oneOf "-+" ++ upTo2 digit ++ opt (char ':' ++ digit ++ digit))))]

end Form

-- The tag of a plain scalar.
def plainTag (s : String) : String :=
  if (Form.truth.lookup s).isSome then Tag.bool
  else if Form.float.accepts s then Tag.float
  else if Form.int.accepts s then Tag.int
  else if s == "<<" then Tag.merge
  else if Form.nothing.contains s then Tag.null
  else if Form.time.accepts s then Tag.time
  else if s == "=" then Tag.value
  else Tag.text

-- The tag of a scalar that asks for the one its text has when it is plain. A line break at the end
-- does not count, and a lone indicator has a tag of its own.
def impliedTag (s : String) : String :=
  let body :=
    match s.toList.reverse with
    | '\n' :: c :: r => String.ofList (c :: r).reverse
    | _ => s
  if ["!", "&", "*"].contains body then Tag.indicator else plainTag body

/-! Values of scalars with a given tag -/

open Datum (Read)

def truthOf (s : String) : Read Datum :=
  match [("yes", true), ("no", false), ("true", true), ("false", false), ("on", true),
      ("off", false)].lookup s.lowered with
  | some b => .ok (.bool b)
  | none => .error (.absentKey s.lowered)

def readBase (base : Nat) (s : String) : Read Int :=
  match Number.Literal.inBase? base s with
  | some i => .ok i
  | none => .error (.badInteger base s)

-- Splits a sign off and drops the underscores.
def signed (s : String) : Read (Int × String) :=
  match s.toList.filter (· != '_') with
  | [] => .error (.noPosition "str")
  | '-' :: r => .ok (-1, String.ofList r)
  | '+' :: r => .ok (1, String.ofList r)
  | cs => .ok (1, String.ofList cs)

def integerOf (s : String) : Read Datum := do
  let (sign, body) ← signed s
  let value ←
    if body == "0" then pure 0
    else if body.beginsWith "0b" then readBase 2 (body.skipChars 2)
    else if body.beginsWith "0x" then readBase 16 (body.skipChars 2)
    else if body.isEmpty then .error (.noPosition "str")
    else if body.beginsWith "0" then readBase 8 body
    else if body.holds ":" then do
      let parts ← (body.splitAt ':').mapM Datum.readInteger
      pure (parts.foldl (fun n d => n * 60 + d) 0)
    else Datum.readInteger body
  return .int (sign * value)

def floatOf (s : String) : Read Datum := do
  let (sign, body) ← signed s.lowered
  let readPart (p : String) : Read Float := (Datum.text p).toFloat
  let value ←
    if body == ".inf" then pure (1.0 / 0.0)
    else if body == ".nan" then pure (0.0 / 0.0)
    else if body.holds ":" then do
      let parts ← (body.splitAt ':').mapM readPart
      -- From the last part on, each weighs sixty times the one behind it.
      pure ((parts.reverse.foldl (fun (acc : Float × Float) d => (acc.1 + d * acc.2, acc.2 * 60))
        (0.0, 1.0)).1)
    else readPart body
  return .float (if sign < 0 then -value else value)

def natOf (s : String) : Nat :=
  s.toList.foldl (fun n d => n * 10 + (d.toNat - '0'.toNat)) 0

def checked (r : Except CalendarFlaw α) : Read α :=
  r.mapError .calendar

def timeOf (s : String) : Read Datum :=
  match (Form.moment (Form.upTo2 Form.digit) ++ textEnd).matchAt? (Spot.start s.toList) with
  | none => .error (.noMember "NoneType" "groupdict")
  | some m => do
    let n (i : Nat) : Nat := natOf (m.group i)
    let date : Date := ⟨n 1, n 2, n 3⟩
    if (m.group? 4).isNone then return .date (← checked date.check)
    else
      let micro := natOf (String.ofList (((m.group 7).toList ++ List.replicate 6 '0').take 6))
      let offset : Option Int :=
        if (m.group? 9).isSome then
          let o := Int.ofNat (n 10 * 60 + n 11)
          some (if m.group 9 == "-" then -o else o)
        else if (m.group? 8).isSome then some 0
        else none
      let clock : Clock := ⟨n 4, n 5, n 6, micro, offset⟩
      -- The zone is looked at before the date and the time of day.
      match offset with
      | some o =>
        if Clock.minutesPerDay.natAbs ≤ o.natAbs then .error (.calendar (.offset o)) else pure ()
      | none => pure ()
      return .moment (← checked date.check) (← checked clock.check)

end Refit.Yaml
