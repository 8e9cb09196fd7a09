import Refit.Number.Decimal
import Refit.Text.Letter
import Refit.Text.Basic

/-!
Numbers written as text.

Digits of any script count, single underscores may stand between digits, and white space around the
number is ignored.
-/

namespace Refit.Number.Literal

-- The longest integer text that is read or written.
def maxDigits : Nat := 4300

def sign (s : List Char) : Bool × List Char :=
  match s with
  | '-' :: r => (true, r)
  | '+' :: r => (false, r)
  | _ => (false, s)

-- The values of digits with single underscores between them.
def digitsBy? (value? : Char → Option Nat) : List Char → Option (List Nat)
  | [] => none
  | c :: r => do
    let d ← value? c
    go [d] r
where
  go (seen : List Nat) : List Char → Option (List Nat)
    | [] => some seen.reverse
    | '_' :: c :: r => do go ((← value? c) :: seen) r
    | c :: r => do go ((← value? c) :: seen) r

def digits? (s : List Char) : Option (List Nat) :=
  digitsBy? Letter.digitValue? s

def ofDigits (base : Nat) (ds : List Nat) : Nat :=
  ds.foldl (fun n d => n * base + d) 0

inductive IntegerText where
  | value (i : Int)
  | malformed
  | tooLong (digits : Nat)

-- Reads a decimal integer.
def integer (s : String) : IntegerText :=
  let (negative, body) := sign (Text.trim Letter.isSpace s.toList)
  match digits? body with
  | none => .malformed
  | some ds =>
    if maxDigits < ds.length then .tooLong ds.length
    else .value (if negative then -Int.ofNat (ofDigits 10 ds) else Int.ofNat (ofDigits 10 ds))

-- Drops zeros in front, and underscores among them, but not the last of them before a point or the
-- end.
def withoutZeros : List Char → List Char
  | '0' :: r =>
    let zeros := r.takeWhile fun c => c == '0' || c == '_'
    match r.drop zeros.length with
    | '.' :: p => zeros.getLastD '0' :: '.' :: p
    | [] => [zeros.getLastD '0']
    | p => p
  | s => s

-- Drops a point with nothing but zeros behind it.
def withoutFraction (s : List Char) : List Char :=
  match s.dropWhile (· != '.') with
  | '.' :: r => if r.all (· == '0') then s.takeWhile (· != '.') else s
  | _ => s

-- Reads a whole number in ASCII, which may have zeros in front and a fraction of zeros.
def whole? (s : String) : Option Int := do
  let (negative, body) := sign (Text.trim Letter.isSpace s.toList)
  let value? (c : Char) : Option Nat := if Letter.isAsciiDigit c then Letter.digitValue? c else none
  let head ← body.head?
  let ds ← if Letter.isAsciiDigit head then digitsBy? value? (withoutFraction (withoutZeros body))
    else none
  if maxDigits < ds.length then none
  else
    let n := Int.ofNat (ofDigits 10 ds)
    return if negative then -n else n

-- Drops the zero and the letter that announce a base.
def withoutBase (base : Nat) (s : List Char) : List Char :=
  let letters := if base == 2 then ['b', 'B'] else if base == 8 then ['o', 'O'] else ['x', 'X']
  match s with
  | '0' :: c :: '_' :: r => if letters.contains c then r else s
  | '0' :: c :: r => if letters.contains c then r else s
  | _ => s

-- Reads an integer in base 2, 8 or 16.
def inBase? (base : Nat) (s : String) : Option Int :=
  let (negative, body) := sign (Text.trim Letter.isSpace s.toList)
  let value? (c : Char) : Option Nat :=
    (Letter.digitValue? c <|> Letter.hexValue? c).filter (· < base)
  (digitsBy? value? (withoutBase base body)).map fun ds =>
    let n := Int.ofNat (ofDigits base ds)
    if negative then -n else n

-- Splits a run of digits and underscores off a text.
def run (s : List Char) : List Char × List Char :=
  s.span fun c => c == '_' || (Letter.digitValue? c).isSome

def fraction? : List Char → Option (List Nat × List Char)
  | '.' :: r =>
    let (ds, rest) := run r
    if ds.isEmpty then some ([], rest) else (digits? ds).map (·, rest)
  | r => some ([], r)

def exponent? : List Char → Option Int
  | [] => some 0
  | c :: r =>
    if c == 'e' || c == 'E' then
      let (negative, body) := sign r
      (digits? body).map fun ds =>
        let n := Int.ofNat (ofDigits 10 ds)
        if negative then -n else n
    else none

-- Reads a float: a decimal with an optional exponent, an infinity, or not a number.
def float? (s : String) : Option Float :=
  let (negative, body) := sign (Text.trim Letter.isSpace s.toList)
  let name := String.ofList (body.flatMap Letter.lower)
  if name == "inf" || name == "infinity" then
    some (if negative then -(1.0 / 0.0) else 1.0 / 0.0)
  else if name == "nan" then some (0.0 / 0.0)
  else do
    let (whole, rest) := run body
    let ws ← if whole.isEmpty then some [] else digits? whole
    let (fs, rest) ← fraction? rest
    if ws.isEmpty && fs.isEmpty then none
    else
      let e ← exponent? rest
      some (Decimal.toFloat negative (ofDigits 10 (ws ++ fs)) (e - Int.ofNat fs.length))

end Refit.Number.Literal
