import Refit.Datum.Basic
import Refit.Number.Literal
import Refit.Toml.Text

/-!
Numbers, dates and times of a TOML document.

Each is recognised at the start of what is left, as far as it goes.
-/

namespace Refit.Toml

/-! Digits -/

-- Digits of a class with single underscores between them.
def digitsAfter (p : Char → Bool) : Rest → List Char × Rest
  | '_' :: c :: r =>
    if p c then
      let (ds, r) := digitsAfter p r
      (c :: ds, r)
    else ([], '_' :: c :: r)
  | c :: r =>
    if p c then
      let (ds, r) := digitsAfter p r
      (c :: ds, r)
    else ([], c :: r)
  | [] => ([], [])

def digits? (p : Char → Bool) (s : Rest) : Option (List Char × Rest) :=
  match s with
  | c :: r =>
    if p c then
      let (ds, r) := digitsAfter p r
      some (c :: ds, r)
    else none
  | [] => none

def valueOf (base : Nat) (ds : List Char) : Nat :=
  Number.Literal.ofDigits base (ds.map fun c => (Letter.hexValue? c).getD 0)

-- An integer of another base: hexadecimal, binary or octal.
def based? (s : Rest) : Option (Int × Rest) :=
  let read (base : Nat) (r : Rest) : Option (Int × Rest) :=
    let isDigit (c : Char) : Bool := (Letter.hexValue? c).any (· < base)
    (digits? isDigit r).map fun (ds, r) => (Int.ofNat (valueOf base ds), r)
  match s with
  | '0' :: 'x' :: r => read 16 r
  | '0' :: 'b' :: r => read 2 r
  | '0' :: 'o' :: r => read 8 r
  | _ => none

-- The whole part: a zero, or digits that do not start with one.
def whole? (s : Rest) : Option (List Char × Rest) :=
  match s with
  | '0' :: r => some (['0'], r)
  | s => digits? Letter.isAsciiDigit s

def fraction (s : Rest) : List Char × Rest :=
  match s with
  | '.' :: r =>
    match digits? Letter.isAsciiDigit r with
    | some (ds, r) => ('.' :: ds, r)
    | none => ([], s)
  | s => ([], s)

def exponent (s : Rest) : List Char × Rest :=
  match s with
  | c :: r =>
    if c == 'e' || c == 'E' then
      let (sign, r) := match r with
        | '+' :: r => (['+'], r)
        | '-' :: r => (['-'], r)
        | r => ([], r)
      match digits? Letter.isAsciiDigit r with
      | some (ds, r) => ('e' :: sign ++ ds, r)
      | none => ([], s)
    else ([], s)
  | [] => ([], s)

-- A number in decimal. A fraction or an exponent makes it a float.
def decimal? (s : Rest) : Option (Read (Datum × Rest)) := do
  let (negative, body) := Number.Literal.sign s
  let (ws, r) ← whole? body
  let (fs, r) := fraction r
  let (es, r) := exponent r
  if fs.isEmpty && es.isEmpty then
    if Number.Literal.maxDigits < ws.length then some (.error (.longInteger ws.length))
    else
      let n := Int.ofNat (valueOf 10 ws)
      some (.ok (.int (if negative then -n else n), r))
  else
    let sign := if negative then ['-'] else []
    let x ← Number.Literal.float? (String.ofList (sign ++ ws ++ fs ++ es))
    some (.ok (.float x, r))

def number? (s : Rest) : Option (Read (Datum × Rest)) :=
  match based? s with
  | some (i, r) => some (.ok (.int i, r))
  | none => decimal? s

-- Infinities, and what is no number.
def special? (s : Rest) : Option (Datum × Rest) :=
  let infinity : Float := 1.0 / 0.0
  let words : List (String × Float) :=
    [("inf", infinity), ("nan", 0.0 / 0.0), ("-inf", -infinity), ("+inf", infinity),
      ("-nan", 0.0 / 0.0), ("+nan", 0.0 / 0.0)]
  (words.find? fun w => w.1.toList.isPrefixOf s).map fun w =>
    (.float w.2, s.drop w.1.toList.length)

/-! Dates and times -/

-- Two digits whose value lies between two bounds.
def twoDigits? (low high : Nat) (s : Rest) : Option (Nat × Rest) :=
  match s with
  | a :: b :: r =>
    let n := valueOf 10 [a, b]
    if Letter.isAsciiDigit a && Letter.isAsciiDigit b && low ≤ n && n ≤ high then some (n, r)
    else none
  | _ => none

def mark? (c : Char) (s : Rest) : Option Rest :=
  match s with
  | d :: r => if c == d then some r else none
  | [] => none

def date? (s : Rest) : Option (Date × Rest) := do
  let ys := s.take 4
  if ys.length == 4 && ys.all Letter.isAsciiDigit then
    let (month, r) ← twoDigits? 1 12 (← mark? '-' (s.drop 4))
    let (day, r) ← twoDigits? 1 31 (← mark? '-' r)
    return (⟨valueOf 10 ys, month, day⟩, r)
  else none

-- The fraction of a second in millionths; digits after the sixth are dropped.
def micro (s : Rest) : Nat × Rest :=
  match s with
  | '.' :: r =>
    let ds := r.takeWhile Letter.isAsciiDigit
    if ds.isEmpty then (0, s)
    else
      let six := ds.take 6
      (valueOf 10 six * Number.tens (6 - six.length), r.dropWhile Letter.isAsciiDigit)
  | s => (0, s)

def clock? (s : Rest) : Option (Clock × Rest) := do
  let (hour, r) ← twoDigits? 0 23 s
  let (minute, r) ← twoDigits? 0 59 (← mark? ':' r)
  let (second, r) ← twoDigits? 0 59 (← mark? ':' r)
  let (micro, r) := micro r
  return (⟨hour, minute, second, micro, none⟩, r)

-- The offset from universal time, in minutes.
def offset? (s : Rest) : Option (Int × Rest) :=
  let span (r : Rest) : Option (Int × Rest) := do
    let (hours, r) ← twoDigits? 0 23 r
    let (minutes, r) ← twoDigits? 0 59 (← mark? ':' r)
    return (Int.ofNat (hours * 60 + minutes), r)
  match s with
  | 'Z' :: r | 'z' :: r => some (0, r)
  | '+' :: r => span r
  | '-' :: r => (span r).map fun (n, r) => (-n, r)
  | _ => none

-- The time of day that follows a date.
def clockAfterDate? (s : Rest) : Option (Clock × Rest) :=
  match s with
  | c :: r =>
    if c == 'T' || c == 't' || c == ' ' then
      (clock? r).map fun (clock, r) =>
        match offset? r with
        | some (o, r) => ({ clock with offset := some o }, r)
        | none => (clock, r)
    else none
  | [] => none

-- A date, or a moment where a time of day follows. It has to be in the calendar.
def moment? (s : Rest) : Option (Read (Datum × Rest)) := do
  let (date, r) ← date? s
  some <|
    match date.check with
    | .error _ => malformed
    | .ok date =>
      match clockAfterDate? r with
      | some (clock, r) => .ok (.moment date clock, r)
      | none => .ok (.date date, r)

end Refit.Toml
