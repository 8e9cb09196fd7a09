import Refit.Datum.Basic
import Refit.Number.Literal

/-!
Reading JSON. Entries keep their order, and of two entries with one key the later value counts.
-/

namespace Refit.Json

abbrev Rest := List Char

def skipBlank (s : Rest) : Rest :=
  s.dropWhile fun c => c == ' ' || c == '\n' || c == '\t' || c == '\r'

def unit? (s : Rest) : Option (Nat × Rest) := do
  let ds := s.take 4
  if ds.length == 4 then
    let vs ← ds.mapM Letter.hexValue?
    return (Number.Literal.ofDigits 16 vs, s.drop 4)
  else none

-- The characters of a text up to its closing quote.
def chars : Nat → Rest → List Char → Option (List Char × Rest)
  | 0, _, _ => none
  | _ + 1, [], _ => none
  | _ + 1, '"' :: r, acc => some (acc.reverse, r)
  | n + 1, '\\' :: c :: r, acc =>
    if c == 'u' then
      match unit? r with
      | none => none
      | some (hi, r) =>
        if 0xD800 ≤ hi && hi < 0xDC00 then
          match r with
          | '\\' :: 'u' :: r' =>
            match unit? r' with
            | some (lo, r'') =>
              if 0xDC00 ≤ lo && lo < 0xE000 then
                chars n r'' (Char.ofNat (0x10000 + (hi - 0xD800) * 0x400 + (lo - 0xDC00)) :: acc)
              else chars n r (Char.ofNat 0xFFFD :: acc)
            | none => none
          | _ => chars n r (Char.ofNat 0xFFFD :: acc)
        else if 0xDC00 ≤ hi && hi < 0xE000 then chars n r (Char.ofNat 0xFFFD :: acc)
        else chars n r (Char.ofNat hi :: acc)
    else
      match [('"', '"'), ('\\', '\\'), ('/', '/'), ('b', '\x08'), ('f', '\x0c'), ('n', '\n'),
          ('r', '\r'), ('t', '\t')].lookup c with
      | some x => chars n r (x :: acc)
      | none => none
  | n + 1, c :: r, acc => chars n r (c :: acc)

def number? (s : Rest) : Option (Datum × Rest) :=
  let isPart (c : Char) : Bool :=
    Letter.isAsciiDigit c || c == '-' || c == '+' || c == '.' || c == 'e' || c == 'E'
  let body := s.takeWhile isPart
  let rest := s.dropWhile isPart
  let t := String.ofList body
  if body.any fun c => c == '.' || c == 'e' || c == 'E' then
    (Number.Literal.float? t).map fun x => (.float x, rest)
  else
    let (negative, ds) := Number.Literal.sign body
    (Number.Literal.digits? ds).map fun vs =>
      let n := Int.ofNat (Number.Literal.ofDigits 10 vs)
      (.int (if negative then -n else n), rest)

def word? (s : Rest) (w : String) (d : Datum) : Option (Datum × Rest) :=
  if w.toList.isPrefixOf s then some (d, s.drop w.toList.length) else none

mutual

def value : Nat → Rest → Option (Datum × Rest)
  | 0, _ => none
  | n + 1, s =>
    match skipBlank s with
    | '"' :: r => (chars (n + 1) r []).map fun p => (.text (String.ofList p.1), p.2)
    | '[' :: r =>
      match skipBlank r with
      | ']' :: r => some (.list [], r)
      | r => (items n r).map fun p => (.list p.1, p.2)
    | '\x7b' :: r =>
      match skipBlank r with
      | '\x7d' :: r => some (.dict [], r)
      | r => (members n r []).map fun p => (.dict p.1, p.2)
    | r =>
      word? r "true" (.bool true) <|> word? r "false" (.bool false) <|> word? r "null" .null
        <|> word? r "NaN" (.float (0.0 / 0.0)) <|> word? r "Infinity" (.float (1.0 / 0.0))
        <|> word? r "-Infinity" (.float (-(1.0 / 0.0))) <|> number? r

def items : Nat → Rest → Option (List Datum × Rest)
  | 0, _ => none
  | n + 1, s => do
    let (x, r) ← value n s
    match skipBlank r with
    | ',' :: r =>
      let (xs, r) ← items n r
      some (x :: xs, r)
    | ']' :: r => some ([x], r)
    | _ => none

def members : Nat → Rest → Dict → Option (Dict × Rest)
  | 0, _, _ => none
  | n + 1, s, acc => do
    match skipBlank s with
    | '"' :: r =>
      let (k, r) ← chars (n + 1) r []
      match skipBlank r with
      | ':' :: r =>
        let (v, r) ← value n r
        let acc := Dict.set acc (String.ofList k) v
        match skipBlank r with
        | ',' :: r => members n r acc
        | '\x7d' :: r => some (acc, r)
        | _ => none
      | _ => none
    | _ => none

end

-- The value of a text.
def read? (s : String) : Option Datum := do
  let cs := s.toList
  let (d, r) ← value (cs.length + 1) cs
  if (skipBlank r).isEmpty then some d else none

end Refit.Json
