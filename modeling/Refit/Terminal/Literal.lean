import Refit.Text.Basic

/-!
The literals that may stand in the parameters of an action: numbers, texts, bytes, the three
constants, and tuples, sets and mappings of literals.

Only whether a text is a literal counts, so no value is built. A set or a mapping cannot be a key.
-/

namespace Refit.Markup.Literal

-- What counts of a literal where it is part of another one.
inductive Kind where
  | real
  | imaginary
  | signedReal
  | signedImaginary
  | key
  | noKey
  deriving DecidableEq, Repr

-- A part that was read, and what follows it.
abbrev Reader (α : Type) := List Char → Option (α × List Char)

def skipGap (inside : Bool) (s : List Char) : List Char :=
  s.dropWhile fun c => c == ' ' || c == '\t' || c == '\x0c' || (inside && c == '\n')

/-! Numbers -/

-- Digits go on behind a single underscore.
def moreDigits (p : Char → Bool) : List Char → List Char
  | '_' :: c :: r => if p c then moreDigits p r else '_' :: c :: r
  | c :: r => if p c then moreDigits p r else c :: r
  | [] => []

def digits? (p : Char → Bool) : List Char → Option (List Char)
  | c :: r => if p c then some (moreDigits p r) else none
  | [] => none

def ended : Reader Kind → Reader Kind := fun read s => do
  let (a, r) ← read s
  if r.head?.any Letter.isWord then none else some (a, r)

def inBase (p : Char → Bool) : Reader Kind := fun s => do
  return (.real, ← digits? p s)

def exponent (s : List Char) : Option (List Char) :=
  match s with
  | e :: r =>
    if e == 'e' || e == 'E' then
      match r with
      | c :: t =>
        if c == '+' || c == '-' then digits? Letter.isAsciiDigit t
        else digits? Letter.isAsciiDigit (c :: t)
      | [] => none
    else none
  | [] => none

-- A decimal number. Without a fraction and an exponent it does not begin with a needless zero.
def decimal : Reader Kind := fun s => do
  let whole := (digits? Letter.isAsciiDigit s).getD s
  let (fraction, r) :=
    match whole with
    | '.' :: r => (true, (digits? Letter.isAsciiDigit r).getD r)
    | r => (false, r)
  if fraction && whole.length == s.length && r.length + 1 == s.length then none
  if !fraction && whole.length == s.length then none
  let (powered, r) :=
    match exponent r with
    | some t => (true, t)
    | none => (false, r)
  match r with
  | 'j' :: t | 'J' :: t => return (.imaginary, t)
  | _ =>
    let own := s.take (s.length - r.length)
    if !fraction && !powered && own.head? == some '0' && own.any fun c => c != '0' && c != '_' then
      none
    else return (.real, r)

def number : Reader Kind := ended fun s =>
  match s with
  | '0' :: c :: r =>
    if c == 'x' || c == 'X' then inBase Letter.isHex (r.drop (if r.head? == some '_' then 1 else 0))
    else if c == 'o' || c == 'O' then
      inBase (fun d => '0' ≤ d && d ≤ '7') (r.drop (if r.head? == some '_' then 1 else 0))
    else if c == 'b' || c == 'B' then
      inBase (fun d => d == '0' || d == '1') (r.drop (if r.head? == some '_' then 1 else 0))
    else decimal s
  | _ => decimal s

/-! Texts -/

-- How the inside of quotes is read.
structure Quotes where
  raw : Bool
  bytes : Bool
  quote : Char
  triple : Bool

def hexNumber? (n : Nat) (s : List Char) : Option Nat :=
  let ds := s.take n
  if ds.length == n && ds.all Letter.isHex then
    some (ds.foldl (fun m c => m * 16 + (Letter.hexValue? c).getD 0) 0)
  else none

-- Whether an escape is complete. Names of characters are not known.
def isEscape (q : Quotes) (s : List Char) : Bool :=
  match s with
  | [] => false
  | c :: r =>
    q.raw
      || if c == 'x' then (hexNumber? 2 r).isSome
        else if q.bytes then true
        else if c == 'u' then (hexNumber? 4 r).isSome
        else if c == 'U' then (hexNumber? 8 r).any (· ≤ 0x10FFFF)
        else c != 'N'

-- What follows the closing quotes.
def afterQuotes (q : Quotes) : List Char → Option (List Char)
  | [] => none
  | '\\' :: c :: r => if isEscape q (c :: r) then afterQuotes q r else none
  | c :: r =>
    if c == '\\' then none
    else if c == q.quote then
      if !q.triple then some r
      else if r.take 2 == [q.quote, q.quote] then some (r.drop 2)
      else afterQuotes q r
    else if (c == '\n' && !q.triple) || (q.bytes && 127 < c.toNat) then none
    else afterQuotes q r

-- A text in quotes, and whether it is bytes.
def quoted : Reader Bool := fun s => do
  let start := s.takeWhile fun c => Letter.isAsciiLower c || Letter.isAsciiUpper c
  let kind := (String.ofList start).lowered
  let known := ["", "r", "u", "b", "rb", "br"].contains kind
  match s.drop start.length with
  | c :: r =>
    if !known || (c != '\'' && c != '"') then none
    else
      let triple := r.take 2 == [c, c]
      let q : Quotes := ⟨kind.holds "r", kind.holds "b", c, triple⟩
      return (q.bytes, ← afterQuotes q (if triple then r.drop 2 else r))
  | [] => none

-- Texts that follow each other are one, and all or none of them are bytes.
def moreQuoted (inside bytes : Bool) : Nat → Reader Unit
  | 0, s => some ((), s)
  | n + 1, s =>
    match quoted (skipGap inside s) with
    | none => some ((), s)
    | some (b, r) => if b == bytes then moreQuoted inside bytes n r else none

def texts (inside : Bool) : Reader Kind := fun s => do
  let (bytes, r) ← quoted s
  let (_, r) ← moreQuoted inside bytes s.length r
  return (.key, r)

/-! Names -/

def named : Reader Kind := fun s => do
  let word := s.takeWhile Letter.isWord
  let rest := s.drop word.length
  if ["True", "False", "None"].contains (String.ofList word) then return (.key, rest)
  else if word == "set".toList then
    match skipGap false rest with
    | '(' :: r =>
      match skipGap true r with
      | ')' :: r => return (.noKey, r)
      | _ => none
    | _ => none
  else none

/-! Collections and sums -/

def sign? : Kind → Option Kind
  | .real => some .signedReal
  | .imaginary => some .signedImaginary
  | _ => none

def ofParts (parts : List Kind) : Kind :=
  if parts.contains .noKey then .noKey else .key

mutual

def atom (inside : Bool) : Nat → Reader Kind
  | 0, _ => none
  | n + 1, s =>
    match s with
    | '(' :: r => do
      let (parts, comma, r) ← sequence ')' n (skipGap true r)
      match parts, comma with
      | [part], false => return (part, r)
      | parts, _ => return (ofParts parts, r)
    | '\x7b' :: r =>
      match skipGap true r with
      | '\x7d' :: r => some (.noKey, r)
      | r => do
        let (first, t) ← whole true n r
        match skipGap true t with
        | ':' :: _ => return (.noKey, ← entries n r)
        | _ =>
          if first == .noKey then none
          let (parts, _, r) ← sequence '\x7d' n r
          if parts.contains .noKey then none else return (.noKey, r)
    | '.' :: '.' :: '.' :: r => some (.key, r)
    | s => number s <|> texts inside s <|> named s

-- A literal, or a sum of a real and an imaginary number.
def whole (inside : Bool) : Nat → Reader Kind
  | 0, _ => none
  | n + 1, s => do
    let (first, r) ←
      match s with
      | '-' :: r | '+' :: r => do
        let (a, r) ← atom inside n (skipGap inside r)
        return (← sign? a, r)
      | s => atom inside n s
    match skipGap inside r with
    | '-' :: t | '+' :: t => do
      let (second, t) ← atom inside n (skipGap inside t)
      if (first == .real || first == .signedReal) && second == .imaginary then return (.key, t)
      else none
    | _ => return (first, r)

-- The parts up to a closing sign, whether a comma stands behind one of them, and what follows.
def sequence (close : Char) : Nat → List Char → Option (List Kind × Bool × List Char)
  | 0, _ => none
  | n + 1, s =>
    match s with
    | [] => none
    | c :: r =>
      if c == close then some ([], false, r)
      else do
        let (part, r) ← whole true n s
        match skipGap true r with
        | ',' :: r => do
          let (parts, _, r) ← sequence close n (skipGap true r)
          return (part :: parts, true, r)
        | c :: r => if c == close then return ([part], false, r) else none
        | [] => none

-- What follows the entries of a mapping.
def entries : Nat → List Char → Option (List Char)
  | 0, _ => none
  | n + 1, s =>
    match s with
    | '\x7d' :: r => some r
    | s => do
      let (first, r) ← whole true n s
      if first == .noKey then none
      match skipGap true r with
      | ':' :: r => do
        let (_, r) ← whole true n (skipGap true r)
        match skipGap true r with
        | ',' :: r => entries n (skipGap true r)
        | '\x7d' :: r => some r
        | _ => none
      | _ => none

end

-- Literals with commas between them make a tuple also without brackets.
def row : Nat → List Char → Bool
  | 0, _ => false
  | n + 1, s =>
    match whole false (2 * s.length + 2) s with
    | none => false
    | some (_, r) =>
      match skipGap false r with
      | [] => true
      | ',' :: r =>
        let r := skipGap false r
        r.isEmpty || row n r
      | _ => false

-- Whether a text is a literal.
def accepts (s : List Char) : Bool :=
  row (s.length + 1) (skipGap false s)

-- What keeps a text from being an expression, given the brackets that are open, the latest first,
-- and the quote that has begun a text.
def flawFrom : List Char → Option Char → List Char → String
  | _, some _, [] => "unterminated string literal (detected at line 1)"
  | o :: _, none, [] => "'" ++ String.singleton o ++ "' was never closed"
  | [], none, [] => "invalid syntax"
  | opened, some q, '\\' :: _ :: r => flawFrom opened (some q) r
  | opened, some q, c :: r => flawFrom opened (if c == q then none else some q) r
  | opened, none, c :: r =>
    if c == '\'' || c == '"' then flawFrom opened (some c) r
    else if c == '(' || c == '\x7b' then flawFrom (c :: opened) none r
    else if c == ')' || c == '\x7d' then
      match opened with
      | [] => "unmatched '" ++ String.singleton c ++ "'"
      | o :: opened =>
        if (o == '(') == (c == ')') then flawFrom opened none r
        else
          "closing parenthesis '" ++ String.singleton c
            ++ "' does not match opening parenthesis '" ++ String.singleton o ++ "'"
    else flawFrom opened none r

-- What keeps a text from being an expression.
def flaw (s : List Char) : String :=
  flawFrom [] none s

-- The part of the parameters of an action that has to be a literal: the brackets behind a name,
-- if there are any, or all of it if it is no name.
def literalPart (s : List Char) : List Char :=
  let s := Text.trim Letter.isBlank s
  let name := s.takeWhile fun c => Letter.isWord c || c == '.'
  match s.drop name.length with
  | [] => ['(', ')']
  | '(' :: r => if r.getLast? == some ')' && !r.contains '\n' then '(' :: r else s
  | _ => s

end Refit.Markup.Literal
