import Refit.Text.Basic

/-!
The parts of a TOML document that are text: blanks, comments, keys and strings.

A reader takes what is left of the document and returns what is left after it.
-/

namespace Refit.Toml

-- Why a document cannot be read: it breaks a rule of the format, or it holds an integer that is
-- longer or a value that is nested more deeply than any that is read.
inductive Refusal where
  | malformed
  | longInteger (digits : Nat)
  | tooDeep
  deriving DecidableEq, Repr

abbrev Rest := List Char

abbrev Read := Except Refusal

def malformed {α : Type} : Read α :=
  .error .malformed

/-! Characters -/

def isBlank (c : Char) : Bool :=
  c == ' ' || c == '\t'

def isSpace (c : Char) : Bool :=
  isBlank c || c == '\n'

-- Control characters stand in no string and no comment. A tab is no control character.
def isControl (c : Char) : Bool :=
  (c < ' ' && c != '\t') || c == '\x7f'

def isBareKey (c : Char) : Bool :=
  Letter.isAsciiUpper c || Letter.isAsciiLower c || Letter.isAsciiDigit c || c == '-' || c == '_'

/-! Blanks and comments -/

def skipBlank (s : Rest) : Rest :=
  s.dropWhile isBlank

def comment (s : Rest) : Read Rest :=
  match s with
  | '#' :: r =>
    if (r.takeWhile (· != '\n')).any isControl then malformed else .ok (r.dropWhile (· != '\n'))
  | s => .ok s

-- Skips white space and comments. The number bounds the comments.
def skipLinesFrom : Nat → Rest → Except Refusal Rest
  | 0, s => .ok s
  | n + 1, s =>
    match s.dropWhile isSpace with
    | '#' :: r => do skipLinesFrom n (← comment ('#' :: r))
    | r => .ok r

def skipLines (s : Rest) : Read Rest :=
  skipLinesFrom s.length s

/-! Strings -/

-- The character with a number in hexadecimal digits.
def numbered (width : Nat) (s : Rest) : Read (Char × Rest) :=
  let ds := s.take width
  match ds.mapM Letter.hexValue? with
  | some vs =>
    let n := vs.foldl (fun n d => n * 16 + d) 0
    if vs.length == width && n.isValidChar then .ok (Char.ofNat n, s.drop width) else malformed
  | none => malformed

def named : List (Char × Char) :=
  [('b', '\x08'), ('t', '\t'), ('n', '\n'), ('f', '\x0c'), ('r', '\r'), ('"', '"'), ('\\', '\\')]

-- The character that stands for an escape, after its backslash.
def escape (s : Rest) : Read (Char × Rest) :=
  match s with
  | 'u' :: r => numbered 4 r
  | 'U' :: r => numbered 8 r
  | c :: r =>
    match named.lookup c with
    | some x => .ok (x, r)
    | none => malformed
  | [] => malformed

-- A string up to its closing quote. The number bounds the characters.
def basic : Nat → Rest → List Char → Read (List Char × Rest)
  | 0, _, _ => malformed
  | _ + 1, [], _ => malformed
  | _ + 1, '"' :: r, acc => .ok (acc.reverse, r)
  | n + 1, '\\' :: r, acc => do
    let (c, r) ← escape r
    basic n r (c :: acc)
  | n + 1, c :: r, acc => if isControl c then malformed else basic n r (c :: acc)

-- Up to two quotes after the closing three belong to the string.
def lastQuotes (q : Char) (s : List Char) (r : Rest) : List Char × Rest :=
  if [q, q].isPrefixOf r then (s ++ [q, q], r.drop 2)
  else if [q].isPrefixOf r then (s ++ [q], r.drop 1)
  else (s, r)

-- The end of a line after a backslash, with the white space around it.
def joinLines? (s : Rest) : Option Rest :=
  match s with
  | c :: r =>
    if isSpace c then
      match skipBlank (c :: r) with
      | [] => some []
      | '\n' :: r => some (r.dropWhile isSpace)
      | _ => none
    else none
  | [] => none

-- A string over several lines, up to its closing quotes.
def basicLines : Nat → Rest → List Char → Read (List Char × Rest)
  | 0, _, _ => malformed
  | _ + 1, [], _ => malformed
  | _ + 1, '"' :: '"' :: '"' :: r, acc => .ok (lastQuotes '"' acc.reverse r)
  | n + 1, '\\' :: r, acc =>
    match joinLines? r with
    | some r => basicLines n r acc
    | none => do
      let (c, r) ← escape r
      basicLines n r (c :: acc)
  | n + 1, c :: r, acc =>
    if isControl c && c != '\n' then malformed else basicLines n r (c :: acc)

-- A string without escapes.
def literal (s : Rest) : Read (List Char × Rest) :=
  let body := s.takeWhile (· != '\'')
  match s.dropWhile (· != '\'') with
  | _ :: r => if body.any isControl then malformed else .ok (body, r)
  | [] => malformed

def literalLines (s : Rest) : Read (List Char × Rest) :=
  let quotes := ['\'', '\'', '\'']
  match Text.find? quotes s with
  | some r =>
    let body := Text.before quotes s
    if body.any fun c => isControl c && c != '\n' then malformed
    else .ok (lastQuotes '\'' body (r.drop 3))
  | none => malformed

-- A line end right after the opening quotes is no part of the string.
def afterQuotes (s : Rest) : Rest :=
  match s with
  | '\n' :: r => r
  | s => s

def text? (s : Rest) : Option (Read (String × Rest)) :=
  let made (r : Read (List Char × Rest)) : Read (String × Rest) :=
    r.map fun (cs, r) => (String.ofList cs, r)
  match s with
  | '"' :: '"' :: '"' :: r => some (made (basicLines (r.length + 1) (afterQuotes r) []))
  | '"' :: r => some (made (basic (r.length + 1) r []))
  | '\'' :: '\'' :: '\'' :: r => some (made (literalLines (afterQuotes r)))
  | '\'' :: r => some (made (literal r))
  | _ => none

/-! Keys -/

def keyPart (s : Rest) : Read (String × Rest) :=
  match s with
  | '"' :: r => (basic (r.length + 1) r []).map fun (cs, r) => (String.ofList cs, r)
  | '\'' :: r => (literal r).map fun (cs, r) => (String.ofList cs, r)
  | s =>
    let cs := s.takeWhile isBareKey
    if cs.isEmpty then malformed else .ok (String.ofList cs, s.dropWhile isBareKey)

-- The number bounds the parts.
def keyFrom : Nat → Rest → Read (List String × Rest)
  | 0, _ => malformed
  | n + 1, s => do
    let (k, r) ← keyPart s
    match skipBlank r with
    | '.' :: r =>
      let (ks, r) ← keyFrom n (skipBlank r)
      return (k :: ks, r)
    | r => return ([k], r)

-- A key: names with dots between them.
def key (s : Rest) : Read (List String × Rest) :=
  keyFrom (s.length + 1) s

end Refit.Toml
