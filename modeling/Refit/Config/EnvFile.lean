import Refit.Session.Basic
import Refit.Text.Pattern

/-!
Files that give variables of the environment values, one line for each.

A line that breaks the format is skipped. A value may name other variables, and a variable that the
environment has already keeps its value.
-/

namespace Refit

namespace EnvFile

abbrev Rest := List Char

-- A name, with the value that a line gives it. A name may stand alone.
structure Binding where
  name : String
  value : Option String
  deriving DecidableEq, Repr

/-! Lines -/

def isLineEnd (c : Char) : Bool :=
  c == '\n' || c == '\r'

-- White space within a line.
def isGap (c : Char) : Bool :=
  Letter.isBlank c && !isLineEnd c

def skipGap (s : Rest) : Rest :=
  s.dropWhile isGap

-- The end of a line, or of the text.
def lineEnd? (s : Rest) : Option Rest :=
  match skipGap s with
  | [] => some []
  | '\r' :: '\n' :: r => some r
  | c :: r => if isLineEnd c then some r else none

def skipComment (s : Rest) : Rest :=
  match skipGap s with
  | '#' :: r => r.dropWhile fun c => !isLineEnd c
  | _ => s

-- What follows the line.
def skipLine (s : Rest) : Rest :=
  match s.dropWhile fun c => !isLineEnd c with
  | _ :: r => r
  | [] => []

def skipExport (s : Rest) : Rest :=
  let word := "export".toList
  if word.isPrefixOf s then
    let r := s.drop word.length
    if (r.takeWhile isGap).isEmpty then s else skipGap r
  else s

/-! Values -/

open Pattern in
-- A text in quotes. A backslash keeps the quote after it from ending the text, unless no other
-- quote does, and takes a backslash after it along.
def quotedText (q : Char) : Pattern :=
  char q ++ group 1 (star ((char '\\' ++ oneOf (String.ofList ['\\', q])) <|> one (· != q)))
    ++ char q

-- Replaces escapes by what they stand for.
def unescape (known : List (Char × Char)) : List Char → List Char
  | '\\' :: c :: r =>
    match known.lookup c with
    | some x => x :: unescape known r
    | none => '\\' :: unescape known (c :: r)
  | c :: r => c :: unescape known r
  | [] => []

def singleEscapes : List (Char × Char) :=
  [('\\', '\\'), ('\'', '\'')]

def doubleEscapes : List (Char × Char) :=
  singleEscapes ++ [('"', '"'), ('a', '\x07'), ('b', '\x08'), ('f', '\x0c'), ('n', '\n'),
    ('r', '\r'), ('t', '\t'), ('v', '\x0b')]

def quoted? (q : Char) (known : List (Char × Char)) (s : Rest) : Option (String × Rest) :=
  ((quotedText q).matchAt? (.start s)).map fun m =>
    (String.ofList (unescape known (m.group 1).toList), m.stop.rest)

-- A text up to the blanks before a comment.
def withoutComment : List Char → List Char
  | [] => []
  | c :: r =>
    if Letter.isBlank c && (r.dropWhile Letter.isBlank).head? == some '#' then []
    else c :: withoutComment r

def plain (s : Rest) : String × Rest :=
  let body := s.takeWhile fun c => !isLineEnd c
  ((String.ofList (withoutComment body)).strippedRight, s.dropWhile fun c => !isLineEnd c)

-- The value after the sign of equality. A comment may follow the blanks there, and then the value
-- is empty.
def value? (s : Rest) : Option (String × Rest) :=
  match skipGap s with
  | '\'' :: r => quoted? '\'' singleEscapes ('\'' :: r)
  | '"' :: r => quoted? '"' doubleEscapes ('"' :: r)
  | r => if r.head? == some '#' && s.head?.any isGap then some ("", r) else some (plain r)

/-! Bindings -/

def isNameChar (c : Char) : Bool :=
  c != '=' && c != '#' && !Letter.isBlank c

-- The name at the start of a line. A comment has none.
def name? (s : Rest) : Except Rest (Option String × Rest) :=
  match s with
  | '#' :: _ => .ok (none, s)
  | '\'' :: r =>
    let cs := r.takeWhile (· != '\'')
    match cs, r.dropWhile (· != '\'') with
    | _ :: _, _ :: r => .ok (some (String.ofList cs), r)
    | _, _ => .error s
  | s =>
    let cs := s.takeWhile isNameChar
    if cs.isEmpty then .error s else .ok (some (String.ofList cs), s.dropWhile isNameChar)

-- The binding of a line and what follows the line, or where the line broke the format.
def binding (s : Rest) : Except Rest (Option Binding × Rest) := do
  let (name, r) ← name? (skipExport s)
  let r := skipGap r
  let (value, r) ←
    match r with
    | '=' :: r =>
      match value? r with
      | some (v, r) => pure (some v, r)
      | none => .error (skipGap r)
    | r => pure (none, r)
  let r := skipComment r
  match lineEnd? r with
  | some r => return (name.map (⟨·, value⟩), r)
  | none => .error r

-- The number bounds the lines.
def bindingsFrom : Nat → Rest → List Binding
  | 0, _ => []
  | n + 1, s =>
    match s.dropWhile Letter.isBlank with
    | [] => []
    | s =>
      match binding s with
      | .ok (b, r) => b.toList ++ bindingsFrom n r
      | .error r => bindingsFrom n (skipLine r)

-- The bindings of a text. A byte order mark in front is no part of it.
def bindings (s : String) : List Binding :=
  let cs := s.toList
  let cs := if cs.head?.any (·.toNat == 0xFEFF) then cs.tail else cs
  bindingsFrom cs.length cs

/-! Variables in values -/

open Pattern in
-- A variable in a value, with the text that stands in when it has no value.
def reference : Pattern :=
  lit "$\x7b" ++ group 1 (star (noneOf "\x7d:"))
    ++ opt (lit ":-" ++ group 2 (star (noneOf "\x7d"))) ++ char '\x7d'

abbrev Values := List (String × Option String)

-- The value of a variable: from the environment, or else from the lines before.
def valueOf (environment : List (String × String)) (seen : Values) (m : Pattern.Match) : String :=
  match environment.lookup (m.group 1) with
  | some v => v
  | none =>
    match seen.lookup (m.group 1) with
    | some v => v.getD ""
    | none => m.group 2

def setValue (seen : Values) (name : String) (v : Option String) : Values :=
  if seen.any (·.1 == name) then seen.map fun e => if e.1 == name then (name, v) else e
  else seen ++ [(name, v)]

-- The values that lines give, each variable in them replaced.
def values (environment : List (String × String)) (bs : List Binding) : Values :=
  bs.foldl (fun seen b =>
    setValue seen b.name
      (b.value.map (reference.replaceAll fun m => (valueOf environment seen m).toList))) []

end EnvFile

-- What keeps a variable from being set.
def Session.variableTrouble? (name value : String) : Option Stop :=
  if (name ++ value).toList.contains '\x00' then some .nullInPath
  else if name.toList.contains '=' then some (.badVariable name)
  else none

namespace Action

def setVariable (name value : String) : Action Unit := do
  match Session.variableTrouble? name value with
  | some s => throw s
  | none => modify fun s => s.setVariable name value

-- Sets the variables that the environment does not have.
def setMissing : EnvFile.Values → Action Unit
  | [] => return
  | (_, none) :: r => setMissing r
  | (name, some v) :: r => do
    if ((← get).valueOf? name).isNone then setVariable name v
    setMissing r

-- The variable that keeps files from giving variables.
def disablingVariable : String :=
  "PYTHON_DOTENV_DISABLED"

-- The long s folds to the ordinary one.
def isDisabling (value : String) : Bool :=
  ["1", "true", "t", "yes", "y"].contains ((value.replacing "ſ" "s").lowered)

-- Takes the variables of a file over into the environment, unless that is disabled.
def loadVariables (l : Location) : Action Unit := do
  if ((← get).valueOf? disablingVariable).any isDisabling then return
  let text ← readText l
  setMissing (EnvFile.values (← get).environment (EnvFile.bindings text))

end Action

end Refit
