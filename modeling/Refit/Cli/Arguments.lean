import Refit.Datum.Fault
import Refit.Text.Basic

/-!
The words of a command line.

A word that begins with a dash is an option. Two dashes alone end the options, and a single dash is
an ordinary word. Short options may share a word, the last of them with its value in it.
-/

namespace Refit.Cli

-- What an option takes.
inductive Kind where
  -- Nothing; it sets a truth value.
  | switch (value : Bool)
  | word
  -- A word each time it is given.
  | words
  | number
  deriving DecidableEq

structure Flag where
  key : String
  names : List String
  kind : Kind

-- The command line that a command takes. A position without a default has to be given.
structure Grammar where
  flags : List Flag
  positions : List (String × Option String) := []
  -- Whether options may follow the first ordinary word.
  mixed : Bool := true

-- Why a command line is refused, or that only help is asked for.
inductive Refusal where
  | usage
  | help
  deriving DecidableEq

-- The options given, by key, and the ordinary words.
structure Line where
  given : Dict := []
  words : List String := []

namespace Line

-- Notes an option. Of several words for one option the last counts, unless all do.
def note (l : Line) (f : Flag) (value : String) : Line :=
  match f.kind with
  | .switch b => { l with given := l.given.set f.key (.bool b) }
  | .word | .number => { l with given := l.given.set f.key (.text value) }
  | .words =>
    let earlier := match l.given.get f.key (.list []) with
      | .list xs => xs
      | _ => []
    { l with given := l.given.set f.key (.list (earlier ++ [.text value])) }

def takesValue (f : Flag) : Bool :=
  match f.kind with
  | .switch _ => false
  | _ => true

end Line

namespace Grammar

-- Every command line may ask for help.
def help : Flag :=
  ⟨"help", ["--help"], .switch true⟩

def flag? (g : Grammar) (name : String) : Option Flag :=
  (help :: g.flags).find? fun f => f.names.contains name

def isLong (name : String) : Bool :=
  name.beginsWith "--"

def isOption (w : String) : Bool :=
  w.beginsWith "-" && w.length > 1

-- The part before the first sign of equality, and the part after it.
def splitValue (w : String) : String × Option String :=
  let cs := w.toList
  match cs.dropWhile (· != '=') with
  | _ :: v => (String.ofList (cs.takeWhile (· != '=')), some (String.ofList v))
  | [] => (w, none)

-- Notes a flag that may take the next word.
def take (f : Flag) (l : Line) (rest : List String) : Except Refusal (Line × List String) :=
  if Line.takesValue f then
    match rest with
    | [] => .error .usage
    | v :: rest => .ok (l.note f v, rest)
  else .ok (l.note f "", rest)

-- A long option, its value in the same word or the next.
def long (g : Grammar) (w : String) (l : Line) (rest : List String) :
    Except Refusal (Line × List String) :=
  let (name, value) := splitValue w
  match g.flag? name, value with
  | none, _ => .error .usage
  | some f, none => take f l rest
  | some f, some v => if Line.takesValue f then take f l (v :: rest) else .error .usage

-- Short options in one word.
def short (g : Grammar) : List Char → Line → List String → Except Refusal (Line × List String)
  | [], l, rest => .ok (l, rest)
  | c :: cs, l, rest =>
    match g.flag? (String.ofList ['-', c]) with
    | none => .error .usage
    | some f =>
      if Line.takesValue f then
        take f l (if cs.isEmpty then rest else String.ofList cs :: rest)
      else do
        let (l, rest) ← take f l rest
        short g cs l rest

-- Reads words. The number bounds them.
def readFrom (g : Grammar) : Nat → Line → List String → Except Refusal Line
  | 0, l, _ => .ok l
  | _, l, [] => .ok l
  | n + 1, l, w :: rest =>
    if w == "--" then .ok { l with words := l.words ++ rest }
    else if isOption w then do
      let (l, rest) ← if isLong w then g.long w l rest else g.short (w.toList.drop 1) l rest
      readFrom g n l rest
    else if g.mixed then readFrom g n { l with words := l.words ++ [w] } rest
    else .ok { l with words := l.words ++ w :: rest }

-- Puts words into positions.
def fill : List (String × Option String) → List String → Dict → Except Refusal Dict
  | [], [], given => .ok given
  | [], _ :: _, _ => .error .usage
  | (_, none) :: _, [], _ => .error .usage
  | (key, some fallback) :: ps, [], given => fill ps [] (given.set key (.text fallback))
  | (key, _) :: ps, w :: ws, given => fill ps ws (given.set key (.text w))

def read (g : Grammar) (ws : List String) : Except Refusal Line := do
  let l ← g.readFrom (2 * ws.length + 1) {} ws
  if l.given.has help.key then .error .help else return l

-- Reads the numbers among the options.
def numbers (given : Dict) (f : Flag) : Except Refusal Dict :=
  match f.kind, given.get f.key with
  | .number, .text value =>
    match Number.Literal.whole? value with
    | some i => .ok (given.set f.key (.int i))
    | none => .error .usage
  | _, _ => .ok given

-- The options and positions of a command line. A word that asks for help is heard even where
-- others are wrong.
def parse (g : Grammar) (ws : List String) : Except Refusal Dict := do
  let l ← g.read ws
  fill g.positions l.words (← g.flags.foldlM numbers l.given)

end Grammar

end Refit.Cli
