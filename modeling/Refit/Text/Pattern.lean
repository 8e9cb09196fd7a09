import Refit.Text.Basic

/-!
Search patterns over text.

A pattern is tried at a spot of a text. It has a first choice there, and where what follows cannot
go on, its next choice: the left alternative before the right one, and one more repetition before
none, or none before one more when the repetition is reluctant. `Pattern.run` hands each choice to
the continuation in that order and stops at the first success.
-/

namespace Refit

-- A place in a text: the character before it, if any, and the text from it on.
structure Spot where
  last : Option Char
  rest : List Char
  deriving Repr

namespace Spot

def start (s : List Char) : Spot :=
  ⟨none, s⟩

-- The text between a spot and a later one.
def upTo (s t : Spot) : List Char :=
  s.rest.take (s.rest.length - t.rest.length)

def atLineStart (s : Spot) : Bool :=
  s.last.all (· == '\n')

def atEnd (s : Spot) : Bool :=
  s.rest.isEmpty || s.rest == ['\n']

-- One side is part of a name and the other is not.
def atWordEdge (s : Spot) : Bool :=
  s.last.any Letter.isWord != s.rest.head?.any Letter.isWord

end Spot

inductive Pattern where
  | nothing
  | one (p : Char → Bool)
  | look (p : Spot → Bool)
  | both (a b : Pattern)
  | either (a b : Pattern)
  | many (least : Nat) (most : Option Nat) (eager : Bool) (a : Pattern)
  | group (n : Nat) (a : Pattern)

namespace Pattern

-- A spot reached, with the texts of the groups passed on the way, the latest first.
structure State where
  spot : Spot
  groups : List (Nat × List Char)

variable {β : Type}

-- At most `n` more repetitions of `step`.
def upTo (step : State → (State → Option β) → Option β) (eager : Bool) (k : State → Option β) :
    Nat → State → Option β
  | 0, s => k s
  | n + 1, s =>
    if eager then step s (upTo step eager k n) <|> k s
    else k s <|> step s (upTo step eager k n)

-- Exactly `n` repetitions of `step`.
def times (step : State → (State → Option β) → Option β) (k : State → Option β) :
    Nat → State → Option β
  | 0, s => k s
  | n + 1, s => step s (times step k n)

def run : Pattern → State → (State → Option β) → Option β
  | nothing, s, k => k s
  | one p, s, k =>
    match s.spot.rest with
    | [] => none
    | c :: r => if p c then k { s with spot := ⟨some c, r⟩ } else none
  | look p, s, k => if p s.spot then k s else none
  | both a b, s, k => a.run s fun t => b.run t k
  | either a b, s, k => a.run s k <|> b.run s k
  | many least most eager a, s, k =>
    times a.run (fun t => upTo a.run eager k ((most.map (· - least)).getD t.spot.rest.length) t)
      least s
  | group n a, s, k =>
    a.run s fun t => k { t with groups := (n, s.spot.upTo t.spot) :: t.groups }

structure Match where
  start : Spot
  stop : Spot
  groups : List (Nat × List Char)

namespace Match

def text (m : Match) : String :=
  String.ofList (m.start.upTo m.stop)

def group? (m : Match) (n : Nat) : Option String :=
  (m.groups.lookup n).map String.ofList

-- The text of a group that takes part in every match.
def group (m : Match) (n : Nat) : String :=
  (m.group? n).getD ""

end Match

-- The first choice at a spot.
def matchAt? (p : Pattern) (s : Spot) : Option Match :=
  p.run ⟨s, []⟩ fun t => some ⟨s, t.spot, t.groups⟩

-- The first match that starts at the spot or later.
def searchFrom? (p : Pattern) (last : Option Char) : List Char → Option Match
  | [] => p.matchAt? ⟨last, []⟩
  | c :: r => p.matchAt? ⟨last, c :: r⟩ <|> searchFrom? p (some c) r

def search? (p : Pattern) (s : String) : Option Match :=
  p.searchFrom? none s.toList

def occurs (p : Pattern) (s : String) : Bool :=
  (p.search? s).isSome

-- The matches from left to right, each search starting where the match before it stopped. The
-- number bounds the searches and is at least the length of the text.
def allFrom (p : Pattern) : Nat → Spot → List Match
  | 0, _ => []
  | n + 1, s =>
    match p.searchFrom? s.last s.rest with
    | none => []
    | some m =>
      if m.stop.rest.length < m.start.rest.length then m :: allFrom p n m.stop
      else match m.stop.rest with
        | [] => [m]
        | c :: r => m :: allFrom p n ⟨some c, r⟩

def all (p : Pattern) (s : String) : List Match :=
  p.allFrom (s.toList.length + 1) (Spot.start s.toList)

-- The text from a spot on, with `f` in place of every match.
def replaceFrom (f : Match → List Char) (s : Spot) : List Match → List Char
  | [] => s.rest
  | m :: ms => s.upTo m.start ++ f m ++ replaceFrom f m.stop ms

def replaceAll (p : Pattern) (f : Match → List Char) (s : String) : String :=
  String.ofList (replaceFrom f (Spot.start s.toList) (p.all s))

-- The whole text is a match.
def accepts (p : Pattern) (s : String) : Bool :=
  (p.run ⟨Spot.start s.toList, []⟩ fun t => if t.spot.rest.isEmpty then some () else none).isSome

/-! Building patterns -/

instance : Append Pattern := ⟨both⟩

instance : OrElse Pattern := ⟨fun a b => either a (b ())⟩

def char (c : Char) : Pattern :=
  one (· == c)

def lit (s : String) : Pattern :=
  s.toList.foldr (fun c p => both (char c) p) nothing

def star (p : Pattern) : Pattern :=
  many 0 none true p

def plus (p : Pattern) : Pattern :=
  many 1 none true p

def starLazy (p : Pattern) : Pattern :=
  many 0 none false p

def plusLazy (p : Pattern) : Pattern :=
  many 1 none false p

def opt (p : Pattern) : Pattern :=
  many 0 (some 1) true p

def anyOf (ps : List Pattern) : Pattern :=
  match ps with
  | [] => look fun _ => false
  | [p] => p
  | p :: ps => either p (anyOf ps)

def word : Pattern :=
  one Letter.isWord

def blank : Pattern :=
  one Letter.isBlank

def oneOf (cs : String) : Pattern :=
  one cs.toList.contains

def noneOf (cs : String) : Pattern :=
  one (! cs.toList.contains ·)

def wordEdge : Pattern :=
  look Spot.atWordEdge

def lineStart : Pattern :=
  look Spot.atLineStart

def textEnd : Pattern :=
  look Spot.atEnd

end Pattern

end Refit
