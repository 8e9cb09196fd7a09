import Refit.Text.Letter

/-!
Texts as lists of characters: trimming, splitting, searching and replacing, and the same
operations on strings.
-/

namespace Refit.Text

variable {p : Char → Bool}

def dropEndWhile (p : Char → Bool) (s : List Char) : List Char :=
  (s.reverse.dropWhile p).reverse

def trim (p : Char → Bool) (s : List Char) : List Char :=
  dropEndWhile p (s.dropWhile p)

def consHead (c : Char) : List (List Char) → List (List Char)
  | [] => [[c]]
  | w :: ws => (c :: w) :: ws

-- The parts of a text between the places where `sep` stands.
def split (sep : Char) : List Char → List (List Char)
  | [] => [[]]
  | c :: r => if c == sep then [] :: split sep r else consHead c (split sep r)

-- The parts of a text between the leftmost occurrences of a sequence. The number says how many
-- characters still belong to the occurrence just found.
def splitSeqFrom (sep : List Char) : Nat → List Char → List (List Char)
  | _, [] => [[]]
  | n + 1, _ :: r => splitSeqFrom sep n r
  | 0, c :: r =>
    if sep.isPrefixOf (c :: r) then [] :: splitSeqFrom sep (sep.length - 1) r
    else consHead c (splitSeqFrom sep 0 r)

def splitSeq (sep s : List Char) : List (List Char) :=
  splitSeqFrom sep 0 s

def join (sep : List Char) : List (List Char) → List Char
  | [] => []
  | [w] => w
  | w :: ws => w ++ sep ++ join sep ws

def replaceSeq (sep by_ s : List Char) : List Char :=
  join by_ (splitSeq sep s)

-- What stands from the first occurrence of a sequence on.
def find? (needle : List Char) : List Char → Option (List Char)
  | [] => if needle.isEmpty then some [] else none
  | c :: r => if needle.isPrefixOf (c :: r) then some (c :: r) else find? needle r

def contains (needle s : List Char) : Bool :=
  (find? needle s).isSome

-- What stands before the first occurrence of a sequence, or the whole text.
def before (needle : List Char) : List Char → List Char
  | [] => []
  | c :: r => if needle.isPrefixOf (c :: r) then [] else c :: before needle r

-- What follows the last occurrence of a sequence.
def afterLast? (needle : List Char) : List Char → Option (List Char)
  | [] => if needle.isEmpty then some [] else none
  | c :: r =>
    match afterLast? needle r with
    | some s => some s
    | none => if needle.isPrefixOf (c :: r) then some ((c :: r).drop needle.length) else none

-- The words of a text: its longest runs without blanks.
def words (s : List Char) : List (List Char) :=
  (go s).filter (! ·.isEmpty)
where
  go : List Char → List (List Char)
    | [] => [[]]
    | c :: r => if Letter.isBlank c then [] :: go r else consHead c (go r)

-- Lower case, a sigma that ends a word taking its final form.
def lowerFrom : List Char → List Char → List Char
  | _, [] => []
  | seen, c :: r =>
    (if c.toNat == 0x3A3 then [if ends seen r then 'ς' else 'σ'] else Letter.lower c)
      ++ lowerFrom (c :: seen) r
where
  leads (s : List Char) : Bool :=
    match s.dropWhile Letter.isSkipped with
    | [] => false
    | c :: _ => Letter.isCased c
  ends (seen rest : List Char) : Bool :=
    leads seen && !leads rest

end Refit.Text

namespace String

open Refit

-- The text without the blanks around it.
def stripped (s : String) : String :=
  ofList (Text.trim Letter.isBlank s.toList)

def strippedLeft (s : String) : String :=
  ofList (s.toList.dropWhile Letter.isBlank)

def strippedRight (s : String) : String :=
  ofList (Text.dropEndWhile Letter.isBlank s.toList)

-- The text without the leading characters of a class.
def withoutLeading (p : Char → Bool) (s : String) : String :=
  ofList (s.toList.dropWhile p)

-- The text without the trailing characters of a class.
def withoutTrailing (p : Char → Bool) (s : String) : String :=
  ofList (Text.dropEndWhile p s.toList)

def splitAt (sep : Char) (s : String) : List String :=
  (Text.split sep s.toList).map ofList

def replacing (s old new : String) : String :=
  ofList (Text.replaceSeq old.toList new.toList s.toList)

def holds (s needle : String) : Bool :=
  Text.contains needle.toList s.toList

def beginsWith (s start : String) : Bool :=
  start.toList.isPrefixOf s.toList

def finishesWith (s finish : String) : Bool :=
  finish.toList.isSuffixOf s.toList

def firstChars (n : Nat) (s : String) : String :=
  ofList (s.toList.take n)

def skipChars (n : Nat) (s : String) : String :=
  ofList (s.toList.drop n)

def skipLastChars (n : Nat) (s : String) : String :=
  ofList (s.toList.take (s.toList.length - n))

def lowered (s : String) : String :=
  ofList (Text.lowerFrom [] s.toList)

def uppered (s : String) : String :=
  ofList (s.toList.flatMap Letter.upper)

def joining (sep : String) (parts : List String) : String :=
  ofList (Text.join sep.toList (parts.map toList))

end String
