import Refit.Terminal.Cells
import Refit.Terminal.Emoji
import Refit.Terminal.Literal
import Refit.Terminal.Style

/-!
Styled text. Tags in brackets style what follows them; a terminal without styles shows the text
without its tags.

A tag begins with a small letter or one of `#/@`, and a backslash before it makes it plain text. A
tag that closes a style needs one that opened it. Names between colons stand for emoji.
-/

namespace Refit.Markup

-- A tag without its brackets: a name, and parameters behind an equals sign.
structure Tag where
  name : String
  parameters : Option (List Char)
  deriving DecidableEq, Repr

inductive Piece where
  | text (s : List Char)
  | opening (tag : Tag)
  | closing (tag : Tag)
  deriving DecidableEq, Repr

-- Why a text has no styles.
inductive Flaw where
  -- A tag that closes what nothing opened.
  | unopened (tag : String)
  -- Parameters of an action that cannot be read.
  | unreadable (parameters : List Char)
  -- A colour of parts that are no numbers.
  | fault (f : Fault)

def Flaw.message : Flaw → String
  | unopened t => "closing tag '[" ++ t ++ "]' doesn't match any open tag"
  | unreadable p =>
    let part := Literal.literalPart p
    "error parsing " ++ (String.ofList part).quoted ++ " in " ++ (String.ofList p).quoted ++ "; "
      ++ Literal.flaw part
  | fault f => f.message

def startsTag (c : Char) : Bool :=
  Letter.isAsciiLower c || c == '#' || c == '/' || c == '@'

-- The inside of a tag at the start of a text, and what follows the tag.
def tag? (s : List Char) : Option (List Char × List Char) :=
  match s with
  | '[' :: c :: r =>
    let inside := r.takeWhile fun c => c != '[' && c != ']'
    match startsTag c, r.dropWhile fun c => c != '[' && c != ']' with
    | true, ']' :: rest => some (c :: inside, rest)
    | _, _ => none
  | _ => none

def pieceOf (inside : List Char) : Piece :=
  let name := inside.takeWhile (· != '=')
  let rest := inside.drop name.length
  let parameters := if rest.isEmpty then none else some rest.tail
  match name with
  | '/' :: name => .closing ⟨String.ofList name, parameters⟩
  | name => .opening ⟨String.ofList name, parameters⟩

-- A bracket after a backslash stands for itself.
def plain (s : List Char) : List Piece :=
  if s.isEmpty then [] else [.text (Text.replaceSeq ['\\', '['] ['['] s)]

-- The pieces of a text. The text seen since the last tag comes reversed, and the number bounds
-- what is left.
def piecesFrom : Nat → List Char → List Char → List Piece
  | 0, seen, s => plain (seen.reverse ++ s)
  | _ + 1, seen, [] => plain seen.reverse
  | n + 1, seen, c :: r =>
    let slashes := (c :: r).takeWhile (· == '\\')
    match tag? ((c :: r).dropWhile (· == '\\')) with
    | some (inside, rest) =>
      let kept := List.replicate (slashes.length / 2) '\\'
      let own := if slashes.length % 2 == 1 then .text ('[' :: inside ++ [']']) else pieceOf inside
      plain seen.reverse ++ plain kept ++ own :: piecesFrom n [] rest
    | none =>
      if slashes.isEmpty then piecesFrom n (c :: seen) r
      else piecesFrom n (slashes ++ seen) ((c :: r).dropWhile (· == '\\'))

def pieces (s : String) : List Piece :=
  piecesFrom (s.length + 1) [] s.toList

/-! Emoji -/

def variants : List (String × Char) :=
  [("-emoji", Char.ofNat 0xFE0F), ("-text", Char.ofNat 0xFE0E)]

-- The emoji of what stands between two colons. The name may say how it is to be shown.
def emojiOf? (inside : List Char) : Option (List Char) :=
  let s := String.ofList inside
  match variants.find? fun v => s.finishesWith v.1 with
  | some (ending, c) =>
    (Emoji.ofName? (s.skipLastChars ending.length).lowered.toList).map (· ++ [c])
  | none => Emoji.ofName? s.lowered.toList

-- A text with the emoji for their names. A name that is none keeps its second colon too.
def withEmoji : Nat → List Char → List Char
  | 0, s => s
  | _, [] => []
  | n + 1, c :: r =>
    if c != ':' then c :: withEmoji n r
    else
      let inside := r.takeWhile fun c => c != ':' && !Letter.isBlank c
      match r.drop inside.length with
      | ':' :: rest =>
        (emojiOf? inside).getD (':' :: inside ++ [':']) ++ withEmoji n rest
      | _ => ':' :: withEmoji n r

/-! Styles -/

-- The open styles without the one that a tag closes, and that one: the latest of its name, or the
-- latest of all if the tag names none.
def close? (tag : Tag) (styles : List Tag) : Except Flaw (Tag × List Tag) := do
  let name := tag.name.stripped
  let closed ←
    if name == "" then pure styles.head?
    else do
      let name ← (normalStyle name).mapError .fault
      pure (styles.find? (·.name == name))
  match closed with
  | some t => return (t, styles.erase t)
  | none => throw (.unopened ("/" ++ tag.name))

-- The parameters of an action are read when it is closed.
def checkAction (tag : Tag) : Except Flaw Unit :=
  match tag.parameters with
  | some p =>
    if tag.name.beginsWith "@" && !p.isEmpty && !Literal.accepts (Literal.literalPart p) then
      throw (.unreadable p)
    else return ()
  | none => return ()

-- Characters that a terminal acts on and does not show.
def isAction (c : Char) : Bool :=
  c == '\x07' || c == '\x08' || c == '\x0b' || c == '\x0c' || c == '\r'

-- The text of pieces.
def textOf : List Tag → List Piece → Except Flaw (List Char)
  | _, [] => .ok []
  | styles, .text s :: ps => do
    return (withEmoji s.length s).filter (! isAction ·) ++ (← textOf styles ps)
  | styles, .opening tag :: ps => do
    let name ← (normalStyle tag.name).mapError .fault
    textOf ({ tag with name } :: styles) ps
  | styles, .closing tag :: ps => do
    let (closed, styles) ← close? tag styles
    checkAction closed
    textOf styles ps

-- Tabs fill up to the next of the stops, which are eight columns apart. A joined character takes
-- no column, and neither does a joined tab before it fills up. The last character that took columns is
-- remembered, for a selector may widen it.
def expandTabs : Nat → Option Char → List Char → List Char
  | _, _, [] => []
  | column, last, c :: r =>
    if c == '\n' then c :: expandTabs 0 none r
    else if c == '\t' then
      List.replicate (8 - column % 8) ' ' ++ expandTabs (column + (8 - column % 8)) none r
    else if c == Cells.joiner then
      match r with
      | '\t' :: r =>
        let gap := (8 - column % 8) % 8
        c :: ' ' :: List.replicate gap ' ' ++ expandTabs (column + gap) none r
      | '\n' :: r => c :: '\n' :: expandTabs 0 none r
      | d :: r => c :: d :: expandTabs column last r
      | [] => [c]
    else if c == Cells.emojiSelector then
      c :: expandTabs (column + if last.any Cells.isWidened then 1 else 0) none r
    else
      let w := Cells.width c
      c :: expandTabs (column + w) (if w == 0 then last else some c) r

-- A styled text as a terminal without styles shows it.
def shown (s : String) : Except Flaw String := do
  return String.ofList (expandTabs 0 none (← textOf [] (pieces s)))

end Refit.Markup
