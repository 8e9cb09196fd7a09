import Refit.Text.Quoted

/-!
Reading bytes as text.

The reader keeps what the character under way still owes: how many bytes, the bounds of the next
one, and the bits so far. A byte that does not fit ends the character and is looked at again as the
first byte of the next.
-/

namespace Refit.Utf8

inductive Flaw where
  | badStart
  | badFollow
  | cutShort
  deriving DecidableEq, Repr

def Flaw.reason : Flaw → String
  | badStart => "invalid start byte"
  | badFollow => "invalid continuation byte"
  | cutShort => "unexpected end of data"

-- Where decoding failed: the first byte of the unfinished character, its bytes, and the flaw.
structure Trouble where
  position : Nat
  bytes : List UInt8
  flaw : Flaw
  deriving DecidableEq, Repr

def Trouble.message (t : Trouble) : String :=
  match t.bytes with
  | [b] =>
    "'utf-8' codec can't decode byte 0x" ++ String.ofList (Text.Quoted.hex 2 b.toNat)
      ++ " in position " ++ toString t.position ++ ": " ++ t.flaw.reason
  | bs =>
    "'utf-8' codec can't decode bytes in position " ++ toString t.position ++ "-"
      ++ toString (t.position + bs.length - 1) ++ ": " ++ t.flaw.reason

-- A character under way.
structure Open where
  owed : Nat
  low : UInt8
  high : UInt8
  bits : Nat
  -- Its bytes so far, the latest first.
  bytes : List UInt8

def start? (b : UInt8) : Option Open :=
  if 0xC2 ≤ b && b ≤ 0xDF then some ⟨1, 0x80, 0xBF, b.toNat % 32, [b]⟩
  else if b == 0xE0 then some ⟨2, 0xA0, 0xBF, 0, [b]⟩
  else if b == 0xED then some ⟨2, 0x80, 0x9F, 13, [b]⟩
  else if 0xE1 ≤ b && b ≤ 0xEF then some ⟨2, 0x80, 0xBF, b.toNat % 16, [b]⟩
  else if b == 0xF0 then some ⟨3, 0x90, 0xBF, 0, [b]⟩
  else if 0xF1 ≤ b && b ≤ 0xF3 then some ⟨3, 0x80, 0xBF, b.toNat % 8, [b]⟩
  else if b == 0xF4 then some ⟨3, 0x80, 0x8F, 4, [b]⟩
  else none

-- A character, or a stretch of bytes that is none.
abbrev Piece := Except (List UInt8 × Flaw) Char

def step (o : Option Open) (b : UInt8) : List Piece × Option Open :=
  match o with
  | none => fresh b
  | some o =>
    if o.low ≤ b && b ≤ o.high then
      let bits := o.bits * 64 + b.toNat % 64
      if o.owed == 1 then ([.ok (Char.ofNat bits)], none)
      else ([], some ⟨o.owed - 1, 0x80, 0xBF, bits, b :: o.bytes⟩)
    else
      let (ps, o') := fresh b
      (.error (o.bytes.reverse, .badFollow) :: ps, o')
where
  fresh (b : UInt8) : List Piece × Option Open :=
    if b < 0x80 then ([.ok (Char.ofNat b.toNat)], none)
    else match start? b with
      | some o => ([], some o)
      | none => ([.error ([b], .badStart)], none)

def piecesFrom : Option Open → List UInt8 → List Piece
  | none, [] => []
  | some o, [] => [.error (o.bytes.reverse, .cutShort)]
  | o, b :: r => (step o b).1 ++ piecesFrom (step o b).2 r

def pieces (bytes : List UInt8) : List Piece :=
  piecesFrom none bytes

def width (c : Char) : Nat :=
  c.utf8Size

-- The text, or the first trouble.
def strictFrom : Nat → List Piece → Except Trouble (List Char)
  | _, [] => .ok []
  | n, .ok c :: r => (strictFrom (n + width c) r).map (c :: ·)
  | n, .error (bs, f) :: _ => .error ⟨n, bs, f⟩

def decode (bytes : List UInt8) : Except Trouble String :=
  (strictFrom 0 (pieces bytes)).map String.ofList

-- Every stretch that is no character becomes one replacement character.
def decodeLossy (bytes : List UInt8) : String :=
  String.ofList ((pieces bytes).map fun
    | .ok c => c
    | .error _ => Char.ofNat 0xFFFD)

-- Both kinds of carriage return line ends become line feeds.
def unixLines : List Char → List Char
  | '\r' :: '\n' :: r => '\n' :: unixLines r
  | '\r' :: r => '\n' :: unixLines r
  | c :: r => c :: unixLines r
  | [] => []

end Refit.Utf8

def String.withUnixLines (s : String) : String :=
  ofList (Refit.Utf8.unixLines s.toList)
