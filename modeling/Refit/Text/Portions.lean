import Refit.Text.Utf8

/-!
Text that is read in portions.

Bytes come in chunks, and characters are given out in portions. A trouble comes up with the chunk
that shows it, and takes the portion that is filled from this chunk with it. Places are counted from
where the chunk begins, or from the character that is under way there; at the end of the bytes there
is one more chunk, an empty one.
-/

namespace Refit

-- The portions of a text before the first that holds a trouble, and that trouble.
structure Portions where
  text : String
  trouble : Option Utf8.Trouble
  deriving DecidableEq, Repr

namespace Portions

-- How many bytes a chunk has.
def chunk : Nat := 8192

-- How many characters a portion has.
def portion : Nat := 4096

-- Where the portion of a character begins.
def startOf (index : Nat) : Nat :=
  index / portion * portion

-- Where the chunk begins that shows a trouble. A byte that does not fit follows the bytes of the
-- trouble.
def chunkOf (size : Nat) (t : Utf8.Trouble) : Nat :=
  match t.flaw with
  | .badStart => t.position / chunk * chunk
  | .badFollow => (t.position + t.bytes.length) / chunk * chunk
  | .cutShort => size

-- The characters that end within so many bytes.
def charsWithin : Nat → List Char → List Char
  | _, [] => []
  | n, c :: r => if c.utf8Size ≤ n then c :: charsWithin (n - c.utf8Size) r else []

def byteCount (cs : List Char) : Nat :=
  cs.foldl (fun n c => n + c.utf8Size) 0

-- The characters before the first trouble.
def soundStart (bytes : List UInt8) : List Char :=
  ((Utf8.pieces bytes).takeWhile Except.isOk).filterMap Except.toOption

def ofBytes (bytes : List UInt8) : Portions :=
  match Utf8.decode bytes with
  | .ok s => ⟨s.withUnixLines, none⟩
  | .error t =>
    let known := charsWithin (chunkOf bytes.length t) (soundStart bytes)
    let lines := Utf8.unixLines known
    ⟨String.ofList (lines.take (startOf lines.length)),
      some { t with position := t.position - byteCount known }⟩

end Portions

end Refit
