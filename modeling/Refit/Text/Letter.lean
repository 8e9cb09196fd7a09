import Refit.Text.Table

/-!
Classes of characters and the case of letters.

The classes are those of Unicode. Below code point 128 each is decided without a table, so that a
statement about ASCII text never has to look at one.
-/

namespace Refit.Letter

-- The row that holds `n`, in a table of inclusive ranges in increasing order.
def row? (first last : α → Nat) (table : Array α) (n : Nat) : Option α :=
  search 32 0 table.size
where
  search : Nat → Nat → Nat → Option α
    | 0, _, _ => none
    | k + 1, lo, hi =>
      if lo < hi then
        let mid := (lo + hi) / 2
        match table[mid]? with
        | none => none
        | some r =>
          if n < first r then search k lo mid
          else if last r < n then search k (mid + 1) hi
          else some r
      else none

def inRanges (table : Array (Nat × Nat)) (n : Nat) : Bool :=
  (row? Prod.fst Prod.snd table n).isSome

-- A character that names are made of: a letter, a number or the underscore.
def isWord (c : Char) : Bool :=
  if c.toNat < 128 then c.isAlphanum || c == '_' else inRanges Table.alphanumeric c.toNat

-- A character that separates words: spaces, line ends and the information separators.
def isBlank (c : Char) : Bool :=
  let n := c.toNat
  (9 ≤ n && n ≤ 13) || (28 ≤ n && n ≤ 32) || n == 0x85 || n == 0xA0 || n == 0x1680
    || (0x2000 ≤ n && n ≤ 0x200A) || n == 0x2028 || n == 0x2029 || n == 0x202F || n == 0x205F
    || n == 0x3000

-- The blanks that are white space. The four separators of information are not.
def isSpace (c : Char) : Bool :=
  isBlank c && !(28 ≤ c.toNat && c.toNat ≤ 31)

-- A character that is shown as itself inside quotes.
def isPrintable (c : Char) : Bool :=
  if c.toNat < 128 then 32 ≤ c.toNat && c.toNat < 127 else inRanges Table.printable c.toNat

-- A digit, the superscript and circled ones included.
def isDigit (c : Char) : Bool :=
  if c.toNat < 128 then c.isDigit else inRanges Table.digit c.toNat

-- The value of a decimal digit of any script.
def digitValue? (c : Char) : Option Nat :=
  if c.toNat < 128 then
    if c.isDigit then some (c.toNat - '0'.toNat) else none
  else
    (row? Prod.fst Prod.snd Table.decimal c.toNat).map fun r => c.toNat - r.1

def isAsciiUpper (c : Char) : Bool :=
  'A' ≤ c && c ≤ 'Z'

def isAsciiLower (c : Char) : Bool :=
  'a' ≤ c && c ≤ 'z'

def isAsciiDigit (c : Char) : Bool :=
  '0' ≤ c && c ≤ '9'

-- A hexadecimal digit in either case.
def isHex (c : Char) : Bool :=
  isAsciiDigit c || ('A' ≤ c && c ≤ 'F') || ('a' ≤ c && c ≤ 'f')

def hexValue? (c : Char) : Option Nat :=
  if isAsciiDigit c then some (c.toNat - '0'.toNat)
  else if 'a' ≤ c && c ≤ 'f' then some (c.toNat - 'a'.toNat + 10)
  else if 'A' ≤ c && c ≤ 'F' then some (c.toNat - 'A'.toNat + 10)
  else none

-- The image of a code point under a table of shifted runs.
def shifted (table : Array (Nat × Nat × Nat × Int)) (n : Nat) : Nat :=
  match row? (fun r => r.1) (fun r => r.2.1) table n with
  | none => n
  | some (first, _, step, shift) =>
    if (n - first) % step == 0 then (Int.ofNat n + shift).toNat else n

-- The lower case form of a single character, its place in a word aside.
def lower (c : Char) : List Char :=
  if c.toNat < 128 then [if isAsciiUpper c then Char.ofNat (c.toNat + 32) else c]
  else if c.toNat == 0x130 then ['i', Char.ofNat 0x307]
  else [Char.ofNat (shifted Table.lower c.toNat)]

-- The upper case form of a single character, which may be longer than one.
def upper (c : Char) : List Char :=
  if c.toNat < 128 then [if isAsciiLower c then Char.ofNat (c.toNat - 32) else c]
  else match row? Prod.fst Prod.fst Table.upperLong c.toNat with
    | some (_, cs) => cs.map Char.ofNat
    | none => [Char.ofNat (shifted Table.upper c.toNat)]

-- A letter that has case.
def isCased (c : Char) : Bool :=
  inRanges Table.cased c.toNat

-- A mark that does not end a word, as far as the form of a sigma is concerned.
def isSkipped (c : Char) : Bool :=
  inRanges Table.skipped c.toNat

end Refit.Letter
