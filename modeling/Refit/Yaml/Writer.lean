import Refit.Yaml.Scalar

/-!
The YAML text of a value.

Mappings and lists are written as blocks, one entry a line, and only empty ones in brackets. A text
is written plainly where that reads back as the same text, else in single quotes, and in double
quotes where a character has to be escaped. Lines are folded behind column 80. A value that stands
in several places is written at the first one, with a name, and the others have the name.
-/

namespace Refit.Yaml

-- The text written so far, the last character first, and where it ends: the column, whether a
-- blank or nothing stands before it on the line, and whether the line has nothing but indicators.
-- `met` has the numbers of the shared values in it.
structure Page where
  done : List Char
  column : Nat
  afterBlank : Bool
  onlyMarks : Bool
  met : List Nat

namespace Page

def start : Page :=
  ⟨[], 0, true, true, []⟩

def put (p : Page) (s : List Char) : Page :=
  { p with done := s.reverse ++ p.done, column := p.column + s.length }

def lineBreak (p : Page) (c : Char := '\n') : Page :=
  ⟨c :: p.done, 0, true, true, p.met⟩

-- Goes to a column, on a new line unless nothing stands before it on this one.
def indentTo (p : Page) (indent : Nat) : Page :=
  let p :=
    if !p.onlyMarks || indent < p.column || (p.column == indent && !p.afterBlank) then p.lineBreak
    else p
  if p.column < indent then
    { p.put (List.replicate (indent - p.column) ' ') with afterBlank := true }
  else p

def mark (p : Page) (s : List Char) (spaced : Bool) (keeps : Bool := false) : Page :=
  let q := p.put (if p.afterBlank || !spaced then s else ' ' :: s)
  { q with afterBlank := false, onlyMarks := p.onlyMarks && keeps }

def inLine (p : Page) : Page :=
  { p with afterBlank := false, onlyMarks := false }

end Page

namespace Writer

def width : Nat := 80

def step : Nat := 2

def isBreak (c : Char) : Bool :=
  c == '\n' || c.toNat == 0x85 || c.toNat == 0x2028 || c.toNat == 0x2029

def isGap (c : Char) : Bool :=
  isBreak c || c == '\x00' || c == ' ' || c == '\t' || c == '\r'

-- Characters written as themselves.
def isVisible (c : Char) : Bool :=
  ' ' ≤ c && c ≤ '~'

inductive Style where
  | plain
  | single
  | double
  | literal
  deriving DecidableEq

-- What a text holds that rules out a style.
structure Traits where
  indicators : Bool
  breaks : Bool
  special : Bool
  -- A blank or a break at either end.
  loose : Bool
  breakSpace : Bool
  spaceBreak : Bool

-- Indicators inside a text: a colon before a gap, and a number sign behind one.
def innerIndicators : Bool → List Char → Bool
  | _, [] => false
  | gapBefore, c :: r =>
    (c == ':' && r.head?.all isGap) || (c == '#' && gapBefore) || innerIndicators (isGap c) r

def leadIndicator : List Char → Bool
  | [] => false
  | c :: r =>
    "#,[]\x7b\x7d&*!|>'\"%@\x60".toList.contains c
      || ((c == '?' || c == ':' || c == '-') && r.head?.all isGap)

def adjacent (p q : Char → Bool) : List Char → Bool
  | a :: b :: r => (p a && q b) || adjacent p q (b :: r)
  | _ => false

def traits (s : List Char) : Traits :=
  let ends (c : Char) : Bool := c == ' ' || isBreak c
  { indicators :=
      "---".toList.isPrefixOf s || "...".toList.isPrefixOf s || leadIndicator s
        || match s with
          | [] => false
          | c :: r => innerIndicators (isGap c) r
    breaks := s.any isBreak
    special := s.any fun c => !(c == '\n' || isVisible c)
    loose := s.head?.any ends || s.getLast?.any ends
    breakSpace := adjacent isBreak (· == ' ') s
    spaceBreak := adjacent (· == ' ') isBreak s }

-- Whether the text may be written without quotes, should it read back as the same value.
def Traits.allowsPlain (t : Traits) : Bool :=
  !(t.loose || t.breakSpace || t.spaceBreak || t.special || t.breaks || t.indicators)

def Traits.allowsSingle (t : Traits) : Bool :=
  !(t.breakSpace || t.spaceBreak || t.special)

-- A text cut into its words and the runs of blanks and of breaks between them.
def runs : List Char → List (List Char)
  | [] => []
  | c :: r =>
    let sort (x : Char) : Nat := if x == ' ' then 1 else if isBreak x then 2 else 0
    match runs r with
    | (d :: w) :: ws => if sort c == sort d then (c :: d :: w) :: ws else [c] :: (d :: w) :: ws
    | ws => [c] :: ws

-- A single blank behind the last column is where a line is folded.
def plainRuns (split : Bool) (indent : Nat) : List (List Char) → Page → Page
  | [], p => p
  | w :: ws, p =>
    let q :=
      if w == [' '] && width < p.column && split then (p.indentTo indent).inLine else p.put w
    plainRuns split indent ws q

def plain (s : List Char) (split : Bool) (indent : Nat) (p : Page) : Page :=
  if s.isEmpty then p
  else
    let p := if p.afterBlank then p else p.put [' ']
    plainRuns split indent (runs s) p.inLine

def singleRuns (split : Bool) (indent : Nat) : Bool → List (List Char) → Page → Page
  | _, [], p => p
  | first, w :: ws, p =>
    let q :=
      if w.head? == some ' ' then
        if w == [' '] && width < p.column && split && !first && !ws.isEmpty then p.indentTo indent
        else p.put w
      else if w.head?.any isBreak then
        let p := if w.head? == some '\n' then p.lineBreak else p
        (w.foldl (fun p c => p.lineBreak c) p).indentTo indent
      else p.put (w.flatMap fun c => if c == '\'' then ['\'', '\''] else [c])
    singleRuns split indent false ws q

def single (s : List Char) (split : Bool) (indent : Nat) (p : Page) : Page :=
  (singleRuns split indent true (runs s) (p.mark ['\''] true)).mark ['\''] false

def hexUpper (width n : Nat) : List Char :=
  (Text.Quoted.hex width n).flatMap Letter.upper

def escape (c : Char) : List Char :=
  let named := [('\x00', '0'), ('\x07', 'a'), ('\x08', 'b'), ('\t', 't'), ('\n', 'n'),
    ('\x0b', 'v'), ('\x0c', 'f'), ('\r', 'r'), ('\x1b', 'e'), ('"', '"'), ('\\', '\\'),
    (Char.ofNat 0x85, 'N'), (Char.ofNat 0xA0, '_'), (Char.ofNat 0x2028, 'L'),
    (Char.ofNat 0x2029, 'P')]
  match named.lookup c with
  | some x => ['\\', x]
  | none =>
    if c.toNat < 0x100 then '\\' :: 'x' :: hexUpper 2 c.toNat
    else if c.toNat < 0x10000 then '\\' :: 'u' :: hexUpper 4 c.toNat
    else '\\' :: 'U' :: hexUpper 8 c.toNat

-- The characters of a text in double quotes. `held` has those that are still to be written, the
-- last one first. A line is folded at a blank or behind an escape.
def doubleFrom (split : Bool) (indent : Nat) :
    Bool → List Char → List Char → Page → Page
  | _, held, [], p => p.put held.reverse
  | first, held, c :: r, p =>
    let isEscaped := c == '"' || c == '\\' || !isVisible c
    let (held, p) :=
      if isEscaped then ([], (p.put held.reverse).put (escape c)) else (held, p)
    -- An escape may end one column later.
    let limit := if isEscaped then width + 1 else width
    let folds :=
      !first && !r.isEmpty && (c == ' ' || isEscaped || held.isEmpty)
        && limit < p.column + held.length && split
    if folds then
      let p := ((p.put (held.reverse ++ ['\\'])).indentTo indent).inLine
      -- The next character to be written, which an escape leaves behind.
      let next := if isEscaped then r.head? else some c
      let p := if next == some ' ' then p.put ['\\'] else p
      doubleFrom split indent false (if isEscaped then [] else [c]) r p
    else doubleFrom split indent false (if isEscaped then [] else c :: held) r p

def double (s : List Char) (split : Bool) (indent : Nat) (p : Page) : Page :=
  (doubleFrom split indent true [] s (p.mark ['"'] true)).mark ['"'] false

-- Lines as they are, each at the indentation.
def literal (text : List Char) (indent : Nat) (p : Page) : Page :=
  let lines := (String.ofList text).splitAt '\n'
  let p := (p.mark ['|'] true).lineBreak
  lines.dropLast.foldl (fun p l => ((p.indentTo indent).put l.toList).lineBreak) p

-- A scalar with its tag, and the style it asks for.
structure Scalar where
  tag : String
  text : List Char
  style : Option Style

def floatText (x : Float) : String :=
  if x.isNaN then ".nan"
  else if x.isInf then (if x < 0 then "-.inf" else ".inf")
  else
    let s := Number.shortText x
    if !s.holds "." && s.holds "e" then s.replacing "e" ".0e" else s

def base64Digit (n : Nat) : Char :=
  if n < 26 then Char.ofNat (n + 'A'.toNat)
  else if n < 52 then Char.ofNat (n - 26 + 'a'.toNat)
  else if n < 62 then Char.ofNat (n - 52 + '0'.toNat)
  else if n == 62 then '+' else '/'

def base64 : List UInt8 → List Char
  | a :: b :: c :: r =>
    let n := (a.toNat * 256 + b.toNat) * 256 + c.toNat
    [n / 262144, n / 4096 % 64, n / 64 % 64, n % 64].map base64Digit ++ base64 r
  | [a, b] =>
    let n := (a.toNat * 256 + b.toNat) * 4
    [n / 4096, n / 64 % 64, n % 64].map base64Digit ++ ['=']
  | [a] => [a.toNat * 16 / 64, a.toNat * 16 % 64].map base64Digit ++ ['=', '=']
  | [] => []

def lines (n : Nat) : Nat → List Char → List Char
  | 0, _ => []
  | k + 1, s => if s.isEmpty then [] else s.take n ++ '\n' :: lines n k (s.drop n)

-- Bytes in base 64, in ended lines of 76 characters.
def bytesText (b : List UInt8) : List Char :=
  lines 76 (b.length + 1) (base64 b)

def scalarOf : Datum → Except Fault Scalar
  | .null => .ok ⟨Tag.null, "null".toList, none⟩
  | .bool b => .ok ⟨Tag.bool, (if b then "true" else "false").toList, none⟩
  | .int i => do return ⟨Tag.int, (← (Datum.int i).toText).toList, none⟩
  | .float x => .ok ⟨Tag.float, (floatText x).toList, none⟩
  | .text s => .ok ⟨Tag.text, s.toList, none⟩
  | .bytes b => .ok ⟨Tag.binary, bytesText b, some .literal⟩
  | .date d => .ok ⟨Tag.time, d.text.toList, none⟩
  | .moment d c => .ok ⟨Tag.time, (d.text ++ " " ++ c.text).toList, none⟩
  | d => .error (.mismatch ("('cannot represent an object', " ++ d.quoted ++ ")"))

def shortTag (tag : String) : List Char :=
  "!!".toList ++ tag.toList.drop (Tag.core "").length

def choose (s : Scalar) (asKey : Bool) : Style :=
  let t := traits s.text
  let plainFits := plainTag (String.ofList s.text) == s.tag
  if s.style == some .literal then if asKey || s.text.isEmpty then .double else .literal
  else if plainFits && t.allowsPlain && !(asKey && s.text.isEmpty) then .plain
  else if t.allowsSingle && !(asKey && t.breaks) then .single
  else .double

def scalar (s : Scalar) (asKey : Bool) (indent : Option Nat) (p : Page) : Page :=
  let inner := indent.elim step (· + step)
  let style := choose s asKey
  let tagged := if style == .plain then false else s.tag != Tag.text
  let p := if tagged then p.mark (shortTag s.tag) true else p
  match style with
  | .plain => plain s.text (!asKey) inner p
  | .single => single s.text (!asKey) inner p
  | .double => double s.text (!asKey) inner p
  | .literal => literal s.text inner p

-- A block stands two columns further right than the one around it, but the items of a list that is
-- the value of a key stand right under the key.
def listIndent (inMapping : Bool) (indent : Option Nat) (p : Page) : Nat :=
  match indent with
  | none => 0
  | some n => if inMapping && !p.onlyMarks then n else n + step

/-! Names -/

-- The shared values that were met, and those that were met again, the last one first.
structure Names where
  met : List Nat
  again : List Nat

def Names.meet (ns : Names) (n : Nat) : Names :=
  if !ns.met.contains n then { ns with met := n :: ns.met }
  else if ns.again.contains n then ns
  else { ns with again := n :: ns.again }

mutual

def names : Datum → Names → Names
  | .shared n d, ns =>
    if ns.met.contains n then ns.meet n else names d (ns.meet n)
  | .around n, ns => ns.meet n
  | .list xs, ns => namesOfList xs ns
  | .tuple xs, ns => namesOfList xs ns
  | .set xs, ns => namesOfList xs ns
  | .dict es, ns => namesOfEntries es ns
  | _, ns => ns

def namesOfList : List Datum → Names → Names
  | [], ns => ns
  | x :: xs, ns => namesOfList xs (names x ns)

def namesOfEntries : List (Datum × Datum) → Names → Names
  | [], ns => ns
  | (k, v) :: es, ns => namesOfEntries es (names v (names k ns))

end

def nameText (i : Nat) : List Char :=
  'i' :: 'd' :: (Number.padLeft 3 '0' (toString (i + 1))).toList

variable (named : List Nat)

-- The name of a shared value that stands in several places.
def nameOf? (n : Nat) : Option (List Char) :=
  (named.idxOf? n).map nameText

-- Keys that need no mark in front: texts that are short enough and on one line, and names.
def isSimpleKey (p : Page) : Datum → Bool
  | .around _ => true
  | .shared n d =>
    p.met.contains n || fits ((nameOf? named n).elim 0 List.length) d.bare
  | d => fits 0 d
where
  fits (extra : Nat) (d : Datum) : Bool :=
    match d with
    | .list xs | .tuple xs => xs.isEmpty
    | .dict es => es.isEmpty
    | d =>
      match scalarOf d with
      | .ok s =>
        !s.text.isEmpty && !(traits s.text).breaks
          && s.text.length + (shortTag s.tag).length + extra < 128
      | .error _ => true

mutual

def node (d : Datum) (inMapping asKey : Bool) (indent : Option Nat) (p : Page) :
    Except Fault Page :=
  match d with
  | .around n => .ok (p.mark ('*' :: (nameOf? named n).getD []) true)
  | .shared n d =>
    if p.met.contains n then .ok (p.mark ('*' :: (nameOf? named n).getD []) true)
    else
      let p := { p with met := n :: p.met }
      let p := match nameOf? named n with
        | some name => p.mark ('&' :: name) true
        | none => p
      node d inMapping asKey indent p
  | .list [] | .tuple [] => .ok (p.mark "[]".toList true)
  | .list xs | .tuple xs => items xs (listIndent inMapping indent p) p
  | .dict [] => .ok (p.mark "\x7b\x7d".toList true)
  | .dict es => entries es (indent.elim 0 (· + step)) p
  | .set [] => .ok ((p.mark (shortTag Tag.set) true).mark "\x7b\x7d".toList true)
  | .set xs => members xs (indent.elim 0 (· + step)) (p.mark (shortTag Tag.set) true)
  | d => do return scalar (← scalarOf d) asKey indent p

def items (xs : List Datum) (indent : Nat) (p : Page) : Except Fault Page :=
  match xs with
  | [] => .ok p
  | x :: xs => do
    let q ← node x false false (some indent) ((p.indentTo indent).mark ['-'] true true)
    items xs indent q

def entries (es : List (Datum × Datum)) (indent : Nat) (p : Page) : Except Fault Page :=
  match es with
  | [] => .ok p
  | (k, v) :: es => do
    let p := p.indentTo indent
    let simple := isSimpleKey named p k
    let p ← node k true simple (some indent) (if simple then p else p.mark ['?'] true true)
    let q ← node v true false (some indent)
      (if simple then p.mark [':'] false else (p.indentTo indent).mark [':'] true true)
    entries es indent q

-- The items of a set are keys without a value.
def members (xs : List Datum) (indent : Nat) (p : Page) : Except Fault Page :=
  match xs with
  | [] => .ok p
  | x :: xs => do
    let p := p.indentTo indent
    let simple := isSimpleKey named p x
    let p ← node x true simple (some indent) (if simple then p else p.mark ['?'] true true)
    let p := if simple then p.mark [':'] false else (p.indentTo indent).mark [':'] true true
    members xs indent (plain "null".toList true (indent + step) p)

end

end Writer

-- The text of a value. Each value that stands in several places has a name, and the names are
-- numbered in the order in which the second places come.
def write (d : Datum) : Except Fault String := do
  let named := (Writer.names d ⟨[], []⟩).again.reverse
  let p ← Writer.node named d false false none Page.start
  return String.ofList (p.indentTo 0).done.reverse

end Refit.Yaml
