import Refit.Yaml.Token

/-!
Cutting a YAML text into tokens.

A key of a block mapping is recognised only at the colon that follows it. Until then the place where
it may have begun is kept, one for each level of brackets, and the colon puts the token `key`, and
where a deeper column begins the token `blockMapping`, in front of what was read since. So a token
is given out only when no key can have begun with it any more, and no token is read before it is
asked for.
-/

namespace Refit.Yaml

structure Cursor where
  rest : List Char
  index : Nat
  mark : Mark

namespace Cursor

def start (s : List Char) : Cursor :=
  ⟨s, 0, ⟨0, 0⟩⟩

-- The character `n` places ahead; the end of the text reads as the null character.
def peek (c : Cursor) (n : Nat := 0) : Char :=
  c.rest[n]?.getD '\x00'

def isBreak (c : Char) : Bool :=
  c == '\n' || c == '\r' || c.toNat == 0x85 || c.toNat == 0x2028 || c.toNat == 0x2029

def isBreakOrEnd (c : Char) : Bool :=
  isBreak c || c == '\x00'

def isGapOrEnd (c : Char) : Bool :=
  isBreakOrEnd c || c == ' '

-- What may stand after an indicator.
def isSpaceOrEnd (c : Char) : Bool :=
  isGapOrEnd c || c == '\t'

def next (c : Cursor) : Cursor :=
  match c.rest with
  | [] => c
  | x :: r =>
    let newLine := isBreak x && (x != '\r' || r.head? != some '\n')
    let mark :=
      if newLine then ⟨c.mark.line + 1, 0⟩
      else if x.toNat == 0xFEFF then c.mark
      else ⟨c.mark.line, c.mark.column + 1⟩
    ⟨r, c.index + 1, mark⟩

def skip (c : Cursor) : Nat → Cursor
  | 0 => c
  | n + 1 => c.next.skip n

-- The characters of a class that come next, and the cursor behind them.
def span (c : Cursor) (p : Char → Bool) : List Char × Cursor :=
  let cs := c.rest.takeWhile p
  (cs, c.skip cs.length)

-- A line break and the cursor behind it. All but two kinds of breaks read as a line feed.
def lineBreak (c : Cursor) : List Char × Cursor :=
  match c.rest with
  | '\r' :: '\n' :: _ => (['\n'], c.skip 2)
  | x :: _ =>
    if x == '\r' || x == '\n' || x.toNat == 0x85 then (['\n'], c.next)
    else if x.toNat == 0x2028 || x.toNat == 0x2029 then ([x], c.next)
    else ([], c)
  | [] => ([], c)

-- Three dashes or three dots stand here, and nothing joins on to them.
def atSeparator (c : Cursor) (x : Char) : Bool :=
  c.rest.take 3 == [x, x, x] && isSpaceOrEnd (c.peek 3)

def atAnySeparator (c : Cursor) : Bool :=
  c.atSeparator '-' || c.atSeparator '.'

end Cursor

open Cursor

-- A place where a key may have begun.
structure KeyPlace where
  level : Nat
  -- The number of the token that the key would begin with.
  token : Nat
  required : Bool
  index : Nat
  mark : Mark

-- A place that reading cannot pass, and what is said when it is reached.
structure Barrier where
  index : Nat
  refusal : Refusal

structure Lexer where
  cursor : Cursor
  barrier : Option Barrier := none
  -- More than the length of the text, which bounds what is read.
  bound : Nat
  -- The tokens that were read and not yet given out.
  tokens : List Token := []
  -- How many tokens were given out.
  taken : Nat := 0
  -- Whether the end was read.
  ended : Bool := false
  -- How many brackets are open.
  level : Nat := 0
  indent : Int := -1
  indents : List Int := []
  keyAllowed : Bool := true
  places : List KeyPlace := []

abbrev Lex := StateT Lexer (Except Refusal)

namespace Lexer

def cursorOf : Lex Cursor :=
  return (← get).cursor

-- Moves on, unless the barrier is reached.
def setCursor (c : Cursor) : Lex Unit := do
  match (← get).barrier with
  | some b => if b.index ≤ c.index then throw b.refusal
  | none => pure ()
  modify fun s => { s with cursor := c }

def fail {α : Type} (context : Option (String × Mark)) (problem : String) : Lex α := do
  throw (.trouble
    ⟨context.map Prod.fst, context.map Prod.snd, problem, some (← cursorOf).mark⟩)

def found (what : String) (c : Char) : String :=
  what ++ ", but found " ++ (String.singleton c).quoted

-- Notes a token that ends where the cursor is.
def push (kind : Token.Kind) (mark : Mark) : Lex Unit :=
  modify fun s => { s with tokens := s.tokens ++ [⟨kind, mark, s.cursor.mark⟩] }

def allowKey (b : Bool) : Lex Unit :=
  modify fun s => { s with keyAllowed := b }

-- A key that has to be there has no colon.
def refuse (k : KeyPlace) : Lex Unit :=
  if k.required then
    fail (some ("while scanning a simple key", k.mark)) "could not find expected ':'"
  else pure ()

-- A key ends on the line where it began and is at most 1024 characters long.
def dropStale : Lex Unit := do
  let s ← get
  let stale (k : KeyPlace) : Bool :=
    k.mark.line != s.cursor.mark.line || 1024 < s.cursor.index - k.index
  (s.places.filter stale).forM refuse
  set { s with places := s.places.filter (! stale ·) }

def dropPlace : Lex Unit := do
  let s ← get
  let here (k : KeyPlace) : Bool := k.level == s.level
  (s.places.filter here).forM refuse
  set { s with places := s.places.filter (! here ·) }

def savePlace : Lex Unit := do
  let s ← get
  if s.keyAllowed then
    dropPlace
    let c := s.cursor
    let required := s.level == 0 && s.indent == Int.ofNat c.mark.column
    modify fun t => { t with
      places := t.places ++ [⟨s.level, s.taken + s.tokens.length, required, c.index, c.mark⟩] }

-- Ends the blocks that are indented deeper than a column.
def unwind (column : Int) : Lex Unit := do
  let s ← get
  if s.level == 0 then
    let ended := (s.indent :: s.indents).takeWhile (column < ·)
    ended.forM fun _ => push .blockEnd s.cursor.mark
    let left := (s.indent :: s.indents).drop ended.length
    modify fun t => { t with indent := left.headD (-1), indents := left.tail }

-- Opens a block at a column, if that is deeper than the block under way.
def openBlock (column : Nat) : Lex Bool := do
  let s ← get
  if s.indent < Int.ofNat column then
    set { s with indent := Int.ofNat column, indents := s.indent :: s.indents }
    return true
  else return false

-- Puts a token in front of the one of a number.
def insertToken (n : Nat) (kind : Token.Kind) (m : Mark) : Lex Unit :=
  modify fun s => { s with tokens := s.tokens.insertIdx (n - s.taken) ⟨kind, m, m⟩ }

/-! Spaces, comments and directives -/

def toNextToken : Nat → Lex Unit
  | 0 => pure ()
  | n + 1 => do
    let (_, c) := (← cursorOf).span (· == ' ')
    let (_, c) := if c.peek == '#' then c.span (! isBreakOrEnd ·) else ([], c)
    let (b, c) := c.lineBreak
    setCursor c
    if !b.isEmpty then
      if (← get).level == 0 then allowKey true
      toNextToken n

def isNameChar (c : Char) : Bool :=
  Letter.isAsciiDigit c || Letter.isAsciiUpper c || Letter.isAsciiLower c || c == '-' || c == '_'

def take (p : Char → Bool) : Lex (List Char) := do
  let (cs, c) := (← cursorOf).span p
  setCursor c
  return cs

def ignoreLine (context : String × Mark) : Lex Unit := do
  let _ ← take (· == ' ')
  if (← cursorOf).peek == '#' then let _ ← take (! isBreakOrEnd ·)
  let c ← cursorOf
  if isBreakOrEnd c.peek then setCursor c.lineBreak.2
  else fail (some context) (found "expected a comment or a line break" c.peek)

def uriChar (c : Char) : Bool :=
  Letter.isAsciiDigit c || Letter.isAsciiUpper c || Letter.isAsciiLower c
    || "-;/?:@&=+$,_.!~*'()[]".toList.contains c

-- The bytes written as percent escapes.
def uriBytes (context : String × Mark) : Nat → Lex (List UInt8)
  | 0 => return []
  | n + 1 => do
    let c ← cursorOf
    if c.peek == '%' then
      setCursor c.next
      match Letter.hexValue? (c.peek 1), Letter.hexValue? (c.peek 2) with
      | some a, some b =>
        setCursor (c.skip 3)
        return UInt8.ofNat (a * 16 + b) :: (← uriBytes context n)
      | a, _ =>
        fail (some context) (found "expected URI escape sequence of 2 hexadecimal numbers"
          (c.peek (if a.isSome then 2 else 1)))
    else return []

def uriParts (context : String × Mark) : Nat → Lex (List Char)
  | 0 => return []
  | n + 1 => do
    let cs ← take uriChar
    let c ← cursorOf
    if c.peek == '%' then
      let bytes ← uriBytes context c.rest.length
      match Utf8.decode bytes with
      | .ok s => return cs ++ s.toList ++ (← uriParts context n)
      | .error t =>
        throw (.trouble ⟨some context.1, some context.2, t.message, some c.mark⟩)
    else return cs

def uri (name : String) (mark : Mark) : Lex String := do
  let c ← cursorOf
  let cs ← uriParts ("while scanning a " ++ name, mark) (c.rest.length + 1)
  if cs.isEmpty then
    fail (some ("while parsing a " ++ name, mark)) (found "expected URI" c.peek)
  else return String.ofList cs

def tagHandle (name : String) (mark : Mark) : Lex String := do
  let context := ("while scanning a " ++ name, mark)
  let c ← cursorOf
  if c.peek != '!' then fail (some context) (found "expected '!'" c.peek)
  else if c.peek 1 == ' ' then
    setCursor c.next
    return "!"
  else
    let (cs, d) := c.next.span isNameChar
    setCursor d
    if d.peek != '!' then fail (some context) (found "expected '!'" d.peek)
    else
      setCursor d.next
      return String.ofList ('!' :: cs ++ ['!'])

def directiveNumber (context : String × Mark) : Lex Nat := do
  let cs ← take Letter.isAsciiDigit
  if cs.isEmpty then fail (some context) (found "expected a digit" (← cursorOf).peek)
  else return cs.foldl (fun n d => n * 10 + (d.toNat - '0'.toNat)) 0

def directive : Lex Token.Kind := do
  let start ← cursorOf
  let context := ("while scanning a directive", start.mark)
  setCursor start.next
  let name ← take isNameChar
  let c ← cursorOf
  if name.isEmpty || !isGapOrEnd c.peek then
    fail (some context) (found "expected alphabetic or numeric character" c.peek)
  let kind ←
    if name == "YAML".toList then do
      let _ ← take (· == ' ')
      let major ← directiveNumber context
      let c ← cursorOf
      if c.peek != '.' then fail (some context) (found "expected a digit or '.'" c.peek)
      setCursor c.next
      let _ ← directiveNumber context
      let c ← cursorOf
      if !isGapOrEnd c.peek then fail (some context) (found "expected a digit or ' '" c.peek)
      pure (Token.Kind.version major)
    else if name == "TAG".toList then do
      let _ ← take (· == ' ')
      let handle ← tagHandle "directive" start.mark
      let c ← cursorOf
      if c.peek != ' ' then fail (some context) (found "expected ' '" c.peek)
      let _ ← take (· == ' ')
      let text ← uri "directive" start.mark
      let c ← cursorOf
      if !isGapOrEnd c.peek then fail (some context) (found "expected ' '" c.peek)
      pure (Token.Kind.tagHandle handle text)
    else do
      let _ ← take (! isBreakOrEnd ·)
      pure Token.Kind.otherDirective
  ignoreLine context
  return kind

/-! Anchors and tags -/

def anchorName (what : String) : Lex String := do
  let start ← cursorOf
  let context := ("while scanning an " ++ what, start.mark)
  setCursor start.next
  let cs ← take isNameChar
  let c ← cursorOf
  if cs.isEmpty || !(isSpaceOrEnd c.peek || "?:,]\x7d%@\x60".toList.contains c.peek) then
    fail (some context) (found "expected alphabetic or numeric character" c.peek)
  else return String.ofList cs

def tag : Lex Token.Kind := do
  let start ← cursorOf
  let kind ←
    if start.peek 1 == '<' then do
      setCursor (start.skip 2)
      let text ← uri "tag" start.mark
      let c ← cursorOf
      if c.peek != '>' then
        fail (some ("while parsing a tag", start.mark)) (found "expected '>'" c.peek)
      setCursor c.next
      pure (Token.Kind.tag none text)
    else if isSpaceOrEnd (start.peek 1) then do
      setCursor start.next
      pure (Token.Kind.tag none "!")
    else do
      let ahead := start.rest.tail.takeWhile (! isGapOrEnd ·)
      let handle ←
        if ahead.contains '!' then tagHandle "tag" start.mark
        else do
          setCursor start.next
          pure "!"
      pure (Token.Kind.tag (some handle) (← uri "tag" start.mark))
  let c ← cursorOf
  if !isGapOrEnd c.peek then
    fail (some ("while scanning a tag", start.mark)) (found "expected ' '" c.peek)
  return kind

/-! Scalars -/

inductive Chomp where
  | strip
  | clip
  | keep
  deriving DecidableEq

def chompOf (c : Char) : Chomp :=
  if c == '+' then .keep else .strip

-- The indicators after `|` or `>`: what becomes of the last breaks, and a given indentation.
def blockIndicators (context : String × Mark) : Lex (Chomp × Option Nat) := do
  let c ← cursorOf
  let isSign (x : Char) : Bool := x == '+' || x == '-'
  let number (x : Char) : Lex (Option Nat) :=
    if x == '0' then
      fail (some context) "expected indentation indicator in the range 1-9, but found 0"
    else pure (some (x.toNat - '0'.toNat))
  let r ←
    if isSign c.peek then do
      setCursor c.next
      if Letter.isAsciiDigit (c.peek 1) then
        let n ← number (c.peek 1)
        setCursor (c.skip 2)
        pure (chompOf c.peek, n)
      else pure (chompOf c.peek, none)
    else if Letter.isAsciiDigit c.peek then do
      let n ← number c.peek
      setCursor c.next
      if isSign (c.peek 1) then
        setCursor (c.skip 2)
        pure (chompOf (c.peek 1), n)
      else pure (Chomp.clip, n)
    else pure (Chomp.clip, none)
  let d ← cursorOf
  if !isGapOrEnd d.peek then
    fail (some context) (found "expected chomping or indentation indicators" d.peek)
  return r

-- Leading blank lines of a block scalar, and the deepest column reached in them.
def blockIndentation : Nat → Cursor → List Char → Nat → List Char × Nat × Cursor
  | 0, c, breaks, deep => (breaks, deep, c)
  | n + 1, c, breaks, deep =>
    if c.peek == ' ' then blockIndentation n c.next breaks (max deep c.next.mark.column)
    else if isBreak c.peek then
      blockIndentation n c.lineBreak.2 (breaks ++ c.lineBreak.1) deep
    else (breaks, deep, c)

def skipIndent (indent : Nat) : Nat → Cursor → Cursor
  | 0, c => c
  | n + 1, c =>
    if c.mark.column < indent && c.peek == ' ' then skipIndent indent n c.next else c

def blockBreaks (indent : Nat) : Nat → Cursor → List Char → List Char × Cursor
  | 0, c, breaks => (breaks, c)
  | n + 1, c, breaks =>
    let c := skipIndent indent (n + 1) c
    if isBreak c.peek then blockBreaks indent n c.lineBreak.2 (breaks ++ c.lineBreak.1)
    else (breaks, c)

-- The lines of a block scalar. Yields the text, the break after its last line and the blank lines
-- that follow.
def blockLines (folded : Bool) (indent : Nat) :
    Nat → Cursor → List Char → List Char → List Char → List Char × List Char × List Char × Cursor
  | 0, c, text, last, breaks => (text, last, breaks, c)
  | n + 1, c, text, last, breaks =>
    if c.mark.column == indent && c.peek != '\x00' then
      let leads := c.peek != ' ' && c.peek != '\t'
      let (line, d) := c.span (! isBreakOrEnd ·)
      let text := text ++ breaks ++ line
      let (last, d) := d.lineBreak
      let (breaks, d) := blockBreaks indent d.rest.length d []
      if d.mark.column == indent && d.peek != '\x00' then
        let joint :=
          if folded && last == ['\n'] && leads && d.peek != ' ' && d.peek != '\t' then
            if breaks.isEmpty then [' '] else []
          else last
        blockLines folded indent n d (text ++ joint) last breaks
      else (text, last, breaks, d)
    else (text, last, breaks, c)

def blockScalar (folded : Bool) : Lex String := do
  let start ← cursorOf
  let context := ("while scanning a block scalar", start.mark)
  setCursor start.next
  let (chomp, given) ← blockIndicators context
  ignoreLine context
  let s ← get
  let least := (max (s.indent + 1) 1).toNat
  let c := s.cursor
  let (breaks, indent, c) :=
    match given with
    | none =>
      let (breaks, deep, c) := blockIndentation c.rest.length c [] 0
      (breaks, max least deep, c)
    | some n =>
      let indent := least + n - 1
      let (breaks, c) := blockBreaks indent c.rest.length c []
      (breaks, indent, c)
  let (text, last, breaks, c) := blockLines folded indent c.rest.length c [] [] breaks
  setCursor c
  return String.ofList (match chomp with
    | .strip => text
    | .clip => text ++ last
    | .keep => text ++ last ++ breaks)

def escaped? (c : Char) : Option Char :=
  [('0', '\x00'), ('a', '\x07'), ('b', '\x08'), ('t', '\t'), ('\t', '\t'), ('n', '\n'),
    ('v', '\x0b'), ('f', '\x0c'), ('r', '\r'), ('e', '\x1b'), (' ', ' '), ('"', '"'), ('\\', '\\'),
    ('/', '/'), ('N', Char.ofNat 0x85), ('_', Char.ofNat 0xA0), ('L', Char.ofNat 0x2028),
    ('P', Char.ofNat 0x2029)].lookup c

def escapeWidth? (c : Char) : Option Nat :=
  [('x', 2), ('u', 4), ('U', 8)].lookup c

-- Blank lines inside a quoted scalar.
def quotedBreaks (context : Mark) : Nat → Lex (List Char)
  | 0 => return []
  | n + 1 => do
    let c ← cursorOf
    if c.atAnySeparator then
      fail (some ("while scanning a quoted scalar", context)) "found unexpected document separator"
    let _ ← take fun x => x == ' ' || x == '\t'
    let (b, c) := (← cursorOf).lineBreak
    setCursor c
    if b.isEmpty then return [] else return b ++ (← quotedBreaks context n)

def quotedSpaces (context : Mark) : Lex (List Char) := do
  let spaces ← take fun x => x == ' ' || x == '\t'
  let c ← cursorOf
  if c.peek == '\x00' then
    fail (some ("while scanning a quoted scalar", context)) "found unexpected end of stream"
  let (b, d) := c.lineBreak
  if b.isEmpty then return spaces
  else
    setCursor d
    let breaks ← quotedBreaks context (d.rest.length + 1)
    return (if b != ['\n'] then b else if breaks.isEmpty then [' '] else []) ++ breaks

def isQuotedText (c : Char) : Bool :=
  !(isSpaceOrEnd c || c == '\'' || c == '"' || c == '\\')

def quotedEscape (context : Mark) : Lex (List Char) := do
  let c ← cursorOf
  match escaped? c.peek with
  | some x =>
    setCursor c.next
    return [x]
  | none =>
    match escapeWidth? c.peek with
    | some width =>
      setCursor c.next
      let ds := (List.range width).map fun i => c.peek (i + 1)
      match ds.find? (! Letter.isHex ·) with
      | some bad =>
        fail (some ("while scanning a double-quoted scalar", context))
          (found ("expected escape sequence of " ++ toString width ++ " hexadecimal numbers") bad)
      | none =>
        setCursor (c.skip (width + 1))
        let n := ds.foldl (fun n d => n * 16 + (Letter.hexValue? d).getD 0) 0
        if 0x10FFFF < n then throw (.codePoint n) else return [Char.ofNat n]
    | none =>
      if isBreak c.peek then
        setCursor c.lineBreak.2
        quotedBreaks context (c.rest.length + 1)
      else
        fail (some ("while scanning a double-quoted scalar", context))
          ("found unknown escape character " ++ (String.singleton c.peek).quoted)

-- The words of a quoted scalar and the escapes between them, up to a space, a break or the quote.
def quotedText (double : Bool) (context : Mark) : Nat → Lex (List Char)
  | 0 => return []
  | n + 1 => do
    let cs ← take isQuotedText
    let c ← cursorOf
    if !double && c.peek == '\'' && c.peek 1 == '\'' then
      setCursor (c.skip 2)
      return cs ++ '\'' :: (← quotedText double context n)
    else if (double && c.peek == '\'') || (!double && (c.peek == '"' || c.peek == '\\')) then
      setCursor c.next
      return cs ++ c.peek :: (← quotedText double context n)
    else if double && c.peek == '\\' then
      setCursor c.next
      let e ← quotedEscape context
      return cs ++ e ++ (← quotedText double context n)
    else return cs

def quotedRest (double : Bool) (context : Mark) : Nat → Lex (List Char)
  | 0 => return []
  | n + 1 => do
    if (← cursorOf).peek == (if double then '"' else '\'') then return []
    else
      let gap ← quotedSpaces context
      let text ← quotedText double context (n + 1)
      return gap ++ text ++ (← quotedRest double context n)

def quotedScalar (double : Bool) : Lex String := do
  let start ← cursorOf
  setCursor start.next
  let size := start.rest.length
  let text ← quotedText double start.mark size
  let rest ← quotedRest double start.mark size
  setCursor (← cursorOf).next
  return String.ofList (text ++ rest)

-- The word of a plain scalar that comes next.
def plainWord (flow : Bool) : List Char → List Char
  | [] => []
  | c :: r =>
    let after := r.headD '\x00'
    let ends :=
      isSpaceOrEnd c
        || (c == ':' && (isSpaceOrEnd after || (flow && ",[]\x7b\x7d".toList.contains after)))
        || (flow && ",?[]\x7b\x7d".toList.contains c)
    if ends then [] else c :: plainWord flow r

-- Blank lines after a line of a plain scalar; none if a document ends there.
def plainBreaks : Nat → Cursor → List Char → Option (List Char) × Cursor
  | 0, c, breaks => (some breaks, c)
  | n + 1, c, breaks =>
    if c.peek == ' ' then plainBreaks n c.next breaks
    else
      let (b, d) := c.lineBreak
      if b.isEmpty then (some breaks, c)
      else if d.atAnySeparator then (none, d)
      else plainBreaks n d (breaks ++ b)

-- What joins two words of a plain scalar; empty if the scalar ends here.
def plainSpaces : Lex (List Char) := do
  let spaces ← take (· == ' ')
  let (b, c) := (← cursorOf).lineBreak
  if b.isEmpty then return spaces
  else
    setCursor c
    allowKey true
    if c.atAnySeparator then return []
    else
      let (breaks, d) := plainBreaks (c.rest.length + 1) c []
      setCursor d
      match breaks with
      | none => return []
      | some breaks =>
        return (if b != ['\n'] then b else if breaks.isEmpty then [' '] else []) ++ breaks

def plainRest (indent : Int) : Nat → List Char → Lex (List Char)
  | 0, _ => return []
  | n + 1, gap => do
    let s ← get
    let word := plainWord (0 < s.level) s.cursor.rest
    if s.cursor.peek == '#' || word.isEmpty then return []
    else
      allowKey false
      setCursor (s.cursor.skip word.length)
      let next ← plainSpaces
      let t ← get
      if next.isEmpty || t.cursor.peek == '#'
          || (t.level == 0 && Int.ofNat t.cursor.mark.column < indent) then
        return gap ++ word
      else return gap ++ word ++ (← plainRest indent n next)

def plainScalar : Lex String := do
  let s ← get
  return String.ofList (← plainRest (s.indent + 1) (s.cursor.rest.length + 1) [])

/-! Fetching -/

def simple (kind : Token.Kind) (width : Nat := 1) : Lex Unit := do
  let c ← cursorOf
  setCursor (c.skip width)
  push kind c.mark

-- Ends every block before a directive, a document marker or the end of the text.
def atTopLevel : Lex Unit := do
  unwind (-1)
  dropPlace
  allowKey false

def openFlow (kind : Token.Kind) : Lex Unit := do
  savePlace
  modify fun s => { s with level := s.level + 1, keyAllowed := true }
  simple kind

def closeFlow (kind : Token.Kind) : Lex Unit := do
  dropPlace
  modify fun s => { s with level := s.level - 1, keyAllowed := false }
  simple kind

def needKey (what : String) : Lex Unit := do
  if !(← get).keyAllowed then fail none (what ++ " are not allowed here")

def blockEntry : Lex Unit := do
  if (← get).level == 0 then
    needKey "sequence entries"
    let m := (← cursorOf).mark
    if ← openBlock m.column then push .blockSequence m
  allowKey true
  dropPlace
  simple .blockEntry

def key : Lex Unit := do
  let flow := (← get).level != 0
  if !flow then
    needKey "mapping keys"
    let m := (← cursorOf).mark
    if ← openBlock m.column then push .blockMapping m
  allowKey (!flow)
  dropPlace
  simple .key

def value : Lex Unit := do
  let s ← get
  match s.places.find? (·.level == s.level) with
  | some k =>
    set { s with places := s.places.filter (·.level != s.level) }
    insertToken k.token .key k.mark
    if s.level == 0 then
      if ← openBlock k.mark.column then insertToken k.token .blockMapping k.mark
    allowKey false
  | none =>
    if s.level == 0 then
      needKey "mapping values"
      if ← openBlock s.cursor.mark.column then push .blockMapping s.cursor.mark
    allowKey (s.level == 0)
    dropPlace
  simple .value

def item (scan : Lex Token.Kind) : Lex Unit := do
  savePlace
  allowKey false
  let m := (← cursorOf).mark
  push (← scan) m

def block (folded : Bool) : Lex Unit := do
  allowKey true
  dropPlace
  let m := (← cursorOf).mark
  push (.scalar (← blockScalar folded) false) m

def startsPlain (s : Lexer) : Bool :=
  let c := s.cursor
  let x := c.peek
  !(isSpaceOrEnd x || "-?:,[]\x7b\x7d#&*!|>'\"%@\x60".toList.contains x)
    || (!isSpaceOrEnd (c.peek 1) && (x == '-' || (s.level == 0 && (x == '?' || x == ':'))))

-- Reads the next token.
def fetch : Lex Unit := do
  toNextToken (← get).bound
  dropStale
  unwind (Int.ofNat (← cursorOf).mark.column)
  let s ← get
  let c := s.cursor
  let x := c.peek
  let atStart := c.mark.column == 0
  let flow := s.level != 0
  if x == '\x00' then
    atTopLevel
    push .streamEnd (← cursorOf).mark
    modify fun s => { s with places := [], ended := true }
  else if x == '%' && atStart then
    atTopLevel
    let m := (← cursorOf).mark
    push (← directive) m
  else if atStart && c.atSeparator '-' then
    atTopLevel
    simple .documentStart 3
  else if atStart && c.atSeparator '.' then
    atTopLevel
    simple .documentEnd 3
  else if x == '[' then openFlow .openBracket
  else if x == '\x7b' then openFlow .openBrace
  else if x == ']' then closeFlow .closeBracket
  else if x == '\x7d' then closeFlow .closeBrace
  else if x == ',' then
    allowKey true
    dropPlace
    simple .comma
  else if x == '-' && isSpaceOrEnd (c.peek 1) then blockEntry
  else if x == '?' && (flow || isSpaceOrEnd (c.peek 1)) then key
  else if x == ':' && (flow || isSpaceOrEnd (c.peek 1)) then value
  else if x == '*' then item (return .reference (← anchorName "alias"))
  else if x == '&' then item (return .anchor (← anchorName "anchor"))
  else if x == '!' then item tag
  else if x == '|' && !flow then block false
  else if x == '>' && !flow then block true
  else if x == '\'' then item (return .scalar (← quotedScalar false) false)
  else if x == '"' then item (return .scalar (← quotedScalar true) false)
  else if startsPlain s then item (return .scalar (← plainScalar) true)
  else
    fail (some ("while scanning for the next token", c.mark))
      ("found character " ++ (String.singleton x).quoted ++ " that cannot start any token")

/-! Giving tokens out -/

-- Whether more has to be read before the next token can be given out.
def needsMore : Lex Bool := do
  let s ← get
  if s.ended then return false
  else if s.tokens.isEmpty then return true
  else
    dropStale
    let s ← get
    return s.places.any fun k => k.token == s.taken

def fill : Nat → Lex Unit
  | 0 => pure ()
  | n + 1 => do
    if ← needsMore then
      fetch
      fill n

-- The next token, which stays the next.
def first : Lex Token := do
  fill (← get).bound
  let s ← get
  return s.tokens.headD ⟨.streamEnd, s.cursor.mark, s.cursor.mark⟩

-- Gives out the next token.
def advance : Lex Token := do
  let t ← first
  modify fun s => { s with tokens := s.tokens.tail, taken := s.taken + 1 }
  return t

def isAllowed (c : Char) : Bool :=
  let n := c.toNat
  n == 9 || n == 10 || n == 13 || (0x20 ≤ n && n ≤ 0x7E) || n == 0x85
    || (0xA0 ≤ n && n ≤ 0xD7FF) || (0xE000 ≤ n && n ≤ 0xFFFD) || 0x10000 ≤ n

-- The first character that no text may hold, with its place.
def unfit? (s : List Char) : Option (Char × Nat) :=
  (s.find? (! isAllowed ·)).map fun c => (c, (s.takeWhile isAllowed).length)

-- The lexer at the start of a text.
def start (s : List Char) (barrier : Option Barrier := none) : Lexer :=
  let c := Cursor.start s
  { cursor := if c.peek.toNat == 0xFEFF then c.next else c, barrier, bound := s.length + 2 }

end Lexer

end Refit.Yaml
