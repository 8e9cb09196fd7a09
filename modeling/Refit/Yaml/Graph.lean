import Refit.Text.Portions
import Refit.Yaml.Lexer
import Refit.Yaml.Scalar

/-!
The graph of a YAML document: its nodes are tagged scalars, sequences and mappings, and parts are
named by number. An alias is the number of the node that it names, which may be one around it.
-/

namespace Refit.Yaml

inductive Content where
  | scalar (text : String)
  | seq (items : List Nat)
  | map (entries : List (Nat × Nat))
  deriving Inhabited

structure Node where
  mark : Mark
  tag : String
  content : Content
  deriving Inhabited

def Node.word (n : Node) : String :=
  match n.content with
  | .scalar _ => "scalar"
  | .seq _ => "sequence"
  | .map _ => "mapping"

structure Graph where
  nodes : Array Node
  root : Nat

structure Parse where
  lexer : Lexer
  handles : List (String × String) := []
  -- The node of each anchor, which need not be complete.
  anchors : List (String × Nat) := []
  nodes : Array Node := #[]

abbrev Parser := StateT Parse (Except Refusal)

namespace Parse

def lexed {α : Type} (m : Lex α) : Parser α := do
  let s ← get
  let (a, l) ← m.run s.lexer
  set { s with lexer := l }
  return a

def peek : Parser Token :=
  lexed Lexer.first

def advance : Parser Token :=
  lexed Lexer.advance

def at? (kinds : List Token.Kind) : Parser Bool :=
  return kinds.contains (← peek).kind

def accept (kind : Token.Kind) : Parser Bool := do
  if (← peek).kind == kind then
    let _ ← advance
    return true
  else return false

def fail {α : Type} (context : Option (String × Mark)) (problem : String) (m : Mark) : Parser α :=
  throw (.trouble ⟨context.map Prod.fst, context.map Prod.snd, problem, some m⟩)

def unexpected {α : Type} (what : String) (start : Mark) (expected : String) : Parser α := do
  let t ← peek
  fail (some ("while parsing a " ++ what, start)) (expected ++ " " ++ t.kind.shown) t.mark

-- Adds a node. The anchor, if there is one, has to be new.
def add (anchor : Option String) (n : Node) : Parser Nat := do
  let s ← get
  let id := s.nodes.size
  match anchor with
  | none => set { s with nodes := s.nodes.push n }
  | some a =>
    match s.anchors.lookup a with
    | some i =>
      throw (.trouble ⟨some ("found duplicate anchor " ++ a.quoted ++ "; first occurrence"),
        (s.nodes[i]?).map (·.mark), "second occurrence", some n.mark⟩)
    | none => set { s with nodes := s.nodes.push n, anchors := (a, id) :: s.anchors }
  return id

-- Gives a collection its parts.
def complete (id : Nat) (content : Content) : Parser Nat := do
  modify fun s => { s with nodes := s.nodes.modify id fun n => { n with content } }
  return id

def resolve (a : String) (m : Mark) : Parser Nat := do
  match (← get).anchors.lookup a with
  | some id => return id
  | none => fail none ("found undefined alias " ++ a.quoted) m

-- What may stand in front of a node.
structure Head where
  anchor : Option String
  tag : Option (Option String × String × Mark)

def anchorHead : Parser (Option String) := do
  match (← peek).kind with
  | .anchor a =>
    let _ ← advance
    return some a
  | _ => return none

def tagHead : Parser (Option (Option String × String × Mark)) := do
  let t ← peek
  match t.kind with
  | .tag h s =>
    let _ ← advance
    return some (h, s, t.mark)
  | _ => return none

def head : Parser Head := do
  match ← anchorHead with
  | some a => return ⟨some a, ← tagHead⟩
  | none =>
    match ← tagHead with
    | some t => return ⟨← anchorHead, some t⟩
    | none => return ⟨none, none⟩

-- The tag with its handle replaced.
def fullTag (start : Mark) : Option (Option String × String × Mark) → Parser (Option String)
  | none => return none
  | some (none, s, _) => return some s
  | some (some h, s, m) => do
    match (← get).handles.lookup h with
    | some t => return some (t ++ s)
    | none =>
      fail (some ("while parsing a node", start)) ("found undefined tag handle " ++ h.quoted) m

def scalarTag (tag : Option String) (plain : Bool) (s : String) : String :=
  match tag with
  | none => if plain then plainTag s else Tag.text
  | some "!" => impliedTag s
  | some t => t

def blockTag (tag : Option String) (fallback : String) : String :=
  match tag with
  | none | some "!" => fallback
  | some t => t

-- How many collections may stand inside each other.
def deepest : Nat := 485

def ifShallow (level : Nat) : Parser Unit :=
  if deepest < level then throw .tooDeep else pure ()

def emptyAt (m : Mark) : Parser Nat :=
  add none ⟨m, Tag.null, .scalar ""⟩

mutual

def node (block indentless : Bool) (level : Nat) : Nat → Parser Nat
  | 0 => throw .tooDeep
  | n + 1 => do
    ifShallow level
    let t ← peek
    match t.kind with
    | .reference a =>
      let _ ← advance
      resolve a t.mark
    | _ =>
      let h ← head
      let tag ← fullTag t.mark h.tag
      let u ← peek
      let scalar (plain : Bool) (s : String) : Parser Nat :=
        add h.anchor ⟨t.mark, scalarTag tag plain s, .scalar s⟩
      let seq : Parser Nat := add h.anchor ⟨t.mark, blockTag tag Tag.seq, .seq []⟩
      let map : Parser Nat := add h.anchor ⟨t.mark, blockTag tag Tag.map, .map []⟩
      match u.kind with
      | .scalar s plain => do
        let _ ← advance
        scalar plain s
      | .openBracket => do
        let id ← seq
        let _ ← advance
        complete id (.seq (← flowItems u.mark level [] n))
      | .openBrace => do
        let id ← map
        let _ ← advance
        complete id (.map (← flowEntries u.mark level [] n))
      | k =>
        if indentless && k == .blockEntry then do
          let id ← seq
          complete id (.seq (← looseItems level [] n))
        else if block && k == .blockSequence then do
          let id ← seq
          let _ ← advance
          complete id (.seq (← blockItems u.mark level [] n))
        else if block && k == .blockMapping then do
          let id ← map
          let _ ← advance
          complete id (.map (← blockEntries u.mark level [] n))
        else if h.anchor.isSome || tag.isSome then
          scalar true ""
        else
          unexpected ((if block then "block" else "flow") ++ " node") t.mark
            "expected the node content, but found"
termination_by structural n => n

-- A node behind a token, or an empty one where the next token is one of those.
def nodeUnless (stops : List Token.Kind) (before : Token) (block indentless : Bool) (level : Nat) :
    Nat → Parser Nat
  | 0 => throw .tooDeep
  | n + 1 => do
    if ← at? stops then emptyAt before.stop else node block indentless (level + 1) n
termination_by structural n => n

-- The value of a key; where no colon follows it is empty.
def valueUnless (stops : List Token.Kind) (block : Bool) (level : Nat) : Nat → Parser Nat
  | 0 => throw .tooDeep
  | n + 1 => do
    let t ← peek
    if ← accept .value then nodeUnless stops t block block level n else emptyAt t.mark
termination_by structural n => n

def blockItems (start : Mark) (level : Nat) (done : List Nat) : Nat → Parser (List Nat)
  | 0 => throw .tooDeep
  | n + 1 => do
    let t ← peek
    if ← accept .blockEntry then
      let x ← nodeUnless [.blockEntry, .blockEnd] t true false level n
      blockItems start level (x :: done) n
    else if ← accept .blockEnd then return done.reverse
    else unexpected "block collection" start "expected <block end>, but found"
termination_by structural n => n

def looseItems (level : Nat) (done : List Nat) : Nat → Parser (List Nat)
  | 0 => throw .tooDeep
  | n + 1 => do
    let t ← peek
    if ← accept .blockEntry then
      let x ← nodeUnless [.blockEntry, .key, .value, .blockEnd] t true false level n
      looseItems level (x :: done) n
    else return done.reverse
termination_by structural n => n

def blockEntries (start : Mark) (level : Nat) (done : List (Nat × Nat)) :
    Nat → Parser (List (Nat × Nat))
  | 0 => throw .tooDeep
  | n + 1 => do
    let t ← peek
    if ← accept .key then
      let k ← nodeUnless [.key, .value, .blockEnd] t true true level n
      let v ← valueUnless [.key, .value, .blockEnd] true level n
      blockEntries start level ((k, v) :: done) n
    else if ← accept .blockEnd then return done.reverse
    else unexpected "block mapping" start "expected <block end>, but found"
termination_by structural n => n

def flowItems (start : Mark) (level : Nat) (done : List Nat) : Nat → Parser (List Nat)
  | 0 => throw .tooDeep
  | n + 1 => do
    if ← accept .closeBracket then return done.reverse
    else
      unless done.isEmpty do
        unless ← accept .comma do
          unexpected "flow sequence" start "expected ',' or ']', but got"
      let t ← peek
      if t.kind == .key then
        ifShallow (level + 1)
        let id ← add none ⟨t.mark, Tag.map, .map []⟩
        let _ ← advance
        let k ← nodeUnless [.value, .comma, .closeBracket] t false false (level + 1) n
        let v ← valueUnless [.comma, .closeBracket] false (level + 1) n
        let id ← complete id (.map [(k, v)])
        flowItems start level (id :: done) n
      else if ← accept .closeBracket then return done.reverse
      else
        let x ← node false false (level + 1) n
        flowItems start level (x :: done) n
termination_by structural n => n

def flowEntries (start : Mark) (level : Nat) (done : List (Nat × Nat)) :
    Nat → Parser (List (Nat × Nat))
  | 0 => throw .tooDeep
  | n + 1 => do
    if ← accept .closeBrace then return done.reverse
    else
      unless done.isEmpty do
        unless ← accept .comma do
          unexpected "flow mapping" start "expected ',' or '\x7d', but got"
      let t ← peek
      if ← accept .key then
        let k ← nodeUnless [.value, .comma, .closeBrace] t false false level n
        let v ← valueUnless [.comma, .closeBrace] false level n
        flowEntries start level ((k, v) :: done) n
      else if ← accept .closeBrace then return done.reverse
      else
        let k ← node false false (level + 1) n
        let v ← emptyAt (← peek).mark
        flowEntries start level ((k, v) :: done) n
termination_by structural n => n

end

-- The directives before a document, and the tag handles they give.
def directives : Nat → Bool → List (String × String) → Parser (List (String × String))
  | 0, _, handles => return handles
  | n + 1, versioned, handles => do
    let t ← peek
    match t.kind with
    | .version major => do
      let _ ← advance
      if versioned then fail none "found duplicate YAML directive" t.mark
      else if major != 1 then
        fail none "found incompatible YAML document (version 1.* is required)" t.mark
      else directives n true handles
    | .tagHandle h s => do
      let _ ← advance
      if (handles.lookup h).isSome then fail none ("duplicate tag handle " ++ h.quoted) t.mark
      else directives n versioned (handles ++ [(h, s)])
    | .otherDirective => do
      let _ ← advance
      directives n versioned handles
    | _ => return handles

def defaultHandles : List (String × String) :=
  [("!", "!"), ("!!", Tag.core "")]

def skipEnds : Nat → Parser Unit
  | 0 => pure ()
  | n + 1 => do if ← accept .documentEnd then skipEnds n

def documentStart : Parser Unit := do
  let t ← peek
  if t.kind != .documentStart then
    fail none ("expected '<document start>', but found " ++ t.kind.shown) t.mark
  let _ ← advance

-- The root of the only document of the text, if there is one.
def document (fuel : Nat) : Parser (Option Nat) := do
  let first ← peek
  if first.kind == .streamEnd then return none
  let root ←
    if first.kind.isDirective || first.kind == .documentStart then do
      let given ← directives fuel false []
      modify fun s => { s with handles := given ++ defaultHandles }
      documentStart
      let u ← peek
      if u.kind.isDirective || u.kind == .documentStart || u.kind == .documentEnd
          || u.kind == .streamEnd then
        emptyAt u.mark
      else node true false 0 fuel
    else do
      modify fun s => { s with handles := defaultHandles }
      node true false 0 fuel
  skipEnds fuel
  let t ← peek
  if t.kind == .streamEnd then return some root
  else
    -- What follows has to be a document of its own before it can be one too many.
    let _ ← directives fuel false []
    documentStart
    throw (.trouble ⟨some "expected a single document in the stream",
      ((← get).nodes[root]?).map (·.mark), "but found another document", some t.mark⟩)

end Parse

def Refusal.message (name : String) : Refusal → String
  | character c n =>
    "unacceptable character #x" ++ String.ofList (Text.Quoted.hex 4 c.toNat)
      ++ ": special characters are not allowed\n  in \"" ++ name ++ "\", position " ++ toString n
  | undecodable t => t.message
  | codePoint n => (Fault.codePoint n).message
  | tooDeep => Fault.tooDeep.message
  | trouble t => t.message name

namespace Graph

-- The document that a lexer reads.
def ofLexer (lexer : Lexer) : Except Refusal (Option Graph) := do
  let (root, s) ← (Parse.document (16 * lexer.bound)).run { lexer }
  return root.map fun root => ⟨s.nodes, root⟩

-- The document of a text.
def ofText (s : String) : Except Refusal (Option Graph) :=
  match Lexer.unfit? s.toList with
  | some (c, i) => .error (.character c i)
  | none => ofLexer (.start s.toList)

-- How many portions of a text are looked at before it is read.
def portionsAhead : Nat := 2

-- What stands in the way of reading portions, at the start of the portion that it is in.
def barrier? (p : Portions) : Option Barrier :=
  let end_ := p.text.length
  let broken : Option Barrier := p.trouble.map fun t => ⟨end_, .undecodable t⟩
  let unfit : Option Barrier := (Lexer.unfit? p.text.toList).map fun (c, i) =>
    ⟨Portions.startOf i, .character c i⟩
  if end_ < portionsAhead * Portions.portion then broken <|> unfit else unfit <|> broken

-- The document of a text in portions.
def ofPortions (p : Portions) : Except Refusal (Option Graph) :=
  match barrier? p with
  | none => ofLexer (.start p.text.toList)
  | some b =>
    if b.index < portionsAhead * Portions.portion then .error b.refusal
    else ofLexer (.start p.text.toList (some b))

end Graph

end Refit.Yaml
