import Refit.Text.Quoted
import Refit.Text.Utf8

/-!
The tokens of a YAML text, and the places and troubles that readers of the text speak of.
-/

namespace Refit.Yaml

-- A place in a text, counted from zero.
structure Mark where
  line : Nat
  column : Nat
  deriving DecidableEq, Repr, Inhabited

-- Why a text is not a document: what was being read and where that began, and what was found.
structure Trouble where
  context : Option String
  contextMark : Option Mark
  problem : String
  mark : Option Mark
  deriving Repr

-- Why a text has no nodes.
inductive Refusal where
  -- A character that no text may hold.
  | character (c : Char) (position : Nat)
  -- Bytes that are no text.
  | undecodable (t : Utf8.Trouble)
  -- An escape of a number that is no character's.
  | codePoint (n : Nat)
  -- Too many collections inside each other.
  | tooDeep
  | trouble (t : Trouble)

-- Places are named in a text that has a name.
def Mark.shown (name : String) (m : Mark) : String :=
  "  in \"" ++ name ++ "\", line " ++ toString (m.line + 1)
    ++ ", column " ++ toString (m.column + 1)

-- The place of the context is left out where the problem stands at the same place.
def Trouble.message (name : String) (t : Trouble) : String :=
  let place (m : Option Mark) : List String := (m.map (Mark.shown name)).toList
  let contextPlace :=
    match t.contextMark, t.mark with
    | some c, some m => if c == m then [] else place (some c)
    | c, _ => place c
  "\n".intercalate (t.context.toList ++ contextPlace ++ [t.problem] ++ place t.mark)

inductive Token.Kind where
  | streamEnd
  | version (major : Nat)
  | tagHandle (handle start : String)
  | otherDirective
  | documentStart
  | documentEnd
  | blockSequence
  | blockMapping
  | blockEnd
  | openBracket
  | closeBracket
  | openBrace
  | closeBrace
  | blockEntry
  | comma
  | key
  | value
  | reference (name : String)
  | anchor (name : String)
  | tag (handle : Option String) (rest : String)
  | scalar (text : String) (plain : Bool)
  deriving DecidableEq, Repr

structure Token where
  kind : Token.Kind
  mark : Mark
  -- The place behind the token.
  stop : Mark
  deriving Repr

namespace Token.Kind

def isDirective : Token.Kind → Bool
  | version _ | tagHandle _ _ | otherDirective => true
  | _ => false

-- The word for a token in a message.
def shown : Token.Kind → String
  | streamEnd => "'<stream end>'"
  | version _ | tagHandle _ _ | otherDirective => "'<directive>'"
  | documentStart => "'<document start>'"
  | documentEnd => "'<document end>'"
  | blockSequence => "'<block sequence start>'"
  | blockMapping => "'<block mapping start>'"
  | blockEnd => "'<block end>'"
  | openBracket => "'['"
  | closeBracket => "']'"
  | openBrace => "'\x7b'"
  | closeBrace => "'\x7d'"
  | blockEntry => "'-'"
  | comma => "','"
  | key => "'?'"
  | value => "':'"
  | reference _ => "'<alias>'"
  | anchor _ => "'<anchor>'"
  | tag _ _ => "'<tag>'"
  | scalar _ _ => "'<scalar>'"

end Token.Kind

end Refit.Yaml
