import Refit.Project.Record
import Refit.Text.Pattern

/-!
Fields of a class, as its text declares them.
-/

namespace Refit

-- A field or a parameter of a constructor.
structure Field where
  name : Datum
  type : Datum
  nullable : Bool := false
  -- The text of the initial value, if there is one.
  initial : Datum := .null
  annotations : List Datum := []
  deriving Inhabited

namespace Field

open Pattern

def toDatum (f : Field) : Datum :=
  .record [("name", f.name), ("type", f.type), ("nullable", .bool f.nullable),
    ("default_value", f.initial), ("annotations", .list f.annotations)]

def ofDatum (d : Datum) : Datum.Read Field := do
  let name ← d.field "name"
  let type ← Record.optional d "type" "dynamic"
  let nullable ← Record.flag d "nullable"
  let initial ← Record.optional d "default_value" .null
  let annotations ← Record.items d "annotations"
  return ⟨name, type, nullable, initial, annotations⟩

def typeChar (c : Char) : Bool :=
  Letter.isWord c || c == '<' || c == '>' || c == ',' || c == '?'

-- An annotation with its arguments.
def metadata (inner : Pattern) : Pattern :=
  char '@' ++ plus word ++ opt (char '(' ++ star (noneOf ")") ++ char ')') ++ inner

def annotationName : Pattern :=
  char '@' ++ group 1 (plus word) ++ opt (char '(' ++ star (noneOf ")") ++ char ')')

-- The names of the annotations in a text.
def annotationNames (s : String) : List String :=
  (annotationName.all s).map (·.group 1)

def modifiers : Pattern :=
  star (anyOf (["final", "const", "late", "static"].map fun m => lit m ++ plus blank))

-- A declaration of a field on a line of its own: its type, its name and its initial value.
def declaration : Pattern :=
  lineStart ++ star (oneOf " \t") ++ star (metadata (star blank)) ++ modifiers
    ++ group 1 (one typeChar ++ starLazy (one fun c => typeChar c || c == ' ' || c == '\t'))
    ++ plus (oneOf " \t") ++ group 2 (plus word)
    ++ opt (star blank ++ char '=' ++ star blank ++ group 3 (plus (noneOf ";"))) ++ char ';'

def staticWord : Pattern :=
  wordEdge ++ lit "static" ++ wordEdge

-- Words that begin a statement, where a declaration would have its type.
def statementWords : List String :=
  ["return", "throw", "await", "yield", "else", "case", "break", "continue", "import", "export",
    "part"]

def ofMatch? (m : Match) : Option Field :=
  let full := m.text
  let type := (m.group 1).stripped
  let initial := m.group? 3
  let first := ((Text.words type.toList).head?.map String.ofList).getD ""
  if staticWord.occurs full || statementWords.contains first || type.finishesWith " get"
      || initial.any (·.strippedLeft.beginsWith ">") then
    none
  else
    some
      { name := .text (m.group 2)
        type := .text (type.replacing "?" "")
        nullable := type.finishesWith "?"
        initial := .ofOption (fun s => .text s.stripped) initial
        annotations := (annotationNames full).map .text }

-- The fields that a class body declares. Static ones, getters and statements are left out.
def ofBody (body : String) : List Field :=
  (declaration.all body).filterMap ofMatch?

end Field

end Refit
