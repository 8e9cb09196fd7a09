import Refit.Project.Field
import Refit.Source.File
import Refit.Source.Outline

/-!
Widgets: classes of the user interface that build no scaffold, with the parameters of their
constructor.

A parameter is nullable if its declared type ends in a question mark, if it is not required, or if
its own text has a question mark. So an optional parameter with a default is nullable too.
-/

namespace Refit

structure Widget where
  name : Datum
  file : Datum
  kind : Datum := "stateless"
  props : List Field := []
  isReusable : Bool := false
  deriving Inhabited

namespace Widget

open Pattern

def toDatum (w : Widget) : Datum :=
  .record [("name", w.name), ("file_path", w.file), ("kind", w.kind),
    ("props", .list (w.props.map Field.toDatum)), ("is_reusable", .bool w.isReusable)]

def ofDatum (d : Datum) : Datum.Read Widget := do
  let props ← Record.each d "props" Field.ofDatum
  let name ← d.field "name"
  let file ← Record.optional d "file_path" ""
  let kind ← Record.optional d "kind" "stateless"
  let isReusable ← Record.flag d "is_reusable" (!props.isEmpty)
  return ⟨name, file, kind, props, isReusable⟩

-- The constructor of a class with its named parameters.
def constructor (name : String) : Pattern :=
  opt (lit "const" ++ plus blank) ++ lit name ++ star blank ++ char '(' ++ star blank
    ++ char '\x7b' ++ group 1 (star (noneOf "\x7d")) ++ char '\x7d'

def parameterName : Pattern :=
  opt (lit "required" ++ plus blank) ++ opt (lit "this.") ++ group 1 (plus word) ++ star blank
    ++ (char '=' <|> char ',' <|> textEnd)

-- The declaration of a final field.
def declaration (name : String) : Pattern :=
  lit "final" ++ plus blank
    ++ group 1 (plusLazy (one fun c => Field.typeChar c || Letter.isBlank c))
    ++ plus blank ++ lit name ++ star blank ++ char ';'

def skippedNames : List String :=
  ["key", "super"]

def propOf? (body parameter : String) : Option Field := do
  let m ← parameterName.search? parameter
  let name := m.group 1
  if skippedNames.contains name then none
  else
    let declared :=
      match (declaration name).search? body with
      | some d => (d.group 1).stripped
      | none => "dynamic"
    some
      { name := .text name
        type := .text (declared.replacing "?" "")
        nullable :=
          declared.finishesWith "?" || parameter.holds "?" || !parameter.holds "required" }

-- The parameters of the constructor of a class.
def propsOf (body name : String) : List Field :=
  match (constructor name).search? body with
  | none => []
  | some m =>
    (((m.group 1).splitAt ',').map String.stripped).filterMap fun p =>
      if p == "" then none else propOf? body p

def ofClass (file : String) (c : Outline.UiClass) : Widget :=
  let props := propsOf c.body c.name
  { name := .text c.name
    file := .text file
    kind := .text (Outline.kindOf c.base)
    props := props
    isReusable := !props.isEmpty }

-- The widgets that a source declares.
def ofSource (file source : String) : List Widget :=
  ((Outline.uiClasses source).filter (! Outline.buildsScaffold ·.body)).map (ofClass file)

def selector : Selector :=
  ⟨["widgets", "components", "shared", "common"], ["_widget"]⟩

def ofFiles (fs : List SourceFile) : List Widget :=
  (selector.select fs).flatMap fun f => ofSource f.path f.content

end Widget

end Refit
