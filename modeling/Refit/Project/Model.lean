import Refit.Project.Field
import Refit.Source.File
import Refit.Source.Outline

/-!
Data classes: those that are no part of the user interface.
-/

namespace Refit

-- A field that holds one or many of another model.
structure Relationship where
  type : Datum
  target : Datum
  field : Datum
  deriving Inhabited

namespace Relationship

open Pattern

def toDatum (r : Relationship) : Datum :=
  .record [("type", r.type), ("target", r.target), ("field_name", r.field)]

def ofDatum (d : Datum) : Datum.Read Relationship := do
  return ⟨← d.field "type", ← d.field "target", ← d.field "field_name"⟩

def builtinTypes : List String :=
  ["String", "int", "double", "bool", "DateTime", "dynamic", "Object", "Map", "Set", "List",
    "Iterable", "num"]

-- The name of a model: capitalised, and not built in.
def isModelType (name : String) : Bool :=
  !builtinTypes.contains name && name.toList.head?.any Letter.isAsciiUpper

def listOf : Pattern :=
  lit "List<" ++ group 1 (plus word) ++ char '>'

-- The type of a field decides alone. Generic types other than lists are no relationship.
def kind? (type : String) : Option (String × String) :=
  let listed := ((listOf.search? type).map (·.group 1)).filter isModelType
  match listed with
  | some target => some ("hasMany", target)
  | none =>
    if !type.holds "<" && isModelType type then some ("hasOne", type) else none

def ofType? (type : String) (field : Datum) : Option Relationship :=
  (kind? type).map fun (k, target) => ⟨.text k, .text target, field⟩

-- The relationships of fields whose types are texts.
def ofDeclared (fs : List Field) : List Relationship :=
  fs.filterMap fun f =>
    match f.type with
    | .text t => ofType? t f.name
    | _ => none

-- The relationships of stored fields.
def ofFields (fs : List Field) : Datum.Read (List Relationship) := do
  let found ← fs.mapM fun f => return ofType? (← f.type.searched) f.name
  return found.reduceOption

end Relationship

structure Model where
  name : Datum
  file : Datum
  fields : List Field := []
  annotations : List Datum := []
  relationships : List Relationship := []
  isImmutable : Bool := false
  hasJson : Bool := false
  deriving Inhabited

namespace Model

open Pattern

def toDatum (m : Model) : Datum :=
  .record [("name", m.name), ("file_path", m.file), ("fields", .list (m.fields.map Field.toDatum)),
    ("annotations", .list m.annotations),
    ("relationships", .list (m.relationships.map Relationship.toDatum)),
    ("is_immutable", .bool m.isImmutable), ("has_json", .bool m.hasJson)]

def ofDatum (d : Datum) : Datum.Read Model := do
  let name ← d.field "name"
  let file ← Record.optional d "file_path" ""
  let fields ← Record.each d "fields" Field.ofDatum
  let annotations ← Record.items d "annotations"
  let relationships ← Record.each d "relationships" Relationship.ofDatum
  let isImmutable ← Record.flag d "is_immutable"
  let hasJson ← Record.flag d "has_json"
  return ⟨name, file, fields, annotations, relationships, isImmutable, hasJson⟩

def nameList : Pattern :=
  plus (one fun c => Letter.isWord c || c == ',' || Letter.isBlank c)

-- The header of a class at the start of a line. The groups are its name and what it extends.
def header : Pattern :=
  lineStart ++ star (Field.metadata (star blank)) ++ opt (lit "abstract" ++ plus blank)
    ++ lit "class" ++ plus blank ++ group 1 (plus word)
    ++ opt (plus blank ++ lit "extends" ++ plus blank ++ group 2 (plus word))
    ++ opt (plus blank ++ lit "with" ++ plus blank ++ nameList)
    ++ opt (plus blank ++ lit "implements" ++ plus blank ++ nameList)
    ++ star blank ++ char '\x7b'

def abstractWord : Pattern :=
  wordEdge ++ lit "abstract" ++ wordEdge

def widgetMarkers : List String :=
  ["StatefulWidget", "StatelessWidget", "HookWidget", "ConsumerWidget", "Widget"]

-- Whether a class is part of the user interface, by the name of what it extends.
def isWidgetBase (base : Option String) : Bool :=
  base.any fun b => widgetMarkers.any b.holds

def ofMatch? (file : String) (withAbstract : Bool) (m : Match) : Option Model :=
  if (!withAbstract && abstractWord.occurs m.text) || isWidgetBase (m.group? 2) then none
  else
    let body := String.ofList (Outline.body m.start.rest)
    let fields := Field.ofBody body
    let annotations := Field.annotationNames m.text
    some
      { name := .text (m.group 1)
        file := .text file
        fields := fields
        annotations := annotations.map .text
        relationships := Relationship.ofDeclared fields
        isImmutable := annotations.contains "freezed" || annotations.contains "immutable"
        hasJson := annotations.contains "JsonSerializable" || body.holds "fromJson"
          || body.holds "toJson" }

-- The models that a source declares.
def ofSource (file content : String) (withAbstract : Bool := false) : List Model :=
  (header.all content).filterMap (ofMatch? file withAbstract)

def selector : Selector :=
  ⟨["models", "entities", "domain"], ["_model", "_entity"]⟩

def ofFiles (fs : List SourceFile) (withAbstract : Bool := false) : List Model :=
  (selector.select fs).flatMap fun f => ofSource f.path f.content withAbstract

end Model

end Refit
