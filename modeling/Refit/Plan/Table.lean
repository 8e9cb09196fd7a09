import Refit.Project.Model

/-!
Tables for models.

A table has a column for every field, and one for a key of its own if no field is a key. A field
whose name ends in `Id` refers to the table that the rest of its name names.
-/

namespace Refit

-- What a column refers to.
structure Reference where
  table : String
  deriving DecidableEq, Repr

structure Column where
  name : String
  dartName : Datum
  dartType : Datum
  sqlType : String
  nullable : Bool
  unique : Bool
  primaryKey : Bool
  autoIncrement : Bool
  initial : Datum
  reference : Option Reference

structure TableLink where
  type : Datum
  table : String
  foreignKey : String

structure Table where
  name : String
  dartClass : Datum
  columns : List Column
  links : List TableLink
  timestamps : Bool
  softDelete : Bool

namespace Column

open Datum (Read)

def integerTypes : List String :=
  ["int", "Int", "Integer"]

def realTypes : List String :=
  ["double", "Double", "num", "Num"]

def truthTypes : List String :=
  ["bool", "Bool", "boolean", "Boolean"]

-- The type of a column for a type of a field. What has no type of its own is kept as text.
def sqlTypeOf (dartType : String) : String :=
  let t := (dartType.replacing "?" "").stripped
  if integerTypes.contains t then "integer"
  else if realTypes.contains t then "real"
  else if truthTypes.contains t then "boolean"
  else if t == "DateTime" then "dateTime"
  else if t.beginsWith "List<" || t.beginsWith "Uint8List" then "blob"
  else "text"

def snakeOf (d : Datum) : Read String := do
  return snakeCase (← d.searched)

-- Whether an annotation mentions a word; the ones behind it are not looked at.
def anyMentions (word : String) : List Datum → Read Bool
  | [] => return false
  | a :: as => do if ← a.mentions word then return true else anyMentions word as

def ofField (f : Field) : Read Column := do
  let isId := f.name.same "id"
  let primaryKey ← if isId then pure true else anyMentions "primaryKey" f.annotations
  let sqlType := sqlTypeOf (← f.type.asText "replace")
  let name ← f.name.asText "endswith"
  let reference : Option Reference :=
    if name.finishesWith "Id" && !primaryKey then some ⟨snakeCase (name.skipLastChars 2)⟩ else none
  let unique ← anyMentions "unique" f.annotations
  return {
    name := snakeCase name
    dartName := f.name
    dartType := f.type
    sqlType := sqlType
    nullable := f.nullable
    unique := unique
    primaryKey := primaryKey
    autoIncrement := primaryKey && sqlType == "integer"
    initial := f.initial
    reference := reference }

-- The key of a table without one of its own.
def key : Column where
  name := "id"
  dartName := "id"
  dartType := "int"
  sqlType := "integer"
  nullable := false
  unique := true
  primaryKey := true
  autoIncrement := true
  initial := .null
  reference := none

def toDatum (c : Column) : Datum :=
  .record [("name", .text c.name), ("dart_name", c.dartName), ("dart_type", c.dartType),
    ("sql_type", .text c.sqlType), ("nullable", .bool c.nullable), ("unique", .bool c.unique),
    ("primary_key", .bool c.primaryKey), ("auto_increment", .bool c.autoIncrement),
    ("default_value", c.initial),
    ("references", .ofOption (fun r => .record [("table", .text r.table), ("column", "id"),
      ("on_delete", "cascade")]) c.reference)]

end Column

namespace Table

open Datum (Read)

def linkOf (r : Relationship) : Read TableLink := do
  let table ← Column.snakeOf r.target
  let key ← Column.snakeOf r.field
  return ⟨r.type, table, key ++ "_id"⟩

def withKey (columns : List Column) : List Column :=
  if columns.any (·.primaryKey) then columns else Column.key :: columns

def ofModel (m : Model) : Read Table := do
  let columns ← m.fields.mapM Column.ofField
  let names ← m.fields.mapM fun f => f.name.asKey
  let has (name : String) : Bool := names.any (Datum.same (.text name))
  let name ← Column.snakeOf m.name
  let links ← m.relationships.mapM linkOf
  return ⟨name, m.name, withKey columns, links, has "createdAt" && has "updatedAt",
    has "deletedAt"⟩

def toDatum (t : Table) : Datum :=
  .record [("name", .text t.name), ("dart_class_name", t.dartClass),
    ("columns", .list (t.columns.map Column.toDatum)),
    ("relationships", .list (t.links.map fun l =>
      .record [("type", l.type), ("related_table", .text l.table),
        ("foreign_key", .text l.foreignKey)])),
    ("timestamps", .bool t.timestamps), ("soft_delete", .bool t.softDelete)]

end Table

end Refit
