import Refit.Project.Record
import Refit.Source.File
import Refit.Text.Pattern

/-!
The theme of a project, gathered file by file: the entry point first, then the theme files by path.
A file adds to what the files before it gave, and the last one to name a colour or a font decides.
-/

namespace Refit

structure Theme where
  usesMaterial : Bool := false
  usesCupertino : Bool := false
  primary : Datum := .null
  font : Datum := .null
  colors : Dict := []
  isCustom : Bool := false
  file : Datum := .null
  deriving Inhabited

namespace Theme

open Pattern

def toDatum (t : Theme) : Datum :=
  .record [("use_material", .bool t.usesMaterial), ("use_cupertino", .bool t.usesCupertino),
    ("primary_color", t.primary), ("font_family", t.font), ("colors", .dict t.colors),
    ("has_custom_theme", .bool t.isCustom), ("theme_file_path", t.file)]

def ofDatum (d : Datum) : Datum.Read Theme := do
  let material ← Record.flag d "use_material"
  let cupertino ← Record.flag d "use_cupertino"
  let primary ← Record.optional d "primary_color" .null
  let font ← Record.optional d "font_family" .null
  let colors ← (← Record.orElse d "colors" (.dict [])).toDict
  let custom ← Record.flag d "has_custom_theme"
  let file ← Record.optional d "theme_file_path" .null
  return ⟨material, cupertino, primary, font, colors, custom, file⟩

-- Six digits get an opaque alpha in front; eight keep their own.
def normalHex (s : String) : String :=
  let u := s.uppered
  if u.length == 6 then "0xFF" ++ u else "0x" ++ u

def hexDigits : Pattern :=
  many 6 (some 8) true (one Letter.isHex)

def zeroX : Pattern :=
  opt (lit "0x")

def primaryColor : Pattern :=
  lit "primaryColor" ++ star blank ++ char ':' ++ star blank
    ++ opt (lit "Color" ++ star blank ++ char '(') ++ zeroX ++ group 1 hexDigits

def primarySwatch : Pattern :=
  lit "primarySwatch" ++ star blank ++ char ':' ++ star blank ++ lit "Colors."
    ++ group 1 (plus word)

def colorLiteral : Pattern :=
  lit "Color" ++ star blank ++ char '(' ++ zeroX ++ group 1 hexDigits ++ char ')'

def fontFamily : Pattern :=
  lit "fontFamily" ++ star blank ++ char ':' ++ star blank ++ oneOf "'\""
    ++ group 1 (plus word) ++ oneOf "'\""

def namedColor : Pattern :=
  lit "static" ++ plus blank ++ opt ((lit "final" <|> lit "const") ++ plus blank)
    ++ lit "Color" ++ plus blank ++ group 1 (plus word) ++ star blank ++ char '=' ++ star blank
    ++ opt (lit "const" ++ plus blank) ++ opt (lit "Color" ++ star blank ++ char '(') ++ zeroX
    ++ group 2 hexDigits

-- The primary colour that a file gives: a literal at the name, a swatch, or any literal.
def primaryOf (source : String) : Option String :=
  if source.holds "primaryColor" then
    match primaryColor.search? source with
    | some m => some (normalHex (m.group 1))
    | none =>
      match primarySwatch.search? source with
      | some m => some ("Colors." ++ m.group 1)
      | none => (colorLiteral.search? source).map fun m => normalHex (m.group 1)
  else none

def fontOf (source : String) : Option String :=
  (fontFamily.search? source).map (·.group 1)

-- The named colours of a file, in order.
def colorsOf (source : String) : List (String × String) :=
  (namedColor.all source).map fun m => (m.group 1, normalHex (m.group 2))

-- Adds the facts of one file.
def merge (t : Theme) (source : String) : Theme :=
  { t with
    usesMaterial := t.usesMaterial || source.holds "MaterialApp" || source.holds "ThemeData"
    usesCupertino :=
      t.usesCupertino || source.holds "CupertinoApp" || source.holds "CupertinoThemeData"
    primary := ((primaryOf source).map .text).getD t.primary
    font := ((fontOf source).map .text).getD t.font
    colors := (colorsOf source).foldl (fun cs c => cs.set c.1 (.text c.2)) t.colors }

def entryPoint : String :=
  "lib/main.dart"

def isEntryPoint (path : String) : Bool :=
  path == entryPoint || path.finishesWith ("/" ++ entryPoint)

def mergeFile (t : Theme) (f : SourceFile) : Theme :=
  { t.merge f.content with isCustom := true, file := .text f.path }

-- The theme of an entry point and theme files.
def gather (entry : Option SourceFile) (files : List SourceFile) : Theme :=
  files.foldl mergeFile ((entry.map fun f => Theme.merge {} f.content).getD {})

def selector : Selector :=
  ⟨["theme", "themes"], ["theme"]⟩

-- The theme files among the files of a project, by path.
def filesOf (fs : List SourceFile) : List SourceFile :=
  ((selector.select fs).filter (! isEntryPoint ·.path)).mergeSort fun f g => f.path ≤ g.path

def ofFiles (fs : List SourceFile) : Theme :=
  gather (fs.find? (isEntryPoint ·.path)) (filesOf fs)

end Theme

end Refit
