import Refit.Source.File
import Refit.Text.Pattern

/-!
A project flattened into one text: a drawing of its folders, then every file under a header between
two rulers.

`Export.render` writes the format and `Export.ofText` reads it, leniently: what stands under no
header is skipped, and a header without an end is none.
-/

namespace Refit

structure Export where
  projectName : String
  -- The lines of the drawing that are not blank.
  drawing : List String
  files : List SourceFile
  deriving DecidableEq, Repr, Inhabited

namespace Export

open Text

def marker : List Char :=
  "Directory structure:".toList

def ruler : List Char :=
  List.replicate 48 '='

def header : List Char :=
  "FILE: ".toList

def defaultName : String :=
  "unknown_project"

/-! Reading -/

-- The lines of the drawing, once its marker has passed, up to the next ruler.
def drawingFrom (inside : Bool) : List (List Char) → List (List Char)
  | [] => []
  | l :: ls =>
    if contains marker l then drawingFrom true ls
    else if !inside then drawingFrom false ls
    else if ruler.isPrefixOf l then []
    else if l.all Letter.isBlank then drawingFrom true ls
    else l :: drawingFrom true ls

open Pattern in
def rootEntry : Pattern :=
  oneOf "└├" ++ lit "── " ++ group 1 (plus (noneOf "/")) ++ opt (char '/')

def projectNameOf (drawing : List String) : String :=
  match drawing.head?.bind rootEntry.search? with
  | some m => ((m.group 1).replacing "-" "_").lowered
  | none => defaultName

-- The path that the text between two rulers announces.
def path? (s : List Char) : Option (List Char) :=
  let s := trim Letter.isBlank s
  if header.isPrefixOf s then some (trim Letter.isBlank (s.drop header.length)) else none

-- The content in the text between two rulers, which ends where a header follows without one.
def content (s : List Char) : List Char :=
  trim Letter.isBlank (before ('\n' :: header) s)

def fileOf (path body : List Char) : SourceFile :=
  ⟨String.ofList path, String.ofList (content body)⟩

-- The files among the texts between rulers. The last text is never a header.
def filesOf : List (List Char) → List SourceFile
  | [] | [_] => []
  | h :: b :: rest =>
    match path? h with
    | some p => fileOf p b :: filesOf rest
    | none => filesOf (b :: rest)

-- The texts between the rulers, the first ruler beginning the first text.
def segments (s : List Char) : List (List Char) :=
  match find? ruler s with
  | some r => splitSeq (ruler ++ ['\n']) r
  | none => []

def ofChars (s : List Char) : Export :=
  let drawing := (drawingFrom false (split '\n' s)).map String.ofList
  ⟨projectNameOf drawing, drawing, filesOf (segments s)⟩

def ofText (s : String) : Export :=
  ofChars (replaceSeq ['\r', '\n'] ['\n'] s.toList)

def dartFiles (e : Export) : List SourceFile :=
  e.files.filter (Path.isDart ·.path)

-- The content of the first file at a path that ends as that of a manifest does.
def manifest? (e : Export) (fileName : String) : Option String :=
  (e.files.find? (·.path.finishesWith fileName)).map (·.content)

/-! Writing -/

-- The drawing of a root folder and the paths in it.
def draw (root : String) (files : List SourceFile) : List String :=
  ("└── " ++ root ++ "/") :: files.map fun f => "    ├── " ++ f.path

def renderFile (f : SourceFile) : String :=
  let line := String.ofList ruler
  line ++ "\n" ++ String.ofList header ++ f.path ++ "\n" ++ line ++ "\n" ++ f.content ++ "\n"

def render (root : String) (files : List SourceFile) : String :=
  "\n".joining <|
    ["\n".joining (String.ofList marker :: draw root files), ""] ++ files.map renderFile

end Export

end Refit
