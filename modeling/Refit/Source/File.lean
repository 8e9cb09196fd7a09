import Refit.Source.Path

/-!
Source files, and which of them an extraction looks at.
-/

namespace Refit

-- A file of the project, by its path below the project's root.
structure SourceFile where
  path : String
  content : String
  deriving DecidableEq, Repr, Inhabited

namespace SourceFile

def generatedEndings : List String :=
  [".g.dart", ".freezed.dart"]

def skippedFolders : List String :=
  ["build", ".dart_tool", ".git", ".idea", ".vscode", ".pub-cache"]

-- Generated files, build output and everything hidden.
def isExcluded (path : String) : Bool :=
  generatedEndings.any path.finishesWith
    || (Path.parts path).any (·.beginsWith ".")
    || (Path.folders path).any skippedFolders.contains

end SourceFile

-- Dart files in folders of certain names, or with names that end in certain ways.
structure Selector where
  folders : List String
  endings : List String
  deriving DecidableEq, Repr

namespace Selector

def stem (path : String) : String :=
  ((Path.parts path).getLast?.getD "").skipLastChars ".dart".length

def admits (s : Selector) (path : String) : Bool :=
  Path.isDart path
    && ((Path.folders path).any s.folders.contains || s.endings.any (stem path).finishesWith)

-- The first file at each path that is admitted and not excluded.
def selectFrom (s : Selector) (seen : List String) : List SourceFile → List SourceFile
  | [] => []
  | f :: fs =>
    if !seen.contains f.path && !SourceFile.isExcluded f.path && s.admits f.path then
      f :: selectFrom s (f.path :: seen) fs
    else selectFrom s seen fs

def select (s : Selector) (fs : List SourceFile) : List SourceFile :=
  s.selectFrom [] fs

end Selector

-- A name in words joined by underscores: each capital begins a word.
def snakeCase (name : String) : String :=
  let spread := name.toList.flatMap fun c => if Letter.isAsciiUpper c then ['_', c] else [c]
  String.ofList ((Text.lowerFrom [] spread).dropWhile (· == '_'))

end Refit
