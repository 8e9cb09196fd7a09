import Refit.Project.Folder
import Refit.Text.Pattern

/-!
The architecture of a project, by the names of the folders in its source folder.

Each style has a score of up to 100. The highest score wins, the earlier style winning a tie, but a
score below 40 is no style at all.
-/

namespace Refit

structure Assessment where
  detected : Datum
  confidence : Float
  structure_ : Folder
  reasoning : Datum
  deriving Inhabited

namespace Assessment

def toDatum (a : Assessment) : Datum :=
  .record [("detected", a.detected), ("confidence", .float a.confidence),
    ("structure", a.structure_.toDatum), ("reasoning", a.reasoning)]

def reasoningOf (d : Datum) : Datum.Read Datum :=
  match d.items? with
  | some xs => return .text (← Datum.joinTexts "; " xs)
  | none => return d

def ofDatum (d : Datum) : Datum.Read Assessment := do
  let reasoning ← reasoningOf (← Record.optional d "reasoning" "")
  let detected ← Record.optional d "detected" "custom"
  let confidence ← (← Record.optional d "confidence" (.float 0)).toFloat
  let tree ← Folder.ofDatum
    (← Record.orElse d "structure" (.record [("name", "lib"), ("path", "lib")]))
  return ⟨detected, confidence, tree, reasoning⟩

end Assessment

namespace Architecture

-- The styles, in the order in which they win ties.
inductive Style where
  | clean
  | featureFirst
  | layerFirst
  deriving DecidableEq, Repr

namespace Style

def all : List Style :=
  [clean, featureFirst, layerFirst]

def name : Style → String
  | clean => "clean"
  | featureFirst => "feature-first"
  | layerFirst => "layer-first"

end Style

-- A score, and what it is based on.
structure Score where
  points : Nat
  reasons : List String
  deriving DecidableEq, Repr

-- The names of the folders in a folder, which is given by its segments.
abbrev Lister := List String → List String

def cleanFolders : List String :=
  ["domain", "data", "presentation"]

def layerFolders : List String :=
  ["models", "views", "controllers", "services", "screens", "pages", "providers", "repositories",
    "widgets"]

def featureParts : List String :=
  ["data", "domain", "presentation", "screens", "widgets"]

def listed (names : List String) : String :=
  ", ".joining names

def cleanScore (folders : List String) : Score :=
  let found := cleanFolders.filter folders.contains
  let two := "Found clean arch folders: " ++ listed found
  if found.length == 3 then ⟨70, [two, "All three clean architecture layers present"]⟩
  else if found.length == 2 then ⟨40, [two]⟩
  else ⟨0, []⟩

open Pattern in
def featureRoot : Pattern :=
  (lit "features" <|> lit "modules") ++ textEnd

def isFeatureRoot (name : String) : Bool :=
  (featureRoot.matchAt? (Spot.start name.toList)).isSome

def featureScore (folders : List String) (list : Lister) : Score :=
  match folders.find? isFeatureRoot with
  | none => ⟨0, []⟩
  | some root =>
    let found := "Found features folder: " ++ root
    match list [root] with
    | first :: _ :: rest =>
      let many := "Found " ++ toString (rest.length + 2) ++ " feature modules"
      if featureParts.any (list [root, first]).contains then
        ⟨80, [found, many, "Feature modules have internal structure"]⟩
      else ⟨50, [found, many]⟩
    | _ => ⟨30, [found]⟩

def layerScore (folders : List String) : Score :=
  let found := layerFolders.filter folders.contains
  if 3 ≤ found.length then ⟨60, ["Found layer folders: " ++ listed found]⟩
  else if 2 ≤ found.length then ⟨40, ["Found some layer folders: " ++ listed found]⟩
  else ⟨0, []⟩

def score (list : Lister) : Style → Score
  | .clean => cleanScore (list [])
  | .featureFirst => featureScore (list []) list
  | .layerFirst => layerScore (list [])

-- The least score that makes a style.
def threshold : Nat := 40

-- The first style with the highest score.
def winner (points : Style → Nat) : Style :=
  Style.all.foldl (fun best s => if points best < points s then s else best) .clean

def share (points : Nat) : Float :=
  Float.ofNat points / 100

def classify (list : Lister) (tree : Folder) : Assessment :=
  let points (s : Style) : Nat := (score list s).points
  let reasons := Style.all.flatMap fun s => (score list s).reasons
  let style := winner points
  if points style < threshold then
    ⟨"custom", share (100 - points style), tree,
      .text ("; ".joining (reasons ++ ["No clear architecture pattern detected"]))⟩
  else ⟨.text style.name, share (points style), tree, .text ("; ".joining reasons)⟩

/-! From a list of paths -/

-- The segments behind the first one named `root`, if none of them is hidden.
def below? (root path : String) : Option (List String) :=
  match (Path.parts path).dropWhile (· != root) with
  | [] | [_] => none
  | _ :: rest => if rest.any (·.beginsWith ".") then none else some rest

def sortNames (names : List String) : List String :=
  names.mergeSort fun a b => a ≤ b

-- The folders in a folder that paths lead through.
def listPaths (files : List (List String)) : Lister := fun at_ =>
  let inside := files.filterMap fun f =>
    if at_.isPrefixOf f then
      match f.drop at_.length with
      | name :: _ :: _ => some name
      | _ => none
    else none
  sortNames inside.eraseDups

-- The nodes below a folder for the files in it, which are sorted and given from there.
def treeFrom : Nat → String → String → List (List String) → List Folder
  | 0, _, _, _ => []
  | n + 1, path, parent, files =>
    let heads := (files.filterMap List.head?).eraseDups
    heads.map fun name =>
      let own := path ++ "/" ++ name
      let rests := files.filterMap fun f =>
        match f with
        | [] => none
        | x :: r => if x == name then some r else none
      let children := treeFrom n own name rests
      if rests.contains [] then
        .node (.text name) (.text own) "file" children (.text (Folder.fileTypeOf name))
          (.text (Folder.categoryOf name parent))
      else .folder name own children

def treeOf (root : String) (files : List (List String)) : Folder :=
  .folder root root
    (treeFrom Folder.depth root root ((files.mergeSort Path.before).eraseDups))

-- The assessment of the layout that a list of paths implies. Only what is below the source folder
-- counts.
def ofPaths (paths : List String) (root : String := "lib") : Assessment :=
  let files := paths.filterMap (below? root)
  classify (listPaths files) (treeOf root files)

end Architecture

end Refit
