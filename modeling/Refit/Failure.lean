import Refit.Datum.Fault
import Refit.Text.Utf8
import Refit.Terminal.Markup
import Refit.Yaml.Graph

/-!
Why an action of this library stops.
-/

namespace Refit

-- The conditions that this library reports of its own. Each has a message, and a context of named
-- values.
inductive Failure where
  | general (message : String) (context : Dict)
  | noManifest (path : Datum)
  | noExport (path : Datum)
  | badProject (message : String) (path : Datum)
  | unknownDepth (depth : Datum) (expected : List String)
  | unknownProject (id : Datum)
  | rebuild (message : String) (output module : Datum)
  | configuration (message : String) (context : Dict)

namespace Failure

def message : Failure → String
  | general m _ | badProject m _ | rebuild m _ _ | configuration m _ => m
  | noManifest p => "pubspec.yaml not found at " ++ p.shown
  | noExport p => "Export file not found: " ++ p.shown
  | unknownDepth d expected =>
    "Unknown analysis depth: " ++ d.shown ++ " (expected one of " ++ ", ".joining expected ++ ")"
  | unknownProject id => "Project not found: " ++ id.shown

def entry (key : String) (d : Datum) : Datum × Datum :=
  (.text key, d)

def context : Failure → Dict
  | general _ c | configuration _ c => c
  | noManifest p => [entry "manifest" p]
  | noExport p => [entry "file" p]
  | badProject _ p => [entry "project" p]
  | unknownDepth d _ => [entry "depth" d]
  | unknownProject id => [entry "project_id" id]
  | rebuild _ o m => [entry "output" o, entry "module" m]

-- What a command leaves as its exit status.
def exitCode (_ : Failure) : Nat := 1

-- What the user can do about it.
def advice? : Failure → Option String
  | noManifest _ => some "Point replant at the folder that contains pubspec.yaml."
  | badProject _ _ => some "A Flutter project needs a lib/ directory next to pubspec.yaml."
  | noExport _ => some "Check the path to the flattened export file."
  | unknownDepth _ _ => some "Set --depth or analysis.depth to shallow, medium or deep."
  | _ => none

end Failure

-- What the file system refuses, and for which path.
inductive FileTrouble where
  | missing (path : String)
  | present (path : String)
  | notFolder (path : String)
  | isFolder (path : String)
  | nameTooLong (path : String)
  deriving DecidableEq, Repr

namespace FileTrouble

def number : FileTrouble → Nat
  | missing _ => 2
  | present _ => 17
  | notFolder _ => 20
  | isFolder _ => 21
  | nameTooLong _ => 36

def reason : FileTrouble → String
  | missing _ => "No such file or directory"
  | present _ => "File exists"
  | notFolder _ => "Not a directory"
  | isFolder _ => "Is a directory"
  | nameTooLong _ => "File name too long"

def path : FileTrouble → String
  | missing p | present p | notFolder p | isFolder p | nameTooLong p => p

def message (t : FileTrouble) : String :=
  "[Errno " ++ toString t.number ++ "] " ++ t.reason ++ ": " ++ t.path.quoted

end FileTrouble

-- Everything that can stop an action.
inductive Stop where
  | failure (f : Failure)
  | fault (f : Fault)
  | undecodable (t : Utf8.Trouble)
  | file (t : FileTrouble)
  -- A project configuration that is there already.
  | configExists (path : String)
  | yaml (name : String) (r : Yaml.Refusal)
  | nullInPath
  -- The folder of the user is not known.
  | noHome
  -- A variable name that the environment does not take.
  | badVariable (name : String)
  | tool (message : String)
  | toolTaken (name : String)
  | notConfigured (module project : Datum)
  | noMapping (path : String)
  -- A text whose styles cannot be read.
  | styling (f : Markup.Flaw)

namespace Stop

def message : Stop → String
  | failure f => f.message
  | fault f => f.message
  | undecodable t => t.message
  | file t => t.message
  | configExists p => "Project config already exists: " ++ p
  | yaml name r => r.message name
  | nullInPath => "embedded null byte"
  | noHome => "Could not determine home directory."
  | badVariable _ => "illegal environment variable name"
  | tool m => m
  | toolTaken n => "Tool already registered: " ++ n
  | notConfigured m p => "Module " ++ m.shown ++ " has no configuration on project " ++ p.shown
  | noMapping p => p ++ " does not contain a mapping"
  | styling f => f.message

end Stop

end Refit
