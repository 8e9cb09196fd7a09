import Refit.Disk.Basic

/-!
Running other programs.

What the programs will do is known beforehand, one outcome for each run in turn. Once the outcomes
are used up every run succeeds and prints nothing.
-/

namespace Refit

-- A run of a program: its words, the folder it works in and its limit in seconds.
structure Command where
  words : List Datum
  folder : Option Location := none
  timeout : Datum

-- What a run does: it ends with a status, having printed and written files below the place that
-- its last word names, or it takes too long, or there is no such program.
inductive Outcome where
  | ended (status : Int) (output errors : String) (files : List (Location × List UInt8))
  | late
  | absent

namespace Outcome

def quiet : Outcome :=
  ended 0 "" "" []

end Outcome

namespace Command

def program (c : Command) : String :=
  (c.words.head?.getD .null).shown

-- The place that the last word names.
def target (c : Command) : Location :=
  .ofText (c.words.getLast?.getD .null).shown

def lateMessage (c : Command) : String :=
  "Command '" ++ c.program ++ "' timed out after " ++ c.timeout.shown ++ " seconds"

def absentMessage (c : Command) : String :=
  (FileTrouble.missing c.program).message

end Command

-- The outcomes to come and the runs so far.
structure Programs where
  script : List Outcome := []
  log : List Command := []
  deriving Inhabited

namespace Programs

-- The outcome of a run, and the programs after it.
def next (p : Programs) (c : Command) : Outcome × Programs :=
  (p.script.head?.getD .quiet, ⟨p.script.tail, p.log ++ [c]⟩)

end Programs

end Refit
