import Refit.Cli.Commands

/-!
The program: a command line chooses a command, and running it leaves an exit status.
-/

namespace Refit

namespace Cli

-- A command with the command line that it takes.
structure Command where
  name : String
  grammar : Grammar
  run : Dict → Talk Unit

def configCommands : List Command :=
  [⟨"show", ⟨[], [], true⟩, showConfig⟩,
    ⟨"set", ⟨[], [("key", none), ("value", none)], true⟩, setValue⟩,
    ⟨"init", ⟨[], [], true⟩, initProject⟩, ⟨"paths", ⟨[], [], true⟩, showPlaces⟩]

def commands : List Command :=
  [⟨"analyze", analyseGrammar, analyse .standard⟩, ⟨"clone", cloneGrammar, clone⟩,
    ⟨"schema", planGrammar, plan .standard⟩, ⟨"rebuild", rebuildGrammar, rebuild .standard⟩,
    ⟨"import-repo", importGrammar "url" [⟨"branch", ["--branch", "-b"], .word⟩], importRepository⟩,
    ⟨"import-export", importGrammar "file" [], importExport⟩]

-- The exit status of a command line that is refused.
def refusalStatus : Refusal → Nat
  | .usage => 2
  | .help => 0

def orRefused (r : Except Refusal α) : Talk α :=
  match r with
  | .ok a => return a
  | .error e => throw (.exit (refusalStatus e))

def findCommand (cs : List Command) (name : String) : Except Refusal Command :=
  match cs.find? (·.name == name) with
  | some c => .ok c
  | none => .error .usage

-- Runs the command that the first word names.
def runCommand (cs : List Command) : List String → Talk Unit
  | [] => throw (.exit (refusalStatus .usage))
  | name :: words => do
    let c ← orRefused (findCommand cs name)
    let a ← orRefused (c.grammar.parse words)
    Talk.reporting (c.run a)

def configName : String :=
  "config"

def configGroup : Grammar :=
  ⟨[], [], false⟩

def runConfig (words : List String) : Talk Unit := do
  let l ← orRefused (configGroup.read words)
  runCommand configCommands l.words

def mainGrammar : Grammar :=
  ⟨[⟨"verbose", ["--verbose", "-v"], .switch true⟩, ⟨"plain", ["--plain"], .switch true⟩], [],
    false⟩

-- Chooses the mode of the terminal.
def prepare (given : Dict) : Talk Unit := do
  let plain ← if isOn given "plain" then pure true
    else pure ((← config).get "ui.plain_output" (.bool false)).truthy
  modifyThe Terminal fun t => { t with plain := plain }

def isCommand (name : String) : Bool :=
  name == configName || commands.any (·.name == name)

-- Carries out a command line.
def talk (words : List String) : Talk Unit := do
  let l ← orRefused (mainGrammar.read words)
  match l.words with
  | [] => throw (.exit (refusalStatus .usage))
  | name :: rest =>
    if !isCommand name then throw (.exit (refusalStatus .usage))
    prepare l.given
    if name == configName then runConfig rest else runCommand commands (name :: rest)

-- What a command line leaves: an exit status and the printed texts.
structure Outcome where
  status : Nat
  output : String
  errors : String

-- Runs a command line in a session. It resolves the configuration anew.
def run (words : List String) : StateM Session Outcome := do
  modify fun s => { s with config := none }
  let (r, t) ← (ExceptT.run (talk words)).run {}
  let status := match r with
    | .ok () => 0
    | .error (.exit n) => n
    | .error (.stopped _) => 1
  return ⟨status, t.output, t.errors⟩

end Cli

end Refit
