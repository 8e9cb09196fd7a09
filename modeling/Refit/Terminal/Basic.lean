import Refit.Failure
import Refit.Json.Writer
import Refit.Number.Rounding
import Refit.Project.Snapshot
import Refit.Rebuild.Result
import Refit.Terminal.Markup

/-!
What the user gets to see.

A terminal shows results as text, or as JSON where that is asked for. In plain mode there are no
styles and no symbols beyond ASCII.
-/

namespace Refit

structure Terminal where
  plain : Bool := false
  json : Bool := false
  -- What was printed, and what was printed as an error.
  output : String := ""
  errors : String := ""
  deriving Inhabited

-- Printing, which stops at what cannot be shown.
abbrev Print := ExceptT Stop (StateM Terminal)

namespace Terminal

def line (s : String) : Print Unit :=
  modify fun t => { t with output := t.output ++ s ++ "\n" }

def errorLine (s : String) : Print Unit :=
  modify fun t => { t with errors := t.errors ++ s ++ "\n" }

def lines (ss : List String) : Print Unit :=
  ss.forM line

-- Prints a styled text.
def styled (s : String) : Print Unit :=
  match Markup.shown s with
  | .ok s => line s
  | .error f => throw (.styling f)

-- The text of a value, which stops the printing if it has none.
def textOf (d : Datum) : Print String :=
  ExceptT.mk (return d.toText.mapError .fault)

-- Prints a record, with every value in all its places.
def json_ (d : Datum) : Print Unit :=
  match d.unshared >>= Json.writeLenient with
  | .ok s => line s
  | .error f => throw (.fault f)

-- Prints unless the terminal shows JSON.
def unlessJson (p : Print Unit) : Print Unit := do
  if !(← get).json then p

/-! Symbols -/

def plainIcons : List (String × String) :=
  [("ok", "[OK]"), ("warning", "[!]"), ("error", "[!!]"), ("bullet", "*")]

def icons : List (String × String) :=
  [("ok", "[green]✔[/green]"), ("warning", "[yellow]⚠[/yellow]"), ("error", "[red]✘[/red]"),
    ("bullet", "[cyan]•[/cyan]")]

-- The symbol of a name, a bullet for names without one.
def icon (t : Terminal) (name : String) : String :=
  let known := if t.plain then plainIcons else icons
  ((known.lookup name) <|> (known.lookup "bullet")).getD ""

/-! Panels and lists -/

def successPanel (title : String) (content : Datum) : Print Unit :=
  unlessJson do
    line ("OK: " ++ title)
    if content.truthy then line ("  " ++ (← textOf content))

def errorPanel (title : String) (content : Datum) : Print Unit := do
  if (← get).json then json_ (.record [("error", .text title), ("detail", content)])
  else
    errorLine ("ERROR: " ++ title)
    if content.truthy then errorLine ("  " ++ (← textOf content))

def warningList (warnings : List Datum) : Print Unit :=
  unlessJson do
    let t ← get
    let item (w : Datum) : Print String := return "  " ++ t.icon "warning" ++ " " ++ (← textOf w)
    if warnings.isEmpty then return
    else if t.plain then
      line "Warnings:"
      warnings.forM fun w => do line (← item w)
    else
      styled "\n[bold yellow]Warnings[/bold yellow]"
      warnings.forM fun w => do styled (← item w)

def nextSteps (steps : List Datum) : Print Unit :=
  unlessJson do
    if steps.isEmpty then return
    else if (← get).plain then
      line "\nNext steps:"
      steps.zipIdx.forM fun (s, i) => do line ("  " ++ toString (i + 1) ++ ". " ++ (← textOf s))
    else
      styled "\n[bold]Next steps:[/bold]"
      steps.zipIdx.forM fun (s, i) => do
        styled ("  [dim]" ++ toString (i + 1) ++ ".[/dim] [cyan]" ++ (← textOf s) ++ "[/cyan]")

def table (title : String) (rows : List (Datum × Datum)) : Print Unit :=
  unlessJson do
    line (title ++ ":")
    rows.forM fun (k, v) => do line ("  " ++ (← textOf k) ++ ": " ++ (← textOf v))

/-! Results -/

def analysisSummary (s : Snapshot) : Print Unit := do
  if (← get).json then json_ s.toDatum
  else
    lines ["Project: " ++ (← textOf s.name),
      "  Architecture: " ++ (← textOf s.architecture.detected) ++ " ("
        ++ Number.percent s.architecture.confidence ++ ")",
      "  State management: " ++ (← textOf s.dependencies.state),
      "  Models: " ++ toString s.models.length ++ "  Screens: " ++ toString s.screens.length
        ++ "  Widgets: " ++ toString s.widgets.length]

def rebuildSummary (r : RebuildResult) : Print Unit := do
  if (← get).json then json_ r.toDatum
  else if r.success then
    successPanel "Rebuild complete" (.text ("Output: " ++ r.output.shown ++ "\nGenerated: "
      ++ toString r.generated ++ " files, copied: " ++ toString r.copied ++ ", modules: "
      ++ toString r.installed))
    warningList r.warnings
    nextSteps r.nextSteps
  else
    errorPanel "Rebuild failed" (r.error.orElse "")
    warningList r.warnings

/-! Errors -/

-- Whether the value of a variable asks for details on errors.
def asksForDetails (v : Option String) : Bool :=
  ["1", "true", "yes"].contains (v.getD "").lowered

-- The context of a failure, empty values left out.
def contextLines (context : Dict) : List String :=
  let parts := context.filter (·.2.truthy)
  if parts.isEmpty then []
  else
    "[dim]Context:[/dim]" :: parts.map fun (k, v) =>
      "  [dim]" ++ k.shown ++ ":[/dim] " ++ v.shown

-- Prints what stopped an action, and what the user can do about it. With details the place where
-- it stopped follows.
def report (details : Bool) (s : Stop) : Print Unit :=
  match s with
  | .failure f => do
    styled ("\n[bold red]Error:[/bold red] " ++ f.message)
    if details then (contextLines f.context).forM styled
    (f.advice?.map fun a => "[dim]" ++ a ++ "[/dim]").forM styled
    if details then modify fun t => { t with output := t.output ++ "\n" }
  | s => do
    styled ("\n[bold red]Unexpected error:[/bold red] " ++ s.message)
    if details then modify fun t => { t with output := t.output ++ "\n" }
    else styled "[dim]Set REPLANT_DEBUG=1 for full traceback.[/dim]"

end Terminal

end Refit
