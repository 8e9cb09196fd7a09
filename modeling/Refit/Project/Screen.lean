import Refit.Project.Record
import Refit.Source.File
import Refit.Source.Outline

/-!
Screens: classes of the user interface whose body builds a scaffold. Each fact about a screen is
read off its body on its own.
-/

namespace Refit

structure Scaffold where
  hasAppBar : Bool := false
  hasBottomNav : Bool := false
  hasDrawer : Bool := false
  hasFab : Bool := false
  deriving DecidableEq, Repr, Inhabited

structure Screen where
  name : Datum
  file : Datum
  kind : Datum := "stateless"
  route : Datum := .null
  scaffold : Scaffold := {}
  providers : List Datum := []
  widgets : List Datum := []
  layout : Datum := "custom"
  deriving Inhabited

open Pattern

namespace Scaffold

def toDatum (s : Scaffold) : Datum :=
  .record [("has_app_bar", .bool s.hasAppBar), ("has_bottom_nav", .bool s.hasBottomNav),
    ("has_drawer", .bool s.hasDrawer), ("has_fab", .bool s.hasFab)]

def ofDatum (d : Datum) : Datum.Read Scaffold := do
  let appBar ← Record.flag d "has_app_bar"
  let bottomNav ← Record.flag d "has_bottom_nav"
  let drawer ← Record.flag d "has_drawer"
  let fab ← Record.flag d "has_fab"
  return ⟨appBar, bottomNav, drawer, fab⟩

def argument (name value : String) : Pattern :=
  lit name ++ star blank ++ char ':'
    ++ if value == "" then nothing else star blank ++ lit value

def ofBody (body : String) : Scaffold :=
  { hasAppBar := (argument "appBar" "AppBar").occurs body
    hasBottomNav := (argument "bottomNavigationBar" "").occurs body
    hasDrawer := (argument "drawer" "Drawer").occurs body
    hasFab := (argument "floatingActionButton" "").occurs body }

end Scaffold

-- A list without the repetitions of earlier items.
def firsts [BEq α] (xs : List α) : List α :=
  xs.foldl (fun seen x => if seen.contains x then seen else seen ++ [x]) []

namespace Screen

def toDatum (s : Screen) : Datum :=
  .record [("name", s.name), ("file_path", s.file), ("kind", s.kind), ("route", s.route),
    ("scaffold", s.scaffold.toDatum), ("providers", .list s.providers),
    ("widgets", .list s.widgets), ("layout", s.layout)]

def ofDatum (d : Datum) : Datum.Read Screen := do
  let name ← d.field "name"
  let file ← Record.optional d "file_path" ""
  let kind ← Record.optional d "kind" "stateless"
  let route ← Record.optional d "route" .null
  let scaffold ← Scaffold.ofDatum (← Record.orElse d "scaffold" (.dict []))
  let providers ← Record.items d "providers"
  let widgets ← Record.items d "widgets"
  let layout ← Record.optional d "layout" "custom"
  return ⟨name, file, kind, route, scaffold, providers, widgets, layout⟩

def providerUses : List Pattern :=
  [lit "ref.watch(" ++ group 1 (plus word), lit "ref.read(" ++ group 1 (plus word),
    lit "BlocProvider.of<" ++ group 1 (plus word) ++ char '>',
    lit "context.read<" ++ group 1 (plus word) ++ char '>',
    lit "context.watch<" ++ group 1 (plus word) ++ char '>']

-- The providers a body uses, by way of use and then in order.
def providersOf (body : String) : List String :=
  firsts (providerUses.flatMap fun p => (p.all body).map (·.group 1))

def widgetEndings : List String :=
  ["Widget", "Button", "Card", "Tile", "Item", "View", "List", "Form"]

def widgetUse : Pattern :=
  wordEdge
    ++ group 1 (one Letter.isAsciiUpper
      ++ plus (one fun c => Letter.isAsciiUpper c || Letter.isAsciiLower c || Letter.isAsciiDigit c)
      ++ anyOf (widgetEndings.map lit))
    ++ star blank ++ char '('

-- The widgets a body builds.
def widgetsOf (body : String) : List String :=
  firsts ((widgetUse.all body).map (·.group 1))

def called (name : String) : Pattern :=
  lit name ++ star blank ++ char '('

-- The first layout of the list that occurs decides.
def layouts : List (String × Pattern) :=
  [("grid", lit "GridView"), ("list", lit "ListView"), ("stack", called "Stack"),
    ("row", called "Row"), ("column", called "Column")]

def layoutOf (body : String) : String :=
  ((layouts.find? fun l => l.2.occurs body).map (·.1)).getD "custom"

def quote : Pattern :=
  oneOf "'\""

def quotedText : Pattern :=
  quote ++ group 1 (plus (noneOf "'\"")) ++ quote

-- Where the route of a screen may be written: in an annotation, assigned behind the name of the
-- class, or as a key mapped to the class.
def routePlaces (name : String) : List Pattern :=
  [char '@' ++ (lit "GoRoute" <|> lit "Route") ++ star blank ++ char '(' ++ star (noneOf ")")
      ++ lit "path" ++ star blank ++ char ':' ++ star blank ++ quotedText,
    lit name ++ star (noneOf "\x7b") ++ char '=' ++ star blank ++ quotedText,
    quote ++ group 1 (plus (one fun c => c == '/' || c == '-' || Letter.isWord c)) ++ quote
      ++ star blank ++ char ':' ++ star blank ++ lit name]

-- A letter in either case. The long s is an s.
def eitherCase (c : Char) : Pattern :=
  one fun x => Letter.lower x == Letter.lower c || (Letter.lower c == ['s'] && x == 'ſ')

def eitherCaseLit (s : String) : Pattern :=
  s.toList.foldr (fun c p => both (eitherCase c) p) nothing

def screenEnding : Pattern :=
  (eitherCaseLit "Screen" <|> eitherCaseLit "Page") ++ textEnd

-- The route made from the name of a class: its words without the ending, joined by hyphens.
def defaultRoute (name : String) : String :=
  let base := screenEnding.replaceAll (fun _ => []) name
  let spread := base.toList.flatMap fun c => if Letter.isAsciiUpper c then ['-', c] else [c]
  "/" ++ String.ofList ((Text.lowerFrom [] spread).dropWhile (· == '-'))

def routeOf (source name : String) : String :=
  match (routePlaces name).findSome? (·.search? source) with
  | some m => m.group 1
  | none => defaultRoute name

def ofClass (file source : String) (c : Outline.UiClass) : Screen :=
  { name := .text c.name
    file := .text file
    kind := .text (Outline.kindOf c.base)
    route := .text (routeOf source c.name)
    scaffold := .ofBody c.body
    providers := (providersOf c.body).map .text
    widgets := (widgetsOf c.body).map .text
    layout := .text (layoutOf c.body) }

-- The screens that a source declares.
def ofSource (file source : String) : List Screen :=
  ((Outline.uiClasses source).filter (Outline.buildsScaffold ·.body)).map (ofClass file source)

def selector : Selector :=
  ⟨["screens", "pages", "views", "presentation"], ["_screen", "_page"]⟩

def ofFiles (fs : List SourceFile) : List Screen :=
  (selector.select fs).flatMap fun f => ofSource f.path f.content

end Screen

end Refit
