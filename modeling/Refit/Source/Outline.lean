import Refit.Datum.Fault
import Refit.Text.Pattern

/-!
Classes of a Dart source, by their text.

No syntax tree is built. The body of a class runs from its declaration to the brace that closes its
first block.
-/

namespace Refit.Outline

open Pattern

-- The text up to the brace that closes the innermost of `n + 1` open blocks.
def closeFrom : Nat → List Char → List Char
  | _, [] => []
  | n, c :: r =>
    if c == '\x7b' then c :: closeFrom (n + 1) r
    else if c == '\x7d' then
      match n with
      | 0 => [c]
      | n + 1 => c :: closeFrom n r
    else c :: closeFrom n r

-- The text up to the brace that closes its first block, or all of it. Closing braces in front of
-- the block count for nothing.
def body : List Char → List Char
  | [] => []
  | c :: r => if c == '\x7b' then c :: closeFrom 0 r else c :: body r

-- The body from a place on. A place below zero counts from the end of the text; from there the
-- reading goes on at the beginning, and what is answered is the part of the text between the places
-- where it began and where it stopped.
def bodyFrom (start : Int) (s : List Char) : Datum.Read (List Char) :=
  if 0 ≤ start then .ok (body (s.drop start.toNat))
  else
    let back := start.natAbs
    if s.length < back then .error (.noPosition "str")
    else
      let first := s.length - back
      let own := body (s.drop first ++ s)
      let stop := own.length
      .ok (if stop < back then own else (s.take (stop - back)).drop first)

-- The classes that a class of the user interface extends.
def widgetBases : List String :=
  ["StatelessWidget", "StatefulWidget", "HookWidget", "ConsumerWidget", "ConsumerStatefulWidget"]

def widgetClass : Pattern :=
  lit "class" ++ plus blank ++ group 1 (plus word) ++ plus blank ++ lit "extends" ++ plus blank
    ++ group 2 (anyOf (widgetBases.map lit)) ++ wordEdge

structure UiClass where
  name : String
  base : String
  body : String
  deriving DecidableEq, Repr

-- The classes of the user interface in a source, each with its own text.
def uiClasses (source : String) : List UiClass :=
  (widgetClass.all source).map fun m =>
    ⟨m.group 1, m.group 2, String.ofList (body m.start.rest)⟩

def scaffold : Pattern :=
  lit "Scaffold" ++ star blank ++ char '('

-- A class is a screen if its body builds a scaffold.
def buildsScaffold (body : String) : Bool :=
  scaffold.occurs body

def kindOf (base : String) : String :=
  if base.holds "Stateful" then "stateful"
  else if base.holds "Hook" then "hook"
  else "stateless"

end Refit.Outline
