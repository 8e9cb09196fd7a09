import Refit.Proofs.Source.Outline
import Refit.Proofs.Text.Words
import Refit.Project.Screen
import Refit.Project.Widget

/-!
Sources that declare classes of the user interface one after the other.

Each class is found with its own text. Whether it is a screen or a widget is decided by what stands
between its own braces.
-/

namespace Refit.Outline

open Pattern

variable {b₁ b₂ b₃ name s t : List Char} {last : Option Char}

-- What a class of the user interface extends.
inductive WidgetBase where
  | stateless | stateful | hook | consumer | consumerStateful
  deriving DecidableEq

namespace WidgetBase

def text : WidgetBase → String
  | stateless => "StatelessWidget"
  | stateful => "StatefulWidget"
  | hook => "HookWidget"
  | consumer => "ConsumerWidget"
  | consumerStateful => "ConsumerStatefulWidget"

def kind : WidgetBase → String
  | stateless | consumer => "stateless"
  | stateful | consumerStateful => "stateful"
  | hook => "hook"

variable {b : WidgetBase}

theorem mem_widgetBases_iff {w : String} : w ∈ widgetBases ↔ ∃ b : WidgetBase, w = b.text := by
  constructor
  case mp =>
    intro h
    simp only [widgetBases, List.mem_cons, List.not_mem_nil, or_false] at h
    rcases h with rfl | rfl | rfl | rfl | rfl
    exacts [⟨stateless, rfl⟩, ⟨stateful, rfl⟩, ⟨hook, rfl⟩, ⟨consumer, rfl⟩, ⟨consumerStateful, rfl⟩]
  case mpr =>
    rintro ⟨b, rfl⟩
    cases b <;> decide

theorem kindOf_text : kindOf b.text = b.kind := by
  cases b <;> decide +kernel

theorem run_of_mem : ∀ w ∈ widgetBases, w.toList ≠ [] ∧ ∀ c ∈ w.toList, Letter.isWord c := by
  decide +kernel

theorem run_text : Run Letter.isWord b.text.toList :=
  have ⟨hsome, hall⟩ := run_of_mem b.text (mem_widgetBases_iff.mpr ⟨b, rfl⟩)
  ⟨hsome, hall⟩

theorem eq_of_begins : ∀ v ∈ widgetBases, ∀ w ∈ widgetBases, v.toList <+: w.toList → v = w := by
  decide +kernel

-- No base begins with another one, whatever stands behind it.
theorem eq_of_begins_append {v w : String} (hv : v ∈ widgetBases) (hw : w ∈ widgetBases)
    (h : v.toList <+: w.toList ++ t) : v = w :=
  match List.prefix_or_prefix_of_prefix h (List.prefix_append _ _) with
  | .inl h => eq_of_begins v hv w hw h
  | .inr h => (eq_of_begins w hw v hv h).symm

end WidgetBase

/-! Declarations -/

-- The text of a declaration up to its base, with blanks between its words.
def heading (b₁ name b₂ b₃ : List Char) (b : WidgetBase) : List Char :=
  "class".toList ++ (b₁ ++ (name ++ (b₂ ++ ("extends".toList ++ (b₃ ++ b.text.toList)))))

theorem heading_eq {b : WidgetBase} : heading b₁ name b₂ b₃ b =
    "class".toList ++ (b₁ ++ (name ++ (b₂ ++ ("extends".toList ++ (b₃ ++ b.text.toList))))) :=
  rfl

-- A text begins with the declaration of a class of the user interface.
inductive Declares : List Char → Prop where
  | intro {b₁ name b₂ b₃ t : List Char} {b : WidgetBase} (hb₁ : Run Letter.isBlank b₁)
      (hname : Run Letter.isWord name) (hb₂ : Run Letter.isBlank b₂) (hb₃ : Run Letter.isBlank b₃)
      (hend : ∀ c ∈ t.head?, ¬Letter.isWord c) : Declares (heading b₁ name b₂ b₃ b ++ t)

theorem run_bases {β : Type} {k : State → Option β} {x : β} {gs : List (Nat × List Char)}
    {b : WidgetBase} (hk : k ⟨⟨b.text.toList.getLast?.or last, t⟩, gs⟩ = some x) :
    (anyOf (widgetBases.map lit)).run ⟨⟨last, b.text.toList ++ t⟩, gs⟩ k = some x := by
  have hb : b.text ∈ widgetBases := WidgetBase.mem_widgetBases_iff.mpr ⟨b, rfl⟩
  exact run_anyOf_lit hb (fun w hw => WidgetBase.eq_of_begins_append hw hb) hk

theorem matchAt?_heading {b : WidgetBase} (hb₁ : Run Letter.isBlank b₁)
    (hname : Run Letter.isWord name) (hb₂ : Run Letter.isBlank b₂) (hb₃ : Run Letter.isBlank b₃)
    (hend : ∀ c ∈ t.head?, ¬Letter.isWord c) :
    widgetClass.matchAt? ⟨last, heading b₁ name b₂ b₃ b ++ t⟩ =
      some ⟨⟨last, heading b₁ name b₂ b₃ b ++ t⟩, ⟨b.text.toList.getLast?, t⟩,
        [(2, b.text.toList), (1, name)]⟩ := by
  simp only [matchAt?, widgetClass, run_append, run_group, heading_eq, List.append_assoc]
  rw [run_lit]
  refine run_plus_one hb₁.all hb₁.some hname.head?_of_word ?_
  refine run_plus_one hname.all hname.some hb₂.head?_of_blank ?_
  refine run_plus_one hb₂.all hb₂.some (by simp [show Letter.isBlank 'e' = false by decide]) ?_
  rw [run_lit]
  refine run_plus_one hb₃.all hb₃.some WidgetBase.run_text.head?_of_word ?_
  refine run_bases (run_look_iff.mpr ⟨WidgetBase.run_text.atWordEdge_iff.mpr hend, ?_⟩)
  simp only [upTo_spot_append, WidgetBase.run_text.getLast?_or]

theorem declares_of_matchAt? (h : (widgetClass.matchAt? ⟨last, s⟩).isSome) : Declares s := by
  obtain ⟨m, h⟩ := Option.isSome_iff_exists.mp h
  simp only [matchAt?, widgetClass, run_append, run_group] at h
  obtain ⟨_, rfl, h⟩ := run_lit_iff.mp h
  obtain ⟨b₁, _, rfl, hb₁, h⟩ := exists_of_plus h
  obtain ⟨name, _, rfl, hname, h⟩ := exists_of_plus h
  obtain ⟨b₂, _, rfl, hb₂, h⟩ := exists_of_plus h
  obtain ⟨_, rfl, h⟩ := run_lit_iff.mp h
  obtain ⟨b₃, _, rfl, hb₃, h⟩ := exists_of_plus h
  obtain ⟨_, hp, h⟩ := exists_of_anyOf h
  obtain ⟨_, hw, rfl⟩ := List.mem_map.mp hp
  obtain ⟨b, rfl⟩ := WidgetBase.mem_widgetBases_iff.mp hw
  obtain ⟨t, rfl, h⟩ := run_lit_iff.mp h
  have hend : ∀ c ∈ t.head?, ¬Letter.isWord c :=
    WidgetBase.run_text.atWordEdge_iff.mp (run_look_iff.mp h).1
  simpa [heading_eq] using Declares.intro hb₁ hname hb₂ hb₃ hend

theorem Declares.exists_cons (h : Declares s) : ∃ t, s = 'c' :: t := by
  cases h
  exact ⟨_, rfl⟩

theorem word_or_blank_of_mem_heading {b : WidgetBase} {c : Char} (hb₁ : Run Letter.isBlank b₁)
    (hname : Run Letter.isWord name) (hb₂ : Run Letter.isBlank b₂) (hb₃ : Run Letter.isBlank b₃)
    (h : c ∈ heading b₁ name b₂ b₃ b) : Letter.isWord c ∨ Letter.isBlank c := by
  have hclass : ∀ c ∈ "class".toList, Letter.isWord c := by decide +kernel
  have hextends : ∀ c ∈ "extends".toList, Letter.isWord c := by decide +kernel
  simp only [heading_eq, List.mem_append] at h
  rcases h with h | h | h | h | h | h | h
  · exact .inl (hclass c h)
  · exact .inr (hb₁.all c h)
  · exact .inl (hname.all c h)
  · exact .inr (hb₂.all c h)
  · exact .inl (hextends c h)
  · exact .inr (hb₃.all c h)
  · exact .inl (WidgetBase.run_text.all c h)

-- A declaration that begins before a character that is in none ends before it.
theorem Declares.of_append {d : Char} (hword : ¬Letter.isWord d) (hblank : ¬Letter.isBlank d)
    (h : Declares (s ++ d :: t)) : Declares s := by
  generalize hr : s ++ d :: t = r at h
  cases h
  case intro b₁ name b₂ b₃ u b hb₁ hname hb₂ hb₃ hend =>
    have hnone : d ∉ heading b₁ name b₂ b₃ b := fun h =>
      (word_or_blank_of_mem_heading hb₁ hname hb₂ hb₃ h).elim hword hblank
    have hbegins : heading b₁ name b₂ b₃ b <+: s :=
      (Text.prefix_append_cons_iff hnone).mp (hr ▸ List.prefix_append _ u)
    obtain ⟨v, rfl⟩ := hbegins
    rw [List.append_assoc, List.append_cancel_left_eq] at hr
    refine .intro hb₁ hname hb₂ hb₃ fun c hc => hend c ?_
    rw [← hr, List.head?_append, hc]
    rfl

/-! Sources -/

-- A class of the user interface: its name, what it extends, and what stands between its braces.
structure UiDeclaration where
  name : String
  base : WidgetBase
  block : String
  named : Run Letter.isWord name.toList
  balanced : Balanced block.toList
  alone : ∀ s, s <:+ block.toList → ¬Declares s

namespace UiDeclaration

variable {c : UiDeclaration} {cs : List UiDeclaration}

def text (c : UiDeclaration) : String :=
  "class " ++ c.name ++ " extends " ++ c.base.text ++ " \x7b" ++ c.block ++ "\x7d"

def uiClass (c : UiDeclaration) : UiClass :=
  ⟨c.name, c.base.text, c.text⟩

def source : List UiDeclaration → String
  | [] => ""
  | c :: cs => c.text ++ "\n" ++ source cs

-- The parts of the lines of a class, up to its base and behind it.
def head (c : UiDeclaration) : List Char :=
  heading [' '] c.name.toList [' '] [' '] c.base

def tail (c : UiDeclaration) : List Char :=
  " \x7b".toList ++ (c.block.toList ++ "\x7d\n".toList)

theorem text_append : c.text.toList ++ ['\n'] = c.head ++ c.tail := by
  simp [text, head, heading_eq, tail]

theorem run_space : Run Letter.isBlank [' '] where
  some := by simp
  all := by decide

theorem matchAt?_head : widgetClass.matchAt? ⟨last, c.head ++ (c.tail ++ t)⟩ =
    some ⟨⟨last, c.head ++ (c.tail ++ t)⟩, ⟨c.base.text.toList.getLast?, c.tail ++ t⟩,
      [(2, c.base.text.toList), (1, c.name.toList)]⟩ := by
  refine matchAt?_heading run_space c.named run_space run_space ?_
  rintro _ ⟨⟩
  decide

theorem body_head : body (c.head ++ (c.tail ++ t)) = c.text.toList := by
  have hopen : '\x7b' ∉ c.head ++ [' '] := by
    rw [List.mem_append, not_or]
    refine ⟨fun h => ?_, by decide⟩
    exact absurd (word_or_blank_of_mem_heading run_space c.named run_space run_space h)
      (by decide +kernel)
  have hblock := body_append hopen (s := '\x7b' :: (c.block.toList ++ '\x7d' :: '\n' :: t))
  rw [body_block c.balanced] at hblock
  simpa [tail, text, head, heading_eq] using hblock

theorem quiet_of_not_declares {s t : List Char}
    (h : ∀ u v, s = u ++ v → v ≠ [] → ¬Declares (v ++ t)) : Quiet widgetClass last s t := by
  intro u v hs hv
  by_contra hm
  exact h u v hs hv (declares_of_matchAt? (Option.isSome_iff_ne_none.mpr hm))

theorem quiet_of_not_mem {s t : List Char} (h : 'c' ∉ s) : Quiet widgetClass last s t := by
  refine quiet_of_not_declares fun u v hs hv hd => ?_
  obtain ⟨w, hw⟩ := hd.exists_cons
  cases v
  case nil => contradiction
  case cons d v =>
    obtain ⟨rfl, _⟩ := List.cons.inj hw
    exact h (by simp [hs])

-- Behind the head of a class, no class is declared up to the end of its last line.
theorem quiet_tail : Quiet widgetClass last c.tail t := by
  refine .append (quiet_of_not_mem (by decide)) (.append ?_ (quiet_of_not_mem (by decide)))
  refine quiet_of_not_declares fun u v hs _ hd => c.alone v ⟨u, hs.symm⟩ ?_
  exact hd.of_append (by decide) (by decide)

-- Classes one after the other, each behind a text of its own.
def spread (ls : List (List Char × UiDeclaration)) : List Char :=
  ls.flatMap fun l => l.1 ++ (l.2.text.toList ++ ['\n'])

theorem exists_finds {ls : List (List Char × UiDeclaration)}
    (h : ∀ l ∈ ls, ∀ last t, Quiet widgetClass last l.1 t) (last : Option Char) :
    ∃ ms, Finds widgetClass ⟨last, spread ls⟩ ms ∧
      ms.map (fun m => ⟨m.group 1, m.group 2, String.ofList (body m.start.rest)⟩) =
        ls.map (·.2.uiClass) := by
  induction ls generalizing last
  case nil => exact ⟨[], .done rfl, rfl⟩
  case cons l ls ih =>
    obtain ⟨hl, hls⟩ := List.forall_mem_cons.mp h
    obtain ⟨lead, c⟩ := l
    obtain ⟨ms, hms, heq⟩ := ih hls (c.tail.getLast?.or c.base.text.toList.getLast?)
    have hshort : (c.tail ++ spread ls).length < (c.head ++ (c.tail ++ spread ls)).length := by
      simp [head, heading_eq]
      omega
    have hspread : spread ((lead, c) :: ls) = lead ++ (c.head ++ (c.tail ++ spread ls)) := by
      simp [spread, text_append]
    rw [hspread]
    refine ⟨_ :: ms, .skip (hl last _) (.here matchAt?_head hshort (.skip quiet_tail hms)), ?_⟩
    rw [List.map_cons, List.map_cons, heq, body_head]
    simp [uiClass, Match.group, Match.group?, List.lookup_cons]

theorem uiClasses_spread {ls : List (List Char × UiDeclaration)} {w : String}
    (h : ∀ l ∈ ls, ∀ last t, Quiet widgetClass last l.1 t) (hw : w.toList = spread ls) :
    uiClasses w = ls.map (·.2.uiClass) := by
  obtain ⟨ms, hms, heq⟩ := exists_finds h none
  rw [← hw] at hms
  rw [uiClasses, hms.all_eq, heq]

theorem uiClasses_source (cs : List UiDeclaration) : uiClasses (source cs) = cs.map uiClass := by
  have hsource : (source cs).toList = spread (cs.map (([], ·))) := by
    induction cs
    case nil => rfl
    case cons c cs ih => simp [source, ih, spread]
  rw [uiClasses_spread (by simp [Quiet.nil]) hsource, List.map_map]
  rfl

end UiDeclaration

/-! Screens and widgets -/

-- A text has the name of a scaffold with a bracket behind it, at most blanks apart.
def BuildsScaffold (s : List Char) : Prop :=
  ∃ w, (∀ c ∈ w, Letter.isBlank c) ∧ "Scaffold".toList ++ (w ++ ['(']) <:+: s

theorem buildsScaffold_iff {s : String} : buildsScaffold s ↔ BuildsScaffold s.toList := by
  constructor
  case mp =>
    intro h
    obtain ⟨u, v, hs, hm⟩ := exists_of_occurs h
    obtain ⟨m, hm⟩ := Option.isSome_iff_exists.mp hm
    simp only [matchAt?, scaffold, run_append] at hm
    obtain ⟨_, rfl, hm⟩ := run_lit_iff.mp hm
    obtain ⟨w, _, rfl, hw, hm⟩ := exists_of_star hm
    obtain ⟨c, t, rfl, hc, _⟩ := run_one_iff.mp hm
    obtain rfl := eq_of_beq hc
    exact ⟨w, hw, u, t, by simp [hs]⟩
  case mpr =>
    rintro ⟨w, hw, u, t, hs⟩
    have hs : s.toList = u ++ ("Scaffold".toList ++ (w ++ '(' :: t)) := by simp [← hs]
    refine occurs_of_matchAt? hs ?_
    simp only [matchAt?, scaffold, run_append]
    rw [run_lit]
    have hend : ∀ c ∈ ('(' :: t).head?, ¬Letter.isBlank c := by
      rintro _ ⟨⟩
      decide
    exact Option.isSome_iff_exists.mpr
      ⟨_, run_star_one hw hend (run_one_cons (p := (· == '(')) (by decide))⟩

instance (s : List Char) : Decidable (BuildsScaffold s) :=
  decidable_of_iff (buildsScaffold (String.ofList s)) (by rw [buildsScaffold_iff, String.toList_ofList])

namespace UiDeclaration

-- What stands in front of the braces of a class builds no scaffold.
theorem buildsScaffold_text {c : UiDeclaration} :
    buildsScaffold c.uiClass.body ↔ BuildsScaffold c.block.toList := by
  rw [uiClass, buildsScaffold_iff]
  refine exists_congr fun w => and_congr_right fun hw => ?_
  generalize hn : "Scaffold".toList ++ (w ++ ['(']) = needle
  have hclear {d : Char} (hd : d ∉ "Scaffold(".toList) (hb : ¬Letter.isBlank d) : d ∉ needle := by
    have : d ∉ w := fun h => hb (hw d h)
    simp_all [← hn]
  have hhead : ¬needle <:+: c.head ++ [' '] := by
    have hbracket : '(' ∉ c.head ++ [' '] := by
      rw [List.mem_append, not_or]
      refine ⟨fun h => ?_, by decide⟩
      exact absurd (word_or_blank_of_mem_heading run_space c.named run_space run_space h)
        (by decide +kernel)
    exact fun h => hbracket (h.subset (by simp [← hn]))
  have hblock : needle <:+: c.block.toList ++ ['\x7d'] ↔ needle <:+: c.block.toList := by
    rw [Text.infix_append_cons_iff (hclear (by decide) (by decide)), List.infix_nil]
    simp [← hn]
  have htext : c.text.toList = (c.head ++ [' ']) ++ '\x7b' :: (c.block.toList ++ ['\x7d']) := by
    simp [text, head, heading_eq]
  rw [htext, Text.infix_append_cons_iff (hclear (by decide) (by decide)), hblock]
  exact or_iff_right hhead

theorem ui_classes_split (file : String) (cs : List UiDeclaration) :
    uiClasses (source cs) = cs.map uiClass ∧
    Screen.ofSource file (source cs) =
      (cs.filter (BuildsScaffold ·.block.toList)).map (Screen.ofClass file (source cs) ·.uiClass) ∧
    Widget.ofSource file (source cs) =
      (cs.filter (¬BuildsScaffold ·.block.toList)).map (Widget.ofClass file ·.uiClass) ∧
    ∀ c : UiDeclaration,
      (Screen.ofClass file (source cs) c.uiClass).kind = .text c.base.kind ∧
      (Widget.ofClass file c.uiClass).kind = .text c.base.kind := by
  have hkind (c : UiDeclaration) : kindOf c.uiClass.base = c.base.kind := WidgetBase.kindOf_text
  have hscreen : (buildsScaffold ·.body) ∘ uiClass =
      fun c => decide (BuildsScaffold c.block.toList) := by
    funext c
    rw [Bool.eq_iff_iff, decide_eq_true_iff, Function.comp_apply, buildsScaffold_text]
  have hwidget : (! buildsScaffold ·.body) ∘ uiClass =
      fun c => decide (¬BuildsScaffold c.block.toList) := by
    funext c
    rw [decide_not, ← congrFun hscreen c, Function.comp_apply, Function.comp_apply]
  refine ⟨uiClasses_source cs, ?_, ?_, fun c => ?_⟩
  case refine_1 =>
    rw [Screen.ofSource, uiClasses_source, List.filter_map, List.map_map, hscreen]
    rfl
  case refine_2 =>
    rw [Widget.ofSource, uiClasses_source, List.filter_map, List.map_map, hwidget]
    rfl
  case refine_3 =>
    rw [Screen.ofClass, Widget.ofClass, hkind]
    exact ⟨rfl, rfl⟩

theorem alone_of_not_infix {s t : List Char} (h : ¬"class".toList <:+: s) (ht : t <:+ s) :
    ¬Declares t := by
  intro hd
  cases hd
  rw [heading_eq, List.append_assoc] at ht
  exact h ((List.prefix_append _ _).isInfix.trans ht.isInfix)

def home : UiDeclaration where
  name := "Home"
  base := .hook
  block := "\n  build() \x7b return Scaffold (body: Tile()); \x7d\n"
  named := ⟨by decide, by decide⟩
  balanced := by
    have hparts : "\n  build() \x7b return Scaffold (body: Tile()); \x7d\n".toList =
        "\n  build() ".toList ++ ('\x7b' :: " return Scaffold (body: Tile()); ".toList ++ ['\x7d'])
          ++ ['\n'] := by
      decide +kernel
    have hbraceless {s : List Char} (h : '\x7b' ∉ s ∧ '\x7d' ∉ s) : Balanced s :=
      .of_braceless h.1 h.2
    rw [hparts]
    exact .append (.append (hbraceless (by decide)) (.block (hbraceless (by decide))))
      (hbraceless (by decide))
  alone := fun _ => alone_of_not_infix (by decide)

def tile : UiDeclaration where
  name := "Tile"
  base := .consumer
  block := "\n  build() => Text('Scaffold');\n"
  named := ⟨by decide, by decide⟩
  balanced := .of_braceless (by decide) (by decide)
  alone := fun _ => alone_of_not_infix (by decide)

theorem ui_classes_split_homeAndTile :
    uiClasses (source [home, tile]) = [home.uiClass, tile.uiClass] ∧
    Screen.ofSource "a.dart" (source [home, tile]) =
      [Screen.ofClass "a.dart" (source [home, tile]) home.uiClass] ∧
    Widget.ofSource "a.dart" (source [home, tile]) = [Widget.ofClass "a.dart" tile.uiClass] := by
  have ⟨hclasses, hscreens, hwidgets, _⟩ := ui_classes_split "a.dart" [home, tile]
  have hhome : BuildsScaffold home.block.toList := by decide +kernel
  have htile : ¬BuildsScaffold tile.block.toList := by decide +kernel
  exact ⟨hclasses, by simpa [hhome, htile] using hscreens, by simpa [hhome, htile] using hwidgets⟩

end UiDeclaration

end Refit.Outline
