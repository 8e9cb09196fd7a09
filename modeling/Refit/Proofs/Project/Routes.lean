import Refit.Proofs.Project.UiClasses

/-!
Routes of screens that are written in annotations, each in front of its own class.

The search for an annotation does not name the class. It finds the same one for every screen of a
source, so all of them have the route of the first.
-/

namespace Refit.Screen

open Outline Pattern

variable {β : Type} {k : State → Option β} {x : β} {r s t u w key : List Char} {last : Option Char}
  {gs : List (Nat × List Char)} {text : String}

/-! Annotations -/

-- The key of a route with the route behind it.
def keyed : Pattern :=
  lit "path" ++ star blank ++ char ':' ++ star blank ++ quotedText

def annotation : Pattern :=
  char '@' ++ (lit "GoRoute" <|> lit "Route") ++ star blank ++ char '(' ++ star (noneOf ")")
    ++ lit "path" ++ star blank ++ char ':' ++ star blank ++ quotedText

theorem run_annotation {st : State} : annotation.run st k =
    (char '@' ++ (lit "GoRoute" <|> lit "Route") ++ star blank ++ char '(' ++ star (noneOf ")")).run
      st fun t => keyed.run t k :=
  rfl

theorem routePlaces_eq (name : String) :
    routePlaces name = annotation :: (routePlaces name).tail :=
  rfl

-- An annotation is looked for first, whatever the name of the class is.
theorem routeOf_eq {m : Match} (h : annotation.search? text = some m) (name : String) :
    routeOf text name = m.group 1 := by
  rw [routeOf, routePlaces_eq, List.findSome?_cons, h]

def isQuote (c : Char) : Bool :=
  "'\"".toList.contains c

theorem apart_of_isQuote {c : Char} (h : isQuote c) : ¬Letter.isWord c ∧ ¬Letter.isBlank c := by
  have hquotes : ∀ c ∈ "'\"".toList, ¬Letter.isWord c ∧ ¬Letter.isBlank c := by decide +kernel
  exact hquotes c (List.contains_iff_mem.mp h)

-- The key of a route, up to the quote.
inductive Key : List Char → Prop where
  | intro {b₁ b₂ : List Char} (hb₁ : ∀ c ∈ b₁, Letter.isBlank c)
    (hb₂ : ∀ c ∈ b₂, Letter.isBlank c) : Key ("path".toList ++ (b₁ ++ ':' :: b₂))

namespace Key

theorem not_isQuote (h : Key key) : ∀ c ∈ key, ¬isQuote c := by
  have hblank {c : Char} (hc : Letter.isBlank c) : ¬isQuote c := fun hq =>
    (apart_of_isQuote hq).2 hc
  have hpath : ∀ c ∈ "path".toList, ¬isQuote c := by decide
  cases h
  case intro hb₁ hb₂ =>
    intro c hc
    rcases List.mem_append.mp hc with hc | hc
    · exact hpath c hc
    rcases List.mem_append.mp hc with hc | hc
    · exact hblank (hb₁ c hc)
    rcases List.mem_cons.mp hc with rfl | hc
    · decide
    · exact hblank (hb₂ c hc)

-- A key begins with a letter that it has nowhere else.
theorem exists_cons (h : Key key) : ∃ r, key = 'p' :: r ∧ 'p' ∉ r := by
  cases h
  case intro b₁ b₂ hb₁ hb₂ =>
    have hclear {b : List Char} (hb : ∀ c ∈ b, Letter.isBlank c) : 'p' ∉ b := fun h =>
      absurd (hb _ h) (by decide)
    refine ⟨"ath".toList ++ (b₁ ++ ':' :: b₂), rfl, ?_⟩
    simp [hclear hb₁, hclear hb₂]

end Key

-- A text begins with a key, with two quotes behind it.
def Mapped (r : List Char) : Prop :=
  ∃ key q t, r = key ++ q :: t ∧ Key key ∧ isQuote q ∧ ∃ c ∈ t, isQuote c

theorem not_mapped_cons {c : Char} (hc : c ≠ 'p') : ¬Mapped (c :: t) := by
  rintro ⟨key, q, t', hr, hkey, -⟩
  obtain ⟨r, rfl, -⟩ := hkey.exists_cons
  exact hc (List.cons.inj hr).1

-- The key that a text begins with ends at its first quote.
theorem Mapped.key_of_append (h : Mapped (s ++ '\'' :: t)) (hs : ∀ c ∈ s, ¬isQuote c) :
    Key s ∧ ∃ c ∈ t, isQuote c := by
  obtain ⟨key, q, r, heq, hkey, hq, hr⟩ := h
  obtain ⟨rfl, -, rfl⟩ := Text.append_cons_inj_of_all hs hkey.not_isQuote (by decide) hq heq
  exact ⟨hkey, hr⟩

-- Inside a key and the quote behind it no other one begins.
theorem Key.not_mapped {a b : List Char} (hkey : Key key) (h : key ++ ['\''] = a ++ b) (ha : a ≠ [])
    (hb : b ≠ []) : ¬Mapped (b ++ t) := by
  intro hm
  obtain ⟨b, c, rfl⟩ := (List.eq_nil_or_concat b).resolve_left hb
  obtain ⟨rfl, rfl⟩ : key = a ++ b ∧ '\'' = c := by simpa [← List.append_assoc] using h
  have hplain : ∀ c ∈ b, ¬isQuote c := fun c hc => hkey.not_isQuote c (List.mem_append_right _ hc)
  obtain ⟨_, rfl, -⟩ := (Mapped.key_of_append (by simpa using hm) hplain).1.exists_cons
  obtain ⟨r, hr, hnone⟩ := hkey.exists_cons
  obtain ⟨d, a, rfl⟩ := List.exists_cons_of_ne_nil ha
  exact hnone ((List.cons.inj hr).2 ▸ by simp)

def EndsInKey (s : List Char) : Prop :=
  ∃ a key, s = a ++ key ∧ Key key

theorem mapped_of_keyed (h : keyed.run ⟨⟨last, r⟩, gs⟩ k = some x) : Mapped r := by
  simp only [keyed, quotedText, run_append, run_group] at h
  obtain ⟨_, rfl, h⟩ := run_lit_iff.mp h
  obtain ⟨b₁, _, rfl, hb₁, h⟩ := exists_of_star h
  obtain ⟨_, _, rfl, hcolon, h⟩ := run_one_iff.mp h
  obtain rfl := eq_of_beq hcolon
  obtain ⟨b₂, _, rfl, hb₂, h⟩ := exists_of_star h
  obtain ⟨q, _, rfl, hq, h⟩ := run_one_iff.mp h
  obtain ⟨w, _, rfl, _, h⟩ := exists_of_plus h
  obtain ⟨q', t, rfl, hq', _⟩ := run_one_iff.mp h
  exact ⟨_, q, w ++ q' :: t, by simp, .intro hb₁ hb₂, hq, q', by simp, hq'⟩

theorem run_keyed (hkey : Key key) (hw : w ≠ []) (hplain : ∀ c ∈ w, ¬isQuote c)
    (hk : k ⟨⟨some '\'', t⟩, (1, w) :: gs⟩ = some x) :
    keyed.run ⟨⟨last, key ++ '\'' :: (w ++ '\'' :: t)⟩, gs⟩ k = some x := by
  cases hkey
  case intro b₁ b₂ hb₁ hb₂ =>
    have hhead {f : Char → Bool} {c : Char} {s : List Char} (hc : ¬f c) :
        ∀ d ∈ (c :: s).head?, ¬f d := by
      rintro _ ⟨⟩
      exact hc
    simp only [keyed, quotedText, run_append, run_group, List.append_assoc, List.cons_append]
    rw [run_lit]
    refine run_star_one hb₁ (hhead (by decide)) ((run_one_cons (by decide)).trans ?_)
    refine run_star_one hb₂ (hhead (by decide)) ((run_one_cons (by decide)).trans ?_)
    refine run_plus_one (by simpa [isQuote] using hplain) hw (hhead (by decide)) ?_
    refine (run_one_cons (by decide)).trans ?_
    rw [upTo_spot_append]
    exact hk

-- The route of an annotation is the one behind the last key that is mapped to a route.
theorem routeOf_annotated {v : List Char}
    (htext : text.toList = "@GoRoute(".toList ++ (s ++ (u ++ ')' :: t))) (hs : ')' ∉ s)
    (hu : u ++ ')' :: t = key ++ '\'' :: (w ++ '\'' :: v)) (hkey : Key key)
    (hw : w ≠ []) (hplain : ∀ c ∈ w, ¬isQuote c)
    (hlast : ∀ a b, u = a ++ b → a ≠ [] → ¬Mapped (b ++ ')' :: t)) (name : String) :
    routeOf text name = String.ofList w := by
  have hmatch : annotation.matchAt? ⟨none, text.toList⟩ =
      some ⟨⟨none, text.toList⟩, ⟨some '\'', v⟩, [(1, w)]⟩ := by
    have hopen : "@GoRoute(".toList ++ (s ++ (u ++ ')' :: t)) =
        '@' :: ("GoRoute".toList ++ ('(' :: (s ++ (u ++ ')' :: t)))) := rfl
    simp only [matchAt?, run_annotation, run_append]
    rw [htext, hopen]
    refine (run_one_cons (by decide)).trans (run_either_of_some (run_lit.trans ?_))
    refine run_star_one (s := []) (by simp) (by rintro _ ⟨⟩; decide) ?_
    refine (run_one_cons (by decide)).trans ?_
    refine run_star_last (fun c hc => ?_) (by rintro _ ⟨⟩; decide) ?_ fun last a b hab ha => ?_
    · have : c ≠ ')' := fun h => hs (h ▸ hc)
      simpa using this
    · rw [hu]
      exact run_keyed hkey hw hplain rfl
    · by_contra hne
      obtain ⟨m, hm⟩ := Option.ne_none_iff_exists'.mp hne
      exact hlast a b hab ha (mapped_of_keyed hm)
  rw [routeOf_eq (search?_of_matchAt? hmatch)]
  rfl

/-! Screens with an annotation each -/

-- A class that builds a scaffold, with a route for the annotation in front of it.
structure Annotated extends UiDeclaration where
  path : String
  nonempty : path.toList ≠ []
  plain : ∀ c ∈ path.toList, c ≠ ')' ∧ ¬isQuote c
  undeclared : ∀ s, s <:+ path.toList → ¬Declares s
  scaffold : BuildsScaffold block.toList
  unquoted : ∀ c ∈ block.toList, ¬isQuote c

namespace Annotated

variable {c : Annotated} {cs : List Annotated}

def lead (c : Annotated) : String :=
  "@GoRoute(path: '" ++ c.path ++ "')\n"

def source : List Annotated → String
  | [] => ""
  | c :: cs => c.lead ++ c.text ++ "\n" ++ source cs

-- What stands between the route of an annotation and that of the next one.
def gap (c : Annotated) : String :=
  ")\n" ++ c.text ++ "\n@GoRoute(path: "

theorem toList_lead :
    c.lead.toList = "@GoRoute(path: '".toList ++ (c.path.toList ++ "')\n".toList) := by
  change ("@GoRoute(path: '" ++ c.path ++ "')\n").toList = _
  rw [String.toList_append, String.toList_append, List.append_assoc]

theorem quiet_lead (c : Annotated) : Quiet widgetClass last c.lead.toList t := by
  rw [toList_lead]
  refine .append (UiDeclaration.quiet_of_not_mem (by decide))
    (.append ?_ (UiDeclaration.quiet_of_not_mem (by decide)))
  refine UiDeclaration.quiet_of_not_declares fun u v hs _ hd => c.undeclared v ⟨u, hs.symm⟩ ?_
  exact hd.of_append (by decide) (by decide)

theorem screens_source (file : String) (cs : List Annotated) :
    Screen.ofSource file (source cs) = cs.map (Screen.ofClass file (source cs) ·.uiClass) := by
  have hsource : (source cs).toList =
      UiDeclaration.spread (cs.map fun c => (c.lead.toList, c.toUiDeclaration)) := by
    induction cs
    case nil => rfl
    case cons c cs ih => simp [source, ih, UiDeclaration.spread]
  have hclasses := UiDeclaration.uiClasses_spread (by simp [quiet_lead]) hsource
  rw [List.map_map] at hclasses
  have hall : ∀ c ∈ cs.map (·.uiClass), buildsScaffold c.body := by
    simp only [List.mem_map]
    rintro _ ⟨c, -, rfl⟩
    exact UiDeclaration.buildsScaffold_text.mpr c.scaffold
  rw [Screen.ofSource, hclasses]
  refine (congrArg _ (List.filter_eq_self.mpr hall)).trans ?_
  rw [List.map_map]
  rfl

theorem map_route_source {file : String} : (Screen.ofSource file (source cs)).map (·.route) =
    cs.map fun c => .text (routeOf (source cs) c.name) := by
  rw [screens_source, List.map_map]
  rfl

theorem not_isQuote_text : ∀ x ∈ c.text.toList, ¬isQuote x := by
  intro x hx hq
  have hparts : x ∈ c.head ∨ x ∈ " \x7b".toList ∨ x ∈ c.block.toList ∨ x ∈ "\x7d\n".toList := by
    have hmem := UiDeclaration.text_append (c := c.toUiDeclaration) ▸ List.mem_append_left ['\n'] hx
    simpa only [UiDeclaration.tail, List.mem_append] using hmem
  have hopen : ∀ x ∈ " \x7b".toList, ¬isQuote x := by decide
  have hclose : ∀ x ∈ "\x7d\n".toList, ¬isQuote x := by decide
  rcases hparts with h | h | h | h
  · have hapart := apart_of_isQuote hq
    exact (word_or_blank_of_mem_heading UiDeclaration.run_space c.named UiDeclaration.run_space
      UiDeclaration.run_space h).elim hapart.1 hapart.2
  · exact hopen x h hq
  · exact c.unquoted x h hq
  · exact hclose x h hq

theorem key_path : Key "path: ".toList :=
  @Key.intro [] [' '] (by simp) (by decide)

theorem source_cons : (source (c :: cs)).toList = "@GoRoute(".toList ++
    ("path: '".toList ++ (c.path.toList ++ ['\'']) ++
      ')' :: ('\n' :: (c.text.toList ++ '\n' :: (source cs).toList))) := by
  simp [source, toList_lead]

-- Where the first route ends in no key, or no quote follows it, it is the one that is found.
theorem routeOf_eq_path (h : cs = [] ∨ ¬EndsInKey c.path.toList) (name : String) :
    routeOf (source (c :: cs)) name = c.path := by
  have hplain : ∀ x ∈ c.path.toList, ¬isQuote x := fun x hx => (c.plain x hx).2
  have hkeyed (t : List Char) : "path: '".toList ++ (c.path.toList ++ ['\'']) ++ t =
      "path: ".toList ++ '\'' :: (c.path.toList ++ '\'' :: t) := by
    simp
  refine (routeOf_annotated (s := []) source_cons (by simp) (hkeyed _) key_path c.nonempty hplain
    (fun a b hab ha hm => ?_) name).trans String.ofList_toList
  have hinside : ∃ a', c.path.toList ++ ['\''] = a' ++ b := by
    rcases List.append_eq_append_iff.mp hab with ⟨a', -, hb⟩ | ⟨b', hkey, hb⟩
    case inl => exact ⟨a', hb⟩
    case inr =>
      by_cases hne : b' = []
      case pos => exact ⟨[], by simp [hb, hne]⟩
      case neg =>
        rw [hb, List.append_assoc] at hm
        exact absurd hm (key_path.not_mapped hkey ha hne)
  obtain ⟨a', hb⟩ := hinside
  rcases List.eq_nil_or_concat b with rfl | ⟨b, x, rfl⟩
  case inl => exact not_mapped_cons (by decide) hm
  case inr =>
    obtain ⟨hpath, rfl⟩ : c.path.toList = a' ++ b ∧ '\'' = x := by
      simpa [← List.append_assoc] using hb
    rw [hpath] at hplain
    obtain ⟨hkey, y, hy, hquote⟩ := Mapped.key_of_append (by simpa using hm)
      fun x hx => hplain x (List.mem_append_right _ hx)
    rcases h with rfl | h
    case inr => exact h ⟨a', b, hpath, hkey⟩
    case inl =>
      simp only [source, String.toList_empty, List.mem_cons, List.mem_append, List.not_mem_nil,
        or_false] at hy
      rcases hy with rfl | rfl | hy | rfl
      · exact absurd hquote (by decide)
      · exact absurd hquote (by decide)
      · exact not_isQuote_text y hy hquote
      · exact absurd hquote (by decide)

-- Where the first route ends in a key, the quote behind it begins what is found.
theorem routeOf_eq_gap {d : Annotated} (h : EndsInKey c.path.toList) (name : String) :
    routeOf (source (c :: d :: cs)) name = c.gap := by
  obtain ⟨p, key, hpath, hkey⟩ := h
  have hp : ')' ∉ "path: '".toList ++ p := by
    have hnone : ')' ∉ p := fun h => (c.plain _ (hpath ▸ List.mem_append_left _ h)).1 rfl
    simpa using hnone
  have hplain : ∀ x ∈ c.gap.toList, ¬isQuote x := by
    have hopen : ∀ x ∈ ")\n".toList, ¬isQuote x := by decide
    have hclose : ∀ x ∈ "\n@GoRoute(path: ".toList, ¬isQuote x := by decide
    simp only [gap, String.toList_append, List.mem_append]
    rintro x ((hx | hx) | hx)
    exacts [hopen x hx, not_isQuote_text x hx, hclose x hx]
  have hsource : (source (c :: d :: cs)).toList = "@GoRoute(".toList ++
      (("path: '".toList ++ p) ++ ((key ++ ['\'']) ++
        ')' :: ('\n' :: (c.text.toList ++ '\n' :: (source (d :: cs)).toList)))) := by
    rw [source_cons, hpath]
    simp
  rw [routeOf_annotated hsource hp ?_ hkey (by simp [gap]) hplain ?_, String.ofList_toList]
  · exact d.path.toList ++ "')\n".toList ++ d.text.toList ++ '\n' :: (source cs).toList
  · simp [source, toList_lead, gap]
  · intro a b hab ha
    by_cases hb : b = []
    case pos => exact hb ▸ not_mapped_cons (by decide)
    case neg => exact hkey.not_mapped hab ha hb

-- All screens of a source have one route.
theorem exists_routeOf (c : Annotated) (cs : List Annotated) :
    ∃ r, ∀ name, routeOf (source (c :: cs)) name = r := by
  by_cases h : cs = [] ∨ ¬EndsInKey c.path.toList
  case pos => exact ⟨_, routeOf_eq_path h⟩
  case neg =>
    rw [not_or, not_not] at h
    obtain ⟨d, cs, rfl⟩ := List.exists_cons_of_ne_nil h.1
    exact ⟨_, routeOf_eq_gap h.2⟩

-- The screens of annotated classes are found in their order, and all have the route of the first
-- annotation: its path, or where that path ends in a key of a route, the text between it and the
-- next path. So with different paths, each screen has its own only where there is one screen.
theorem routes_eq_paths_iff (file : String) (cs : List Annotated) (hpaths : (cs.map path).Nodup) :
    Screen.ofSource file (source cs) = cs.map (Screen.ofClass file (source cs) ·.uiClass) ∧
    (∀ c rest, cs = c :: rest → rest = [] ∨ ¬EndsInKey c.path.toList →
      ∀ s ∈ Screen.ofSource file (source cs), s.route = .text c.path) ∧
    (∀ c d rest, cs = c :: d :: rest → EndsInKey c.path.toList →
      ∀ s ∈ Screen.ofSource file (source cs), s.route = .text c.gap) ∧
    ((Screen.ofSource file (source cs)).map (·.route) = cs.map (.text ·.path) ↔ cs.length ≤ 1) := by
  have hroute {r : String} (h : ∀ name, routeOf (source cs) name = r) :
      ∀ s ∈ Screen.ofSource file (source cs), s.route = .text r := by
    rw [screens_source]
    intro s hs
    obtain ⟨c, -, rfl⟩ := List.mem_map.mp hs
    exact congrArg _ (h c.name)
  refine ⟨screens_source file cs, ?path, ?gap, ?own⟩
  case path =>
    rintro c rest rfl h
    exact hroute (routeOf_eq_path h)
  case gap =>
    rintro c d rest rfl h
    exact hroute (routeOf_eq_gap h)
  case own =>
    rw [map_route_source]
    cases cs with
    | nil => simp
    | cons c cs =>
      cases cs with
      | nil => simp [routeOf_eq_path (c := c) (.inl rfl)]
      | cons d cs =>
        obtain ⟨r, hr⟩ := exists_routeOf c (d :: cs)
        have hne : c.path ≠ d.path := fun h => by simp [h] at hpaths
        simp only [hr, List.map_cons, List.cons.injEq, Datum.text.injEq, List.length_cons]
        refine iff_of_false (fun h => hne (h.1.symm.trans h.2.1)) (by omega)

theorem undeclared_of_not_mem {s : List Char} (h : 'c' ∉ s) : ∀ t, t <:+ s → ¬Declares t := by
  rintro _ ⟨u, rfl⟩ hd
  obtain ⟨t, rfl⟩ := hd.exists_cons
  exact h (by simp)

def home : Annotated where
  toUiDeclaration := UiDeclaration.home
  path := "/a"
  nonempty := by decide
  plain := by decide
  undeclared := undeclared_of_not_mem (by decide)
  scaffold := by decide +kernel
  unquoted := by decide

def shop : Annotated where
  toUiDeclaration := { UiDeclaration.home with name := "Shop", named := ⟨by decide, by decide⟩ }
  path := "/b"
  nonempty := by decide
  plain := by decide
  undeclared := undeclared_of_not_mem (by decide)
  scaffold := by decide +kernel
  unquoted := by decide

theorem routes_eq_paths_iff_homeAndShop :
    ([home, shop].map path).Nodup ∧
    (Screen.ofSource "a.dart" (source [home, shop])).map (·.route) = [.text "/a", .text "/a"] := by
  have hpaths : ([home, shop].map path).Nodup := by decide
  have hkey : ¬EndsInKey home.path.toList := by
    rintro ⟨a, key, hpath, hkey⟩
    obtain ⟨r, rfl, -⟩ := hkey.exists_cons
    have hmem : 'p' ∈ "/a".toList := by simp [show "/a".toList = _ from hpath]
    exact absurd hmem (by decide)
  have ⟨hscreens, hroute, _, _⟩ := routes_eq_paths_iff "a.dart" [home, shop] hpaths
  have hall := hroute home [shop] rfl (.inr hkey)
  rw [hscreens] at hall ⊢
  exact ⟨hpaths, List.map_congr_left hall⟩

-- Not every screen has the route of its own annotation, with different names and paths and bodies
-- without annotations and names of screens.
theorem not_every_route_own : ¬∀ (file : String) (cs : List Annotated),
    (cs.map (·.name)).Nodup → (cs.map path).Nodup →
    (∀ c ∈ cs, ∀ x ∈ c.path.toList, x ∉ "'\"\x7b\x7d()".toList) →
    (∀ c ∈ cs, '@' ∉ c.block.toList ∧ ∀ d ∈ cs, ¬d.name.toList <:+: c.block.toList) →
    (Screen.ofSource file (source cs)).map (·.route) = cs.map (.text ·.path) := by
  intro h
  have hown := h "a.dart" [home, shop] (by decide) (by decide) (by decide) (by decide)
  obtain ⟨r, hr⟩ := exists_routeOf home [shop]
  rw [map_route_source] at hown
  simp only [hr, List.map_cons, List.map_nil, List.cons.injEq, Datum.text.injEq] at hown
  exact absurd (hown.1.symm.trans hown.2.1) (by decide)

end Annotated

end Refit.Screen
