import Refit.Proofs.Project.Members

/-!
Widgets with one constructor that sets their fields, and the properties that are read off them.

Each parameter gives a property with the name and the type of its field. Whether the property may be
absent is read off the text of the parameter, where the word for a required one counts wherever it
stands: in the name of the field and in an initial value too.
-/

namespace Refit.Widget

open Pattern

variable {n s t w : List Char} {last : Option Char} {gs : List (Nat × List Char)} {name : String}
  {m : Member} {ms : List Member}

/-! The constructor -/

theorem run_constructor {β : Type} {k : State → Option β} {st : State} : (constructor name).run st k =
    (opt (lit "const" ++ plus blank)).run st fun st => (lit name).run st fun st =>
      (star blank).run st fun st => (char '(').run st fun st => (star blank).run st fun st =>
        (char '\x7b').run st fun st => (group 1 (star (noneOf "\x7d"))).run st fun st =>
          (char '\x7d').run st k :=
  rfl

-- What a constructor goes through up to its parenthesis.
theorem exists_of_constructor {spot : Spot} (h : (constructor name).matchAt? spot ≠ none) :
    ∃ u v t, spot.rest = u ++ (name.toList ++ v) ++ '(' :: t ∧ (∀ c ∈ v, Letter.isBlank c) ∧
      (u = [] ∨ ∃ b, u = "const".toList ++ b ∧ ∀ c ∈ b, Letter.isBlank c) := by
  obtain ⟨m, h⟩ := Option.ne_none_iff_exists'.mp h
  rw [matchAt?, run_constructor] at h
  have hrest {last : Option Char} {r : List Char} {x : Match}
      (h : ((lit name).run ⟨⟨last, r⟩, []⟩ fun st => (star blank).run st fun st =>
        (char '(').run st fun st => (star blank).run st fun st => (char '\x7b').run st fun st =>
          (group 1 (star (noneOf "\x7d"))).run st fun st => (char '\x7d').run st fun st =>
            some ⟨spot, st.spot, st.groups⟩) = some x) :
      ∃ v t, r = name.toList ++ v ++ '(' :: t ∧ ∀ c ∈ v, Letter.isBlank c := by
    obtain ⟨r, rfl, hname⟩ := run_lit_iff.mp h
    obtain ⟨v, r, rfl, hv, hblanks⟩ := exists_of_star hname
    obtain ⟨d, t, rfl, hd, _⟩ := run_one_iff.mp hblanks
    obtain rfl := eq_of_beq hd
    exact ⟨v, t, by simp, hv⟩
  rcases run_opt_some h with h | h
  case inl =>
    obtain ⟨r, hr, h⟩ := run_lit_iff.mp h
    obtain ⟨b, r, rfl, hb, h⟩ := exists_of_plus h
    obtain ⟨v, t, rfl, hv⟩ := hrest h
    exact ⟨"const".toList ++ b, v, t, by simp [hr], hv, .inr ⟨b, rfl, hb.all⟩⟩
  case inr =>
    obtain ⟨v, t, hr, hv⟩ := hrest h
    exact ⟨[], v, t, hr, hv, .inl rfl⟩

-- No constructor begins in front of the word that its text begins with, where nothing else has a
-- parenthesis.
theorem quiet_constructor (hname : Run Letter.isWord name.toList) (hs : '(' ∉ s) :
    Quiet (constructor name) last s ("const ".toList ++ (name.toList ++ '(' :: t)) := by
  intro x y hxy hy
  by_contra h
  obtain ⟨u, v, t', hr, hv, hu⟩ := exists_of_constructor h
  have hclear : '(' ∉ y ++ ("const ".toList ++ name.toList) := by
    intro h
    rcases List.mem_append.mp h with h | h
    case inl => exact hs (hxy ▸ List.mem_append_right x h)
    case inr =>
      rcases List.mem_append.mp h with h | h
      case inl => exact absurd h (by decide)
      case inr => exact absurd (hname.all _ h) (by decide)
  have hblank {b : List Char} (hb : ∀ c ∈ b, Letter.isBlank c) {d : Char}
      (hd : ¬Letter.isBlank d) : d ∉ b := fun h => hd (hb d h)
  have hclear' : '(' ∉ u ++ (name.toList ++ v) := by
    intro h
    rcases List.mem_append.mp h with h | h
    case inl =>
      rcases hu with rfl | ⟨b, rfl, hb⟩
      case inl => cases h
      case inr =>
        rcases List.mem_append.mp h with h | h
        case inl => exact absurd h (by decide)
        case inr => exact hblank hb (by decide) h
    case inr =>
      rcases List.mem_append.mp h with h | h
      case inl => exact absurd (hname.all _ h) (by decide)
      case inr => exact hblank hv (by decide) h
  have heq : y ++ ("const ".toList ++ name.toList) = u ++ (name.toList ++ v) :=
    Text.append_cons_inj hclear hclear' (by simpa using hr)
  have hends : (y ++ "const ".toList) ++ name.toList = (u ++ name.toList) ++ v := by simpa using heq
  obtain rfl := Text.eq_nil_of_last_word hname hv hends
  have hfront : y ++ "const ".toList = u :=
    List.append_cancel_right (hends.trans (List.append_nil _))
  rcases hu with rfl | ⟨b, rfl, hb⟩
  case inl => simp at hfront
  case inr =>
    -- The word has one `c`, which `y` begins with.
    have hcount := congrArg (List.count 'c') hfront
    rw [List.count_append, List.count_append, List.count_eq_zero.mpr (hblank hb (by decide))] at hcount
    have hnone : 'c' ∉ y := List.count_eq_zero.mp (Nat.add_right_cancel (m := 1) (k := 0) hcount)
    obtain ⟨d, y, rfl⟩ := List.exists_cons_of_ne_nil hy
    obtain ⟨rfl, _⟩ := List.cons.inj hfront
    exact hnone (.head _)

-- The text of a constructor with a text between its braces.
def constructorChars (name : String) (s : List Char) : List Char :=
  "const ".toList ++ (name.toList ++ ('(' :: '\x7b' :: (s ++ ['\x7d'])))

theorem matchAt?_constructor (hn : Run Letter.isWord name.toList) (hs : '\x7d' ∉ s) :
    (constructor name).matchAt? ⟨last, constructorChars name s ++ t⟩ =
      some ⟨⟨last, constructorChars name s ++ t⟩, ⟨some '\x7d', t⟩, [(1, s)]⟩ := by
  have hblank : ∀ c ∈ [' '], Letter.isBlank c := by decide
  have hone {last : Option Char} {gs : List (Nat × List Char)} {β : Type} {x : β} {d : Char}
      {s : List Char} {k : State → Option β} (hd : ¬Letter.isBlank d)
      (hk : k ⟨⟨last, d :: s⟩, gs⟩ = some x) :
      (star blank).run ⟨⟨last, d :: s⟩, gs⟩ k = some x :=
    run_star_one (s := []) (List.forall_mem_nil _) (by rintro _ ⟨⟩; exact hd) hk
  have hinner : ∀ c ∈ s, (! "\x7d".toList.contains c) := by
    intro c hc
    have hne : c ≠ '\x7d' := fun h => hs (h ▸ hc)
    simpa using hne
  have htext : constructorChars name s ++ t = "const".toList ++ ([' '] ++
      (name.toList ++ ('(' :: '\x7b' :: (s ++ '\x7d' :: t)))) := by
    unfold constructorChars
    simp
  rw [htext, matchAt?, run_constructor]
  refine run_opt_of_some ?_
  rw [run_append, run_lit]
  refine run_plus_one hblank (by simp) hn.head?_of_word (run_lit.trans ?_)
  refine hone (by decide) ((run_one_cons rfl).trans ?_)
  refine hone (by decide) ((run_one_cons rfl).trans ?_)
  rw [run_group]
  refine run_star_one hinner ?_ ?_
  · rintro _ ⟨⟩
    decide
  · rw [upTo_spot_append]
    exact run_one_cons rfl

namespace Declaration

variable {d : Declaration}

theorem mem_lines {c : Char} (hc : c ∈ (lines ms).toList) :
    Field.typeChar c ∨ Letter.isBlank c ∨ c = ';' := by
  induction ms
  case nil => cases hc
  case cons m ms ih =>
    have hfinal : ∀ c ∈ "  final ".toList, Field.typeChar c ∨ Letter.isBlank c ∨ c = ';' := by decide
    rw [lines, Member.line] at hc
    simp only [String.toList_append, List.mem_append] at hc
    rcases hc with ((((hc | hc) | hc) | hc) | hc) | hc
    · exact hfinal c hc
    · exact .inl (m.run_typeText.all c hc)
    · obtain rfl := List.mem_singleton.mp hc
      exact .inr (.inl (by decide))
    · exact .inl (by simp [Field.typeChar, m.name_run.all c hc])
    · have hend : ∀ c ∈ ";\n".toList, Field.typeChar c ∨ Letter.isBlank c ∨ c = ';' := by decide
      exact hend c hc
    · exact ih hc

theorem not_mem_listed {c : Char} (hc : c ∉ ", ".toList) (hsign : ¬Member.isSign c) :
    c ∉ (listed ms).toList := by
  induction ms
  case nil => exact List.not_mem_nil
  case cons m ms ih =>
    rw [listed]
    simp only [String.toList_append, List.mem_append, not_or]
    exact ⟨⟨hc, fun h => hsign (Member.isSign_of_mem h)⟩, ih⟩

theorem exists_search?_constructor (d : Declaration) :
    ∃ f, (constructor d.name).search? d.source = some f ∧ f.group 1 = d.listing := by
  let front := d.head.toList ++ ('\x7b' :: '\n' :: ((lines d.fields).toList ++ [' ', ' ']))
  have hfront : '(' ∉ front := by
    intro h
    simp only [front, List.mem_append, List.mem_cons] at h
    rcases h with h | h | h | h | h
    · exact absurd (sign_of_mem_head h) (by decide)
    · exact absurd h (by decide)
    · exact absurd h (by decide)
    · exact absurd (mem_lines h) (by decide)
    · exact absurd h (by decide)
  have hbrace : '\x7d' ∉ d.listing.toList := by
    rw [listing, String.toList_append, List.mem_append, not_or]
    exact ⟨by decide, not_mem_listed (by decide) (by decide)⟩
  have hsource : d.source.toList =
      front ++ (constructorChars d.name d.listing.toList ++ ");\n\x7d".toList) := by
    unfold constructorChars
    simp [front, source, constructorText]
  have hchars : constructorChars d.name d.listing.toList ++ ");\n\x7d".toList =
      "const ".toList ++ (d.name.toList ++ '(' ::
        ('\x7b' :: (d.listing.toList ++ ['\x7d']) ++ ");\n\x7d".toList)) := by
    unfold constructorChars
    simp
  refine ⟨⟨⟨front.getLast?.or none, constructorChars d.name d.listing.toList ++ ");\n\x7d".toList⟩,
    ⟨some '\x7d', ");\n\x7d".toList⟩, [(1, d.listing.toList)]⟩, ?_, ?_⟩
  case refine_1 =>
    have hquiet : Quiet (constructor d.name) none front
        (constructorChars d.name d.listing.toList ++ ");\n\x7d".toList) := by
      rw [hchars]
      exact quiet_constructor d.name_run hfront
    rw [search?, hsource, hquiet.searchFrom?]
    exact searchFrom?_of_matchAt? (matchAt?_constructor d.name_run hbrace)
  case refine_2 => rw [group_of_lookup (w := d.listing.toList) rfl, String.ofList_toList]

theorem split_listed {w : List Char} (hw : ',' ∉ w) :
    Text.split ',' (w ++ (listed ms).toList) = w :: ms.map fun m => ' ' :: m.parameter.toList := by
  induction ms generalizing w
  case nil =>
    rw [listed]
    exact (congrArg (Text.split ',') (List.append_nil w)).trans (Text.split_eq_singleton hw)
  case cons m ms ih =>
    have hm : ',' ∉ ' ' :: m.parameter.toList := by
      intro h
      rcases List.mem_cons.mp h with h | h
      case inl => exact absurd h (by decide)
      case inr => exact absurd (Member.isSign_of_mem h) (by decide)
    have hlisted : w ++ (listed (m :: ms)).toList =
        w ++ ',' :: (' ' :: m.parameter.toList ++ (listed ms).toList) := by
      simp [listed]
    rw [hlisted, Text.split_append hw, ih hm, List.map_cons]

theorem pieces_listing (d : Declaration) : (d.listing.splitAt ',').map String.stripped =
    "super.key" :: d.parameters.map Member.parameter := by
  have hkey : "super.key".stripped = "super.key" := by decide
  have hparameter (m : Member) : (String.ofList (' ' :: m.parameter.toList)).stripped = m.parameter := by
    have htrim : Text.trim Letter.isBlank (' ' :: m.parameter.toList) = m.parameter.toList := by
      rw [Text.trim, List.dropWhile_cons_of_pos (by decide)]
      exact m.stripped_parameter
    rw [String.stripped, String.toList_ofList, htrim, String.ofList_toList]
  rw [String.splitAt, listing, String.toList_append, split_listed (by decide), List.map_cons,
    List.map_cons, String.ofList_toList, hkey, List.map_map, List.map_map]
  exact congrArg _ (List.map_congr_left fun m _ => hparameter m)

end Declaration

/-! The properties -/

theorem propOf?_eq {body parameter : String} {f : Match} (hf : parameterName.search? parameter = some f) :
    propOf? body parameter = if skippedNames.contains (f.group 1) then none else
      let declared := ((declaration (f.group 1)).search? body).elim "dynamic" fun d =>
        (d.group 1).stripped
      some { name := .text (f.group 1)
             type := .text (declared.replacing "?" "")
             nullable :=
               declared.finishesWith "?" || parameter.holds "?" || !parameter.holds "required" } := by
  rw [propOf?, hf]
  dsimp only [Option.bind_eq_bind, Option.bind_some]
  cases (declaration (f.group 1)).search? body
  all_goals rfl

theorem propOf?_key {body : String} : propOf? body "super.key" = none := by
  have hkey : (parameterName.search? "super.key").any fun f => skippedNames.contains (f.group 1) := by
    decide +kernel
  obtain ⟨f, hf, hskipped⟩ := Option.any_eq_true _ _ |>.mp hkey
  rw [propOf?_eq hf, if_pos hskipped]

namespace Member

theorem stripped_typeText (m : Member) : m.typeText.stripped = m.typeText := by
  have hsolid : ∀ c ∈ m.typeText.toList, ¬Letter.isBlank c := fun c hc =>
    not_isBlank_of_typeChar (m.run_typeText.all c hc)
  have htrim : Text.trim Letter.isBlank m.typeText.toList = m.typeText.toList :=
    Text.trim_eq_self_iff.mpr ⟨fun c hc => hsolid c (List.mem_of_mem_head? hc),
      fun c hc => hsolid c (List.mem_of_getLast? hc)⟩
  rw [String.stripped, htrim, String.ofList_toList]

theorem not_mark_mem_type (m : Member) : '?' ∉ m.type.toList := fun h =>
  absurd (m.type_run.all _ h) (by decide)

theorem replacing_typeText (m : Member) : m.typeText.replacing "?" "" = m.type := by
  have hkeep : TypeName.unmarked m.type.toList = m.type.toList := by
    refine List.filter_eq_self.mpr fun c hc => bne_iff_ne.mpr ?_
    rintro rfl
    exact m.not_mark_mem_type hc
  have hmark : TypeName.unmarked (if m.marked then "?" else "").toList = [] := by
    cases m.marked
    all_goals rfl
  have hreplace : m.typeText.replacing "?" "" =
      String.ofList (TypeName.unmarked m.typeText.toList) :=
    congrArg String.ofList TypeName.replaceSeq_mark
  rw [hreplace, typeText, String.toList_append, TypeName.unmarked_append, hkeep, hmark, List.append_nil,
    String.ofList_toList]

theorem finishesWith_typeText (m : Member) : m.typeText.finishesWith "?" = m.marked := by
  rw [String.finishesWith, typeText, Bool.eq_iff_iff, List.isSuffixOf_iff_suffix, String.toList_append]
  cases m.marked
  case true => exact iff_of_true (List.suffix_append _ _) rfl
  case false =>
    refine iff_of_false (fun h => m.not_mark_mem_type ?_) Bool.false_ne_true
    have hmem : '?' ∈ m.type.toList ++ "".toList := h.subset (.head _)
    exact (List.append_nil m.type.toList) ▸ hmem

theorem holds_mark (m : Member) : m.parameter.holds "?" = false := by
  refine Text.contains_eq_false fun h => ?_
  exact absurd (isSign_of_mem (h.subset (.head _))) (by decide)

end Member

-- A parameter gives the property of its field.
theorem propOf?_parameter (d : Declaration) (hm : m ∈ d.parameters) :
    propOf? d.source m.parameter = some m.found := by
  obtain ⟨f, hf, hname⟩ := m.exists_search?_parameter
  obtain ⟨g, hg, htype⟩ := d.exists_search?_declaration hm
  have hread : ¬skippedNames.contains m.name := by simpa using m.name_read
  rw [propOf?_eq hf, hname, if_neg hread, hg, Option.elim_some, htype, m.stripped_typeText]
  dsimp only
  rw [m.replacing_typeText, m.finishesWith_typeText, m.holds_mark, m.holds_required, Bool.or_false]
  rfl

theorem propsOf_source (d : Declaration) :
    propsOf d.source d.name = d.parameters.map Member.found := by
  obtain ⟨f, hf, hlisting⟩ := d.exists_search?_constructor
  have hkey : (if "super.key" == "" then none else propOf? d.source "super.key") = none := by
    rw [propOf?_key, ite_self]
  have hparameter : ∀ m ∈ d.parameters,
      (if m.parameter == "" then none else propOf? d.source m.parameter) = some m.found := by
    intro m hm
    have hne : ¬(m.parameter == "") := by
      rw [beq_iff_eq, ← String.toList_inj, Member.toList_parameter]
      simp
    rw [if_neg hne, propOf?_parameter d hm]
  rw [propsOf, hf]
  dsimp only
  rw [hlisting, d.pieces_listing, List.filterMap_cons, hkey, List.filterMap_map]
  exact (List.filterMap_congr hparameter).trans (congrFun List.filterMap_eq_map _)

theorem found_eq_declared_iff : m.found = m.declared ↔ m.marked ∨ m.isRequired ∨ ¬m.mentions := by
  have hrequired : m.isRequired → m.mentions := by
    cases h : m.passing
    all_goals simp [Member.isRequired, Member.mentions, h]
  have hnullable : m.found = m.declared ↔ (m.marked || !m.mentions) = (m.marked || !m.isRequired) :=
    ⟨congrArg Field.nullable, congrArg fun b => m.prop b⟩
  rw [hnullable]
  cases hmarked : m.marked
  case true => simp
  case false =>
    cases hword : m.isRequired
    case true => simp [hrequired hword]
    case false => simp

-- One property is read for each parameter, in order, with the type of its field. They are those that
-- the declaration stands for exactly if no name and no initial value of a parameter that may be left
-- out has the word for required ones in it, unless its type has a question mark anyway.
theorem propsOf_source_iff (d : Declaration) :
    propsOf d.source d.name = d.parameters.map Member.found ∧
      (propsOf d.source d.name = d.parameters.map Member.declared ↔
        ∀ m ∈ d.parameters, m.marked ∨ m.isRequired ∨ ¬m.mentions) := by
  refine ⟨propsOf_source d, ?_⟩
  rw [propsOf_source, List.map_inj_left]
  exact forall₂_congr fun m _ => found_eq_declared_iff

-- A widget with a parameter that may be left out, named for what is required of it.
def badge : Declaration :=
  let age : Member :=
    { name := "requiredAge"
      type := "int"
      marked := false
      passing := .optional
      name_run := ⟨by decide, by decide⟩
      name_read := by decide
      type_run := ⟨by decide, by decide⟩
      value_run := nofun }
  { name := "Badge"
    base := "StatelessWidget"
    fields := [age]
    parameters := [age]
    name_run := ⟨by decide, by decide⟩
    base_run := ⟨by decide, by decide⟩
    distinct := by decide
    perm := .refl _ }

theorem not_every_property_declared :
    badge.source = "class Badge extends StatelessWidget \x7b\n  final int requiredAge;\n" ++
      "  const Badge(\x7bsuper.key, this.requiredAge\x7d);\n\x7d" ∧
    (propsOf badge.source badge.name).map Field.nullable = [false] ∧
      (badge.parameters.map Member.declared).map Field.nullable = [true] := by
  refine ⟨by decide, ?_, rfl⟩
  decide +kernel

end Refit.Widget
