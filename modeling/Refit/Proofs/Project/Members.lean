import Refit.Project.Widget
import Refit.Proofs.Project.TypeNames
import Refit.Proofs.Text.Words

/-!
Widgets with one constructor that sets their fields, as text.

The name of a parameter and the declaration of the field that it sets are found where they stand.
-/

namespace Refit.Widget

open Pattern

variable {n s t w : List Char} {last : Option Char} {gs : List (Nat × List Char)}

/-! Declarations -/

-- A character of a type, its question mark apart.
def isTypeSign (c : Char) : Bool :=
  Letter.isWord c || c == '<' || c == '>'

-- A character of a number or a name.
def isValueSign (c : Char) : Bool :=
  Letter.isWord c || c == '.' || c == '+' || c == '-'

-- How a constructor takes a parameter: by the word for required ones, without it, or with an initial
-- value.
inductive Passing where
  | required
  | optional
  | initial (value : String)

-- A field with the parameter that sets it.
structure Member where
  name : String
  type : String
  marked : Bool
  passing : Passing
  name_run : Run Letter.isWord name.toList
  name_read : name ∉ skippedNames
  type_run : Run isTypeSign type.toList
  value_run : ∀ v, passing = .initial v → Run isValueSign v.toList

structure Declaration where
  name : String
  base : String
  fields : List Member
  parameters : List Member
  name_run : Run Letter.isWord name.toList
  base_run : Run isTypeSign base.toList
  distinct : (fields.map Member.name).Nodup
  perm : parameters.Perm fields

namespace Member

variable {m : Member}

def typeText (m : Member) : String :=
  m.type ++ if m.marked then "?" else ""

def line (m : Member) : String :=
  "  final " ++ m.typeText ++ " " ++ m.name ++ ";\n"

def parameter (m : Member) : String :=
  match m.passing with
  | .required => "required this." ++ m.name
  | .optional => "this." ++ m.name
  | .initial v => "this." ++ m.name ++ " = " ++ v

-- Whether the word for required parameters stands in the text of the parameter.
def mentions (m : Member) : Bool :=
  match m.passing with
  | .required => true
  | .optional => m.name.holds "required"
  | .initial v => m.name.holds "required" || v.holds "required"

def isRequired (m : Member) : Bool :=
  match m.passing with
  | .required => true
  | _ => false

-- The property of a field that may be absent in some case.
def prop (nullable : Bool) (m : Member) : Field :=
  { name := .text m.name, type := .text m.type, nullable := nullable }

-- The property that is read.
def found (m : Member) : Field :=
  m.prop (m.marked || !m.mentions)

-- The property that the declaration stands for.
def declared (m : Member) : Field :=
  m.prop (m.marked || !m.isRequired)

end Member

namespace Declaration

def lines : List Member → String
  | [] => ""
  | m :: ms => m.line ++ lines ms

def listed : List Member → String
  | [] => ""
  | m :: ms => ", " ++ m.parameter ++ listed ms

-- The constructor between its braces.
def listing (d : Declaration) : String :=
  "super.key" ++ listed d.parameters

def constructorText (d : Declaration) : String :=
  "const " ++ d.name ++ "(\x7b" ++ d.listing ++ "\x7d"

def head (d : Declaration) : String :=
  "class " ++ d.name ++ " extends " ++ d.base ++ " "

def source (d : Declaration) : String :=
  d.head ++ "\x7b\n" ++ lines d.fields ++ "  " ++ d.constructorText ++ ");\n\x7d"

end Declaration

/-! The name of a parameter -/

section

variable {β : Type} {k : State → Option β}

theorem run_parameterName {st : State} : parameterName.run st k =
    (opt (lit "required" ++ plus blank)).run st fun st => (opt (lit "this.")).run st fun st =>
      (group 1 (plus word)).run st fun st => (star blank).run st fun st =>
        (char '=' <|> char ',' <|> textEnd).run st k :=
  rfl

-- What may follow the name of a parameter.
inductive Ended : List Char → Prop
  | nothing : Ended []
  | value {v : List Char} : Ended (' ' :: '=' :: v)

theorem Ended.apart (h : Ended t) : Text.Apart t := by
  cases h
  case nothing => exact nofun
  case value =>
    rintro _ ⟨⟩
    decide

theorem exists_run_end {start : Spot} (ht : Ended t) : ∃ m : Match,
    ((star blank).run ⟨⟨last, t⟩, gs⟩ fun st => (char '=' <|> char ',' <|> textEnd).run st fun st =>
      some ⟨start, st.spot, st.groups⟩) = some m ∧ m.groups = gs := by
  cases ht
  case nothing => exact ⟨_, rfl, rfl⟩
  case value v =>
    have hblank : ∀ c ∈ [' '], Letter.isBlank c := by decide
    have hstop : ∀ c ∈ ('=' :: v).head?, ¬Letter.isBlank c := by
      rintro _ ⟨⟩
      decide
    exact ⟨_, run_star_one hblank hstop (run_either_of_some (run_one_cons (by decide))), rfl⟩

theorem exists_run_this {start : Spot} (hn : Run Letter.isWord n) (ht : Ended t) : ∃ m : Match,
    ((opt (lit "this.")).run ⟨⟨last, "this.".toList ++ (n ++ t)⟩, []⟩ fun st =>
      (group 1 (plus word)).run st fun st => (star blank).run st fun st =>
        (char '=' <|> char ',' <|> textEnd).run st fun st => some ⟨start, st.spot, st.groups⟩) =
      some m ∧ m.groups = [(1, n)] := by
  obtain ⟨m, hm, hgroups⟩ := @exists_run_end t n.getLast? [(1, n)] start ht
  refine ⟨m, run_opt_of_some (run_lit.trans ?_), hgroups⟩
  rw [run_group]
  refine run_plus_one hn.all hn.some ht.apart ?_
  rw [upTo_spot_append]
  exact hm

theorem exists_matchAt?_parameterName {lead : List Char} (hn : Run Letter.isWord n) (ht : Ended t)
    (hlead : lead = [] ∨ lead = "required ".toList) :
    ∃ m, parameterName.matchAt? ⟨none, lead ++ ("this.".toList ++ (n ++ t))⟩ = some m ∧
      m.groups = [(1, n)] := by
  rcases hlead with rfl | rfl
  case inl =>
    obtain ⟨m, hm, hgroups⟩ :=
      @exists_run_this n t none ⟨none, "this.".toList ++ (n ++ t)⟩ hn ht
    refine ⟨m, ?_, hgroups⟩
    rw [List.nil_append, matchAt?, run_parameterName, opt, run_many_of_none rfl]
    · exact hm
    · exact fun k => run_both_of_none fun k => run_lit_of_not_prefix (by simp [List.cons_prefix_cons])
  case inr =>
    obtain ⟨m, hm, hgroups⟩ := @exists_run_this n t (some ' ')
      ⟨none, "required ".toList ++ ("this.".toList ++ (n ++ t))⟩ hn ht
    refine ⟨m, ?_, hgroups⟩
    have hblank : ∀ c ∈ [' '], Letter.isBlank c := by decide
    have hstop : ∀ c ∈ ("this.".toList ++ (n ++ t)).head?, ¬Letter.isBlank c := by
      rintro _ ⟨⟩
      decide
    rw [matchAt?, run_parameterName]
    refine run_opt_of_some ?_
    rw [run_append]
    refine (@run_lit _ _ ([' '] ++ ("this.".toList ++ (n ++ t))) _ _ "required").trans ?_
    exact run_plus_one hblank (by simp) hstop hm

end

theorem group_of_lookup {m : Match} {i : Nat} (h : m.groups.lookup i = some w) :
    m.group i = String.ofList w := by
  rw [Match.group, Match.group?, h, Option.map_some, Option.getD_some]

theorem not_isBlank_of_isValueSign {c : Char} (h : isValueSign c) : ¬Letter.isBlank c := by
  simp only [isValueSign, Bool.or_eq_true, beq_iff_eq] at h
  rcases h with ((h | rfl) | rfl) | rfl
  case inl.inl.inl => exact Letter.not_isBlank_of_isWord h
  all_goals decide

namespace Member

variable {m : Member}

/-! The text of a parameter -/

-- What stands before the name, but for the word for the widget itself.
def lead (m : Member) : List Char :=
  match m.passing with
  | .required => "required ".toList
  | _ => []

def tail (m : Member) : List Char :=
  match m.passing with
  | .initial v => ' ' :: '=' :: ' ' :: v.toList
  | _ => []

theorem toList_parameter (m : Member) :
    m.parameter.toList = m.lead ++ ("this.".toList ++ (m.name.toList ++ m.tail)) := by
  cases h : m.passing
  all_goals simp [parameter, lead, tail, h]

theorem ended_tail (m : Member) : Ended m.tail := by
  cases h : m.passing
  case initial v =>
    rw [tail, h]
    exact .value
  all_goals
    rw [tail, h]
    exact .nothing

theorem lead_eq_or (m : Member) : m.lead = [] ∨ m.lead = "required ".toList := by
  cases h : m.passing
  all_goals simp [lead, h]

-- A class of characters that all those of parameters are in.
def isSign (c : Char) : Bool :=
  isValueSign c || c == ' ' || c == '='

theorem isSign_of_mem {c : Char} (hc : c ∈ m.parameter.toList) : isSign c := by
  have hvalue {c : Char} (h : isValueSign c) : isSign c := by simp [isSign, h]
  have hlead : ∀ c ∈ "required ".toList, isSign c := by decide
  have hthis : ∀ c ∈ "this.".toList, isSign c := by decide
  rw [toList_parameter, List.mem_append, List.mem_append, List.mem_append] at hc
  rcases hc with hc | hc | hc | hc
  case inl =>
    rcases m.lead_eq_or with h | h
    all_goals rw [h] at hc
    case inl => cases hc
    case inr => exact hlead c hc
  case inr.inl => exact hthis c hc
  case inr.inr.inl => exact hvalue (by simp [isValueSign, m.name_run.all c hc])
  case inr.inr.inr =>
    cases h : m.passing
    case initial v =>
      simp only [tail, h, List.mem_cons] at hc
      rcases hc with rfl | rfl | rfl | hc
      case inr.inr.inr => exact hvalue ((m.value_run v h).all c hc)
      all_goals decide
    all_goals
      rw [tail, h] at hc
      cases hc

theorem stripped_parameter (m : Member) :
    Text.trim Letter.isBlank m.parameter.toList = m.parameter.toList := by
  have hend {u w : List Char} {f : Char → Bool} (hw : Run f w)
      (hf : ∀ c, f c → ¬Letter.isBlank c) : ∀ c ∈ (u ++ w).getLast?, ¬Letter.isBlank c := by
    intro c hc
    rw [List.getLast?_append_of_ne_nil _ hw.some] at hc
    exact hf c (hw.all c (List.mem_of_getLast? hc))
  refine Text.trim_eq_self_iff.mpr ⟨fun c hc => ?_, ?_⟩
  case refine_1 =>
    rw [toList_parameter] at hc
    rcases m.lead_eq_or with h | h
    all_goals
      rw [h] at hc
      obtain rfl := Option.some.inj hc
      decide
  case refine_2 =>
    cases h : m.passing
    case initial v =>
      have htext : m.parameter.toList = ("this.".toList ++ (m.name.toList ++ " = ".toList)) ++ v.toList := by
        simp [parameter, h]
      rw [htext]
      exact hend (m.value_run v h) fun _ => not_isBlank_of_isValueSign
    all_goals
      rw [toList_parameter, tail, h, List.append_nil, ← List.append_assoc]
      exact hend m.name_run fun _ => Letter.not_isBlank_of_isWord

theorem holds_required (m : Member) : m.parameter.holds "required" = m.mentions := by
  have hthis : ¬"required".toList <:+: "this".toList := by decide
  have hdot : '.' ∉ "required".toList := by decide
  have hblank : ' ' ∉ "required".toList := by decide
  have hequal : '=' ∉ "required".toList := by decide
  have hempty : ¬"required".toList <:+: [] := by decide
  have hbehind {w : List Char} :
      "required".toList <:+: "this.".toList ++ w ↔ "required".toList <:+: w := by
    have h := Text.infix_append_cons_iff (a := "this".toList) (s := w) hdot
    exact h.trans (or_iff_right hthis)
  rw [Bool.eq_iff_iff, String.holds, Text.contains_iff, toList_parameter]
  cases h : m.passing
  case required =>
    have hfirst : "required".toList <:+: m.lead ++ ("this.".toList ++ (m.name.toList ++ m.tail)) := by
      rw [lead, h]
      exact (List.prefix_append "required".toList _).isInfix
    rw [mentions, h]
    exact iff_of_true hfirst rfl
  case optional =>
    rw [lead, tail, h, List.nil_append, hbehind, List.append_nil, mentions, h, String.holds,
      Text.contains_iff]
  case initial v =>
    have hvalue : "required".toList <:+: '=' :: ' ' :: v.toList ↔ "required".toList <:+: v.toList := by
      have h₁ := Text.infix_append_cons_iff (a := []) (s := ' ' :: v.toList) hequal
      have h₂ := Text.infix_append_cons_iff (a := []) (s := v.toList) hblank
      exact (h₁.trans (or_iff_right hempty)).trans (h₂.trans (or_iff_right hempty))
    rw [lead, tail, h, List.nil_append, hbehind, Text.infix_append_cons_iff hblank, hvalue, mentions, h,
      Bool.or_eq_true, String.holds, String.holds, Text.contains_iff, Text.contains_iff]

/-! Reading a parameter -/

theorem exists_search?_parameter (m : Member) :
    ∃ f, parameterName.search? m.parameter = some f ∧ f.group 1 = m.name := by
  obtain ⟨f, hf, hgroups⟩ := exists_matchAt?_parameterName m.name_run m.ended_tail m.lead_eq_or
  have hname : f.groups.lookup 1 = some m.name.toList := by rw [hgroups, List.lookup_cons_self]
  refine ⟨f, search?_of_matchAt? (m.toList_parameter ▸ hf), ?_⟩
  rw [group_of_lookup hname, String.ofList_toList]

end Member

/-! The declaration of a field -/

section

variable {name : String} {m : Member} {ms : List Member}

-- A character that may stand between the first word of a declaration and its end.
def isPart (c : Char) : Bool :=
  Field.typeChar c || Letter.isBlank c

theorem run_declaration {β : Type} {k : State → Option β} {st : State} : (declaration name).run st k =
    (lit "final").run st fun st => (plus blank).run st fun st =>
      (group 1 (plusLazy (one isPart))).run st fun st => (plus blank).run st fun st =>
        (lit name).run st fun st => (star blank).run st fun st => (char ';').run st k :=
  rfl

-- What a declaration goes through up to its end: its last word is the name.
theorem exists_of_declaration {spot : Spot} (hname : Run Letter.isWord name.toList)
    (h : (declaration name).matchAt? spot ≠ none) : ∃ u b v t,
      spot.rest = u ++ (b :: (name.toList ++ v)) ++ ';' :: t ∧
        (∀ c ∈ u ++ (b :: (name.toList ++ v)), isPart c) ∧ Letter.isBlank b ∧
          ∀ c ∈ v, Letter.isBlank c := by
  obtain ⟨m, h⟩ := Option.ne_none_iff_exists'.mp h
  rw [matchAt?, run_declaration] at h
  obtain ⟨r, hr, h⟩ := run_lit_iff.mp h
  obtain ⟨b₁, r, rfl, hb₁, h⟩ := exists_of_plus h
  rw [run_group] at h
  obtain ⟨w, r, rfl, hw, h⟩ := exists_of_plusLazy h
  obtain ⟨b₂, r, rfl, hb₂, h⟩ := exists_of_plus h
  obtain ⟨r, rfl, h⟩ := run_lit_iff.mp h
  obtain ⟨v, r, rfl, hv, h⟩ := exists_of_star h
  obtain ⟨d, t, rfl, hd, _⟩ := run_one_iff.mp h
  obtain rfl := eq_of_beq hd
  have hblank {c : Char} (h : Letter.isBlank c) : isPart c := by simp [isPart, h]
  have hword {c : Char} (h : Letter.isWord c) : isPart c := by simp [isPart, Field.typeChar, h]
  obtain ⟨b₂', b, rfl⟩ := (List.eq_nil_or_concat' b₂).resolve_left hb₂.some
  refine ⟨"final".toList ++ (b₁ ++ (w ++ b₂')), b, v, t, by simp [hr], ?_, hb₂.all b (by simp), hv⟩
  intro c hc
  simp only [List.mem_append, List.mem_cons] at hc
  rcases hc with (hc | hc | hc | hc) | rfl | hc | hc
  case inl.inl =>
    have hfinal : ∀ c ∈ "final".toList, isPart c := by decide
    exact hfinal c hc
  case inl.inr.inl => exact hblank (hb₁.all c hc)
  case inl.inr.inr.inl => exact hw.all c hc
  case inl.inr.inr.inr => exact hblank (hb₂.all c (by simp [hc]))
  case inr.inl => exact hblank (hb₂.all c (by simp))
  case inr.inr.inl => exact hword (hname.all c hc)
  case inr.inr.inr => exact hblank (hv c hc)

theorem matchAt?_declaration_of_head (h : 'f' ∉ s.head?) :
    (declaration name).matchAt? ⟨last, s⟩ = none := by
  rw [matchAt?, run_declaration]
  refine run_lit_of_not_prefix ?_
  rintro ⟨t, rfl⟩
  exact h rfl

theorem quiet_of_no_start (h : 'f' ∉ s) : Quiet (declaration name) last s t := by
  refine quiet_of_forall fun u c v hs => matchAt?_declaration_of_head ?_
  rintro ⟨⟩
  exact h (hs ▸ List.mem_append_right u (.head _))

-- No match begins in a text up to the end of a declaration that has another last word.
theorem quiet_of_other (hname : Run Letter.isWord name.toList) (hs : ';' ∉ s)
    (hother : ∀ u b v, s = u ++ (b :: (name.toList ++ v)) → Letter.isBlank b →
      ¬∀ c ∈ v, Letter.isBlank c) : Quiet (declaration name) last s (';' :: t) := by
  intro x y hxy _
  by_contra h
  obtain ⟨u, b, v, t', hr, hpart, hb, hv⟩ := exists_of_declaration hname h
  have hclear : ';' ∉ u ++ (b :: (name.toList ++ v)) := fun h => absurd (hpart _ h) (by decide)
  have hy : ';' ∉ y := fun h => hs (hxy ▸ List.mem_append_right x h)
  have heq : y = u ++ (b :: (name.toList ++ v)) := Text.append_cons_inj hy hclear hr
  exact hother (x ++ u) b v (by rw [hxy, heq, List.append_assoc]) hb hv

-- No match begins in a text that ends in a sign which stands in no declaration.
theorem quiet_of_sign {d : Char} (hname : Run Letter.isWord name.toList) (hs : ';' ∉ s ++ [d])
    (hd : ¬isPart d) : Quiet (declaration name) last (s ++ [d]) t := by
  intro x y hxy hy
  by_contra h
  obtain ⟨u, b, v, t', hr, hpart, _, _⟩ := exists_of_declaration hname h
  have hmem : d ∈ y := by
    obtain ⟨z, e, rfl⟩ := (List.eq_nil_or_concat' y).resolve_left hy
    rw [← List.append_assoc] at hxy
    obtain ⟨_, he⟩ := List.append_inj' hxy rfl
    rw [List.cons.inj he |>.1]
    exact List.mem_append_right _ (.head _)
  have hclear : ';' ∉ y := fun h => hs (hxy ▸ List.mem_append_right x h)
  rcases List.append_eq_append_iff.mp hr with ⟨z, hz, _⟩ | ⟨z, hz, hrest⟩
  case inl => exact hd (hpart d (hz ▸ List.mem_append_left _ hmem))
  case inr =>
    cases z
    case nil =>
      rw [List.append_nil] at hz
      exact hd (hpart d (hz ▸ hmem))
    case cons e z =>
      obtain ⟨rfl, _⟩ := List.cons.inj hrest
      exact hclear (hz ▸ List.mem_append_right _ (.head _))

namespace Member

theorem run_typeText (m : Member) : Run Field.typeChar m.typeText.toList where
  some := by
    rw [typeText, String.toList_append]
    exact fun h => m.type_run.some (List.append_eq_nil_iff.mp h).1
  all := by
    intro c hc
    rw [typeText, String.toList_append, List.mem_append] at hc
    rcases hc with hc | hc
    case inl =>
      have hsign := m.type_run.all c hc
      simp only [isTypeSign, Bool.or_eq_true] at hsign
      rcases hsign with (h | h) | h
      all_goals simp [Field.typeChar, h]
    case inr =>
      split at hc
      case isTrue =>
        obtain rfl := List.mem_singleton.mp hc
        decide
      case isFalse => cases hc

theorem not_isBlank_of_typeChar {c : Char} (h : Field.typeChar c) : ¬Letter.isBlank c := by
  simp only [Field.typeChar, Bool.or_eq_true, beq_iff_eq] at h
  rcases h with (((h | rfl) | rfl) | rfl) | rfl
  case inl.inl.inl.inl => exact Letter.not_isBlank_of_isWord h
  all_goals decide

theorem quiet_line (hname : Run Letter.isWord name.toList) (hne : m.name ≠ name) :
    Quiet (declaration name) last m.line.toList t := by
  have hline : m.line.toList =
      ("  final ".toList ++ m.typeText.toList ++ (' ' :: m.name.toList)) ++ [';', '\n'] := by
    simp [line]
  have hclear : ';' ∉ "  final ".toList ++ m.typeText.toList ++ (' ' :: m.name.toList) := by
    intro h
    simp only [List.mem_append, List.mem_cons] at h
    rcases h with (h | h) | h | h
    case inl.inl => exact absurd h (by decide)
    case inl.inr => exact absurd (m.run_typeText.all _ h) (by decide)
    case inr.inl => exact absurd h (by decide)
    case inr.inr => exact absurd (m.name_run.all _ h) (by decide)
  rw [hline]
  refine .append (quiet_of_other hname hclear fun u b v hs hb hv => hne ?_) ?_
  case refine_1 =>
    have hword := Text.last_word_unique m.name_run hname (by decide) hb hv hs
    exact String.toList_inj.mp hword
  case refine_2 => exact quiet_of_no_start (by decide)

-- The declaration of a field, without the blanks around it.
def statement (m : Member) : List Char :=
  "final ".toList ++ (m.typeText.toList ++ (' ' :: (m.name.toList ++ [';'])))

-- A declaration is found where it stands, with its type.
theorem matchAt?_declaration (m : Member) :
    (declaration m.name).matchAt? ⟨last, m.statement ++ t⟩ =
      some ⟨⟨last, m.statement ++ t⟩, ⟨some ';', t⟩, [(1, m.typeText.toList)]⟩ := by
  have hblank : ∀ c ∈ [' '], Letter.isBlank c := by decide
  have hpart : Run isPart m.typeText.toList :=
    ⟨m.run_typeText.some, fun c hc => by simp [isPart, m.run_typeText.all c hc]⟩
  have hsolid {s u : List Char} (hu : u <:+ m.typeText.toList) (hne : u ≠ []) :
      ∀ c ∈ (u ++ s).head?, ¬Letter.isBlank c := by
    obtain ⟨d, u, rfl⟩ := List.exists_cons_of_ne_nil hne
    rintro _ ⟨⟩
    exact not_isBlank_of_typeChar (m.run_typeText.all d (hu.subset (.head _)))
  have htext : m.statement ++ t = "final".toList ++
      ([' '] ++ (m.typeText.toList ++ ([' '] ++ (m.name.toList ++ ';' :: t)))) := by
    unfold statement
    simp
  rw [htext, matchAt?, run_declaration, run_lit]
  refine run_plus_one hblank (by simp) (hsolid (List.suffix_refl _) m.run_typeText.some) ?_
  rw [run_group]
  refine run_plusLazy_one hpart (fun u v huv _ hv => ?_) ?_
  case refine_1 => exact run_plus_of_head (hsolid ⟨u, huv.symm⟩ hv)
  case refine_2 =>
    rw [upTo_spot_append]
    refine run_plus_one hblank (by simp) (m.name_run.head?_of_word) ?_
    refine run_lit.trans ?_
    refine run_star_one (s := []) (List.forall_mem_nil _) ?_ (run_one_cons rfl)
    rintro _ ⟨⟩
    decide

end Member

namespace Declaration

variable {d : Declaration}

theorem quiet_lines (hname : Run Letter.isWord name.toList) (h : ∀ m ∈ ms, m.name ≠ name) :
    Quiet (declaration name) last (lines ms).toList t := by
  induction ms generalizing last
  case nil => exact .nil
  case cons m ms ih =>
    obtain ⟨hm, hms⟩ := List.forall_mem_cons.mp h
    rw [lines, String.toList_append]
    exact .append (m.quiet_line hname hm) (ih hms)

theorem lines_append {ms ms' : List Member} : lines (ms ++ ms') = lines ms ++ lines ms' := by
  induction ms
  case nil => exact String.empty_append.symm
  case cons m ms ih => rw [List.cons_append, lines, lines, ih, String.append_assoc]

theorem sign_of_mem_head {c : Char} (hc : c ∈ d.head.toList) : isTypeSign c ∨ c = ' ' := by
  have hword {w : List Char} (hw : Run Letter.isWord w) (hc : c ∈ w) : isTypeSign c := by
    simp [isTypeSign, hw.all c hc]
  have hclass : ∀ c ∈ "class ".toList, isTypeSign c ∨ c = ' ' := by decide
  have hextends : ∀ c ∈ " extends ".toList, isTypeSign c ∨ c = ' ' := by decide
  have hblank : ∀ c ∈ " ".toList, isTypeSign c ∨ c = ' ' := by decide
  rw [head] at hc
  simp only [String.toList_append, List.mem_append] at hc
  rcases hc with (((hc | hc) | hc) | hc) | hc
  · exact hclass c hc
  · exact .inl (hword d.name_run hc)
  · exact hextends c hc
  · exact .inl (d.base_run.all c hc)
  · exact hblank c hc

theorem exists_search?_declaration (hm : m ∈ d.parameters) :
    ∃ f, (declaration m.name).search? d.source = some f ∧ f.group 1 = m.typeText := by
  obtain ⟨ms, ms', hfields⟩ := List.append_of_mem (d.perm.mem_iff.mp hm)
  have hother : ∀ g ∈ ms, g.name ≠ m.name := by
    have hdistinct := d.distinct
    rw [hfields, List.map_append, List.map_cons, List.nodup_append] at hdistinct
    intro g hg
    exact hdistinct.2.2 _ (List.mem_map_of_mem hg) _ (.head _)
  have hbrace : ';' ∉ d.head.toList ++ ['\x7b'] := by
    intro h
    rcases List.mem_append.mp h with h | h
    case inl => exact absurd (sign_of_mem_head h) (by decide)
    case inr => exact absurd h (by decide)
  let front := (d.head.toList ++ ['\x7b']) ++ ('\n' :: (lines ms).toList ++ [' ', ' '])
  obtain ⟨r, hr⟩ : ∃ r, d.source.toList = front ++ (m.statement ++ r) := by
    refine ⟨'\n' :: (lines ms' ++ ("  " ++ d.constructorText ++ ");\n\x7d")).toList, ?_⟩
    rw [source, hfields, lines_append, lines]
    unfold Member.statement
    simp [front, Member.line]
  have hquiet : Quiet (declaration m.name) none front (m.statement ++ r) := by
    refine .append (quiet_of_sign m.name_run hbrace (by decide)) ?_
    refine .append (Quiet.cons_iff.mpr ⟨matchAt?_declaration_of_head (by simp), ?_⟩) ?_
    · exact quiet_lines m.name_run hother
    · exact quiet_of_no_start (by decide)
  refine ⟨⟨⟨front.getLast?.or none, m.statement ++ r⟩, ⟨some ';', r⟩, [(1, m.typeText.toList)]⟩, ?_, ?_⟩
  case refine_1 =>
    rw [search?, hr, hquiet.searchFrom?]
    exact searchFrom?_of_matchAt? m.matchAt?_declaration
  case refine_2 => rw [group_of_lookup (w := m.typeText.toList) rfl, String.ofList_toList]

end Declaration

end

end Refit.Widget
