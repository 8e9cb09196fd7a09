import Refit.Proofs.Project.TypeNames
import Refit.Proofs.Source.Outline

/-!
Sources that declare classes of final fields one after the other, and what is read off them.

Each class is found at the beginning of its line and each field on its own line, with the type, the
name and the relationship that its declaration gives it.
-/

namespace Refit

open Pattern

variable {s t l : List Char} {last : Option Char} {p : Pattern}

/-! Patterns that begin at a line start -/

def OnLines (p : Pattern) : Prop :=
  ∀ {spot : Spot}, ¬spot.atLineStart → p.matchAt? spot = none

-- No match begins in a line behind its first character, nor where the line ends.
theorem OnLines.quiet {d : Char} (hp : OnLines p) (hl : '\n' ∉ l)
    (hfirst : p.matchAt? ⟨last, l ++ d :: t⟩ = none) : Quiet p last (l ++ [d]) t := by
  intro u v huv hv
  rcases List.eq_nil_or_concat' u with rfl | ⟨u, c, rfl⟩
  case inl => simpa [← show l ++ [d] = v from huv] using hfirst
  case inr =>
    have hlength : l.length + 1 = u.length + (v.length + 1) := by
      simpa using congrArg List.length huv
    have hsome : 0 < v.length := List.length_pos_of_ne_nil hv
    have hbegins : u ++ [c] <+: l :=
      List.prefix_of_prefix_length_le (huv ▸ List.prefix_append _ v) (List.prefix_append l [d])
        (by rw [List.length_append, List.length_singleton]; omega)
    refine hp ?_
    have hc : c ≠ '\n' := fun h => hl (hbegins.subset (by simp [h]))
    simpa [Spot.atLineStart] using hc

theorem run_lineStart_none {β : Type} {k : State → Option β} {st : State}
    (h : ¬st.spot.atLineStart) : lineStart.run st k = none := by
  rw [lineStart, run, if_neg h]

theorem onLines_declaration : OnLines Field.declaration := fun h => run_lineStart_none h

theorem onLines_header : OnLines Model.header := fun h => run_lineStart_none h

/-! Declarations -/

structure FieldDeclaration where
  type : TypeName
  name : Identifier

structure ClassDeclaration where
  name : Identifier
  fields : List FieldDeclaration

namespace FieldDeclaration

variable {f : FieldDeclaration} {fs : List FieldDeclaration}

def text (f : FieldDeclaration) : String :=
  "  final " ++ String.ofList (f.type.chars true) ++ " " ++ f.name.text ++ ";"

def lines : List FieldDeclaration → String
  | [] => ""
  | f :: fs => f.text ++ "\n" ++ lines fs

def field (f : FieldDeclaration) : Field :=
  { name := .text f.name.text
    type := .text (String.ofList (f.type.chars false))
    nullable := f.type.nullable }

def relationship? (f : FieldDeclaration) : Option Relationship :=
  f.type.relation?.map fun (kind, target) => ⟨.text kind, .text target, .text f.name.text⟩

end FieldDeclaration

namespace ClassDeclaration

def text (c : ClassDeclaration) : String :=
  "class " ++ c.name.text ++ " \x7b\n" ++ FieldDeclaration.lines c.fields ++ "\x7d"

-- Classes on lines of their own. The last line may be without its end.
def source (ended : Bool) : List ClassDeclaration → String
  | [] => ""
  | [c] => c.text ++ if ended then "\n" else ""
  | c :: cs => c.text ++ "\n" ++ source ended cs

def model (file : String) (c : ClassDeclaration) : Model :=
  { name := .text c.name.text
    file := .text file
    fields := c.fields.map FieldDeclaration.field
    relationships := c.fields.filterMap FieldDeclaration.relationship?
    hasJson := c.text.holds "fromJson" || c.text.holds "toJson" }

end ClassDeclaration

/-! The parts of the declaration of a field -/

section

variable {β : Type} {k : State → Option β} {x : β} {gs : List (Nat × List Char)} {n : Identifier}

def modifier : Pattern :=
  anyOf (["final", "const", "late", "static"].map fun m => lit m ++ plus blank)

def assignment : Pattern :=
  star blank ++ char '=' ++ star blank ++ group 3 (plus (noneOf ";"))

def afterType : Pattern :=
  plus (oneOf " \t") ++ group 2 (plus word) ++ opt assignment ++ char ';'

theorem run_declaration {st : State} : Field.declaration.run st k =
    lineStart.run st fun st => (star (oneOf " \t")).run st fun st =>
      (star (Field.metadata (star blank))).run st fun st => (star modifier).run st fun st =>
        (group 1 (one Field.typeChar
          ++ starLazy (one fun c => Field.typeChar c || c == ' ' || c == '\t'))).run st fun st =>
            afterType.run st k :=
  rfl

theorem run_metadata_none {inner : Pattern} (h : ∀ c ∈ s.head?, c ≠ '@') (k : State → Option β) :
    (Field.metadata inner).run ⟨⟨last, s⟩, gs⟩ k = none := by
  simp only [Field.metadata, run_append]
  exact run_one_of_head fun c hc => by simpa using h c hc

-- A name that is no modifier is none, whatever stands behind it.
theorem run_modifier_none (hs : Text.Apart s) (k : State → Option β) :
    modifier.run ⟨⟨last, n.text.toList ++ s⟩, gs⟩ k = none := by
  have hmodifiers : ∀ m ∈ ["final", "const", "late", "static"],
      (∀ c ∈ m.toList, Letter.isWord c) ∧ m ∈ reservedWords := by
    decide +kernel
  by_contra h
  obtain ⟨x, h⟩ := Option.ne_none_iff_exists'.mp h
  obtain ⟨q, hq, h⟩ := exists_of_anyOf h
  obtain ⟨m, hm, rfl⟩ := List.mem_map.mp hq
  obtain ⟨t, ht, h⟩ := run_lit_iff.mp h
  obtain ⟨b, r, rfl, hb, _⟩ := exists_of_plus h
  obtain ⟨hword, hreserved⟩ := hmodifiers m hm
  have heq : n.text = m :=
    String.toList_inj.mp (Text.word_unique n.run.all hs hword hb.head?_of_blank ht)
  exact n.free (heq ▸ hreserved)

theorem run_final (hs : ∀ c ∈ s.head?, ¬Letter.isBlank c) (hk : k ⟨⟨some ' ', s⟩, gs⟩ = some x) :
    modifier.run ⟨⟨last, "final".toList ++ ([' '] ++ s)⟩, gs⟩ k = some x := by
  refine run_either_of_some ?_
  refine (run_append (a := lit "final") (b := plus blank)).trans ?_
  rw [run_lit]
  exact run_plus_one (by decide) (by simp) hs hk

theorem isBlank_of_tab {c : Char} (h : " \t".toList.contains c) : Letter.isBlank c := by
  have hblank : ∀ c ∈ " \t".toList, Letter.isBlank c := by decide
  exact hblank c (by simpa using h)

theorem exists_of_assignment {st : State} (hst : st.spot.rest = s)
    (h : assignment.run st k = some x) :
    ∃ b q, s = b ++ '=' :: q ∧ ∀ c ∈ b, Letter.isBlank c := by
  subst hst
  simp only [assignment, run_append] at h
  obtain ⟨b, _, hr, hb, h⟩ := exists_of_star h
  obtain ⟨d, q, rfl, hd, _⟩ := run_one_iff.mp h
  obtain rfl := eq_of_beq hd
  exact ⟨b, q, hr, hb⟩

theorem run_assignment_none {c : Char} (hblank : ¬Letter.isBlank c) (hc : c ≠ '=')
    (k : State → Option β) : assignment.run ⟨⟨last, c :: s⟩, gs⟩ k = none := by
  by_contra h
  obtain ⟨x, h⟩ := Option.ne_none_iff_exists'.mp h
  obtain ⟨b, q, hr, hb⟩ := exists_of_assignment rfl h
  cases b
  case nil => exact hc (List.cons.inj hr).1
  case cons e b => exact hblank ((List.cons.inj hr).1 ▸ hb e (.head _))

-- A declaration that ends has blanks in front of the sign that ends it.
theorem exists_of_end {st : State} (hst : st.spot.rest = s)
    (h : (opt assignment).run st (fun st => (char ';').run st k) = some x) :
    ∃ b d q, s = b ++ d :: q ∧ (∀ c ∈ b, Letter.isBlank c) ∧ (d = '=' ∨ d = ';') := by
  rcases run_opt_some h with h | h
  case inl =>
    obtain ⟨b, q, hr, hb⟩ := exists_of_assignment hst h
    exact ⟨b, '=', q, hr, hb, .inl rfl⟩
  case inr =>
    obtain ⟨d, q, hr, hd, _⟩ := run_one_iff.mp h
    exact ⟨[], d, q, hst ▸ hr, List.forall_mem_nil _, .inr (eq_of_beq hd)⟩

theorem exists_of_afterType {st : State} (hst : st.spot.rest = s)
    (h : afterType.run st k = some x) :
    ∃ u d q, s = u ++ d :: q ∧ (∀ c ∈ u, Letter.isBlank c ∨ Letter.isWord c) ∧
      (d = '=' ∨ d = ';') := by
  subst hst
  simp only [afterType, run_append, run_group] at h
  obtain ⟨b, _, hr, hb, h⟩ := exists_of_plus h
  obtain ⟨w, _, rfl, hw, h⟩ := exists_of_plus h
  obtain ⟨e, d, q, rfl, he, hd⟩ := exists_of_end rfl h
  refine ⟨b ++ (w ++ e), d, q, by simp [hr], ?_, hd⟩
  simp only [List.mem_append]
  rintro c (h | h | h)
  exacts [.inl (isBlank_of_tab (hb.all c h)), .inr (hw.all c h), .inl (he c h)]

theorem run_afterType (hk : k ⟨⟨some ';', t⟩, (2, n.text.toList) :: gs⟩ = some x) :
    afterType.run ⟨⟨last, [' '] ++ (n.text.toList ++ ';' :: t)⟩, gs⟩ k = some x := by
  have hblank : ∀ c ∈ (n.text.toList ++ ';' :: t).head?, ¬" \t".toList.contains c :=
    fun c hc h => n.run.head?_of_word c hc (isBlank_of_tab h)
  have hend : ∀ c ∈ (';' :: t).head?, ¬Letter.isWord c := by
    rintro _ ⟨⟩
    decide
  simp only [afterType, run_append, run_group]
  refine run_plus_one (by decide) (by simp) hblank ?_
  refine run_plus_one n.run.all n.run.some hend ?_
  rw [opt, run_many_of_none rfl (run_assignment_none (by decide) (by decide)), char,
    run_one_cons (by decide), upTo_spot_append]
  exact hk

-- What stands behind a part of a name that has a sign behind it.
theorem exists_cons_of_word {c : Char} {w q r : List Char} (hc : c ∈ "<>,?".toList)
    (hw : ∀ c ∈ w, Letter.isWord c) (h : n.text.toList ++ c :: r = w ++ q) :
    ∃ d q', q = d :: q' ∧ (d ∈ "<>,?".toList ∨ Letter.isWord d) := by
  rcases List.append_eq_append_iff.mp h with ⟨a, rfl, hrest⟩ | ⟨a, hn, hrest⟩
  case inl =>
    cases a
    case nil => exact ⟨c, r, hrest.symm, .inl hc⟩
    case cons d a =>
      obtain ⟨rfl, _⟩ := List.cons.inj hrest
      exact absurd (hw c (by simp)) (TypeName.sign_class c hc).2.1
  case inr =>
    cases a
    case nil => exact ⟨c, r, hrest, .inl hc⟩
    case cons d a => exact ⟨d, _, hrest, .inr (n.run.all d (by simp [hn]))⟩

-- Inside a type no name stands that ends the declaration.
theorem run_afterType_none (h : TypeName.Spelled [] s) {u v : List Char} (hs : s = u ++ v)
    (hv : v ≠ []) (k : State → Option β) : afterType.run ⟨⟨last, v ++ t⟩, gs⟩ k = none := by
  by_contra hrun
  obtain ⟨x, hrun⟩ := Option.ne_none_iff_exists'.mp hrun
  simp only [afterType, run_append, run_group] at hrun
  obtain ⟨b, _, hr, hb, hrun⟩ := exists_of_plus hrun
  obtain ⟨w, q, rfl, hw, hrun⟩ := exists_of_plus hrun
  obtain ⟨d, v, rfl⟩ := List.exists_cons_of_ne_nil hv
  obtain ⟨e, b, rfl⟩ := List.exists_cons_of_ne_nil hb.some
  obtain ⟨rfl, hrest⟩ := List.cons.inj hr
  have htab : " \t".toList.contains d := hb.all d (.head _)
  have hspace : d = ' ' := by
    have hsort : ∀ c ∈ " \t".toList, ¬Field.typeChar c := by decide
    exact (h.chars_mem d (by simp [hs])).resolve_left (hsort d (by simpa using htab))
  obtain ⟨n, _, rfl, c, r, rfl, hc⟩ := h.exists_of_blank (hspace ▸ hs)
  have hb : b = [] := by
    by_contra hne
    obtain ⟨y, b, rfl⟩ := List.exists_cons_of_ne_nil hne
    have hhead : y ∈ (n.text.toList ++ (c :: r ++ t)).head? := by
      rw [(List.append_assoc _ _ _).symm.trans hrest]
      rfl
    exact absurd (isBlank_of_tab (hb.all y (by simp))) (n.run.head?_of_word y hhead)
  subst hb
  have hin : n.text.toList ++ c :: (r ++ t) = w ++ q := by simpa using hrest
  obtain ⟨y, q, rfl, hy⟩ := exists_cons_of_word hc hw.all hin
  have hsort : ¬Letter.isBlank y ∧ y ≠ '=' ∧ y ≠ ';' := by
    rcases hy with hy | hy
    case inl =>
      have hsign : ∀ c ∈ "<>,?".toList, c ≠ '=' ∧ c ≠ ';' := by decide
      exact ⟨(TypeName.sign_class y hy).2.2.1, hsign y hy⟩
    case inr =>
      refine ⟨Letter.not_isBlank_of_isWord hy, ?_, ?_⟩ <;> rintro rfl <;> exact absurd hy (by decide)
  obtain ⟨b, z, q', hq, hb, hz⟩ := exists_of_end rfl hrun
  cases b
  case nil =>
    obtain ⟨rfl, _⟩ := List.cons.inj hq
    exact hz.elim hsort.2.1 hsort.2.2
  case cons e b =>
    obtain ⟨rfl, _⟩ := List.cons.inj hq
    exact hsort.1 (hb _ (.head _))

end

/-! Fields -/

namespace FieldDeclaration

variable {f : FieldDeclaration} {fs : List FieldDeclaration}

theorem text_append : f.text.toList ++ t = [' ', ' '] ++ ("final".toList ++ ([' '] ++
    (f.type.chars true ++ ([' '] ++ (f.name.text.toList ++ ';' :: t))))) := by
  simp [text]

theorem head?_type {t : TypeName} : ∀ c ∈ (t.chars true ++ s).head?, ¬Letter.isBlank c := by
  obtain ⟨n, r, hr, _⟩ := t.exists_name true
  rw [hr, List.append_assoc]
  exact n.run.head?_of_word

theorem run_modifier_type {β : Type} {t : TypeName} {gs : List (Nat × List Char)}
    (hs : Text.Apart s) (k : State → Option β) :
    modifier.run ⟨⟨last, t.chars true ++ s⟩, gs⟩ k = none := by
  obtain ⟨n, r, hr, hrest⟩ := t.exists_name true
  rw [hr, List.append_assoc]
  refine run_modifier_none ?_ k
  rcases hrest with rfl | hsigned
  case inl => exact hs
  case inr =>
    obtain ⟨c, r, rfl, hc⟩ := hsigned
    rintro _ ⟨⟩
    exact (TypeName.sign_class c hc).2.1

-- The type of a field ends where nothing before it lets the declaration end.
theorem run_type {β : Type} {t : TypeName} {k : State → Option β} {x : β}
    {gs : List (Nat × List Char)}
    (hk : ∀ last, afterType.run ⟨⟨last, s⟩, (1, t.chars true) :: gs⟩ k = some x) :
    (group 1 (one Field.typeChar
      ++ starLazy (one fun c => Field.typeChar c || c == ' ' || c == '\t'))).run
        ⟨⟨last, t.chars true ++ s⟩, gs⟩ (fun st => afterType.run st k) = some x := by
  have hspelled := t.spelled true
  obtain ⟨n, r, hr, _⟩ := t.exists_name true
  obtain ⟨c, w, hc⟩ := List.exists_cons_of_ne_nil n.run.some
  have hchars : t.chars true = c :: (w ++ r) := by rw [hr, hc, List.cons_append]
  have hfirst : Field.typeChar c := by
    have hword : Letter.isWord c := n.run.all c (hc ▸ .head _)
    simp [Field.typeChar, hword]
  have hinside : ∀ d ∈ w ++ r, Field.typeChar d || d == ' ' || d == '\t' := by
    intro d hd
    rcases hspelled.chars_mem d (hchars ▸ .tail _ hd) with h | rfl
    · simp [h]
    · simp
  rw [run_group, run_append, hchars, List.cons_append, run_one_cons hfirst]
  refine run_starLazy_one hinside (fun u v huv hv => ?_) ?_
  · exact run_afterType_none hspelled (u := c :: u) (by rw [hchars, huv, List.cons_append]) hv k
  · rw [← List.cons_append, upTo_spot_append, ← hchars]
    exact hk _

theorem matchAt?_text (hlast : last.all (· == '\n')) :
    Field.declaration.matchAt? ⟨last, f.text.toList ++ t⟩ =
      some ⟨⟨last, f.text.toList ++ t⟩, ⟨some ';', t⟩,
        [(2, f.name.text.toList), (1, f.type.chars true)]⟩ := by
  have hblank : Text.Apart ([' '] ++ (f.name.text.toList ++ ';' :: t)) := by
    rintro _ ⟨⟩
    decide
  rw [matchAt?, run_declaration]
  refine run_look_iff.mpr ⟨hlast, ?_⟩
  rw [text_append]
  refine run_star_one (by decide) (by rintro _ ⟨⟩; decide) ?_
  rw [Pattern.star, run_many_of_none rfl (run_metadata_none (by rintro _ ⟨⟩; decide))]
  refine run_star_once (by simp) (run_final head?_type) (run_modifier_type hblank) ?_
  exact run_type fun last => run_afterType rfl

theorem annotationNames_nil {w : String} (h : '@' ∉ w.toList) : Field.annotationNames w = [] := by
  have hnone : ∀ {last : Option Char} {s : List Char}, '@' ∉ s →
      Field.annotationName.matchAt? ⟨last, s⟩ = none := by
    intro last s hs
    simp only [matchAt?, Field.annotationName, run_append]
    refine run_one_of_head fun c hc heq => hs ?_
    rw [← eq_of_beq heq]
    exact List.mem_of_mem_head? hc
  have hquiet : Quiet Field.annotationName none w.toList [] := by
    intro u v huv hv
    rw [List.append_nil]
    exact hnone fun hmem => h (by simp [huv, hmem])
  rw [Field.annotationNames, (Finds.of_quiet hquiet (hnone (by simp))).all_eq]
  rfl

theorem word_ne_of_reserved {n : Identifier} {w : String} (h : w ∈ reservedWords) :
    n.text.toList ≠ w.toList :=
  fun heq => n.free (String.toList_inj.mp heq ▸ h)

theorem worded_text : Text.Worded (· ≠ "static".toList) f.text.toList := by
  have hfree (n : Identifier) : n.text.toList ≠ "static".toList :=
    word_ne_of_reserved (by decide)
  have hend : Text.Apart [';'] := by
    rintro _ ⟨⟩
    decide
  have hname : Text.Worded (· ≠ "static".toList) (' ' :: (f.name.text.toList ++ [';'])) :=
    .apart (by decide) (.word f.name.run (hfree _) hend (.apart (by decide) .nil))
  have htype := TypeName.Spelled.worded (by rintro _ ⟨⟩; decide) hfree hname
    (f.type.spelled_chars true _ (.inl rfl) .done)
  have hspace : Text.Apart (' ' :: (f.type.chars true ++ ' ' :: (f.name.text.toList ++ [';']))) := by
    rintro _ ⟨⟩
    decide
  have hfinal : Run Letter.isWord "final".toList := ⟨by simp, by decide +kernel⟩
  have hline : Text.Worded (· ≠ "static".toList) ("final".toList ++
      ' ' :: (f.type.chars true ++ ' ' :: (f.name.text.toList ++ [';']))) :=
    .word hfinal (by decide) hspace (.apart (by decide) htype)
  have htext := f.text_append (t := [])
  rw [List.append_nil] at htext
  rw [htext]
  exact .apart (by decide) (.apart (by decide) hline)

theorem sort_of_mem_text {d : Char} (h : d ∈ f.text.toList) :
    Field.typeChar d ∨ d = ' ' ∨ d = ';' := by
  have htext := f.text_append (t := [])
  have hfinal : ∀ d ∈ "final".toList, Field.typeChar d := by decide +kernel
  rw [List.append_nil] at htext
  simp only [htext, List.mem_append, List.mem_cons, List.not_mem_nil, or_false, or_self] at h
  rcases h with h | h | h | h | h | h | h
  · exact .inr (.inl h)
  · exact .inl (hfinal d h)
  · exact .inr (.inl h)
  · exact ((f.type.spelled true).chars_mem d h).imp_right .inl
  · exact .inr (.inl h)
  · exact .inl (by simp [Field.typeChar, f.name.run.all d h])
  · exact .inr (.inr h)

theorem sort_of_mem_lines {d : Char} (h : d ∈ (lines fs).toList) :
    Field.typeChar d ∨ d = ' ' ∨ d = ';' ∨ d = '\n' := by
  induction fs
  case nil => simp [lines] at h
  case cons f fs ih =>
    simp only [lines, String.toList_append, List.mem_append] at h
    rcases h with (h | h) | h
    · exact (sort_of_mem_text h).imp_right fun h => h.imp_right .inl
    · exact .inr (.inr (.inr (by simpa using h)))
    · exact ih h

-- What is made of a match that has the parts of a field.
theorem ofMatch?_text {m : Match} (htext : m.text = f.text)
    (hgroups : m.groups = [(2, f.name.text.toList), (1, f.type.chars true)]) :
    Field.ofMatch? m = some f.field := by
  have hstatic : Field.staticWord.occurs f.text = false :=
    Text.not_occurs_of_worded ⟨by simp, by decide +kernel⟩ worded_text
  have hannotations : Field.annotationNames f.text = [] := annotationNames_nil fun h => absurd (sort_of_mem_text h) (by decide)
  have htype : (m.group 1).stripped = String.ofList (f.type.chars true) := by
    simp [Match.group, Match.group?, hgroups, List.lookup_cons, String.stripped, TypeName.stripped_chars]
  have hname : m.group 2 = f.name.text := by
    simp [Match.group, Match.group?, hgroups]
  have hinitial : m.group? 3 = none := by
    simp [Match.group?, hgroups, List.lookup_cons]
  have hplain : (String.ofList (f.type.chars true)).replacing "?" "" =
      String.ofList (f.type.chars false) := by
    have hmarks := TypeName.replaceSeq_mark (s := f.type.chars true)
    rw [TypeName.unmarked_chars] at hmarks
    simp [String.replacing, hmarks]
  have hword := TypeName.first_word_free f.type
  rw [Field.ofMatch?, htext, htype, hname, hinitial, hstatic, hannotations, hplain,
    TypeName.finishesWith_mark, TypeName.not_finishesWith_get]
  simp only [String.toList_ofList, hword]
  rfl

theorem ofType?_field : Relationship.ofType? (String.ofList (f.type.chars false)) (.text f.name.text) =
    f.relationship? := by
  rw [Relationship.ofType?, TypeName.kind?_chars, relationship?]

theorem exists_match (hlast : last.all (· == '\n')) :
    ∃ m, Field.declaration.matchAt? ⟨last, f.text.toList ++ t⟩ = some m ∧
      m.stop = ⟨some ';', t⟩ ∧ Field.ofMatch? m = some f.field :=
  ⟨_, matchAt?_text hlast, rfl, ofMatch?_text (by simp [Match.text, upTo_spot_append]) rfl⟩

theorem exists_finds (fs : List FieldDeclaration) :
    ∃ ms, Finds Field.declaration ⟨some '\n', (lines fs).toList ++ ['\x7d']⟩ ms ∧
      ms.filterMap Field.ofMatch? = fs.map field := by
  induction fs
  case nil =>
    have hquiet : Quiet Field.declaration (some '\n') ['\x7d'] [] :=
      onLines_declaration.quiet (l := []) (by simp) rfl
    exact ⟨[], .of_quiet hquiet rfl, rfl⟩
  case cons f fs ih =>
    obtain ⟨ms, hms, heq⟩ := ih
    obtain ⟨m, hm, hstop, hfield⟩ : ∃ m, Field.declaration.matchAt?
        ⟨some '\n', f.text.toList ++ (['\n'] ++ ((lines fs).toList ++ ['\x7d']))⟩ = some m ∧
          m.stop = ⟨some ';', ['\n'] ++ ((lines fs).toList ++ ['\x7d'])⟩ ∧
            Field.ofMatch? m = some f.field :=
      exists_match rfl
    have hend : Quiet Field.declaration (some ';') ['\n'] ((lines fs).toList ++ ['\x7d']) :=
      onLines_declaration.quiet (l := []) (by simp) (onLines_declaration (by simp [Spot.atLineStart]))
    have hline : (lines (f :: fs)).toList ++ ['\x7d'] =
        f.text.toList ++ (['\n'] ++ ((lines fs).toList ++ ['\x7d'])) := by
      simp [lines]
    rw [hline]
    refine ⟨m :: ms, .here hm ?_ ?_, ?_⟩
    case refine_1 =>
      rw [hstop]
      simp [text]
      omega
    case refine_2 =>
      rw [hstop]
      exact .skip hend hms
    case refine_3 => rw [List.filterMap_cons_some hfield, heq, List.map_cons]

end FieldDeclaration

/-! Classes -/

namespace ClassDeclaration

variable {c : ClassDeclaration} {cs : List ClassDeclaration}

-- The line that a class begins with, up to its brace.
def head (c : ClassDeclaration) : List Char :=
  "class".toList ++ ([' '] ++ (c.name.text.toList ++ [' ']))

theorem text_append : c.text.toList ++ t =
    c.head ++ ('\x7b' :: '\n' :: ((FieldDeclaration.lines c.fields).toList ++ '\x7d' :: t)) := by
  simp [text, head]

theorem word_or_space_of_mem_head {d : Char} (h : d ∈ c.head) : Letter.isWord d ∨ d = ' ' := by
  have hclass : ∀ d ∈ "class".toList, Letter.isWord d := by decide +kernel
  simp only [head, List.mem_append, List.mem_singleton] at h
  rcases h with h | h | h | h
  exacts [.inl (hclass d h), .inr h, .inl (c.name.run.all d h), .inr h]

def keyword : Identifier :=
  ⟨"class", ⟨by simp, by decide +kernel⟩, by decide +kernel⟩

theorem run_modifier_head {β : Type} {gs : List (Nat × List Char)} (k : State → Option β) :
    modifier.run ⟨⟨last, c.head ++ t⟩, gs⟩ k = none := by
  rw [head, List.append_assoc, List.append_assoc]
  exact run_modifier_none (n := keyword) (by rintro _ ⟨⟩; decide) k

-- No declaration of a field begins with the line of a class: it would have to end in it.
theorem matchAt?_declaration_head :
    Field.declaration.matchAt? ⟨none, c.head ++ '\x7b' :: t⟩ = none := by
  by_contra h
  obtain ⟨m, h⟩ := Option.ne_none_iff_exists'.mp h
  rw [matchAt?, run_declaration] at h
  obtain ⟨_, h⟩ := run_look_iff.mp h
  obtain ⟨u, r, hr, hu, h⟩ := exists_of_star h
  have hnil : u = [] := by
    by_contra hne
    obtain ⟨d, u, rfl⟩ := List.exists_cons_of_ne_nil hne
    obtain ⟨rfl, _⟩ := List.cons.inj hr
    exact absurd (hu _ (.head _)) (by decide)
  subst hnil
  obtain rfl : c.head ++ '\x7b' :: t = r := hr
  rw [Pattern.star, run_many_of_none rfl (run_metadata_none (by rintro _ ⟨⟩; decide)), Pattern.star,
    run_many_of_none rfl run_modifier_head, run_group, run_append] at h
  obtain ⟨d, _, hr, hd, h⟩ := run_one_iff.mp h
  obtain ⟨w, _, rfl, hw, h⟩ := exists_of_starLazy h
  obtain ⟨v, e, q, rfl, hv, he⟩ := exists_of_afterType rfl h
  -- What the declaration goes through up to its end has no brace, so the end stands in the line.
  have hclear : '\x7b' ∉ (d :: (w ++ v)) ++ [e] := by
    simp only [List.mem_append, List.mem_cons, List.not_mem_nil, or_false, not_or]
    refine ⟨⟨?_, fun h => absurd (hw _ h) (by decide), fun h => absurd (hv _ h) (by decide)⟩, ?_⟩
    · rintro rfl
      exact absurd hd (by decide)
    · rintro rfl
      exact absurd he (by decide)
  have hall : (d :: (w ++ v)) ++ [e] <+: c.head ++ '\x7b' :: t := ⟨q, by simp [hr]⟩
  have hbegins := (Text.prefix_append_cons_iff hclear).mp hall
  have hmem : e ∈ c.head := hbegins.subset (by simp)
  rcases word_or_space_of_mem_head hmem with hword | rfl
  case inl =>
    rcases he with rfl | rfl <;> exact absurd hword (by decide)
  case inr => exact absurd he (by decide)

theorem fields_ofBody : Field.ofBody c.text = c.fields.map FieldDeclaration.field := by
  obtain ⟨ms, hms, heq⟩ := FieldDeclaration.exists_finds c.fields
  have hhead : Quiet Field.declaration none (c.head ++ ['\x7b'] ++ ['\n'])
      ((FieldDeclaration.lines c.fields).toList ++ ['\x7d']) := by
    refine onLines_declaration.quiet (fun h => ?_) (by simpa using matchAt?_declaration_head)
    rcases List.mem_append.mp h with h | h
    · exact absurd (word_or_space_of_mem_head h) (by decide)
    · exact absurd h (by decide)
  have htext : c.text.toList = (c.head ++ ['\x7b'] ++ ['\n']) ++
      ((FieldDeclaration.lines c.fields).toList ++ ['\x7d']) := by
    simp [text, head]
  have hall : Field.declaration.all c.text = ms := by
    refine Finds.all_eq ?_
    rw [htext]
    exact .skip hhead (by simpa using hms)
  rw [Field.ofBody, hall, heq]

/-! The header of a class -/

def clause (w : String) (b : Pattern) : Pattern :=
  plus blank ++ lit w ++ plus blank ++ b

theorem run_header {β : Type} {k : State → Option β} {st : State} : Model.header.run st k =
    lineStart.run st fun st => (star (Field.metadata (star blank))).run st fun st =>
      (opt (lit "abstract" ++ plus blank)).run st fun st => (lit "class").run st fun st =>
        (plus blank).run st fun st => (group 1 (plus word)).run st fun st =>
          (opt (clause "extends" (group 2 (plus word)))).run st fun st =>
            (opt (clause "with" Model.nameList)).run st fun st =>
              (opt (clause "implements" Model.nameList)).run st fun st =>
                (star blank).run st fun st => (char '\x7b').run st k :=
  rfl

-- No clause stands between the name of a class and its brace.
theorem run_clause {β : Type} {w : String} {b : Pattern} {k : State → Option β}
    {gs : List (Nat × List Char)} (hw : w.toList ≠ []) (hbrace : '\x7b' ∉ w.toList) :
    (opt (clause w b)).run ⟨⟨last, [' '] ++ '\x7b' :: t⟩, gs⟩ k =
      k ⟨⟨last, [' '] ++ '\x7b' :: t⟩, gs⟩ := by
  refine run_many_of_none rfl fun k => ?_
  by_contra h
  obtain ⟨x, h⟩ := Option.ne_none_iff_exists'.mp h
  simp only [clause, run_append] at h
  obtain ⟨u, _, hr, hu, h⟩ := exists_of_plus h
  obtain ⟨r, rfl, _⟩ := run_lit_iff.mp h
  obtain ⟨d, v, hd⟩ := List.exists_cons_of_ne_nil hw
  obtain ⟨e, u, rfl⟩ := List.exists_cons_of_ne_nil hu.some
  have hrest : '\x7b' :: t = u ++ (d :: (v ++ r)) := by simpa [hd] using (List.cons.inj hr).2
  cases u
  case nil =>
    obtain ⟨rfl, _⟩ := List.cons.inj hrest
    exact hbrace (hd ▸ .head _)
  case cons y u =>
    obtain ⟨rfl, _⟩ := List.cons.inj hrest
    exact absurd (hu.all '\x7b' (by simp)) (by decide)

theorem run_abstract_none {β : Type} {gs : List (Nat × List Char)} (h : 'a' ∉ s.head?)
    (k : State → Option β) : (lit "abstract" ++ plus blank).run ⟨⟨last, s⟩, gs⟩ k = none := by
  refine run_both_of_none fun k => run_lit_of_not_prefix ?_
  rintro ⟨t, rfl⟩
  exact h rfl

-- The line of a class is found as its header.
theorem matchAt?_header (hlast : last.all (· == '\n')) :
    Model.header.matchAt? ⟨last, c.head ++ '\x7b' :: t⟩ =
      some ⟨⟨last, c.head ++ '\x7b' :: t⟩, ⟨some '\x7b', t⟩, [(1, c.name.text.toList)]⟩ := by
  rw [matchAt?, run_header]
  refine run_look_iff.mpr ⟨hlast, ?_⟩
  rw [Pattern.star, run_many_of_none rfl (run_metadata_none (by rintro _ ⟨⟩; decide)), opt,
    run_many_of_none rfl (run_abstract_none (by rintro ⟨⟩)), head, List.append_assoc,
    List.append_assoc, run_lit, List.append_assoc]
  refine run_plus_one (by decide) (by simp) c.name.run.head?_of_word ?_
  refine run_plus_one c.name.run.all c.name.run.some (by rintro _ ⟨⟩; decide) ?_
  refine (run_clause (by simp) (by decide)).trans ?_
  refine (run_clause (by simp) (by decide)).trans ?_
  refine (run_clause (by simp) (by decide)).trans ?_
  refine run_star_one (by decide) (by rintro _ ⟨⟩; decide) ?_
  rw [char, run_one_cons (by decide), upTo_spot_append]

-- Where a line begins as no class does, it is no header.
theorem matchAt?_header_none (h : ∀ d ∈ s.head?, d ∉ ['@', 'a', 'c']) :
    Model.header.matchAt? ⟨last, s⟩ = none := by
  have hmetadata : ∀ d ∈ s.head?, d ≠ '@' := by
    rintro d hd rfl
    exact h _ hd (by decide)
  by_contra hm
  obtain ⟨m, hm⟩ := Option.ne_none_iff_exists'.mp hm
  rw [matchAt?, run_header] at hm
  obtain ⟨_, hm⟩ := run_look_iff.mp hm
  rw [Pattern.star, run_many_of_none rfl (run_metadata_none hmetadata), opt,
    run_many_of_none rfl (run_abstract_none fun ha => h _ ha (by decide))] at hm
  obtain ⟨t, rfl, _⟩ := run_lit_iff.mp hm
  exact h 'c' rfl (by decide)

theorem getLast?_lines (fs : List FieldDeclaration) :
    (FieldDeclaration.lines fs).toList.getLast?.or (some '\n') = some '\n' := by
  induction fs
  case nil => rfl
  case cons f fs ih =>
    simp only [FieldDeclaration.lines, String.toList_append, List.getLast?_append, Option.or_assoc]
    cases h : (FieldDeclaration.lines fs).toList.getLast?
    case none => rfl
    case some d => simpa [h] using ih

theorem quiet_lines (fs : List FieldDeclaration) :
    Quiet Model.header (some '\n') (FieldDeclaration.lines fs).toList t := by
  induction fs generalizing t
  case nil => exact .nil
  case cons f fs ih =>
    have hline : (FieldDeclaration.lines (f :: fs)).toList =
        (f.text.toList ++ ['\n']) ++ (FieldDeclaration.lines fs).toList := by
      simp [FieldDeclaration.lines]
    rw [hline]
    refine .append (onLines_header.quiet ?_ ?_) ?_
    · exact fun h => absurd (FieldDeclaration.sort_of_mem_text h) (by decide)
    · refine matchAt?_header_none ?_
      simp [FieldDeclaration.text]
    · simpa using ih

theorem body_text : Outline.body (c.text.toList ++ t) = c.text.toList := by
  have hopen : '\x7b' ∉ c.head := fun h => absurd (word_or_space_of_mem_head h) (by decide)
  have hblock : Outline.Balanced ('\n' :: (FieldDeclaration.lines c.fields).toList) := by
    refine .of_braceless ?_ ?_
    all_goals
      rw [List.mem_cons, not_or]
      exact ⟨by decide, fun h => absurd (FieldDeclaration.sort_of_mem_lines h) (by decide)⟩
  have h := Outline.body_append hopen
    (s := '\x7b' :: ('\n' :: (FieldDeclaration.lines c.fields).toList ++ '\x7d' :: t))
  rw [Outline.body_block hblock] at h
  have htext := c.text_append (t := [])
  rw [List.append_nil] at htext
  rw [text_append, htext]
  simpa using h

theorem worded_head : Text.Worded (· ≠ "abstract".toList) (c.head ++ ['\x7b']) := by
  have hend : Text.Worded (· ≠ "abstract".toList) [' ', '\x7b'] :=
    .apart (by decide) (.apart (by decide) .nil)
  have hname := Text.Worded.word c.name.run
    (FieldDeclaration.word_ne_of_reserved (w := "abstract") (by decide))
    (by rintro _ ⟨⟩; decide) hend
  have hclass := Text.Worded.word (w := "class".toList) ⟨by simp, by decide +kernel⟩ (by decide)
    (by rintro _ ⟨⟩; decide) (.apart (c := ' ') (by decide) hname)
  simpa [head] using hclass

theorem ofDeclared_fields (fs : List FieldDeclaration) :
    Relationship.ofDeclared (fs.map FieldDeclaration.field) =
      fs.filterMap FieldDeclaration.relationship? := by
  rw [Relationship.ofDeclared, List.filterMap_map]
  exact List.filterMap_congr fun f _ => FieldDeclaration.ofType?_field

-- What is made of a match that has the parts of the header of a class.
theorem ofMatch?_head {file : String} {withAbstract : Bool} {m : Match}
    (hstart : m.start.rest = c.text.toList ++ t) (htext : m.text = String.ofList (c.head ++ ['\x7b']))
    (hgroups : m.groups = [(1, c.name.text.toList)]) :
    Model.ofMatch? file withAbstract m = some (c.model file) := by
  have habstract : Model.abstractWord.occurs m.text = false := by
    rw [htext]
    exact Text.not_occurs_of_worded ⟨by simp, by decide +kernel⟩ (by simpa using worded_head)
  have hannotations : Field.annotationNames m.text = [] := by
    rw [htext]
    refine FieldDeclaration.annotationNames_nil fun h => ?_
    rw [String.toList_ofList] at h
    rcases List.mem_append.mp h with h | h
    · exact absurd (word_or_space_of_mem_head h) (by decide)
    · exact absurd h (by decide)
  have hname : m.group 1 = c.name.text := by simp [Match.group, Match.group?, hgroups]
  have hbase : m.group? 2 = none := by simp [Match.group?, hgroups]
  have hbody : String.ofList (Outline.body m.start.rest) = c.text := by
    rw [hstart, body_text, String.ofList_toList]
  rw [Model.ofMatch?, habstract, hannotations, hname, hbase, hbody]
  simp [Model.isWidgetBase, model, fields_ofBody, ofDeclared_fields]

theorem exists_match (file : String) (withAbstract : Bool) (hlast : last.all (· == '\n'))
    (htext : c.text.toList ++ s = c.head ++ '\x7b' :: t) :
    ∃ m, Model.header.matchAt? ⟨last, c.head ++ '\x7b' :: t⟩ = some m ∧
      m.stop = ⟨some '\x7b', t⟩ ∧ Model.ofMatch? file withAbstract m = some (c.model file) := by
  refine ⟨_, matchAt?_header hlast, rfl, ofMatch?_head htext.symm ?_ rfl⟩
  rw [Match.text, List.append_cons, upTo_spot_append]

-- A class in front of the rest of a source, with or without a line end between them.
theorem exists_finds_cons {file : String} {withAbstract : Bool} {e : List Char} {ms : List Match}
    (hlast : last.all (· == '\n')) (he : e = [] ∨ e = ['\n'])
    (hms : Finds Model.header ⟨('\x7d' :: e).getLast?, t⟩ ms) :
    ∃ m, Finds Model.header ⟨last, c.text.toList ++ (e ++ t)⟩ (m :: ms) ∧
      Model.ofMatch? file withAbstract m = some (c.model file) := by
  have hbrace : Model.header.matchAt? ⟨some '\n', '\x7d' :: (e ++ t)⟩ = none :=
    matchAt?_header_none (by rintro _ ⟨⟩; decide)
  have hend : Quiet Model.header (some '\n') ('\x7d' :: e) t := by
    rcases he with rfl | rfl
    · exact onLines_header.quiet (l := []) (by simp) (by simpa using hbrace)
    · exact onLines_header.quiet (l := ['\x7d']) (by simp) (by simpa using hbrace)
  have hrest : Quiet Model.header (some '\x7b')
      (['\n'] ++ ((FieldDeclaration.lines c.fields).toList ++ '\x7d' :: e)) t := by
    refine .append (onLines_header.quiet (l := []) (by simp) ?_) (.append (quiet_lines _) ?_)
    · exact onLines_header (by simp [Spot.atLineStart])
    · exact (getLast?_lines c.fields).symm ▸ hend
  have htext : c.text.toList ++ (e ++ t) = c.head ++ '\x7b' ::
      ((['\n'] ++ ((FieldDeclaration.lines c.fields).toList ++ '\x7d' :: e)) ++ t) := by
    rw [text_append]
    simp
  obtain ⟨m, hm, hstop, hmodel⟩ := exists_match file withAbstract hlast htext
  refine ⟨m, ?_, hmodel⟩
  rw [htext]
  have hshort : ((['\n'] ++ ((FieldDeclaration.lines c.fields).toList ++ '\x7d' :: e)) ++ t).length <
      (c.head ++ '\x7b' :: ((['\n'] ++ ((FieldDeclaration.lines c.fields).toList ++ '\x7d' :: e))
        ++ t)).length := by
    simp only [List.length_append, List.length_cons]
    omega
  refine .here hm (by rwa [hstop]) ?_
  rw [hstop]
  refine .skip hrest ?_
  have hlast : ((['\n'] ++ ((FieldDeclaration.lines c.fields).toList ++ '\x7d' :: e)).getLast?.or
      (some '\x7b')) = ('\x7d' :: e).getLast? := by
    simp [List.getLast?_append, List.getLast?_cons]
  rwa [hlast]

theorem exists_finds (file : String) (withAbstract ended : Bool) (cs : List ClassDeclaration)
    (hlast : last.all (· == '\n')) :
    ∃ ms, Finds Model.header ⟨last, (source ended cs).toList⟩ ms ∧
      ms.filterMap (Model.ofMatch? file withAbstract) = cs.map (model file) := by
  have hnone {last : Option Char} : Finds Model.header ⟨last, []⟩ [] :=
    .done (matchAt?_header_none (by simp))
  induction cs generalizing last
  case nil => exact ⟨[], hnone, rfl⟩
  case cons c cs ih =>
    cases cs
    case nil =>
      have he : (if ended then ['\n'] else []) = [] ∨ (if ended then ['\n'] else []) = ['\n'] := by
        cases ended <;> simp
      obtain ⟨m, hm, hmodel⟩ := exists_finds_cons (c := c) hlast he hnone
      refine ⟨[m], ?_, by rw [List.filterMap_cons_some hmodel]; rfl⟩
      cases ended <;> simpa [source] using hm
    case cons d ds =>
      obtain ⟨ms, hms, heq⟩ := @ih (some '\n') rfl
      obtain ⟨m, hm, hmodel⟩ := exists_finds_cons (c := c) hlast (.inr rfl) hms
      refine ⟨m :: ms, by simpa [source] using hm, ?_⟩
      rw [List.filterMap_cons_some hmodel, heq, List.map_cons, List.map_cons, List.map_cons]

theorem ofSource_source (file : String) (withAbstract ended : Bool) (cs : List ClassDeclaration) :
    Model.ofSource file (source ended cs) withAbstract = cs.map (model file) := by
  obtain ⟨ms, hms, heq⟩ := @exists_finds none file withAbstract ended cs rfl
  rw [Model.ofSource, hms.all_eq, heq]

def order : ClassDeclaration where
  name := ⟨"Order", ⟨by simp, by decide +kernel⟩, by decide +kernel⟩
  fields :=
    [⟨.mk ⟨"List", ⟨by simp, by decide +kernel⟩, by decide +kernel⟩
        [.mk ⟨"Item", ⟨by simp, by decide +kernel⟩, by decide +kernel⟩ [] true] true,
      ⟨"items", ⟨by simp, by decide +kernel⟩, by decide +kernel⟩⟩,
    ⟨.mk ⟨"Customer", ⟨by simp, by decide +kernel⟩, by decide +kernel⟩ [] false,
      ⟨"buyer", ⟨by simp, by decide +kernel⟩, by decide +kernel⟩⟩]

theorem ofSource_source_order :
    (Model.ofSource "order.dart"
      "class Order \x7b\n  final List<Item?>? items;\n  final Customer buyer;\n\x7d").map
        (fun m => m.relationships.map fun r => (r.type, r.target, r.field)) =
      [[(.text "hasMany", .text "Item", .text "items"),
        (.text "hasOne", .text "Customer", .text "buyer")]] := by
  have h := ofSource_source "order.dart" false false [order]
  have hsource : source false [order] =
      "class Order \x7b\n  final List<Item?>? items;\n  final Customer buyer;\n\x7d" := by
    decide +kernel
  rw [← hsource, h]
  rfl

end ClassDeclaration

end Refit
