import Refit.Proofs.Text.Words
import Refit.Project.Model

/-!
Types as declarations write them: a name, arguments in angle brackets, and a question mark if the
type is nullable.
-/

namespace Refit

open Pattern

-- Words that declare something, or that begin a statement where a type would stand.
def reservedWords : List String :=
  ["abstract", "final", "const", "late", "static"] ++ Field.statementWords

-- A name of letters, digits and underscores that is no reserved word.
structure Identifier where
  text : String
  run : Run Letter.isWord text.toList
  free : text ∉ reservedWords

inductive TypeName where
  | mk (name : Identifier) (args : List TypeName) (nullable : Bool)

namespace TypeName

def nullable : TypeName → Bool
  | mk _ _ n => n

mutual

-- The text of a type, with or without its question marks.
def chars (marks : Bool) : TypeName → List Char
  | mk name args nullable =>
    name.text.toList ++ (argChars marks args ++ if marks && nullable then ['?'] else [])

def argChars (marks : Bool) : List TypeName → List Char
  | [] => []
  | t :: ts => '<' :: (t.chars marks ++ moreChars marks ts)

def moreChars (marks : Bool) : List TypeName → List Char
  | [] => ['>']
  | t :: ts => ',' :: ' ' :: (t.chars marks ++ moreChars marks ts)

end

mutual

-- The names that a type has lists of, from left to right.
def listed : TypeName → List String
  | mk name args _ => elements name args ++ listedIn args

def listedIn : List TypeName → List String
  | [] => []
  | t :: ts => t.listed ++ listedIn ts

-- The name that a list type is applied to.
def elements (name : Identifier) : List TypeName → List String
  | [mk x [] _] => if name.text.finishesWith "List" then [x.text] else []
  | _ => []

end

variable {t : TypeName} {ts : List TypeName} {marks : Bool} {e s : List Char}

/-! The signs of a type -/

theorem sign_class : ∀ c ∈ "<>,?".toList,
    Field.typeChar c ∧ ¬Letter.isWord c ∧ ¬Letter.isBlank c ∧ c ∉ ['g', 'e', 't'] := by
  decide

-- A text goes on with a sign of a type.
def Signed (s : List Char) : Prop :=
  ∃ c r, s = c :: r ∧ c ∈ "<>,?".toList

-- A text that the signs and names of a type stand in front of, names with a sign behind them. A
-- blank has a name behind it.
inductive Spelled (e : List Char) : List Char → Prop where
  | done : Spelled e e
  | sign {c : Char} {s : List Char} (hc : c ∈ "<>,?".toList) (hs : Spelled e s) : Spelled e (c :: s)
  | name {n : Identifier} {s : List Char} (hend : s = e ∨ Signed s) (hs : Spelled e s) :
      Spelled e (n.text.toList ++ s)
  | blank {n : Identifier} {s : List Char} (hend : Signed s) (hs : Spelled e (n.text.toList ++ s)) :
      Spelled e (' ' :: (n.text.toList ++ s))

theorem signed_moreChars : Signed (moreChars marks ts ++ s) := by
  cases ts
  case nil => exact ⟨_, _, rfl, by decide⟩
  case cons => exact ⟨_, _, rfl, by decide⟩

-- What stands behind the name of a type, up to the text behind the type.
def rest (marks : Bool) (args : List TypeName) (nullable : Bool) (s : List Char) : List Char :=
  argChars marks args ++ ((if marks && nullable then ['?'] else []) ++ s)

theorem chars_append {name : Identifier} {nullable : Bool} :
    (mk name ts nullable).chars marks ++ s = name.text.toList ++ rest marks ts nullable s := by
  simp [chars, rest]

theorem rest_eq_or_signed {nullable : Bool} :
    rest marks ts nullable s = s ∨ Signed (rest marks ts nullable s) := by
  cases ts
  case cons => exact .inr ⟨_, _, rfl, by decide⟩
  case nil =>
    by_cases h : marks && nullable
    · exact .inr ⟨'?', s, by simp [rest, argChars, h], by decide⟩
    · exact .inl (by simp [rest, argChars, h])

mutual

theorem spelled_chars (marks : Bool) : (t : TypeName) → ∀ s, (s = e ∨ Signed s) → Spelled e s →
    Spelled e (t.chars marks ++ s)
  | mk name args nullable => by
    intro s hend hs
    rw [chars_append]
    refine .name (rest_eq_or_signed.elim (fun h => h ▸ hend) .inr) (spelled_argChars marks args _ ?_)
    by_cases h : marks && nullable
    · simpa [h] using Spelled.sign (by decide) hs
    · simpa [h] using hs

theorem spelled_argChars (marks : Bool) : (ts : List TypeName) → ∀ s, Spelled e s →
    Spelled e (argChars marks ts ++ s)
  | [] => fun _ hs => hs
  | t :: ts => by
    intro s hs
    have hmore := spelled_chars marks t _ (.inr signed_moreChars) (spelled_moreChars marks ts s hs)
    simpa [argChars] using Spelled.sign (by decide) hmore

theorem spelled_moreChars (marks : Bool) : (ts : List TypeName) → ∀ s, Spelled e s →
    Spelled e (moreChars marks ts ++ s)
  | [] => fun _ hs => .sign (by decide) hs
  | mk name args nullable :: ts => by
    intro s hs
    have hmore := spelled_chars marks (mk name args nullable) _ (.inr signed_moreChars)
      (spelled_moreChars marks ts s hs)
    rw [chars_append] at hmore
    have hsigned : Signed (rest marks args nullable (moreChars marks ts ++ s)) :=
      rest_eq_or_signed.elim (fun h => h ▸ signed_moreChars) id
    have hcomma := Spelled.sign (c := ',') (by decide) (Spelled.blank hsigned hmore)
    simpa [moreChars, chars, rest] using hcomma

end

/-! Properties of all spelled texts -/

theorem Signed.apart (h : Signed s) : Text.Apart s := by
  obtain ⟨c, r, rfl, hc⟩ := h
  rintro _ ⟨⟩
  exact (sign_class c hc).2.1

namespace Spelled

-- The characters of a type may stand in the declaration of a field.
theorem chars_mem (h : Spelled [] s) : ∀ c ∈ s, Field.typeChar c ∨ c = ' ' := by
  induction h
  case done => exact List.forall_mem_nil _
  case sign c s hc _ ih => exact List.forall_mem_cons.mpr ⟨.inl (sign_class c hc).1, ih⟩
  case name n s _ _ ih =>
    refine List.forall_mem_append.mpr ⟨fun c hc => ?_, ih⟩
    simp [Field.typeChar, n.run.all c hc]
  case blank n s _ _ ih => exact List.forall_mem_cons.mpr ⟨.inr rfl, ih⟩

-- No word of a type is reserved, if no word behind the type is.
theorem worded (he : Text.Apart e) {ok : List Char → Prop} (hok : ∀ n : Identifier, ok n.text.toList)
    (hend : Text.Worded ok e) (h : Spelled e s) : Text.Worded ok s := by
  induction h
  case done => exact hend
  case sign c s hc _ ih => exact .apart (sign_class c hc).2.1 ih
  case name n s hsep _ ih =>
    exact .word n.run (hok n) (hsep.elim (fun h => h ▸ he) Signed.apart) ih
  case blank => exact .apart (by decide) ‹_›

-- A blank in a type has a name behind it, with a sign behind the name.
theorem exists_of_blank (h : Spelled [] s) {u v : List Char} (hs : s = u ++ ' ' :: v) :
    ∃ n : Identifier, ∃ r, v = n.text.toList ++ r ∧ Signed r := by
  induction h generalizing u
  case done => simp at hs
  case sign c s hc _ ih =>
    cases u
    case nil =>
      obtain ⟨rfl, _⟩ := List.cons.inj hs
      exact absurd hc (by decide)
    case cons d u => exact ih (List.cons.inj hs).2
  case name n s _ _ ih =>
    rcases List.append_eq_append_iff.mp hs with ⟨a, _, hrest⟩ | ⟨a, hn, hrest⟩
    case inl => exact ih hrest
    case inr =>
      cases a
      case nil => exact ih (u := []) hrest.symm
      case cons d a =>
        obtain ⟨rfl, _⟩ := List.cons.inj hrest
        exact absurd (n.run.all ' ' (by simp [hn])) (by decide)
  case blank n s hend _ ih =>
    cases u
    case nil => exact ⟨n, s, (List.cons.inj hs).2.symm, hend⟩
    case cons d u => exact ih (List.cons.inj hs).2

end Spelled

/-! Question marks -/

def unmarked (s : List Char) : List Char :=
  s.filter (· != '?')

theorem unmarked_append {u : List Char} : unmarked (s ++ u) = unmarked s ++ unmarked u :=
  List.filter_append s u

theorem unmarked_cons {c : Char} (h : c ≠ '?') : unmarked (c :: s) = c :: unmarked s :=
  List.filter_cons_of_pos (by simpa using h)

theorem unmarked_name {n : Identifier} : unmarked n.text.toList = n.text.toList := by
  refine List.filter_eq_self.mpr fun c hc => bne_iff_ne.mpr ?_
  rintro rfl
  exact absurd (n.run.all _ hc) (by decide)

mutual

theorem unmarked_chars : (t : TypeName) → unmarked (t.chars true) = t.chars false
  | mk name args nullable => by
    rw [chars, chars, unmarked_append, unmarked_append, unmarked_name, unmarked_argChars args]
    cases nullable <;> rfl

theorem unmarked_argChars : (ts : List TypeName) → unmarked (argChars true ts) = argChars false ts
  | [] => rfl
  | t :: ts => by
    rw [argChars, argChars, unmarked_cons (by decide), unmarked_append, unmarked_chars t,
      unmarked_moreChars ts]

theorem unmarked_moreChars : (ts : List TypeName) →
    unmarked (moreChars true ts) = moreChars false ts
  | [] => rfl
  | t :: ts => by
    rw [moreChars, moreChars, unmarked_cons (by decide), unmarked_cons (by decide),
      unmarked_append, unmarked_chars t, unmarked_moreChars ts]

end

theorem replaceSeq_mark : Text.replaceSeq ['?'] [] s = unmarked s := by
  induction s
  case nil => rfl
  case cons c s ih =>
    by_cases hc : c = '?'
    case pos =>
      subst hc
      have hmark : Text.replaceSeq ['?'] [] (['?'] ++ s) = [] ++ Text.replaceSeq ['?'] [] s :=
        Text.replaceSeq_append_self (by simp)
      exact hmark.trans ih
    case neg =>
      rw [Text.replaceSeq_cons (by simpa using Ne.symm hc), ih, unmarked_cons hc]

/-! The beginning and the end of a type -/

theorem exists_name (marks : Bool) (t : TypeName) :
    ∃ n : Identifier, ∃ r, t.chars marks = n.text.toList ++ r ∧ (r = [] ∨ Signed r) := by
  obtain ⟨name, args, nullable⟩ := t
  have h : (mk name args nullable).chars marks ++ [] = _ := chars_append
  rw [List.append_nil] at h
  exact ⟨name, _, h, rest_eq_or_signed⟩

theorem spelled (marks : Bool) (t : TypeName) : Spelled [] (t.chars marks) := by
  have h := spelled_chars marks t [] (.inl rfl) .done
  rwa [List.append_nil] at h

theorem getLast?_moreChars : (moreChars marks ts).getLast? = some '>' := by
  induction ts
  case nil => rfl
  case cons t ts ih =>
    rw [moreChars, List.getLast?_cons, List.getLast?_cons, List.getLast?_append, ih]
    rfl

theorem getLast?_chars {name : Identifier} {nullable : Bool} :
    ((mk name ts nullable).chars marks).getLast? =
      if marks && nullable then some '?' else if ts.isEmpty then name.text.toList.getLast? else some '>' := by
  by_cases h : marks && nullable
  case pos => simp [chars, h]
  case neg =>
    cases ts
    case nil => simp [chars, argChars, h]
    case cons t ts =>
      simp [chars, argChars, h, List.getLast?_append, List.getLast?_cons, getLast?_moreChars]

theorem exists_last (marks : Bool) (t : TypeName) :
    ∃ c, (t.chars marks).getLast? = some c ∧ (c ∈ "<>,?".toList ∨ Letter.isWord c) := by
  obtain ⟨name, args, nullable⟩ := t
  rw [getLast?_chars]
  split
  case isTrue => exact ⟨'?', rfl, .inl (by decide)⟩
  case isFalse =>
    split
    case isTrue =>
      exact ⟨_, List.getLast?_eq_getLast_of_ne_nil name.run.some,
        .inr (name.run.all _ (List.getLast_mem _))⟩
    case isFalse => exact ⟨'>', rfl, .inl (by decide)⟩

theorem stripped_chars (t : TypeName) : Text.trim Letter.isBlank (t.chars marks) = t.chars marks := by
  refine Text.trim_eq_self_iff.mpr ⟨fun c hc => ?_, fun c hc => ?_⟩
  case refine_1 =>
    obtain ⟨n, r, hr, _⟩ := t.exists_name marks
    obtain ⟨d, w, hd⟩ := List.exists_cons_of_ne_nil n.run.some
    rw [hr, hd] at hc
    obtain rfl := Option.some.inj hc
    exact Letter.not_isBlank_of_isWord (n.run.all d (hd ▸ .head _))
  case refine_2 =>
    obtain ⟨d, hd, hsort⟩ := t.exists_last marks
    obtain rfl := Option.some.inj (hd.symm.trans hc)
    exact hsort.elim (fun h => (sign_class d h).2.2.1) Letter.not_isBlank_of_isWord

theorem finishesWith_mark (t : TypeName) :
    (String.ofList (t.chars true)).finishesWith "?" = t.nullable := by
  have hsuffix {s : List Char} : ['?'] <:+ s ↔ s.getLast? = some '?' := by
    rw [List.getLast?_eq_some_iff]
    exact ⟨fun ⟨u, hu⟩ => ⟨u, hu.symm⟩, fun ⟨u, hu⟩ => ⟨u, hu.symm⟩⟩
  obtain ⟨name, args, nullable⟩ := t
  rw [Bool.eq_iff_iff, String.finishesWith, List.isSuffixOf_iff_suffix]
  refine hsuffix.trans ?_
  rw [String.toList_ofList, getLast?_chars]
  cases nullable
  case true => simp [TypeName.nullable]
  case false =>
    have hname : name.text.toList.getLast? ≠ some '?' := fun h =>
      absurd (name.run.all _ (List.mem_of_getLast? h)) (by decide)
    cases args <;> simp [TypeName.nullable, hname]

-- A blank in a type is never in front of a last word.
theorem not_finishesWith_get (t : TypeName) :
    (String.ofList (t.chars true)).finishesWith " get" = false := by
  rw [Bool.eq_false_iff, String.finishesWith, Ne, List.isSuffixOf_iff_suffix]
  rintro ⟨u, hu⟩
  simp only [String.toList_ofList] at hu
  obtain ⟨n, r, hr, c, r', rfl, hc⟩ := (t.spelled true).exists_of_blank (v := ['g', 'e', 't']) hu.symm
  have hmem : c ∈ ['g', 'e', 't'] := hr ▸ by simp
  exact (sign_class c hc).2.2.2 hmem

-- The first word of a type is a name, which is not reserved, or it has a sign in it.
theorem first_word_free (t : TypeName) :
    Field.statementWords.contains
      (((Text.words (t.chars true)).head?.map String.ofList).getD "") = false := by
  have hword : ∀ w ∈ Field.statementWords, ∀ c ∈ w.toList, Letter.isWord c := by decide +kernel
  obtain ⟨n, r, hr, hrest⟩ := t.exists_name true
  have hname : ∀ c ∈ n.text.toList, ¬Letter.isBlank c := fun c hc =>
    Letter.not_isBlank_of_isWord (n.run.all c hc)
  rw [hr]
  rcases hrest with rfl | ⟨c, r, rfl, hc⟩
  case inl =>
    obtain ⟨v, hhead, hv⟩ := Text.exists_head?_words (s := []) hname n.run.some
    obtain rfl := List.prefix_nil.mp hv
    have hfree : n.text ∉ Field.statementWords := fun h => n.free (List.mem_append_right _ h)
    rw [hhead]
    simpa using hfree
  case inr =>
    have hsign : ∀ d ∈ n.text.toList ++ [c], ¬Letter.isBlank d :=
      List.forall_mem_append.mpr ⟨hname, by simpa using (sign_class c hc).2.2.1⟩
    obtain ⟨v, hhead, _⟩ := Text.exists_head?_words (s := r) hsign (by simp)
    rw [List.append_cons, hhead, Bool.eq_false_iff]
    intro h
    have hmem : String.ofList (n.text.toList ++ [c] ++ v) ∈ Field.statementWords := by simpa using h
    exact (sign_class c hc).2.1 (hword _ hmem c (by simp))

/-! Lists in a type -/

open Relationship (listOf isModelType)

variable {v x : List Char} {last : Option Char}

theorem matchAt?_listOf (hx : Run Letter.isWord x) :
    listOf.matchAt? ⟨last, "List<".toList ++ (x ++ '>' :: s)⟩ =
      some ⟨⟨last, "List<".toList ++ (x ++ '>' :: s)⟩, ⟨some '>', s⟩, [(1, x)]⟩ := by
  have hend : ∀ c ∈ ('>' :: s).head?, ¬Letter.isWord c := by
    rintro _ ⟨⟩
    decide
  simp only [matchAt?, listOf, run_append, run_group]
  rw [run_lit]
  refine run_plus_one hx.all hx.some hend ?_
  rw [char, run_one_cons (by decide), upTo_spot_append]

-- A list that begins inside a name begins with the last four letters of it.
theorem eq_of_listOf_isSome (hv : ∀ c ∈ v, Letter.isWord c) (hs : Text.Apart s)
    (h : (listOf.matchAt? ⟨last, v ++ s⟩).isSome) :
    v = "List".toList ∧ ∃ x r, s = '<' :: (x ++ '>' :: r) ∧ Run Letter.isWord x := by
  obtain ⟨m, h⟩ := Option.isSome_iff_exists.mp h
  simp only [matchAt?, listOf, run_append, run_group] at h
  obtain ⟨t, ht, h⟩ := run_lit_iff.mp h
  obtain ⟨x, _, rfl, hx, h⟩ := exists_of_plus h
  obtain ⟨c, r, rfl, hc, _⟩ := run_one_iff.mp h
  obtain rfl := eq_of_beq hc
  have hlist : v ++ s = "List".toList ++ '<' :: (x ++ '>' :: r) := ht
  have heq : v = "List".toList := by
    refine Text.word_unique hv hs (by decide +kernel) ?_ hlist
    rintro _ ⟨⟩
    decide
  refine ⟨heq, x, r, ?_, hx⟩
  rwa [heq, List.append_cancel_left_eq] at hlist

theorem quiet_sign {c : Char} (hc : c ≠ 'L') : Quiet listOf last [c] s := by
  refine Quiet.cons_iff.mpr ⟨?_, .nil⟩
  exact run_lit_of_not_prefix fun h => hc (List.cons_prefix_cons.mp h).1.symm

-- What stands behind a type inside another one, or behind a whole type.
def Closing (s : List Char) : Prop :=
  ∀ c ∈ s.head?, c = ',' ∨ c = '>'

theorem closing_moreChars : Closing (moreChars marks ts ++ s) := by
  cases ts
  case nil =>
    rintro _ ⟨⟩
    exact .inr rfl
  case cons =>
    rintro _ ⟨⟩
    exact .inl rfl

theorem apart_argChars (hs : Closing s) : Text.Apart (argChars marks ts ++ s) := by
  cases ts
  case nil =>
    intro c hc
    rcases hs c hc with rfl | rfl <;> decide
  case cons =>
    rintro _ ⟨⟩
    decide

-- An argument list with one name in it, read back.
theorem eq_of_argChars {r : List Char} (hs : Closing s) (hx : Run Letter.isWord x)
    (h : argChars false ts ++ s = '<' :: (x ++ '>' :: r)) : ∃ n b, ts = [mk n [] b] := by
  cases ts
  case nil =>
    have := hs '<' (by rw [show s = _ from h]; rfl)
    simp at this
  case cons t ts =>
    obtain ⟨name, args, nullable⟩ := t
    have hin : name.text.toList ++ (argChars false args ++ (moreChars false ts ++ s)) =
        x ++ '>' :: r := by
      simpa [argChars, chars] using h
    have hend : Text.Apart ('>' :: r) := by
      rintro _ ⟨⟩
      decide
    have hname : name.text.toList = x :=
      Text.word_unique name.run.all (apart_argChars closing_moreChars) hx.all hend hin
    rw [hname, List.append_cancel_left_eq] at hin
    cases args
    case cons => exact absurd (List.cons.inj hin).1 (by decide)
    case nil =>
      cases ts
      case nil => exact ⟨name, nullable, rfl⟩
      case cons => exact absurd (List.cons.inj hin).1 (by decide)

theorem suffix_of_finishesWith {n : Identifier} (h : n.text.finishesWith "List") :
    ∃ u, n.text.toList = u ++ "List".toList :=
  (List.isSuffixOf_iff_suffix.mp h).imp fun _ => Eq.symm

-- No list begins inside a name that is not applied to one name as a list is.
theorem quiet_name {name : Identifier} (h : elements name ts = []) (hs : Closing s) :
    Quiet listOf last name.text.toList (argChars false ts ++ s) := by
  intro u v huv hv
  by_contra hm
  have hword : ∀ c ∈ v, Letter.isWord c := fun c hc => name.run.all c (by simp [huv, hc])
  obtain ⟨rfl, x, r, hr, hx⟩ :=
    eq_of_listOf_isSome hword (apart_argChars hs) (Option.isSome_iff_ne_none.mpr hm)
  obtain ⟨n, b, rfl⟩ := eq_of_argChars hs hx hr
  have hlist : name.text.finishesWith "List" := List.isSuffixOf_iff_suffix.mpr ⟨u, huv.symm⟩
  simp [elements, hlist] at h

def firstListed (last : Option Char) (s : List Char) : Option String :=
  (listOf.searchFrom? last s).map (·.group 1)

theorem firstListed_of_quiet {u : List Char} (h : Quiet listOf last u s) :
    firstListed last (u ++ s) = firstListed (u.getLast?.or last) s :=
  congrArg (Option.map _) h.searchFrom?

-- A list whose name is applied to a name is found.
theorem firstListed_of_elements {name : Identifier} {y : String} {ys : List String}
    (h : elements name ts = y :: ys) :
    firstListed last (name.text.toList ++ (argChars false ts ++ s)) = some y := by
  rw [elements.eq_def] at h
  split at h
  case h_2 => cases h
  case h_1 n b =>
    split at h
    case isFalse => cases h
    case isTrue hlist =>
      obtain ⟨rfl, _⟩ := List.cons.inj h
      obtain ⟨u, hu⟩ := suffix_of_finishesWith hlist
      have htext : name.text.toList ++ (argChars false [mk n [] b] ++ s) =
          u ++ ("List<".toList ++ (n.text.toList ++ '>' :: s)) := by
        simp [hu, argChars, moreChars, chars]
      have hquiet : Quiet listOf last u ("List<".toList ++ (n.text.toList ++ '>' :: s)) := by
        intro a v huv hv
        by_contra hm
        have hword : ∀ c ∈ v ++ "List".toList, Letter.isWord c := fun c hc =>
          name.run.all c (by rw [hu, huv, List.append_assoc]; exact List.mem_append_right _ hc)
        have hapart : Text.Apart ('<' :: (n.text.toList ++ '>' :: s)) := by
          rintro _ ⟨⟩
          decide
        have hsome : (listOf.matchAt? ⟨a.getLast?.or last,
            (v ++ "List".toList) ++ '<' :: (n.text.toList ++ '>' :: s)⟩).isSome :=
          Option.isSome_iff_ne_none.mpr (by simpa using hm)
        exact hv (List.append_left_eq_self.mp (eq_of_listOf_isSome hword hapart hsome).1)
      rw [htext, firstListed_of_quiet hquiet, firstListed,
        searchFrom?_of_matchAt? (matchAt?_listOf n.run)]
      simp [Match.group, Match.group?]

mutual

theorem firstListed_chars : (t : TypeName) → ∀ s last, Closing s →
    ∃ l, firstListed last (t.chars false ++ s) = t.listed.head?.or (firstListed l s)
  | mk name args nullable => by
    intro s last hs
    have htext : (mk name args nullable).chars false ++ s =
        name.text.toList ++ (argChars false args ++ s) := by
      simp [chars]
    rw [htext, listed]
    cases h : elements name args
    case cons y ys => exact ⟨none, by simp [firstListed_of_elements h]⟩
    case nil =>
      rw [firstListed_of_quiet (quiet_name h hs)]
      exact firstListed_argChars args s _ hs

theorem firstListed_argChars : (ts : List TypeName) → ∀ s last, Closing s →
    ∃ l, firstListed last (argChars false ts ++ s) = (listedIn ts).head?.or (firstListed l s)
  | [] => fun _ last _ => ⟨last, rfl⟩
  | t :: ts => by
    intro s last hs
    have hsign : Quiet listOf last ['<'] (t.chars false ++ (moreChars false ts ++ s)) :=
      quiet_sign (by decide)
    obtain ⟨l, hchars⟩ := firstListed_chars t (moreChars false ts ++ s) (some '<') closing_moreChars
    obtain ⟨l', hmore⟩ := firstListed_moreChars ts s l
    refine ⟨l', ?_⟩
    rw [argChars, listedIn, List.head?_append, Option.or_assoc, ← hmore, ← hchars]
    simpa using firstListed_of_quiet hsign

theorem firstListed_moreChars : (ts : List TypeName) → ∀ s last,
    ∃ l, firstListed last (moreChars false ts ++ s) = (listedIn ts).head?.or (firstListed l s)
  | [] => fun _ _ => ⟨some '>', firstListed_of_quiet (quiet_sign (by decide))⟩
  | t :: ts => by
    intro s last
    have hsigns : Quiet listOf last [',', ' '] (t.chars false ++ (moreChars false ts ++ s)) :=
      .append (s := [',']) (quiet_sign (by decide)) (quiet_sign (by decide))
    obtain ⟨l, hchars⟩ := firstListed_chars t (moreChars false ts ++ s) (some ' ') closing_moreChars
    obtain ⟨l', hmore⟩ := firstListed_moreChars ts s l
    refine ⟨l', ?_⟩
    rw [moreChars, listedIn, List.head?_append, Option.or_assoc, ← hmore, ← hchars]
    simpa using firstListed_of_quiet hsigns

end

theorem search?_listOf (t : TypeName) :
    (listOf.search? (String.ofList (t.chars false))).map (·.group 1) = t.listed.head? := by
  obtain ⟨l, h⟩ := firstListed_chars t [] none (by simp [Closing])
  rw [List.append_nil] at h
  have hnone : firstListed l [] = none := rfl
  rw [search?, String.toList_ofList]
  exact h.trans (by rw [hnone, Option.or_none])

-- What a field of a type says about other models: it holds many of the first one that the type has
-- lists of, or one of the type itself.
def relation? : TypeName → Option (String × String)
  | mk name args nullable =>
    match (mk name args nullable).listed.head?.filter isModelType with
    | some x => some ("hasMany", x)
    | none => if args.isEmpty && isModelType name.text then some ("hasOne", name.text) else none

theorem chars_nil {name : Identifier} {nullable : Bool} :
    (mk name [] nullable).chars false = name.text.toList := by
  simp [chars, argChars]

theorem holds_bracket {name : Identifier} {nullable : Bool} :
    (String.ofList ((mk name ts nullable).chars false)).holds "<" = !ts.isEmpty := by
  simp only [String.holds, String.toList_ofList, Text.contains]
  cases ts
  case nil =>
    have hnone : ¬"<".toList <:+: name.text.toList := fun h =>
      absurd (name.run.all '<' (h.subset (by decide))) (by decide)
    rw [chars_nil, Text.find?_eq_none_iff.mpr hnone]
    rfl
  case cons t ts =>
    have hsome : "<".toList <:+: (mk name (t :: ts) nullable).chars false :=
      ⟨name.text.toList, t.chars false ++ moreChars false ts, by simp [chars, argChars]⟩
    exact Option.isSome_iff_ne_none.mpr fun h => Text.find?_eq_none_iff.mp h hsome

theorem kind?_chars (t : TypeName) :
    Relationship.kind? (String.ofList (t.chars false)) = t.relation? := by
  obtain ⟨name, args, nullable⟩ := t
  rw [Relationship.kind?, search?_listOf, relation?, holds_bracket]
  cases (mk name args nullable).listed.head?.filter isModelType
  case some => rfl
  case none => cases args <;> simp [chars_nil]

end TypeName

end Refit
