import Refit.Proofs.Text.Letter
import Refit.Proofs.Text.Searching

/-!
The words of a text: its longest runs of characters that names are made of.
-/

namespace Refit

theorem Pattern.Run.head?_of_word {s t : List Char} (h : Run Letter.isWord s) :
    ∀ c ∈ (s ++ t).head?, ¬Letter.isBlank c := by
  obtain ⟨c, s, rfl⟩ := List.exists_cons_of_ne_nil h.some
  rintro _ ⟨⟩
  exact Letter.not_isBlank_of_isWord (h.all c (.head _))

theorem Pattern.Run.head?_of_blank {s t : List Char} (h : Run Letter.isBlank s) :
    ∀ c ∈ (s ++ t).head?, ¬Letter.isWord c := by
  obtain ⟨c, s, rfl⟩ := List.exists_cons_of_ne_nil h.some
  rintro _ ⟨⟩ hc
  exact Letter.not_isBlank_of_isWord hc (h.all c (.head _))

namespace Text

open Pattern (Run)

variable {ok : List Char → Prop} {s t u v w : List Char}

-- A text begins with no character of a name.
def Apart (s : List Char) : Prop :=
  ∀ c ∈ s.head?, ¬Letter.isWord c

theorem takeWhile_word (hw : ∀ c ∈ w, Letter.isWord c) (hs : Apart s) :
    (w ++ s).takeWhile Letter.isWord = w := by
  have hrest : s.takeWhile Letter.isWord = [] := by
    cases s
    case nil => rfl
    case cons c s => exact List.takeWhile_cons_of_neg (hs c rfl)
  rw [List.takeWhile_append_of_pos hw, hrest, List.append_nil]

-- A text has one longest word at its beginning.
theorem word_unique (hw : ∀ c ∈ w, Letter.isWord c) (hs : Apart s) (hv : ∀ c ∈ v, Letter.isWord c)
    (ht : Apart t) (h : w ++ s = v ++ t) : w = v := by
  rw [← takeWhile_word hw hs, h, takeWhile_word hv ht]

-- A text that ends in a word ends in no blanks.
theorem eq_nil_of_last_word {r : List Char} (hw : Run Letter.isWord w)
    (hr : ∀ c ∈ r, Letter.isBlank c) (h : s ++ w = t ++ r) : r = [] := by
  by_contra hne
  have hlast := congrArg List.getLast? h
  rw [List.getLast?_append_of_ne_nil _ hw.some, List.getLast?_append_of_ne_nil _ hne,
    List.getLast?_eq_getLast_of_ne_nil hw.some] at hlast
  have hmem := List.mem_of_getLast? hlast.symm
  exact Letter.not_isBlank_of_isWord (hw.all _ (List.getLast_mem _)) (hr _ hmem)

-- A text has one last word behind a blank.
theorem last_word_unique {b c : Char} (hw : Run Letter.isWord w) (hv : Run Letter.isWord v)
    (hb : Letter.isBlank b) (hc : Letter.isBlank c) {r : List Char} (hr : ∀ c ∈ r, Letter.isBlank c)
    (h : s ++ b :: w = t ++ c :: (v ++ r)) : w = v := by
  have hapart {d : Char} {u : List Char} (hd : Letter.isBlank d) : Apart (d :: u) := by
    rintro _ ⟨⟩ hword
    exact Letter.not_isBlank_of_isWord hword hd
  have hwords {w : List Char} (hw : Run Letter.isWord w) : ∀ c ∈ w.reverse, Letter.isWord c :=
    fun c hc => hw.all c (List.mem_reverse.mp hc)
  have hends : (s ++ [b]) ++ w = (t ++ c :: v) ++ r := by simpa using h
  obtain rfl := eq_nil_of_last_word hw hr hends
  have hrev : w.reverse ++ b :: s.reverse = v.reverse ++ c :: t.reverse := by
    simpa using congrArg List.reverse h
  exact List.reverse_inj.mp (word_unique (hwords hw) (hapart hb) (hwords hv) (hapart hc) hrev)

-- All words of a text are of a kind.
inductive Worded (ok : List Char → Prop) : List Char → Prop where
  | nil : Worded ok []
  | apart {c : Char} {s : List Char} (hc : ¬Letter.isWord c) (hs : Worded ok s) : Worded ok (c :: s)
  | word {w s : List Char} (hw : Run Letter.isWord w) (hok : ok w) (hend : Apart s)
      (hs : Worded ok s) : Worded ok (w ++ s)

theorem Worded.ok_of_run (h : Worded ok s) (hs : s = u ++ (w ++ v)) (hw : Run Letter.isWord w)
    (hu : ∀ c ∈ u.getLast?, ¬Letter.isWord c) (hv : Apart v) : ok w := by
  induction h generalizing u
  case nil =>
    have := hw.some
    simp_all
  case apart c s hc _ ih =>
    cases u
    case nil =>
      obtain ⟨d, w, rfl⟩ := List.exists_cons_of_ne_nil hw.some
      obtain ⟨rfl, _⟩ := List.cons.inj hs
      exact absurd (hw.all c (.head _)) hc
    case cons d u =>
      refine ih (List.cons.inj hs).2 fun x hx => hu x ?_
      rw [List.getLast?_cons, hx]
      rfl
  case word w' s hw' hok hend _ ih =>
    rcases List.append_eq_append_iff.mp hs with ⟨a, rfl, hrest⟩ | ⟨a, rfl, hrest⟩
    case inl =>
      refine ih hrest fun x hx => hu x ?_
      rw [List.getLast?_append, hx]
      rfl
    case inr =>
      -- The run cannot begin behind a character of the word, so it is the word.
      rcases List.eq_nil_or_concat u with rfl | ⟨u, c, rfl⟩
      case inl =>
        rw [word_unique hw.all hv hw'.all hend (hrest.trans (by simp))]
        exact hok
      case inr =>
        have hlast : Letter.isWord c := hw'.all c (by simp)
        exact absurd hlast (hu c (by simp))

-- A word that is no word of a text is not found as one.
theorem not_occurs_of_worded {w s : String} (hw : Run Letter.isWord w.toList)
    (h : Worded (· ≠ w.toList) s.toList) :
    (Pattern.wordEdge ++ Pattern.lit w ++ Pattern.wordEdge).occurs s = false := by
  rw [Bool.eq_false_iff]
  intro hoccurs
  obtain ⟨u, v, hs, hm⟩ := Pattern.exists_of_occurs hoccurs
  obtain ⟨m, hm⟩ := Option.isSome_iff_exists.mp hm
  simp only [Pattern.matchAt?, Pattern.run_append] at hm
  obtain ⟨hfirst, hm⟩ := Pattern.run_look_iff.mp hm
  obtain ⟨t, rfl, hm⟩ := Pattern.run_lit_iff.mp hm
  obtain ⟨hlast, _⟩ := Pattern.run_look_iff.mp hm
  have hu : ∀ c ∈ u.getLast?, ¬Letter.isWord c := by
    obtain ⟨d, w', hd⟩ := List.exists_cons_of_ne_nil hw.some
    have hword : Letter.isWord d := hw.all d (hd ▸ .head _)
    rw [hd] at hfirst
    rintro c hc
    simp_all [Spot.atWordEdge]
  exact h.ok_of_run hs hw hu (hw.atWordEdge_iff.mp hlast) rfl

/-! Words between blanks -/

theorem exists_words_go : ∃ v vs, words.go s = v :: vs ∧ v <+: s := by
  induction s
  case nil => exact ⟨[], [], rfl, List.prefix_rfl⟩
  case cons c s ih =>
    obtain ⟨v, vs, hgo, hv⟩ := ih
    by_cases hc : Letter.isBlank c
    case pos => exact ⟨[], v :: vs, by simp [words.go, hc, hgo], List.nil_prefix⟩
    case neg => exact ⟨c :: v, vs, by simp [words.go, hc, hgo, consHead], by simpa using hv⟩

theorem words_go_append {vs : List (List Char)} (hw : ∀ c ∈ w, ¬Letter.isBlank c)
    (h : words.go s = v :: vs) : words.go (w ++ s) = (w ++ v) :: vs := by
  induction w
  case nil => exact h
  case cons c w ih =>
    obtain ⟨hc, hw⟩ := List.forall_mem_cons.mp hw
    simp [words.go, hc, ih hw, consHead]

-- A text that begins with no blank has a first word, which begins with all up to the first blank.
theorem exists_head?_words (hw : ∀ c ∈ w, ¬Letter.isBlank c) (hne : w ≠ []) :
    ∃ v, (words (w ++ s)).head? = some (w ++ v) ∧ v <+: s := by
  obtain ⟨v, vs, hgo, hv⟩ := exists_words_go (s := s)
  exact ⟨v, by simp [words, words_go_append hw hgo, hne], hv⟩

end Text

end Refit
