import Mathlib.Data.List.DropRight
import Mathlib.Data.List.Infix
import Refit.Text.Basic

/-!
Where a sequence of characters stands in a text, what searching for it, splitting at it and
replacing it gives, what trimming leaves, and the lower case of a text in ASCII.
-/

namespace Refit.Text

variable {needle sep s t a b : List Char} {c : Char}

/-! Sequences that stand nowhere in a text -/

theorem not_infix_append_left (needle : List Char) (hc : c ∉ a) (h : ¬(c :: needle) <:+: s) :
    ¬(c :: needle) <:+: a ++ s := by
  induction a
  case nil => exact h
  case cons x xs hi =>
    have ⟨hx, hxs⟩ := List.ne_and_not_mem_of_not_mem_cons hc
    rw [List.cons_append, List.infix_cons_iff]
    rintro (hp | hp)
    · exact hx (List.cons_prefix_cons.mp hp).left
    · exact hi hxs hp

theorem not_infix_append_right (needle : List Char) (hc : c ∉ b) (h : ¬(needle ++ [c]) <:+: s) :
    ¬(needle ++ [c]) <:+: s ++ b := by
  rw [← List.reverse_infix] at h ⊢
  simp only [List.reverse_append, List.reverse_singleton, List.singleton_append] at h ⊢
  exact not_infix_append_left needle.reverse (by simpa using hc) h

-- What does not contain a character ends before it.
theorem prefix_append_cons_iff {needle : List Char} (hc : c ∉ needle) :
    needle <+: a ++ c :: s ↔ needle <+: a := by
  induction a generalizing needle
  case nil =>
    cases needle
    case nil => simp
    case cons x xs => simpa using fun h => absurd h.symm (List.ne_and_not_mem_of_not_mem_cons hc).1
  case cons y ys ih =>
    cases needle
    case nil => simp
    case cons x xs =>
      simp [List.cons_prefix_cons, ih (List.ne_and_not_mem_of_not_mem_cons hc).2]

theorem infix_append_cons_iff {needle : List Char} (hc : c ∉ needle) :
    needle <:+: a ++ c :: s ↔ needle <:+: a ∨ needle <:+: s := by
  induction a
  case nil =>
    have hhead : needle <+: c :: s ↔ needle <+: [] := prefix_append_cons_iff (a := []) hc
    rw [List.nil_append, List.infix_cons_iff, hhead, List.prefix_nil, List.infix_nil]
  case cons y ys ih =>
    have hhead : needle <+: y :: (ys ++ c :: s) ↔ needle <+: y :: ys :=
      prefix_append_cons_iff (a := y :: ys) hc
    rw [List.cons_append, List.infix_cons_iff, List.infix_cons_iff, hhead, ih, or_assoc]

-- The sequence begins nowhere in `s`, when `t` follows.
def Clear (needle s t : List Char) : Prop :=
  ∀ a b, s = a ++ b → b ≠ [] → ¬needle <+: b ++ t

namespace Clear

@[simp]
theorem nil : Clear needle [] t := by
  intro a b h hb
  simp_all

theorem cons_iff : Clear needle (c :: s) t ↔ ¬needle <+: c :: (s ++ t) ∧ Clear needle s t := by
  constructor
  · intro h
    exact ⟨h [] (c :: s) rfl (by simp), fun a b hs hb => h (c :: a) b (by simp [hs]) hb⟩
  · intro ⟨h₁, h₂⟩ a b hs hb
    cases a
    case nil => simp only [List.nil_append] at hs; exact hs ▸ h₁
    case cons x xs => exact h₂ xs b (List.cons.inj hs).right hb

theorem append_iff : Clear needle (s ++ a) t ↔ Clear needle s (a ++ t) ∧ Clear needle a t := by
  induction s
  case nil => simp
  case cons x xs hi => simp [cons_iff, hi, and_assoc]

theorem flatMap {ls : List (List Char)} (h : ∀ l ∈ ls, ∀ t, Clear needle (l ++ [c]) t) :
    Clear needle (ls.flatMap (· ++ [c])) t := by
  induction ls
  case nil => simp
  case cons l ls hi =>
    rw [List.flatMap_cons, append_iff]
    exact ⟨h l (by simp) _, hi fun l hl => h l (by simp [hl])⟩

-- A text that ends in a character which the sequence has at its end only.
theorem of_concat (hc : c ∉ needle.dropLast) (h : ¬needle <:+: s ++ [c]) :
    Clear needle (s ++ [c]) t := by
  intro a b hs hb hp
  by_cases hl : needle.length ≤ b.length
  case pos =>
    have hp := List.prefix_of_prefix_length_le hp (List.prefix_append _ _) hl
    exact h (hp.isInfix.trans ⟨a, [], by simp [hs]⟩)
  case neg =>
    have hp := List.prefix_of_prefix_length_le (List.prefix_append b t) hp (by omega)
    have hp := List.prefix_of_prefix_length_le hp (List.dropLast_prefix needle) (by simp; omega)
    have hm : c ∈ b := by
      have hl := congrArg List.getLast? hs
      rw [List.getLast?_append_of_ne_nil _ hb, List.getLast?_concat] at hl
      exact List.mem_of_getLast? hl.symm
    exact hc (hp.subset hm)

end Clear

theorem not_infix_iff_clear (hn : needle ≠ []) : ¬needle <:+: s ↔ Clear needle s [] := by
  induction s
  case nil => simp [hn]
  case cons x xs hi => simp [List.infix_cons_iff, Clear.cons_iff, not_or, hi]

/-! Searching -/

theorem find?_append (h : Clear needle s (needle ++ t)) (hn : needle ≠ []) :
    find? needle (s ++ (needle ++ t)) = some (needle ++ t) := by
  induction s
  case nil =>
    cases needle
    case nil => contradiction
    case cons x xs => simp [find?]
  case cons x xs hi =>
    have ⟨hx, hxs⟩ := Clear.cons_iff.mp h
    simp [find?, hx, hi hxs]

theorem find?_eq_none_iff : find? needle s = none ↔ ¬needle <:+: s := by
  induction s
  case nil => simp [find?]
  case cons x xs hi =>
    rw [find?, List.infix_cons_iff]
    split <;> simp_all

theorem contains_iff : contains needle s ↔ needle <:+: s := by
  rw [contains, Option.isSome_iff_ne_none, ne_eq, find?_eq_none_iff, not_not]

theorem contains_eq_false (h : ¬needle <:+: s) : contains needle s = false := by
  simp [contains, find?_eq_none_iff.mpr h]

theorem before_eq_self (h : ¬needle <:+: s) : before needle s = s := by
  induction s
  case nil => rfl
  case cons x xs hi =>
    rw [List.infix_cons_iff, not_or] at h
    simp [before, h.left, hi h.right]

theorem exists_of_afterLast? (h : afterLast? needle s = some t) : ∃ a, s = a ++ needle ++ t := by
  induction s generalizing t
  case nil =>
    simp [afterLast?] at h
    exact ⟨[], by simp [h]⟩
  case cons x xs hi =>
    rw [afterLast?] at h
    split at h
    case h_1 r hr =>
      have ⟨a, ha⟩ := hi (Option.some.inj h ▸ hr)
      exact ⟨x :: a, by simp [ha]⟩
    case h_2 =>
      split at h
      case isTrue hp =>
        have ⟨r, hr⟩ := List.isPrefixOf_iff_prefix.mp hp
        refine ⟨[], ?_⟩
        rw [← Option.some.inj h, ← hr]
        simp
      case isFalse => cases h

/-! Splitting -/

theorem split_nil : split c [] = [[]] :=
  rfl

theorem split_cons {x : Char} :
    split c (x :: s) = if x == c then [] :: split c s else consHead x (split c s) :=
  rfl

@[simp]
theorem consHead_nil : consHead c [] = [[c]] :=
  rfl

@[simp]
theorem consHead_cons {w : List Char} {ws : List (List Char)} :
    consHead c (w :: ws) = (c :: w) :: ws :=
  rfl

theorem split_append (h : c ∉ s) : split c (s ++ c :: t) = s :: split c t := by
  induction s
  case nil => simp [split_cons]
  case cons x xs hi =>
    have ⟨hx, hxs⟩ := List.ne_and_not_mem_of_not_mem_cons h
    simp [split_cons, Ne.symm hx, hi hxs]

-- The first character of a class ends one text.
theorem append_cons_inj_of_all {p : Char → Bool} {d : Char} (hs : ∀ x ∈ s, ¬p x)
    (ht : ∀ x ∈ t, ¬p x) (hc : p c) (hd : p d) (h : s ++ c :: a = t ++ d :: b) :
    s = t ∧ c = d ∧ a = b := by
  induction s generalizing t
  case nil =>
    cases t
    case nil => simpa using h
    case cons y t => exact absurd hc ((List.cons.inj h).1 ▸ ht y (.head _))
  case cons x s ih =>
    cases t
    case nil => exact absurd hd ((List.cons.inj h).1 ▸ hs x (.head _))
    case cons y t =>
      obtain ⟨rfl, hrest⟩ := List.cons.inj h
      have heq := ih (fun z hz => hs z (.tail _ hz)) (fun z hz => ht z (.tail _ hz)) hrest
      exact heq.imp_left (congrArg _)

-- What stands before the first place of a character is one text.
theorem append_cons_inj (hs : c ∉ s) (ht : c ∉ t) (h : s ++ c :: a = t ++ c :: b) : s = t :=
  have hnone {r : List Char} (hr : c ∉ r) : ∀ x ∈ r, ¬x == c := fun _ hx heq =>
    hr (eq_of_beq heq ▸ hx)
  (append_cons_inj_of_all (hnone hs) (hnone ht) (beq_self_eq_true c) (beq_self_eq_true c) h).1

theorem split_flatMap {ls : List (List Char)} (h : ∀ l ∈ ls, c ∉ l) :
    split c (ls.flatMap (· ++ [c]) ++ t) = ls ++ split c t := by
  induction ls
  case nil => rfl
  case cons l ls hi =>
    have hi := hi fun l hl => h l (by simp [hl])
    simp [split_append (h l (by simp)), hi]

theorem split_ne_nil : split c s ≠ [] := by
  induction s
  case nil => simp [split_nil]
  case cons x xs hi =>
    rw [split_cons]
    split
    · simp
    · cases split c xs <;> simp

theorem consHead_append {ws vs : List (List Char)} (h : ws ≠ []) :
    consHead c (ws ++ vs) = consHead c ws ++ vs := by
  cases ws
  case nil => contradiction
  case cons => rfl

theorem split_append_sep : split c (s ++ c :: t) = split c s ++ split c t := by
  induction s
  case nil => simp [split_nil, split_cons]
  case cons x xs hi =>
    simp only [List.cons_append, split_cons, hi]
    split
    · rfl
    · exact consHead_append split_ne_nil

theorem not_mem_of_mem_split {w : List Char} (h : w ∈ split c s) : c ∉ w := by
  induction s generalizing w
  case nil => simp_all [split_nil]
  case cons x xs hi =>
    rw [split_cons] at h
    split at h
    case isTrue =>
      rcases List.mem_cons.mp h with rfl | h
      · exact List.not_mem_nil
      · exact hi h
    case isFalse hx =>
      cases hs : split c xs
      case nil => exact absurd hs split_ne_nil
      case cons v vs =>
        rw [hs] at h hi
        rcases List.mem_cons.mp h with rfl | h
        · intro hm
          rcases List.mem_cons.mp hm with rfl | hm
          · exact hx (beq_self_eq_true c)
          · exact hi (.head _) hm
        · exact hi (.tail _ h)

-- Every character of a part is one of the text.
theorem mem_of_mem_split {w : List Char} {x : Char} (h : w ∈ split c s) (hx : x ∈ w) : x ∈ s := by
  induction s generalizing w
  case nil => simp_all [split_nil]
  case cons y ys hi =>
    rw [split_cons] at h
    split at h
    case isTrue =>
      rcases List.mem_cons.mp h with rfl | h
      · cases hx
      · exact .tail _ (hi h hx)
    case isFalse =>
      cases hs : split c ys
      case nil => exact absurd hs split_ne_nil
      case cons v vs =>
        rw [hs] at h hi
        rcases List.mem_cons.mp h with rfl | h
        · rcases List.mem_cons.mp hx with rfl | hx
          · exact .head _
          · exact .tail _ (hi (.head _) hx)
        · exact .tail _ (hi (.tail _ h) hx)

theorem split_eq_singleton (h : c ∉ s) : split c s = [s] := by
  induction s
  case nil => rfl
  case cons x xs hi =>
    have ⟨hx, hxs⟩ := List.ne_and_not_mem_of_not_mem_cons h
    simp [split_cons, Ne.symm hx, hi hxs]

theorem splitSeqFrom_append (s : List Char) :
    splitSeqFrom sep s.length (s ++ t) = splitSeqFrom sep 0 t := by
  induction s
  case nil => rfl
  case cons x xs hi => simpa [splitSeqFrom] using hi

theorem splitSeqFrom_ne_nil {n : Nat} : splitSeqFrom sep n s ≠ [] := by
  induction s generalizing n
  case nil => cases n <;> simp [splitSeqFrom]
  case cons x xs hi =>
    cases n
    case zero =>
      rw [splitSeqFrom]
      split
      · simp
      · cases splitSeqFrom sep 0 xs <;> simp [consHead]
    case succ n => exact hi

theorem splitSeq_ne_nil (sep s : List Char) : splitSeq sep s ≠ [] :=
  splitSeqFrom_ne_nil

theorem splitSeq_append_self (hn : sep ≠ []) : splitSeq sep (sep ++ t) = [] :: splitSeq sep t := by
  cases sep
  case nil => contradiction
  case cons x xs => simp [splitSeq, splitSeqFrom, splitSeqFrom_append]

theorem splitSeq_cons (h : ¬sep <+: c :: s) :
    splitSeq sep (c :: s) = consHead c (splitSeq sep s) := by
  simp [splitSeq, splitSeqFrom, h]

theorem splitSeq_append (h : Clear sep s (sep ++ t)) (hn : sep ≠ []) :
    splitSeq sep (s ++ (sep ++ t)) = s :: splitSeq sep t := by
  induction s
  case nil => exact splitSeq_append_self hn
  case cons x xs hi =>
    have ⟨hx, hxs⟩ := Clear.cons_iff.mp h
    rw [List.cons_append, splitSeq_cons hx, hi hxs, consHead]

theorem splitSeq_eq_singleton (h : ¬sep <:+: s) : splitSeq sep s = [s] := by
  induction s
  case nil => rfl
  case cons x xs hi =>
    rw [List.infix_cons_iff, not_or] at h
    rw [splitSeq_cons h.left, hi h.right, consHead]

/-! Joining and replacing -/

theorem join_cons_of_ne_nil {w : List Char} {ws : List (List Char)} (h : ws ≠ []) :
    join sep (w :: ws) = w ++ sep ++ join sep ws := by
  cases ws
  case nil => contradiction
  case cons => rfl

theorem join_consHead {ws : List (List Char)} (h : ws ≠ []) :
    join sep (consHead c ws) = c :: join sep ws := by
  match ws with
  | [] => contradiction
  | [w] => rfl
  | w :: v :: vs => simp [consHead, join]

theorem join_cons_eq_flatMap {w : List Char} {ws : List (List Char)} :
    join sep (w :: ws) = w ++ ws.flatMap (sep ++ ·) := by
  induction ws generalizing w
  case nil => simp [join]
  case cons v vs hi => simp [join, hi]

theorem join_append_self (sep w : List Char) (ws : List (List Char)) :
    join sep (w :: ws) ++ sep = (w :: ws).flatMap (· ++ sep) := by
  induction ws generalizing w
  case nil => simp [join]
  case cons v vs hi => simp [join, hi]

theorem replaceSeq_nil : replaceSeq sep a [] = [] := rfl

theorem replaceSeq_append_self (hn : sep ≠ []) :
    replaceSeq sep a (sep ++ t) = a ++ replaceSeq sep a t := by
  rw [replaceSeq, splitSeq_append_self hn, join_cons_of_ne_nil (splitSeq_ne_nil _ _), List.nil_append,
    replaceSeq]

theorem replaceSeq_cons (h : ¬sep <+: c :: s) :
    replaceSeq sep a (c :: s) = c :: replaceSeq sep a s := by
  rw [replaceSeq, splitSeq_cons h, join_consHead (splitSeq_ne_nil _ _), replaceSeq]

theorem mem_of_mem_replaceSeq {x : Char} (h : x ∈ replaceSeq [c] a s) : x ∈ a ∨ x ∈ s := by
  induction s
  case nil => cases h
  case cons y s ih =>
    by_cases hy : y = c
    case pos =>
      have heq : replaceSeq [c] a (y :: s) = a ++ replaceSeq [c] a s :=
        hy ▸ replaceSeq_append_self (by simp)
      rw [heq, List.mem_append] at h
      rcases h with h | h
      · exact .inl h
      · exact (ih h).imp_right (.tail _)
    case neg =>
      rw [replaceSeq_cons (by simpa using Ne.symm hy), List.mem_cons] at h
      rcases h with rfl | h
      · exact .inr (.head _)
      · exact (ih h).imp_right (.tail _)

/-! Trimming -/

variable {p : Char → Bool}

theorem mem_of_mem_dropEndWhile {x : Char} (h : x ∈ dropEndWhile p s) : x ∈ s := by
  rw [dropEndWhile, List.mem_reverse] at h
  exact List.mem_reverse.mp (List.dropWhile_subset _ h)

theorem trim_append_of_all (h : ∀ c ∈ t, p c) : trim p (s ++ t) = trim p s := by
  have hd : t.dropWhile p = [] := List.dropWhile_eq_nil_iff.mpr h
  have hr : t.reverse.dropWhile p = [] := List.dropWhile_eq_nil_iff.mpr (by simpa using h)
  rw [trim, trim, dropEndWhile, List.dropWhile_append]
  split
  case isTrue hs => simp [hd, List.isEmpty_iff.mp hs, dropEndWhile]
  case isFalse => simp [dropEndWhile, List.dropWhile_append, hr]

theorem trim_eq_self_iff :
    trim p s = s ↔ (∀ c ∈ s.head?, ¬p c) ∧ (∀ c ∈ s.getLast?, ¬p c) := by
  cases s
  case nil => simp [trim, dropEndWhile]
  case cons x xs =>
    by_cases hx : p x
    case pos =>
      refine iff_of_false (fun h => ?_) (by simp [hx])
      have := (List.rdropWhile_prefix p (l := (x :: xs).dropWhile p)).length_le
      have := (List.dropWhile_suffix p (l := xs)).length_le
      have := congrArg List.length h
      simp_all [trim, dropEndWhile, List.rdropWhile]
      omega
    case neg =>
      rw [trim, List.dropWhile_cons_of_neg hx]
      refine (List.rdropWhile_eq_self_iff (p := p)).trans ?_
      simp [hx, List.getLast?_eq_getLast_of_ne_nil]

end Refit.Text

namespace Refit

/-! Lower case in ASCII -/

theorem Letter.lower_ascii {c : Char} (h : c.toNat < 128) : lower c = [c.toLower] := by
  have hall : ∀ n < 128, lower (Char.ofNat n) = [(Char.ofNat n).toLower] := by decide +kernel
  rw [← Char.ofNat_toNat c]
  exact hall _ h

theorem Text.lowerFrom_ascii {seen s : List Char} (h : ∀ c ∈ s, c.toNat < 128) :
    lowerFrom seen s = s.map Char.toLower := by
  induction s generalizing seen
  case nil => rfl
  case cons c s ih =>
    obtain ⟨hc, hs⟩ := List.forall_mem_cons.mp h
    have hsigma : (c.toNat == 0x3A3) = false := beq_eq_false_iff_ne.mpr (by omega)
    rw [lowerFrom, hsigma, if_neg Bool.false_ne_true, Letter.lower_ascii hc, ih hs]
    rfl

end Refit
