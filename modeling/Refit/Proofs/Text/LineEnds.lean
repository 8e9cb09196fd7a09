import Refit.Proofs.Text.Basic

/-!
Line ends of one and of two characters.

`unified` drops the carriage return before every line feed. It is what replacing the two characters
by the one gives, and it can be done line by line.
-/

namespace Refit.Text

variable {s t : List Char} {c : Char}

def crlf : List Char :=
  ['\r', '\n']

def unified : List Char → List Char
  | [] => []
  | '\r' :: '\n' :: r => '\n' :: unified r
  | c :: r => c :: unified r

theorem crlf_prefix_cons_iff : crlf <+: c :: s ↔ c = '\r' ∧ s.head? = some '\n' := by
  cases s <;> simp [crlf, eq_comm]

-- What the last case of `unified` says of a character.
theorem not_crlf_prefix_of (h : ∀ r, c = '\r' → s = '\n' :: r → False) : ¬crlf <+: c :: s := by
  cases s <;> simp_all [crlf_prefix_cons_iff]

theorem not_crlf_prefix_append (h : ¬crlf <+: c :: s) (hs : ¬(c = '\r' ∧ s = [])) :
    ¬crlf <+: c :: (s ++ t) := by
  cases s <;> simp_all [crlf_prefix_cons_iff]

theorem unified_cons (h : ¬crlf <+: c :: s) : unified (c :: s) = c :: unified s := by
  rw [unified]
  rintro _ rfl rfl
  simp [crlf_prefix_cons_iff] at h

theorem replaceSeq_crlf : replaceSeq crlf ['\n'] s = unified s := by
  induction s using unified.induct
  case case1 => rfl
  case case2 r hi => rw [unified, ← hi]; exact replaceSeq_append_self (by simp [crlf])
  case case3 c r h hi =>
    have h := not_crlf_prefix_of h
    rw [unified_cons h, replaceSeq_cons h, hi]

theorem unified_eq_self (h : ¬crlf <:+: s) : unified s = s := by
  induction s
  case nil => rfl
  case cons x xs hi =>
    rw [List.infix_cons_iff, not_or] at h
    rw [unified_cons h.left, hi h.right]

-- A line feed begins a new line, whatever stands before it.
theorem unified_append_line : unified (s ++ '\n' :: t) = unified (s ++ ['\n']) ++ unified t := by
  induction s using unified.induct
  case case1 => simp [unified]
  case case2 r hi => simp [unified, hi]
  case case3 c r h hi =>
    by_cases hc : c = '\r' ∧ r = []
    case pos => simp [hc, unified]
    case neg =>
      have h (u : List Char) : ¬crlf <+: c :: (r ++ u) :=
        not_crlf_prefix_append (not_crlf_prefix_of h) hc
      rw [List.cons_append, List.cons_append, unified_cons (h _), unified_cons (h _), hi,
        List.cons_append]

theorem unified_line (h : '\n' ∉ s) (hl : s.getLast? ≠ some '\r') :
    unified (s ++ '\n' :: t) = s ++ '\n' :: unified t := by
  induction s
  case nil => simp [unified]
  case cons x xs hi =>
    have ⟨hx, hxs⟩ := List.ne_and_not_mem_of_not_mem_cons h
    have hc : ¬crlf <+: x :: (xs ++ '\n' :: t) := by
      cases xs <;> simp_all [crlf_prefix_cons_iff]
      grind
    rw [List.cons_append, unified_cons hc, hi hxs, List.cons_append]
    intro hr
    cases xs <;> simp_all [List.getLast?_cons]

theorem unified_flatMap {ls : List (List Char)}
    (h : ∀ l ∈ ls, '\n' ∉ l ∧ l.getLast? ≠ some '\r') :
    unified (ls.flatMap (· ++ ['\n']) ++ t) = ls.flatMap (· ++ ['\n']) ++ unified t := by
  induction ls
  case nil => rfl
  case cons l ls hi =>
    have ⟨hn, hr⟩ := h l (by simp)
    have hi := hi fun l hl => h l (by simp [hl])
    simp [unified_line hn hr, hi]

theorem unified_concat : ∃ t, unified (s ++ ['\n']) = t ++ ['\n'] := by
  induction s using unified.induct
  case case1 => exact ⟨[], rfl⟩
  case case2 r hi =>
    have ⟨t, ht⟩ := hi
    exact ⟨'\n' :: t, by simp [unified, ht]⟩
  case case3 c r h hi =>
    by_cases hc : c = '\r' ∧ r = []
    case pos => exact ⟨[], by simp [hc, unified]⟩
    case neg =>
      have ⟨t, ht⟩ := hi
      have h : ¬crlf <+: c :: (r ++ ['\n']) := not_crlf_prefix_append (not_crlf_prefix_of h) hc
      exact ⟨c :: t, by simp [unified_cons h, ht]⟩

-- With a line feed behind it, a text has the same lines but for the blanks after the last one.
theorem trim_unified_append :
    trim Letter.isBlank (unified (s ++ ['\n'])) = trim Letter.isBlank (unified s) := by
  suffices h : ∃ u v w, unified s = u ++ v ∧ unified (s ++ ['\n']) = u ++ w
      ∧ v.all Letter.isBlank ∧ w.all Letter.isBlank by
    have ⟨u, v, w, hv, hw, hbv, hbw⟩ := h
    rw [hv, hw, trim_append_of_all (by simpa using hbw), trim_append_of_all (by simpa using hbv)]
  induction s using unified.induct
  case case1 => exact ⟨[], [], ['\n'], by decide⟩
  case case2 r hi =>
    have ⟨u, v, w, hv, hw, hb⟩ := hi
    exact ⟨'\n' :: u, v, w, by simp [unified, hv], by simp [unified, hw], hb⟩
  case case3 c r h hi =>
    by_cases hc : c = '\r' ∧ r = []
    case pos =>
      obtain ⟨rfl, rfl⟩ := hc
      exact ⟨[], ['\r'], ['\n'], by decide⟩
    case neg =>
      have ⟨u, v, w, hv, hw, hb⟩ := hi
      have h₁ : ¬crlf <+: c :: r := not_crlf_prefix_of h
      have h₂ : ¬crlf <+: c :: (r ++ ['\n']) := not_crlf_prefix_append h₁ hc
      refine ⟨c :: u, v, w, ?_, ?_, hb⟩
      · simp [unified_cons h₁, hv]
      · simp [unified_cons h₂, hw]

-- The text with every line end, of either kind, written as two characters.
def withCrlf (s : List Char) : List Char :=
  replaceSeq ['\n'] crlf (unified s)

theorem replaceSeq_line_cons_self :
    replaceSeq ['\n'] crlf ('\n' :: s) = crlf ++ replaceSeq ['\n'] crlf s :=
  replaceSeq_append_self (by simp)

theorem replaceSeq_line_cons (h : c ≠ '\n') :
    replaceSeq ['\n'] crlf (c :: s) = c :: replaceSeq ['\n'] crlf s :=
  replaceSeq_cons (by simpa using Ne.symm h)

theorem replaceSeq_line_head : ¬['\n'] <+: replaceSeq ['\n'] crlf s := by
  cases s
  case nil => simp [replaceSeq_nil]
  case cons x xs =>
    by_cases hx : x = '\n'
    case pos => rw [hx, replaceSeq_line_cons_self]; simp [crlf]
    case neg => simp [replaceSeq_line_cons hx, Ne.symm hx]

theorem unified_replaceSeq_line : unified (replaceSeq ['\n'] crlf s) = s := by
  induction s
  case nil => rfl
  case cons x xs hi =>
    by_cases hx : x = '\n'
    case pos =>
      rw [hx, replaceSeq_line_cons_self]
      exact congrArg _ hi
    case neg =>
      rw [replaceSeq_line_cons hx, unified_cons, hi]
      intro hp
      exact replaceSeq_line_head (List.cons_prefix_cons.mp hp).right

theorem unified_withCrlf : unified (withCrlf s) = unified s :=
  unified_replaceSeq_line

end Refit.Text
