import Mathlib.Data.List.Basic
import Refit.Source.Outline

/-!
Class bodies: a body ends where its first block closes, which is told by the numbers of both braces
or by the balanced text inside the block.
-/

namespace Refit.Outline

variable {s t w b : List Char} {n i j k : Nat}

-- The braces of a text pair up.
inductive Balanced : List Char → Prop where
  | nil : Balanced []
  | other {c : Char} (hopen : c ≠ '\x7b') (hclose : c ≠ '\x7d') : Balanced [c]
  | append {s t : List Char} (hs : Balanced s) (ht : Balanced t) : Balanced (s ++ t)
  | block {s : List Char} (hs : Balanced s) : Balanced ('\x7b' :: s ++ ['\x7d'])

theorem Balanced.of_braceless (hopen : '\x7b' ∉ s) (hclose : '\x7d' ∉ s) : Balanced s := by
  induction s
  case nil => exact .nil
  case cons c s ih =>
    rw [List.mem_cons, not_or] at hopen hclose
    exact .append (.other (Ne.symm hopen.1) (Ne.symm hclose.1)) (ih hopen.2 hclose.2)

-- A reading that passes a balanced text has as many open blocks behind it as before it.
theorem closeFrom_append (hs : Balanced s) : closeFrom n (s ++ t) = s ++ closeFrom n t := by
  induction hs generalizing n t
  case nil => rfl
  case other hopen hclose => simp [closeFrom, hopen, hclose]
  case append ihs iht => rw [List.append_assoc, ihs, iht, List.append_assoc]
  case block s hs ih =>
    have hrest : closeFrom (n + 1) (s ++ '\x7d' :: t) = s ++ '\x7d' :: closeFrom n t := by
      rw [ih]
      simp [closeFrom]
    simpa [closeFrom] using hrest

theorem body_append (hw : '\x7b' ∉ w) : body (w ++ s) = w ++ body s := by
  induction w
  case nil => rfl
  case cons c w ih =>
    rw [List.mem_cons, not_or] at hw
    simp [body, Ne.symm hw.1, ih hw.2]

theorem body_block (hs : Balanced s) :
    body ('\x7b' :: (s ++ '\x7d' :: t)) = '\x7b' :: (s ++ ['\x7d']) := by
  have hclose : closeFrom 0 ('\x7d' :: t) = ['\x7d'] := by simp [closeFrom]
  simp [body, closeFrom_append hs, hclose]

/-! Where the first block closes -/

-- In a balanced text both braces come equally often.
theorem Balanced.count_eq (hb : Balanced b) : b.count '\x7d' = b.count '\x7b' := by
  induction hb
  case nil => rfl
  case other hopen hclose =>
    rw [List.count_singleton, List.count_singleton, beq_eq_false_iff_ne.mpr hopen,
      beq_eq_false_iff_ne.mpr hclose]
  case append ihs iht => rw [List.count_append, List.count_append, ihs, iht]
  case block ih => simp [ih]

-- No block that was not opened in a balanced text is closed on the way.
theorem Balanced.count_take_le (hb : Balanced b) :
    (b.take k).count '\x7d' ≤ (b.take k).count '\x7b' := by
  induction hb generalizing k
  case nil => simp
  case other c hopen hclose =>
    refine Nat.le_trans (Nat.le_of_eq (List.count_eq_zero.mpr fun h => hclose ?_)) (Nat.zero_le _)
    exact (List.mem_singleton.mp (List.mem_of_mem_take h)).symm
  case append s t _ _ ihs iht =>
    rw [List.take_append, List.count_append, List.count_append]
    exact Nat.add_le_add ihs iht
  case block s _ ih =>
    cases k
    case zero => simp
    case succ k =>
      have hlast : ((['\x7d'] : List Char).take (k - s.length)).count '\x7d' ≤ 1 :=
        (List.take_sublist _ _).count_le _
      have hinner := @ih k
      simp only [List.cons_append, List.take_succ_cons, List.take_append, List.count_cons,
        List.count_append]
      simp
      omega

-- A text that closes `n` blocks more than it opens, each of them where no inner block is open.
inductive Closing : Nat → List Char → Prop where
  | inside {s : List Char} (hs : Balanced s) : Closing 0 s
  | next {n : Nat} {s t : List Char} (hs : Balanced s) (ht : Closing n t) :
    Closing (n + 1) (s ++ '\x7d' :: t)

theorem Closing.append (hs : Balanced s) (ht : Closing n t) : Closing n (s ++ t) := by
  cases ht
  case inside ht => exact .inside (.append hs ht)
  case next hb ht => exact List.append_assoc .. ▸ .next (.append hs hb) ht

theorem Closing.balanced (hs : Closing 0 s) : Balanced s := by
  cases hs
  assumption

-- How a reading with `n + 1` open blocks ends: it closes all of them, or it comes to the end of the
-- text and some are open all the way.
inductive Reading (n : Nat) (s : List Char) : Prop where
  | closed {u t : List Char} (hs : s = u ++ '\x7d' :: t) (hu : Closing n u)
    (hread : closeFrom n s = u ++ ['\x7d'])
  | unclosed (hread : closeFrom n s = s)
    (hopen : ∀ k, (s.take k).count '\x7d' ≤ (s.take k).count '\x7b' + n)

-- One character more in front, where it takes the number of open blocks from `n` to `m`.
theorem Reading.cons {c : Char} {m : Nat} (hread : closeFrom n (c :: s) = c :: closeFrom m s)
    (hclosing : ∀ u, Closing m u → Closing n (c :: u))
    (hcount : [c].count '\x7d' + m ≤ [c].count '\x7b' + n) (h : Reading m s) :
    Reading n (c :: s) := by
  cases h
  case closed hs hu hrest =>
    exact .closed (congrArg _ hs) (hclosing _ hu) (hread.trans (congrArg _ hrest))
  case unclosed hrest hopen =>
    refine .unclosed (hread.trans (congrArg _ hrest)) fun k => ?_
    cases k
    case zero => simp
    case succ k =>
      have hk := hopen k
      rw [List.take_succ_cons, ← List.singleton_append, List.count_append, List.count_append]
      omega

theorem reading (n : Nat) (s : List Char) : Reading n s := by
  induction s generalizing n
  case nil => exact .unclosed rfl (by simp)
  case cons c s ih =>
    by_cases hopen : c = '\x7b'
    case pos =>
      subst hopen
      have hcounts : ['\x7b'].count '\x7d' = 0 ∧ ['\x7b'].count '\x7b' = 1 := by decide
      refine .cons (by simp [closeFrom]) (fun u hu => ?_) (by omega) (ih (n + 1))
      cases hu with
      | next hb hv => simpa using Closing.append hb.block hv
    case neg =>
      by_cases hclose : c = '\x7d'
      case pos =>
        subst hclose
        have hcounts : ['\x7d'].count '\x7d' = 1 ∧ ['\x7d'].count '\x7b' = 0 := by decide
        cases n
        case zero => exact .closed (u := []) rfl (.inside .nil) (by simp [closeFrom])
        case succ n =>
          exact .cons (by simp [closeFrom]) (fun u hu => .next .nil hu) (by omega) (ih n)
      case neg =>
        refine .cons (by simp [closeFrom, hopen, hclose]) (fun u hu => ?_) ?_ (ih n)
        · exact .append (.other hopen hclose) hu
        · simp [hopen, hclose]

-- The part of a text between two places, both of them included.
def between (s : List Char) (i j : Nat) : List Char :=
  (s.take (j + 1)).drop i

def IsEven (s : List Char) : Prop :=
  s.count '\x7b' = s.count '\x7d'

-- The first block of a text goes from its first opening brace to the first place behind it up to
-- which there are as many closing braces as opening ones.
structure FirstBlock (s : List Char) (i j : Nat) : Prop where
  opens : s[i]? = some '\x7b'
  first : '\x7b' ∉ s.take i
  behind : i < j
  inside : j < s.length
  even : IsEven (between s i j)
  least : ∀ k, i < k → k < j → ¬IsEven (between s i k)

theorem between_append :
    between (w ++ '\x7b' :: s) w.length (w.length + k) = '\x7b' :: s.take k := by
  rw [between, Nat.add_assoc, List.take_length_add_append, List.drop_left, List.take_succ_cons]

theorem isEven_cons : IsEven ('\x7b' :: s) ↔ s.count '\x7d' = s.count '\x7b' + 1 := by
  simp [IsEven, eq_comm]

-- Inside a balanced text a block around it is not closed, and behind it the next brace closes it.
theorem isEven_between (hb : Balanced b) (hk : k ≤ b.length + 1) :
    IsEven (between (w ++ '\x7b' :: (b ++ '\x7d' :: t)) w.length (w.length + k)) ↔
      k = b.length + 1 := by
  rw [between_append, isEven_cons]
  rcases Nat.eq_or_lt_of_le hk with rfl | hlt
  case inl =>
    rw [List.take_length_add_append, List.count_append, List.count_append, hb.count_eq]
    simp
  case inr =>
    rw [List.take_append_of_le_length (Nat.le_of_lt_succ hlt)]
    have hclosed := hb.count_take_le (k := k)
    omega

-- The first block has a balanced text between its braces.
theorem firstBlock_iff : FirstBlock s i j ↔ ∃ w b t, s = w ++ '\x7b' :: (b ++ '\x7d' :: t) ∧
    '\x7b' ∉ w ∧ Balanced b ∧ i = w.length ∧ j = w.length + (b.length + 1) := by
  constructor
  case mp =>
    intro h
    obtain ⟨w, r, rfl, rfl, hw⟩ : ∃ w r, s = w ++ '\x7b' :: r ∧ i = w.length ∧ '\x7b' ∉ w := by
      have hi : i < s.length := Nat.lt_trans h.behind h.inside
      refine ⟨s.take i, s.drop (i + 1), ?_, by simp; omega, h.first⟩
      have hc : s[i] = '\x7b' := by simpa [hi] using h.opens
      rw [← hc, List.getElem_cons_drop, List.take_append_drop]
    obtain ⟨k, rfl⟩ := Nat.exists_eq_add_of_le (Nat.le_of_lt h.behind)
    rcases reading 0 r with ⟨rfl, hu, -⟩ | ⟨-, hopen⟩
    case unclosed =>
      have heven := isEven_cons.mp (between_append ▸ h.even)
      exact absurd (hopen k) (by omega)
    case closed b t =>
      have hb := hu.balanced
      refine ⟨w, b, t, rfl, hw, hb, rfl, congrArg _ ?_⟩
      by_cases hk : k ≤ b.length + 1
      case pos => exact (isEven_between hb hk).mp h.even
      case neg =>
        refine absurd ((isEven_between hb (Nat.le_refl _)).mpr rfl) (h.least _ ?_ ?_)
        · omega
        · omega
  case mpr =>
    rintro ⟨w, b, t, rfl, hw, hb, rfl, rfl⟩
    refine ⟨by simp, by simpa using hw, by omega, by simp,
      (isEven_between hb (Nat.le_refl _)).mpr rfl, fun k hi hj heven => ?_⟩
    obtain ⟨k, rfl⟩ := Nat.exists_eq_add_of_le (Nat.le_of_lt hi)
    have := (isEven_between hb (by omega)).mp heven
    omega

-- A text is read up to the end of its first block, or to its own end where no block closes.
theorem body_cases (s : List Char) :
    (∃ w b t, s = w ++ '\x7b' :: (b ++ '\x7d' :: t) ∧ '\x7b' ∉ w ∧ Balanced b) ∨ body s = s := by
  by_cases hs : '\x7b' ∈ s
  case neg => exact .inr (by simpa [body] using @body_append [] s hs)
  case pos =>
    obtain ⟨w, r, rfl, hw⟩ := List.eq_append_cons_of_mem hs
    rcases reading 0 r with ⟨rfl, hu, -⟩ | ⟨hread, -⟩
    case closed b t => exact .inl ⟨w, b, t, rfl, hw, hu.balanced⟩
    case unclosed => exact .inr (by simp [body_append hw, body, hread])

theorem body_append_block (hw : '\x7b' ∉ w) (hb : Balanced b) :
    body (w ++ '\x7b' :: (b ++ '\x7d' :: t)) = w ++ '\x7b' :: (b ++ ['\x7d']) := by
  rw [body_append hw, body_block hb]

-- All of a text is read unless something follows its first block.
theorem body_eq_self_iff : body s = s ↔
    ¬∃ w b t, s = w ++ '\x7b' :: (b ++ '\x7d' :: t) ∧ '\x7b' ∉ w ∧ Balanced b ∧ t ≠ [] := by
  constructor
  case mp =>
    rintro h ⟨w, b, t, rfl, hw, hb, ht⟩
    rw [body_append_block hw hb] at h
    exact ht (by simpa using h)
  case mpr =>
    intro h
    rcases body_cases s with ⟨w, b, t, rfl, hw, hb⟩ | hs
    case inr => exact hs
    case inl =>
      obtain rfl : t = [] := by_contra fun ht => h ⟨w, b, t, rfl, hw, hb, ht⟩
      exact body_append_block hw hb

-- A class body goes from its start to the end of the first block behind it, and to the end of the
-- text where that block does not close.
--
-- The end of the block is told in two ways: by the numbers of both braces, and by the balanced text
-- inside.
theorem bodyFrom_firstBlock (text : List Char) (start : Nat) :
    (∀ i j, FirstBlock (text.drop start) i j →
      bodyFrom start text = .ok ((text.drop start).take (j + 1))) ∧
    ((¬∃ i j, FirstBlock (text.drop start) i j) → bodyFrom start text = .ok (text.drop start)) ∧
    (∀ w b t, '\x7b' ∉ w → Balanced b → text.drop start = w ++ '\x7b' :: (b ++ '\x7d' :: t) →
      bodyFrom start text = .ok (w ++ '\x7b' :: (b ++ ['\x7d']))) ∧
    (bodyFrom start text = .ok (text.drop start) ↔
      ¬∃ w b t, text.drop start = w ++ '\x7b' :: (b ++ '\x7d' :: t) ∧ '\x7b' ∉ w ∧ Balanced b ∧
        t ≠ []) := by
  have hfrom : bodyFrom start text = .ok (body (text.drop start)) := by simp [bodyFrom]
  simp only [hfrom, Except.ok.injEq]
  generalize text.drop start = s
  refine ⟨fun i j h => ?closed, fun h => ?unclosed, fun w b t hw hb hs => ?block, body_eq_self_iff⟩
  case closed =>
    obtain ⟨w, b, t, rfl, hw, hb, -, rfl⟩ := firstBlock_iff.mp h
    rw [body_append_block hw hb, Nat.add_assoc, List.take_length_add_append, List.take_succ_cons,
      List.take_length_add_append]
    rfl
  case unclosed =>
    refine body_eq_self_iff.mpr ?_
    rintro ⟨w, b, t, hs, hw, hb, -⟩
    exact h ⟨_, _, firstBlock_iff.mpr ⟨w, b, t, hs, hw, hb, rfl, rfl⟩⟩
  case block => rw [hs, body_append_block hw hb]

-- A body with a block inside its block, behind a closing brace that belongs to nothing.
def nestedText : List Char :=
  "\x7d a \x7b b \x7b \x7d c \x7d d".toList

theorem bodyFrom_firstBlock_nested :
    FirstBlock (nestedText.drop 2) 2 12 ∧
      bodyFrom 2 nestedText = .ok "a \x7b b \x7b \x7d c \x7d".toList ∧
      bodyFrom 10 nestedText = .ok "\x7d c \x7d d".toList := by
  have hinner : Balanced " b \x7b \x7d c ".toList :=
    .append (s := " b ".toList) (.of_braceless (by decide) (by decide))
      (.append (.block (.of_braceless (s := [' ']) (by decide) (by decide)))
        (.of_braceless (s := " c ".toList) (by decide) (by decide)))
  have hblock : FirstBlock (nestedText.drop 2) 2 12 :=
    firstBlock_iff.mpr ⟨"a ".toList, _, " d".toList, rfl, by decide, hinner, rfl, rfl⟩
  have hnone : ¬∃ i j, FirstBlock (nestedText.drop 10) i j := by
    rintro ⟨i, j, h⟩
    have hopen := List.mem_of_getElem? h.opens
    exact absurd hopen (by decide)
  exact ⟨hblock, (bodyFrom_firstBlock nestedText 2).1 2 12 hblock,
    (bodyFrom_firstBlock nestedText 10).2.1 hnone⟩

end Refit.Outline
