import Refit.Proofs.Source.ExportRoundTrip

/-!
What is read of an export that breaks off.

The text may end anywhere: in a ruler, in a header, in a content or between the two characters of a
line end. What is read of it can differ from what the whole text has there only behind the last
ruler, and no header is read from what stands there.
-/

namespace Refit

namespace Text

variable {needle sep s t a u r : List Char} {c : Char} {ws vs : List (List Char)}

/-! Characters that a sequence does not contain -/

theorem prefix_append_iff_of_disjoint (h : u.Disjoint needle) :
    needle <+: a ++ u ↔ needle <+: a := by
  cases u
  case nil => rw [List.append_nil]
  case cons d u => exact prefix_append_cons_iff (List.disjoint_cons_left.mp h).1

theorem infix_append_iff_of_disjoint (hn : needle ≠ []) (h : u.Disjoint needle) :
    needle <:+: a ++ u ↔ needle <:+: a := by
  cases u
  case nil => rw [List.append_nil]
  case cons d u =>
    have ⟨hd, hu⟩ := List.disjoint_cons_left.mp h
    have hnot : ¬needle <:+: u := fun hi =>
      have ⟨x, hx⟩ := List.exists_mem_of_ne_nil needle hn
      hu (hi.subset hx) hx
    rw [infix_append_cons_iff hd, or_iff_left hnot]

-- A sequence that reaches over the end of a text does not stand in the text behind its first
-- character.
theorem not_infix_of_prefix_append (h : needle <+: c :: (s ++ t)) (hn : ¬needle <+: c :: s) :
    ¬needle <:+: s := by
  intro hi
  have hlong : needle.length ≤ (c :: s).length := Nat.le_succ_of_le hi.length_le
  exact hn (List.prefix_of_prefix_length_le h (List.prefix_append (c :: s) t) hlong)

theorem find?_append_of_some (h : find? needle s = some r) :
    find? needle (s ++ t) = some (r ++ t) := by
  induction s
  case nil =>
    obtain ⟨hn, hr⟩ := Option.ite_none_right_eq_some.mp h
    obtain rfl := List.isEmpty_iff.mp hn
    obtain rfl := Option.some.inj hr
    cases t <;> rfl
  case cons c s ih =>
    rw [find?] at h
    split at h
    case isTrue hp =>
      have hp : needle <+: c :: (s ++ t) :=
        (List.isPrefixOf_iff_prefix.mp hp).trans (List.prefix_append (c :: s) t)
      rw [← Option.some.inj h, List.cons_append, find?, if_pos (List.isPrefixOf_iff_prefix.mpr hp)]
    case isFalse hp =>
      have hp : ¬needle.isPrefixOf (c :: (s ++ t)) := by
        rw [List.isPrefixOf_iff_prefix] at hp ⊢
        intro hlong
        have hnone := find?_eq_none_iff.mpr (not_infix_of_prefix_append hlong hp)
        simp [hnone] at h
      rw [List.cons_append, find?, if_neg hp, ih h]

/-! Texts that break off -/

-- A text that ends where another one goes on, but for characters that a sequence does not contain.
def Breaks (sep s t : List Char) : Prop :=
  ∃ a u, s = a ++ u ∧ a <+: t ∧ u.Disjoint sep

namespace Breaks

theorem nil : Breaks sep [] t :=
  ⟨[], [], rfl, List.nil_prefix, List.disjoint_nil_left sep⟩

theorem cons (h : Breaks sep s t) : Breaks sep (c :: s) (c :: t) :=
  have ⟨a, u, hs, ha, hu⟩ := h
  ⟨c :: a, u, congrArg (c :: ·) hs, (List.prefix_cons_inj c).mpr ha, hu⟩

theorem of_disjoint (h : s.Disjoint sep) : Breaks sep s t :=
  ⟨[], s, rfl, List.nil_prefix, h⟩

-- What is found in a text that breaks off is found in the whole text, and breaks off there too.
theorem find? (h : Breaks sep s t) (hn : needle ≠ []) (hsub : needle ⊆ sep)
    (hr : find? needle s = some r) : ∃ w, find? needle t = some w ∧ Breaks sep r w := by
  obtain ⟨a, u, rfl, ⟨x, rfl⟩, hu⟩ := h
  have hua : u.Disjoint needle := List.disjoint_of_subset_right hsub hu
  cases ha : Text.find? needle a
  case none =>
    have hnone : ¬needle <:+: a ++ u :=
      (infix_append_iff_of_disjoint hn hua).not.mpr (find?_eq_none_iff.mp ha)
    simp [find?_eq_none_iff.mpr hnone] at hr
  case some w =>
    rw [find?_append_of_some ha, Option.some.injEq] at hr
    exact ⟨w ++ x, find?_append_of_some ha, w, u, hr.symm, List.prefix_append w x, hu⟩

end Breaks

-- At the end of a text that breaks off the line feed of a line end may be missing.
theorem breaks_unified (h : '\r' ∉ sep) : Breaks sep (unified s) (unified (s ++ t)) := by
  induction s using unified.induct
  case case1 => exact .nil
  case case2 r ih => exact .cons ih
  case case3 c r hc ih =>
    by_cases hend : c = '\r' ∧ r = []
    case pos =>
      obtain ⟨rfl, rfl⟩ := hend
      exact .of_disjoint (by simpa [unified] using h)
    case neg =>
      have hr : ¬crlf <+: c :: r := not_crlf_prefix_of hc
      have hrt : ¬crlf <+: c :: (r ++ t) := not_crlf_prefix_append hr hend
      rw [List.cons_append, unified_cons hr, unified_cons hrt]
      exact .cons ih

/-! Their parts -/

-- The parts of a text that breaks off: all but the last are those of the whole text.
structure Begin (ws vs : List (List Char)) : Prop where
  dropLast_prefix : ws.dropLast <+: vs
  length_le : ws.length ≤ vs.length

namespace Begin

theorem singleton {w : List Char} (h : vs ≠ []) : Begin [w] vs :=
  ⟨List.nil_prefix, List.length_pos_iff.mpr h⟩

theorem cons {w : List Char} (hws : ws ≠ []) (h : Begin ws vs) : Begin (w :: ws) (w :: vs) where
  dropLast_prefix := by
    rw [List.dropLast_cons_of_ne_nil hws]
    exact (List.prefix_cons_inj w).mpr h.dropLast_prefix
  length_le := Nat.succ_le_succ h.length_le

theorem tail {w v : List Char} (h : Begin (w :: ws) (v :: vs)) : Begin ws vs where
  dropLast_prefix := by
    cases ws
    case nil => exact List.nil_prefix
    case cons x xs => exact (List.cons_prefix_cons.mp h.dropLast_prefix).2
  length_le := Nat.le_of_succ_le_succ h.length_le

-- Where two parts are left, the first of them is that of the whole text, and another one follows.
theorem exists_cons_cons {w x : List Char} (h : Begin (w :: x :: ws) vs) :
    ∃ y ys, vs = w :: y :: ys ∧ Begin (x :: ws) (y :: ys) := by
  match vs, h with
  | [], h => simpa using h.length_le
  | [_], h => simpa using h.length_le
  | v :: y :: ys, h =>
    obtain rfl := (List.cons_prefix_cons.mp h.dropLast_prefix).1
    exact ⟨y, ys, rfl, h.tail⟩

theorem consHead (hws : ws ≠ []) (h : Begin ws vs) : Begin (consHead c ws) (consHead c vs) := by
  have ⟨w, ws', hw⟩ := List.exists_cons_of_ne_nil hws
  have hvs : vs ≠ [] := by
    rintro rfl
    simpa [hw] using h.length_le
  have ⟨v, vs', hv⟩ := List.exists_cons_of_ne_nil hvs
  subst hw hv
  cases ws'
  case nil => exact singleton (List.cons_ne_nil _ _)
  case cons x xs =>
    have hp := List.cons_prefix_cons.mp h.dropLast_prefix
    exact ⟨by simpa [hp.1] using hp.2, h.length_le⟩

end Begin

theorem splitSeqFrom_eq_singleton_of_disjoint {n : Nat} (hn : sep ≠ []) (h : u.Disjoint sep) :
    ∃ w, splitSeqFrom sep n u = [w] := by
  induction u generalizing n
  case nil => exact ⟨[], by cases n <;> rfl⟩
  case cons c u ih =>
    cases n
    case zero =>
      have hnot : ¬sep <:+: c :: u := by
        have hi := infix_append_iff_of_disjoint (a := []) hn h
        simpa [hn] using hi
      exact ⟨_, splitSeq_eq_singleton hnot⟩
    case succ n => exact ih (List.disjoint_cons_left.mp h).2

-- The number says how many characters still belong to the sequence that was found last.
theorem begin_splitSeqFrom {n : Nat} (hn : sep ≠ []) (hu : u.Disjoint sep) :
    Begin (splitSeqFrom sep n (a ++ u)) (splitSeqFrom sep n (a ++ t)) := by
  induction a generalizing n
  case nil =>
    have ⟨w, hw⟩ := splitSeqFrom_eq_singleton_of_disjoint (n := n) hn hu
    rw [List.nil_append, hw]
    exact .singleton splitSeqFrom_ne_nil
  case cons c a ih =>
    cases n
    case succ n => exact ih
    case zero =>
      have hau : sep <+: c :: (a ++ u) ↔ sep <+: c :: a :=
        prefix_append_iff_of_disjoint (a := c :: a) hu
      simp only [List.cons_append, splitSeqFrom, List.isPrefixOf_iff_prefix, hau]
      by_cases ha : sep <+: c :: a
      case pos =>
        have hat : sep <+: c :: (a ++ t) := ha.trans (List.prefix_append (c :: a) t)
        rw [if_pos ha, if_pos hat]
        exact .cons splitSeqFrom_ne_nil ih
      case neg =>
        rw [if_neg ha]
        split
        case isTrue hat =>
          -- Here the sequence is cut off, and there is none in the little that is left of the text.
          have hnot : ¬sep <:+: a ++ u :=
            (infix_append_iff_of_disjoint hn hu).not.mpr (not_infix_of_prefix_append hat ha)
          have hone : splitSeqFrom sep 0 (a ++ u) = [a ++ u] := splitSeq_eq_singleton hnot
          rw [hone]
          exact .singleton (List.cons_ne_nil _ _)
        case isFalse => exact ih.consHead splitSeqFrom_ne_nil

theorem Breaks.begin_splitSeq (h : Breaks sep s t) (hn : sep ≠ []) :
    Begin (splitSeq sep s) (splitSeq sep t) := by
  obtain ⟨a, u, rfl, ⟨x, rfl⟩, hu⟩ := h
  exact begin_splitSeqFrom hn hu

end Text

namespace Export

open Text

variable {ws vs : List (List Char)} {s t : List Char}

-- The last text is never a header, so what it holds decides no more than the content of a file.
theorem filesOf_begin (h : Begin ws vs) :
    (filesOf ws).map (·.path) <+: (filesOf vs).map (·.path) ∧
      (filesOf ws).dropLast <+: filesOf vs := by
  induction ws using filesOf.induct generalizing vs
  case case1 => exact ⟨List.nil_prefix, List.nil_prefix⟩
  case case2 => exact ⟨List.nil_prefix, List.nil_prefix⟩
  case case3 w b rest p hp ih =>
    have ⟨b', vs', hvs, hrest⟩ := h.exists_cons_cons
    have ⟨hpaths, hfiles⟩ := ih hrest.tail
    simp only [hvs, filesOf, hp, List.map_cons]
    refine ⟨List.cons_prefix_cons.mpr ⟨rfl, hpaths⟩, ?_⟩
    cases hempty : filesOf rest
    case nil => exact List.nil_prefix
    case cons f fs =>
      -- Another file follows, so the content of this one is not what is left of the text.
      have hne : rest ≠ [] := by
        rintro rfl
        simp [filesOf] at hempty
      have hb : b = b' := by
        have hd := hrest.dropLast_prefix
        rw [List.dropLast_cons_of_ne_nil hne] at hd
        exact (List.cons_prefix_cons.mp hd).1
      rw [List.dropLast_cons_of_ne_nil (List.cons_ne_nil f fs), ← hempty, hb]
      exact (List.prefix_cons_inj _).mpr hfiles
  case case4 w b rest hp ih =>
    have ⟨b', vs', hvs, hrest⟩ := h.exists_cons_cons
    simp only [hvs, filesOf, hp]
    exact ih hrest

theorem segments_begin (h : Breaks separator s t) :
    segments s = [] ∨ Begin (segments s) (segments t) := by
  rw [segments]
  cases hs : find? ruler s
  case none => exact .inl rfl
  case some r =>
    obtain ⟨w, hw, hr⟩ := h.find? (by decide) (List.subset_append_left _ _) hs
    rw [segments, hw]
    exact .inr (hr.begin_splitSeq (by decide))

-- However an export breaks off, its files are the first files of the whole export at their paths,
-- and all but the last have the contents that they have there.
theorem ofText_broken (s rest : String) :
    (ofText s).files.map (·.path) <+: (ofText (s ++ rest)).files.map (·.path) ∧
      (ofText s).files.dropLast <+: (ofText (s ++ rest)).files := by
  have hb : Breaks separator (unified s.toList) (unified (s ++ rest).toList) := by
    rw [String.toList_append]
    exact breaks_unified (by decide)
  have hfiles (w : String) : (ofText w).files = filesOf (segments (unified w.toList)) :=
    congrArg Export.files (ofText_eq_ofChars w)
  rw [hfiles, hfiles]
  rcases segments_begin hb with hnone | hbegin
  · rw [hnone]
    exact ⟨List.nil_prefix, List.nil_prefix⟩
  · exact filesOf_begin hbegin

-- A ruler that breaks off is taken for content.
example : (ofText (renderFile ⟨"a", "x"⟩ ++ "==")).files = [⟨"a", "x\n=="⟩] := by
  decide +kernel

end Export

end Refit
