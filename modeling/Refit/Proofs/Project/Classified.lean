import Refit.Plan.Synthesis
import Refit.Proofs.Project.Extracted
import Refit.Proofs.Project.Found

/-!
Which architecture is found, and with what confidence.

The style that is found is the first one with the highest score, unless no score reaches the
threshold. The confidence is never zero, so a plan that keeps the architecture keeps what was found.
-/

namespace Refit

namespace Architecture

variable {α : Type} {f : α → Nat} {xs : List α} {x y : α}

-- The first of the elements with the greatest value: those before it have smaller ones.
def FirstMax (f : α → Nat) (xs : List α) (x : α) : Prop :=
  ∃ before after, xs = before ++ x :: after ∧ (∀ y ∈ before, f y < f x) ∧ ∀ y ∈ after, f y ≤ f x

namespace FirstMax

theorem le (h : FirstMax f xs x) : ∀ y ∈ xs, f y ≤ f x := by
  obtain ⟨before, after, rfl, hbefore, hafter⟩ := h
  refine List.forall_mem_append.mpr ⟨fun y hy => (hbefore y hy).le, ?_⟩
  exact List.forall_mem_cons.mpr ⟨le_rfl, hafter⟩

-- One more element takes the place of the greatest one only where it has a greater value.
theorem concat (h : FirstMax f xs x) :
    FirstMax f (xs ++ [y]) (if f x < f y then y else x) := by
  split
  case isTrue hlt => exact ⟨xs, [], rfl, fun z hz => (h.le z hz).trans_lt hlt, nofun⟩
  case isFalse hle =>
    obtain ⟨before, after, rfl, hbefore, hafter⟩ := h
    refine ⟨before, after ++ [y], by simp, hbefore, List.forall_mem_append.mpr ⟨hafter, ?_⟩⟩
    exact List.forall_mem_singleton.mpr (not_lt.mp hle)

theorem foldl : FirstMax f (x :: xs)
    (xs.foldl (fun best y => if f best < f y then y else best) x) := by
  induction xs using List.reverseRecOn
  case nil => exact ⟨[], [], rfl, nofun, nofun⟩
  case append_singleton xs y ih =>
    rw [List.foldl_concat]
    exact ih.concat

end FirstMax

theorem firstMax_winner {points : Style → Nat} : FirstMax points Style.all (winner points) := by
  rw [winner, Style.all, List.foldl_cons, if_neg (lt_irrefl _)]
  exact .foldl

theorem Style.mem_all (s : Style) : s ∈ all := by
  cases s
  all_goals decide

theorem points_le_winner {points : Style → Nat} (s : Style) :
    points s ≤ points (winner points) :=
  firstMax_winner.le s s.mem_all

theorem Style.name_ne_custom (s : Style) : s.name ≠ "custom" := by
  cases s
  all_goals decide

variable {list : Lister} {tree : Folder}

def points (list : Lister) (s : Style) : Nat :=
  (score list s).points

theorem threshold_le_winner_iff :
    threshold ≤ points list (winner (points list)) ↔ ∃ s, threshold ≤ points list s :=
  ⟨fun h => ⟨_, h⟩, fun ⟨s, h⟩ => h.trans (points_le_winner s)⟩

theorem classify_style (h : threshold ≤ points list (winner (points list))) :
    (classify list tree).detected = .text (winner (points list)).name ∧
      (classify list tree).confidence = share (points list (winner (points list))) := by
  have hclassify : classify list tree = _ := if_neg (not_lt.mpr h)
  rw [hclassify]
  exact ⟨rfl, rfl⟩

theorem classify_custom (h : points list (winner (points list)) < threshold) :
    (classify list tree).detected = "custom" ∧
      (classify list tree).confidence = share (100 - points list (winner (points list))) := by
  have hclassify : classify list tree = _ := if_pos h
  rw [hclassify]
  exact ⟨rfl, rfl⟩

-- What is found is the name of a style or no style at all.
theorem detected_classify : (∃ s : Style, (classify list tree).detected = .text s.name) ∨
    (classify list tree).detected = "custom" := by
  rcases lt_or_ge (points list (winner (points list))) threshold with h | h
  case inl => exact .inr (classify_custom h).1
  case inr => exact .inl ⟨_, (classify_style h).1⟩

theorem detected_ne_custom_iff :
    (classify list tree).detected ≠ "custom" ↔ ∃ s, threshold ≤ points list s := by
  rw [← threshold_le_winner_iff]
  refine ⟨fun h => not_lt.mp fun hlt => h (classify_custom hlt).1, fun h heq => ?_⟩
  exact Style.name_ne_custom _ (Datum.text.inj ((classify_style h).1.symm.trans heq))

/-! Confidence -/

theorem share_bounds : ∀ n ≤ 100, threshold ≤ n → (0.4 : Float) ≤ share n ∧ share n ≤ 1 := by
  decide +kernel

theorem share_ne_zero : ∀ n ≤ 100, threshold ≤ n → (share n == 0) = false := by
  decide +kernel

-- A confidence is the share of a number of points that would make a style.
theorem exists_confidence_classify (list : Lister) (tree : Folder) :
    ∃ n ≤ 100, threshold ≤ n ∧ (classify list tree).confidence = share n := by
  rcases lt_or_ge (points list (winner (points list))) threshold with h | h
  case inl =>
    refine ⟨_, Nat.sub_le _ _, ?_, (classify_custom h).2⟩
    rw [threshold] at h ⊢
    omega
  case inr => exact ⟨_, points_le _, h, (classify_style h).2⟩

end Architecture

open Architecture

variable {s t : Session} {l : Location} {snap : Snapshot}

-- A snapshot that an analysis has made, of a project in a folder or of a list of files.
inductive Snapshot.Analysed (snap : Snapshot) : Prop
  | inFolder {l : Location} {depth : Datum} {bound : Int} {s t : Session} :
      Ends (Analysis.inFolder l depth bound) s (.ok snap) t → Analysed snap
  | ofFiles {fs : List SourceFile} {name : String} {depth : Datum} :
      Analysis.ofFiles fs name depth = .ok snap → Analysed snap

theorem Assessment.inFolder_classified {a : Assessment}
    (h : Ends (inFolder l) s (.ok a) t) : ∃ list tree, a = classify list tree := by
  obtain ⟨tree, u, -, h⟩ := Ends.bind_ok_iff.mp h
  obtain ⟨place, -, ha⟩ := bind_eq_ok.mp (Action.ask_iff.mp h).1.symm
  exact ⟨_, tree, (pure_eq_ok.mp ha).symm⟩

-- The architecture of every snapshot comes from a layout of folders.
theorem Snapshot.Analysed.classified (h : snap.Analysed) :
    ∃ list tree, snap.architecture = classify list tree := by
  cases h
  case inFolder h =>
    obtain ⟨_, _, a, _, _, -, -, ha, -, rfl⟩ := Analysis.inFolder_assessed h
    exact Assessment.inFolder_classified ha
  case ofFiles h =>
    obtain ⟨_, -, h⟩ := bind_eq_ok.mp h
    obtain ⟨_, -, h⟩ := bind_eq_ok.mp h
    obtain rfl := pure_eq_ok.mp h
    exact ⟨_, _, rfl⟩

-- What was found is the name of a style, or becomes one.
theorem Plan.exists_customAsLayers {d : Datum}
    (h : (∃ s : Style, d = .text s.name) ∨ d = "custom") :
    ∃ s : Style, (customAsLayers d).1 = .text s.name := by
  rw [customAsLayers]
  split
  case isTrue => exact ⟨.layerFirst, rfl⟩
  case isFalse hne =>
    rcases h with h | rfl
    · exact h
    · exact absurd (Datum.same_text.trans (beq_self_eq_true _)) hne

namespace Architecture

-- A style is found just where a score reaches the threshold, and then it is the first one with the
-- highest score. The confidence is never zero, so that a plan that is to keep the architecture
-- decides by what was found.
theorem classify_firstMax :
    (∀ list tree,
      ((classify list tree).detected ≠ "custom" ↔ ∃ s, 40 ≤ points list s) ∧
      (∃ w, FirstMax (points list) Style.all w ∧
        ((∃ s, 40 ≤ points list s) → (classify list tree).detected = .text w.name ∧
          (classify list tree).confidence = share (points list w)) ∧
        ((∀ s, points list s < 40) → (classify list tree).detected = "custom" ∧
          (classify list tree).confidence = share (100 - points list w))) ∧
      0.4 ≤ (classify list tree).confidence ∧ (classify list tree).confidence ≤ 1) ∧
    ∀ snap : Snapshot, snap.Analysed →
      (snap.architecture.confidence == 0) = false ∧
      Plan.chooseArchitecture snap "keep" = Plan.customAsLayers snap.architecture.detected ∧
      ∃ s : Style, (Plan.chooseArchitecture snap "keep").1 = .text s.name := by
  refine ⟨fun list tree => ⟨detected_ne_custom_iff,
    ⟨_, firstMax_winner, fun h => ?_, fun h => ?_⟩, ?_⟩, fun snap h => ?_⟩
  case refine_1 => exact classify_style (threshold_le_winner_iff.mpr h)
  case refine_2 => exact classify_custom (h _)
  case refine_3 =>
    obtain ⟨n, hn, hge, hshare⟩ := exists_confidence_classify list tree
    exact hshare ▸ share_bounds n hn hge
  case refine_4 =>
    obtain ⟨list, tree, harch⟩ := h.classified
    have hconfidence : (snap.architecture.confidence == 0) = false := by
      obtain ⟨n, hn, hge, hshare⟩ := exists_confidence_classify list tree
      rw [harch, hshare]
      exact share_ne_zero n hn hge
    have hkeep : Plan.chooseArchitecture snap "keep" =
        Plan.customAsLayers snap.architecture.detected := by
      rw [Plan.chooseArchitecture, if_pos (Datum.same_text.trans (beq_self_eq_true _)),
        if_neg (by simp [hconfidence])]
    refine ⟨hconfidence, hkeep, ?_⟩
    rw [hkeep, harch]
    exact Plan.exists_customAsLayers detected_classify

-- Folders that two styles claim with equal scores, and a project that keeps what is found.
theorem classify_firstMax_tie :
    let list : Lister := fun _ => ["data", "domain", "screens", "widgets"]
    points list .clean = 40 ∧ points list .layerFirst = 40 ∧
      (classify list default).detected ≠ "custom" ∧
      ∃ snap, Analysis.ofFiles [⟨"lib/data/user.dart", ""⟩, ⟨"lib/domain/user.dart", ""⟩] "app"
          "deep" = .ok snap ∧
        (snap.architecture.confidence == 0) = false ∧
        ∃ s : Style, (Plan.chooseArchitecture snap "keep").1 = .text s.name := by
  intro list
  have hclean : points list .clean = 40 := by decide
  have hlayers : points list .layerFirst = 40 := by decide
  obtain ⟨snap, hsnap⟩ : ∃ snap, Analysis.ofFiles [⟨"lib/data/user.dart", ""⟩,
      ⟨"lib/domain/user.dart", ""⟩] "app" "deep" = .ok snap := ⟨_, rfl⟩
  obtain ⟨hconfidence, -, hstyle⟩ := classify_firstMax.2 snap (.ofFiles hsnap)
  exact ⟨hclean, hlayers, (classify_firstMax.1 list default).1.mpr ⟨_, hclean.ge⟩, snap, hsnap,
    hconfidence, hstyle⟩

end Architecture

end Refit
