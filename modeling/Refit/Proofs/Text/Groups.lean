import Mathlib.Data.Option.Basic
import Mathlib.Logic.Relation
import Refit.Proofs.Text.Basic
import Refit.Text.Pattern

/-!
What the groups of a match hold.

A search takes the first of several ways that a pattern may go. Whichever it takes, a group holds a
text that its part of the pattern goes through.
-/

namespace Refit

open Relation (ReflTransGen)

variable {β : Type} {f : Char → Bool} {x : β} {n : Nat}

namespace Pattern

variable {p a b : Pattern} {s t u : State} {k : State → Option β}

/-! Ways -/

-- A way that a pattern may go from a state to another.
def Reaches : Pattern → State → State → Prop
  | nothing | look _ => fun s t => t = s
  | one p => fun s t => ∃ c r, s.spot.rest = c :: r ∧ p c ∧ t = { s with spot := ⟨some c, r⟩ }
  | both a b => fun s t => ∃ u, a.Reaches s u ∧ b.Reaches u t
  | either a b => fun s t => a.Reaches s t ∨ b.Reaches s t
  | many _ _ _ a => fun s t => ReflTransGen a.Reaches s t
  | group n a => fun s t =>
    ∃ u, a.Reaches s u ∧ t = { u with groups := (n, s.spot.upTo u.spot) :: u.groups }

-- A step that hands a state on only if there is a way to it.
def Follows (step : State → (State → Option β) → Option β) (R : State → State → Prop) : Prop :=
  ∀ s (k : State → Option β) x, step s k = some x → ∃ t, R s t ∧ k t = some x

variable {step : State → (State → Option β) → Option β} {R : State → State → Prop}

theorem Follows.times (h : Follows step R) (hr : Pattern.times step k n s = some x) :
    ∃ t, ReflTransGen R s t ∧ k t = some x := by
  induction n generalizing s
  case zero => exact ⟨s, .refl, hr⟩
  case succ n ih =>
    obtain ⟨u, hu, hr⟩ := h s _ x hr
    obtain ⟨t, ht, hr⟩ := ih hr
    exact ⟨t, .head hu ht, hr⟩

theorem Follows.upTo {eager : Bool} (h : Follows step R)
    (hr : Pattern.upTo step eager k n s = some x) : ∃ t, ReflTransGen R s t ∧ k t = some x := by
  induction n generalizing s
  case zero => exact ⟨s, .refl, hr⟩
  case succ n ih =>
    have hmore (hr : step s (Pattern.upTo step eager k n) = some x) :
        ∃ t, ReflTransGen R s t ∧ k t = some x := by
      obtain ⟨u, hu, hr⟩ := h s _ x hr
      obtain ⟨t, ht, hr⟩ := ih hr
      exact ⟨t, .head hu ht, hr⟩
    rw [Pattern.upTo] at hr
    split at hr
    all_goals rcases (Option.orElse_eq_some _ _ _).mp hr with hr | ⟨_, hr⟩
    · exact hmore hr
    · exact ⟨s, .refl, hr⟩
    · exact ⟨s, .refl, hr⟩
    · exact hmore hr

theorem exists_reaches (h : p.run s k = some x) : ∃ t, p.Reaches s t ∧ k t = some x := by
  induction p generalizing s k x
  case nothing => exact ⟨s, rfl, h⟩
  case one p =>
    rw [run] at h
    split at h
    case h_1 => cases h
    case h_2 c r hr =>
      split at h
      case isTrue hc => exact ⟨_, ⟨c, r, hr, hc, rfl⟩, h⟩
      case isFalse => cases h
  case look p =>
    rw [run] at h
    split at h
    case isTrue => exact ⟨s, rfl, h⟩
    case isFalse => cases h
  case both a b iha ihb =>
    obtain ⟨u, hu, h⟩ := iha h
    obtain ⟨t, ht, h⟩ := ihb h
    exact ⟨t, ⟨u, hu, ht⟩, h⟩
  case either a b iha ihb =>
    rcases (Option.orElse_eq_some _ _ _).mp h with h | ⟨_, h⟩
    · exact (iha h).imp fun _ ⟨ht, h⟩ => ⟨.inl ht, h⟩
    · exact (ihb h).imp fun _ ⟨ht, h⟩ => ⟨.inr ht, h⟩
  case many least most eager a ih =>
    have hstep : Follows a.run a.Reaches := fun _ _ _ h => ih h
    obtain ⟨u, hu, h⟩ := hstep.times h
    obtain ⟨t, ht, h⟩ := hstep.upTo h
    exact ⟨t, hu.trans ht, h⟩
  case group n a ih =>
    obtain ⟨u, hu, h⟩ := ih h
    exact ⟨_, ⟨u, hu, rfl⟩, h⟩

/-! Groups -/

-- Every part of a pattern whose text is a certain group is one of a kind.
def Grouped (n : Nat) (q : Pattern → Prop) : Pattern → Prop
  | nothing | one _ | look _ => True
  | both a b | either a b => a.Grouped n q ∧ b.Grouped n q
  | many _ _ _ a => a.Grouped n q
  | group m a => (m = n → q a) ∧ a.Grouped n q

-- A pattern of characters of one kind.
def Repeats (f : Char → Bool) (p : Pattern) : Prop :=
  ∃ least most eager, p = many least most eager (one f)

@[simp]
theorem repeats_many {least : Nat} {most : Option Nat} {eager : Bool} :
    Repeats f (many least most eager (one f)) :=
  ⟨least, most, eager, rfl⟩

-- Repetitions of one character go through a text of such characters.
theorem exists_of_many_one (h : ReflTransGen (one f).Reaches s t) :
    ∃ w, s.spot.rest = w ++ t.spot.rest ∧ ∀ c ∈ w, f c := by
  induction h using ReflTransGen.head_induction_on
  case refl => exact ⟨[], rfl, List.forall_mem_nil _⟩
  case head hu _ ih =>
    obtain ⟨c, r, hr, hc, rfl⟩ := hu
    obtain ⟨w, hw, hall⟩ := ih
    refine ⟨c :: w, ?_, List.forall_mem_cons.mpr ⟨hc, hall⟩⟩
    rw [hr, List.cons_append]
    exact congrArg _ hw

theorem Spot.upTo_of_append {s t : Spot} {w : List Char} (h : s.rest = w ++ t.rest) :
    s.upTo t = w := by
  simp [Spot.upTo, h]

-- A group of characters of one kind holds nothing else.
theorem Grouped.of_reaches (hp : p.Grouped n (Repeats f)) (h : p.Reaches s t)
    (hs : ∀ w, (n, w) ∈ s.groups → ∀ c ∈ w, f c) : ∀ w, (n, w) ∈ t.groups → ∀ c ∈ w, f c := by
  induction p generalizing s t
  case nothing => exact h ▸ hs
  case look => exact h ▸ hs
  case one =>
    obtain ⟨_, _, _, _, rfl⟩ := h
    exact hs
  case both a b iha ihb =>
    obtain ⟨u, hu, ht⟩ := h
    exact ihb hp.2 ht (iha hp.1 hu hs)
  case either a b iha ihb =>
    rcases h with h | h
    · exact iha hp.1 h hs
    · exact ihb hp.2 h hs
  case many ih =>
    induction h
    case refl => exact hs
    case tail _ ht ihs => exact ih hp ht ihs
  case group m a ih =>
    obtain ⟨u, hu, rfl⟩ := h
    intro w hw
    rcases List.mem_cons.mp hw with hw | hw
    case inl =>
      obtain ⟨rfl, rfl⟩ := Prod.mk.inj hw
      obtain ⟨_, _, _, rfl⟩ := hp.1 rfl
      obtain ⟨w, hw, hall⟩ := exists_of_many_one hu
      rwa [Spot.upTo_of_append hw]
    case inr => exact ih hp.2 hu hs w hw

@[simp]
theorem grouped_append {q : Pattern → Prop} :
    (a ++ b).Grouped n q ↔ a.Grouped n q ∧ b.Grouped n q :=
  Iff.rfl

@[simp]
theorem grouped_lit {q : Pattern → Prop} {w : String} : (lit w).Grouped n q := by
  rw [lit]
  induction w.toList
  case nil => trivial
  case cons ih => exact ⟨trivial, ih⟩

@[simp]
theorem grouped_anyOf_lit {q : Pattern → Prop} {ws : List String} :
    (anyOf (ws.map lit)).Grouped n q := by
  induction ws
  case nil => trivial
  case cons w ws ih =>
    cases ws
    case nil => exact grouped_lit
    case cons => exact ⟨grouped_lit, ih⟩

/-! Matches -/

theorem exists_of_matchAt? {spot : Spot} {m : Match} (h : p.matchAt? spot = some m) :
    ∃ t, p.Reaches ⟨spot, []⟩ t ∧ m.groups = t.groups := by
  obtain ⟨t, ht, hm⟩ := exists_reaches h
  exact ⟨t, ht, Option.some.inj hm ▸ rfl⟩

theorem exists_of_searchFrom? {last : Option Char} {cs : List Char} {m : Match}
    (h : p.searchFrom? last cs = some m) : ∃ s t, p.Reaches ⟨s, []⟩ t ∧ m.groups = t.groups := by
  induction cs generalizing last
  case nil => exact ⟨_, exists_of_matchAt? h⟩
  case cons c cs ih =>
    rcases (Option.orElse_eq_some _ _ _).mp h with h | ⟨_, h⟩
    · exact ⟨_, exists_of_matchAt? h⟩
    · exact ih h

theorem exists_of_mem_allFrom {spot : Spot} {m : Match} (h : m ∈ p.allFrom n spot) :
    ∃ s t, p.Reaches ⟨s, []⟩ t ∧ m.groups = t.groups := by
  induction n generalizing spot
  case zero => cases h
  case succ n ih =>
    rw [allFrom] at h
    split at h
    case h_1 => cases h
    case h_2 m' hm =>
      have hfirst := exists_of_searchFrom? hm
      split at h
      case isTrue =>
        rcases List.mem_cons.mp h with rfl | h
        · exact hfirst
        · exact ih h
      case isFalse =>
        split at h
        case h_1 => exact List.mem_singleton.mp h ▸ hfirst
        case h_2 =>
          rcases List.mem_cons.mp h with rfl | h
          · exact hfirst
          · exact ih h

-- What a group of a match holds where the group is made of characters of one kind.
theorem Grouped.of_match {m : Match} (hp : p.Grouped n (Repeats f))
    (h : p.Reaches s t) (hs : s.groups = []) (hm : m.groups = t.groups) :
    ∀ c ∈ (m.group n).toList, f c := by
  have hgroups := hp.of_reaches h (fun _ hw => absurd (hs ▸ hw) List.not_mem_nil)
  rw [Match.group, Match.group?, hm]
  cases hl : t.groups.lookup n
  case none => simp
  case some w =>
    obtain ⟨l₁, l₂, hl, _⟩ := List.lookup_eq_some_iff.mp hl
    have hw : (n, w) ∈ t.groups := hl ▸ List.mem_append_right _ (.head _)
    simpa using hgroups w hw

theorem Grouped.of_mem_all {text : String} {m : Match} (hp : p.Grouped n (Repeats f))
    (h : m ∈ p.all text) : ∀ c ∈ (m.group n).toList, f c :=
  have ⟨_, _, ht, hm⟩ := exists_of_mem_allFrom h
  hp.of_match ht rfl hm

theorem Grouped.of_search? {text : String} {m : Match} (hp : p.Grouped n (Repeats f))
    (h : p.search? text = some m) : ∀ c ∈ (m.group n).toList, f c :=
  have ⟨_, _, ht, hm⟩ := exists_of_searchFrom? h
  hp.of_match ht rfl hm

end Pattern

end Refit
