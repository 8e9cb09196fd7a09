import Refit.Proofs.Text.Groups
import Refit.Proofs.Text.Pattern

/-!
Searching for all matches of a pattern: what a pattern has gone through where it goes on, what a
search passes over, and the matches that it finds one after the other.
-/

namespace Refit.Pattern

variable {β : Type} {k : State → Option β} {f : Char → Bool} {x : β} {r s t : List Char} {c : Char}
  {last : Option Char} {gs : List (Nat × List Char)} {p a b : Pattern} {n : Nat}

-- A text of one or more characters of a class.
structure Run (f : Char → Bool) (w : List Char) : Prop where
  some : w ≠ []
  all : ∀ c ∈ w, f c

theorem Run.getLast?_or {w : List Char} (h : Run f w) : w.getLast?.or last = w.getLast? := by
  rw [List.getLast?_eq_getLast_of_ne_nil h.some]
  rfl

-- A name ends where no character of a name follows.
theorem Run.atWordEdge_iff {w : List Char} (h : Run Letter.isWord w) :
    (Spot.mk (w.getLast?.or last) t).atWordEdge ↔ ∀ c ∈ t.head?, ¬Letter.isWord c := by
  have hlast : Letter.isWord (w.getLast h.some) := h.all _ (List.getLast_mem h.some)
  rw [h.getLast?_or, List.getLast?_eq_getLast_of_ne_nil h.some]
  cases t <;> simp [Spot.atWordEdge, hlast]

/-! What a pattern has gone through -/

theorem run_one_iff : (one f).run ⟨⟨last, r⟩, gs⟩ k = some x ↔
    ∃ c t, r = c :: t ∧ f c ∧ k ⟨⟨some c, t⟩, gs⟩ = some x := by
  cases r
  case nil => simp [run]
  case cons c t =>
    rw [run]
    split
    case h_1 h => cases h
    case h_2 h =>
      obtain ⟨rfl, rfl⟩ := List.cons.inj h
      by_cases hc : f c <;> simp [hc]

theorem run_look_iff {q : Spot → Bool} {st : State} :
    (look q).run st k = some x ↔ q st.spot ∧ k st = some x := by
  rw [run]
  split <;> simp_all

theorem run_lit_iff {w : String} : (lit w).run ⟨⟨last, r⟩, gs⟩ k = some x ↔
    ∃ t, r = w.toList ++ t ∧ k ⟨⟨w.toList.getLast?.or last, t⟩, gs⟩ = some x := by
  constructor
  case mpr =>
    rintro ⟨t, rfl, h⟩
    exact run_lit.trans h
  case mp =>
    rw [lit]
    induction w.toList generalizing last r
    case nil => exact fun h => ⟨r, rfl, h⟩
    case cons c w ih =>
      intro h
      rw [List.foldr_cons, run, char, run_one_iff] at h
      obtain ⟨d, t, rfl, hd, h⟩ := h
      obtain rfl := eq_of_beq hd
      obtain ⟨u, rfl, hu⟩ := ih h
      exact ⟨u, rfl, by simpa [List.getLast?_cons] using hu⟩

theorem exists_of_upTo {eager : Bool} (h : upTo (one f).run eager k n ⟨⟨last, r⟩, gs⟩ = some x) :
    ∃ w t, r = w ++ t ∧ (∀ c ∈ w, f c) ∧ k ⟨⟨w.getLast?.or last, t⟩, gs⟩ = some x := by
  induction n generalizing last r
  case zero => exact ⟨[], r, rfl, List.forall_mem_nil _, h⟩
  case succ n ih =>
    have hnone (h : k ⟨⟨last, r⟩, gs⟩ = some x) : ∃ w t, r = w ++ t ∧ (∀ c ∈ w, f c) ∧
        k ⟨⟨w.getLast?.or last, t⟩, gs⟩ = some x :=
      ⟨[], r, rfl, List.forall_mem_nil _, h⟩
    have hmore (h : (one f).run ⟨⟨last, r⟩, gs⟩ (upTo (one f).run eager k n) = some x) :
        ∃ w t, r = w ++ t ∧ (∀ c ∈ w, f c) ∧ k ⟨⟨w.getLast?.or last, t⟩, gs⟩ = some x := by
      obtain ⟨c, t, rfl, hc, h⟩ := run_one_iff.mp h
      obtain ⟨w, u, rfl, hw, hu⟩ := ih h
      refine ⟨c :: w, u, rfl, List.forall_mem_cons.mpr ⟨hc, hw⟩, ?_⟩
      simpa [List.getLast?_cons] using hu
    rw [upTo] at h
    split at h
    all_goals rcases (Option.orElse_eq_some _ _ _).mp h with h | ⟨_, h⟩
    · exact hmore h
    · exact hnone h
    · exact hnone h
    · exact hmore h

theorem exists_of_star (h : (star (one f)).run ⟨⟨last, r⟩, gs⟩ k = some x) :
    ∃ w t, r = w ++ t ∧ (∀ c ∈ w, f c) ∧ k ⟨⟨w.getLast?.or last, t⟩, gs⟩ = some x :=
  exists_of_upTo h

theorem exists_of_repeated {eager : Bool}
    (h : (many 1 none eager (one f)).run ⟨⟨last, r⟩, gs⟩ k = some x) :
    ∃ w t, r = w ++ t ∧ Run f w ∧ k ⟨⟨w.getLast?, t⟩, gs⟩ = some x := by
  change (one f).run ⟨⟨last, r⟩, gs⟩ (fun u => upTo (one f).run eager k u.spot.rest.length u) = _ at h
  obtain ⟨c, t, rfl, hc, h⟩ := run_one_iff.mp h
  obtain ⟨w, u, rfl, hw, hu⟩ := exists_of_upTo h
  refine ⟨c :: w, u, rfl, ⟨by simp, List.forall_mem_cons.mpr ⟨hc, hw⟩⟩, ?_⟩
  simpa [List.getLast?_cons] using hu

theorem exists_of_plus (h : (plus (one f)).run ⟨⟨last, r⟩, gs⟩ k = some x) :
    ∃ w t, r = w ++ t ∧ Run f w ∧ k ⟨⟨w.getLast?, t⟩, gs⟩ = some x :=
  exists_of_repeated h

theorem exists_of_plusLazy (h : (plusLazy (one f)).run ⟨⟨last, r⟩, gs⟩ k = some x) :
    ∃ w t, r = w ++ t ∧ Run f w ∧ k ⟨⟨w.getLast?, t⟩, gs⟩ = some x :=
  exists_of_repeated h

theorem exists_of_anyOf {ps : List Pattern} {st : State} (h : (anyOf ps).run st k = some x) :
    ∃ p ∈ ps, p.run st k = some x := by
  induction ps
  case nil => cases h
  case cons p ps ih =>
    cases ps
    case nil => exact ⟨p, .head _, h⟩
    case cons q qs =>
      rcases (Option.orElse_eq_some _ _ _).mp h with h | ⟨_, h⟩
      · exact ⟨p, .head _, h⟩
      · exact (ih h).imp fun _ ⟨hp, h⟩ => ⟨.tail _ hp, h⟩

theorem exists_of_starLazy (h : (starLazy (one f)).run ⟨⟨last, r⟩, gs⟩ k = some x) :
    ∃ w t, r = w ++ t ∧ (∀ c ∈ w, f c) ∧ k ⟨⟨w.getLast?.or last, t⟩, gs⟩ = some x :=
  exists_of_upTo h

theorem run_opt_some {st : State} (h : (opt a).run st k = some x) :
    a.run st k = some x ∨ k st = some x := by
  change upTo a.run true k 1 st = some x at h
  rw [upTo] at h
  exact ((Option.orElse_eq_some _ _ _).mp h).imp_right And.right

theorem run_opt_of_some {st : State} (h : a.run st k = some x) : (opt a).run st k = some x := by
  change upTo a.run true k 1 st = some x
  simpa [upTo] using Or.inl h

theorem run_star_one (hs : ∀ c ∈ s, f c) (ht : ∀ c ∈ t.head?, ¬f c)
    (hk : k ⟨⟨s.getLast?.or last, t⟩, gs⟩ = some x) :
    (star (one f)).run ⟨⟨last, s ++ t⟩, gs⟩ k = some x :=
  upTo_one_eager hs ht (by simp) hk

-- Greedy repetition of nothing, where what follows can go on here and nowhere later.
theorem upTo_one_here (ht : ∀ c ∈ t.head?, ¬f c) (hx : k ⟨⟨last, s ++ t⟩, gs⟩ = some x)
    (hlast : ∀ last v w, s = v ++ w → v ≠ [] → k ⟨⟨last, w ++ t⟩, gs⟩ = none) :
    upTo (one f).run true k n ⟨⟨last, s ++ t⟩, gs⟩ = some x := by
  cases n
  case zero => exact hx
  case succ n =>
    have hnone : (one f).run ⟨⟨last, s ++ t⟩, gs⟩ (upTo (one f).run true k n) = none := by
      by_contra hne
      obtain ⟨y, hy⟩ := Option.ne_none_iff_exists'.mp hne
      obtain ⟨c, r, hr, hc, hy⟩ := run_one_iff.mp hy
      obtain ⟨w, t', rfl, hw, hk⟩ := exists_of_upTo hy
      rcases List.append_eq_append_iff.mp (hr.trans (List.cons_append ..).symm) with
        ⟨a, hsplit, rfl⟩ | ⟨a, rfl, rfl⟩
      case inl =>
        cases a
        case nil =>
          rw [List.append_nil] at hsplit
          exact Option.some_ne_none y (hk.symm.trans (hlast _ s [] (by simp) (by simp [← hsplit])))
        case cons d a =>
          have hall : ∀ x ∈ c :: w, f x := List.forall_mem_cons.mpr ⟨hc, hw⟩
          exact ht d rfl (hall d (by simp [hsplit]))
      case inr =>
        exact Option.some_ne_none y (hk.symm.trans (hlast _ (c :: w) a rfl (by simp)))
    simpa [upTo, hnone] using hx

-- Greedy repetition stops at the last place from which what follows can go on.
theorem run_star_last {u : List Char} (hs : ∀ c ∈ s, f c) (ht : ∀ c ∈ t.head?, ¬f c)
    (hx : k ⟨⟨s.getLast?.or last, u ++ t⟩, gs⟩ = some x)
    (hlast : ∀ last v w, u = v ++ w → v ≠ [] → k ⟨⟨last, w ++ t⟩, gs⟩ = none) :
    (star (one f)).run ⟨⟨last, s ++ (u ++ t)⟩, gs⟩ k = some x := by
  suffices hupTo : ∀ n, s.length ≤ n →
      upTo (one f).run true k n ⟨⟨last, s ++ (u ++ t)⟩, gs⟩ = some x from hupTo _ (by simp)
  induction s generalizing last
  case nil => exact fun n _ => upTo_one_here (s := u) ht hx hlast
  case cons c s ih =>
    intro n hn
    cases n
    case zero => simp at hn
    case succ n =>
      have hrest : upTo (one f).run true k n ⟨⟨some c, s ++ (u ++ t)⟩, gs⟩ = some x :=
        ih (fun d hd => hs d (.tail _ hd)) (by simpa [List.getLast?_cons] using hx) n
          (by simpa using hn)
      simp [upTo, run_one_cons (hs c (.head _)), hrest]

/-! What a pattern does not go through -/

-- A repetition of what cannot be there is passed over.
theorem run_many_of_none {least : Nat} {most : Option Nat} {eager : Bool} {st : State}
    (hleast : least = 0) (h : ∀ k : State → Option β, a.run st k = none) :
    (many least most eager a).run st k = k st := by
  subst hleast
  rw [run, times]
  generalize (most.map (· - 0)).getD st.spot.rest.length = n
  cases n
  case zero => rfl
  case succ n => cases eager <;> simp [upTo, h]

theorem run_lit_of_not_prefix {w : String} (h : ¬w.toList <+: r) :
    (lit w).run ⟨⟨last, r⟩, gs⟩ k = none := by
  by_contra hx
  obtain ⟨x, hx⟩ := Option.ne_none_iff_exists'.mp hx
  obtain ⟨t, rfl, _⟩ := run_lit_iff.mp hx
  exact h (List.prefix_append _ _)

theorem run_plus_of_head (h : ∀ c ∈ s.head?, ¬f c) :
    (plus (one f)).run ⟨⟨last, s⟩, gs⟩ k = none :=
  run_one_of_head h

theorem run_both_of_none {st : State} (h : ∀ k : State → Option β, a.run st k = none) :
    (a ++ b).run st k = none :=
  h _

theorem run_either_of_none {st : State} (ha : a.run st k = none) :
    (either a b).run st k = b.run st k := by
  rw [run, ha]
  rfl

theorem run_either_of_some {st : State} (ha : a.run st k = some x) :
    (either a b).run st k = some x := by
  rw [run, ha]
  rfl

-- Of words none of which begins another, the one that stands there is taken.
theorem run_anyOf_lit {ws : List String} {w : String} (h : w ∈ ws)
    (hone : ∀ v ∈ ws, v.toList <+: w.toList ++ t → v = w)
    (hk : k ⟨⟨w.toList.getLast?.or last, t⟩, gs⟩ = some x) :
    (anyOf (ws.map lit)).run ⟨⟨last, w.toList ++ t⟩, gs⟩ k = some x := by
  induction ws
  case nil => cases h
  case cons v vs ih =>
    have hhere : v = w → (lit v).run ⟨⟨last, w.toList ++ t⟩, gs⟩ k = some x := by
      rintro rfl
      exact run_lit.trans hk
    have hrest (hne : v ≠ w) (hmem : w ∈ vs) :
        (either (lit v) (anyOf (vs.map lit))).run ⟨⟨last, w.toList ++ t⟩, gs⟩ k = some x := by
      have hnone : (lit v).run ⟨⟨last, w.toList ++ t⟩, gs⟩ k = none :=
        run_lit_of_not_prefix fun hp => hne (hone v (.head _) hp)
      rw [run_either_of_none hnone]
      exact ih hmem fun u hu => hone u (.tail _ hu)
    by_cases hv : v = w
    case pos =>
      cases vs
      case nil => exact hhere hv
      case cons => exact run_either_of_some (hhere hv)
    case neg =>
      have hmem : w ∈ vs := (List.mem_cons.mp h).resolve_left (Ne.symm hv)
      cases vs
      case nil => cases hmem
      case cons => exact hrest hv hmem

-- Repetition goes through once where it can, and no second time.
theorem run_star_once {st u : State} (hne : st.spot.rest ≠ [])
    (hrun : ∀ {k : State → Option β}, k u = some x → a.run st k = some x)
    (hstop : ∀ k : State → Option β, a.run u k = none) (hk : k u = some x) :
    (star a).run st k = some x := by
  have hmore {n : Nat} : upTo a.run true k n u = some x := by
    cases n
    case zero => exact hk
    case succ n => simpa [upTo, hstop] using hk
  rw [star, run, times]
  obtain ⟨c, r, hr⟩ := List.exists_cons_of_ne_nil hne
  simp [hr, upTo, hrun hmore]

/-! Reluctant repetition -/

-- Reluctant repetition takes a text if what follows cannot go on from any place before its end.
theorem upTo_one_lazy (hs : ∀ c ∈ s, f c) (hn : s.length ≤ n)
    (hk : ∀ u v, s = u ++ v → v ≠ [] → k ⟨⟨u.getLast?.or last, v ++ t⟩, gs⟩ = none)
    (hx : k ⟨⟨s.getLast?.or last, t⟩, gs⟩ = some x) :
    upTo (one f).run false k n ⟨⟨last, s ++ t⟩, gs⟩ = some x := by
  induction s generalizing n last
  case nil => cases n <;> simp_all [upTo]
  case cons c s ih =>
    cases n
    case zero => simp at hn
    case succ n =>
      have hrest := @ih (some c) n (fun d hd => hs d (.tail _ hd)) (by simpa using hn)
        (fun u v hv hne => by
          have h := hk (c :: u) v (by simp [hv]) hne
          simpa [List.getLast?_cons] using h)
        (by simpa [List.getLast?_cons] using hx)
      have hnone : k ⟨⟨last, c :: (s ++ t)⟩, gs⟩ = none := hk [] (c :: s) rfl (by simp)
      simp [upTo, hnone, run_one_cons (hs c (.head _)), hrest]

theorem run_starLazy_one (hs : ∀ c ∈ s, f c)
    (hk : ∀ u v, s = u ++ v → v ≠ [] → k ⟨⟨u.getLast?.or last, v ++ t⟩, gs⟩ = none)
    (hx : k ⟨⟨s.getLast?.or last, t⟩, gs⟩ = some x) :
    (starLazy (one f)).run ⟨⟨last, s ++ t⟩, gs⟩ k = some x :=
  upTo_one_lazy hs (by simp) hk hx

theorem run_plusLazy_one (hs : Run f s)
    (hk : ∀ u v, s = u ++ v → u ≠ [] → v ≠ [] → k ⟨⟨u.getLast?, v ++ t⟩, gs⟩ = none)
    (hx : k ⟨⟨s.getLast?, t⟩, gs⟩ = some x) :
    (plusLazy (one f)).run ⟨⟨last, s ++ t⟩, gs⟩ k = some x := by
  obtain ⟨c, s, rfl⟩ := List.exists_cons_of_ne_nil hs.some
  obtain ⟨hc, hs⟩ := List.forall_mem_cons.mp hs.all
  refine (run_one_cons hc).trans (upTo_one_lazy hs (by simp) (fun u v huv hv => ?_) ?_)
  · simpa [List.getLast?_cons] using hk (c :: u) v (by simp [huv]) (by simp) hv
  · simpa [List.getLast?_cons] using hx

/-! Passing over a text -/

-- No match begins in `s`, when `t` follows.
def Quiet (p : Pattern) (last : Option Char) (s t : List Char) : Prop :=
  ∀ u v, s = u ++ v → v ≠ [] → p.matchAt? ⟨u.getLast?.or last, v ++ t⟩ = none

namespace Quiet

theorem nil : Quiet p last [] t := by
  intro u v h hv
  simp_all

theorem cons_iff : Quiet p last (c :: s) t ↔
    p.matchAt? ⟨last, c :: (s ++ t)⟩ = none ∧ Quiet p (some c) s t := by
  constructor
  · intro h
    refine ⟨h [] (c :: s) rfl (by simp), fun u v hs hv => ?_⟩
    simpa [List.getLast?_cons] using h (c :: u) v (by simp [hs]) hv
  · rintro ⟨hc, h⟩ u v hs hv
    cases u
    case nil => simpa [← show c :: s = v from hs] using hc
    case cons d u =>
      obtain ⟨rfl, hrest⟩ := List.cons.inj hs
      simpa [List.getLast?_cons] using h u v hrest hv

theorem append {a : List Char} (hs : Quiet p last s (a ++ t))
    (ha : Quiet p (s.getLast?.or last) a t) : Quiet p last (s ++ a) t := by
  induction s generalizing last
  case nil => exact ha
  case cons c s ih =>
    obtain ⟨hc, hs⟩ := cons_iff.mp hs
    refine cons_iff.mpr ⟨by simpa using hc, ih hs ?_⟩
    simpa [List.getLast?_cons] using ha

theorem searchFrom? (h : Quiet p last s t) :
    p.searchFrom? last (s ++ t) = p.searchFrom? (s.getLast?.or last) t := by
  induction s generalizing last
  case nil => rfl
  case cons c s ih =>
    obtain ⟨hc, hs⟩ := cons_iff.mp h
    simp [Pattern.searchFrom?, hc, ih hs, List.getLast?_cons]

end Quiet

-- A text is passed over if no match can begin where one of its characters stands.
theorem quiet_of_forall
    (h : ∀ u c v, s = u ++ c :: v → p.matchAt? ⟨u.getLast?.or last, c :: (v ++ t)⟩ = none) :
    Quiet p last s t := by
  intro u v hs hv
  cases v
  case nil => contradiction
  case cons c v => exact h u c v hs

theorem searchFrom?_of_matchAt? {m : Match} (h : p.matchAt? ⟨last, r⟩ = some m) :
    p.searchFrom? last r = some m := by
  cases r <;> simp [searchFrom?, h]

theorem exists_of_occurs {w : String} (h : p.occurs w) :
    ∃ u v, w.toList = u ++ v ∧ (p.matchAt? ⟨u.getLast?, v⟩).isSome := by
  have hfrom : ∀ r last, (p.searchFrom? last r).isSome →
      ∃ u v, r = u ++ v ∧ (p.matchAt? ⟨u.getLast?.or last, v⟩).isSome := by
    intro r
    induction r
    case nil => exact fun last h => ⟨[], [], rfl, h⟩
    case cons c r ih =>
      intro last h
      rw [searchFrom?] at h
      cases hm : p.matchAt? ⟨last, c :: r⟩
      case some m => exact ⟨[], c :: r, rfl, by simp [hm]⟩
      case none =>
        rw [hm] at h
        obtain ⟨u, v, rfl, hv⟩ := ih (some c) h
        exact ⟨c :: u, v, rfl, by simpa [List.getLast?_cons] using hv⟩
  simpa using hfrom w.toList none h

theorem occurs_of_matchAt? {w : String} {u v : List Char} (hw : w.toList = u ++ v)
    (h : (p.matchAt? ⟨u.getLast?, v⟩).isSome) : p.occurs w := by
  rw [occurs, search?, hw]
  have hfrom : ∀ u last, (p.matchAt? ⟨u.getLast?.or last, v⟩).isSome →
      (p.searchFrom? last (u ++ v)).isSome := by
    intro u
    induction u
    case nil =>
      intro last h
      obtain ⟨m, hm⟩ := Option.isSome_iff_exists.mp h
      exact Option.isSome_iff_exists.mpr ⟨m, searchFrom?_of_matchAt? hm⟩
    case cons c u ih =>
      intro last h
      have hrest := ih (some c) (by simpa [List.getLast?_cons] using h)
      rw [List.cons_append, searchFrom?]
      cases p.matchAt? ⟨last, c :: (u ++ v)⟩
      case some => rfl
      case none => exact hrest
  exact hfrom u none (by simpa using h)

/-! All matches -/

-- The matches of a pattern from a spot on, none of which is empty.
inductive Finds (p : Pattern) : Spot → List Match → Prop where
  | done {s : Spot} (h : p.searchFrom? s.last s.rest = none) : Finds p s []
  | next {s : Spot} {m : Match} {ms : List Match} (h : p.searchFrom? s.last s.rest = some m)
      (hshort : m.stop.rest.length < m.start.rest.length) (hms : Finds p m.stop ms) :
      Finds p s (m :: ms)

theorem length_of_searchFrom? {m : Match} (h : p.searchFrom? last r = some m) :
    m.start.rest.length ≤ r.length := by
  have hstart {last : Option Char} {r : List Char} (h : p.matchAt? ⟨last, r⟩ = some m) :
      m.start.rest = r := by
    obtain ⟨t, _, ht⟩ := exists_reaches h
    rw [← Option.some.inj ht]
  induction r generalizing last
  case nil => rw [hstart h]
  case cons c r ih =>
    rcases (Option.orElse_eq_some _ _ _).mp h with h | ⟨_, h⟩
    · rw [hstart h]
    · exact (ih h).trans (by simp)

namespace Finds

variable {ms : List Match}

theorem allFrom_eq {s : Spot} (h : Finds p s ms) (hn : s.rest.length < n) : p.allFrom n s = ms := by
  induction h generalizing n
  case done h =>
    cases n
    case zero => cases hn
    case succ n => rw [allFrom, h]
  case next h hshort _ ih =>
    cases n
    case zero => cases hn
    case succ n =>
      have := length_of_searchFrom? h
      rw [allFrom, h]
      simp only [hshort, if_true]
      rw [ih (by omega)]

theorem all_eq {w : String} (h : Finds p ⟨none, w.toList⟩ ms) : p.all w = ms :=
  h.allFrom_eq (Nat.lt_succ_self _)

theorem skip (h : Quiet p last s t) (hm : Finds p ⟨s.getLast?.or last, t⟩ ms) :
    Finds p ⟨last, s ++ t⟩ ms :=
  match hm with
  | .done hnone => .done (h.searchFrom?.trans hnone)
  | .next hsome hshort hms => .next (h.searchFrom?.trans hsome) hshort hms

-- The rest of a text that is passed over.
theorem of_quiet (h : Quiet p last s []) (hend : p.matchAt? ⟨s.getLast?.or last, []⟩ = none) :
    Finds p ⟨last, s⟩ [] := by
  refine .done ?_
  have hs := h.searchFrom?
  rw [List.append_nil] at hs
  rw [hs, searchFrom?, hend]

theorem here {m : Match} (h : p.matchAt? ⟨last, r⟩ = some m) (hshort : m.stop.rest.length < r.length)
    (hms : Finds p m.stop ms) : Finds p ⟨last, r⟩ (m :: ms) := by
  have hstart : m.start = ⟨last, r⟩ := by
    obtain ⟨t, _, ht⟩ := exists_reaches h
    rw [← Option.some.inj ht]
  exact .next (searchFrom?_of_matchAt? h) (by rw [hstart]; exact hshort) hms

end Finds

end Refit.Pattern
