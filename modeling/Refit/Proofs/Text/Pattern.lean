import Refit.Text.Pattern

/-!
What patterns find, by the text at the spot where they are tried.
-/

namespace Refit.Pattern

variable {β : Type} {k : State → Option β} {p : Char → Bool} {x : β} {s t : List Char} {c : Char}
  {last : Option Char} {groups : List (Nat × List Char)}

theorem run_append {a b : Pattern} {st : State} :
    (a ++ b).run st k = a.run st fun t => b.run t k :=
  rfl

theorem run_group {n : Nat} {a : Pattern} {st : State} :
    (group n a).run st k =
      a.run st fun t => k { t with groups := (n, st.spot.upTo t.spot) :: t.groups } :=
  rfl

theorem run_one_cons (h : p c) :
    (one p).run ⟨⟨last, c :: s⟩, groups⟩ k = k ⟨⟨some c, s⟩, groups⟩ := by
  simp [run, h]

theorem run_one_of_head (h : ∀ c ∈ s.head?, ¬p c) : (one p).run ⟨⟨last, s⟩, groups⟩ k = none := by
  cases s <;> simp_all [run]

theorem run_lit {w : String} :
    (lit w).run ⟨⟨last, w.toList ++ t⟩, groups⟩ k = k ⟨⟨w.toList.getLast?.or last, t⟩, groups⟩ := by
  rw [lit]
  induction w.toList generalizing last
  case nil => rfl
  case cons c w hi =>
    rw [List.foldr_cons, List.cons_append, run, char, run_one_cons (by simp), hi]
    simp [List.getLast?_cons]

-- Eager repetition takes all the characters of its class, if what follows can go on from there.
theorem upTo_one_eager {n : Nat} (hs : ∀ c ∈ s, p c) (ht : ∀ c ∈ t.head?, ¬p c)
    (hn : s.length ≤ n) (hk : k ⟨⟨s.getLast?.or last, t⟩, groups⟩ = some x) :
    upTo (one p).run true k n ⟨⟨last, s ++ t⟩, groups⟩ = some x := by
  induction s generalizing n last
  case nil =>
    cases n
    case zero => exact hk
    case succ n => simpa [upTo, run_one_of_head ht] using hk
  case cons c s hi =>
    cases n
    case zero => simp at hn
    case succ n =>
      have hk : k ⟨⟨s.getLast?.or (some c), t⟩, groups⟩ = some x := by
        simpa [List.getLast?_cons] using hk
      have hi := hi (fun c h => hs c (List.mem_cons_of_mem _ h)) (by simpa using hn) hk
      simp [upTo, run_one_cons (hs c (by simp)), hi]

theorem run_plus_one (hs : ∀ c ∈ s, p c) (hn : s ≠ []) (ht : ∀ c ∈ t.head?, ¬p c)
    (hk : k ⟨⟨s.getLast?, t⟩, groups⟩ = some x) :
    (plus (one p)).run ⟨⟨last, s ++ t⟩, groups⟩ k = some x := by
  cases s
  case nil => contradiction
  case cons c s =>
    have hk : k ⟨⟨s.getLast?.or (some c), t⟩, groups⟩ = some x := by
      simpa [List.getLast?_cons] using hk
    simp only [plus, run, times, List.cons_append, hs c (by simp), if_true, Option.map_none,
      Option.getD_none]
    exact upTo_one_eager (fun c h => hs c (List.mem_cons_of_mem _ h)) ht (by simp) hk

theorem run_opt_char :
    (opt (char c)).run ⟨⟨last, c :: t⟩, groups⟩ k =
      (k ⟨⟨some c, t⟩, groups⟩ <|> k ⟨⟨last, c :: t⟩, groups⟩) := by
  simp [opt, char, run, times, upTo]

theorem upTo_spot_append {last' : Option Char} : (Spot.mk last (s ++ t)).upTo ⟨last', t⟩ = s := by
  simp [Spot.upTo]

theorem search?_of_matchAt? {p : Pattern} {m : Match} {s : String}
    (h : p.matchAt? ⟨none, s.toList⟩ = some m) : p.search? s = some m := by
  rw [search?]
  cases hs : s.toList <;> simp_all [searchFrom?]

end Refit.Pattern
