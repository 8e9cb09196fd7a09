import Refit.Proofs.Session.Ends

/-!
Pairs of runs: a computation that runs from related states ends with one result, in related states.
-/

namespace Refit

variable {τ α β : Type}

-- From related states a computation does the same, and the states stay related.
def Respects (R : τ → τ → Prop) (c : ExceptT Stop (StateM τ) α) : Prop :=
  ∀ s t r s', R s t → Ends c s r s' → ∃ t', Ends c t r t' ∧ R s' t'

namespace Respects

variable {R : τ → τ → Prop} {c : ExceptT Stop (StateM τ) α} {f : α → ExceptT Stop (StateM τ) β}
  {h : Stop → ExceptT Stop (StateM τ) α} {a : α} {e : Stop}

theorem of_pure : Respects R (pure a : ExceptT Stop (StateM τ) α) := by
  intro s t r s' hR hs
  obtain ⟨rfl, rfl⟩ := Ends.pure_iff.mp hs
  exact ⟨t, Ends.pure_iff.mpr ⟨rfl, rfl⟩, hR⟩

theorem of_throw : Respects R (throw e : ExceptT Stop (StateM τ) α) := by
  intro s t r s' hR hs
  obtain ⟨rfl, rfl⟩ := Ends.throw_iff.mp hs
  exact ⟨t, Ends.throw_iff.mpr ⟨rfl, rfl⟩, hR⟩

theorem of_modify {g : τ → τ} (hg : ∀ s t, R s t → R (g s) (g t)) :
    Respects R (modify g : ExceptT Stop (StateM τ) PUnit) := by
  intro s t r s' hR hs
  obtain ⟨rfl, rfl⟩ := Ends.modify_iff.mp hs
  exact ⟨g t, Ends.modify_iff.mpr ⟨rfl, rfl⟩, hg s t hR⟩

-- What follows may rely on where its argument comes from.
theorem bind_of (hc : Respects R c) (hf : ∀ a s s', Ends c s (.ok a) s' → Respects R (f a)) :
    Respects R (c >>= f) := by
  intro s t r s' hR hs
  rcases Ends.bind_iff.mp hs with ⟨a, u, hu, hf'⟩ | ⟨e, rfl, he⟩
  case inl =>
    obtain ⟨v, hv, hR⟩ := hc s t _ u hR hu
    obtain ⟨t', ht, hR⟩ := hf a s u hu u v r s' hR hf'
    exact ⟨t', (Ends.bind_of_ok hv).mpr ht, hR⟩
  case inr =>
    obtain ⟨t', ht, hR⟩ := hc s t _ s' hR he
    exact ⟨t', Ends.bind_of_error ht, hR⟩

theorem bind (hc : Respects R c) (hf : ∀ a, Respects R (f a)) : Respects R (c >>= f) :=
  hc.bind_of fun a _ _ _ => hf a

theorem throw_bind : Respects R (throw e >>= f) :=
  .bind_of .of_throw fun _ _ _ h => by cases (Ends.throw_iff.mp h).1

-- A computation that looks at its state, and finds the same in related ones.
theorem get_bind {g : τ → ExceptT Stop (StateM τ) β} (heq : ∀ s t, R s t → g s = g t)
    (hg : ∀ s, Respects R (g s)) : Respects R (get >>= g) := by
  intro s t r s' hR hs
  obtain ⟨t', ht, hR'⟩ := hg s s t r s' hR (Ends.get_bind_iff.mp hs)
  exact ⟨t', Ends.get_bind_iff.mpr (heq s t hR ▸ ht), hR'⟩

theorem tryCatch (hc : Respects R c) (hh : ∀ e, Respects R (h e)) :
    Respects R (tryCatch c h) := by
  intro s t r s' hR hs
  rcases Ends.tryCatch_iff.mp hs with ⟨a, rfl, ha⟩ | ⟨e, u, he, hu⟩
  case inl =>
    obtain ⟨t', ht, hR⟩ := hc s t _ s' hR ha
    exact ⟨t', Ends.tryCatch_of_ok ht, hR⟩
  case inr =>
    obtain ⟨v, hv, hR⟩ := hc s t _ u hR he
    obtain ⟨t', ht, hR⟩ := hh e u v r s' hR hu
    exact ⟨t', (Ends.tryCatch_of_error hv).mpr ht, hR⟩

theorem mapM {g : β → ExceptT Stop (StateM τ) α} {xs : List β} (hg : ∀ x ∈ xs, Respects R (g x)) :
    Respects R (xs.mapM g) := by
  induction xs
  case nil => exact .of_pure
  case cons x xs ih =>
    obtain ⟨hx, hxs⟩ := List.forall_mem_cons.mp hg
    rw [List.mapM_cons]
    exact .bind hx fun _ => .bind (ih hxs) fun _ => .of_pure

end Respects

end Refit
