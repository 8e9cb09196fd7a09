import Refit.Proofs.Session.Ends

/-!
What may stop a computation.
-/

namespace Refit

variable {τ α β : Type}

-- A computation that is stopped, if at all, by something with a property.
def StopsBy (P : Stop → Prop) (c : ExceptT Stop (StateM τ) α) : Prop :=
  ∀ s e s', Ends c s (.error e) s' → P e

namespace StopsBy

variable {P Q : Stop → Prop} {c : ExceptT Stop (StateM τ) α}
  {g : α → ExceptT Stop (StateM τ) β} {h : Stop → ExceptT Stop (StateM τ) α} {e : Stop}

theorem mono (hc : StopsBy P c) (hpq : ∀ e, P e → Q e) : StopsBy Q c :=
  fun s e s' h => hpq e (hc s e s' h)

theorem of_pure {x : α} : StopsBy P (pure x : ExceptT Stop (StateM τ) α) := by
  intro s e s' hc
  cases (Ends.pure_iff.mp hc).1

theorem of_throw (he : P e) : StopsBy P (throw e : ExceptT Stop (StateM τ) α) := by
  intro s e' s' hc
  have ⟨hq, _⟩ := Ends.throw_iff.mp hc
  exact Except.error.inj hq ▸ he

theorem of_modify {m : τ → τ} : StopsBy P (modify m : ExceptT Stop (StateM τ) PUnit) := by
  intro s e s' hc
  cases (Ends.modify_iff.mp hc).1

theorem of_get : StopsBy P (get : ExceptT Stop (StateM τ) τ) := by
  intro s e s' hc
  cases (Ends.get_iff.mp hc).1

theorem bind (hc : StopsBy P c) (hg : ∀ x, StopsBy P (g x)) : StopsBy P (c >>= g) := by
  intro s e s' hd
  rcases Ends.bind_iff.mp hd with ⟨a, t, _, h₂⟩ | ⟨_, he, h⟩
  · exact hg a _ _ _ h₂
  · exact Except.error.inj he ▸ hc _ _ _ h

theorem mapM {f : α → ExceptT Stop (StateM τ) β} {xs : List α} (hf : ∀ x, StopsBy P (f x)) :
    StopsBy P (xs.mapM f) := by
  induction xs
  case nil => exact .of_pure
  case cons x xs ih =>
    rw [List.mapM_cons]
    exact .bind (hf x) fun _ => .bind ih fun _ => .of_pure

theorem tryCatch (hc : StopsBy Q c) (hh : ∀ e, Q e → StopsBy P (h e)) :
    StopsBy P (tryCatch c h) := by
  intro s e s' hd
  rcases Ends.tryCatch_iff.mp hd with ⟨a, ha, _⟩ | ⟨e', t, h₁, h₂⟩
  · cases ha
  · exact hh e' (hc _ _ _ h₁) _ _ _ h₂

end StopsBy

end Refit
