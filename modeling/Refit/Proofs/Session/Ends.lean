import Mathlib.Data.List.Basic
import Refit.Proofs.Datum.Basic
import Refit.Rebuild.Run

/-!
What actions do: how they end, and the states that they lead to.

Changes of the disk, actions of a session and work on projects are all computations on a state that
may be stopped, so they share what is said of them here.
-/

namespace Refit

variable {τ α β : Type}

-- A computation ends with a result in a state.
def Ends (c : ExceptT Stop (StateM τ) α) (s : τ) (r : Except Stop α) (s' : τ) : Prop :=
  (ExceptT.run c).run s = (r, s')

-- However a computation ends, its state is related to the one it started from.
def Stays (R : τ → τ → Prop) (c : ExceptT Stop (StateM τ) α) : Prop :=
  ∀ s r s', Ends c s r s' → R s s'

variable {c : ExceptT Stop (StateM τ) α} {f : α → ExceptT Stop (StateM τ) β}
  {h : Stop → ExceptT Stop (StateM τ) α} {s s' t : τ} {a : α} {b : β} {e : Stop}

namespace Ends

variable {r : Except Stop α} {q : Except Stop β}

theorem exists_ends (c : ExceptT Stop (StateM τ) α) (s : τ) : ∃ r s', Ends c s r s' :=
  ⟨_, _, rfl⟩

theorem unique {r' : Except Stop α} (h₁ : Ends c s r s') (h₂ : Ends c s r' t) :
    r = r' ∧ s' = t :=
  Prod.mk.inj (h₁.symm.trans h₂)

theorem of_run {r' : Except Stop α} (hr : (ExceptT.run c).run s = (r', t)) :
    Ends c s r s' ↔ r = r' ∧ s' = t := by
  rw [Ends, hr, Prod.mk.injEq, eq_comm, eq_comm (a := t)]

-- A computation that runs another one is opened on both sides of its statement.
theorem iff_eqs :
    Ends c s r s' ↔ ((ExceptT.run c).run s).1 = r ∧ ((ExceptT.run c).run s).2 = s' :=
  Prod.ext_iff

theorem pure_iff {x : α} : Ends (pure x) s r s' ↔ r = .ok x ∧ s' = s :=
  of_run rfl

theorem pure_ok_iff {x : α} : Ends (pure x) s (.ok a) s' ↔ a = x ∧ s' = s := by
  rw [pure_iff, Except.ok.injEq]

theorem throw_iff : Ends (throw e : ExceptT Stop (StateM τ) α) s r s' ↔ r = .error e ∧ s' = s :=
  of_run rfl

theorem get_iff {r : Except Stop τ} :
    Ends (get : ExceptT Stop (StateM τ) τ) s r s' ↔ r = .ok s ∧ s' = s :=
  of_run rfl

theorem modify_iff {g : τ → τ} {r : Except Stop PUnit} :
    Ends (modify g : ExceptT Stop (StateM τ) PUnit) s r s' ↔ r = .ok ⟨⟩ ∧ s' = g s :=
  of_run rfl

theorem bind_of_ok (hc : Ends c s (.ok a) t) : Ends (c >>= f) s q s' ↔ Ends (f a) t q s' := by
  rw [Ends, ExceptT.run_bind, StateT.run_bind, show (ExceptT.run c).run s = _ from hc]
  rfl

theorem bind_of_error (hc : Ends c s (.error e) s') : Ends (c >>= f) s (.error e) s' := by
  rw [Ends, ExceptT.run_bind, StateT.run_bind, show (ExceptT.run c).run s = _ from hc]
  rfl

theorem bind_iff : Ends (c >>= f) s q s' ↔
    (∃ a t, Ends c s (.ok a) t ∧ Ends (f a) t q s') ∨
      ∃ e, q = .error e ∧ Ends c s (.error e) s' := by
  constructor
  case mp =>
    intro h
    have ⟨r, t, hc⟩ := exists_ends c s
    cases r
    case ok a => exact .inl ⟨a, t, hc, (bind_of_ok hc).mp h⟩
    case error e =>
      have ⟨hq, ht⟩ := h.unique (bind_of_error hc)
      exact .inr ⟨e, hq, ht ▸ hc⟩
  case mpr =>
    rintro (⟨a, t, hc, hf⟩ | ⟨e, rfl, hc⟩)
    · exact (bind_of_ok hc).mpr hf
    · exact bind_of_error hc

theorem bind_ok_iff : Ends (c >>= f) s (.ok b) s' ↔
    ∃ a t, Ends c s (.ok a) t ∧ Ends (f a) t (.ok b) s' := by
  simp [bind_iff]

theorem get_bind_iff {g : τ → ExceptT Stop (StateM τ) β} :
    Ends (get >>= g) s q s' ↔ Ends (g s) s q s' :=
  bind_of_ok (get_iff.mpr ⟨rfl, rfl⟩)

-- What is done for each item of a list is done for every one of them.
theorem exists_of_forM {xs : List β} {g : β → ExceptT Stop (StateM τ) PUnit} {x : β}
    (h : Ends (xs.forM g) s (.ok ⟨⟩) s') (hx : x ∈ xs) : ∃ t t', Ends (g x) t (.ok ⟨⟩) t' := by
  induction xs generalizing s
  case nil => cases hx
  case cons y ys ih =>
    obtain ⟨_, t, hy, h⟩ := bind_ok_iff.mp h
    rcases List.mem_cons.mp hx with rfl | hx
    · exact ⟨_, _, hy⟩
    · exact ih h hx

-- What follows a check that did not stop.
theorem of_checked {p : Prop} [Decidable p] {g : PUnit → ExceptT Stop (StateM τ) β}
    (hp : Ends (if p then throw e >>= g else g ⟨⟩) s (.ok b) s') : Ends (g ⟨⟩) s (.ok b) s' := by
  split at hp
  case isTrue =>
    obtain ⟨_, _, hthrow, _⟩ := bind_ok_iff.mp hp
    cases (throw_iff.mp hthrow).1
  case isFalse => exact hp

theorem tryCatch_of_ok (hc : Ends c s (.ok a) s') : Ends (tryCatch c h) s (.ok a) s' := by
  rw [Ends, ExceptT.run_tryCatch, StateT.run_bind, show (ExceptT.run c).run s = _ from hc]
  rfl

theorem tryCatch_of_error (hc : Ends c s (.error e) t) :
    Ends (tryCatch c h) s r s' ↔ Ends (h e) t r s' := by
  rw [Ends, ExceptT.run_tryCatch, StateT.run_bind, show (ExceptT.run c).run s = _ from hc]
  rfl

theorem tryCatch_iff : Ends (tryCatch c h) s r s' ↔
    (∃ a, r = .ok a ∧ Ends c s (.ok a) s') ∨
      ∃ e t, Ends c s (.error e) t ∧ Ends (h e) t r s' := by
  constructor
  case mp =>
    intro hd
    have ⟨rc, t, hc⟩ := exists_ends c s
    cases rc
    case ok a =>
      have ⟨hr, ht⟩ := hd.unique (tryCatch_of_ok hc)
      exact .inl ⟨a, hr, ht ▸ hc⟩
    case error e => exact .inr ⟨e, t, hc, (tryCatch_of_error hc).mp hd⟩
  case mpr =>
    rintro (⟨a, rfl, hc⟩ | ⟨e, t, hc, hd⟩)
    · exact tryCatch_of_ok hc
    · exact (tryCatch_of_error hc).mpr hd

-- A computation whose trouble is reported in other words.
theorem mapError_iff {g : Stop → Stop} :
    Ends (ExceptT.mk do return (← ExceptT.run c).mapError g) s r s' ↔
      ∃ q, Ends c s q s' ∧ r = q.mapError g := by
  constructor
  · intro h
    have ⟨hr, hs⟩ := iff_eqs.mp h
    exact ⟨_, iff_eqs.mpr ⟨rfl, hs⟩, hr.symm⟩
  · rintro ⟨q, h, rfl⟩
    have ⟨hq, hs⟩ := iff_eqs.mp h
    exact iff_eqs.mpr ⟨congrArg (Except.mapError g) hq, hs⟩

theorem mapError_ok_iff {g : Stop → Stop} :
    Ends (ExceptT.mk do return (← ExceptT.run c).mapError g) s (.ok a) s' ↔
      Ends c s (.ok a) s' := by
  rw [mapError_iff]
  constructor
  · rintro ⟨q, h, hq⟩
    exact mapError_eq_ok.mp hq.symm ▸ h
  · exact fun h => ⟨_, h, rfl⟩

-- Whether a computation returns something with a property, by running it.
def returnsWith (c : ExceptT Stop (StateM τ) α) (s : τ) (p : α → τ → Bool) : Bool :=
  match (ExceptT.run c).run s with
  | (.ok a, s') => p a s'
  | (.error _, _) => false

theorem of_returnsWith {p : α → τ → Bool} (hp : returnsWith c s p) :
    ∃ a s', Ends c s (.ok a) s' ∧ p a s' := by
  rw [returnsWith] at hp
  split at hp
  case h_1 a s' hrun => exact ⟨a, s', hrun, hp⟩
  case h_2 => cases hp

end Ends

namespace Stays

variable {R : τ → τ → Prop}

theorem of_pure (hr : ∀ s, R s s) {a : α} : Stays R (pure a : ExceptT Stop (StateM τ) α) := by
  intro s r s' h
  exact (Ends.pure_iff.mp h).2 ▸ hr s

theorem of_throw (hr : ∀ s, R s s) : Stays R (throw e : ExceptT Stop (StateM τ) α) := by
  intro s r s' h
  exact (Ends.throw_iff.mp h).2 ▸ hr s

theorem bind (ht : ∀ {s t u}, R s t → R t u → R s u) (hc : Stays R c)
    (hf : ∀ a, Stays R (f a)) : Stays R (c >>= f) := by
  intro s r s' h
  rcases Ends.bind_iff.mp h with ⟨a, t, h₁, h₂⟩ | ⟨e, _, h⟩
  · exact ht (hc _ _ _ h₁) (hf a _ _ _ h₂)
  · exact hc _ _ _ h

theorem tryCatch (ht : ∀ {s t u}, R s t → R t u → R s u) (hc : Stays R c)
    (hh : ∀ e, Stays R (h e)) : Stays R (tryCatch c h) := by
  intro s r s' hd
  rcases Ends.tryCatch_iff.mp hd with ⟨a, _, hd⟩ | ⟨e, t, h₁, h₂⟩
  · exact hc _ _ _ hd
  · exact ht (hc _ _ _ h₁) (hh e _ _ _ h₂)

end Stays

variable {σ : Type} {s s' : Session} {st st' : σ}

namespace Action

theorem ofExcept_iff {x r : Except Stop α} : Ends (ofExcept x) s r s' ↔ r = x ∧ s' = s :=
  Ends.of_run rfl

theorem ofRead_ok_iff {x : Datum.Read α} {a : α} :
    Ends (ofRead x) s (.ok a) s' ↔ x = .ok a ∧ s' = s := by
  rw [ofRead, ofExcept_iff, eq_comm, mapError_eq_ok]

theorem ask_iff {q : Disk → List String → Except Stop α} {r : Except Stop α} :
    Ends (ask q) s r s' ↔ r = q s.disk s.cwd ∧ s' = s :=
  Ends.of_run rfl

theorem change_iff {c : List String → Disk.Change α} {r : Except Stop α} :
    Ends (Action.change c) s r s' ↔
      ∃ d, Ends (c s.cwd) s.disk r d ∧ s' = { s with disk := d } := by
  constructor
  · intro h
    have ⟨hr, hs⟩ := Ends.iff_eqs.mp h
    exact ⟨_, Ends.iff_eqs.mpr ⟨hr, rfl⟩, hs.symm⟩
  · rintro ⟨d, h, rfl⟩
    have ⟨hr, hd⟩ := Ends.iff_eqs.mp h
    exact Ends.iff_eqs.mpr ⟨hr, hd ▸ rfl⟩

end Action

namespace Work

theorem ofRead_iff {x : Datum.Read α} {r : Except Stop α} :
    Ends (ofRead x) st r st' ↔ r = x.mapError .fault ∧ st' = st :=
  Ends.of_run rfl

theorem ofRead_ok_iff {x : Datum.Read α} {a : α} :
    Ends (ofRead x) st (.ok a) st' ↔ x = .ok a ∧ st' = st := by
  rw [ofRead_iff, eq_comm, mapError_eq_ok]

theorem outcome_iff {w : Work σ α} {r : Except Stop α} :
    Ends w.outcome st (.ok r) st' ↔ Ends w st r st' := by
  rw [Ends.iff_eqs, Ends.iff_eqs]
  exact and_congr_left' (Except.ok.injEq _ _).to_iff

end Work

namespace Job

-- A job ends with a result, in a state of the work and a session.
def Ends (j : Job σ α) (st : σ) (s : Session) (r : Except Stop α) (st' : σ) (s' : Session) : Prop :=
  ((ExceptT.run j).run st).run s = ((r, st'), s')

variable {j : Job σ α} {f : α → Job σ β} {b : β} {r : Except Stop α}

namespace Ends

theorem unique {r' : Except Stop α} {t : σ} {u : Session} (h₁ : j.Ends st s r st' s')
    (h₂ : j.Ends st s r' t u) : r = r' ∧ st' = t ∧ s' = u := by
  have ⟨h, hs⟩ := Prod.mk.inj (h₁.symm.trans h₂)
  have ⟨hr, ht⟩ := Prod.mk.inj h
  exact ⟨hr, ht, hs⟩

theorem iff_eqs : j.Ends st s r st' s' ↔
    (((ExceptT.run j).run st).run s).1.1 = r ∧ (((ExceptT.run j).run st).run s).1.2 = st' ∧
      (((ExceptT.run j).run st).run s).2 = s' := by
  rw [Ends, Prod.ext_iff, Prod.ext_iff, and_assoc]

theorem of_run {r' : Except Stop α} {t : σ} {u : Session}
    (hr : ((ExceptT.run j).run st).run s = ((r', t), u)) :
    j.Ends st s r st' s' ↔ r = r' ∧ st' = t ∧ s' = u := by
  constructor
  · exact fun h => h.unique hr
  · rintro ⟨rfl, rfl, rfl⟩
    exact hr

theorem pure_iff {a : α} :
    Ends (pure a : Job σ α) st s r st' s' ↔ r = .ok a ∧ st' = st ∧ s' = s :=
  of_run rfl

theorem throw_iff {e : Stop} :
    Ends (throw e : Job σ α) st s r st' s' ↔ r = .error e ∧ st' = st ∧ s' = s :=
  of_run rfl

theorem ofExcept_iff {x : Except Stop α} :
    Ends (ofExcept x : Job σ α) st s r st' s' ↔ r = x ∧ st' = st ∧ s' = s :=
  of_run rfl

theorem ofAction_iff {a : Action α} :
    Ends (ofAction a : Job σ α) st s r st' s' ↔ Refit.Ends a s r s' ∧ st' = st := by
  rw [iff_eqs, Refit.Ends.iff_eqs]
  constructor
  · exact fun ⟨hr, ht, hs⟩ => ⟨⟨hr, hs⟩, ht.symm⟩
  · exact fun ⟨⟨hr, hs⟩, ht⟩ => ⟨hr, ht.symm, hs⟩

theorem ofWork_iff {w : Work σ α} :
    Ends (ofWork w) st s r st' s' ↔ Refit.Ends w st r st' ∧ s' = s := by
  rw [iff_eqs, Refit.Ends.iff_eqs]
  constructor
  · exact fun ⟨hr, ht, hs⟩ => ⟨⟨hr, ht⟩, hs.symm⟩
  · exact fun ⟨⟨hr, ht⟩, hs⟩ => ⟨hr, ht, hs.symm⟩

theorem exists_ends (j : Job σ α) (st : σ) (s : Session) : ∃ r st' s', j.Ends st s r st' s' :=
  ⟨_, _, _, rfl⟩

theorem bind_of_ok {a : α} {t : σ} {u : Session} {q : Except Stop β} (hj : j.Ends st s (.ok a) t u) :
    Ends (j >>= f) st s q st' s' ↔ (f a).Ends t u q st' s' := by
  have hd : ((ExceptT.run j).run st).run s = ((.ok a, t), u) := hj
  rw [Ends, ExceptT.run_bind, StateT.run_bind, StateT.run_bind, hd]
  rfl

theorem bind_of_error {e : Stop} (hj : j.Ends st s (.error e) st' s') :
    Ends (j >>= f) st s (.error e) st' s' := by
  have hd : ((ExceptT.run j).run st).run s = ((.error e, st'), s') := hj
  rw [Ends, ExceptT.run_bind, StateT.run_bind, StateT.run_bind, hd]
  rfl

theorem bind_iff {q : Except Stop β} : Ends (j >>= f) st s q st' s' ↔
    (∃ a t u, j.Ends st s (.ok a) t u ∧ (f a).Ends t u q st' s') ∨
      ∃ e, q = .error e ∧ j.Ends st s (.error e) st' s' := by
  constructor
  case mp =>
    intro h
    have ⟨r, t, u, hj⟩ := exists_ends j st s
    cases r
    case ok a => exact .inl ⟨a, t, u, hj, (bind_of_ok hj).mp h⟩
    case error e =>
      obtain ⟨rfl, rfl, rfl⟩ := h.unique (bind_of_error hj)
      exact .inr ⟨e, rfl, hj⟩
  case mpr =>
    rintro (⟨a, t, u, hj, hf⟩ | ⟨e, rfl, hj⟩)
    · exact (bind_of_ok hj).mpr hf
    · exact bind_of_error hj

theorem bind_ok_iff : Ends (j >>= f) st s (.ok b) st' s' ↔
    ∃ a t u, j.Ends st s (.ok a) t u ∧ (f a).Ends t u (.ok b) st' s' := by
  simp [bind_iff]

theorem outcome_iff : j.outcome.Ends st s (.ok r) st' s' ↔ j.Ends st s r st' s' := by
  rw [iff_eqs, iff_eqs]
  exact and_congr_left' (Except.ok.injEq _ _).to_iff

theorem startingAt_iff :
    Refit.Ends (j.startingAt st) s r s' ↔ ∃ st', j.Ends st s r st' s' := by
  have hr : (ExceptT.run (j.startingAt st)).run s =
      ((((ExceptT.run j).run st).run s).1.1, (((ExceptT.run j).run st).run s).2) := rfl
  rw [Refit.Ends, hr, Prod.mk.injEq]
  constructor
  · exact fun ⟨hq, hs⟩ => ⟨_, iff_eqs.mpr ⟨hq, rfl, hs⟩⟩
  · exact fun ⟨_, h⟩ => ⟨(iff_eqs.mp h).1, (iff_eqs.mp h).2.2⟩

-- Whether a job returns something with a property, by running it.
def returnsWith (j : Job σ α) (st : σ) (s : Session) (p : α → Session → Bool) : Bool :=
  match ((ExceptT.run j).run st).run s with
  | ((.ok a, _), s') => p a s'
  | ((.error _, _), _) => false

theorem of_returnsWith {p : α → Session → Bool} (hp : returnsWith j st s p) :
    ∃ a st' s', j.Ends st s (.ok a) st' s' ∧ p a s' := by
  rw [returnsWith] at hp
  split at hp
  case h_1 a st' s' hrun => exact ⟨a, st', s', hrun, hp⟩
  case h_2 => cases hp

end Ends

end Job

end Refit
