import Refit.Proofs.Disk.Alike
import Refit.Proofs.Session.Runs

/-!
Sessions whose disks differ at some places only, and actions that keep clear of those places.

The places may be files that one of two ways to a result leaves behind, or a folder that only one of
them works in.
-/

namespace Refit

variable {off : List String → Prop} {cwd : List String} {σ α β : Type}

-- Paths that join to a relative one keep clear of the places, if it leads below a folder that does.
structure Location.Apart (off : List String → Prop) (cwd : List String) (out : Location) :
    Prop where
  way : out.Avoids off cwd
  within : ∀ p, out.reach cwd <+: p → ¬off p

theorem Location.Apart.append {out m : Location} (h : out.Apart off cwd) (hm : m.root = none)
    (hup : ".." ∉ m.steps) : (out ++ m).Avoids off cwd := by
  rintro p ⟨k, rfl⟩
  rw [append_eq hm, reach_eq_foldl, List.take_append, List.foldl_append]
  by_cases hk : k ≤ out.steps.length
  case pos =>
    rw [Nat.sub_eq_zero_of_le hk, List.take_zero]
    exact h.way _ ⟨k, rfl⟩
  case neg =>
    rw [List.take_of_length_le (by omega), foldl_advance fun hx => hup (List.mem_of_mem_take hx)]
    exact h.within _ (List.prefix_append _ _)

-- What programs still to come write keeps clear of the places, wherever one of some paths leads.
def Programs.Avoid (off : List String → Prop) (cwd : List String) (targets : List Location)
    (p : Programs) : Prop :=
  ∀ o ∈ p.script, ∀ x ∈ o.files, ∀ l ∈ targets, (l ++ x.1).Avoids off cwd

namespace Programs.Avoid

variable {targets : List Location} {p : Programs} {c : Command}

-- What the next program writes keeps clear of the places.
theorem files (h : p.Avoid off cwd targets) (hc : c.target ∈ targets) :
    ∀ x ∈ (p.next c).1.files, (c.target ++ x.1).Avoids off cwd := by
  intro x hx
  cases ho : p.script
  case nil => simp [Programs.next, ho, Outcome.quiet, Outcome.files] at hx
  case cons o os => exact h o (ho ▸ .head _) x (by simpa [Programs.next, ho] using hx) _ hc

theorem next (h : p.Avoid off cwd targets) : (p.next c).2.Avoid off cwd targets :=
  fun o ho => h o (List.mem_of_mem_tail ho)

end Programs.Avoid

-- Two sessions in one folder, with the same programs to come and the same configuration.
structure Session.Alike (off : List String → Prop) (cwd : List String) (targets : List Location)
    (s t : Session) : Prop where
  disk : s.disk.Alike off t.disk
  left : s.cwd = cwd
  right : t.cwd = cwd
  script : t.programs.script = s.programs.script
  config : t.config = s.config
  programs : s.programs.Avoid off cwd targets

variable {targets : List Location}

namespace Action

theorem ofExcept_respects {R : Session → Session → Prop} {x : Except Stop α} :
    Respects R (ofExcept x) := by
  intro s t r s' hR hs
  obtain ⟨rfl, rfl⟩ := ofExcept_iff.mp hs
  exact ⟨t, ofExcept_iff.mpr ⟨rfl, rfl⟩, hR⟩

theorem ask_respects {q : Disk → List String → Except Stop α}
    (hq : ∀ d d', d.Alike off d' → q d' cwd = q d cwd) :
    Respects (Session.Alike off cwd targets) (ask q) := by
  intro s t r s' h hs
  obtain ⟨rfl, rfl⟩ := ask_iff.mp hs
  refine ⟨t, ask_iff.mpr ⟨?_, rfl⟩, h⟩
  rw [h.left, h.right, hq _ _ h.disk]

theorem change_respects {c : List String → Disk.Change α}
    (hc : Respects (Disk.Alike off) (c cwd)) :
    Respects (Session.Alike off cwd targets) (change c) := by
  intro s t r s' h hs
  obtain ⟨d, hd, rfl⟩ := change_iff.mp hs
  rw [h.left] at hd
  obtain ⟨d', ht, hdisk⟩ := hc _ _ _ _ h.disk hd
  exact ⟨_, change_iff.mpr ⟨d', h.right ▸ ht, rfl⟩,
    ⟨hdisk, h.left, h.right, h.script, h.config, h.programs⟩⟩

theorem placeFiles_respects {target : Location} {fs : List (Location × List UInt8)}
    (hf : ∀ x ∈ fs, (target ++ x.1).Avoids off cwd) :
    Respects (Disk.Alike off) (placeFiles target cwd fs) := by
  induction fs
  case nil => exact .of_pure
  case cons f fs ih =>
    obtain ⟨hf, hfs⟩ := List.forall_mem_cons.mp hf
    exact .bind (Disk.makeFolders_respects hf.parent) fun _ =>
      .bind (Disk.writeBytes_respects hf) fun _ => ih hfs

theorem run_respects {c : Command} (hc : c.target ∈ targets) :
    Respects (Session.Alike off cwd targets) (run c) := by
  intro s t r s' h hs
  have hnext : (t.programs.next c).1 = (s.programs.next c).1 := by
    rw [Programs.next, Programs.next, h.script]
  obtain ⟨q, d, hd, rfl, rfl⟩ := run_iff.mp hs
  rw [h.left] at hd
  obtain ⟨d', ht, hdisk⟩ := placeFiles_respects (h.programs.files hc) _ _ _ _ h.disk hd
  refine ⟨_, run_iff.mpr ⟨q, d', ?_, by rw [hnext], rfl⟩, hdisk, h.left, h.right, ?_, h.config, ?_⟩
  · rw [h.right, hnext]
    exact ht
  · exact congrArg List.tail h.script
  · exact h.programs.next

end Action

namespace Job

-- From related sessions a job does the same, and the sessions stay related.
def Respects (R : Session → Session → Prop) (j : Job σ α) : Prop :=
  ∀ st s t r st' s', R s t → j.Ends st s r st' s' → ∃ t', j.Ends st t r st' t' ∧ R s' t'

namespace Respects

variable {R : Session → Session → Prop} {j : Job σ α} {f : α → Job σ β}

theorem of_pure {a : α} : Respects R (pure a : Job σ α) := by
  intro st s t r st' s' hR hs
  obtain ⟨rfl, rfl, rfl⟩ := Ends.pure_iff.mp hs
  exact ⟨t, Ends.pure_iff.mpr ⟨rfl, rfl, rfl⟩, hR⟩

theorem ofExcept {x : Except Stop α} : Respects R (Job.ofExcept x : Job σ α) := by
  intro st s t r st' s' hR hs
  obtain ⟨rfl, rfl, rfl⟩ := Ends.ofExcept_iff.mp hs
  exact ⟨t, Ends.ofExcept_iff.mpr ⟨rfl, rfl, rfl⟩, hR⟩

theorem ofAction {a : Action α} (ha : Refit.Respects R a) :
    Respects R (Job.ofAction a : Job σ α) := by
  intro st s t r st' s' hR hs
  obtain ⟨hd, rfl⟩ := Ends.ofAction_iff.mp hs
  obtain ⟨t', ht, hR⟩ := ha s t r s' hR hd
  exact ⟨t', Ends.ofAction_iff.mpr ⟨ht, rfl⟩, hR⟩

theorem ofWork {w : Work σ α} : Respects R (Job.ofWork w) := by
  intro st s t r st' s' hR hs
  obtain ⟨hd, rfl⟩ := Ends.ofWork_iff.mp hs
  exact ⟨t, Ends.ofWork_iff.mpr ⟨hd, rfl⟩, hR⟩

theorem bind_of (hj : Respects R j)
    (hf : ∀ a st s t u, j.Ends st s (.ok a) t u → Respects R (f a)) : Respects R (j >>= f) := by
  intro st s t r st' s' hR hs
  rcases Ends.bind_iff.mp hs with ⟨a, st₁, u, hu, ha⟩ | ⟨e, rfl, he⟩
  case inl =>
    obtain ⟨v, hv, hR⟩ := hj st s t _ st₁ u hR hu
    obtain ⟨t', ht, hR⟩ := hf a st s st₁ u hu st₁ u v r st' s' hR ha
    exact ⟨t', (Ends.bind_of_ok hv).mpr ht, hR⟩
  case inr =>
    obtain ⟨t', ht, hR⟩ := hj st s t _ st' s' hR he
    exact ⟨t', Ends.bind_of_error ht, hR⟩

theorem bind (hj : Respects R j) (hf : ∀ a, Respects R (f a)) : Respects R (j >>= f) :=
  hj.bind_of fun a _ _ _ _ _ => hf a

theorem startingAt {st : σ} (hj : Respects R j) : Refit.Respects R (j.startingAt st) := by
  intro s t r s' hR hs
  obtain ⟨st', hs'⟩ := Ends.startingAt_iff.mp hs
  obtain ⟨t', ht, hR'⟩ := hj st s t r st' s' hR hs'
  exact ⟨t', Ends.startingAt_iff.mpr ⟨st', ht⟩, hR'⟩

end Respects

end Job

end Refit
