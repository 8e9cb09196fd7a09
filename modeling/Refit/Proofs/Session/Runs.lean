import Refit.Proofs.Session.Ends

/-!
Running other programs: a run uses up one outcome, and nothing is changed but what it writes.
-/

namespace Refit

-- The files that a run writes.
def Outcome.files : Outcome → List (Location × List UInt8)
  | ended _ _ _ files => files
  | late | absent => []

namespace Programs

variable {p : Programs} {c : Command}

theorem files_next : (p.next c).1.files = (p.script.head?.map Outcome.files).getD [] := by
  cases h : p.script <;> simp [next, h, Outcome.quiet, Outcome.files]

theorem files_next_eq_nil (h : ∀ o ∈ p.script.head?, o.files = []) : (p.next c).1.files = [] := by
  rw [files_next]
  cases hs : p.script.head?
  case none => rfl
  case some o => exact h o hs

end Programs

namespace Action

variable {s s' : Session} {c : Command} {r : Except Stop Outcome}

theorem run_iff : Ends (run c) s r s' ↔
    ∃ q d, Ends (placeFiles c.target s.cwd (s.programs.next c).1.files) s.disk q d ∧
      r = q.map (fun _ => (s.programs.next c).1) ∧
      s' = { s with disk := d, programs := (s.programs.next c).2 } := by
  rw [run, Ends.get_bind_iff]
  generalize s.programs.next c = n
  have ⟨o, p⟩ := n
  rw [Ends.bind_of_ok (Ends.modify_iff.mpr ⟨rfl, rfl⟩)]
  cases o
  case ended status output errors files =>
    simp only [Outcome.files, Ends.bind_iff, change_iff, Ends.pure_iff]
    constructor
    · rintro (⟨_, _, ⟨d, hd, rfl⟩, rfl, rfl⟩ | ⟨e, rfl, d, hd, rfl⟩)
      · exact ⟨_, d, hd, rfl, rfl⟩
      · exact ⟨_, d, hd, rfl, rfl⟩
    · rintro ⟨q, d, hd, rfl, rfl⟩
      cases q
      case ok => exact .inl ⟨_, _, ⟨d, hd, rfl⟩, rfl, rfl⟩
      case error e => exact .inr ⟨e, rfl, d, hd, rfl⟩
  all_goals
    simp only [Outcome.files, placeFiles, Ends.pure_iff]
    constructor
    · rintro ⟨rfl, rfl⟩
      exact ⟨_, _, ⟨rfl, rfl⟩, rfl, rfl⟩
    · rintro ⟨q, d, ⟨rfl, rfl⟩, rfl, rfl⟩
      exact ⟨rfl, rfl⟩

-- A run of a program that writes nothing leaves the disk as it is.
theorem run_quiet (hq : ∀ o ∈ s.programs.script.head?, o.files = []) (h : Ends (run c) s r s') :
    r = .ok (s.programs.next c).1 ∧ s' = { s with programs := (s.programs.next c).2 } := by
  have ⟨q, d, hd, hr, hs⟩ := run_iff.mp h
  rw [Programs.files_next_eq_nil hq, placeFiles] at hd
  obtain ⟨rfl, rfl⟩ := Ends.pure_iff.mp hd
  exact ⟨hr, hs⟩

end Action

end Refit
