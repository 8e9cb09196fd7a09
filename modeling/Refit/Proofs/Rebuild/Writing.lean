import Refit.Proofs.Disk.Writes

/-!
The writing of a rebuild: what is on the disk once the generated files are written and the kept ones
are copied over them.
-/

namespace Refit.Rebuild

/-! What is to be written -/

-- The generated files below the output folder, each with its place.
def generatedWrites (cwd : List String) (out : Location) (fs : Files) : Disk.Writes :=
  (fs.filter fun f => isInside cwd out (out ++ .ofText f.1)).map fun f =>
    ((out ++ .ofText f.1).reach cwd, f.2)

-- Where a kept file is copied.
def keptPlace (cwd : List String) (out : Location) (category path : String) : List String :=
  (out ++ .ofText (Category.target category path)).reach cwd

-- The kept files, each with its place, category by category.
def keptWrites (cwd : List String) (out : Location) (kept : Groups) : Disk.Writes :=
  kept.flatMap fun g => g.2.map fun f => (keptPlace cwd out g.1 f.path, f.content)

-- Whether a warning is about a file that could not be copied.
def isCopyRefusal (warning : String) : Bool :=
  warning.beginsWith "Could not copy "

-- Whether a warning is about a file that could not be written or copied.
def isRefusal (warning : String) : Bool :=
  warning.beginsWith "Could not write " || warning.beginsWith "Could not copy "

variable {cwd : List String} {out target : Location} {d d' : Disk} {ws : List String} {n : Nat}

theorem beginsWith_append {s t : String} : (s ++ t).beginsWith s := by
  simp [String.beginsWith]

theorem isRefusal_write {path reason : String} :
    isRefusal ("Could not write " ++ path ++ ": " ++ reason) := by
  simp [isRefusal, String.append_assoc, beginsWith_append]

theorem isCopyRefusal_copy {path reason : String} :
    isCopyRefusal ("Could not copy " ++ path ++ ": " ++ reason) := by
  simp [isCopyRefusal, String.append_assoc, beginsWith_append]

theorem isRefusal_of_isCopyRefusal {warning : String} (h : isCopyRefusal warning) :
    isRefusal warning := by
  rw [isCopyRefusal] at h
  simp [isRefusal, h]

/-! Storing one file -/

-- What an attempt to store a file makes of the result of storing it.
def attempted (warning : String → String) : Except Stop Unit → Except Stop (Option String)
  | .ok () => .ok none
  | .error e =>
    match e with
    | .file _ => .ok (some (warning e.message))
    | e => .error e

theorem tryStore_ends {content : String} {warning : String → String} {r : Except Stop Unit}
    (h : Ends (Disk.store cwd target content) d r d') :
    Ends (tryStore cwd target content warning) d (attempted warning r) d' := by
  have hr : (ExceptT.run (Disk.store cwd target content)).run d = (r, d') := h
  simp only [Ends, tryStore, ExceptT.run_bind, StateT.run_bind, ExceptT.run_tryCatch, hr]
  cases r
  case ok => rfl
  case error e => cases e <;> rfl

theorem tryStore_cases {content : String} {warning : String → String} {w : Option String}
    (h : Ends (tryStore cwd target content warning) d (.ok w) d') :
    (w = none ∧ d.Overridden [(target.reach cwd, content)] d') ∨
      ∃ reason, w = some (warning reason) ∧ d.Overridden [] d' := by
  have ⟨r, t, hs⟩ := Ends.exists_ends (Disk.store cwd target content) d
  have ⟨hw, ht⟩ := h.unique (tryStore_ends hs)
  subst ht
  rcases Disk.store_cases hs with ⟨⟨e, rfl⟩, hd⟩ | ⟨rfl, hd⟩
  · cases e <;> simp only [attempted, Except.ok.injEq, reduceCtorEq] at hw
    exact .inr ⟨_, hw, hd⟩
  · exact .inl ⟨Except.ok.inj hw, hd⟩

/-! Writing all -/

section

variable {rest : Disk.Change (Nat × List String)} {w : Option String}

-- The count and the warnings of the files after one, with that one added.
def tally (rest : Disk.Change (Nat × List String)) (w : Option String) :
    Disk.Change (Nat × List String) := do
  let (n, warnings) ← rest
  match w with
  | none => return (n + 1, warnings)
  | some w => return (n, w :: warnings)

theorem tally_returns (h : Ends (tally rest w) d (.ok (n, ws)) d') :
    ∃ m vs, Ends rest d (.ok (m, vs)) d' ∧
      ((w = none ∧ n = m + 1 ∧ ws = vs) ∨ ∃ v, w = some v ∧ n = m ∧ ws = v :: vs) := by
  have ⟨⟨m, vs⟩, t, hrest, h⟩ := Ends.bind_ok_iff.mp h
  rcases w with _ | v
  case none =>
    have ⟨hr, ht⟩ := Ends.pure_ok_iff.mp h
    have ⟨hn, hws⟩ := Prod.mk.inj hr
    exact ⟨m, vs, ht ▸ hrest, .inl ⟨rfl, hn, hws⟩⟩
  case some =>
    have ⟨hr, ht⟩ := Ends.pure_ok_iff.mp h
    have ⟨hn, hws⟩ := Prod.mk.inj hr
    exact ⟨m, vs, ht ▸ hrest, .inr ⟨v, rfl, hn, hws⟩⟩

-- Where no refusal is reported, a file was stored before the files after it.
theorem store_tally_returns {content : String} {warning : String → String}
    {tells : String → Bool}
    (h : Ends (tryStore cwd target content warning >>= tally rest) d (.ok (n, ws)) d')
    (hw : ∀ w ∈ ws, ¬tells w) (hr : ∀ reason, tells (warning reason)) :
    ∃ t m, d.Overridden [(target.reach cwd, content)] t ∧ Ends rest t (.ok (m, ws)) d' ∧
      n = m + 1 := by
  have ⟨w, t, hs, h⟩ := Ends.bind_ok_iff.mp h
  have ⟨m, vs, hrest, h⟩ := tally_returns h
  rcases h with ⟨_, hn, rfl⟩ | ⟨v, hv, _, rfl⟩
  case inl =>
    rcases tryStore_cases hs with ⟨_, hd⟩ | ⟨_, _, _⟩
    case inl => exact ⟨t, m, hd, hrest, hn⟩
    case inr => simp_all
  case inr =>
    rcases tryStore_cases hs with ⟨hn, _⟩ | ⟨reason, hv', _⟩
    case inl => simp_all
    case inr =>
      have hv : v = warning reason := Option.some.inj (hv.symm.trans hv')
      exact absurd (hv ▸ hr reason) (hw v (.head _))

end

theorem nothing_written
    (h : Ends (pure (0, []) : Disk.Change (Nat × List String)) d (.ok (n, ws)) d') :
    d.Overridden [] d' ∧ n = 0 := by
  have ⟨hr, hd⟩ := Ends.pure_ok_iff.mp h
  exact ⟨hd ▸ .refl d, congrArg Prod.fst hr⟩

theorem writeFiles_cons {path content : String} {fs : Files}
    (h : Ends (writeFiles cwd out ((path, content) :: fs)) d (.ok (n, ws)) d') :
    if isInside cwd out (out ++ .ofText path) then
      Ends (tryStore cwd (out ++ .ofText path) content
        (fun e => "Could not write " ++ path ++ ": " ++ e) >>= tally (writeFiles cwd out fs))
        d (.ok (n, ws)) d'
    else
      Ends (tally (writeFiles cwd out fs)
        (some ("Skipped generated file outside output directory: " ++ path)))
        d (.ok (n, ws)) d' := by
  simp only [writeFiles] at h
  split at h
  case isTrue =>
    have ⟨_, _, h, _⟩ := Ends.bind_ok_iff.mp h
    cases (Ends.throw_iff.mp h).1
  case isFalse =>
    split at h
    case isTrue hi => rw [if_pos hi]; exact h
    case isFalse hi => rw [if_neg hi]; exact h

theorem writeFiles_returns {fs : Files} (h : Ends (writeFiles cwd out fs) d (.ok (n, ws)) d')
    (hw : ∀ w ∈ ws, ¬isRefusal w) :
    d.Overridden (generatedWrites cwd out fs) d' ∧ n = (generatedWrites cwd out fs).length := by
  induction fs generalizing d n ws
  case nil =>
    exact nothing_written h
  case cons f fs ih =>
    have ⟨path, content⟩ := f
    have h := writeFiles_cons h
    by_cases hi : isInside cwd out (out ++ .ofText path)
    case pos =>
      rw [if_pos hi] at h
      have ⟨t, m, hd, hrest, hn⟩ := store_tally_returns h hw fun _ => isRefusal_write
      have ⟨hd', hm⟩ := ih hrest hw
      have hcons : generatedWrites cwd out ((path, content) :: fs) =
          [((out ++ .ofText path).reach cwd, content)] ++ generatedWrites cwd out fs := by
        simp [generatedWrites, hi]
      rw [hcons, List.length_append, hn, hm]
      exact ⟨hd.trans hd', Nat.add_comm _ _⟩
    case neg =>
      rw [if_neg hi] at h
      have hcons : generatedWrites cwd out ((path, content) :: fs) = generatedWrites cwd out fs := by
        simp [generatedWrites, hi]
      have ⟨m, vs, hrest, h⟩ := tally_returns h
      rcases h with ⟨h, _⟩ | ⟨v, _, hn, rfl⟩
      case inl => cases h
      case inr =>
        rw [hcons, hn]
        exact ih hrest fun w hv => hw w (.tail _ hv)

theorem copyCategory_returns {category : String} {fs : List SourceFile}
    (h : Ends (copyCategory cwd out category fs) d (.ok (n, ws)) d')
    (hw : ∀ w ∈ ws, ¬isCopyRefusal w) :
    d.Overridden (keptWrites cwd out [(category, fs)]) d' ∧ n = fs.length := by
  induction fs generalizing d n ws
  case nil =>
    exact nothing_written h
  case cons f fs ih =>
    have ⟨t, m, hd, hrest, hn⟩ := store_tally_returns h hw fun _ => isCopyRefusal_copy
    have ⟨hd', hm⟩ := ih hrest hw
    exact ⟨hd.trans hd', by rw [hn, hm, List.length_cons]⟩

theorem copyKept_returns {kept : Groups} (h : Ends (copyKept cwd out kept) d (.ok (n, ws)) d')
    (hw : ∀ w ∈ ws, ¬isCopyRefusal w) :
    d.Overridden (keptWrites cwd out kept) d' ∧ n = (keptWrites cwd out kept).length := by
  induction kept generalizing d n ws
  case nil =>
    exact nothing_written h
  case cons g kept ih =>
    have ⟨category, fs⟩ := g
    have ⟨⟨n₁, ws₁⟩, t, h₁, h⟩ := Ends.bind_ok_iff.mp h
    have ⟨⟨n₂, ws₂⟩, u, h₂, h⟩ := Ends.bind_ok_iff.mp h
    have ⟨hr, hu⟩ := Ends.pure_ok_iff.mp h
    have ⟨hn, hws⟩ := Prod.mk.inj hr
    subst hu hn hws
    have ⟨hd₁, hn₁⟩ := copyCategory_returns h₁ fun w h => hw w (List.mem_append_left _ h)
    have ⟨hd₂, hn₂⟩ := ih h₂ fun w h => hw w (List.mem_append_right _ h)
    have hcons : keptWrites cwd out ((category, fs) :: kept) =
        keptWrites cwd out [(category, fs)] ++ keptWrites cwd out kept := by
      simp [keptWrites]
    rw [hcons, List.length_append, hn₁, hn₂]
    exact ⟨hd₁.trans hd₂, by simp [keptWrites]⟩

end Refit.Rebuild
