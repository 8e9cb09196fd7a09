import Refit.Proofs.Disk.Places

/-!
Folders that are made with all folders around them: only places on the way to the path become
folders, and where all goes well the path leads to a folder.
-/

namespace Refit

-- A place on the way to a path: where some of its first segments lead.
def Location.Passes (cwd : List String) (l : Location) (p : List String) : Prop :=
  ∃ k, p = { l with steps := l.steps.take k }.reach cwd

namespace Location.Passes

variable {cwd p : List String} {l : Location}

theorem last : l.Passes cwd (l.reach cwd) :=
  ⟨l.steps.length, by rw [List.take_length]⟩

theorem of_parent (h : l.parent.Passes cwd p) : l.Passes cwd p := by
  have ⟨k, hk⟩ := h
  exact ⟨min k (l.steps.length - 1), by rw [hk, parent, List.dropLast_eq_take, List.take_take]⟩

end Location.Passes

namespace Disk

variable {α : Type} {cwd p : List String} {l : Location} {d d' d'' : Disk} {k : Nat} {s : Stop}
  {r : Except Stop Unit}

theorem lift_iff {q : Disk → Except Stop α} {r : Except Stop α} :
    Ends (lift q) d r d' ↔ r = q d ∧ d' = d :=
  Ends.of_run rfl

theorem makeFolder_cases (h : Ends (makeFolder cwd l) d r d') :
    ((∃ e, r = .error e) ∧ d' = d) ∨
      ∃ p, d.place cwd l = .ok p ∧ d.find? p = none ∧ r = .ok () ∧ d' = d.set p .folder := by
  rw [makeFolder, Ends.bind_iff] at h
  rcases h with ⟨p, t, hp, h⟩ | ⟨e, hr, h⟩
  case inr => exact .inl ⟨⟨e, hr⟩, (lift_iff.mp h).2⟩
  obtain ⟨hp, rfl⟩ := lift_iff.mp hp
  rw [Ends.get_bind_iff] at h
  cases hf : t.find? p
  case some n =>
    simp only [hf] at h
    have ⟨hr, hd⟩ := Ends.throw_iff.mp h
    exact .inl ⟨⟨_, hr⟩, hd⟩
  case none =>
    simp only [hf] at h
    have ⟨hr, hd⟩ := Ends.modify_iff.mp h
    exact .inr ⟨p, hp.symm, hf, hr, hd⟩

/-! Places that become folders -/

-- A disk after folders were made on the way to a path.
def Paved (cwd : List String) (l : Location) (d d' : Disk) : Prop :=
  ∀ p, d'.find? p = d.find? p ∨
    (l.Passes cwd p ∧ d.find? p = none ∧ d'.find? p = some .folder)

namespace Paved

theorem refl (d : Disk) : Paved cwd l d d :=
  fun _ => .inl rfl

theorem trans (h₁ : Paved cwd l d d') (h₂ : Paved cwd l d' d'') : Paved cwd l d d'' := by
  intro p
  rcases h₁ p with h | ⟨hp, hn, hf⟩
  case inl => exact h ▸ h₂ p
  case inr =>
    rcases h₂ p with h | ⟨_, hn', _⟩
    · exact .inr ⟨hp, hn, h.trans hf⟩
    · cases hf.symm.trans hn'

theorem of_parent (h : Paved cwd l.parent d d') : Paved cwd l d d' :=
  fun p => (h p).imp_right fun ⟨hp, h⟩ => ⟨hp.of_parent, h⟩

end Paved

theorem makeFolder_paves : Stays (Paved cwd l) (makeFolder cwd l) := by
  intro d r d' h
  rcases makeFolder_cases h with ⟨_, rfl⟩ | ⟨p, hp, hf, _, rfl⟩
  case inl => exact .refl _
  case inr =>
    intro q
    rw [find?_set (ne_nil_of_find?_ne (d := d) (by simp [hf]))]
    by_cases hq : q = p
    case pos => exact .inr ⟨hq ▸ place_eq_ok hp ▸ .last, hq ▸ hf, if_pos hq⟩
    case neg => exact .inl (if_neg hq)

theorem unlessFolder_paves : Stays (Paved cwd l) (unlessFolder cwd l s) := by
  refine .bind .trans (fun d r d' h => (lift_iff.mp h).2 ▸ .refl _) fun b => ?_
  split
  · exact .of_pure .refl
  · exact .of_throw .refl

-- Making a folder, a folder that is there already being no trouble.
def makeUnlessFolder (cwd : List String) (l : Location) : Change Unit :=
  tryCatch (makeFolder cwd l) fun s =>
    match s with
    | .file (.missing _) => throw s
    | .file _ => unlessFolder cwd l s
    | _ => throw s

theorem makeUnlessFolder_paves : Stays (Paved cwd l) (makeUnlessFolder cwd l) := by
  refine .tryCatch .trans makeFolder_paves fun e => ?_
  split
  · exact .of_throw .refl
  · exact unlessFolder_paves
  · exact .of_throw .refl

theorem makeFoldersFrom_paves : Stays (Paved cwd l) (makeFoldersFrom cwd k l) := by
  induction k generalizing l
  case zero =>
    rw [makeFoldersFrom]
    exact makeUnlessFolder_paves
  case succ k ih =>
    rw [makeFoldersFrom]
    refine .tryCatch .trans makeFolder_paves fun e => ?_
    split
    · exact .bind .trans (fun _ _ _ h => .of_parent (ih _ _ _ h)) fun _ => makeUnlessFolder_paves
    · exact unlessFolder_paves
    · exact .of_throw .refl

theorem makeFolders_paves : Stays (Paved cwd l) (makeFolders cwd l) :=
  makeFoldersFrom_paves

/-! What a path leads to in the end -/

theorem find?_of_makeFolder (h : Ends (makeFolder cwd l) d (.ok ()) d') :
    d'.find? (l.reach cwd) = some .folder := by
  rcases makeFolder_cases h with ⟨⟨_, he⟩, _⟩ | ⟨p, hp, hf, _, rfl⟩
  case inl => cases he
  case inr =>
    rw [← place_eq_ok hp, find?_set (ne_nil_of_find?_ne (d := d) (by simp [hf])), if_pos rfl]

theorem exists_place_of_isFolder (h : d.isFolder cwd l = .ok true) :
    ∃ p, d.place cwd l = .ok p ∧ d.find? p = some .folder := by
  have ⟨n, hl, h⟩ := bind_eq_ok.mp h
  rw [look?] at hl
  split at hl
  case h_1 p hp =>
    refine ⟨p, hp, ?_⟩
    rw [Except.ok.inj hl]
    revert h
    split <;> simp [pure, Except.pure]
  case h_2 => cases hl
  case h_3 => simp [← Except.ok.inj hl, pure, Except.pure] at h

theorem find?_of_isFolder (h : d.isFolder cwd l = .ok true) :
    d.find? (l.reach cwd) = some .folder := by
  have ⟨p, hp, hf⟩ := exists_place_of_isFolder h
  exact place_eq_ok hp ▸ hf

theorem find?_of_unlessFolder (h : Ends (unlessFolder cwd l s) d (.ok ()) d') :
    d'.find? (l.reach cwd) = some .folder := by
  have ⟨b, t, hb, h⟩ := Ends.bind_ok_iff.mp h
  obtain ⟨hb, rfl⟩ := lift_iff.mp hb
  cases b
  case true => exact (Ends.pure_ok_iff.mp h).2 ▸ find?_of_isFolder hb.symm
  case false => cases (Ends.throw_iff.mp h).1

theorem find?_of_makeUnlessFolder (h : Ends (makeUnlessFolder cwd l) d (.ok ()) d') :
    d'.find? (l.reach cwd) = some .folder := by
  rcases Ends.tryCatch_iff.mp h with ⟨_, _, h⟩ | ⟨e, t, _, h⟩
  case inl => exact find?_of_makeFolder h
  case inr =>
    split at h
    · cases (Ends.throw_iff.mp h).1
    · exact find?_of_unlessFolder h
    · cases (Ends.throw_iff.mp h).1

theorem find?_of_makeFolders (h : Ends (makeFolders cwd l) d (.ok ()) d') :
    d'.find? (l.reach cwd) = some .folder := by
  rw [makeFolders] at h
  cases hk : l.steps.length
  case zero =>
    rw [hk, makeFoldersFrom] at h
    exact find?_of_makeUnlessFolder h
  case succ k =>
    rw [hk, makeFoldersFrom] at h
    rcases Ends.tryCatch_iff.mp h with ⟨_, _, h⟩ | ⟨e, t, _, h⟩
    case inl => exact find?_of_makeFolder h
    case inr =>
      split at h
      · have ⟨_, _, _, h⟩ := Ends.bind_ok_iff.mp h
        exact find?_of_makeUnlessFolder h
      · exact find?_of_unlessFolder h
      · cases (Ends.throw_iff.mp h).1

end Disk

end Refit
