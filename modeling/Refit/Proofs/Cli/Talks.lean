import Refit.Cli.Commands
import Refit.Proofs.Plan.Typed
import Refit.Proofs.Session.Ends

/-!
How the talk of a command ends, and printing in a plain terminal.
-/

namespace Refit

namespace Cli.Talk

variable {α β : Type} {t : Talk α} {f : α → Talk β} {w w' u : Terminal} {s s' v : Session} {a : α}
  {e : Ending}

-- A talk ends with a result, at a terminal and in a session.
def Ends (t : Talk α) (w : Terminal) (s : Session) (r : Except Ending α) (w' : Terminal)
    (s' : Session) : Prop :=
  ((ExceptT.run t).run w).run s = ((r, w'), s')

namespace Ends

variable {r : Except Ending α} {q : Except Ending β}

theorem exists_ends (t : Talk α) (w : Terminal) (s : Session) : ∃ r w' s', t.Ends w s r w' s' :=
  ⟨_, _, _, rfl⟩

theorem unique {r' : Except Ending α} (h₁ : t.Ends w s r w' s') (h₂ : t.Ends w s r' u v) :
    r = r' ∧ w' = u ∧ s' = v := by
  obtain ⟨h, hs⟩ := Prod.mk.inj (h₁.symm.trans h₂)
  obtain ⟨hr, hw⟩ := Prod.mk.inj h
  exact ⟨hr, hw, hs⟩

theorem iff_eqs {r' : Except Ending α} (h : t.Ends w s r' u v) :
    t.Ends w s r w' s' ↔ r = r' ∧ w' = u ∧ s' = v := by
  constructor
  · exact fun h' => h'.unique h
  · rintro ⟨rfl, rfl, rfl⟩
    exact h

theorem of_pure : Ends (pure a) w s (.ok a) w s :=
  rfl

theorem of_throw : Ends (throw e : Talk α) w s (.error e) w s :=
  rfl

theorem of_get : Ends (getThe Terminal) w s (.ok w) w s :=
  rfl

theorem of_modify {g : Terminal → Terminal} : Ends (modifyThe Terminal g) w s (.ok ⟨⟩) (g w) s :=
  rfl

theorem bind_of_ok (h : t.Ends w s (.ok a) u v) :
    Ends (t >>= f) w s q w' s' ↔ (f a).Ends u v q w' s' := by
  have hd : ((ExceptT.run t).run w).run s = ((.ok a, u), v) := h
  rw [Ends, ExceptT.run_bind, StateT.run_bind, StateT.run_bind, hd]
  rfl

theorem bind_of_error (h : t.Ends w s (.error e) w' s') :
    Ends (t >>= f) w s (.error e) w' s' := by
  have hd : ((ExceptT.run t).run w).run s = ((.error e, w'), s') := h
  rw [Ends, ExceptT.run_bind, StateT.run_bind, StateT.run_bind, hd]
  rfl

theorem tryCatch_of_ok {h : Ending → Talk α} (ht : t.Ends w s (.ok a) w' s') :
    Ends (tryCatch t h) w s (.ok a) w' s' := by
  have hd : ((ExceptT.run t).run w).run s = ((.ok a, w'), s') := ht
  rw [Ends, ExceptT.run_tryCatch, StateT.run_bind, StateT.run_bind, hd]
  rfl

theorem tryCatch_of_error {h : Ending → Talk α} (ht : t.Ends w s (.error e) u v) :
    Ends (tryCatch t h) w s r w' s' ↔ (h e).Ends u v r w' s' := by
  have hd : ((ExceptT.run t).run w).run s = ((.error e, u), v) := ht
  rw [Ends, ExceptT.run_tryCatch, StateT.run_bind, StateT.run_bind, hd]
  rfl

theorem ofAction {x : Action α} {r : Except Stop α} (h : Refit.Ends x s r s') :
    Ends (Talk.ofAction x) w s (r.mapError .stopped) w s' := by
  have hd : (ExceptT.run x).run s = (r, s') := h
  have hr : ((ExceptT.run (Talk.ofAction x)).run w).run s =
      ((((ExceptT.run x).run s).1.mapError .stopped, w), ((ExceptT.run x).run s).2) := rfl
  rw [Ends, hr, hd]

theorem of_action {x : Action α} (h : Ends (Talk.ofAction x) w s (.ok a) w' s') :
    Refit.Ends x s (.ok a) s' := by
  obtain ⟨r, t, hx⟩ := Refit.Ends.exists_ends x s
  obtain ⟨hr, _, rfl⟩ := h.unique (ofAction hx)
  cases r
  case error => cases hr
  case ok => exact Except.ok.inj hr ▸ hx

theorem ofRead_error {x : Datum.Read α} {f : Fault} (h : x = .error f) :
    Ends (Talk.ofRead x) w s (.error (.stopped (.fault f))) w s :=
  ofAction (r := .error (.fault f)) (Action.ofExcept_iff.mpr ⟨by rw [h]; rfl, rfl⟩)

theorem ofRead {x : Datum.Read α} (h : x = .ok a) : Ends (Talk.ofRead x) w s (.ok a) w s :=
  ofAction (Action.ofRead_ok_iff.mpr ⟨h, rfl⟩)

theorem ofPrint {p : Print α} {r : Except Stop α} (h : Refit.Ends p w r w') :
    Ends (Talk.ofPrint p) w s (r.mapError .stopped) w' s := by
  have hd : (ExceptT.run p).run w = (r, w') := h
  have hr : ((ExceptT.run (Talk.ofPrint p)).run w).run s =
      ((((ExceptT.run p).run w).1.mapError .stopped, ((ExceptT.run p).run w).2), s) := rfl
  rw [Ends, hr, hd]

end Ends

/-! Properties of talks -/

-- A talk that neither reads the terminal nor changes it.
def Quiet (t : Talk α) : Prop :=
  ∀ w w' s r u v, t.Ends w s r u v → u = w ∧ t.Ends w' s r w' v

namespace Quiet

theorem of_pure : Quiet (pure a : Talk α) := by
  intro w w' s r u v h
  obtain ⟨rfl, rfl, rfl⟩ := h.unique .of_pure
  exact ⟨rfl, .of_pure⟩

theorem of_throw : Quiet (throw e : Talk α) := by
  intro w w' s r u v h
  obtain ⟨rfl, rfl, rfl⟩ := h.unique .of_throw
  exact ⟨rfl, .of_throw⟩

theorem of_action {x : Action α} : Quiet (Talk.ofAction x) := by
  intro w w' s r u v h
  obtain ⟨q, s', hx⟩ := Refit.Ends.exists_ends x s
  obtain ⟨rfl, rfl, rfl⟩ := h.unique (.ofAction hx)
  exact ⟨rfl, .ofAction hx⟩

theorem bind (ht : Quiet t) (hf : ∀ a, Quiet (f a)) : Quiet (t >>= f) := by
  intro w w' s r u v h
  obtain ⟨q, w₁, s₁, hq⟩ := Ends.exists_ends t w s
  obtain ⟨rfl, hq'⟩ := ht w w' s q w₁ s₁ hq
  cases q
  case error =>
    obtain ⟨rfl, rfl, rfl⟩ := h.unique (Ends.bind_of_error hq)
    exact ⟨rfl, Ends.bind_of_error hq'⟩
  case ok a =>
    obtain ⟨hu, hv⟩ := hf a _ w' _ _ _ _ ((Ends.bind_of_ok hq).mp h)
    exact ⟨hu, (Ends.bind_of_ok hq').mpr hv⟩

theorem ite {p : Prop} [Decidable p] {t' : Talk α} (h : Quiet t) (h' : Quiet t') :
    Quiet (if p then t else t') := by
  split
  · exact h
  · exact h'

end Quiet

-- Whatever a talk returns has a property.
def Returns (P : α → Prop) (t : Talk α) : Prop :=
  ∀ w s a u v, t.Ends w s (.ok a) u v → P a

namespace Returns

variable {P : β → Prop}

theorem of_pure {b : β} (h : P b) : Returns P (pure b) := by
  intro w s b' u v hb
  obtain ⟨heq, _, _⟩ := hb.unique .of_pure
  exact Except.ok.inj heq ▸ h

theorem bind_of (h : ∀ w s a u v, t.Ends w s (.ok a) u v → Returns P (f a)) :
    Returns P (t >>= f) := by
  intro w s b u v hb
  obtain ⟨q, w₁, s₁, hq⟩ := Ends.exists_ends t w s
  cases q
  case error => cases (hb.unique (Ends.bind_of_error hq)).1
  case ok a => exact h _ _ _ _ _ hq _ _ _ _ _ ((Ends.bind_of_ok hq).mp hb)

theorem bind (h : ∀ a, Returns P (f a)) : Returns P (t >>= f) :=
  bind_of fun _ _ a _ _ _ => h a

theorem ite {p : Prop} [Decidable p] {t t' : Talk β} (h : Returns P t) (h' : Returns P t') :
    Returns P (if p then t else t') := by
  split
  · exact h
  · exact h'

end Returns

-- Whether a talk returns something with a property, by running it.
def returnsWith (t : Talk α) (w : Terminal) (s : Session) (p : α → Bool) : Bool :=
  match ((ExceptT.run t).run w).run s with
  | ((.ok a, _), _) => p a
  | ((.error _, _), _) => false

theorem of_returnsWith {p : α → Bool} (hp : returnsWith t w s p) (h : t.Ends w s (.ok a) u v) :
    p a := by
  have hd : ((ExceptT.run t).run w).run s = ((.ok a, u), v) := h
  rwa [returnsWith, hd] at hp

end Cli.Talk

/-! Printing -/

namespace Terminal

-- A terminal that shows text, with styles or without.
structure ShowsText (plain : Bool) (t : Terminal) : Prop where
  json : t.json = false
  plain : t.plain = plain

-- A terminal that shows text shows all of it.
def Prints {α : Type} (plain : Bool) (p : Print α) : Prop :=
  ∀ t : Terminal, t.ShowsText plain → ∃ a t', Ends p t (.ok a) t' ∧ t'.ShowsText plain

-- The line about a warning can be shown with styles, whatever styles its text seems to ask for.
def IsLegible (s : String) : Prop :=
  (Markup.shown ("  " ++ icon {} "warning" ++ " " ++ s)).isOk

theorem icon_eq {t : Terminal} {name : String} (h : t.plain = false) : t.icon name = icon {} name := by
  rw [icon, icon, h]

namespace Prints

variable {α β : Type} {plain : Bool} {p : Print α} {f : α → Print β}

theorem of_pure {a : α} : Prints plain (pure a) :=
  fun t ht => ⟨a, t, rfl, ht⟩

theorem bind (hp : Prints plain p) (hf : ∀ a, Prints plain (f a)) : Prints plain (p >>= f) := by
  intro t ht
  obtain ⟨a, u, hu, hu'⟩ := hp t ht
  obtain ⟨b, v, hv, hv'⟩ := hf a u hu'
  exact ⟨b, v, (Ends.bind_of_ok hu).mpr hv, hv'⟩

theorem get_bind {g : Terminal → Print β} (hg : ∀ t, t.ShowsText plain → Prints plain (g t)) :
    Prints plain (get >>= g) := by
  intro t ht
  obtain ⟨b, v, hv, hv'⟩ := hg t ht t ht
  exact ⟨b, v, Ends.get_bind_iff.mpr hv, hv'⟩

theorem line {s : String} : Prints plain (Terminal.line s) :=
  fun _ ht => ⟨_, _, rfl, ht.json, ht.plain⟩

theorem forM {xs : List α} {g : α → Print PUnit} (hg : ∀ x ∈ xs, Prints plain (g x)) :
    Prints plain (xs.forM g) := by
  induction xs
  case nil => exact .of_pure
  case cons x xs ih =>
    obtain ⟨hx, hxs⟩ := List.forall_mem_cons.mp hg
    exact .bind hx fun _ => ih hxs

theorem textOf {d : Datum} {s : String} (h : d.toText = .ok s) : Prints plain (Terminal.textOf d) :=
  fun t ht => ⟨s, t, by rw [Terminal.textOf, h]; rfl, ht⟩

theorem unlessJson {p : Print Unit} (hp : Prints plain p) : Prints plain (Terminal.unlessJson p) := by
  refine .get_bind fun t ht => ?_
  rw [ht.json]
  exact hp

theorem styled {s : String} (h : (Markup.shown s).isOk) : Prints plain (Terminal.styled s) := by
  rw [Terminal.styled]
  split
  case h_1 => exact line
  case h_2 he =>
    rw [he] at h
    cases h

theorem table {title : String} {rows : List (Datum × Datum)}
    (h : ∀ r ∈ rows, (∃ s, r.1.toText = .ok s) ∧ ∃ s, r.2.toText = .ok s) :
    Prints plain (Terminal.table title rows) := by
  refine .unlessJson (.bind line fun _ => .forM fun r hr => ?_)
  obtain ⟨⟨_, hk⟩, _, hv⟩ := h r hr
  exact .bind (textOf hk) fun _ => .bind (textOf hv) fun _ => line

theorem warningList {ws : List Datum} (htext : ∀ w ∈ ws, w.IsText)
    (h : plain = false → ∀ s, .text s ∈ ws → IsLegible s) :
    Prints plain (Terminal.warningList ws) := by
  refine .unlessJson (.get_bind fun t ht => ?_)
  split
  case isTrue => exact .of_pure
  case isFalse =>
    split
    case isTrue =>
      refine .bind line fun _ => .forM fun w hw => ?_
      obtain ⟨s, rfl⟩ := htext w hw
      exact .bind (.bind (textOf Datum.toText_text) fun _ => .of_pure) fun _ => line
    case isFalse hplain =>
      have hstyles : t.plain = false := by simpa using hplain
      refine .bind (styled (by decide +kernel)) fun _ => .forM fun w hw => ?_
      obtain ⟨s, rfl⟩ := htext w hw
      have hs : Terminal.textOf (.text s) = pure s := by rw [Terminal.textOf, Datum.toText_text]; rfl
      dsimp only
      rw [hs, pure_bind, pure_bind, icon_eq hstyles]
      exact styled (h (ht.plain ▸ hstyles) s hw)

theorem analysisSummary {s : Snapshot} {name detected state : String} (hn : s.name.toText = .ok name)
    (hd : s.architecture.detected.toText = .ok detected)
    (hs : s.dependencies.state.toText = .ok state) : Prints plain (Terminal.analysisSummary s) := by
  refine .get_bind fun t ht => ?_
  rw [ht.json]
  exact .bind (textOf hn) fun _ => .bind (textOf hd) fun _ => .bind (textOf hs) fun _ =>
    .forM fun _ _ => line

end Prints

-- Where a terminal with styles shows warnings, each of them is legible.
theorem legible_of_warningList {ws : List Datum} {t t' : Terminal} {s : String}
    (h : Ends (warningList ws) t (.ok ()) t') (ht : t.ShowsText false) (hs : .text s ∈ ws) :
    IsLegible s := by
  rw [warningList, unlessJson, Ends.get_bind_iff, ht.json] at h
  change Ends (get >>= _) t (.ok ()) t' at h
  rw [Ends.get_bind_iff] at h
  split at h
  case isTrue hempty => exact absurd hs (List.isEmpty_iff.mp hempty ▸ List.not_mem_nil)
  case isFalse =>
    split at h
    case isTrue hplain => exact absurd (ht.plain.symm.trans hplain) Bool.false_ne_true
    case isFalse =>
      obtain ⟨_, _, _, h⟩ := Ends.bind_ok_iff.mp h
      obtain ⟨u, u', h⟩ := Ends.exists_of_forM h hs
      dsimp only at h
      have hitem : textOf (.text s) = pure s := by rw [textOf, Datum.toText_text]; rfl
      rw [hitem, pure_bind, pure_bind, icon_eq ht.plain, styled] at h
      rw [IsLegible]
      split at h
      case h_1 hshown => exact hshown ▸ rfl
      case h_2 => cases (Ends.throw_iff.mp h).1

end Terminal

end Refit
