import Refit.Cli.Program
import Refit.Proofs.Config.Paths

/-!
A switch in front of the words of a command line: the other words are read as they are without it.
-/

namespace Refit

theorem Dict.Named.set {es : Dict} {k : String} {v : Datum} (h : Dict.Named es) :
    Dict.Named (es.set k v) := by
  rw [Dict.set]
  induction es
  case nil => exact List.forall_mem_singleton.mpr ⟨k, rfl⟩
  case cons e es ih =>
    obtain ⟨he, hes⟩ := List.forall_mem_cons.mp h
    rw [Dict.put]
    split
    case isTrue => exact List.forall_mem_cons.mpr ⟨he, hes⟩
    case isFalse => exact List.forall_mem_cons.mpr ⟨he, ih hes⟩

namespace Cli

open Dict (Named)

variable {key k : String} {a b : Dict} {l l' : Line} {f : Flag} {g : Grammar} {ws : List String}

-- Options that are the same but for a switch, which is on in the second ones.
structure SwitchedOn (key : String) (a b : Dict) : Prop where
  named : Named a
  named' : Named b
  same : ∀ k ≠ key, b.get? k = a.get? k
  on : b.get? key = some (.bool true)

namespace SwitchedOn

theorem set {v : Datum} (h : SwitchedOn key a b) (hv : k = key → v = .bool true) :
    SwitchedOn key (a.set k v) (b.set k v) where
  named := h.named.set
  named' := h.named'.set
  same := fun q hq => by rw [Dict.get?_set h.named, Dict.get?_set h.named', h.same q hq]
  on := by
    rw [Dict.get?_set h.named', h.on]
    split
    case isTrue hk => rw [hv hk.symm]
    case isFalse => rfl

theorem get (h : SwitchedOn key a b) (hk : k ≠ key) {fallback : Datum} :
    b.get k fallback = a.get k fallback := by
  rw [Dict.get, Dict.get, h.same k hk]

end SwitchedOn

-- Lines with the same words, whose options are the same but for a switch.
structure Line.Beside (key : String) (l l' : Line) : Prop where
  given : SwitchedOn key l.given l'.given
  words : l'.words = l.words

-- The same refusal, or results that are related.
def Alike {α β : Type} (R : α → β → Prop) : Except Refusal α → Except Refusal β → Prop
  | .ok a, .ok b => R a b
  | .error e, .error e' => e = e'
  | _, _ => False

theorem Alike.bind {α β γ δ : Type} {R : α → β → Prop} {S : γ → δ → Prop} {x : Except Refusal α}
    {y : Except Refusal β} {p : α → Except Refusal γ} {q : β → Except Refusal δ} (h : Alike R x y)
    (hpq : ∀ a b, x = .ok a → R a b → Alike S (p a) (q b)) : Alike S (x >>= p) (y >>= q) := by
  cases x
  case error =>
    cases y
    case error => exact h
    case ok => cases h
  case ok =>
    cases y
    case error => cases h
    case ok => exact hpq _ _ rfl h

namespace Grammar

-- A grammar in which a key stands for a switch and for nothing else.
structure Switches (g : Grammar) (key : String) : Prop where
  flags : ∀ f ∈ help :: g.flags, f.key = key → f.kind = .switch true
  positions : ∀ p ∈ g.positions, p.1 ≠ key

theorem note_beside {v : String} (hf : f.key = key → f.kind = .switch true) (h : l.Beside key l') :
    (l.note f v).Beside key (l'.note f v) := by
  rw [Line.note, Line.note]
  cases hb : f.kind
  case switch b =>
    refine ⟨h.given.set fun hk => ?_, h.words⟩
    rw [Kind.switch.inj (hb.symm.trans (hf hk))]
  case words =>
    have hk : f.key ≠ key := fun hk => by cases hb.symm.trans (hf hk)
    dsimp only
    rw [h.given.get hk]
    exact ⟨h.given.set fun hk' => absurd hk' hk, h.words⟩
  all_goals exact ⟨h.given.set fun hk => (by cases hb.symm.trans (hf hk)), h.words⟩

-- Lines beside each other, with the same words to come, which are no more than those before.
def Onward (key : String) (n : Nat) (x y : Line × List String) : Prop :=
  x.1.Beside key y.1 ∧ y.2 = x.2 ∧ x.2.length ≤ n

theorem take_alike {n : Nat} (hf : f.key = key → f.kind = .switch true) (h : l.Beside key l')
    (hn : if Line.takesValue f then ws.length ≤ n + 1 else ws.length ≤ n) :
    Alike (Onward key n) (take f l ws) (take f l' ws) := by
  rw [take.eq_def, take.eq_def]
  split
  case isTrue hv =>
    rw [if_pos hv] at hn
    cases ws
    case nil => rfl
    case cons v ws => exact ⟨note_beside hf h, rfl, Nat.le_of_succ_le_succ hn⟩
  case isFalse hv =>
    rw [if_neg hv] at hn
    exact ⟨note_beside hf h, rfl, hn⟩

theorem mem_of_flag? {name : String} (h : g.flag? name = some f) : f ∈ help :: g.flags :=
  List.mem_of_find?_eq_some h

theorem long_alike {w : String} (hg : g.Switches key) (h : l.Beside key l') :
    Alike (Onward key ws.length) (g.long w l ws) (g.long w l' ws) := by
  rw [long, long]
  obtain ⟨name, value⟩ := splitValue w
  dsimp only
  cases hf : g.flag? name
  case none => rfl
  case some f =>
    have hkind := hg.flags f (mem_of_flag? hf)
    cases value
    case none =>
      refine take_alike hkind h ?_
      split
      · exact Nat.le_succ _
      · exact Nat.le_refl _
    case some v =>
      dsimp only
      split
      case isTrue hv => exact take_alike hkind h (by rw [if_pos hv]; exact Nat.le_refl _)
      case isFalse => rfl

theorem short_alike {n : Nat} {cs : List Char} (hg : g.Switches key) (h : l.Beside key l')
    (hn : ws.length ≤ n) : Alike (Onward key n) (g.short cs l ws) (g.short cs l' ws) := by
  induction cs generalizing l l' ws
  case nil => exact ⟨h, rfl, hn⟩
  case cons c cs ih =>
    rw [short, short]
    split
    case h_1 => rfl
    case h_2 f hf =>
      have hkind := hg.flags f (mem_of_flag? hf)
      split
      case isTrue hv =>
        refine take_alike hkind h ?_
        rw [if_pos hv]
        split
        · exact Nat.le_succ_of_le hn
        · exact Nat.succ_le_succ hn
      case isFalse hv =>
        have hfits : if Line.takesValue f then ws.length ≤ n + 1 else ws.length ≤ n := by
          rw [if_neg hv]
          exact hn
        refine (take_alike hkind h hfits).bind ?_
        rintro ⟨l, rest⟩ ⟨l', rest'⟩ - ⟨hl, rfl, hrest⟩
        exact ih hl hrest

-- Enough of a bound does not matter.
theorem readFrom_alike {n m : Nat} (hg : g.Switches key) (h : l.Beside key l')
    (hn : ws.length ≤ n) (hm : ws.length ≤ m) :
    Alike (Line.Beside key) (g.readFrom n l ws) (g.readFrom m l' ws) := by
  induction n generalizing m l l' ws
  case zero =>
    obtain rfl := List.eq_nil_of_length_eq_zero (Nat.le_zero.mp hn)
    cases m
    case zero => exact h
    case succ => exact h
  case succ n ih =>
    cases ws
    case nil =>
      cases m
      case zero => exact h
      case succ => exact h
    case cons w rest =>
      obtain ⟨m, rfl⟩ := Nat.exists_eq_succ_of_ne_zero (Nat.ne_of_gt (Nat.lt_of_lt_of_le
        (Nat.zero_lt_succ _) hm))
      replace hn : rest.length ≤ n := Nat.le_of_succ_le_succ hn
      replace hm : rest.length ≤ m := Nat.le_of_succ_le_succ hm
      have hwords {ws : List String} : Line.Beside key { l with words := l.words ++ ws }
          { l' with words := l'.words ++ ws } := ⟨h.given, by rw [h.words]⟩
      have honward {x y : Line × List String} (hxy : Onward key rest.length x y) :
          Alike (Line.Beside key) (g.readFrom n x.1 x.2) (g.readFrom m y.1 y.2) := by
        obtain ⟨hl, hrest, hlength⟩ := hxy
        rw [hrest]
        exact ih hl (Nat.le_trans hlength hn) (Nat.le_trans hlength hm)
      rw [readFrom, readFrom]
      split
      case isTrue => exact hwords
      case isFalse =>
        split
        case isTrue =>
          split
          case isTrue => exact (long_alike hg h).bind fun x y _ hxy => honward hxy
          case isFalse =>
            exact (short_alike hg h (Nat.le_refl _)).bind fun x y _ hxy => honward hxy
        case isFalse =>
          split
          case isTrue => exact ih hwords hn hm
          case isFalse => exact hwords

theorem fill_alike {ps : List (String × Option String)} (hp : ∀ p ∈ ps, p.1 ≠ key)
    (h : SwitchedOn key a b) : Alike (SwitchedOn key) (fill ps ws a) (fill ps ws b) := by
  induction ps generalizing ws a b
  case nil =>
    cases ws
    case nil => exact h
    case cons => rfl
  case cons p ps ih =>
    obtain ⟨k, fallback⟩ := p
    obtain ⟨hk, hps⟩ := List.forall_mem_cons.mp hp
    have hset {v : Datum} : SwitchedOn key (a.set k v) (b.set k v) := h.set fun heq => absurd heq hk
    cases fallback
    case none =>
      cases ws
      case nil => rfl
      case cons => exact ih hps hset
    case some =>
      cases ws
      case nil => exact ih hps hset
      case cons => exact ih hps hset

theorem numbers_alike (hf : f.key = key → f.kind = .switch true) (h : SwitchedOn key a b) :
    Alike (SwitchedOn key) (numbers a f) (numbers b f) := by
  rw [numbers.eq_def, numbers.eq_def]
  by_cases hk : f.key = key
  case pos =>
    rw [hf hk]
    exact h
  case neg =>
    rw [h.get hk]
    split
    case h_1 =>
      split
      case h_1 => exact h.set fun heq => absurd heq hk
      case h_2 => rfl
    case h_2 => exact h

theorem foldlM_numbers_alike {fs : List Flag} (hf : ∀ f ∈ fs, f.key = key → f.kind = .switch true)
    (h : SwitchedOn key a b) :
    Alike (SwitchedOn key) (fs.foldlM numbers a) (fs.foldlM numbers b) := by
  induction fs generalizing a b
  case nil => exact h
  case cons f fs ih =>
    obtain ⟨hf, hfs⟩ := List.forall_mem_cons.mp hf
    rw [List.foldlM_cons, List.foldlM_cons]
    exact (numbers_alike hf h).bind fun _ _ _ hab => ih hfs hab

-- A switch is noted, whatever follows it.
theorem readFrom_switch {name : String} {n : Nat} (hf : g.flag? name = some f)
    (hswitch : Line.takesValue f = false) (hname : name ≠ "--" ∧ isOption name ∧ isLong name)
    (hsplit : splitValue name = (name, none)) :
    g.readFrom (n + 1) l (name :: ws) = g.readFrom n (l.note f "") ws := by
  have hlong : g.long name l ws = .ok (l.note f "", ws) := by
    rw [long, hsplit]
    dsimp only
    rw [hf]
    exact if_neg (by rw [hswitch]; exact Bool.false_ne_true)
  rw [readFrom, if_neg (by rw [beq_iff_eq]; exact hname.1), if_pos hname.2.1, if_pos hname.2.2,
    hlong]
  rfl

-- With the switch for JSON in front, a command line is read as without it, but for the switch.
theorem parse_json_alike (hg : g.Switches "json") (hj : g.flag? "--json" = some json) :
    Alike (SwitchedOn "json") (g.parse ws) (g.parse ("--json" :: ws)) := by
  have hread : g.readFrom (2 * ("--json" :: ws).length + 1) {} ("--json" :: ws) =
      g.readFrom (2 * ws.length + 2) (Line.note {} json "") ws :=
    readFrom_switch hj rfl (by decide +kernel) (by decide +kernel)
  have hstart : Line.Beside "json" {} (Line.note {} json "") :=
    ⟨⟨List.forall_mem_nil _, List.forall_mem_singleton.mpr ⟨_, rfl⟩,
      fun k hk => by simp [Line.note, json, Dict.set, Dict.put, Dict.get?, hk.symm], rfl⟩, rfl⟩
  rw [parse, parse, read, read, hread]
  refine Alike.bind (R := Line.Beside "json") ?_ fun l l' _ hl => ?_
  case refine_1 =>
    refine (readFrom_alike hg hstart (by omega) (by omega)).bind fun l l' _ hl => ?_
    have hhelp : l'.given.has help.key = l.given.has help.key := by
      rw [Dict.has, Dict.has, hl.given.same _ (by decide)]
    rw [hhelp]
    split
    case isTrue => rfl
    case isFalse => exact hl
  case refine_2 =>
    refine (foldlM_numbers_alike (fun f hf => hg.flags f (.tail _ hf)) hl.given).bind
      fun _ _ _ hab => ?_
    rw [hl.words]
    exact fill_alike hg.positions hab

-- So either both lines are refused, or both are read.
theorem parse_json_cases (hg : g.Switches "json") (hj : g.flag? "--json" = some json) :
    (∃ c, g.parse ws = .error c ∧ g.parse ("--json" :: ws) = .error c) ∨
      ∃ a b, g.parse ws = .ok a ∧ g.parse ("--json" :: ws) = .ok b ∧ SwitchedOn "json" a b := by
  have halike := @parse_json_alike g ws hg hj
  cases ha : g.parse ws
  all_goals cases hb : g.parse ("--json" :: ws)
  all_goals rw [ha, hb] at halike
  case error.error => exact .inl ⟨_, rfl, congrArg Except.error halike.symm⟩
  case error.ok => cases halike
  case ok.error => cases halike
  case ok.ok => exact .inr ⟨_, _, rfl, rfl, halike⟩

end Grammar

end Cli

end Refit
