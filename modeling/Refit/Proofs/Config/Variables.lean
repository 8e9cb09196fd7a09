import Refit.Proofs.Config.Layers
import Refit.Proofs.Text.Basic
import Refit.Proofs.Text.Letter

/-!
What variables of the environment make of a table: the values that they mean, each at its key, and
nothing else.
-/

namespace Refit

/-! Words and numerals in ASCII -/

theorem Letter.ascii_of_toLower {c : Char} (h : c.toLower.toNat < 128) : c.toNat < 128 := by
  delta Char.toLower at h
  split at h
  case isTrue hupper => exact Nat.lt_of_le_of_lt (UInt32.le_iff_toNat_le.mp hupper.2) (by decide)
  case isFalse => exact h

-- A text with a text of ASCII for its lower case is one of ASCII itself.
theorem lowered_of_toLower {s w : String} (hw : ∀ c ∈ w.toList, c.toNat < 128)
    (h : s.toLower = w) : s.lowered = w := by
  have hascii : ∀ c ∈ s.toList, c.toNat < 128 := by
    intro c hc
    refine Letter.ascii_of_toLower (hw _ (h ▸ ?_))
    change _ ∈ (s.map Char.toLower).toList
    rw [String.toList_map]
    exact List.mem_map_of_mem hc
  rw [← h, String.lowered, Text.lowerFrom_ascii hascii]
  change _ = s.map Char.toLower
  rw [← String.toList_inj, String.toList_ofList, String.toList_map]

namespace Number.Literal

def digitOf (c : Char) : Nat :=
  c.toNat - '0'.toNat

theorem digitValue?_of_isDigit {c : Char} (h : c.isDigit) :
    Letter.digitValue? c = some (digitOf c) := by
  have hascii : c.toNat < 128 :=
    Nat.lt_of_le_of_lt (Char.isDigit_iff_toNat.mp h).2 (by decide)
  rw [Letter.digitValue?, if_pos hascii, if_pos h]
  rfl

theorem go_of_digits {seen : List Nat} {s : List Char} (h : ∀ c ∈ s, c.isDigit) :
    digitsBy?.go Letter.digitValue? seen s = some (seen.reverse ++ s.map digitOf) := by
  induction s generalizing seen
  case nil => simp [digitsBy?.go]
  case cons c s ih =>
    obtain ⟨hc, hs⟩ := List.forall_mem_cons.mp h
    rw [digitsBy?.go.eq_def]
    split
    case h_1 heq => cases heq
    case h_2 heq =>
      obtain ⟨rfl, _⟩ := List.cons.inj heq
      cases hc
    case h_3 heq =>
      obtain ⟨rfl, rfl⟩ := List.cons.inj heq
      rw [digitValue?_of_isDigit hc]
      simpa using @ih (digitOf c :: seen) hs

theorem sign_of_digits {s : List Char} (h : ∀ c ∈ s, c.isDigit) : sign s = (false, s) := by
  rw [sign.eq_def]
  split
  case h_1 => cases h '-' (.head _)
  case h_2 => cases h '+' (.head _)
  case h_3 => rfl

theorem digits?_of_digits {s : List Char} (hne : s ≠ []) (h : ∀ c ∈ s, c.isDigit) :
    digits? s = some (s.map digitOf) := by
  obtain ⟨c, cs, rfl⟩ := List.exists_cons_of_ne_nil hne
  obtain ⟨hc, hcs⟩ := List.forall_mem_cons.mp h
  rw [digits?, digitsBy?, digitValue?_of_isDigit hc]
  exact go_of_digits hcs

theorem ofDigits_digitOf {s : List Char} :
    ofDigits 10 (s.map digitOf) = Nat.ofDigitChars 10 s 0 := by
  rw [ofDigits, Nat.ofDigitChars, List.foldl_map]
  simp only [digitOf, Nat.mul_comm]

theorem not_isBlank_of_isDigit {c : Char} (h : c.isDigit) : ¬ Letter.isBlank c := by
  refine Letter.not_isBlank_of_isWord ?_
  have hascii : c.toNat < 128 := Nat.lt_of_le_of_lt (Char.isDigit_iff_toNat.mp h).2 (by decide)
  simp [Letter.isWord, hascii, Char.isAlphanum, h]

theorem trim_of_digits {p : Char → Bool} {s : List Char} (hp : ∀ c, p c → Letter.isBlank c)
    (h : ∀ c ∈ s, c.isDigit) : Text.trim p s = s := by
  have hnot : ∀ c ∈ s, ¬ p c := fun c hc hpc => not_isBlank_of_isDigit (h c hc) (hp c hpc)
  exact Text.trim_eq_self_iff.mpr ⟨fun c hc => hnot c (List.mem_of_mem_head? hc),
    fun c hc => hnot c (List.mem_of_mem_getLast? hc)⟩

theorem integer_of_digits {s : String} (hne : s ≠ "") (hlength : s.length ≤ 4300)
    (h : ∀ c ∈ s.toList, c.isDigit) :
    integer s = .value (Int.ofNat (Nat.ofDigitChars 10 s.toList 0)) := by
  have hspace : ∀ c, Letter.isSpace c → Letter.isBlank c := fun c hc =>
    (Bool.and_eq_true_iff.mp hc).1
  have hnil : s.toList ≠ [] := mt String.toList_eq_nil_iff.mp hne
  have hshort : ¬ maxDigits < (s.toList.map digitOf).length := by
    rw [List.length_map, String.length_toList]
    exact Nat.not_lt.mpr hlength
  rw [integer, trim_of_digits hspace h, sign_of_digits h]
  dsimp only
  rw [digits?_of_digits hnil h]
  dsimp only
  rw [if_neg hshort, if_neg Bool.false_ne_true, ofDigits_digitOf]

end Number.Literal

namespace Config

/-! What a variable means -/

-- What a text means for a setting, by the built-in value.
inductive Means : Datum → String → Datum → Prop
  | yes {b : Bool} {s : String} : s.toLower ∈ ["true", "1", "yes"] → Means (.bool b) s (.bool true)
  | no {b : Bool} {s : String} : s.toLower ∈ ["false", "0", "no"] → Means (.bool b) s (.bool false)
  | number {i : Int} {s : String} : s ≠ "" → s.length ≤ 4300 → (∀ c ∈ s.toList, c.isDigit) →
      Means (.int i) s (.int (Int.ofNat (Nat.ofDigitChars 10 s.toList 0)))
  | text {t s : String} : Means (.text t) s (.text s)

theorem truthOf?_of_toLower {s : String} {b : Bool}
    (h : s.toLower ∈ if b then ["true", "1", "yes"] else ["false", "0", "no"]) :
    truthOf? s = some b := by
  have hascii : ∀ w ∈ ["true", "1", "yes", "false", "0", "no"], ∀ c ∈ w.toList, c.toNat < 128 := by
    decide
  have hmem : s.toLower ∈ ["true", "1", "yes", "false", "0", "no"] := by
    cases b
    · exact List.mem_append_right ["true", "1", "yes"] h
    · exact List.mem_append_left ["false", "0", "no"] h
  rw [truthOf?, lowered_of_toLower (hascii _ hmem) rfl]
  cases b
  case true =>
    have hyes : ["true", "1", "yes"].contains s.toLower := List.contains_iff_mem.mpr h
    rw [if_pos hyes]
  case false =>
    have hdisjoint : ∀ w ∈ ["false", "0", "no"], ¬ ["true", "1", "yes"].contains w := by decide
    have hno : ["false", "0", "no"].contains s.toLower := List.contains_iff_mem.mpr h
    rw [if_neg (hdisjoint _ h), if_pos hno]

theorem isNumeral_of_digits {s : String} (hne : s ≠ "") (h : ∀ c ∈ s.toList, c.isDigit) :
    isNumeral s := by
  have hdigit : ∀ c ∈ s.toList, Letter.isDigit c := by
    intro c hc
    have hascii : c.toNat < 128 :=
      Nat.lt_of_le_of_lt (Char.isDigit_iff_toNat.mp (h c hc)).2 (by decide)
    rw [Letter.isDigit, if_pos hascii, h c hc]
  rw [isNumeral, String.stripped, Number.Literal.trim_of_digits (fun _ h => h) h,
    String.toList_ofList]
  simpa [hne] using hdigit

theorem coerce_of_means {builtIn v : Datum} {s : String} (h : Means builtIn s v) :
    coerce s builtIn = .ok v := by
  cases h
  case yes h => rw [coerce, @truthOf?_of_toLower s true h, Option.getD_some]
  case no h => rw [coerce, @truthOf?_of_toLower s false h, Option.getD_some]
  case number hne hlength h =>
    rw [coerce, if_pos (isNumeral_of_digits hne h), Datum.readInteger,
      Number.Literal.integer_of_digits hne hlength h]
    rfl
  case text => rfl

theorem keyed_of_means {builtIn v : Datum} {s : String} (h : Means builtIn s v) : Keyed v := by
  cases h
  all_goals exact .leaf nofun nofun

/-! Laying variables over a table -/

-- The keys that variables set, of which none leads into another.
def Apart (vs : List (String × String)) : Prop :=
  vs.Pairwise fun a b => ¬ path a.2 <+: path b.2 ∧ ¬ path b.2 <+: path a.2

variable {environment : String → Option String} {vs : List (String × String)} {es : Dict}

theorem overlay_cons_of_coerce {e : String × String} {s : String} {v : Datum}
    (henv : environment e.1 = some s) (hv : coerce s (lookup (.dict defaults) e.2) = .ok v) :
    overlay environment (e :: vs) es = overlay environment vs (assign es e.2 v) := by
  rw [overlay, henv]
  dsimp only
  rw [hv]
  rfl

-- Variables whose texts are taken are found at their keys, and everything else stays.
theorem exists_overlay (hes : Keyed (.dict es)) (happart : Apart vs)
    (htaken : ∀ e ∈ vs, ∀ s, environment e.1 = some s →
      ∃ v, coerce s (lookup (.dict defaults) e.2) = .ok v ∧ Keyed v) :
    ∃ data, overlay environment vs es = .ok data ∧ Keyed (.dict data) ∧
      (∀ e ∈ vs, ∀ s v, environment e.1 = some s →
        coerce s (lookup (.dict defaults) e.2) = .ok v → find? (path e.2) (.dict data) = some v) ∧
      ∀ ks, (∀ e ∈ vs, (environment e.1).isSome → ¬ ks <+: path e.2 ∧ ¬ path e.2 <+: ks) →
        find? ks (.dict data) = find? ks (.dict es) := by
  induction vs generalizing es
  case nil => exact ⟨es, rfl, hes, nofun, fun _ _ => rfl⟩
  case cons e vs ih =>
    obtain ⟨name, key⟩ := e
    obtain ⟨hown, htaken⟩ := List.forall_mem_cons.mp htaken
    obtain ⟨hfirst, happart⟩ := List.pairwise_cons.mp happart
    cases henv : environment name
    case none =>
      obtain ⟨data, hdata, hkeyed, hset, hrest⟩ := ih hes happart htaken
      refine ⟨data, by rw [overlay, henv, hdata], hkeyed, ?_, fun ks hks => ?_⟩
      · refine List.forall_mem_cons.mpr ⟨fun s v hs _ => ?_, hset⟩
        rw [henv] at hs
        cases hs
      · exact hrest ks (List.forall_mem_cons.mp hks).2
    case some s =>
      obtain ⟨v, hv, hkeyedv⟩ := hown s henv
      have hassigned : Keyed (.dict (assign es key v)) := hes.assignAt hkeyedv
      obtain ⟨data, hdata, hkeyed, hset, hrest⟩ := ih hassigned happart htaken
      refine ⟨data, ?_, hkeyed, List.forall_mem_cons.mpr ⟨fun s' v' hs' hv' => ?_, hset⟩,
        fun ks hks => ?_⟩
      · rw [overlay_cons_of_coerce henv hv, hdata]
      · obtain rfl := Option.some.inj (henv.symm.trans hs')
        obtain rfl := Except.ok.inj (hv.symm.trans hv')
        rw [hrest _ fun e he _ => hfirst e he]
        exact find?_assignAt_self hes hkeyedv path_ne_nil
      · obtain ⟨hkey, hks⟩ := List.forall_mem_cons.mp hks
        obtain ⟨hto, hthrough⟩ := hkey (henv ▸ rfl)
        rw [hrest ks hks, assign, find?_assignAt hes ⟨hto, hthrough⟩]

end Config

end Refit
