import Refit.Proofs.Source.Path
import Refit.Source.File

/-!
Names of classes and modules, the words that they are made of, and the paths that are made of these.

Of a name of letters and digits, its words lose nothing but whether it begins with a capital: a line
before a letter in the words stands for a capital in the name.
-/

namespace Refit

namespace Letter

-- The characters of identifiers in ASCII.
def isName (c : Char) : Bool :=
  isAsciiUpper c || isAsciiLower c || isAsciiDigit c || c == '_'

variable {c x : Char} {n : Nat}

section

variable {α : Type} {first last : α → Nat} {table : Array α} {r : α}

-- A row that is found is one of the table, and has the number.
theorem row?_eq_some (h : row? first last table n = some r) :
    r ∈ table ∧ first r ≤ n ∧ n ≤ last r := by
  have hsearch (k lo hi : Nat) (h : row?.search first last table n k lo hi = some r) :
      r ∈ table ∧ first r ≤ n ∧ n ≤ last r := by
    induction k generalizing lo hi
    case zero => cases h
    case succ k ih =>
      rw [row?.search] at h
      split at h
      case isFalse => cases h
      case isTrue =>
        dsimp only at h
        split at h
        case h_1 => cases h
        case h_2 q hq =>
          split at h
          case isTrue => exact ih _ _ h
          case isFalse hfirst =>
            split at h
            case isTrue => exact ih _ _ h
            case isFalse hlast =>
              obtain rfl := Option.some.inj h
              exact ⟨Array.mem_of_getElem? hq, Nat.le_of_not_lt hfirst, Nat.le_of_not_lt hlast⟩
  exact hsearch 32 0 table.size h

end

-- The lower case forms in the table are characters, and none is among the first signs of ASCII.
theorem valid_shifted_lower (hv : n.isValidChar) (h : 47 < n) :
    (shifted Table.lower n).isValidChar ∧ 47 < shifted Table.lower n := by
  have hall : Table.lower.all fun r => 47 < Int.ofNat r.1 + r.2.2.2 ∧
      (Int.ofNat r.2.1 + r.2.2.2 < 0xD800 ∨
        0xDFFF < Int.ofNat r.1 + r.2.2.2 ∧ Int.ofNat r.2.1 + r.2.2.2 < 0x110000) := by
    decide +kernel
  rw [shifted]
  split
  case h_1 => exact ⟨hv, h⟩
  case h_2 first _ step shift hrow =>
    obtain ⟨hmem, hfirst, hlast⟩ := row?_eq_some hrow
    split
    case isFalse => exact ⟨hv, h⟩
    case isTrue =>
      have hshift := of_decide_eq_true (Array.all_eq_true_iff_forall_mem.mp hall _ hmem)
      simp only [Int.ofNat_eq_natCast] at hshift hlast ⊢
      rw [Nat.isValidChar]
      omega

-- The first signs of ASCII are the lower case form of nothing but themselves.
theorem eq_of_mem_lower (h : x ∈ lower c) (hx : x.toNat ≤ 47) : x = c := by
  have hof {n : Nat} (hv : n.isValidChar) (hn : 47 < n) : x ≠ Char.ofNat n := by
    rintro rfl
    have hval : (Char.ofNat n).toNat = n := congrArg Char.toNat (dif_pos hv)
    omega
  rw [lower] at h
  split at h
  case isTrue hlt =>
    have hlower := List.mem_singleton.mp h
    split at hlower
    case isTrue hupper =>
      simp only [isAsciiUpper, Bool.and_eq_true, decide_eq_true_eq, Char.le_def,
        UInt32.le_iff_toNat_le] at hupper
      have hlarge : 65 ≤ c.toNat := hupper.1
      exact absurd hlower (hof (.inl (by omega)) (by omega))
    case isFalse => exact hlower
  case isFalse hlt =>
    split at h
    case isTrue =>
      rcases List.mem_pair.mp h with rfl | rfl
      · exact absurd hx (by decide)
      · exact absurd hx (by decide)
    case isFalse =>
      have hbehind : 47 < c.toNat := by omega
      obtain ⟨hv, hlarge⟩ := valid_shifted_lower c.valid hbehind
      exact absurd (List.mem_singleton.mp h) (hof hv hlarge)

end Letter

-- Whether a text is an identifier in ASCII.
def isIdentifier (s : String) : Bool :=
  s.toList.all Letter.isName && s.toList.head?.any (! Letter.isAsciiDigit ·)

-- A letter of a word in lower case is that of one of its characters, or a sigma.
theorem Text.exists_of_mem_lowerFrom {seen cs : List Char} {x : Char}
    (hx : x ∈ lowerFrom seen cs) : ∃ c ∈ cs, x ∈ Letter.lower c ∨ (128 ≤ c.toNat ∧ 128 ≤ x.toNat) := by
  induction cs generalizing seen
  case nil => cases hx
  case cons c cs ih =>
    rw [lowerFrom, List.mem_append] at hx
    rcases hx with hx | hx
    case inl =>
      refine ⟨c, .head _, ?_⟩
      split at hx
      case isTrue hs =>
        refine .inr ⟨by rw [eq_of_beq hs]; decide, ?_⟩
        rw [List.mem_singleton.mp hx]
        split <;> decide
      case isFalse => exact .inl hx
    case inr =>
      obtain ⟨d, hd, hx⟩ := ih hx
      exact ⟨d, .tail _ hd, hx⟩

theorem exists_of_mem_snakeCase {s : String} {x : Char} (hx : x ∈ (snakeCase s).toList) :
    ∃ c ∈ '_' :: s.toList, x ∈ Letter.lower c ∨ (128 ≤ c.toNat ∧ 128 ≤ x.toNat) := by
  rw [snakeCase, String.toList_ofList] at hx
  obtain ⟨c, hc, hx⟩ := Text.exists_of_mem_lowerFrom (List.dropWhile_subset _ hx)
  refine ⟨c, ?_, hx⟩
  obtain ⟨d, hd, hc⟩ := List.mem_flatMap.mp hc
  split at hc
  · rcases List.mem_pair.mp hc with rfl | rfl
    · exact .head _
    · exact .tail _ hd
  · exact .tail _ (List.mem_singleton.mp hc ▸ hd)

-- The words of a name have no signs that the name does not have.
theorem not_mem_snakeCase {s : String} {x : Char} (hx : x.toNat ≤ 47) (h : x ∉ s.toList) :
    x ∉ (snakeCase s).toList := by
  intro hmem
  obtain ⟨c, hc, hlower | ⟨_, hlarge⟩⟩ := exists_of_mem_snakeCase hmem
  case inl =>
    obtain rfl := Letter.eq_of_mem_lower hlower hx
    rcases List.mem_cons.mp hc with rfl | hc
    · exact absurd hx (by decide)
    · exact h hc
  case inr => omega

/-! Words and what they come from -/

namespace Letter

-- A letter or a digit in ASCII.
def isAlnum (c : Char) : Bool :=
  isAsciiUpper c || isAsciiLower c || isAsciiDigit c

variable {c : Char}

theorem toNat_lt_of_isAlnum (h : isAlnum c) : c.toNat < 128 := by
  simp only [isAlnum, isAsciiUpper, isAsciiLower, isAsciiDigit, Bool.or_eq_true, Bool.and_eq_true,
    decide_eq_true_eq, Char.le_def, UInt32.le_iff_toNat_le] at h
  rcases h with (⟨_, h⟩ | ⟨_, h⟩) | ⟨_, h⟩
  · exact Nat.lt_of_le_of_lt h (by decide)
  · exact Nat.lt_of_le_of_lt h (by decide)
  · exact Nat.lt_of_le_of_lt h (by decide)

theorem ne_line_of_isAlnum (h : isAlnum c) : c ≠ '_' := by
  rintro rfl
  exact absurd h (by decide)

theorem toLower_of_not_upper (h : ¬isAsciiUpper c) : c.toLower = c := by
  delta Char.toLower
  exact dif_neg fun hc => h (by simpa [isAsciiUpper, Char.le_def] using hc)

-- A capital comes back from its lower case.
theorem toUpper_toLower (h : isAsciiUpper c) : c.toLower ≠ '_' ∧ c.toLower.toUpper = c := by
  have hall : ∀ n < 128, isAsciiUpper (Char.ofNat n) →
      (Char.ofNat n).toLower ≠ '_' ∧ (Char.ofNat n).toLower.toUpper = Char.ofNat n := by
    decide +kernel
  have hascii : c.toNat < 128 := toNat_lt_of_isAlnum (by simp [isAlnum, h])
  rw [← Char.ofNat_toNat c] at h ⊢
  exact hall _ hascii h

end Letter

namespace Text

variable {c : Char} {s : List Char}

-- A text with a line and a small letter for each capital.
def spread (s : List Char) : List Char :=
  s.flatMap fun c => if Letter.isAsciiUpper c then ['_', c.toLower] else [c]

-- The text that was spread.
def unspread : List Char → List Char
  | [] => []
  | '_' :: c :: s => c.toUpper :: unspread s
  | c :: s => c :: unspread s

theorem spread_cons_upper (h : Letter.isAsciiUpper c) :
    spread (c :: s) = '_' :: c.toLower :: spread s := by
  rw [spread, List.flatMap_cons, if_pos h]
  rfl

theorem spread_cons (h : ¬Letter.isAsciiUpper c) : spread (c :: s) = c :: spread s := by
  rw [spread, List.flatMap_cons, if_neg h]
  rfl

theorem unspread_cons (h : c ≠ '_') : unspread (c :: s) = c :: unspread s := by
  rw [unspread.eq_def]
  split
  case h_1 heq => cases heq
  case h_2 heq => exact absurd (List.cons.inj heq).1 h
  case h_3 heq =>
    obtain ⟨rfl, rfl⟩ := List.cons.inj heq
    rfl

theorem unspread_spread (h : ∀ c ∈ s, Letter.isAlnum c) : unspread (spread s) = s := by
  induction s
  case nil => rfl
  case cons c s ih =>
    obtain ⟨hc, hs⟩ := List.forall_mem_cons.mp h
    by_cases hupper : Letter.isAsciiUpper c
    case pos => rw [spread_cons_upper hupper, unspread, (Letter.toUpper_toLower hupper).2, ih hs]
    case neg => rw [spread_cons hupper, unspread_cons (Letter.ne_line_of_isAlnum hc), ih hs]

end Text

section

variable {s t : String}

theorem toList_snakeCase (h : ∀ c ∈ s.toList, c.toNat < 128) :
    (snakeCase s).toList = (Text.spread s.toList).dropWhile (· == '_') := by
  have hascii : ∀ c ∈ s.toList.flatMap fun c => if Letter.isAsciiUpper c then ['_', c] else [c],
      c.toNat < 128 := by
    intro x hx
    obtain ⟨c, hc, hx⟩ := List.mem_flatMap.mp hx
    split at hx
    case isTrue =>
      rcases List.mem_pair.mp hx with rfl | rfl
      · decide
      · exact h _ hc
    case isFalse => exact List.mem_singleton.mp hx ▸ h _ hc
  rw [snakeCase, String.toList_ofList, Text.lowerFrom_ascii hascii, List.map_flatMap, Text.spread]
  refine congrArg _ (List.flatMap_congr fun c _ => ?_)
  split
  case isTrue => rfl
  case isFalse hupper => rw [List.map_singleton, Letter.toLower_of_not_upper hupper]

-- A name of letters and digits in ASCII.
def isAlnum (s : String) : Bool :=
  s.toList.all Letter.isAlnum

-- A name that begins with a capital.
def isCapital (s : String) : Bool :=
  s.toList.head?.any Letter.isAsciiUpper

-- A name as a class has it.
def isClassName (s : String) : Bool :=
  isAlnum s && isCapital s

-- The name that has these words, with or without a capital at its beginning.
def ofWords (capital : Bool) (words : String) : String :=
  .ofList (Text.unspread (if capital then '_' :: words.toList else words.toList))

theorem spread_of_isAlnum (h : isAlnum s) : Text.spread s.toList =
    if isCapital s then '_' :: (snakeCase s).toList else (snakeCase s).toList := by
  have hall : ∀ c ∈ s.toList, Letter.isAlnum c := List.all_eq_true.mp h
  rw [toList_snakeCase fun c hc => Letter.toNat_lt_of_isAlnum (hall c hc), isCapital]
  cases hs : s.toList
  case nil => rfl
  case cons c cs =>
    by_cases hupper : Letter.isAsciiUpper c
    case pos => simp [Text.spread_cons_upper hupper, hupper, (Letter.toUpper_toLower hupper).1]
    case neg =>
      have hline : c ≠ '_' := Letter.ne_line_of_isAlnum (hall c (hs ▸ List.mem_cons_self ..))
      simp [Text.spread_cons hupper, hupper, hline]

theorem ofWords_snakeCase (h : isAlnum s) : ofWords (isCapital s) (snakeCase s) = s := by
  rw [ofWords, ← spread_of_isAlnum h, Text.unspread_spread (List.all_eq_true.mp h),
    String.ofList_toList]

-- Names that begin alike have the same words only if they are the same.
theorem snakeCase_inj (hs : isAlnum s) (ht : isAlnum t) (hc : isCapital s = isCapital t) :
    snakeCase s = snakeCase t ↔ s = t := by
  constructor
  · intro h
    rw [← ofWords_snakeCase hs, ← ofWords_snakeCase ht, hc, h]
  · exact fun h => h ▸ rfl

end

/-! Paths -/

theorem Text.mem_join {sep : List Char} {ws : List (List Char)} {c : Char} (hc : c ∉ sep) :
    c ∈ join sep ws ↔ ∃ w ∈ ws, c ∈ w := by
  induction ws
  case nil => simp [join]
  case cons w ws ih =>
    cases ws
    case nil => simp [join]
    case cons v vs =>
      rw [join_cons_of_ne_nil (List.cons_ne_nil _ _), List.mem_append, List.mem_append, ih]
      simp [hc]

theorem Text.enclosed_inj {a b s t : String} : a ++ s ++ b = a ++ t ++ b ↔ s = t := by
  constructor
  · intro h
    have h := congrArg String.toList h
    rw [String.toList_append, String.toList_append, String.toList_append, String.toList_append] at h
    exact String.toList_inj.mp (List.append_cancel_left (List.append_cancel_right h))
  · exact fun h => h ▸ rfl

namespace Path

-- A segment that stays where it is, and that a disk can have.
def isPlain (w : String) : Bool :=
  counts w && w != ".." && w.toList.all fun c => c != '/' && c != '\x00'

-- A path that is made of plain segments and nothing else.
def Plain (path : String) : Prop :=
  ∃ ws : List String, path = "/".joining ws ∧ ∀ w ∈ ws, isPlain w

variable {path path' w word ending : String} {ws : List String}

theorem isPlain_iff : isPlain w ↔ counts w ∧ w ≠ ".." ∧ '/' ∉ w.toList ∧ '\x00' ∉ w.toList := by
  simp only [isPlain, Bool.and_eq_true, bne_iff_ne, List.all_eq_true, and_assoc]
  refine and_congr_right' (and_congr_right' ?_)
  constructor
  · exact fun h => ⟨fun hs => (h _ hs).1 rfl, fun hn => (h _ hn).2 rfl⟩
  · exact fun ⟨hs, hn⟩ c hc => ⟨fun h => hs (h ▸ hc), fun h => hn (h ▸ hc)⟩

theorem proper_of_isPlain (h : ∀ w ∈ ws, isPlain w) : Proper ws :=
  fun w hw => have ⟨hc, _, hs, _⟩ := isPlain_iff.mp (h w hw); ⟨hc, hs⟩

-- A segment with an ending is one that goes forward.
theorem forward_append (hw : '/' ∉ word.toList) (he : isPlain ending)
    (hl : ending.toList.any fun c => c != '.') :
    (counts (word ++ ending) ∧ '/' ∉ (word ++ ending).toList) ∧ word ++ ending ≠ ".." := by
  have ⟨_, _, hs, _⟩ := isPlain_iff.mp he
  have ⟨c, hc, hdot⟩ := List.any_eq_true.mp hl
  have hmem : c ∈ (word ++ ending).toList := by simp [hc]
  have hne {s : String} (h : ∀ x ∈ s.toList, x = '.') : word ++ ending ≠ s :=
    fun hws => bne_iff_ne.mp hdot (h c (hws ▸ hmem))
  refine ⟨⟨?_, ?_⟩, hne (by simp)⟩
  · rw [counts, Bool.and_eq_true, bne_iff_ne, bne_iff_ne]
    exact ⟨hne (by simp), hne (by simp)⟩
  · rw [String.toList_append, List.mem_append]
    exact fun h => h.elim hw hs

-- Segments that lead to a file whose name has a dot, through folders whose names have none.
def IsDotted (ws : List String) : Prop :=
  (∀ w ∈ ws.dropLast, '.' ∉ w.toList) ∧ ∃ w ∈ ws.getLast?, '.' ∈ w.toList

instance : DecidablePred IsDotted := fun ws => by
  unfold IsDotted
  infer_instance

theorem isDotted_concat (h : ∀ w ∈ ws, '.' ∉ w.toList) (hw : '.' ∈ w.toList) :
    IsDotted (ws ++ [w]) := by
  rw [IsDotted, List.dropLast_concat, List.getLast?_concat]
  exact ⟨h, w, rfl, hw⟩

-- No file is in the way to another one.
theorem IsDotted.eq_of_extends {vs : List String} (hv : IsDotted vs) (hw : IsDotted ws)
    (h : vs <+: ws) : vs = ws := by
  obtain ⟨rest, rfl⟩ := h
  obtain ⟨w, hlast, hdot⟩ := hv.2
  cases rest using List.reverseRecOn
  case nil => rw [List.append_nil]
  case append_singleton rest last _ =>
    have hmem : w ∈ (vs ++ (rest ++ [last])).dropLast := by
      rw [← List.append_assoc, List.dropLast_concat]
      exact List.mem_append_left _ (List.mem_of_getLast? hlast)
    exact absurd hdot (hw.1 w hmem)

-- A text that can stand in a plain segment.
structure Fits (w : String) : Prop where
  slashless : '/' ∉ w.toList
  nullless : '\x00' ∉ w.toList

namespace Fits

-- A text with an ending is a plain segment.
theorem isPlain_append (h : Fits word) (he : isPlain ending)
    (hl : ending.toList.any fun c => c != '.') : isPlain (word ++ ending) := by
  have ⟨⟨hc, hs⟩, hne⟩ := forward_append h.slashless he hl
  refine isPlain_iff.mpr ⟨hc, hne, hs, ?_⟩
  rw [String.toList_append, List.mem_append]
  exact fun hn => hn.elim h.nullless (isPlain_iff.mp he).2.2.2

theorem snakeCase (h : Fits w) : Fits (snakeCase w) :=
  ⟨not_mem_snakeCase (by decide) h.slashless, not_mem_snakeCase (by decide) h.nullless⟩

theorem of_isIdentifier (h : isIdentifier w) : Fits w := by
  rw [isIdentifier, Bool.and_eq_true, List.all_eq_true] at h
  exact ⟨fun hs => absurd (h.1 _ hs) (by decide), fun hn => absurd (h.1 _ hn) (by decide)⟩

end Fits

namespace Plain

theorem joining_steps (h : Plain path) : "/".joining (steps path) = path := by
  obtain ⟨ws, rfl, hws⟩ := h
  rw [steps_joining (proper_of_isPlain hws)]

theorem isPlain_of_mem_steps (h : Plain path) (hw : w ∈ steps path) : isPlain w := by
  obtain ⟨ws, rfl, hws⟩ := h
  rw [steps_joining (proper_of_isPlain hws)] at hw
  exact hws w hw

theorem root?_eq_none (h : Plain path) : root? path.toList = none := by
  obtain ⟨ws, rfl, hws⟩ := h
  exact Path.root?_eq_none (head?_joining (proper_of_isPlain hws))

theorem not_mem_steps (h : Plain path) : ".." ∉ steps path :=
  fun hm => (isPlain_iff.mp (h.isPlain_of_mem_steps hm)).2.1 rfl

-- Different plain paths lead to different places.
theorem steps_inj (h : Plain path) (h' : Plain path') : steps path = steps path' ↔ path = path' := by
  constructor
  · intro hs
    rw [← h.joining_steps, hs, h'.joining_steps]
  · exact fun hs => hs ▸ rfl

end Plain

end Path

end Refit
