import Refit.Plan.Synthesis
import Refit.Proofs.Project.Found
import Refit.Proofs.Project.Themed

/-!
The primary colour of a project, from the digits in its sources to the colour of a plan.

Of the literals, those of six and of eight digits have a colour to give, which are their last six
digits in upper case. A literal of seven digits, the name of a swatch and a project without a colour
all lead to the default.
-/

namespace Refit

/-! Digits -/

namespace Letter

def isCapitalHex (c : Char) : Bool :=
  isAsciiDigit c || ('A' ≤ c && c ≤ 'F')

-- The first character of the upper case form.
def capital (c : Char) : Char :=
  (upper c).headD c

theorem upper_of_isHex {c : Char} (h : isHex c) :
    upper c = [capital c] ∧ isCapitalHex (capital c) := by
  have hall : ∀ n < 128, isHex (Char.ofNat n) →
      upper (Char.ofNat n) = [capital (Char.ofNat n)] ∧ isCapitalHex (capital (Char.ofNat n)) := by
    decide +kernel
  have hlow : c.toNat < 128 := by
    simp only [isHex, isAsciiDigit, Bool.or_eq_true, Bool.and_eq_true, decide_eq_true_eq,
      Char.le_def, UInt32.le_iff_toNat_le] at h
    have h9 : '9'.val.toNat = 57 := rfl
    have hF : 'F'.val.toNat = 70 := rfl
    have hf : 'f'.val.toNat = 102 := rfl
    change c.val.toNat < 128
    omega
  rw [← Char.ofNat_toNat c] at h ⊢
  exact hall _ hlow h

end Letter

-- A digit has one capital, so digits keep their places.
theorem Text.flatMap_upper {s : List Char} (h : ∀ c ∈ s, Letter.isHex c) :
    s.flatMap Letter.upper = s.map Letter.capital := by
  induction s
  case nil => rfl
  case cons c s ih =>
    obtain ⟨hc, hs⟩ := List.forall_mem_cons.mp h
    rw [List.flatMap_cons, ih hs, (Letter.upper_of_isHex hc).1, List.singleton_append,
      List.map_cons]

/-! Primary colours -/

namespace Theme

open Pattern

-- What a source gives as the primary colour: the digits of a literal, or the name of a swatch.
inductive Primary where
  | literal (digits : String)
  | swatch (name : String)
  deriving DecidableEq, Repr

variable {source d : String} {fs : List SourceFile} {p : Primary}

namespace Primary

-- How a theme has it.
def told : Primary → String
  | literal digits => normalHex digits
  | swatch name => "Colors." ++ name

-- The digits that a plan takes of it, if it has as many as it takes.
def seed? : Primary → Option String
  | literal digits =>
    if digits.length = 6 ∨ digits.length = 8 then
      some (digits.skipChars (digits.length - 6)).uppered
    else none
  | swatch _ => none

end Primary

def primaryIn (source : String) : Option Primary :=
  if source.holds "primaryColor" then
    match primaryColor.search? source with
    | some m => some (.literal (m.group 1))
    | none =>
      match primarySwatch.search? source with
      | some m => some (.swatch (m.group 1))
      | none => (colorLiteral.search? source).map fun m => .literal (m.group 1)
  else none

-- The primary colour that the last of the sources of a project gives.
def primaryAmong (fs : List SourceFile) : Option Primary :=
  (((fs.find? (isEntryPoint ·.path)).toList ++ filesOf fs).filterMap
    (primaryIn ·.content)).getLast?

theorem primaryOf_eq : primaryOf source = (primaryIn source).map Primary.told := by
  rw [primaryOf, primaryIn]
  cases source.holds "primaryColor"
  case false => rfl
  case true =>
    cases primaryColor.search? source
    case some => rfl
    case none =>
      cases primarySwatch.search? source
      case some => rfl
      case none => cases colorLiteral.search? source <;> rfl

theorem primary_ofFiles :
    (ofFiles fs).primary = .ofOption (fun p => .text p.told) (primaryAmong fs) := by
  have hlast (sources : List SourceFile) : lastOf primaryOf (sources.map (·.content)) =
      (sources.filterMap (primaryIn ·.content)).getLast?.map Primary.told := by
    rw [lastOf, List.filterMap_map, ← List.getLast?_map, List.map_filterMap]
    simp only [primaryOf_eq, Function.comp_def]
  rw [ofFiles, gather_eq, told]
  dsimp only
  rw [hlast, primaryAmong]
  generalize List.getLast? _ = p
  cases p <;> rfl

theorem isHex_of_primaryIn (h : primaryIn source = some (.literal d)) :
    ∀ c ∈ d.toList, Letter.isHex c := by
  have hnamed : primaryColor.Grouped 1 (Repeats Letter.isHex) := by
    simp [primaryColor, hexDigits, Grouped, Pattern.star, blank, Pattern.char, opt, zeroX]
  have hbare : colorLiteral.Grouped 1 (Repeats Letter.isHex) := by
    simp [colorLiteral, hexDigits, Grouped, Pattern.star, blank, Pattern.char, opt, zeroX]
  rw [primaryIn] at h
  split at h
  case isFalse => cases h
  case isTrue =>
    split at h
    case h_1 m hm =>
      obtain rfl := Primary.literal.inj (Option.some.inj h)
      exact hnamed.of_search? hm
    case h_2 =>
      split at h
      case h_1 => cases h
      case h_2 =>
        obtain ⟨m, hm, h⟩ := Option.map_eq_some_iff.mp h
        obtain rfl := Primary.literal.inj h
        exact hbare.of_search? hm

theorem isHex_of_primaryAmong (h : primaryAmong fs = some (.literal d)) :
    ∀ c ∈ d.toList, Letter.isHex c := by
  obtain ⟨f, _, hf⟩ := List.mem_filterMap.mp (List.mem_of_getLast? h)
  exact isHex_of_primaryIn hf

-- The digits of the colour that the theme of a rebuild grows from.
def seedOf (fs : List SourceFile) : String :=
  ((primaryAmong fs).bind Primary.seed?).getD "6366F1"

namespace Primary

theorem capital_seed? {w : String} (hd : ∀ d, p = .literal d → ∀ c ∈ d.toList, Letter.isHex c)
    (h : p.seed? = some w) : w.length = 6 ∧ ∀ c ∈ w.toList, Letter.isCapitalHex c := by
  cases p
  case swatch => cases h
  case literal d =>
    rw [seed?] at h
    split at h
    case isFalse => cases h
    case isTrue hl =>
      have hhex : ∀ c ∈ d.toList.drop (d.length - 6), Letter.isHex c := fun c hc =>
        hd d rfl c (List.mem_of_mem_drop hc)
      obtain rfl := Option.some.inj h
      simp only [String.uppered, String.skipChars, String.toList_ofList, Text.flatMap_upper hhex,
        String.length_ofList, List.length_map, List.length_drop, String.length_toList, List.mem_map]
      refine ⟨by omega, ?_⟩
      rintro _ ⟨c, hc, rfl⟩
      exact (Letter.upper_of_isHex (hhex c hc)).2

-- A plan reads the digits back from what a theme has.
theorem color_told (hd : ∀ d, p = .literal d → ∀ c ∈ d.toList, Letter.isHex c) :
    (if p.told.beginsWith "0x" && p.told.length == 10 then "#" ++ p.told.skipChars 4
      else Plan.defaultColor) = "#" ++ p.seed?.getD "6366F1" := by
  have hdefault : Plan.defaultColor = "#" ++ "6366F1" := by cbv
  have hlong : "0xFF".length = 4 := by cbv
  have hshort : "0x".length = 2 := by cbv
  cases p
  case swatch name =>
    have hother : (Primary.told (.swatch name)).beginsWith "0x" = false := by
      simp [told, String.beginsWith, List.isPrefixOf]
    rw [hother, hdefault]
    rfl
  case literal d =>
    have hupper : d.toList.flatMap Letter.upper = d.toList.map Letter.capital :=
      Text.flatMap_upper (hd d rfl)
    have hlength : d.uppered.length = d.length := by
      simp [String.uppered, hupper, String.length_toList]
    rw [told, seed?, normalHex, hlength]
    by_cases h6 : d.length = 6
    case pos =>
      have hskip : ("0xFF" ++ d.uppered).skipChars 4 = (d.skipChars 0).uppered := by
        simp [String.skipChars, String.uppered]
      simp [h6, hlength, hskip, hlong, String.beginsWith]
    case neg =>
      by_cases h8 : d.length = 8
      case pos =>
        have hskip : ("0x" ++ d.uppered).skipChars 4 = (d.skipChars 2).uppered := by
          have hlast : (d.toList.drop 2).flatMap Letter.upper =
              (d.toList.drop 2).map Letter.capital :=
            Text.flatMap_upper fun c hc => hd d rfl c (List.mem_of_mem_drop hc)
          simp [String.skipChars, String.uppered, hupper, hlast, List.map_drop]
        simp [h8, hlength, hskip, hshort, String.beginsWith]
      case neg =>
        have hodd : ¬2 + d.length = 10 := by omega
        simp [h6, h8, hlength, hshort, hodd, hdefault]

end Primary

theorem capital_seedOf :
    (seedOf fs).length = 6 ∧ ∀ c ∈ (seedOf fs).toList, Letter.isCapitalHex c := by
  rw [seedOf]
  cases h : (primaryAmong fs).bind Primary.seed?
  case none => exact ⟨by cbv, by decide⟩
  case some w =>
    obtain ⟨p, hp, hw⟩ := Option.bind_eq_some_iff.mp h
    exact Primary.capital_seed? (fun d hd => isHex_of_primaryAmong (hd ▸ hp)) hw

-- The digits of a literal that has six or eight of them are taken.
theorem seedOf_literal (h : primaryAmong fs = some (.literal d))
    (hd : d.length = 6 ∨ d.length = 8) : seedOf fs = (d.skipChars (d.length - 6)).uppered := by
  rw [seedOf, h, Option.bind_some, Primary.seed?, if_pos hd, Option.getD_some]

theorem themeColor_ofFiles {s : Snapshot} (h : s.theme = some (ofFiles fs)) :
    Plan.themeColor s = .ok ("#" ++ seedOf fs) := by
  rw [Plan.themeColor, h, Option.map_some, Option.getD_some, primary_ofFiles, seedOf]
  cases hp : primaryAmong fs
  case none => rfl
  case some p =>
    have hcolor := Primary.color_told (p := p) fun d hd => isHex_of_primaryAmong (hd ▸ hp)
    have htold : (Datum.text p.told).truthy := by
      cases p
      case literal => rw [Primary.told, normalHex]; split <;> simp [Datum.truthy]
      case swatch => simp [Primary.told, Datum.truthy]
    have hprimary : Datum.ofOption (fun p => .text (Primary.told p)) (some p) = .text p.told := rfl
    have hread : (Datum.text p.told).asText "startswith" = .ok p.told := rfl
    rw [hprimary, if_neg (by simp [htold]), hread, Option.bind_some, ← hcolor]
    dsimp only [bind, Except.bind]
    split
    · rfl
    · rfl

end Theme

end Refit
