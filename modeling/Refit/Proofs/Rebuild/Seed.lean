import Refit.Proofs.Project.Colors
import Refit.Proofs.Rebuild.Planned

/-!
The colour of a project, from its sources to those of its rebuild.

An analysis reads it from the sources, a plan has it in its definition, the tools hand it to the
module that has the theme, and the theme grows from it.
-/

namespace Refit

namespace Output

variable {needle line color hex content : String} {lines : List String}

theorem holds_source (hl : line ∈ lines) (hn : line.holds needle) :
    (source lines).holds needle := by
  have hlines : (source lines).toList = lines.flatMap fun l => l.toList ++ ['\n'] := by
    rw [source, String.joining]
    cases lines
    case nil => rfl
    case cons => simp [Text.join_cons_eq_flatMap, List.flatMap_map]
  have hline : line.toList <:+: line.toList ++ ['\n'] := (List.prefix_append ..).isInfix
  rw [String.holds, Text.contains_iff, hlines]
  exact (Text.contains_iff.mp hn).trans
    (hline.trans (List.infix_of_mem_flatten (List.mem_map_of_mem hl)))

-- The source of a theme has the digits of its colour in the seed.
theorem holds_theme (hc : ∀ c ∈ hex.toList, Letter.isCapitalHex c)
    (h : theme (Rebuild.themeConfig ("#" ++ hex)) = .ok content) :
    content.holds ("Color(0xFF" ++ hex ++ ")") := by
  have hbare : ("#" ++ hex).withoutLeading (· == '#') = hex := by
    have hhead : ∀ c ∈ hex.toList.head?, ¬c == '#' := fun c hh he => by
      obtain rfl := eq_of_beq he
      exact absurd (hc _ (List.mem_of_mem_head? hh)) (by decide)
    have hnone : hex.toList.dropWhile (· == '#') = hex.toList := by
      cases hs : hex.toList
      case nil => rfl
      case cons c cs => exact List.dropWhile_cons_of_neg (hhead c (hs ▸ rfl))
    simp [String.withoutLeading, hnone]
  have hline : ("    colorScheme: ColorScheme.fromSeed(seedColor: const Color(0xFF" ++ hex ++
      ")),").holds ("Color(0xFF" ++ hex ++ ")") := by
    refine Text.contains_iff.mpr ⟨"    colorScheme: ColorScheme.fromSeed(seedColor: const ".toList,
      "),".toList, ?_⟩
    simp
  obtain rfl := Except.ok.inj h
  rw [hbare]
  refine holds_source ?_ hline
  simp

end Output

namespace Analysis

variable {fs : List SourceFile} {name : String} {m : Option Manifest}

-- Files whose manifest can be read are analysed.
theorem exists_ofFiles (h : manifestOf fs = .ok m) :
    ∃ s, ofFiles fs name "deep" = .ok s ∧ s.theme = some (Theme.ofFiles fs) := by
  rw [ofFiles, h]
  exact ⟨_, rfl, rfl⟩

end Analysis

namespace Rebuild

open Ledger (holding)
open Theme (primaryAmong seedOf)

def brandFiles : List SourceFile :=
  [⟨"lib/theme/colors.dart", "primaryColor: Color(0xff3f51b5)\n"⟩]

end Rebuild

end Refit
