import Refit.Proofs.Text.LineEnds
import Refit.Proofs.Text.Pattern
import Refit.Source.Export

/-!
Reading an export gives back what was written.

An export has no grammar. What is read is decided by rulers and headers wherever they stand, so the
names and contents that are written must not hold any.
-/

namespace Refit.Export

open Text

-- A text that names a root folder or a file in an export.
structure IsLabel (s : String) : Prop where
  nonempty : s ≠ ""
  line : '\n' ∉ s.toList
  trimmed : s.stripped = s
  noRuler : ¬ruler <:+: s.toList
  noMarker : ¬marker <:+: s.toList

def separator : List Char :=
  ruler ++ ['\n']

-- A content as it stands in an export, its line ends made alike.
def bodyOf (content : String) : List Char :=
  unified (content.toList ++ ['\n'])

-- No line of the content ends in a ruler, and none but the first begins as a header.
structure IsBody (content : String) : Prop where
  noRuler : ¬separator <:+: bodyOf content
  noHeader : ¬ '\n' :: header <:+: bodyOf content

instance {s : String} : Decidable (IsLabel s) :=
  decidable_of_iff
    (s ≠ "" ∧ '\n' ∉ s.toList ∧ s.stripped = s ∧ ¬ruler <:+: s.toList ∧ ¬marker <:+: s.toList)
    ⟨fun ⟨a, b, c, d, e⟩ => ⟨a, b, c, d, e⟩, fun ⟨a, b, c, d, e⟩ => ⟨a, b, c, d, e⟩⟩

instance {s : String} : Decidable (IsBody s) :=
  decidable_of_iff (¬separator <:+: bodyOf s ∧ ¬ '\n' :: header <:+: bodyOf s)
    ⟨fun ⟨a, b⟩ => ⟨a, b⟩, fun ⟨a, b⟩ => ⟨a, b⟩⟩

-- A file without the blanks around its content, its line ends made alike.
def cleaned (f : SourceFile) : SourceFile :=
  ⟨f.path, (f.content.replacing "\r\n" "\n").stripped⟩

-- What an export of the files says.
def ofFiles (root : String) (files : List SourceFile) : Export :=
  ⟨(root.replacing "-" "_").lowered, draw root files, files.map cleaned⟩

variable {root : String} {f : SourceFile} {files : List SourceFile}

/-! The parts of a rendering -/

def title (f : SourceFile) : List Char :=
  header ++ f.path.toList ++ ['\n']

-- A file behind the line end that comes before it.
def block (f : SourceFile) (body : List Char) : List Char :=
  '\n' :: (separator ++ (title f ++ (separator ++ body)))

def preamble (root : String) (files : List SourceFile) : List Char :=
  (marker :: (draw root files).map String.toList).flatMap (· ++ ['\n'])

theorem toList_renderFile :
    '\n' :: (renderFile f).toList = block f (f.content.toList ++ ['\n']) := by
  simp [renderFile, block, separator, title]

theorem toList_render :
    (render root files).toList =
      preamble root files ++ files.flatMap fun f => block f (f.content.toList ++ ['\n']) := by
  have hb : files.flatMap (fun f => block f (f.content.toList ++ ['\n'])) =
      (files.map fun f => (renderFile f).toList).flatMap (['\n'] ++ ·) := by
    simp [List.flatMap_map, toList_renderFile]
  have hp := join_append_self ['\n'] marker ((draw root files).map String.toList)
  rw [hb, preamble, ← hp]
  simp only [render, String.joining, List.cons_append, List.nil_append, List.map_cons,
    List.map_map, String.toList_ofList]
  rw [join_cons_eq_flatMap]
  simp [Function.comp_def]

/-! Lines of the drawing -/

theorem IsLabel.toList_ne_nil (h : IsLabel root) : root.toList ≠ [] := by
  simpa using h.nonempty

theorem IsLabel.trim_eq (h : IsLabel root) : trim Letter.isBlank root.toList = root.toList := by
  simpa [String.stripped] using congrArg String.toList h.trimmed

theorem IsLabel.last_not_blank (h : IsLabel root) :
    ∀ c ∈ root.toList.getLast?, ¬Letter.isBlank c :=
  (trim_eq_self_iff.mp h.trim_eq).right

-- A line of the drawing is kept as it is, and nothing else is seen in it.
structure IsDrawn (l : List Char) : Prop where
  line : '\n' ∉ l
  last : l.getLast? ≠ some '\r'
  blank : l.all Letter.isBlank = false
  noRuler : ¬ruler <:+: l
  noMarker : ¬marker <:+: l

theorem IsDrawn.of_root (h : IsLabel root) : IsDrawn ("└── " ++ root ++ "/").toList where
  line := by simpa using h.line
  last := by
    rw [String.toList_append, List.getLast?_append_of_ne_nil _ (by decide)]
    decide
  blank := by simp [show Letter.isBlank '└' = false by decide]
  noRuler := by
    rw [String.toList_append, String.toList_append]
    exact not_infix_append_right (List.replicate 47 '=') (by decide) <|
      not_infix_append_left _ (by decide) h.noRuler
  noMarker := by
    rw [String.toList_append, String.toList_append]
    exact not_infix_append_right "Directory structure".toList (by decide) <|
      not_infix_append_left "irectory structure:".toList (by decide) h.noMarker

theorem IsDrawn.of_path (h : IsLabel f.path) : IsDrawn ("    ├── " ++ f.path).toList where
  line := by simpa using h.line
  last := by
    intro hl
    rw [String.toList_append, List.getLast?_append_of_ne_nil _ h.toList_ne_nil] at hl
    exact h.last_not_blank '\r' hl (by decide)
  blank := by simp [show Letter.isBlank '├' = false by decide]
  noRuler := by
    rw [String.toList_append]
    exact not_infix_append_left (List.replicate 47 '=') (by decide) h.noRuler
  noMarker := by
    rw [String.toList_append]
    exact not_infix_append_left "irectory structure:".toList (by decide) h.noMarker

theorem isDrawn_of_mem_draw {l : String} (hr : IsLabel root) (hp : ∀ f ∈ files, IsLabel f.path)
    (h : l ∈ draw root files) : IsDrawn l.toList := by
  simp only [draw, List.mem_cons, List.mem_map] at h
  cases h
  case inl h => exact h ▸ .of_root hr
  case inr h =>
    have ⟨f, hf, h⟩ := h
    exact h ▸ .of_path (hp f hf)

theorem drawingFrom_cons {l : List Char} {ls : List (List Char)} (h : IsDrawn l) :
    drawingFrom true (l :: ls) = l :: drawingFrom true ls := by
  have hr : ruler.isPrefixOf l = false := by
    by_contra hr
    exact h.noRuler (List.isPrefixOf_iff_prefix.mp (by simpa using hr)).isInfix
  simp [drawingFrom, contains_eq_false h.noMarker, hr, h.blank]

theorem drawingFrom_append {ls ms : List (List Char)} (h : ∀ l ∈ ls, IsDrawn l) :
    drawingFrom true (ls ++ ms) = ls ++ drawingFrom true ms := by
  induction ls
  case nil => rfl
  case cons l ls hi =>
    rw [List.cons_append, drawingFrom_cons (h l (by simp)), hi fun l hl => h l (by simp [hl]),
      List.cons_append]

theorem drawingFrom_marker {ls : List (List Char)} :
    drawingFrom false (marker :: ls) = drawingFrom true ls := by
  have h : contains marker marker = true := by decide
  simp [drawingFrom, h]

-- Behind the drawing there is a blank line at most, and then a ruler.
theorem drawingFrom_blocks {body : SourceFile → List Char} :
    drawingFrom true (split '\n' (files.flatMap fun f => block f (body f))) = [] := by
  have hm : contains marker [] = false := by decide
  cases files
  case nil => simp [split, drawingFrom, hm, ruler]
  case cons f fs =>
    have hr : contains marker ruler = false := by decide
    have hs : split '\n' ((f :: fs).flatMap fun f => block f (body f)) =
        [] :: ruler :: split '\n' (title f ++ (separator ++ (body f ++
          fs.flatMap fun f => block f (body f)))) := by
      have hn : '\n' ∉ ruler := by decide
      simp [block, separator, split, split_append hn]
    rw [hs]
    simp [drawingFrom, hm, hr, show ruler.isPrefixOf [] = false by decide]

theorem drawing_eq {body : SourceFile → List Char} (hr : IsLabel root)
    (hp : ∀ f ∈ files, IsLabel f.path) :
    drawingFrom false (split '\n'
      (preamble root files ++ files.flatMap fun f => block f (body f))) =
        (draw root files).map String.toList := by
  have hd : ∀ l ∈ (draw root files).map String.toList, IsDrawn l := by
    simp only [List.forall_mem_map]
    exact fun _ => isDrawn_of_mem_draw hr hp
  have hn : ∀ l ∈ marker :: (draw root files).map String.toList, '\n' ∉ l := by
    simp only [List.forall_mem_cons]
    exact ⟨by decide, fun l hl => (hd l hl).line⟩
  rw [preamble, split_flatMap hn, List.cons_append, drawingFrom_marker, drawingFrom_append hd,
    drawingFrom_blocks, List.append_nil]

theorem search_rootEntry (hr : IsLabel root) (hs : '/' ∉ root.toList) :
    ∃ m, rootEntry.search? ("└── " ++ root ++ "/") = some m ∧ m.group 1 = root := by
  have hb : ("└── " ++ root ++ "/").toList = '└' :: ("── ".toList ++ (root.toList ++ ['/'])) := by
    simp
  have hp : ∀ c ∈ root.toList, (!"/".toList.contains c) = true := by
    intro c hc
    simpa using fun h : c = '/' => hs (h ▸ hc)
  have hm : rootEntry.matchAt? ⟨none, ("└── " ++ root ++ "/").toList⟩ =
      some ⟨⟨none, ("└── " ++ root ++ "/").toList⟩, ⟨some '/', []⟩, [(1, root.toList)]⟩ := by
    rw [hb, Pattern.matchAt?, rootEntry]
    simp only [Pattern.run_append, Pattern.run_group, Pattern.oneOf]
    rw [Pattern.run_one_cons (by decide), Pattern.run_lit]
    refine Pattern.run_plus_one hp hr.toList_ne_nil (by simp) ?_
    simp [Pattern.run_opt_char, Pattern.upTo_spot_append]
  exact ⟨_, Pattern.search?_of_matchAt? hm, by simp [Pattern.Match.group, Pattern.Match.group?]⟩

theorem projectNameOf_draw (hr : IsLabel root) (hs : '/' ∉ root.toList) :
    projectNameOf (draw root files) = (root.replacing "-" "_").lowered := by
  have ⟨m, hm, hg⟩ := search_rootEntry hr hs
  simp only [projectNameOf, draw, List.head?_cons, Option.bind_some, hm, hg]

/-! Files -/

theorem path?_title (h : IsLabel f.path) : path? (title f) = some f.path.toList := by
  have ht : trim Letter.isBlank (title f) = header ++ f.path.toList := by
    have hn : ∀ c ∈ ['\n'], Letter.isBlank c := by
      intro c hc
      rw [List.mem_singleton.mp hc]
      decide
    rw [title, trim_append_of_all hn, trim_eq_self_iff]
    constructor
    · simp [header, show Letter.isBlank 'F' = false by decide]
    · rw [List.getLast?_append_of_ne_nil _ h.toList_ne_nil]
      exact h.last_not_blank
  have hp : header.isPrefixOf (header ++ f.path.toList) := by
    simp [List.isPrefixOf_iff_prefix]
  simp [path?, ht, hp, h.trim_eq]

theorem path?_nil : path? [] = none := by
  decide

theorem content_bodyOf {t : List Char} (h : IsBody f.content) (ht : t = [] ∨ t = ['\n']) :
    fileOf f.path.toList (bodyOf f.content ++ t) = cleaned f := by
  have hb : ¬ '\n' :: header <:+: bodyOf f.content ++ t := by
    cases ht
    case inl ht => simpa [ht] using h.noHeader
    case inr ht =>
      rw [ht]
      exact not_infix_append_right "\nFILE:".toList (by decide) h.noHeader
  have hr : ∀ s, replaceSeq ['\r', '\n'] ['\n'] s = unified s := fun _ => replaceSeq_crlf
  rw [fileOf, content, before_eq_self hb,
    trim_append_of_all (by cases ht <;> simp_all [show Letter.isBlank '\n' by decide]), bodyOf,
    trim_unified_append]
  simp [cleaned, String.replacing, String.stripped, hr]

theorem clear_title {t : List Char} (h : IsLabel f.path) : Clear separator (title f) t := by
  refine Clear.of_concat (by decide) fun hs => ?_
  have hr : ruler <:+: title f := (List.prefix_append ruler ['\n']).isInfix.trans hs
  exact not_infix_append_right (List.replicate 47 '=') (by decide)
    (not_infix_append_left _ (by decide) h.noRuler) hr

theorem clear_bodyOf {t : List Char} (h : IsBody f.content) :
    Clear separator (bodyOf f.content) t := by
  have ⟨s, hs⟩ := unified_concat (s := f.content.toList)
  have hs : bodyOf f.content = s ++ ['\n'] := hs
  rw [hs]
  exact Clear.of_concat (by decide) (hs ▸ h.noRuler)

-- The texts between the separators are titles and contents in turn.
theorem filesOf_splitSeq (hl : ∀ g ∈ f :: files, IsLabel g.path)
    (hb : ∀ g ∈ f :: files, IsBody g.content) :
    filesOf (splitSeq separator (title f ++ (separator ++ (bodyOf f.content ++
      files.flatMap fun g => block g (bodyOf g.content))))) = (f :: files).map cleaned := by
  have hn : separator ≠ [] := by decide
  induction files generalizing f
  case nil =>
    have hf := content_bodyOf (hb f (by simp)) (.inl rfl)
    rw [splitSeq_append (clear_title (hl f (by simp))) hn, List.flatMap_nil, List.append_nil,
      splitSeq_eq_singleton (hb f (by simp)).noRuler]
    simpa [filesOf, path?_title (hl f (by simp))] using hf
  case cons g gs hi =>
    have hf := content_bodyOf (hb f (by simp)) (.inr rfl)
    have hi := hi (fun h hh => hl h (List.mem_cons_of_mem _ hh))
      fun h hh => hb h (List.mem_cons_of_mem _ hh)
    have hc (t : List Char) : Clear separator (bodyOf f.content ++ ['\n']) t := by
      rw [Clear.append_iff]
      exact ⟨clear_bodyOf (hb f (by simp)), by simp [Clear.cons_iff, separator, ruler]⟩
    have hs : bodyOf f.content ++ (g :: gs).flatMap (fun g => block g (bodyOf g.content)) =
        bodyOf f.content ++ ['\n'] ++ (separator ++ (title g ++ (separator ++
          (bodyOf g.content ++ gs.flatMap fun g => block g (bodyOf g.content))))) := by
      simp [block]
    rw [splitSeq_append (clear_title (hl f (by simp))) hn, hs, splitSeq_append (hc _) hn]
    simp [filesOf, path?_title (hl f (by simp)), hf, hi]

theorem clear_preamble {t : List Char} (hr : IsLabel root) (hp : ∀ f ∈ files, IsLabel f.path) :
    Clear ruler (preamble root files) t := by
  refine Clear.flatMap fun l hl t => Clear.of_concat (by decide) ?_
  refine not_infix_append_right (List.replicate 47 '=') (by decide) ?_
  simp only [List.mem_cons, List.mem_map] at hl
  cases hl
  case inl hl => exact hl ▸ by decide
  case inr hl =>
    have ⟨l, hl, h⟩ := hl
    exact h ▸ (isDrawn_of_mem_draw hr hp hl).noRuler

theorem segments_append {s t : List Char} (h : Clear ruler s (ruler ++ t)) :
    segments (s ++ (ruler ++ t)) = splitSeq separator (ruler ++ t) := by
  rw [segments, find?_append h (by decide)]
  rfl

theorem filesOf_segments (hr : IsLabel root) (hp : ∀ f ∈ files, IsLabel f.path)
    (hb : ∀ f ∈ files, IsBody f.content) :
    filesOf (segments
      (preamble root files ++ files.flatMap fun f => block f (bodyOf f.content))) =
        files.map cleaned := by
  cases files
  case nil =>
    have hn : find? ruler (preamble root []) = none :=
      find?_eq_none_iff.mpr <| (not_infix_iff_clear (by decide)).mpr <| clear_preamble hr hp
    simp [segments, hn, filesOf]
  case cons f fs =>
    have hs : preamble root (f :: fs) ++ (f :: fs).flatMap (fun f => block f (bodyOf f.content)) =
        preamble root (f :: fs) ++ ['\n'] ++ (ruler ++ ('\n' :: (title f ++ (separator ++
          (bodyOf f.content ++ fs.flatMap fun f => block f (bodyOf f.content)))))) := by
      simp [block, separator]
    have hc (t : List Char) : Clear ruler (preamble root (f :: fs) ++ ['\n']) t := by
      rw [Clear.append_iff]
      exact ⟨clear_preamble hr hp, by simp [Clear.cons_iff, ruler]⟩
    have hd (s : List Char) : ruler ++ ('\n' :: s) = separator ++ s := by simp [separator]
    have hf := filesOf_splitSeq hp hb
    rw [hs, segments_append (hc _), hd, splitSeq_append_self (by decide)]
    have ⟨b, bs, h⟩ := List.exists_cons_of_ne_nil (splitSeq_ne_nil separator
      (title f ++ (separator ++ (bodyOf f.content ++
        fs.flatMap fun f => block f (bodyOf f.content)))))
    rw [h] at hf ⊢
    simpa [filesOf, path?_nil] using hf

/-! The whole -/

theorem unified_block {t : List Char} (h : IsLabel f.path) :
    unified (block f (f.content.toList ++ ['\n']) ++ t) =
      block f (bodyOf f.content) ++ unified t := by
  have hl (body : List Char) : block f body =
      [[], ruler, header ++ f.path.toList, ruler].flatMap (· ++ ['\n']) ++ body := by
    simp [block, separator, title]
  have hn : ∀ l ∈ [[], ruler, header ++ f.path.toList, ruler],
      '\n' ∉ l ∧ l.getLast? ≠ some '\r' := by
    have hp : (header ++ f.path.toList).getLast? ≠ some '\r' := by
      rw [List.getLast?_append_of_ne_nil _ h.toList_ne_nil]
      exact fun hl => h.last_not_blank '\r' hl (by decide)
    simp only [List.forall_mem_cons]
    refine ⟨by decide, by decide, ⟨?_, hp⟩, by decide, by simp⟩
    simpa [header] using h.line
  rw [hl, hl, List.append_assoc, unified_flatMap hn, List.append_assoc, List.append_assoc,
    List.singleton_append, unified_append_line, bodyOf]

theorem unified_render (hr : IsLabel root) (hp : ∀ f ∈ files, IsLabel f.path) :
    unified (render root files).toList =
      preamble root files ++ files.flatMap fun f => block f (bodyOf f.content) := by
  have hn : ∀ l ∈ marker :: (draw root files).map String.toList,
      '\n' ∉ l ∧ l.getLast? ≠ some '\r' := by
    simp only [List.forall_mem_cons, List.forall_mem_map]
    exact ⟨by decide, fun l hl => have h := isDrawn_of_mem_draw hr hp hl; ⟨h.line, h.last⟩⟩
  rw [toList_render, preamble, unified_flatMap hn]
  congr 1
  clear hn
  induction files
  case nil => rfl
  case cons f fs hi =>
    rw [List.flatMap_cons, unified_block (hp f (by simp)), hi fun f hf => hp f (by simp [hf]),
      List.flatMap_cons]

theorem ofText_eq_ofChars (s : String) : ofText s = ofChars (unified s.toList) :=
  congrArg ofChars replaceSeq_crlf

theorem ofChars_render (hr : IsLabel root) (hs : '/' ∉ root.toList)
    (hp : ∀ f ∈ files, IsLabel f.path) (hb : ∀ f ∈ files, IsBody f.content) :
    ofChars (unified (render root files).toList) = ofFiles root files := by
  have hd : ((draw root files).map String.toList).map String.ofList = draw root files := by
    simp [Function.comp_def]
  rw [unified_render hr hp, ofChars, drawing_eq hr hp, hd, projectNameOf_draw hr hs,
    filesOf_segments hr hp hb, ofFiles]

theorem dartFiles_ofFiles :
    (ofFiles root files).dartFiles = (files.filter (Path.isDart ·.path)).map cleaned := by
  simp [dartFiles, ofFiles, List.filter_map, Function.comp_def, cleaned]

theorem manifest?_ofFiles {name : String} :
    (ofFiles root files).manifest? name =
      (files.find? (·.path.finishesWith name)).map fun f => (cleaned f).content := by
  simp [manifest?, ofFiles, List.find?_map, Function.comp_def, cleaned]

theorem ofText_withCrlf (s : String) : ofText (.ofList (withCrlf s.toList)) = ofText s := by
  simp only [ofText_eq_ofChars, String.toList_ofList, unified_withCrlf]

theorem ofText_replacing (s : String) : ofText (s.replacing "\n" "\r\n") = ofChars s.toList := by
  have h : (s.replacing "\n" "\r\n").toList = replaceSeq ['\n'] crlf s.toList := by
    simp [String.replacing, crlf]
  rw [ofText_eq_ofChars, h, unified_replaceSeq_line]

theorem unified_render_eq_self (hr : IsLabel root) (hp : ∀ f ∈ files, IsLabel f.path)
    (hc : ∀ f ∈ files, ¬crlf <:+: f.content.toList ++ ['\n']) :
    unified (render root files).toList = (render root files).toList := by
  rw [unified_render hr hp, toList_render]
  congr 1
  refine List.flatMap_congr fun f hf => ?_
  rw [bodyOf, unified_eq_self (hc f hf)]

-- Each line end may be written as two characters. Where this is done without looking at what stands
-- before a line feed, the contents must not have such line ends already.
theorem ofText_render (hr : IsLabel root) (hs : '/' ∉ root.toList)
    (hp : ∀ f ∈ files, IsLabel f.path) (hb : ∀ f ∈ files, IsBody f.content) :
    ofText (render root files) = ofFiles root files ∧
      (ofText (render root files)).dartFiles = (files.filter (Path.isDart ·.path)).map cleaned ∧
      (ofText (render root files)).manifest? "pubspec.yaml" =
        (files.find? (·.path.finishesWith "pubspec.yaml")).map (fun f => (cleaned f).content) ∧
      ofText (.ofList (withCrlf (render root files).toList)) = ofFiles root files ∧
      ((∀ f ∈ files, ¬crlf <:+: f.content.toList ++ ['\n']) →
        ofText ((render root files).replacing "\n" "\r\n") = ofFiles root files) := by
  have h : ofText (render root files) = ofFiles root files :=
    (ofText_eq_ofChars _).trans (ofChars_render hr hs hp hb)
  refine ⟨h, h ▸ dartFiles_ofFiles, h ▸ manifest?_ofFiles, (ofText_withCrlf _).trans h,
    fun hc => ?_⟩
  rw [ofText_replacing, ← unified_render_eq_self hr hp hc, ofChars_render hr hs hp hb]

-- The same path twice, a content that looks like a header, and one that stops within a line end.
theorem ofText_render_twice :
    let files : List SourceFile :=
      [⟨"pubspec.yaml", "name: a\r\n\r\nb:\r"⟩, ⟨"lib/a.dart", "FILE: lib/b.dart\n======"⟩,
        ⟨"lib/a.dart", " \n"⟩]
    ofText (render "My-App" files) =
      ⟨"my_app", ["└── My-App/", "    ├── pubspec.yaml", "    ├── lib/a.dart", "    ├── lib/a.dart"],
        [⟨"pubspec.yaml", "name: a\n\nb:"⟩, ⟨"lib/a.dart", "FILE: lib/b.dart\n======"⟩,
          ⟨"lib/a.dart", ""⟩]⟩ := by
  intro files
  have h : ofText (render "My-App" files) = ofFiles "My-App" files :=
    (ofText_render (by decide) (by decide) (by decide) (by decide)).left
  exact h.trans (by decide)

end Refit.Export
