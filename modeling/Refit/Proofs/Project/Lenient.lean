import Refit.Proofs.Datum.Basic
import Refit.Project.Manifest

/-!
Reading a manifest leniently: which texts are read at all, and what is read of them.

Most of what does not fit is passed over: a malformed text, a document that is no mapping, a section
of another kind, an entry of another kind in a list of fonts. `promised` is what is read if all of it
is. Three things are not passed over: a scalar that does not fit its tag, assets or fonts that have
no parts, and an integer that is too long for a text.
-/

namespace Refit

namespace Datum

variable {d : Datum} {ds : List Datum} {t : String} {ts : List String}

theorem toText_eq_ok_iff : d.toText = .ok t ↔ d.hasText ∧ d.shown = t := by
  by_cases h : d.hasText
  case pos => rw [toText, if_pos h, Except.ok.injEq, and_iff_right h]
  case neg => simp [toText, h]

theorem mapM_toText_eq_ok_iff : ds.mapM toText = .ok ts ↔
    (∀ d ∈ ds, d.hasText) ∧ ds.map shown = ts := by
  rw [mapM_eq_ok]
  induction ds generalizing ts
  case nil =>
    rw [List.forall₂_nil_left_iff]
    exact ⟨fun h => ⟨nofun, h.symm⟩, fun h => h.2.symm⟩
  case cons d ds ih =>
    simp only [List.forall₂_cons_left_iff, ih]
    simp only [toText_eq_ok_iff, List.forall_mem_cons, List.map_cons]
    constructor
    · rintro ⟨_, _, ⟨hd, rfl⟩, ⟨hds, rfl⟩, rfl⟩
      exact ⟨⟨hd, hds⟩, rfl⟩
    · rintro ⟨⟨hd, hds⟩, rfl⟩
      exact ⟨_, _, ⟨hd, rfl⟩, ⟨hds, rfl⟩, rfl⟩

end Datum

namespace Manifest

open Datum (Read)

-- The entries of the document of a text: none if the text is malformed or its document no mapping.
def document (s : String) : Read Dict :=
  match Yaml.read s with
  | .ok d => .ok (d.entries?.getD [])
  | .error (.refused _) => .ok []
  | .error (.fault f) => .error f

-- The value at a key, or a default where none stands or an empty one.
def valueAt (es : Dict) (key : String) (fallback : Datum) : Datum :=
  (es.get key).orElse fallback

-- The parts of the value at a key that are not empty.
def partsAt (es : Dict) (key : String) : List Datum :=
  match (valueAt es key (.list [])).items with
  | .ok xs => xs
  | .error _ => []

def assetsOf (es : Dict) : List Datum :=
  (partsAt (sectionOf es "flutter") "assets").filter Datum.truthy

-- The families of those fonts that are mappings with one.
def familiesOf (es : Dict) : List Datum :=
  (partsAt (sectionOf es "flutter") "fonts").filterMap fun font => do
    let family := Dict.get (← font.entries?) "family"
    if family.truthy then some family else none

def nameOf (es : Dict) : Datum :=
  valueAt es "name" "unknown"

def descriptionOf (es : Dict) : Datum :=
  valueAt es "description" ""

def versionOf (es : Dict) : Datum :=
  valueAt es "version" "1.0.0"

def flutterOf (es : Dict) : Datum :=
  valueAt (sectionOf es "environment") "flutter" ">=3.0.0"

def constraintOf (es : Dict) : Datum :=
  valueAt (sectionOf es "environment") "sdk" (.text defaultConstraint)

-- What is read if all that does not fit is passed over: the rest has defaults, or its text.
def promised (es : Dict) : Manifest where
  name := (nameOf es).shown
  description := (descriptionOf es).shown
  version := (versionOf es).shown
  flutterVersion := lowerOf (flutterOf es).shown
  dartMin := lowerOf (constraintOf es).shown
  dartMax := upperOf (constraintOf es).shown
  dependencies := .ofPackages (sectionOf es "dependencies") (sectionOf es "dev_dependencies")
  assets := (assetsOf es).map Datum.shown
  fonts := (familiesOf es).map Datum.shown

-- The values that are taken by their text.
def worded (es : Dict) : List Datum :=
  [nameOf es, descriptionOf es, versionOf es, flutterOf es, constraintOf es] ++ assetsOf es
    ++ familiesOf es

-- Whether the value at a key is empty or has parts.
def HasParts (es : Dict) (key : String) : Prop :=
  ∃ xs, (valueAt es key (.list [])).items = .ok xs

-- Nothing stands in the entries of a document that is not passed over.
structure Usable (es : Dict) : Prop where
  assets : HasParts (sectionOf es "flutter") "assets"
  fonts : HasParts (sectionOf es "flutter") "fonts"
  texts : ∀ d ∈ worded es, d.hasText

variable {es : Dict} {m : Manifest} {s key : String} {xs : List Datum}

theorem partsAt_eq (h : (valueAt es key (.list [])).items = .ok xs) : partsAt es key = xs := by
  rw [partsAt, h]

theorem ofDict_eq_ok_iff : ofDict es = .ok m ↔ Usable es ∧ m = promised es := by
  simp only [ofDict, bind_eq_ok, pure_eq_ok, sdkBounds, textOf, families, Datum.toText_eq_ok_iff,
    Datum.mapM_toText_eq_ok_iff]
  constructor
  case mp =>
    rintro ⟨_, ⟨_, ⟨hsdk, rfl⟩, rfl⟩, _, ⟨hflutter, rfl⟩, assets, ha, _, ⟨hassets, rfl⟩, fonts, hf,
      _, ⟨hfamilies, rfl⟩, _, ⟨hname, rfl⟩, _, ⟨hdescription, rfl⟩, _, ⟨hversion, rfl⟩, rfl⟩
    rw [← partsAt_eq ha] at hassets ⊢
    rw [← partsAt_eq hf] at hfamilies ⊢
    refine ⟨⟨⟨_, ha⟩, ⟨_, hf⟩, ?_⟩, rfl⟩
    simp only [worded, List.forall_mem_append, List.forall_mem_cons]
    exact ⟨⟨⟨hname, hdescription, hversion, hflutter, hsdk, nofun⟩, hassets⟩, hfamilies⟩
  case mpr =>
    rintro ⟨⟨⟨assets, ha⟩, ⟨fonts, hf⟩, htexts⟩, rfl⟩
    simp only [worded, List.forall_mem_append, List.forall_mem_cons] at htexts
    obtain ⟨⟨⟨hname, hdescription, hversion, hflutter, hsdk, _⟩, hassets⟩, hfamilies⟩ := htexts
    rw [assetsOf, partsAt_eq ha] at hassets
    rw [familiesOf, partsAt_eq hf] at hfamilies
    refine ⟨_, ⟨_, ⟨hsdk, rfl⟩, rfl⟩, _, ⟨hflutter, rfl⟩, assets, ha, _, ⟨hassets, rfl⟩, fonts, hf,
      _, ⟨hfamilies, rfl⟩, _, ⟨hname, rfl⟩, _, ⟨hdescription, rfl⟩, _, ⟨hversion, rfl⟩, ?_⟩
    rw [promised, assetsOf, familiesOf, partsAt_eq ha, partsAt_eq hf]
    rfl

/-! What is wrong with the rest -/

-- What a manifest is refused for: a value without parts, or an integer that is too long for a text.
def Flaw (f : Fault) : Prop :=
  (∃ kind, f = .notIterable kind) ∨ f = .unwritableInteger

-- A reading that finds nothing else wrong.
def Strict {α : Type} (r : Read α) : Prop :=
  ∀ f, r = .error f → Flaw f

namespace Strict

variable {α β : Type} {r : Read α} {g : α → Read β} {d : Datum}

theorem of_ok {a : α} : Strict (.ok a : Read α) :=
  nofun

theorem bind (hr : Strict r) (hg : ∀ a, Strict (g a)) : Strict (r >>= g) := by
  cases r
  case ok a => exact hg a
  case error f => exact fun _ h => hr _ (congrArg Except.error (Except.error.inj h))

theorem toText : Strict d.toText := by
  intro f h
  rw [Datum.toText] at h
  split at h
  case isTrue => cases h
  case isFalse => exact .inr (Except.error.inj h).symm

theorem items : Strict d.items := by
  intro f h
  rw [Datum.items] at h
  split at h
  case h_7 => exact .inl ⟨_, (Except.error.inj h).symm⟩
  all_goals cases h

theorem mapM_toText {ds : List Datum} : Strict (ds.mapM Datum.toText) := by
  induction ds
  case nil => exact of_ok
  case cons d ds ih =>
    rw [List.mapM_cons]
    exact bind toText fun _ => bind ih fun _ => of_ok

theorem ofDict : Strict (ofDict es) :=
  bind (bind toText fun _ => of_ok) fun _ => bind toText fun _ => bind items fun _ =>
    bind mapM_toText fun _ => bind items fun _ => bind mapM_toText fun _ => bind toText fun _ =>
      bind toText fun _ => bind toText fun _ => of_ok

end Strict

/-! Texts -/

theorem ofText_eq : ofText s = document s >>= ofDict := by
  rw [ofText, document]
  match Yaml.read s with
  | .ok _ => rfl
  | .error (.refused _) => rfl
  | .error (.fault _) => rfl

theorem usable_nil : Usable [] where
  assets := ⟨[], rfl⟩
  fonts := ⟨[], rfl⟩
  texts := by decide

-- The manifest of a text that has none.
def fallback : Manifest :=
  { name := "unknown", description := "", version := "1.0.0", flutterVersion := "3.0.0"
    dartMin := "3.0.0", dartMax := some "4.0.0", dependencies := {}, assets := [], fonts := [] }

theorem promised_nil : promised [] = fallback :=
  rfl

theorem ofText_of_document_nil (h : document s = .ok []) : ofText s = .ok fallback := by
  rw [ofText_eq, h]
  exact ofDict_eq_ok_iff.mpr ⟨usable_nil, promised_nil.symm⟩

-- A text is read unless its document has a fault or holds what is not passed over, and what is read
-- is what was promised.
theorem ofText_lenient (s : String) :
    (∀ m, ofText s = .ok m ↔ ∃ es, document s = .ok es ∧ Usable es ∧ m = promised es) ∧
      (∀ f, ofText s = .error f → document s = .error f ∨ Flaw f) ∧
      (∀ r, Yaml.read s = .error (.refused r) → ofText s = .ok fallback) ∧
      (∀ d, Yaml.read s = .ok d → d.entries? = none → ofText s = .ok fallback) := by
  refine ⟨fun m => ?_, fun f h => ?_, fun r h => ?_, fun d h hd => ?_⟩
  · rw [ofText_eq, bind_eq_ok]
    simp only [ofDict_eq_ok_iff]
  · rw [ofText_eq] at h
    cases hread : document s
    case ok es => exact .inr (Strict.ofDict f (by rwa [hread] at h))
    case error e =>
      rw [hread] at h
      exact .inl (congrArg Except.error (Except.error.inj h))
  · exact ofText_of_document_nil (by rw [document, h])
  · have hnone : d.entries?.getD [] = [] := by rw [hd, Option.getD_none]
    exact ofText_of_document_nil (by rw [document, h]; exact congrArg Except.ok hnone)

-- Values of other kinds than they should be: a name that is a list, an environment that is a
-- number, assets that are a mapping and a font that is none.
def oddManifest : String :=
  "name: [shop]\nenvironment: 5\nflutter:\n  assets: \x7ba: 1\x7d\n  fonts: [7, \x7bfamily: 3\x7d]\n"

theorem ofText_lenient_odd : ∃ es m, document oddManifest = .ok es ∧ Usable es ∧
    ofText oddManifest = .ok m ∧ m = promised es ∧
    m.name = "['shop']" ∧ m.dartMin = "3.0.0" ∧ m.assets = ["a"] ∧ m.fonts = ["3"] := by
  have h : (ofText oddManifest).toOption.any fun m => m.name == "['shop']" && m.dartMin == "3.0.0" &&
      m.assets == ["a"] && m.fonts == ["3"] := by
    decide +kernel
  have ⟨m, hm, h⟩ := any_toOption.mp h
  simp only [Bool.and_eq_true, beq_iff_eq] at h
  have ⟨es, hes, hu, hp⟩ := ((ofText_lenient oddManifest).1 m).mp hm
  exact ⟨es, m, hes, hu, hm, hp, h.1.1.1, h.1.1.2, h.1.2, h.2⟩

-- Assets that are a number are not passed over, and neither is a day that no calendar has.
theorem not_every_text_read :
    (∃ f, ofText "flutter:\n  assets: 5\n" = .error f ∧ f.class = .kind ∧
      f.message = "'int' object is not iterable") ∧
    (∃ f, ofText "version: 2024-13-45\n" = .error f ∧ f.class = .value ∧
      f.message = "month must be in 1..12") := by
  have hkind : ∃ f, ofText "flutter:\n  assets: 5\n" = .error f ∧
      (f.class = .kind ∧ f.message = "'int' object is not iterable" : Bool) :=
    exists_error (by decide +kernel)
  have hvalue : ∃ f, ofText "version: 2024-13-45\n" = .error f ∧
      (f.class = .value ∧ f.message = "month must be in 1..12" : Bool) :=
    exists_error (by decide +kernel)
  simpa only [decide_eq_true_eq] using And.intro hkind hvalue

end Manifest

end Refit
