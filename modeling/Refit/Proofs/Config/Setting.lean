import Refit.Proofs.Config.Assignments
import Refit.Proofs.Config.Resolving
import Refit.Proofs.Disk.Mirrored
import Refit.Proofs.Text.Utf8

/-!
Setting a value in the file of the user: what the file holds afterwards.

Where the file is absent or can be read, all that it says elsewhere stays. A file that breaks the
format counts as empty, so that setting a value replaces all of it.
-/

namespace Refit

open Datum (Reordered)

namespace Disk

variable {d : Disk} {cwd : List String} {l : Location} {b : List UInt8} {name : String}

-- A file can be written at a path, once the folders around it are made.
def Openable (d : Disk) (cwd : List String) (l : Location) : Prop :=
  ∃ p d', Ends (makeFolders cwd l.parent) d (.ok ()) d' ∧ d'.place cwd l = .ok p ∧
    d'.find? p ≠ some .folder

-- A file that is there can be written again.
theorem Openable.of_readBytes (h : d.readBytes cwd (l.child name) = .ok b) (hname : name ≠ "") :
    d.Openable cwd (l.child name) := by
  obtain ⟨p, hp, hb⟩ := bind_eq_ok.mp h
  obtain ⟨q, hq⟩ := Rooted.of_place_child hp hname
  have hparent : (l.child name).parent = l := by
    rw [Location.child, Location.parent, List.dropLast_concat]
  refine ⟨p, d, ?_, hp, fun hfolder => ?_⟩
  · rw [hparent]
    exact makeFolders_of_isFolder hq.isFolder
  · rw [hfolder] at hb
    cases hb

-- A disk after a text was written to a file: the file holds it, and no other file is changed.
structure Rewritten (d : Disk) (cwd : List String) (l : Location) (text : String) (d' : Disk) :
    Prop where
  content : d'.readBytes cwd l = .ok text.toUTF8.toList
  others : d.Overridden [(l.reach cwd, text)] d'

theorem Openable.store (h : d.Openable cwd l) (text : String) :
    ∃ d', Ends (Disk.store cwd l text) d (.ok ()) d' ∧ d.Rewritten cwd l text d' := by
  obtain ⟨p, d', hfolders, hplace, hfree⟩ := h
  have hwrite : Ends (Disk.store cwd l text) d (.ok ()) (d'.set p (.file text.toUTF8.toList)) :=
    (Ends.bind_of_ok hfolders).mpr (writeText_of_place hplace hfree text)
  refine ⟨_, hwrite, readBytes_of_place ((Grows.set hfree).place hplace) ?_, ?_⟩
  · rw [find?_set (ne_nil_of_find?_ne hfree), if_pos rfl]
  · exact (store_cases hwrite).elim (fun ⟨⟨_, he⟩, _⟩ => nomatch he) And.right

end Disk

namespace Config

variable {s : Session} {l : Location} {key : String} {v : Datum} {es t : Dict} {b : List UInt8}
  {text : String} {ks : List String}

/-! Tables in another order -/

theorem rel_bind {α β : Type} {R : α → α → Prop} {S : β → β → Prop} {o p : Option α}
    {f g : α → Option β} (h : Option.Rel R o p)
    (hfg : ∀ a b, o = some a → R a b → Option.Rel S (f a) (g b)) :
    Option.Rel S (o.bind f) (p.bind g) := by
  cases h
  case none => exact .none
  case some hab => exact hfg _ _ rfl hab

-- What stands at a path does not depend on the order of entries.
theorem valueAt?_reordered {d e : Datum} {qs : List String} (hd : Keyed d) (h : Reordered d e) :
    Option.Rel Reordered (valueAt? qs d) (valueAt? qs e) := by
  induction qs generalizing d e
  case nil => exact .some h
  case cons q qs ih =>
    cases h
    case refl =>
      cases valueAt? (q :: qs) d
      · exact .none
      · exact .some (.refl _)
    case list => exact .none
    case table es fs gs hperm hkeys hvalues =>
      have hrel := Dict.get?_forall₂ (k := q) hkeys hvalues
      rw [← Dict.get?_perm hperm hd.nodup] at hrel
      exact rel_bind hrel fun v w hv hvw => ih (hd.of_get? hv) hvw

-- A value as it is set from a command.
inductive IsSetting : Datum → Prop
  | text (s : String) : IsSetting (.text s)
  | bool (b : Bool) : IsSetting (.bool b)
  | int (i : Int) : IsSetting (.int i)

theorem IsSetting.keyed (h : IsSetting v) : Keyed v := by
  cases h
  all_goals exact .leaf nofun nofun

theorem IsSetting.eq_of_reordered {w : Datum} (h : IsSetting v) (hw : Reordered v w) : w = v := by
  cases h
  all_goals
    cases hw
    rfl

-- A table has a value at a path, tables on the way there, and else what another table has. Only the
-- order of entries may have changed.
structure SetsOnly (ks : List String) (v : Datum) (old new : Dict) : Prop where
  here : valueAt? ks (.dict new) = some v
  around : ∀ qs, qs <+: ks → qs ≠ ks → ∃ fs, valueAt? qs (.dict new) = some (.dict fs)
  elsewhere : ∀ qs, Diverge qs ks →
    Option.Rel Reordered (valueAt? qs (.dict old)) (valueAt? qs (.dict new))

theorem SetsOnly.of_assign (hes : Keyed (.dict es)) (hv : IsSetting v)
    (h : Reordered (.dict (assign es key v)) (.dict t)) : SetsOnly (path key) v es t := by
  have hrel (qs : List String) : Option.Rel Reordered
      (valueAt? qs (.dict (assign es key v))) (valueAt? qs (.dict t)) :=
    valueAt?_reordered (hes.assignAt hv.keyed) h
  constructor
  case here =>
    have hhere := hrel (path key)
    rw [assign, valueAt?_assignAt_self hes.passable path_ne_nil] at hhere
    generalize valueAt? (path key) (.dict t) = o at hhere ⊢
    cases hhere with | some hw => exact congrArg some (hv.eq_of_reordered hw)
  case around =>
    intro qs hqs hne
    have haround := hrel qs
    obtain ⟨fs, hfs⟩ := valueAt?_assignAt_around (v := v) hes.passable hqs hne
    rw [assign, hfs] at haround
    generalize valueAt? qs (.dict t) = o at haround ⊢
    cases haround with | some hw =>
      cases hw
      case refl => exact ⟨_, rfl⟩
      case table => exact ⟨_, rfl⟩
  case elsewhere =>
    intro qs hqs
    have helse := hrel qs
    rwa [assign, valueAt?_assignAt hes.passable hqs] at helse

/-! The file -/

-- What bytes say as a table.
def Parses (b : List UInt8) (t : Dict) : Prop :=
  ∃ text, Utf8.decode b = .ok text ∧ Toml.read text = .ok t

-- Text that breaks the format of tables.
def Garbled (b : List UInt8) : Prop :=
  ∃ text, Utf8.decode b = .ok text ∧ Toml.read text = .error .malformed

theorem Garbled.not_parses (h : Garbled b) : ¬Parses b t := by
  rintro ⟨text, htext, hok⟩
  obtain ⟨text', htext', herror⟩ := h
  obtain rfl := Except.ok.inj (htext.symm.trans htext')
  cases hok.symm.trans herror

-- A table can be written, and what is written is read as the table again.
def RoundTrips (t : Dict) : Prop :=
  ∃ text u, Toml.write t = (text, none) ∧ Toml.read text = .ok u ∧ Reordered (.dict t) (.dict u)

-- What the file of a session holds before it is written: nothing if it can be made, or a table.
inductive Sound (s : Session) (l : Location) : Dict → Prop
  | absent : s.disk.isFile s.cwd l = .ok false → s.disk.Openable s.cwd l → Sound s l []
  | parsed {b : List UInt8} {t : Dict} : s.disk.readBytes s.cwd l = .ok b → Parses b t → Sound s l t

-- The file holds a table that differs from another one only in what stands at a key.
def Updated (s : Session) (l : Location) (key : String) (v : Datum) (old : Dict) (d : Disk) :
    Prop :=
  ∃ text t, s.disk.Rewritten s.cwd l text d ∧ Toml.read text = .ok t ∧ SetsOnly (path key) v old t

theorem openable_of_readBytes (huser : Ends userFile s (.ok l) s)
    (hb : s.disk.readBytes s.cwd l = .ok b) : s.disk.Openable s.cwd l := by
  replace huser := Ends.get_bind_iff.mp huser
  split at huser
  case h_1 =>
    obtain ⟨rfl, -⟩ := Ends.pure_ok_iff.mp huser
    exact .of_readBytes hb (by decide)
  case h_2 => cases (Ends.throw_iff.mp huser).1

namespace Sound

theorem holds (h : Sound s l es) : Holds s l es := by
  cases h
  case absent h _ => exact .absent h
  case parsed hb h =>
    obtain ⟨text, htext, hread⟩ := h
    exact .parsed hb htext hread

theorem openable (huser : Ends userFile s (.ok l) s) (h : Sound s l es) :
    s.disk.Openable s.cwd l := by
  cases h
  case absent h => exact h
  case parsed hb _ => exact openable_of_readBytes huser hb

end Sound

-- How writing ends.
def outcome : Option Fault → Except Stop Unit
  | some f => .error (.fault f)
  | none => .ok ()

theorem writeTable_ends {fault : Option Fault} (hopen : s.disk.Openable s.cwd l)
    (hwrite : Toml.write t = (text, fault)) :
    ∃ d, Ends (writeTable t l) s (outcome fault) { s with disk := d } ∧
      s.disk.Rewritten s.cwd l text d := by
  obtain ⟨d, hstore, hd⟩ := hopen.store text
  refine ⟨d, ?_, hd⟩
  rw [writeTable, hwrite]
  have hchange : Ends (Action.change fun cwd => Disk.store cwd l text) s (.ok ())
      { s with disk := d } := Action.change_iff.mpr ⟨d, hstore, rfl⟩
  refine (Ends.bind_of_ok hchange).mpr ?_
  cases fault
  case none => exact Ends.pure_iff.mpr ⟨rfl, rfl⟩
  case some => exact Ends.throw_iff.mpr ⟨rfl, rfl⟩

/-! Setting a value -/

theorem setUserValue_updated (huser : Ends userFile s (.ok l) s) (hv : IsSetting v)
    (hes : Holds s l es) (hopen : s.disk.Openable s.cwd l) (hround : RoundTrips (assign es key v)) :
    ∃ d, Ends (setUserValue key v) s (.ok ()) { s with disk := d, config := none } ∧
      Updated s l key v es d := by
  obtain ⟨text, t, hwrite, hread, hsame⟩ := hround
  obtain ⟨d, htable, hd⟩ := writeTable_ends hopen hwrite
  refine ⟨d, ?_, text, t, hd, hread, .of_assign hes.keyed hv hsame⟩
  refine (Ends.bind_of_ok huser).mpr ((Ends.bind_of_ok hes.readTable).mpr ?_)
  exact (Ends.bind_of_ok htable).mpr (Ends.modify_iff.mpr ⟨rfl, rfl⟩)

-- A table that cannot be written leaves what comes before the trouble.
theorem setUserValue_faults {f : Fault} (huser : Ends userFile s (.ok l) s) (hes : Holds s l es)
    (hopen : s.disk.Openable s.cwd l) (hwrite : Toml.write (assign es key v) = (text, some f)) :
    ∃ d, Ends (setUserValue key v) s (.error (.fault f)) { s with disk := d } ∧
      s.disk.Rewritten s.cwd l text d := by
  obtain ⟨d, htable, hd⟩ := writeTable_ends hopen hwrite
  refine ⟨d, (Ends.bind_of_ok huser).mpr ((Ends.bind_of_ok hes.readTable).mpr ?_), hd⟩
  exact Ends.bind_of_error htable

-- A file that cannot be read stops what would be set in it, unless it breaks the format.
theorem setUserValue_stops (huser : Ends userFile s (.ok l) s)
    (hb : s.disk.readBytes s.cwd l = .ok b) (hparses : ∀ t, ¬Parses b t) (hgarbled : ¬Garbled b) :
    ∃ e, Ends (setUserValue key v) s (.error e) s := by
  obtain ⟨e, he⟩ : ∃ e, tableOfFile l s.disk s.cwd = .error e := by
    cases htext : Utf8.decode b
    case error trouble =>
      refine ⟨.undecodable trouble, ?_⟩
      rw [tableOfFile, hb]
      dsimp only
      rw [htext]
      rfl
    case ok text =>
      rw [Holds.tableOfFile_eq hb htext, tableOf]
      split
      case h_1 t hread => exact absurd ⟨text, htext, hread⟩ (hparses t)
      case h_2 hread => exact absurd ⟨text, htext, hread⟩ hgarbled
      case h_3 => exact ⟨_, rfl⟩
      case h_4 => exact ⟨_, rfl⟩
  refine ⟨e, (Ends.bind_of_ok huser).mpr (Ends.bind_of_error ?_)⟩
  have hfile := (Disk.isFile_of_readBytes hb).symm
  refine (Ends.bind_of_ok (Action.ask_iff.mpr ⟨hfile, rfl⟩)).mpr ?_
  exact Action.ask_iff.mpr ⟨he.symm, rfl⟩

-- Where the file is absent or can be read, setting a value changes nothing but what stands at the
-- key. Content that is no text, or too deep or too long to be read, stays as it is. A file that
-- breaks the format is replaced, and trouble while a table is written leaves a part of it.
theorem setUserValue_keeps (huser : Ends userFile s (.ok l) s) (hv : IsSetting v) :
    (∀ es, Sound s l es →
      (RoundTrips (assign es key v) →
        ∃ d, Ends (setUserValue key v) s (.ok ()) { s with disk := d, config := none } ∧
          Updated s l key v es d) ∧
      ∀ text f, Toml.write (assign es key v) = (text, some f) →
        ∃ d, Ends (setUserValue key v) s (.error (.fault f)) { s with disk := d } ∧
          s.disk.Rewritten s.cwd l text d) ∧
    ∀ b, s.disk.readBytes s.cwd l = .ok b → (∀ t, ¬Parses b t) →
      (¬Garbled b → ∃ e, Ends (setUserValue key v) s (.error e) s) ∧
      (Garbled b → RoundTrips (assign [] key v) →
        ∃ d, Ends (setUserValue key v) s (.ok ()) { s with disk := d, config := none } ∧
          Updated s l key v [] d ∧ d.readBytes s.cwd l ≠ .ok b) := by
  refine ⟨fun es hes => ⟨?_, fun text f => ?_⟩, fun b hb hparses => ⟨?_, fun hgarbled hround => ?_⟩⟩
  case refine_1 => exact setUserValue_updated huser hv hes.holds (hes.openable huser)
  case refine_2 => exact setUserValue_faults huser hes.holds (hes.openable huser)
  case refine_3 => exact setUserValue_stops huser hb hparses
  case refine_4 =>
    obtain ⟨text, htext, hread⟩ := hgarbled
    obtain ⟨d, hends, hd⟩ := setUserValue_updated huser hv (.malformed hb htext hread)
      (openable_of_readBytes huser hb) hround
    refine ⟨d, hends, hd, fun hsame => ?_⟩
    obtain ⟨new, t, hnew, hparsed, -⟩ := hd
    obtain rfl := Except.ok.inj (hnew.content.symm.trans hsame)
    exact hparses t ⟨new, Utf8.decode_toUTF8, hparsed⟩

-- A user whose file has some text.
def userSession (text : String) : Session where
  disk := ⟨[(["me"], .folder), (["me", ".config"], .folder),
    (["me", ".config", "replant"], .folder),
    (["me", ".config", "replant", "config.toml"], .file text.toUTF8.toList), (["work"], .folder)]⟩
  cwd := ["work"]
  home := ["me"]
  temp := ["tmp"]

def userLocation : Location :=
  .absolute ["me", ".config", "replant", "config.toml"]

theorem userFile_userSession {text : String} :
    Ends userFile (userSession text) (.ok userLocation) (userSession text) :=
  rfl

theorem readBytes_userSession {text : String} :
    (userSession text).disk.readBytes (userSession text).cwd userLocation =
      .ok text.toUTF8.toList :=
  rfl

-- A number that stands where the key asks for a table.
def leafText : String :=
  "clone = 1\nname = 'x'\n"

def leafTable : Dict :=
  [(.text "clone", .int 1), (.text "name", .text "x")]

def isLeafTable : Dict → Bool
  | [(.text "clone", .int 1), (.text "name", .text "x")] => true
  | _ => false

def isNestedTable : Dict → Bool
  | [(.text "name", .text "x"), (.text "clone", .dict [(.text "depth", .int 3)])] => true
  | _ => false

def isDepthTable : Dict → Bool
  | [(.text "clone", .dict [(.text "depth", .int 3)])] => true
  | _ => false

theorem sound_leafTable : Sound (userSession leafText) userLocation leafTable := by
  have hread : (Toml.read leafText).toOption.any isLeafTable := by
    decide +kernel
  obtain ⟨t, ht, htable⟩ := any_toOption.mp hread
  rw [isLeafTable.eq_def] at htable
  split at htable
  case h_1 => exact .parsed readBytes_userSession ⟨_, Utf8.decode_toUTF8, ht⟩
  case h_2 => cases htable

theorem assign_leafTable : assign leafTable "clone.depth" (.int 3) =
    [(.text "clone", .dict [(.text "depth", .int 3)]), (.text "name", .text "x")] := by
  have hpath : path "clone.depth" = ["clone", "depth"] := by decide +kernel
  simp [assign, hpath, assignAt, tableAt, Dict.get?, Dict.set, Dict.put, leafTable]

-- The table is written behind the other entry.
theorem roundTrips_leafTable : RoundTrips (assign leafTable "clone.depth" (.int 3)) := by
  have hwrite : (Toml.write (assign leafTable "clone.depth" (.int 3))).1 =
        "name = \"x\"\n\n[clone]\ndepth = 3\n" ∧
      (Toml.write (assign leafTable "clone.depth" (.int 3))).2.isNone := by
    decide +kernel
  have hread : (Toml.read "name = \"x\"\n\n[clone]\ndepth = 3\n").toOption.any isNestedTable := by
    decide +kernel
  obtain ⟨t, ht, htable⟩ := any_toOption.mp hread
  rw [isNestedTable.eq_def] at htable
  split at htable
  case h_1 =>
    refine ⟨_, _, Prod.ext hwrite.1 (Option.isNone_iff_eq_none.mp hwrite.2), ht, ?_⟩
    rw [assign_leafTable]
    exact .of_perm (.swap _ _ _)
  case h_2 => cases htable

-- A table whose bracket is left open.
def openTable : String :=
  "[clone\nbranch = 'dev'\n"

theorem garbled_openTable : Garbled openTable.toUTF8.toList := by
  have hread : ∃ e, Toml.read openTable = .error e ∧ (e == .malformed) :=
    exists_error (by decide +kernel)
  obtain ⟨e, he, hmalformed⟩ := hread
  obtain rfl := eq_of_beq hmalformed
  exact ⟨_, Utf8.decode_toUTF8, he⟩

theorem roundTrips_depth : RoundTrips (assign [] "clone.depth" (.int 3)) := by
  have hwrite : (Toml.write (assign [] "clone.depth" (.int 3))).1 = "[clone]\ndepth = 3\n" ∧
      (Toml.write (assign [] "clone.depth" (.int 3))).2.isNone := by
    decide +kernel
  have hread : (Toml.read "[clone]\ndepth = 3\n").toOption.any isDepthTable := by
    decide +kernel
  obtain ⟨t, ht, htable⟩ := any_toOption.mp hread
  rw [isDepthTable.eq_def] at htable
  split at htable
  case h_1 =>
    refine ⟨_, _, Prod.ext hwrite.1 (Option.isNone_iff_eq_none.mp hwrite.2), ht, ?_⟩
    have hpath : path "clone.depth" = ["clone", "depth"] := by decide +kernel
    have hassign : assign [] "clone.depth" (.int 3) =
        [(.text "clone", .dict [(.text "depth", .int 3)])] := by
      simp [assign, hpath, assignAt, tableAt, Dict.get?, Dict.set, Dict.put]
    exact hassign ▸ .refl _
  case h_2 => cases htable

-- A number on the way to the key gives way to a table, and the other entry stays. The text with an
-- open bracket is replaced.
theorem setUserValue_keeps_leaf :
    (∃ d, Ends (setUserValue "clone.depth" (.int 3)) (userSession leafText) (.ok ())
        { userSession leafText with disk := d, config := none } ∧
      Updated (userSession leafText) userLocation "clone.depth" (.int 3) leafTable d) ∧
    ∃ d, Ends (setUserValue "clone.depth" (.int 3)) (userSession openTable) (.ok ())
        { userSession openTable with disk := d, config := none } ∧
      Updated (userSession openTable) userLocation "clone.depth" (.int 3) [] d ∧
      d.readBytes (userSession openTable).cwd userLocation ≠ .ok openTable.toUTF8.toList :=
  ⟨((setUserValue_keeps userFile_userSession (.int 3)).1 leafTable sound_leafTable).1
      roundTrips_leafTable,
    ((setUserValue_keeps userFile_userSession (.int 3)).2 _ readBytes_userSession
      fun _ => garbled_openTable.not_parses).2 garbled_openTable roundTrips_depth⟩

-- The open bracket costs the branch that is set below it.
theorem not_every_file_kept : ¬∀ (s : Session) (l : Location) (key : String) (v : Datum)
    (b : List UInt8), Ends userFile s (.ok l) s → IsSetting v →
      s.disk.readBytes s.cwd l = .ok b → (∀ t, ¬Parses b t) →
        ∀ r s', Ends (setUserValue key v) s r s' → s'.disk.readBytes s'.cwd l = .ok b := by
  intro hall
  have hset : Ends.returnsWith (setUserValue "clone.depth" (.int 3)) (userSession openTable)
      fun _ s => (s.disk.readBytes s.cwd userLocation).toOption.any
        (· == "[clone]\ndepth = 3\n".toUTF8.toList) := by
    decide +kernel
  obtain ⟨_, s', hends, hcontent⟩ := Ends.of_returnsWith hset
  have hkept := hall (userSession openTable) userLocation "clone.depth" (.int 3) _
    userFile_userSession (.int 3) readBytes_userSession (fun _ => garbled_openTable.not_parses) _ s'
    hends
  have hsame := Except.ok.inj (hkept.symm.trans (eq_ok_of_any hcontent))
  exact absurd (Disk.toUTF8_toList_inj.mp hsame) (by decide)

end Config

end Refit
