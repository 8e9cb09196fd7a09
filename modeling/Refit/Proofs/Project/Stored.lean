import Refit.Project.Snapshot
import Refit.Proofs.Datum.Plain
import Refit.Proofs.Plan.Formed

/-!
Snapshots that are stored and read back.

Every record is read back from its own value as it was, with one exception: a reasoning that is a
list is joined. A record that is read of a plain value has a plain value again, and a copy of the
value of a record is the value of a record.
-/

namespace Refit

open Datum

/-! Reading fields -/

namespace Record

variable {d v fallback : Datum} {xs : List Datum} {key : String} {α : Type} {as : List α}
  {read : Datum → Read α} {write : α → Datum}

theorem each_of_items (h : items d key = .ok (as.map write)) (hread : ∀ a, read (write a) = .ok a) :
    each d key read = .ok as := by
  rw [each, h]
  exact mapM_eq_ok.mpr (List.forall₂_map_left_iff.mpr (List.forall₂_same.mpr fun a _ => hread a))

theorem optional_plain (hd : d.Plain) (h : optional d key fallback = .ok v) (hf : fallback.Plain) :
    v.Plain := by
  have ⟨es, hes, hv⟩ := bind_eq_ok.mp h
  rw [asDict, entries?, opened_of_plain hd] at hes
  cases d
  case dict =>
    cases hes
    exact pure_eq_ok.mp hv ▸ get_plain hd hf
  all_goals cases hes

theorem orElse_plain (hd : d.Plain) (h : orElse d key fallback = .ok v) (hf : fallback.Plain) :
    v.Plain := by
  have ⟨w, hw, hv⟩ := bind_eq_ok.mp h
  rw [← pure_eq_ok.mp hv, Datum.orElse]
  split
  · exact optional_plain hd hw trivial
  · exact hf

theorem field_plain (hd : d.Plain) (h : d.field key = .ok v) : v.Plain := by
  rw [field, opened_of_plain hd] at h
  cases d
  case dict es =>
    dsimp only at h
    split at h
    case h_1 w hw =>
      obtain ⟨e, he, hv⟩ := List.mem_map.mp (Dict.mem_of_get? hw)
      exact Except.ok.inj h ▸ hv ▸ (entriesPlain_iff.mp hd e he).2
    case h_2 => cases h
  all_goals cases h

theorem items_plain (hd : d.Plain) (h : items d key = .ok xs) : AllPlain xs := by
  have ⟨w, hw, hx⟩ := bind_eq_ok.mp h
  exact allPlain_iff.mpr (Datum.items_plain (optional_plain hd hw trivial) hx)

theorem each_plain (hd : d.Plain) (h : each d key read = .ok as)
    (hread : ∀ {x a}, x.Plain → read x = .ok a → (write a).Plain) :
    AllPlain (as.map write) := by
  have ⟨xs, hxs, has⟩ := bind_eq_ok.mp h
  have hplain := allPlain_iff.mp (items_plain hd hxs)
  rw [allPlain_iff, List.forall_mem_map]
  exact forall_mem_of_mapM has fun x hx _ hxa => hread (hplain x hx) hxa

end Record

variable {d e : Datum}

-- The copies of the values of records are values of records.
theorem exists_copies {α : Type} {write : α → Datum} {as : List α} {ys : List Datum}
    (h : List.Forall₂ (fun a y => (write a).unshared = .ok y) as ys)
    (hcopy : ∀ {a e}, (write a).unshared = .ok e → ∃ b, write b = e) :
    ∃ bs : List α, bs.map write = ys := by
  induction h
  case nil => exact ⟨[], rfl⟩
  case cons ha _ ih =>
    obtain ⟨b, rfl⟩ := hcopy ha
    obtain ⟨bs, rfl⟩ := ih
    exact ⟨b :: bs, rfl⟩

/-! Fields and classes -/

namespace Field

variable {f : Field}

theorem ofDatum_toDatum : ofDatum f.toDatum = .ok f :=
  rfl

theorem ofDatum_plain (hd : d.Plain) (h : ofDatum d = .ok f) : f.toDatum.Plain := by
  simp only [ofDatum, bind_eq_ok, pure_eq_ok] at h
  obtain ⟨_, hname, _, htype, _, -, _, hinitial, _, hannotations, rfl⟩ := h
  exact ⟨trivial, Record.field_plain hd hname, trivial, Record.optional_plain hd htype trivial,
    trivial, trivial, trivial, Record.optional_plain hd hinitial trivial, trivial,
    Record.items_plain hd hannotations, trivial⟩

theorem exists_copy (h : f.toDatum.unshared = .ok e) : ∃ g : Field, g.toDatum = e := by
  simp [toDatum] at h
  have ⟨name, _, type, _, initial, _, annotations, _, he⟩ := h
  exact ⟨⟨name, type, f.nullable, initial, annotations⟩, he⟩

end Field

namespace Relationship

variable {r : Relationship}

theorem ofDatum_toDatum : ofDatum r.toDatum = .ok r :=
  rfl

theorem ofDatum_plain (hd : d.Plain) (h : ofDatum d = .ok r) : r.toDatum.Plain := by
  simp only [ofDatum, bind_eq_ok, pure_eq_ok] at h
  obtain ⟨_, htype, _, htarget, _, hfield, rfl⟩ := h
  exact ⟨trivial, Record.field_plain hd htype, trivial, Record.field_plain hd htarget, trivial,
    Record.field_plain hd hfield, trivial⟩

theorem exists_copy (h : r.toDatum.unshared = .ok e) : ∃ q : Relationship, q.toDatum = e := by
  simp [toDatum] at h
  have ⟨type, _, target, _, field, _, he⟩ := h
  exact ⟨⟨type, target, field⟩, he⟩

end Relationship

namespace Model

variable {m : Model}

theorem ofDatum_toDatum : ofDatum m.toDatum = .ok m := by
  have hfields : Record.each m.toDatum "fields" Field.ofDatum = .ok m.fields :=
    Record.each_of_items rfl fun _ => Field.ofDatum_toDatum
  have hrelationships :
      Record.each m.toDatum "relationships" Relationship.ofDatum = .ok m.relationships :=
    Record.each_of_items rfl fun _ => Relationship.ofDatum_toDatum
  rw [ofDatum, hfields, hrelationships]
  rfl

theorem ofDatum_plain (hd : d.Plain) (h : ofDatum d = .ok m) : m.toDatum.Plain := by
  simp only [ofDatum, bind_eq_ok, pure_eq_ok] at h
  obtain ⟨_, hname, _, hfile, _, hfields, _, hannotations, _, hrelationships, _, -, _, -, rfl⟩ := h
  exact ⟨trivial, Record.field_plain hd hname, trivial, Record.optional_plain hd hfile trivial,
    trivial, Record.each_plain hd hfields Field.ofDatum_plain, trivial,
    Record.items_plain hd hannotations, trivial,
    Record.each_plain hd hrelationships Relationship.ofDatum_plain, trivial, trivial, trivial,
    trivial, trivial⟩

theorem exists_copy (h : m.toDatum.unshared = .ok e) : ∃ n : Model, n.toDatum = e := by
  simp [toDatum] at h
  have ⟨name, _, file, _, _, hfields, annotations, _, _, hrelationships, he⟩ := h
  obtain ⟨fields, rfl⟩ := exists_copies hfields Field.exists_copy
  obtain ⟨relationships, rfl⟩ := exists_copies hrelationships Relationship.exists_copy
  exact ⟨⟨name, file, fields, annotations, relationships, m.isImmutable, m.hasJson⟩, he⟩

end Model

/-! Screens and widgets -/

namespace Scaffold

variable {s : Scaffold}

theorem ofDatum_toDatum : ofDatum s.toDatum = .ok s :=
  rfl

theorem plain_toDatum : s.toDatum.Plain :=
  record_plain_iff.mpr (by simp [Plain])

end Scaffold

namespace Screen

variable {s : Screen}

theorem ofDatum_toDatum : ofDatum s.toDatum = .ok s :=
  rfl

theorem ofDatum_plain (hd : d.Plain) (h : ofDatum d = .ok s) : s.toDatum.Plain := by
  simp only [ofDatum, bind_eq_ok, pure_eq_ok] at h
  obtain ⟨_, hname, _, hfile, _, hkind, _, hroute, _, -, _, -, _, hproviders, _, hwidgets, _,
    hlayout, rfl⟩ := h
  exact ⟨trivial, Record.field_plain hd hname, trivial, Record.optional_plain hd hfile trivial,
    trivial, Record.optional_plain hd hkind trivial, trivial,
    Record.optional_plain hd hroute trivial, trivial, Scaffold.plain_toDatum, trivial,
    Record.items_plain hd hproviders, trivial, Record.items_plain hd hwidgets, trivial,
    Record.optional_plain hd hlayout trivial, trivial⟩

theorem exists_copy (h : s.toDatum.unshared = .ok e) : ∃ t : Screen, t.toDatum = e := by
  simp [toDatum, unshared_of_plain _ Scaffold.plain_toDatum] at h
  have ⟨name, _, file, _, kind, _, route, _, providers, _, widgets, _, layout, _, he⟩ := h
  exact ⟨⟨name, file, kind, route, s.scaffold, providers, widgets, layout⟩, he⟩

end Screen

namespace Widget

variable {w : Widget}

theorem ofDatum_toDatum : ofDatum w.toDatum = .ok w := by
  have hprops : Record.each w.toDatum "props" Field.ofDatum = .ok w.props :=
    Record.each_of_items rfl fun _ => Field.ofDatum_toDatum
  rw [ofDatum, hprops]
  rfl

theorem ofDatum_plain (hd : d.Plain) (h : ofDatum d = .ok w) : w.toDatum.Plain := by
  simp only [ofDatum, bind_eq_ok, pure_eq_ok] at h
  obtain ⟨_, hprops, _, hname, _, hfile, _, hkind, _, -, rfl⟩ := h
  exact ⟨trivial, Record.field_plain hd hname, trivial, Record.optional_plain hd hfile trivial,
    trivial, Record.optional_plain hd hkind trivial, trivial,
    Record.each_plain hd hprops Field.ofDatum_plain, trivial, trivial, trivial⟩

theorem exists_copy (h : w.toDatum.unshared = .ok e) : ∃ v : Widget, v.toDatum = e := by
  simp [toDatum] at h
  have ⟨name, _, file, _, kind, _, _, hprops, he⟩ := h
  obtain ⟨props, rfl⟩ := exists_copies hprops Field.exists_copy
  exact ⟨⟨name, file, kind, props, w.isReusable⟩, he⟩

end Widget

/-! Themes, dependencies and counts -/

theorem orElse_dict_nil {es : Dict} : (dict es).orElse (.dict []) = .dict es := by
  cases es
  case nil => rfl
  case cons => rfl

namespace Theme

variable {t : Theme}

theorem ofDatum_toDatum : ofDatum t.toDatum = .ok t := by
  have hcolors : Record.orElse t.toDatum "colors" (.dict []) = .ok (.dict t.colors) :=
    congrArg Except.ok orElse_dict_nil
  rw [ofDatum, hcolors]
  rfl

theorem ofDatum_plain (hd : d.Plain) (h : ofDatum d = .ok t) : t.toDatum.Plain := by
  simp only [ofDatum, bind_eq_ok, pure_eq_ok] at h
  obtain ⟨_, -, _, -, _, hprimary, _, hfont, _, hvalue, _, hcolors, _, -, _, hfile, rfl⟩ := h
  exact ⟨trivial, trivial, trivial, trivial, trivial, Record.optional_plain hd hprimary trivial,
    trivial, Record.optional_plain hd hfont trivial, trivial,
    toDict_plain (Record.orElse_plain hd hvalue trivial) hcolors, trivial, trivial, trivial,
    Record.optional_plain hd hfile trivial, trivial⟩

theorem exists_copy (h : t.toDatum.unshared = .ok e) : ∃ u : Theme, u.toDatum = e := by
  simp [toDatum] at h
  have ⟨primary, _, font, _, colors, _, file, _, he⟩ := h
  exact ⟨⟨t.usesMaterial, t.usesCupertino, primary, font, colors, t.isCustom, file⟩, he⟩

end Theme

namespace Dependencies

variable {p : Dependencies}

theorem ofDatum_toDatum : ofDatum p.toDatum = .ok p := by
  have hruntime : Record.orElse p.toDatum "runtime" (.dict []) = .ok (.dict p.runtime) :=
    congrArg Except.ok orElse_dict_nil
  have hdev : Record.orElse p.toDatum "dev" (.dict []) = .ok (.dict p.dev) :=
    congrArg Except.ok orElse_dict_nil
  rw [ofDatum, hruntime, hdev]
  rfl

theorem ofDatum_plain (hd : d.Plain) (h : ofDatum d = .ok p) : p.toDatum.Plain := by
  simp only [ofDatum, bind_eq_ok, pure_eq_ok] at h
  obtain ⟨_, hstate, _, hpersistence, _, hnetworking, _, hnavigation, _, hstates, _, hpersistences,
    _, hnetworks, _, hnavigations, _, -, _, -, _, -, _, hown, _, hruntime, _, hother, _, hdev,
    rfl⟩ := h
  exact ⟨trivial, Record.optional_plain hd hstate trivial, trivial,
    Record.optional_plain hd hpersistence trivial, trivial,
    Record.optional_plain hd hnetworking trivial, trivial,
    Record.optional_plain hd hnavigation trivial, trivial, Record.items_plain hd hstates, trivial,
    Record.items_plain hd hpersistences, trivial, Record.items_plain hd hnetworks, trivial,
    Record.items_plain hd hnavigations, trivial, trivial, trivial, trivial, trivial, trivial,
    trivial, toDict_plain (Record.orElse_plain hd hown trivial) hruntime, trivial,
    toDict_plain (Record.orElse_plain hd hother trivial) hdev, trivial⟩

theorem exists_copy (h : p.toDatum.unshared = .ok e) : ∃ q : Dependencies, q.toDatum = e := by
  simp [toDatum] at h
  have ⟨state, _, persistence, _, networking, _, navigation, _, states, _, persistences, _,
    networks, _, navigations, _, runtime, _, dev, _, he⟩ := h
  exact ⟨⟨state, persistence, networking, navigation, states, persistences, networks, navigations,
    p.usesFreezed, p.usesJsonSerializable, p.usesBuildRunner, runtime, dev⟩, he⟩

end Dependencies

namespace Stats

variable {s : Stats}

theorem ofDatum_toDatum : ofDatum s.toDatum = .ok s :=
  rfl

theorem plain_toDatum : s.toDatum.Plain :=
  record_plain_iff.mpr (by simp [Plain])

end Stats

/-! Folder trees -/

namespace Folder

variable {t : Folder}

theorem toDatums_eq {cs : List Folder} : toDatums cs = cs.map toDatum := by
  induction cs
  case nil => rfl
  case cons c cs ih => rw [toDatums, ih, List.map_cons]

theorem depth_lt {name path type fileType category : Datum} {cs : List Folder} (ht : t ∈ cs) :
    t.toDatum.depth < (node name path type cs fileType category).toDatum.depth := by
  have hlist : (list (toDatums cs)).depth <
      (node name path type cs fileType category).toDatum.depth := by
    rw [toDatum, record]
    exact depth_lt_dict (by simp)
  refine Nat.lt_trans (Nat.lt_succ_of_le (depth_le_depths ?_)) hlist
  rw [toDatums_eq]
  exact List.mem_map_of_mem ht

theorem ofDatumFrom_node {n : Nat} {name path type fileType category : Datum} {cs : List Folder}
    (h : ∀ c ∈ cs, ofDatumFrom n c.toDatum = .ok c) :
    ofDatumFrom (n + 1) (node name path type cs fileType category).toDatum =
      .ok (node name path type cs fileType category) := by
  have hchildren : (toDatums cs).mapM (ofDatumFrom n) = .ok cs := by
    rw [toDatums_eq]
    exact mapM_eq_ok.mpr (List.forall₂_map_left_iff.mpr (List.forall₂_same.mpr h))
  have hlist : Record.orElse (node name path type cs fileType category).toDatum "children"
      (.list []) = .ok (.list (toDatums cs)) := by
    cases cs
    case nil => rfl
    case cons => rfl
  rw [ofDatumFrom, hlist]
  exact bind_eq_ok.mpr ⟨name, rfl, bind_eq_ok.mpr ⟨path, rfl, bind_eq_ok.mpr ⟨type, rfl,
    bind_eq_ok.mpr ⟨_, rfl, bind_eq_ok.mpr ⟨_, rfl, bind_eq_ok.mpr ⟨cs, hchildren, rfl⟩⟩⟩⟩⟩⟩

-- The depth of nesting of the value bounds the depth of the tree.
theorem ofDatumFrom_toDatum {n : Nat} (h : t.toDatum.depth ≤ n) :
    ofDatumFrom n t.toDatum = .ok t := by
  induction n generalizing t
  case zero => cases t; cases h
  case succ n ih =>
    have ⟨name, path, type, cs, fileType, category⟩ := t
    exact ofDatumFrom_node fun c hc => ih (Nat.lt_succ_iff.mp (Nat.lt_of_lt_of_le (depth_lt hc) h))

theorem ofDatum_toDatum : ofDatum t.toDatum = .ok t :=
  ofDatumFrom_toDatum (Nat.le_succ _)

theorem ofDatumFrom_plain {n : Nat} (hd : d.Plain) (h : ofDatumFrom n d = .ok t) :
    t.toDatum.Plain := by
  induction n generalizing d t
  case zero => cases h
  case succ n ih =>
    simp only [ofDatumFrom, bind_eq_ok, pure_eq_ok] at h
    obtain ⟨_, hname, _, hpath, _, htype, _, hvalue, ds, hds, cs, hcs, _, hfile, _, hcategory,
      rfl⟩ := h
    have hchildren : AllPlain (toDatums cs) := by
      have hplain := items_plain (Record.orElse_plain hd hvalue trivial) hds
      rw [toDatums_eq, allPlain_iff, List.forall_mem_map]
      exact forall_mem_of_mapM hcs fun x hx _ hxc => ih (hplain x hx) hxc
    exact ⟨trivial, Record.optional_plain hd hname trivial, trivial,
      Record.optional_plain hd hpath trivial, trivial, Record.optional_plain hd htype trivial,
      trivial, hchildren, trivial, Record.optional_plain hd hfile trivial, trivial,
      Record.optional_plain hd hcategory trivial, trivial⟩

theorem ofDatum_plain (hd : d.Plain) (h : ofDatum d = .ok t) : t.toDatum.Plain :=
  ofDatumFrom_plain hd h

mutual

theorem exists_copy : (t : Folder) → (e : Datum) → t.toDatum.unshared = .ok e →
    ∃ u : Folder, u.toDatum = e
  | node .., _, h => by
    simp [toDatum] at h
    obtain ⟨name, _, path, _, type, _, _, hchildren, fileType, _, category, _, he⟩ := h
    obtain ⟨us, rfl⟩ := exists_copies_toDatums _ _ hchildren
    exact ⟨node name path type us fileType category, he⟩

theorem exists_copies_toDatums : (ts : List Folder) → (es : List Datum) →
    List.Forall₂ (fun x y => x.unshared = .ok y) (toDatums ts) es → ∃ us, toDatums us = es
  | [], _, .nil => ⟨[], rfl⟩
  | t :: ts, _, .cons ht hts => by
    obtain ⟨u, rfl⟩ := exists_copy t _ ht
    obtain ⟨us, rfl⟩ := exists_copies_toDatums ts _ hts
    exact ⟨u :: us, rfl⟩

end

end Folder

/-! Assessments -/

namespace Assessment

variable {a : Assessment}

-- A reasoning that is a list is joined when it is read.
theorem reasoningOf_of_items? (h : d.items? = none) : reasoningOf d = .ok d := by
  rw [reasoningOf, h]
  rfl

theorem items?_of_reasoningOf {r : Datum} (h : reasoningOf d = .ok r) : r.items? = none := by
  rw [reasoningOf] at h
  split at h
  case h_1 =>
    have ⟨_, _, hr⟩ := bind_eq_ok.mp h
    exact pure_eq_ok.mp hr ▸ rfl
  case h_2 hd => exact pure_eq_ok.mp h ▸ hd

theorem reasoningOf_plain {r : Datum} (hd : d.Plain) (h : reasoningOf d = .ok r) : r.Plain := by
  rw [reasoningOf] at h
  split at h
  case h_1 =>
    have ⟨_, _, hr⟩ := bind_eq_ok.mp h
    exact pure_eq_ok.mp hr ▸ trivial
  case h_2 => exact pure_eq_ok.mp h ▸ hd

theorem ofDatum_toDatum (h : a.reasoning.items? = none) : ofDatum a.toDatum = .ok a := by
  have ⟨detected, confidence, tree, reasoning⟩ := a
  have htree : Record.orElse (mk detected confidence tree reasoning).toDatum "structure"
      (.record [("name", "lib"), ("path", "lib")]) = .ok tree.toDatum := by
    cases tree
    rfl
  rw [ofDatum, htree]
  exact bind_eq_ok.mpr ⟨_, rfl, bind_eq_ok.mpr ⟨_, reasoningOf_of_items? h, bind_eq_ok.mpr ⟨_, rfl,
    bind_eq_ok.mpr ⟨_, rfl, bind_eq_ok.mpr ⟨_, rfl, bind_eq_ok.mpr ⟨_, rfl,
    bind_eq_ok.mpr ⟨_, Folder.ofDatum_toDatum, rfl⟩⟩⟩⟩⟩⟩⟩

theorem items?_of_ofDatum (h : ofDatum d = .ok a) : a.reasoning.items? = none := by
  simp only [ofDatum, bind_eq_ok, pure_eq_ok] at h
  obtain ⟨_, _, _, hreasoning, _, _, _, _, _, _, _, _, _, _, rfl⟩ := h
  exact items?_of_reasoningOf hreasoning

theorem ofDatum_plain (hd : d.Plain) (h : ofDatum d = .ok a) : a.toDatum.Plain := by
  simp only [ofDatum, bind_eq_ok, pure_eq_ok] at h
  obtain ⟨_, hvalue, _, hreasoning, _, hdetected, _, -, _, -, _, htree, _, hfolder, rfl⟩ := h
  exact ⟨trivial, Record.optional_plain hd hdetected trivial, trivial, trivial, trivial,
    Folder.ofDatum_plain (Record.orElse_plain hd htree (record_plain_iff.mpr (by simp [Plain])))
      hfolder, trivial,
    reasoningOf_plain (Record.optional_plain hd hvalue trivial) hreasoning, trivial⟩

theorem exists_copy (h : a.toDatum.unshared = .ok e) : ∃ b : Assessment,
    b.toDatum = e ∧ a.reasoning.unshared = .ok b.reasoning := by
  simp [toDatum] at h
  obtain ⟨detected, _, _, hfolder, reasoning, hreasoning, he⟩ := h
  obtain ⟨tree, rfl⟩ := Folder.exists_copy _ _ hfolder
  exact ⟨⟨detected, a.confidence, tree, reasoning⟩, he, hreasoning⟩

end Assessment

/-! Snapshots -/

namespace Snapshot

variable {s : Snapshot}

theorem themeOf_toDatum {t : Option Theme} :
    themeOf (.ofOption Theme.toDatum t) = .ok t := by
  cases t
  case none => rfl
  case some t => exact bind_eq_ok.mpr ⟨t, Theme.ofDatum_toDatum, rfl⟩

theorem themeOf_plain {t : Option Theme} (hd : d.Plain) (h : themeOf d = .ok t) :
    (Datum.ofOption Theme.toDatum t).Plain := by
  rw [themeOf] at h
  split at h
  case isTrue =>
    obtain ⟨t, ht, h⟩ := bind_eq_ok.mp h
    exact pure_eq_ok.mp h ▸ Theme.ofDatum_plain hd ht
  case isFalse => exact pure_eq_ok.mp h ▸ trivial

theorem exists_copy_theme {t : Option Theme}
    (h : (Datum.ofOption Theme.toDatum t).unshared = .ok e) :
    ∃ u : Option Theme, Datum.ofOption Theme.toDatum u = e := by
  cases t
  case none => exact ⟨none, Except.ok.inj h⟩
  case some => exact (Theme.exists_copy h).imp' some fun _ h => h

theorem ofDatum_toDatum (h : s.architecture.reasoning.items? = none) :
    ofDatum s.toDatum = .ok s := by
  have hmodels : Record.each s.toDatum "models" Model.ofDatum = .ok s.models :=
    Record.each_of_items rfl fun _ => Model.ofDatum_toDatum
  have hscreens : Record.each s.toDatum "screens" Screen.ofDatum = .ok s.screens :=
    Record.each_of_items rfl fun _ => Screen.ofDatum_toDatum
  have hwidgets : Record.each s.toDatum "widgets" Widget.ofDatum = .ok s.widgets :=
    Record.each_of_items rfl fun _ => Widget.ofDatum_toDatum
  rw [ofDatum, hmodels, hscreens, hwidgets]
  exact bind_eq_ok.mpr ⟨_, rfl, bind_eq_ok.mpr ⟨_, rfl, bind_eq_ok.mpr ⟨_, rfl,
    bind_eq_ok.mpr ⟨_, rfl, bind_eq_ok.mpr ⟨_, rfl, bind_eq_ok.mpr ⟨_, rfl,
    bind_eq_ok.mpr ⟨_, Assessment.ofDatum_toDatum h, bind_eq_ok.mpr ⟨_, rfl,
    bind_eq_ok.mpr ⟨_, Dependencies.ofDatum_toDatum, bind_eq_ok.mpr ⟨_, rfl, bind_eq_ok.mpr ⟨_, rfl,
    bind_eq_ok.mpr ⟨_, rfl, bind_eq_ok.mpr ⟨_, themeOf_toDatum, rfl⟩⟩⟩⟩⟩⟩⟩⟩⟩⟩⟩⟩⟩

theorem items?_of_ofDatum (h : ofDatum d = .ok s) : s.architecture.reasoning.items? = none := by
  simp only [ofDatum, bind_eq_ok, pure_eq_ok] at h
  obtain ⟨_, _, _, _, _, _, _, _, _, _, _, _, _, harchitecture, _, _, _, _, _, _, _, _, _, _, _, _,
    _, _, _, _, rfl⟩ := h
  exact Assessment.items?_of_ofDatum harchitecture

theorem ofDatum_plain (hd : d.Plain) (h : ofDatum d = .ok s) : s.toDatum.Plain := by
  simp only [ofDatum, bind_eq_ok, pure_eq_ok] at h
  obtain ⟨_, hvalue, _, hname, _, hdescription, _, hflutter, _, hdart, _, hlayout, _,
    harchitecture, _, hpackages, _, hdependencies, _, hmodels, _, hscreens, _, hwidgets, _, htheme,
    _, -, _, -, rfl⟩ := h
  exact ⟨trivial, Record.optional_plain hd hname trivial, trivial,
    Assessment.ofDatum_plain (Record.orElse_plain hd hlayout trivial) harchitecture, trivial,
    Record.optional_plain hd hdescription trivial, trivial,
    Record.optional_plain hd hflutter trivial, trivial, Record.optional_plain hd hdart trivial,
    trivial, Dependencies.ofDatum_plain (Record.orElse_plain hd hpackages trivial) hdependencies,
    trivial, Record.each_plain hd hmodels Model.ofDatum_plain, trivial,
    Record.each_plain hd hscreens Screen.ofDatum_plain, trivial,
    Record.each_plain hd hwidgets Widget.ofDatum_plain, trivial,
    themeOf_plain (Record.optional_plain hd hvalue trivial) htheme, trivial, Stats.plain_toDatum,
    trivial⟩

theorem exists_copy (h : s.toDatum.unshared = .ok e) : ∃ t : Snapshot, t.toDatum = e ∧
    s.architecture.reasoning.unshared = .ok t.architecture.reasoning := by
  simp [toDatum, unshared_of_plain _ Stats.plain_toDatum] at h
  obtain ⟨name, _, _, harchitecture, description, _, flutter, _, dart, _, _, hdependencies, _,
    hmodels, _, hscreens, _, hwidgets, _, htheme, he⟩ := h
  obtain ⟨architecture, rfl, hreasoning⟩ := Assessment.exists_copy harchitecture
  obtain ⟨dependencies, rfl⟩ := Dependencies.exists_copy hdependencies
  obtain ⟨models, rfl⟩ := exists_copies hmodels Model.exists_copy
  obtain ⟨screens, rfl⟩ := exists_copies hscreens Screen.exists_copy
  obtain ⟨widgets, rfl⟩ := exists_copies hwidgets Widget.exists_copy
  obtain ⟨theme, rfl⟩ := exists_copy_theme htheme
  exact ⟨⟨name, architecture, description, flutter, dart, dependencies, models, screens, widgets,
    theme, s.stats⟩, he, hreasoning⟩

end Snapshot

end Refit
