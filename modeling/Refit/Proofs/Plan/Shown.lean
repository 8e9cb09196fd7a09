import Refit.Proofs.Plan.Formed
import Refit.Proofs.Plan.Typed

/-!
Plans as they are carried out: with numbers for their collections, they show the plan that was made.
-/

namespace Refit

open Datum (EntriesShow Shows)

theorem Datum.entriesShow_zip {es : Dict} {vs : List Datum}
    (h : List.Forall₂ Shows vs (es.map Prod.snd)) (hk : ∀ e ∈ es, e.1.IsText) :
    EntriesShow ((es.map Prod.fst).zip vs) es := by
  induction es generalizing vs
  case nil => exact .nil
  case cons e es ih =>
    obtain ⟨v, vs, hv, hvs, rfl⟩ := List.forall₂_cons_right_iff.mp h
    have ⟨he, hes⟩ := List.forall_mem_cons.mp hk
    exact .cons ⟨rfl, he, hv⟩ (ih hvs hes)

-- Texts have no number.
theorem Datum.eq_of_entriesShow_texts {es : List (String × String)} {fs : Dict}
    (h : EntriesShow fs (Output.texts es)) : fs = Output.texts es := by
  induction es generalizing fs
  case nil => exact List.forall₂_nil_right_iff.mp h
  case cons e es ih =>
    obtain ⟨⟨k, v⟩, fs, ⟨hk, _, hv⟩, hfs, rfl⟩ := List.forall₂_cons_right_iff.mp h
    rw [show k = text e.1 from hk, show v = text e.2 from hv.eq_of_not_isBlock rfl, ih hfs]
    rfl

theorem Datum.Shows.isSection {d : Datum} {es : Dict} (h : Shows d (.dict es)) : d.IsSection := by
  have ⟨fs, hfs, _⟩ := h.exists_entries?
  exact fun _ => hfs ▸ rfl

namespace Schema

-- A plan whose definition and tables show those of a plan that was made.
structure Shown (q : Schema) (f : Plan.Frame) (tables : List Datum) : Prop where
  definition : EntriesShow q.definition f.definition
  tables : List.Forall₂ Shows q.tables tables

variable {p q : Schema} {f : Plan.Frame} {tables : List Datum}

theorem Planned.shown (h : p.Planned f) : p.numbered.Shown f p.tables := by
  have htidy := Datum.entriesTidy_iff.mp f.tidy_definition
  have hall : List.Forall₂ Shows (Datum.numbered (p.definition.map Prod.snd ++ p.tables))
      (p.definition.map Prod.snd ++ p.tables) := by
    refine Datum.numbered_shows fun d hd => ?_
    rcases List.mem_append.mp hd with hd | hd
    · obtain ⟨e, he, rfl⟩ := List.mem_map.mp hd
      exact (htidy e (h.definition ▸ he)).2
    · have ⟨_, _, _, _, ht, _⟩ := h.tables d hd
      exact ht
  refine ⟨h.definition ▸ Datum.entriesShow_zip ?_ fun e he => (htidy e (h.definition ▸ he)).1, ?_⟩
  · simpa using List.forall₂_take (p.definition.map Prod.snd).length hall
  · simpa [numbered] using List.forall₂_drop (p.definition.map Prod.snd).length hall

-- The modules of a plan that was made are all switched on.
theorem Planned.moduleIds_eq (h : p.Planned f) : p.moduleIds = .ok (f.modules.map .text) := by
  refine moduleIds_of_modules ?_
  rw [modules, h.definition, List.map_map]
  rfl

namespace Shown

theorem exists_get? {key : String} {v : Datum} (h : q.Shown f tables)
    (hv : f.definition.get? key = some v) : ∃ v', q.definition.get? key = some v' ∧ Shows v' v :=
  Datum.Shows.exists_get? h.definition hv

theorem get_text {key s : String} {fallback : Datum} (h : q.Shown f tables)
    (hs : f.definition.get? key = some (.text s)) :
    Dict.get q.definition key fallback = .text s := by
  have ⟨v, hv, hshow⟩ := h.exists_get? hs
  rw [Dict.get, hv, Option.getD_some, hshow.eq_of_not_isBlock rfl]

theorem webSection_shows (h : q.Shown f tables) : Shows q.webSection (.dict f.web) := by
  have hpwa : f.definition.get? "pwa" = some (.dict f.web) := rfl
  have ⟨v, hv, hshow⟩ := h.exists_get? hpwa
  rw [webSection, Dict.get, hv, Option.getD_some, Datum.orElse, hshow.truthy_dict]
  exact hshow

theorem webSection_entries? (h : q.Shown f tables) : q.webSection.entries? = some f.web := by
  have ⟨fs, hfs, hshow⟩ := h.webSection_shows.exists_entries?
  rw [hfs, Datum.eq_of_entriesShow_texts hshow]
  rfl

theorem exists_modules (h : q.Shown f tables) : ∃ ms, q.modules = .ok ms ∧
    List.Forall₂ Shows ms (f.modules.map fun m => .dict (Plan.Frame.entry m)) := by
  have ⟨v, hv, hshow⟩ := @exists_get? _ _ _ "modules" _ h rfl
  have ⟨ms, hms, hall⟩ := hshow.exists_items
  exact ⟨ms, by rw [modules, Dict.get, hv]; exact hms, hall⟩

-- Nothing is malformed of a plan that shows one that was made.
theorem wellFormed (h : q.Shown f tables) (ht : ∀ t ∈ tables, t.IsTable) :
    q.WellFormed fun d => d := by
  obtain ⟨offline, hoffline, hshow⟩ := @exists_get? _ _ _ "offline" _ h rfl
  have hget : Dict.get q.definition "offline" = offline := by rw [Dict.get, hoffline]; rfl
  refine ⟨fun t hq => ?tables, ?offline, ?storage, ?web, fun ms hms m hm => ?modules⟩
  case tables =>
    obtain ⟨u, hmem, hu⟩ := exists_of_forall₂ h.tables hq
    obtain ⟨es, name, columns, rfl, _, hname, hcolumns⟩ := ht u hmem
    obtain ⟨fs, hfs, hentries⟩ := hu.exists_entries?
    obtain ⟨_, hname', _⟩ := Shows.exists_get? hentries hname
    obtain ⟨_, hcolumns', _⟩ := Shows.exists_get? hentries hcolumns
    exact ⟨fs, hfs, by rw [Dict.has, hname']; rfl, by rw [Dict.has, hcolumns']; rfl⟩
  case offline =>
    rw [map_self, hget]
    rw [Plan.Frame.offline] at hshow
    cases he : f.encryption
    case none =>
      rw [he] at hshow
      rw [hshow.eq_of_not_isBlock rfl]
      intro h
      cases h
    case some =>
      rw [he] at hshow
      exact hshow.isSection
  case storage =>
    intro es hes
    rw [map_self, hget] at hes
    rw [Plan.Frame.offline] at hshow
    cases he : f.encryption
    case none =>
      rw [he] at hshow
      rw [hshow.eq_of_not_isBlock rfl] at hes
      cases hes
    case some encrypted =>
      rw [he] at hshow
      obtain ⟨fs, hfs, hentries⟩ := hshow.exists_entries?
      obtain rfl : fs = es := Option.some.inj (hfs.symm.trans hes)
      obtain ⟨w, hw, hstorage⟩ := @Shows.exists_get? _ _ "storage" (.dict (Plan.Frame.storage encrypted))
        hentries rfl
      rw [Dict.get, hw]
      exact hstorage.isSection
  case web =>
    obtain ⟨v, hv, hweb⟩ := @exists_get? _ _ _ "pwa" (.dict f.web) h rfl
    rw [map_self, Dict.get, hv]
    exact hweb.isSection
  case modules =>
    obtain ⟨ms', hms', hall⟩ := h.exists_modules
    obtain rfl : ms' = ms := Except.ok.inj (hms'.symm.trans hms)
    rcases List.mem_cons.mp hm with rfl | hm
    case inl => exact ⟨[], rfl, fun h => by cases h⟩
    case inr =>
      obtain ⟨_, hmem, hn⟩ := exists_of_forall₂ hall hm
      obtain ⟨n, _, rfl⟩ := List.mem_map.mp hmem
      obtain ⟨fs, hfs, hentries⟩ := hn.exists_entries?
      obtain ⟨w, hw, hconfig⟩ := @Shows.exists_get? _ _ "config" (.dict []) hentries rfl
      exact ⟨fs, hfs, by rw [Dict.get, hw]; exact hconfig.isSection⟩

end Shown

end Schema

end Refit
