import Refit.Plan.Call
import Refit.Proofs.Datum.Basic

/-!
Plans that are well formed: the calls of their modules and their configurations can be read.
-/

namespace Refit

-- A value that is a mapping, or counts as absent.
def Datum.IsSection (d : Datum) : Prop :=
  d.truthy → d.entries?.isSome

-- A plan that is well formed once its values are shown: its tables have names and columns, and its
-- sections and the configurations of its modules are mappings, as far as they are there.
structure Schema.WellFormed (s : Schema) (show_ : Datum → Datum) : Prop where
  tables : ∀ t ∈ s.tables, ∃ es, (show_ t).entries? = some es ∧ es.has "name" ∧ es.has "columns"
  offline : (Dict.get (s.map show_).definition "offline").IsSection
  storage : ∀ es, (Dict.get (s.map show_).definition "offline").entries? = some es →
    (es.get "storage").IsSection
  web : (Dict.get (s.map show_).definition "pwa").IsSection
  modules : ∀ ms, s.modules = .ok ms → ∀ m ∈ .dict [] :: ms, ∃ es,
    (show_ m).entries? = some es ∧ (es.get "config").IsSection

namespace Datum

variable {d : Datum} {es : Dict} {key : String}

theorem asDict_of_entries? {member : String} (h : d.entries? = some es) :
    d.asDict member = .ok es := by
  rw [asDict, h]

theorem asMapping_of_entries? (h : d.entries? = some es) : d.asMapping = .ok es := by
  rw [asMapping, h]

theorem toDict_of_entries? (h : d.entries? = some es) : d.toDict = .ok es := by
  rw [toDict, h]

theorem opened_of_entries? (h : d.entries? = some es) : d.opened = .dict es := by
  rw [entries?] at h
  split at h
  case h_1 fs hd => rw [hd, Option.some.inj h]
  case h_2 => cases h

theorem field_of_has (h : d.entries? = some es) (hk : es.has key) : ∃ v, d.field key = .ok v := by
  have ⟨v, hv⟩ := Option.isSome_iff_exists.mp hk
  exact ⟨v, by rw [field, opened_of_entries? h]; simp [hv]⟩

theorem optional_of_entries? {fallback : Datum} (h : d.entries? = some es) :
    Record.optional d key fallback = .ok (es.get key fallback) := by
  rw [Record.optional, asDict_of_entries? h]
  rfl

theorem IsSection.exists_entries? (h : d.IsSection) :
    ∃ es, (d.orElse (.dict [])).entries? = some es := by
  by_cases ht : d.truthy
  case pos => simpa [orElse, ht] using Option.isSome_iff_exists.mp (h ht)
  case neg => exact ⟨[], by simp [orElse, ht, entries?, opened]⟩

end Datum

namespace Schema

variable {s : Schema} {show_ : Datum → Datum} {project module : Datum}

theorem map_self : (s.map fun d => d) = s := by
  simp [map]

theorem exists_tableCall {t : Datum} {es : Dict} (h : t.entries? = some es) (hn : es.has "name")
    (hc : es.has "columns") : ∃ c, tableCall project t = .ok c := by
  have ⟨name, hname⟩ := Datum.field_of_has h hn
  have ⟨columns, hcolumns⟩ := Datum.field_of_has h hc
  exact ⟨_, by
    rw [tableCall, hname, hcolumns, Datum.optional_of_entries? h, Datum.optional_of_entries? h]
    rfl⟩

namespace WellFormed

theorem exists_encrypts (h : s.WellFormed show_) : ∃ b, (s.map show_).encrypts = .ok b := by
  obtain ⟨es, hes⟩ := h.offline.exists_entries?
  have hstorage : (es.get "storage").IsSection := by
    by_cases ht : (Dict.get (s.map show_).definition "offline").truthy
    case pos => exact h.storage es (by simpa [Datum.orElse, ht] using hes)
    case neg =>
      have hnil : es = [] := by
        simpa [Datum.orElse, ht, Datum.entries?, Datum.opened, eq_comm] using hes
      simp [hnil, Dict.get, Dict.get?, Datum.IsSection, Datum.truthy]
  obtain ⟨fs, hfs⟩ := hstorage.exists_entries?
  refine ⟨(fs.get "encryption" (.bool false)).truthy, ?_⟩
  rw [encrypts, Record.orElse, Datum.optional_of_entries? hes]
  change Record.flag ((es.get "storage").orElse (.dict [])) "encryption" = _
  rw [Record.flag, Datum.optional_of_entries? hfs]
  rfl

theorem exists_calls (h : s.WellFormed show_) :
    ∃ planned, (s.map show_).calls project module = .ok planned := by
  have ⟨web, hweb⟩ := h.web.exists_entries?
  rw [calls.eq_def]
  split
  case h_1 =>
    have ⟨tables, htables⟩ : ∃ cs, (s.map show_).tables.mapM (tableCall project) = .ok cs := by
      refine exists_mapM fun t ht => ?_
      have ⟨u, hu, hshown⟩ := List.mem_map.mp ht
      have ⟨es, hes, hn, hc⟩ := h.tables u hu
      exact exists_tableCall (hshown ▸ hes) hn hc
    have ⟨b, hb⟩ := h.exists_encrypts
    rw [htables, hb]
    cases b
    · exact ⟨_, rfl⟩
    · exact ⟨_, rfl⟩
  case h_2 => exact ⟨_, by rw [webSection, Datum.asMapping_of_entries? hweb]; rfl⟩
  case h_3 => exact ⟨_, by rw [webSection, Datum.optional_of_entries? hweb]; rfl⟩
  all_goals exact ⟨_, rfl⟩

end WellFormed

-- A module that no tool configures has no calls.
theorem calls_of_not_needsTools (h : needsTools module = false) :
    s.calls project module = .ok [] := by
  rw [calls.eq_def]
  split
  case h_6 => rfl
  all_goals exact absurd h (by simp [needsTools, toolModules])

end Schema

end Refit
