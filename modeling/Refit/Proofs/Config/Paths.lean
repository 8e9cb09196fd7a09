import Refit.Config.Tree
import Refit.Proofs.Datum.Basic
import Refit.Proofs.Text.Basic

/-!
Tables with texts for names: what is found at a path after values have been set.

A value that is set at one path is found there, and leaves what is found at every path that leads
neither to it nor through it.
-/

namespace Refit

namespace Dict

variable {es : Dict} {k q : String} {v : Datum}

-- Whether all names of a table are texts.
def Named (es : Dict) : Prop :=
  ∀ e ∈ es, ∃ k, e.1 = .text k

theorem get?_cons {es : List (Datum × Datum)} :
    Dict.get? ((.text k, v) :: es) q = if q = k then some v else Dict.get? es q := by
  simp only [Dict.get?, beq_iff_eq, @eq_comm _ q k]

theorem at?_text (h : Named es) : es.at? (.text k) = es.get? k := by
  induction es
  case nil => rfl
  case cons e es ih =>
    obtain ⟨⟨j, hj⟩, hes⟩ := List.forall_mem_cons.mp h
    obtain ⟨_, v⟩ := e
    obtain rfl : _ = Datum.text j := hj
    rw [get?_cons, ← ih hes, Dict.at?, Dict.at?, List.find?_cons, Datum.same_text]
    by_cases hk : k = j
    case pos => simp [hk]
    case neg => simp [hk, beq_eq_false_iff_ne.mpr (Ne.symm hk)]

theorem get?_set (h : Named es) : (es.set k v).get? q = if q = k then some v else es.get? q := by
  rw [set]
  induction es
  case nil => exact get?_cons
  case cons e es ih =>
    obtain ⟨⟨j, hj⟩, hes⟩ := List.forall_mem_cons.mp h
    obtain ⟨_, w⟩ := e
    obtain rfl : _ = Datum.text j := hj
    rw [put, Datum.same_text]
    by_cases hk : j = k
    case pos =>
      rw [if_pos (by simp [hk]), get?_cons, get?_cons, hk]
      split <;> rfl
    case neg =>
      rw [if_neg (by simp [hk]), get?_cons, get?_cons, ih hes]
      by_cases hq : q = j
      case pos => rw [if_pos hq, if_pos hq, if_neg (hq ▸ hk)]
      case neg => rw [if_neg hq, if_neg hq]

-- A value that is set again leaves a table as it is.
theorem set_eq_self (h : Named es) (hv : es.get? k = some v) : es.set k v = es := by
  rw [set]
  induction es
  case nil => cases hv
  case cons e es ih =>
    obtain ⟨⟨j, hj⟩, hes⟩ := List.forall_mem_cons.mp h
    obtain ⟨_, w⟩ := e
    obtain rfl : _ = Datum.text j := hj
    rw [get?_cons] at hv
    rw [put, Datum.same_text]
    by_cases hk : j = k
    case pos =>
      rw [if_pos hk.symm] at hv
      rw [if_pos (by simp [hk]), Option.some.inj hv]
    case neg =>
      rw [if_neg (Ne.symm hk)] at hv
      rw [if_neg (by simp [hk]), ih hes hv]

theorem get?_eq_none_iff : es.get? k = none ↔ .text k ∉ es.map Prod.fst := by
  fun_induction Dict.get? es k
  case case1 => simp
  case case2 h => simp [eq_of_beq h]
  case case3 h ih =>
    rw [ih, List.map_cons, List.mem_cons, not_or, Datum.text.injEq]
    simp [Ne.symm (ne_of_beq_false (Bool.eq_false_iff.mpr h))]
  case case4 d _ es _ hd ih =>
    rw [ih, List.map_cons, List.mem_cons, not_or]
    exact (and_iff_right fun heq => hd _ heq.symm).symm

-- The names of a table after a value is set.
theorem keys_set (h : Named es) : (es.set k v).map Prod.fst =
    if es.has k then es.map Prod.fst else es.map Prod.fst ++ [.text k] := by
  rw [set]
  induction es
  case nil => rfl
  case cons e es ih =>
    obtain ⟨⟨j, hj⟩, hes⟩ := List.forall_mem_cons.mp h
    obtain ⟨_, w⟩ := e
    obtain rfl : _ = Datum.text j := hj
    rw [put, Datum.same_text, has, get?_cons]
    by_cases hk : j = k
    case pos => simp [hk]
    case neg =>
      rw [if_neg (by simp [hk]), if_neg (Ne.symm hk), List.map_cons, ih hes, has]
      split <;> rfl

-- Of two values that are set at one name the second one stays.
theorem set_set {u : Datum} (h : Named es) : (es.set k u).set k v = es.set k v := by
  rw [set, set, set]
  induction es
  case nil => simp [put]
  case cons e es ih =>
    obtain ⟨⟨j, hj⟩, hes⟩ := List.forall_mem_cons.mp h
    obtain ⟨_, w⟩ := e
    obtain rfl : _ = Datum.text j := hj
    rw [put, put, Datum.same_text]
    by_cases hk : j = k
    case pos => simp [put, hk]
    case neg => simp [put, hk, ih hes]

theorem named_set (h : Named es) : Named (es.set k v) := by
  intro e he
  have hmem : e.1 ∈ (es.set k v).map Prod.fst := List.mem_map_of_mem he
  rw [keys_set h] at hmem
  have hold (hm : e.1 ∈ es.map Prod.fst) : ∃ k, e.1 = .text k := by
    obtain ⟨e', he', heq⟩ := List.mem_map.mp hm
    exact heq ▸ h e' he'
  split at hmem
  · exact hold hmem
  · rcases List.mem_append.mp hmem with hmem | hmem
    · exact hold hmem
    · exact ⟨k, List.mem_singleton.mp hmem⟩

theorem mem_put {e : Datum × Datum} {d : Datum} (h : e ∈ es.put d v) :
    e.2 = v ∨ e ∈ es := by
  induction es
  case nil => exact .inl (congrArg Prod.snd (List.mem_singleton.mp h))
  case cons f es ih =>
    rw [put] at h
    split at h
    · rcases List.mem_cons.mp h with rfl | h
      · exact .inl rfl
      · exact .inr (.tail _ h)
    · rcases List.mem_cons.mp h with rfl | h
      · exact .inr (.head _)
      · exact (ih h).imp_right (.tail _)

end Dict

namespace Config

-- A value as a file of settings has it: no `null`, and in every table a name stands once and is a
-- text.
inductive Keyed : Datum → Prop
  | leaf {d : Datum} : d ≠ .null → (∀ es, d ≠ .dict es) → Keyed d
  | table {es : Dict} : es.Named → (es.map Prod.fst).Nodup → (∀ e ∈ es, Keyed e.2) →
      Keyed (.dict es)

variable {es : Dict} {d v : Datum} {k : String} {ks qs : List String}

theorem present?_of_ne_null (h : v ≠ .null) : present? (some v) = some v := by
  rw [present?.eq_def]
  split
  case h_1 heq => exact absurd (Option.some.inj heq) h
  case h_2 => rfl

namespace Keyed

theorem named (h : Keyed (.dict es)) : es.Named := by
  cases h
  case leaf hes => exact absurd rfl (hes es)
  case table h _ _ => exact h

theorem nodup (h : Keyed (.dict es)) : (es.map Prod.fst).Nodup := by
  cases h
  case leaf hes => exact absurd rfl (hes es)
  case table h _ => exact h

theorem values (h : Keyed (.dict es)) : ∀ e ∈ es, Keyed e.2 := by
  cases h
  case leaf hes => exact absurd rfl (hes es)
  case table h => exact h

theorem ne_null (h : Keyed d) : d ≠ .null := by
  cases h
  case leaf h _ => exact h
  case table => exact nofun

theorem nil : Keyed (.dict []) :=
  .table nofun .nil nofun

-- A table without its first entry, at whose name nothing is left.
theorem cons {es : List (Datum × Datum)} {e : Datum × Datum} (h : Keyed (.dict (e :: es))) :
    ∃ k, e.1 = .text k ∧ Dict.get? es k = none ∧ Keyed e.2 ∧ Keyed (.dict es) := by
  obtain ⟨⟨k, hk⟩, hes⟩ := List.forall_mem_cons.mp h.named
  obtain ⟨hnew, hnodup⟩ := List.nodup_cons.mp h.nodup
  obtain ⟨hv, hvs⟩ := List.forall_mem_cons.mp h.values
  exact ⟨k, hk, Dict.get?_eq_none_iff.mpr (hk ▸ hnew), hv, .table hes hnodup hvs⟩

theorem of_get? (h : Keyed (.dict es)) (hv : es.get? k = some v) : Keyed v := by
  obtain ⟨e, he, rfl⟩ := List.mem_map.mp (Dict.mem_of_get? hv)
  exact h.values e he

theorem present?_get? (h : Keyed (.dict es)) : present? (es.get? k) = es.get? k := by
  cases hv : es.get? k
  case none => rfl
  case some v => exact present?_of_ne_null (h.of_get? hv).ne_null

theorem set (h : Keyed (.dict es)) (hv : Keyed v) : Keyed (.dict (es.set k v)) := by
  have hkeys := Dict.keys_set (k := k) (v := v) h.named
  refine .table (Dict.named_set h.named) ?_ fun e he => ?_
  · rw [hkeys]
    split
    case isTrue => exact h.nodup
    case isFalse hm =>
      have hnew : .text k ∉ es.map Prod.fst :=
        Dict.get?_eq_none_iff.mp (by simpa [Dict.has] using hm)
      refine List.nodup_append.mpr ⟨h.nodup, List.nodup_singleton _, fun a ha b hb hab => hnew ?_⟩
      obtain rfl := hab.trans (List.mem_singleton.mp hb)
      exact ha
  · rcases Dict.mem_put he with heq | he
    · exact heq ▸ hv
    · exact h.values e he

theorem tableAt (h : Keyed (.dict es)) : Keyed (.dict (tableAt es k)) := by
  rw [Config.tableAt]
  split
  case h_1 fs hfs => exact h.of_get? hfs
  case h_2 => exact nil

theorem assignAt (h : Keyed (.dict es)) (hv : Keyed v) : Keyed (.dict (assignAt ks v es)) := by
  fun_induction Config.assignAt ks v es
  case case1 => exact h
  case case2 => exact h.set hv
  case case3 ih => exact h.set (ih h.tableAt hv)

end Keyed

/-! What stands at a path -/

-- The value that stands at a path, `null` included.
def valueAt? : List String → Datum → Option Datum
  | [], d => some d
  | k :: ks, .dict es => (Dict.get? es k).bind (valueAt? ks)
  | _ :: _, _ => none

-- Whether all tables that a path goes through have texts for names.
def Passable : List String → Datum → Prop
  | k :: ks, .dict es => Dict.Named es ∧ ∀ v, Dict.get? es k = some v → Passable ks v
  | _, _ => True

theorem path_ne_nil {key : String} : path key ≠ [] :=
  mt List.map_eq_nil_iff.mp Text.split_ne_nil

-- Paths neither of which leads to or through the other.
def Diverge (qs ks : List String) : Prop :=
  ¬ qs <+: ks ∧ ¬ ks <+: qs

theorem Diverge.symm (h : Diverge qs ks) : Diverge ks qs :=
  And.symm h

theorem diverge_cons {q : String} :
    Diverge (q :: qs) (k :: ks) ↔ q ≠ k ∨ q = k ∧ Diverge qs ks := by
  simp only [Diverge, List.cons_prefix_cons, @eq_comm _ k q]
  by_cases hq : q = k
  case pos => simp [hq]
  case neg => simp [hq]

theorem Diverge.exists_cons {ps : List String} (h : Diverge qs ps) :
    ∃ q r k s, qs = q :: r ∧ ps = k :: s ∧ (q ≠ k ∨ q = k ∧ Diverge r s) := by
  cases qs
  case nil => exact absurd List.nil_prefix h.1
  case cons q r =>
    cases ps
    case nil => exact absurd List.nil_prefix h.2
    case cons k s => exact ⟨q, r, k, s, rfl, rfl, diverge_cons.mp h⟩

theorem Diverge.ne_nil (h : Diverge qs ks) : qs ≠ [] :=
  fun hnil => h.1 (hnil ▸ List.nil_prefix)

theorem valueAt?_leaf (hd : ∀ es, d ≠ .dict es) : valueAt? (k :: ks) d = none := by
  rw [valueAt?.eq_def]
  split
  case h_1 h => cases h
  case h_2 => exact absurd rfl (hd _)
  case h_3 => rfl

theorem find?_leaf (hd : ∀ es, d ≠ .dict es) : find? (k :: ks) d = none := by
  rw [find?.eq_def]
  split
  case h_1 h => cases h
  case h_2 => exact absurd rfl (hd _)
  case h_3 => rfl

-- What is found at a path is what stands there, unless that is `null`.
theorem find?_eq_present? (hks : ks ≠ []) : find? ks d = present? (valueAt? ks d) := by
  induction ks generalizing d
  case nil => exact absurd rfl hks
  case cons k ks ih =>
    by_cases hd : ∃ es, d = .dict es
    case neg =>
      have hleaf := not_exists.mp hd
      rw [find?_leaf hleaf, valueAt?_leaf hleaf]
      rfl
    case pos =>
      obtain ⟨es, rfl⟩ := hd
      rw [find?, valueAt?]
      cases hv : Dict.get? es k
      case none => rfl
      case some v =>
        by_cases hnull : v = .null
        case pos =>
          subst hnull
          cases ks
          · rfl
          · rfl
        case neg =>
          rw [present?_of_ne_null hnull, Option.bind_some]
          dsimp only
          by_cases hmore : ks = []
          case pos =>
            subst hmore
            exact (present?_of_ne_null hnull).symm
          case neg => exact ih hmore

theorem valueAt?_tableAt (hks : ks ≠ []) :
    valueAt? ks (.dict (tableAt es k)) = (es.get? k).bind (valueAt? ks) := by
  obtain ⟨j, ks, rfl⟩ := List.exists_cons_of_ne_nil hks
  rw [tableAt]
  split
  case h_1 fs hfs => rw [hfs, Option.bind_some]
  case h_2 hleaf =>
    cases hv : es.get? k
    case none => rfl
    case some v => exact (valueAt?_leaf fun fs hd => hleaf fs (hd ▸ hv)).symm

namespace Passable

theorem nil : Passable ks (.dict []) := by
  cases ks
  case nil => trivial
  case cons => exact ⟨nofun, nofun⟩

theorem tableAt (h : Passable (k :: ks) (.dict es)) : Passable ks (.dict (tableAt es k)) := by
  rw [Config.tableAt]
  split
  case h_1 fs hfs => exact h.2 _ hfs
  case h_2 => exact nil

end Passable

theorem tableAt_set_self {fs : Dict} (h : es.Named) :
    tableAt (es.set k (.dict fs)) k = fs := by
  rw [tableAt, Dict.get?_set h, if_pos rfl]

theorem tableAt_set_of_ne {q : String} (h : es.Named) (hq : q ≠ k) :
    tableAt (es.set k v) q = tableAt es q := by
  rw [tableAt, tableAt, Dict.get?_set h, if_neg hq]

-- A value that is set stands there.
theorem valueAt?_assignAt_self (h : Passable ks (.dict es)) (hks : ks ≠ []) :
    valueAt? ks (.dict (assignAt ks v es)) = some v := by
  fun_induction assignAt ks v es
  case case1 => exact absurd rfl hks
  case case2 =>
    rw [valueAt?, Dict.get?_set h.1, if_pos rfl]
    rfl
  case case3 hmore ih =>
    rw [valueAt?, Dict.get?_set h.1, if_pos rfl]
    exact ih h.tableAt hmore

-- On the way to a value that is set stand tables.
theorem valueAt?_assignAt_around (h : Passable ks (.dict es)) (hqs : qs <+: ks) (hne : qs ≠ ks) :
    ∃ fs, valueAt? qs (.dict (assignAt ks v es)) = some (.dict fs) := by
  fun_induction assignAt ks v es generalizing qs
  case case1 => exact absurd (List.prefix_nil.mp hqs) hne
  case case2 =>
    rcases List.prefix_cons_iff.mp hqs with rfl | ⟨rest, rfl, hrest⟩
    · exact ⟨_, rfl⟩
    · exact absurd (congrArg _ (List.prefix_nil.mp hrest)) hne
  case case3 k ks v es hmore ih =>
    rcases List.prefix_cons_iff.mp hqs with rfl | ⟨rest, rfl, hrest⟩
    · exact ⟨_, rfl⟩
    · rw [valueAt?, Dict.get?_set h.1, if_pos rfl]
      exact ih h.tableAt hrest fun heq => hne (congrArg _ heq)

-- What stands elsewhere stays.
theorem valueAt?_assignAt (h : Passable qs (.dict es)) (hqs : Diverge qs ks) :
    valueAt? qs (.dict (assignAt ks v es)) = valueAt? qs (.dict es) := by
  fun_induction assignAt ks v es generalizing qs
  case case1 => rfl
  case case2 k v es =>
    obtain ⟨q, qs, _, _, rfl, ⟨⟩, hq | ⟨_, hrest⟩⟩ := hqs.exists_cons
    case inl => rw [valueAt?, valueAt?, Dict.get?_set h.1, if_neg hq]
    case inr => exact absurd List.nil_prefix hrest.2
  case case3 k ks v es hmore ih =>
    obtain ⟨q, qs, _, _, rfl, ⟨⟩, hq | ⟨rfl, hrest⟩⟩ := hqs.exists_cons
    case inl => rw [valueAt?, valueAt?, Dict.get?_set h.1, if_neg hq]
    case inr =>
      rw [valueAt?, valueAt?, Dict.get?_set h.1, if_pos rfl, Option.bind_some, ih h.tableAt hrest,
        valueAt?_tableAt hrest.ne_nil]

-- Tables inside each other with leaves of any kind, `null` included. In every table a name stands
-- once and is a text.
inductive Nested : Datum → Prop
  | leaf {d : Datum} : (∀ es, d ≠ .dict es) → Nested d
  | table {es : Dict} : es.Named → (es.map Prod.fst).Nodup → (∀ e ∈ es, Nested e.2) →
      Nested (.dict es)

theorem Nested.passable (h : Nested d) : Passable ks d := by
  induction ks generalizing d
  case nil => trivial
  case cons k ks ih =>
    cases h
    case leaf hleaf =>
      rw [Passable.eq_def]
      split
      case h_1 => exact absurd rfl (hleaf _)
      case h_2 => trivial
    case table hnamed _ hvalues =>
      refine ⟨hnamed, fun v hv => ih ?_⟩
      obtain ⟨e, he, rfl⟩ := List.mem_map.mp (Dict.mem_of_get? hv)
      exact hvalues e he

/-! What is found in tables without `null` -/

theorem Keyed.nested (h : Keyed d) : Nested d := by
  induction h
  case leaf hleaf => exact .leaf hleaf
  case table hnamed hnodup _ ih => exact .table hnamed hnodup ih

theorem Keyed.passable (h : Keyed d) : Passable ks d :=
  h.nested.passable

theorem find?_cons (h : Keyed (.dict es)) :
    find? (k :: ks) (.dict es) = (es.get? k).bind (find? ks) := by
  rw [find?, h.present?_get?]
  cases es.get? k
  · rfl
  · rfl

theorem find?_tableAt (hks : ks ≠ []) :
    find? ks (.dict (tableAt es k)) = (es.get? k).bind (find? ks) := by
  rw [find?_eq_present? hks, valueAt?_tableAt hks]
  cases es.get? k
  case none => rfl
  case some => exact (find?_eq_present? hks).symm

theorem find?_assignAt_self (h : Keyed (.dict es)) (hv : Keyed v) (hks : ks ≠ []) :
    find? ks (.dict (assignAt ks v es)) = some v := by
  rw [find?_eq_present? hks, valueAt?_assignAt_self h.passable hks, present?_of_ne_null hv.ne_null]

theorem find?_assignAt (h : Keyed (.dict es)) (hqs : Diverge qs ks) :
    find? qs (.dict (assignAt ks v es)) = find? qs (.dict es) := by
  rw [find?_eq_present? hqs.ne_nil, find?_eq_present? hqs.ne_nil, valueAt?_assignAt h.passable hqs]

-- What is found at a path already and set there again leaves the table as it is.
theorem assignAt_eq_self (h : Keyed (.dict es)) (hks : ks ≠ [])
    (hfind : find? ks (.dict es) = some v) : assignAt ks v es = es := by
  fun_induction assignAt ks v es
  case case1 => exact absurd rfl hks
  case case2 =>
    rw [find?_cons h, Option.bind_eq_some_iff] at hfind
    obtain ⟨w, hw, hv⟩ := hfind
    exact Dict.set_eq_self h.named (Option.some.inj hv ▸ hw)
  case case3 k ks v es hmore ih =>
    rw [find?_cons h] at hfind
    rw [ih h.tableAt hmore ((find?_tableAt hmore).trans hfind)]
    obtain ⟨j, ks, rfl⟩ := List.exists_cons_of_ne_nil hmore
    obtain ⟨d, hd, hfind⟩ := Option.bind_eq_some_iff.mp hfind
    -- A path goes on behind a table only.
    cases d
    case dict fs => exact Dict.set_eq_self h.named (by rw [tableAt, hd])
    all_goals cases hfind

end Config

end Refit
