import Mathlib.Data.List.Pairwise
import Refit.Proofs.Config.Paths
import Refit.Proofs.Datum.Reordered

/-!
Values set at dotted keys, one after another.

Keys that lead neither to nor through each other do not disturb each other, in whatever order they
are set, and at one key the value that was set last counts.
-/

namespace Refit.Config

open Datum (Reordered)

variable {es : Dict} {u v : Datum} {j k q : String} {js ks qs : List String}

/-! The first name of a path -/

-- What comes to stand at the first name of a path when a value is set.
def placed : List String → Datum → Dict → Datum
  | [], v, _ => v
  | k :: ks, v, es => .dict (assignAt (k :: ks) v es)

theorem assignAt_cons : assignAt (k :: ks) v es = es.set k (placed ks v (tableAt es k)) := by
  cases ks
  case nil => rfl
  case cons => rfl

theorem placed_of_ne_nil (hks : ks ≠ []) : placed ks v es = .dict (assignAt ks v es) := by
  obtain ⟨k, ks, rfl⟩ := List.exists_cons_of_ne_nil hks
  rfl

theorem assignAt_cons_of_ne_nil (hks : ks ≠ []) :
    assignAt (k :: ks) v es = es.set k (.dict (assignAt ks v (tableAt es k))) := by
  rw [assignAt_cons, placed_of_ne_nil hks]

-- Below a name that has been set before, with more of the path behind it.
theorem assignAt_cons_set {fs : Dict} (h : es.Named) (hks : ks ≠ []) :
    assignAt (k :: ks) v (es.set k (.dict fs)) = es.set k (.dict (assignAt ks v fs)) := by
  rw [assignAt_cons_of_ne_nil hks, Dict.set_set h, tableAt_set_self h]

theorem Passable.assignAt (hqs : Passable qs (.dict es)) (hks : Passable ks (.dict es))
    (h : qs = ks ∨ Diverge qs ks) : Passable qs (.dict (assignAt ks v es)) := by
  induction ks generalizing qs es
  case nil => exact hqs
  case cons k ks ih =>
    rw [assignAt_cons]
    -- Below the first name, where the paths share it.
    have hbelow {qs : List String} (hq : Passable (k :: qs) (.dict es))
        (h : qs = ks ∨ Diverge qs ks) : Passable qs (placed ks v (Config.tableAt es k)) := by
      by_cases hmore : ks = []
      case pos =>
        rcases h with rfl | h
        · exact hmore ▸ trivial
        · exact absurd (hmore ▸ List.nil_prefix) h.2
      case neg =>
        rw [placed_of_ne_nil hmore]
        exact ih hq.tableAt hks.tableAt h
    cases qs
    case nil => trivial
    case cons q qs =>
      refine ⟨Dict.named_set hks.1, fun w hw => ?_⟩
      rw [Dict.get?_set hks.1] at hw
      by_cases hq : q = k
      case neg => exact hqs.2 w (by rwa [if_neg hq] at hw)
      case pos =>
        subst hq
        obtain rfl := Option.some.inj ((if_pos rfl).symm.trans hw)
        refine hbelow hqs (h.imp (fun heq => (List.cons.inj heq).2) fun h => ?_)
        exact ((diverge_cons.mp h).resolve_left (absurd rfl)).2

/-! Two values -/

-- A value that is set gives way to the next one at the same path.
theorem assignAt_assignAt (h : Passable ks (.dict es)) :
    assignAt ks v (assignAt ks u es) = assignAt ks v es := by
  induction ks generalizing es
  case nil => rfl
  case cons k ks ih =>
    by_cases hmore : ks = []
    case pos => exact hmore ▸ Dict.set_set h.1
    case neg =>
      have hset (w : Datum) :
          assignAt (k :: ks) w es = es.set k (.dict (assignAt ks w (tableAt es k))) :=
        assignAt_cons_of_ne_nil hmore
      rw [hset u, assignAt_cons_set h.1 hmore, ih h.tableAt, hset v]

theorem assignAt_comm (hjs : Passable js (.dict es)) (h : Diverge js ks) :
    Reordered (.dict (assignAt ks v (assignAt js u es)))
      (.dict (assignAt js u (assignAt ks v es))) := by
  induction js generalizing ks es
  case nil => exact absurd rfl h.ne_nil
  case cons j js ih =>
    obtain ⟨_, _, k, ks, ⟨⟩, rfl, hne | ⟨rfl, hrest⟩⟩ := h.exists_cons
    case inl =>
      rw [assignAt_cons, assignAt_cons, assignAt_cons, assignAt_cons,
        tableAt_set_of_ne hjs.1 hne, tableAt_set_of_ne hjs.1 hne.symm]
      exact .of_perm (Dict.set_comm hjs.1 hne)
    case inr =>
      have hmore : js ≠ [] := hrest.ne_nil
      have hmore' : ks ≠ [] := hrest.symm.ne_nil
      have hset {qs : List String} (hqs : qs ≠ []) (w : Datum) :
          assignAt (j :: qs) w es = es.set j (.dict (assignAt qs w (tableAt es j))) :=
        assignAt_cons_of_ne_nil hqs
      rw [hset hmore, assignAt_cons_set hjs.1 hmore', hset hmore', assignAt_cons_set hjs.1 hmore]
      exact Dict.reordered_set (ih hjs.tableAt hrest)

theorem lookup_of_valueAt? {e : Dict} (h : valueAt? (path k) (.dict e) = some v) (hv : v ≠ .null) :
    ∀ fallback, lookup (.dict e) k fallback = v := by
  intro fallback
  rw [lookup, find?_eq_present? path_ne_nil, h, present?_of_ne_null hv, Option.getD_some]

theorem lookup_congr {es fs : Dict}
    (h : valueAt? (path k) (.dict es) = valueAt? (path k) (.dict fs)) :
    ∀ fallback, lookup (.dict es) k fallback = lookup (.dict fs) k fallback := by
  intro fallback
  rw [lookup, lookup, find?_eq_present? path_ne_nil, h, find?_eq_present? path_ne_nil]

/-! Any number of values -/

-- Sets values at keys in their order.
def assignAll (es : Dict) (sets : List (String × Datum)) : Dict :=
  sets.foldl (fun es e => assign es e.1 e.2) es

-- The same key, or keys neither of which leads to or through the other.
def Compatible (j k : String) : Prop :=
  j = k ∨ Diverge (path j) (path k)

theorem Compatible.symm (h : Compatible j k) : Compatible k j :=
  h.imp Eq.symm Diverge.symm

instance : Std.Symm fun a b : String × Datum => Compatible a.1 b.1 :=
  ⟨fun _ _ => Compatible.symm⟩

variable {sets : List (String × Datum)} {e : String × Datum}

theorem assignAll_concat : assignAll es (sets ++ [e]) = assign (assignAll es sets) e.1 e.2 := by
  rw [assignAll, List.foldl_concat]
  rfl

theorem passable_assignAll (h : ∀ ks, Passable ks (.dict es))
    (hsets : sets.Pairwise fun a b => Compatible a.1 b.1) (hk : ∀ e ∈ sets, Compatible k e.1) :
    Passable (path k) (.dict (assignAll es sets)) := by
  induction sets using List.reverseRecOn generalizing k
  case nil => exact h (path k)
  case append_singleton sets e ih =>
    obtain ⟨hsets, -, hlast⟩ := List.pairwise_append.mp hsets
    have hk := List.forall_mem_append.mp hk
    rw [assignAll_concat]
    refine (ih hsets hk.1).assignAt (ih hsets fun a ha => ?_) ?_
    · exact (hlast a ha e (List.mem_singleton_self e)).symm
    · exact (hk.2 e (List.mem_singleton_self e)).imp_left (congrArg path)

-- At each key stands what was set there last.
theorem valueAt?_assignAll (h : ∀ ks, Passable ks (.dict es))
    (hsets : sets.Pairwise fun a b => Compatible a.1 b.1) (hv : sets.reverse.lookup k = some v) :
    valueAt? (path k) (.dict (assignAll es sets)) = some v := by
  induction sets using List.reverseRecOn
  case nil => cases hv
  case append_singleton sets e ih =>
    obtain ⟨j, w⟩ := e
    obtain ⟨hsets, -, hlast⟩ := List.pairwise_append.mp hsets
    have hj : ∀ a ∈ sets, Compatible a.1 j := fun a ha => hlast a ha _ (List.mem_singleton_self _)
    have hpass := passable_assignAll h hsets fun a ha => (hj a ha).symm
    rw [List.reverse_concat, lookup_cons_ite] at hv
    rw [assignAll_concat]
    by_cases hk : k = j
    case pos =>
      subst hk
      rw [← hv, if_pos rfl]
      exact valueAt?_assignAt_self hpass path_ne_nil
    case neg =>
      rw [if_neg hk] at hv
      obtain ⟨a, ha, rfl⟩ : ∃ a ∈ sets, a.1 = k := by
        obtain ⟨_, _, hsplit, _⟩ := List.lookup_eq_some_iff.mp hv
        exact ⟨(k, v), List.mem_reverse.mp (hsplit ▸ List.mem_append_right _ (.head _)), rfl⟩
      have happart := (hj a ha).resolve_left hk
      have hfree : ∀ b ∈ sets, Compatible a.1 b.1 :=
        fun b hb => hsets.forall_of_forall (fun _ _ => .inl rfl) ha hb
      exact (valueAt?_assignAt (passable_assignAll h hsets hfree) happart).trans (ih hsets hv)

-- What is set is read back, the last value at a key counts, and at keys that lead neither to nor
-- through each other nothing changes and the order does not matter.
theorem assign_laws (h : Nested (.dict es)) :
    (∀ k v, v ≠ .null → ∀ fallback, lookup (.dict (assign es k v)) k fallback = v) ∧
    (∀ k u v, assign (assign es k u) k v = assign es k v) ∧
    (∀ j k, Diverge (path j) (path k) →
      (∀ v, (∀ fallback,
          lookup (.dict (assign es k v)) j fallback = lookup (.dict es) j fallback) ∧
        valueAt? (path j) (.dict (assign es k v)) = valueAt? (path j) (.dict es)) ∧
      ∀ u v, Reordered (.dict (assign (assign es j u) k v)) (.dict (assign (assign es k v) j u))) ∧
    ∀ sets, sets.Pairwise (fun a b => Compatible a.1 b.1) →
      ∀ k v, sets.reverse.lookup k = some v → v ≠ .null →
        ∀ fallback, lookup (.dict (assignAll es sets)) k fallback = v := by
  have hpass {ks : List String} : Passable ks (.dict es) := h.passable
  refine ⟨fun k v => ?_, fun k u v => assignAt_assignAt hpass,
    fun j k hjk => ⟨fun v => ?_, fun u v => assignAt_comm hpass hjk⟩, fun sets hsets k v hv => ?_⟩
  · exact lookup_of_valueAt? (valueAt?_assignAt_self hpass path_ne_nil)
  · have hkeep := valueAt?_assignAt (v := v) hpass hjk
    exact ⟨lookup_congr hkeep, hkeep⟩
  · exact lookup_of_valueAt? (valueAt?_assignAll (fun _ => hpass) hsets hv)

-- A value set below a leaf, where a segment of the key is empty.
theorem assign_laws_empty_segment :
    let es : Dict :=
      [(.text "clone", .record [("depth", .int 1), ("", .null)]), (.text "name", "x")]
    Nested (.dict es) ∧ Diverge (path "clone.depth") (path "clone..branch") ∧
      lookup (.dict (assign es "clone..branch" "dev")) "clone..branch" = "dev" ∧
      assign (assign es "name.first" (.int 2)) "name.first" "y" = assign es "name.first" "y" ∧
      lookup (.dict (assign es "clone..branch" "dev")) "clone.depth" =
        lookup (.dict es) "clone.depth" ∧
      Reordered (.dict (assign (assign es "clone.depth" (.int 2)) "clone..branch" "dev"))
        (.dict (assign (assign es "clone..branch" "dev") "clone.depth" (.int 2))) ∧
      lookup (.dict (assignAll es [("clone.depth", .int 2), ("clone..branch", "dev"),
        ("clone.depth", .int 3)])) "clone.depth" = .int 3 := by
  intro es
  have hleaf {d : Datum} (hd : ∀ es, d ≠ .dict es) : Nested d := .leaf hd
  have hinner : Nested (.record [("depth", .int 1), ("", .null)]) :=
    .table (by simp [Dict.Named]) (by simp) (by simpa using ⟨hleaf nofun, hleaf nofun⟩)
  have hnested : Nested (.dict es) :=
    .table (by simp [es, Dict.Named]) (by simp [es]) (by simpa [es] using ⟨hinner, hleaf nofun⟩)
  have hpath : path "clone.depth" = ["clone", "depth"] := by decide +kernel
  have hpath' : path "clone..branch" = ["clone", "", "branch"] := by decide +kernel
  have hapart : Diverge (path "clone.depth") (path "clone..branch") := by
    rw [hpath, hpath']
    exact ⟨by decide, by decide⟩
  obtain ⟨hget, hset, hframe, hlast⟩ := assign_laws hnested
  refine ⟨hnested, hapart, hget _ "dev" nofun _, hset _ _ _, ((hframe _ _ hapart).1 _).1 _,
    (hframe _ _ hapart).2 _ _, hlast _ ?_ _ (.int 3) ?_ nofun _⟩
  · simpa [Compatible, hapart] using hapart.symm
  · simp

end Refit.Config
