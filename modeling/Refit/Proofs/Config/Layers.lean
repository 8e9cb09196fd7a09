import Refit.Config.Layer
import Refit.Proofs.Config.Paths

/-!
Tables laid over each other.

A path is decided by the highest layer that has a leaf there or on the way there. A leaf on the way
leaves nothing behind it, whatever the layers below have there.
-/

namespace Refit.Config

variable {d v : Datum} {es u lower upper : Dict} {k : String} {ks : List String} {r : Option Datum}

-- A value that is no table.
def IsLeaf (d : Datum) : Prop :=
  ∀ es, d ≠ .dict es

-- What a layer says of a path: the leaf there, or nothing where a leaf is on the way.
inductive Says (d : Datum) (ks : List String) : Option Datum → Prop
  | here {v : Datum} : find? ks d = some v → IsLeaf v → Says d ks (some v)
  | before {ps : List String} {v : Datum} : ps <+: ks → ps ≠ ks → find? ps d = some v → IsLeaf v →
      Says d ks none

-- What layers say of a path, the highest of them first.
inductive Decided (ks : List String) : List Dict → Option Datum → Prop
  | layer {t : Dict} {ts : List Dict} {r : Option Datum} :
      Says (.dict t) ks r → Decided ks (t :: ts) r
  | passed {t : Dict} {ts : List Dict} {r : Option Datum} :
      (∀ r, ¬ Says (.dict t) ks r) → Decided ks ts r → Decided ks (t :: ts) r
  | nowhere : Decided ks [] none

namespace Says

theorem cons_iff (h : Keyed (.dict u)) :
    Says (.dict u) (k :: ks) r ↔ ∃ v, u.get? k = some v ∧ Says v ks r := by
  constructor
  · rintro (⟨hfind, hleaf⟩ | ⟨hps, hne, hfind, hleaf⟩)
    case here =>
      rw [find?_cons h, Option.bind_eq_some_iff] at hfind
      obtain ⟨v, hv, hfind⟩ := hfind
      exact ⟨v, hv, .here hfind hleaf⟩
    case before ps w =>
      cases ps
      case nil => exact absurd (Option.some.inj hfind).symm (hleaf u)
      case cons j ps =>
        obtain ⟨rfl, hrest⟩ := List.cons_prefix_cons.mp hps
        rw [find?_cons h, Option.bind_eq_some_iff] at hfind
        obtain ⟨v, hv, hfind⟩ := hfind
        exact ⟨v, hv, .before hrest (fun heq => hne (heq ▸ rfl)) hfind hleaf⟩
  · rintro ⟨v, hv, ⟨hfind, hleaf⟩ | ⟨hps, hne, hfind, hleaf⟩⟩
    case here => exact .here (by rw [find?_cons h, hv, Option.bind_some, hfind]) hleaf
    case before ps w =>
      have hfind' : find? (k :: ps) (.dict u) = some w := by
        rw [find?_cons h, hv, Option.bind_some, hfind]
      refine .before (List.cons_prefix_cons.mpr ⟨rfl, hps⟩) ?_ hfind' hleaf
      exact fun heq => hne (List.cons.inj heq).2

-- A leaf says that it is there, and that nothing is behind it.
theorem leaf_iff (hd : IsLeaf d) : Says d ks r ↔ r = find? ks d := by
  cases ks
  case nil =>
    constructor
    · rintro (⟨hfind, _⟩ | ⟨hps, hne, _⟩)
      · exact hfind.symm
      · exact absurd (List.prefix_nil.mp hps) hne
    · rintro rfl
      exact .here rfl hd
  case cons k ks =>
    rw [find?_leaf hd]
    constructor
    · rintro (⟨hfind, _⟩ | ⟨_, _, _, _⟩)
      · rw [find?_leaf hd] at hfind
        cases hfind
      · rfl
    · rintro rfl
      exact .before (List.nil_prefix) nofun rfl hd

end Says

/-! Merging -/

theorem mergeValue_leaf {lower : Option Datum} (hd : IsLeaf d) : mergeValue lower d = d := by
  rw [mergeValue.eq_def]
  split
  case h_1 => exact absurd rfl (hd _)
  case h_2 => rfl

theorem mergeValue_none : mergeValue none d = d := by
  rw [mergeValue.eq_def]
  split
  · rfl
  · rfl

theorem Keyed.mergeValue {lower : Option Datum} (hl : ∀ l, lower = some l → Keyed l) (h : Keyed d) :
    Keyed (mergeValue lower d) := by
  induction h generalizing lower
  case leaf hnull hleaf => exact (mergeValue_leaf hleaf).symm ▸ .leaf hnull hleaf
  case table us hnamed hnodup hvalues ih =>
    have hmerge (vs : List (Datum × Datum)) (hvs : vs ⊆ us) (es : Dict) (hes : Keyed (.dict es)) :
        Keyed (.dict (merge es vs)) := by
      induction vs generalizing es
      case nil => exact hes
      case cons e vs ihvs =>
        obtain ⟨k, v⟩ := e
        obtain ⟨he, hrest⟩ := List.cons_subset.mp hvs
        obtain ⟨k, rfl⟩ := hnamed _ he
        rw [merge]
        refine ihvs hrest _ (hes.set (ih _ he fun l hl => ?_))
        exact hes.of_get? ((Dict.at?_text hes.named).symm.trans hl)
    rw [mergeValue.eq_def]
    dsimp only
    split
    case h_1 es => exact hmerge us (List.Subset.refl _) es (hl _ rfl)
    case h_2 => exact .table hnamed hnodup hvalues

theorem Keyed.merge (hl : Keyed (.dict lower)) (hu : Keyed (.dict upper)) :
    Keyed (.dict (merge lower upper)) := by
  have hlower : ∀ l, some (Datum.dict lower) = some l → Keyed l :=
    fun l heq => Option.some.inj heq ▸ hl
  exact hu.mergeValue hlower

theorem get?_merge (hl : Keyed (.dict lower)) (hu : Keyed (.dict upper)) :
    (merge lower upper).get? k =
      (upper.get? k).elim (lower.get? k) fun v => some (mergeValue (lower.get? k) v) := by
  induction upper generalizing lower
  case nil => rfl
  case cons e upper ih =>
    obtain ⟨j, hj, hnew, hv, hupper⟩ := hu.cons
    obtain ⟨_, v⟩ := e
    obtain rfl : _ = Datum.text j := hj
    have hlower : Keyed (.dict (lower.set j (mergeValue (lower.get? j) v))) :=
      hl.set (hv.mergeValue fun l h => hl.of_get? h)
    rw [merge, Dict.at?_text hl.named]
    change Dict.get? (merge (lower.set j _) upper) k = _
    rw [ih hlower hupper, Dict.get?_set hl.named, Dict.get?_cons]
    by_cases hk : k = j
    case pos => rw [if_pos hk, if_pos hk, hk, hnew, Option.elim_none, Option.elim_some]
    case neg => rw [if_neg hk, if_neg hk]

-- The table that another one is laid over, which is empty where there is none.
def lowerTable : Option Datum → Dict
  | some (.dict es) => es
  | _ => []

theorem keyed_lowerTable {lower : Option Datum} (hl : ∀ l, lower = some l → Keyed l) :
    Keyed (.dict (lowerTable lower)) := by
  rw [lowerTable.eq_def]
  split
  case h_1 => exact hl _ rfl
  case h_2 => exact .nil

theorem bind_find?_cons {lower : Option Datum} (hl : ∀ l, lower = some l → Keyed l) :
    lower.bind (find? (k :: ks)) = ((lowerTable lower).get? k).bind (find? ks) := by
  rw [lowerTable.eq_def]
  split
  case h_1 => exact find?_cons (hl _ rfl)
  case h_2 hleaf =>
    cases lower
    case none => rfl
    case some d => exact find?_leaf fun es hd => hleaf es (congrArg some hd)

-- A table that is laid over a value, entry by entry.
theorem exists_mergeValue {lower : Option Datum} (hl : ∀ l, lower = some l → Keyed l)
    (hu : Keyed (.dict u)) :
    ∃ m : Dict, mergeValue lower (.dict u) = .dict m ∧ Keyed (.dict m) ∧ ∀ k, m.get? k =
      (u.get? k).elim ((lowerTable lower).get? k)
        fun v => some (mergeValue ((lowerTable lower).get? k) v) := by
  have hkeyed := hu.mergeValue hl
  rw [mergeValue.eq_def] at hkeyed ⊢
  dsimp only at hkeyed ⊢
  split
  case h_1 es => exact ⟨_, rfl, hkeyed, fun k => get?_merge (hl _ rfl) hu⟩
  case h_2 hleaf =>
    refine ⟨u, rfl, hu, fun k => ?_⟩
    have hempty : lowerTable lower = [] := by
      rw [lowerTable.eq_def]
      split
      case h_1 es => exact (hleaf es rfl).elim
      case h_2 => rfl
    rw [hempty]
    cases hv : Dict.get? u k
    case none => rfl
    case some v => exact congrArg some mergeValue_none.symm

-- What the upper layer says of a path counts.
theorem find?_mergeValue_of_said {lower : Option Datum} (hl : ∀ l, lower = some l → Keyed l)
    (hd : Keyed d) (h : Says d ks r) : find? ks (mergeValue lower d) = r := by
  induction ks generalizing d lower
  case nil =>
    by_cases hleaf : IsLeaf d
    case pos => rw [mergeValue_leaf hleaf, (Says.leaf_iff hleaf).mp h]
    case neg =>
      rcases h with ⟨hfind, hv⟩ | ⟨hps, hne, _⟩
      · exact absurd (Option.some.inj hfind ▸ hv) hleaf
      · exact absurd (List.prefix_nil.mp hps) hne
  case cons k ks ih =>
    by_cases hleaf : IsLeaf d
    case pos => rw [mergeValue_leaf hleaf, (Says.leaf_iff hleaf).mp h]
    case neg =>
      obtain ⟨u, rfl⟩ : ∃ u, d = .dict u := by simpa [IsLeaf] using hleaf
      obtain ⟨v, hv, hsaid⟩ := (Says.cons_iff hd).mp h
      obtain ⟨m, hm, hkeyed, hget⟩ := exists_mergeValue hl hd
      rw [hm, find?_cons hkeyed, hget, hv, Option.elim_some, Option.bind_some]
      exact ih (fun l h => (keyed_lowerTable hl).of_get? h) (hd.of_get? hv) hsaid

-- Where the upper layer says nothing and has no table, what is below shows.
theorem find?_mergeValue_of_silent {lower : Option Datum} (hl : ∀ l, lower = some l → Keyed l)
    (hd : Keyed d) (h : ∀ r, ¬ Says d ks r) (hnone : find? ks d = none) :
    find? ks (mergeValue lower d) = lower.bind (find? ks) := by
  have hleaf : ¬ IsLeaf d := fun hleaf => h _ ((Says.leaf_iff hleaf).mpr rfl)
  induction ks generalizing d lower
  case nil => cases hnone
  case cons k ks ih =>
    obtain ⟨u, rfl⟩ : ∃ u, d = .dict u := by simpa [IsLeaf] using hleaf
    obtain ⟨m, hm, hkeyed, hget⟩ := exists_mergeValue hl hd
    rw [hm, find?_cons hkeyed, hget, bind_find?_cons hl]
    cases hv : Dict.get? u k
    case none => rfl
    case some v =>
      rw [find?_cons hd, hv, Option.bind_some] at hnone
      have hrest : ∀ r, ¬ Says v ks r := fun r hr => h r ((Says.cons_iff hd).mpr ⟨v, hv, hr⟩)
      exact ih (fun l h => (keyed_lowerTable hl).of_get? h) (hd.of_get? hv) hrest hnone
        fun hleaf => hrest _ ((Says.leaf_iff hleaf).mpr rfl)

/-! Layers -/

-- Whether no layer has a table at a path.
def Tableless (ks : List String) (ts : List Dict) : Prop :=
  ∀ t ∈ ts, ∀ es, find? ks (.dict t) ≠ some (.dict es)

-- Where a layer says nothing of a path and has no table there, it has nothing there.
theorem find?_of_silent (hsaid : ∀ r, ¬ Says d ks r) (htable : ∀ es, find? ks d ≠ some (.dict es)) :
    find? ks d = none := by
  cases hfind : find? ks d
  case none => rfl
  case some v => exact absurd (.here hfind fun es hv => htable es (hv ▸ hfind)) (hsaid _)

theorem Says.find?_eq (hd : Keyed d) (h : Says d ks r) : find? ks d = r := by
  have hnone : ∀ l, (none : Option Datum) = some l → Keyed l := nofun
  rw [← @mergeValue_none d, find?_mergeValue_of_said hnone hd h]

variable {t : Dict} {ts : List Dict}

-- Layers say one thing of a path.
theorem Decided.unique {r' : Option Datum} (hts : ∀ t ∈ ts, Keyed (.dict t)) (h : Decided ks ts r)
    (h' : Decided ks ts r') : r = r' := by
  induction h
  case layer h =>
    cases h'
    case layer h' =>
      have ht := (List.forall_mem_cons.mp hts).1
      exact (h.find?_eq ht).symm.trans (h'.find?_eq ht)
    case passed hnone _ => exact absurd h (hnone _)
  case passed hnone _ ih =>
    cases h'
    case layer h' => exact absurd h' (hnone _)
    case passed h' => exact ih (List.forall_mem_cons.mp hts).2 h'
  case nowhere =>
    cases h'
    rfl

theorem decided_single (ht : Keyed (.dict t)) (htable : ∀ es, find? ks (.dict t) ≠ some (.dict es)) :
    Decided ks [t] (find? ks (.dict t)) := by
  by_cases h : ∃ r, Says (.dict t) ks r
  case pos =>
    obtain ⟨r, hr⟩ := h
    exact hr.find?_eq ht ▸ .layer hr
  case neg =>
    have hsaid := not_exists.mp h
    exact find?_of_silent hsaid htable ▸ .passed hsaid .nowhere

-- A layer more on top.
theorem decided_merge (hl : Keyed (.dict lower)) (ht : Keyed (.dict t))
    (htable : ∀ es, find? ks (.dict t) ≠ some (.dict es))
    (h : Decided ks ts (find? ks (.dict lower))) :
    Decided ks (t :: ts) (find? ks (.dict (merge lower t))) := by
  have hlower : ∀ l, some (Datum.dict lower) = some l → Keyed l := fun l hl' =>
    Option.some.inj hl' ▸ hl
  change Decided ks (t :: ts) (find? ks (mergeValue (some (.dict lower)) (.dict t)))
  by_cases hsaid : ∃ r, Says (.dict t) ks r
  case pos =>
    obtain ⟨r, hr⟩ := hsaid
    exact find?_mergeValue_of_said hlower ht hr ▸ .layer hr
  case neg =>
    have hnone := not_exists.mp hsaid
    rw [find?_mergeValue_of_silent hlower ht hnone (find?_of_silent hnone htable)]
    exact .passed hnone h

theorem keyed_defaults : Keyed (.dict defaults) := by
  have hsection {es : List (String × Datum)} (hnames : (es.map Prod.fst).Nodup)
      (hvalues : ∀ e ∈ es, e.2 ≠ .null ∧ IsLeaf e.2) : Keyed (.record es) := by
    have hkeys : (es.map fun e => (Datum.text e.1, e.2)).map Prod.fst =
        (es.map Prod.fst).map .text := by
      rw [List.map_map, List.map_map]
      rfl
    exact .table (List.forall_mem_map.mpr fun e _ => ⟨e.1, rfl⟩)
      (hkeys ▸ hnames.map fun _ _ => Datum.text.inj)
      (List.forall_mem_map.mpr fun e he => .leaf (hvalues e he).1 (hvalues e he).2)
  refine .table ?_ ?_ ?_
  · simp [defaults, Dict.Named]
  · simp [defaults]
  · simp only [defaults, List.forall_mem_cons]
    refine ⟨hsection ?_ ?_, hsection ?_ ?_, hsection ?_ ?_, hsection ?_ ?_, nofun⟩
    all_goals simp [IsLeaf]

end Refit.Config
