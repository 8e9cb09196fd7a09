import Refit.Proofs.Rebuild.Setup
import Std.Data.String.ToNat

/-!
A ledger from its beginning on, while projects are entered and tools are run.

The number of a project makes its id one of its own, whatever its name. A tool that has read its
arguments cannot fail on a module that only tools have configured, so a call that fails has changed
nothing.
-/

namespace Refit

/-! Ids -/

-- The id of a project of a name and a number.
def Ledger.idOf (name : String) (n : Nat) : String :=
  name ++ "-" ++ toString n

theorem Ledger.number_of_idOf {a b : String} {n m : Nat} (h : idOf a n = idOf b m) : n = m := by
  -- What comes behind the last dash is the number, since digits are no dashes.
  have hlast (a : String) (n : Nat) :
      (idOf a n).toList.reverse.takeWhile (· != '-') = (toString n).toList.reverse := by
    have hdigits : ∀ c ∈ (toString n).toList.reverse, c != '-' := by
      intro c hc
      have hd := Nat.isDigit_of_mem_toDigits (by decide) (by decide)
        (by simpa [Nat.repr_eq_ofList_toDigits] using hc : c ∈ Nat.toDigits 10 n)
      rw [bne_iff_ne]
      rintro rfl
      cases hd
    rw [idOf, String.toList_append, String.toList_append, List.reverse_append, List.reverse_append]
    rw [List.takeWhile_append_of_pos hdigits]
    simp
  have hlists := hlast a n
  rw [h, hlast b m] at hlists
  exact Nat.repr_injective (String.toList_inj.mp (List.reverse_inj.mp hlists.symm))

/-! Changes that cannot fail -/

namespace Tool

open Ledger (Edit)

-- The entries of a configuration that values are added to.
def listKeys : List String :=
  ["tables", "providers", "blocs"]

-- A configuration in which values can be added.
def Open (c : Dict) : Prop :=
  ∀ key ∈ listKeys, ∀ v, c.get? key = some v → ∃ xs, v = .list xs

variable {c : Dict} {key : String} {d v : Datum} {t : Tool} {args : Dict} {w : Work}

theorem get?_of_put {es : Dict} {q : String} (h : (es.put (.text key) d).get? q = some v) :
    (q = key ∧ v = d) ∨ es.get? q = some v := by
  induction es
  case nil =>
    simp only [Dict.put, Dict.get?] at h
    split at h
    case isTrue hq => exact .inl ⟨(eq_of_beq hq).symm, (Option.some.inj h).symm⟩
    case isFalse => cases h
  case cons e es ih =>
    obtain ⟨k, u⟩ := e
    rw [Dict.put] at h
    split at h
    case isTrue hk =>
      cases k
      case text k =>
        obtain rfl := eq_of_beq (Datum.same_text ▸ hk)
        simp only [Dict.get?] at h ⊢
        split at h
        case isTrue hq => exact .inl ⟨(eq_of_beq hq).symm, (Option.some.inj h).symm⟩
        case isFalse hq => exact .inr (by rw [if_neg hq, h])
      all_goals exact .inr h
    case isFalse =>
      cases k
      case text k =>
        simp only [Dict.get?] at h ⊢
        split at h
        case isTrue hq => exact .inr (by rw [if_pos hq, h])
        case isFalse hq => exact (ih h).imp_right fun h => by rw [if_neg hq, h]
      all_goals exact ih h

theorem Open.put (h : Open c) (hv : key ∈ listKeys → ∃ xs, d = .list xs) :
    Open (c.put (.text key) d) := by
  intro q hq v hget
  rcases get?_of_put hget with ⟨rfl, rfl⟩ | hget
  · exact hv hq
  · exact h q hq v hget

theorem Open.nil : Open [] :=
  fun _ _ _ h => nomatch h

-- A change that succeeds on every configuration in which values can be added, and leaves one.
def Succeeds (e : Edit) : Prop :=
  ∀ c, Open c → ∃ c', Open c' ∧ (ExceptT.run e).run ⟨c, []⟩ = (.ok (), ⟨c', []⟩)

theorem Succeeds.settings {fs : List (String × Datum)} (h : ∀ f ∈ fs, f.1 ∉ listKeys) :
    Succeeds (settings (fs.map fun f => (.text f.1, f.2))) := by
  intro c hc
  refine ⟨_, ?_, settings_run⟩
  induction fs generalizing c
  case nil => exact hc
  case cons f fs ih =>
    obtain ⟨hf, hfs⟩ := List.forall_mem_cons.mp h
    exact ih hfs _ (hc.put fun hm => absurd hm hf)

theorem Succeeds.appendTo (hkey : key ∈ listKeys) : Succeeds (appendTo key d) := by
  intro c hc
  rw [appendTo_run]
  cases hget : c.get? key
  case none => exact ⟨_, hc.put fun _ => ⟨_, rfl⟩, rfl⟩
  case some old =>
    obtain ⟨xs, rfl⟩ := hc key hkey old hget
    exact ⟨_, hc.put fun _ => ⟨_, rfl⟩, rfl⟩

theorem Succeeds.seq {e e' : Edit} (h : Succeeds e) (h' : Succeeds e') :
    Succeeds (do e; e') := by
  intro c hc
  obtain ⟨c', hc', hrun⟩ := h c hc
  obtain ⟨c'', hc'', hrun'⟩ := h' c' hc'
  refine ⟨c'', hc'', ?_⟩
  rw [ExceptT.run_bind, StateT.run_bind, hrun]
  exact hrun'

theorem Succeeds.setting (hkey : key ∉ listKeys) : Succeeds (setting key d) :=
  @Succeeds.settings [(key, d)] (List.forall_mem_singleton.mpr hkey)

-- A tool that has read its arguments does not fail any more.
theorem succeeds_work (h : t.work args = .ok w) : Succeeds w.edit := by
  cases t
  case addTable =>
    simp only [work, bind_eq_ok, pure_eq_ok] at h
    obtain ⟨name, _, columns, _, rfl⟩ := h
    exact .appendTo (by decide)
  case encrypt =>
    obtain rfl := Except.ok.inj h
    exact .setting (by decide)
  case manifest =>
    obtain rfl := Except.ok.inj h
    exact .setting (by decide)
  case theme =>
    obtain rfl := Except.ok.inj h
    exact .setting (by decide)
  case client =>
    simp only [work, bind_eq_ok, pure_eq_ok] at h
    obtain ⟨timeout, _, rfl⟩ := h
    exact @Succeeds.settings [("client", args.get "client" "dio"),
      ("base_url", args.get "base_url" ""), ("timeout", .int timeout)] (by simp [listKeys])
  case provider =>
    simp only [work, bind_eq_ok, pure_eq_ok] at h
    obtain ⟨name, _, rfl⟩ := h
    exact .seq (.setting (by decide)) (.appendTo (by decide))
  case bloc =>
    simp only [work, bind_eq_ok, pure_eq_ok] at h
    obtain ⟨name, _, events, _, states, _, rfl⟩ := h
    exact .seq (.setting (by decide)) (.appendTo (by decide))

end Tool

/-! One change of a ledger -/

namespace ProjectRecord

-- The configurations beside that of a module.
def beside (m : String) (p : ProjectRecord) : List (Datum × Dict) :=
  p.modules.filter fun e => !e.1.same (.text m)

variable {m : String} {c : Dict} {ms : List (Datum × Dict)} {e : Datum × Dict}

theorem filter_setConfig : (setConfig (.text m) c ms).filter (fun e => !e.1.same (.text m)) =
    ms.filter fun e => !e.1.same (.text m) := by
  induction ms
  case nil => simp [setConfig]
  case cons e ms ih =>
    rw [setConfig]
    split
    case isTrue h => rw [List.filter_cons_of_neg (by simp [h]), List.filter_cons_of_neg (by simp [h])]
    case isFalse h =>
      rw [List.filter_cons_of_pos (by simp [h]), List.filter_cons_of_pos (by simp [h]), ih]

theorem mem_setConfig (h : e ∈ setConfig (.text m) c ms) : e.2 = c ∨ e ∈ ms := by
  induction ms
  case nil => exact .inl (congrArg Prod.snd (List.mem_singleton.mp h))
  case cons e' ms ih =>
    rw [setConfig] at h
    split at h
    case isTrue =>
      rcases List.mem_cons.mp h with rfl | h
      · exact .inl rfl
      · exact .inr (.tail _ h)
    case isFalse =>
      rcases List.mem_cons.mp h with rfl | h
      · exact .inr (.head _)
      · exact (ih h).imp_right (.tail _)

end ProjectRecord

namespace Ledger

-- What holds of a ledger from its beginning on.
structure Kept (l : Ledger) : Prop where
  numbered : ∀ p ∈ l.projects, ∃ name n, p.id = idOf name n ∧ n ≤ l.count
  distinct : (l.projects.map (·.id)).Nodup
  configs : ∀ p ∈ l.projects, ∀ e ∈ p.modules, Tool.Open e.2
  store : l.store = []

-- A change of no more than the configuration of a module in the project of an id.
structure Confined (id : Datum) (m : String) (l l' : Ledger) : Prop where
  projects : List.Forall₂ (fun p q => q.id = p.id ∧ q.definition = p.definition ∧
    q.beside m = p.beside m ∧ (id.same (.text p.id) = false → q = p)) l.projects l'.projects
  count : l'.count = l.count
  store : l'.store = l.store

variable {l l' : Ledger} {id : Datum} {m : String} {edit : Edit} {p : ProjectRecord}

theorem Confined.refl : Confined id m l l :=
  ⟨List.forall₂_same.mpr fun _ _ => ⟨rfl, rfl, rfl, fun _ => rfl⟩, rfl, rfl⟩

theorem kept_empty : Kept {} :=
  ⟨nofun, .nil, nofun, rfl⟩

theorem put_projects (h : Kept l) (hp : p ∈ l.projects) {ms : List (Datum × Dict)} :
    (l.put { p with modules := ms }).projects =
      l.projects.map fun q => if q.id = p.id then { q with modules := ms } else q := by
  refine List.map_congr_left fun q hq => ?_
  by_cases heq : q.id = p.id
  case pos =>
    rw [if_pos (by simpa using heq), if_pos heq, List.inj_on_of_nodup_map h.distinct hq hp heq]
  case neg => rw [if_neg (by simpa using heq), if_neg heq]

theorem find_cases (l : Ledger) (id : Datum) :
    (∃ e, l.find id = .error e) ∨
      ∃ p ∈ l.projects, l.find id = .ok p ∧ id.same (.text p.id) := by
  rw [find]
  cases hkey : id.asKey
  case error f => exact .inl ⟨_, rfl⟩
  case ok k =>
    obtain ⟨rfl, _⟩ := Datum.asKey_eq_ok.mp hkey
    cases hfind : l.projects.find? fun p => k.same (.text p.id)
    case none =>
      refine .inl ⟨.failure (.unknownProject k), ?_⟩
      simp only [Except.mapError, bind, Except.bind, hfind]
    case some p =>
      refine .inr ⟨p, List.mem_of_find?_eq_some hfind, ?_, by simpa using List.find?_some hfind⟩
      simp only [Except.mapError, bind, Except.bind, hfind]

theorem Kept.withModules (h : Kept l) {ms : List (Datum × Dict)} (hms : ∀ e ∈ ms, Tool.Open e.2)
    (hprojects : l'.projects =
      l.projects.map fun q => if q.id = p.id then { q with modules := ms } else q)
    (hcount : l'.count = l.count) (hstore : l'.store = []) : Kept l' := by
  have hids : l'.projects.map (·.id) = l.projects.map (·.id) := by
    rw [hprojects, List.map_map]
    refine List.map_congr_left fun q _ => ?_
    rw [Function.comp_apply]
    split
    · rfl
    · rfl
  refine ⟨fun q hq => ?_, hids ▸ h.distinct, fun q hq => ?_, hstore⟩
  · have hid : q.id ∈ l.projects.map (·.id) := hids ▸ List.mem_map_of_mem hq
    obtain ⟨q', hq', hid⟩ := List.mem_map.mp hid
    obtain ⟨name, n, hname, hn⟩ := h.numbered q' hq'
    exact ⟨name, n, hid.symm.trans hname, hcount ▸ hn⟩
  · obtain ⟨q', hq', rfl⟩ := List.mem_map.mp (hprojects ▸ hq)
    split
    · exact hms
    · exact h.configs q' hq'

-- A change that cannot fail is made in the project that it is meant for, or nowhere.
theorem update_kept (h : Kept l) (he : Tool.Succeeds edit) :
    ∃ r l', l.update id (.text m) edit = (r, l') ∧ Kept l' ∧ Confined id m l l' ∧
      ∀ e, r = .error e → l' = l := by
  rcases find_cases l id with ⟨e, hfind⟩ | ⟨p, hp, hfind, hsame⟩
  case inl => exact ⟨.error e, l, by rw [update, hfind], h, .refl, fun _ _ => rfl⟩
  case inr =>
    have hopen : Tool.Open ((p.config? (.text m)).getD []) := by
      cases hconfig : p.config? (.text m)
      case none => exact .nil
      case some c =>
        obtain ⟨e, he, rfl⟩ := Option.map_eq_some_iff.mp hconfig
        exact h.configs p hp e (List.mem_of_find?_eq_some he)
    obtain ⟨c, hc, hrun⟩ := he _ hopen
    let ms := ProjectRecord.setConfig (.text m) c p.modules
    have hprojects := @put_projects l p h hp ms
    refine ⟨.ok (), { l.put { p with modules := ms } with store := [] }, ?_, ?_, ?_,
      fun _ hr => by cases hr⟩
    · have hkey : (Datum.text m).asKey = .ok (.text m) := Datum.asKey_eq_ok.mpr ⟨rfl, Datum.isKey_text⟩
      rw [update, hfind]
      dsimp only
      rw [hkey]
      dsimp only
      rw [h.store, hrun]
      rfl
    · refine h.withModules (fun e hm => ?_) hprojects rfl rfl
      rcases ProjectRecord.mem_setConfig hm with heq | hm
      · exact heq ▸ hc
      · exact h.configs p hp e hm
    · refine ⟨?_, rfl, h.store.symm⟩
      change List.Forall₂ _ l.projects (l.put { p with modules := ms }).projects
      rw [hprojects, List.forall₂_map_right_iff, List.forall₂_same]
      intro q hq
      split
      case isTrue heq =>
        obtain rfl := List.inj_on_of_nodup_map h.distinct hq hp heq
        exact ⟨rfl, rfl, ProjectRecord.filter_setConfig, fun hother => by simp [hsame] at hother⟩
      case isFalse => exact ⟨rfl, rfl, rfl, fun _ => rfl⟩

-- A project is entered at the end, under an id that no other has, if its name has a text.
theorem create_kept (h : Kept l) {es : Dict} {name : String} (hname : (nameOf es).toText = .ok name) :
    ∃ id l', l.create (.dict es) = (.ok id, l') ∧ Kept l' ∧ id ∉ l.projects.map (·.id) ∧
      l'.projects = l.projects ++ [{ id := id, definition := es }] := by
  have hfresh : idOf name (l.count + 1) ∉ l.projects.map (·.id) := by
    intro hmem
    obtain ⟨p, hp, hid⟩ := List.mem_map.mp hmem
    obtain ⟨name', n, hname', hn⟩ := h.numbered p hp
    have hnumber := number_of_idOf (hname'.symm.trans hid)
    omega
  refine ⟨idOf name (l.count + 1), { l with
    projects := l.projects ++ [{ id := idOf name (l.count + 1), definition := es }]
    count := l.count + 1 }, ?_, ⟨?_, ?_, ?_, h.store⟩, hfresh, rfl⟩
  · rw [create, Datum.asDict_of_entries? rfl]
    simp only [hname, bind, Except.bind, pure, Except.pure, idOf]
  · refine List.forall_mem_append.mpr ⟨fun p hp => ?_, List.forall_mem_singleton.mpr ?_⟩
    · obtain ⟨name', n, hname', hn⟩ := h.numbered p hp
      exact ⟨name', n, hname', Nat.le_succ_of_le hn⟩
    · exact ⟨name, _, rfl, Nat.le_refl _⟩
  · rw [List.map_append]
    refine List.nodup_append.mpr ⟨h.distinct, List.nodup_singleton _, fun a ha b hb heq => ?_⟩
    obtain rfl := heq.trans (List.mem_singleton.mp hb)
    exact hfresh ha
  · exact List.forall_mem_append.mpr ⟨h.configs, List.forall_mem_singleton.mpr nofun⟩

-- A project whose name has no text is not entered, and a number is left out.
theorem create_refused {es : Dict} {f : Fault} (hname : (nameOf es).toText = .error f) :
    l.create (.dict es) = (.error (.fault f), { l with count := l.count + 1 }) := by
  rw [create, Datum.asDict_of_entries? rfl]
  simp only [hname, bind, Except.bind]

theorem Kept.skip (h : Kept l) : Kept { l with count := l.count + 1 } :=
  ⟨fun p hp => (h.numbered p hp).imp fun _ => .imp fun _ => .imp_right Nat.le_succ_of_le,
    h.distinct, h.configs, h.store⟩

end Ledger

theorem Tool.call_kept {l : Ledger} {t : Tool} {args : Dict} (h : l.Kept) :
    ∃ answer l', call ⟨.text t.name, .dict args⟩ l = (answer, l') ∧ l'.Kept ∧
      Ledger.Confined (args.get "project_id") t.module l l' ∧ ∀ e, answer = .error e → l' = l := by
  have hargs : argsOf (.dict args) = .ok args := by
    by_cases hnil : args = []
    case pos => rw [hnil]; rfl
    case neg => exact argsOf_dict hnil
  have hcall : call ⟨.text t.name, .dict args⟩ l = t.run args l := by
    rw [call, Datum.asKey_eq_ok.mpr ⟨rfl, Datum.isKey_text⟩]
    dsimp only
    rw [ofName?_name]
    dsimp only
    rw [hargs]
  rw [hcall, run]
  cases hprepare : t.prepare args
  case error f => exact ⟨.error (.fault f), l, rfl, h, .refl, fun _ _ => rfl⟩
  case ok p =>
    obtain ⟨w, id⟩ := p
    simp only [prepare, bind_eq_ok, pure_eq_ok, Prod.mk.injEq] at hprepare
    obtain ⟨w, hw, id, hid, rfl, rfl⟩ := hprepare
    have hget : args.get "project_id" = id := by
      cases hget : args.get? "project_id"
      case none => simp [Datum.field, Datum.opened, hget] at hid
      case some v => simpa [Datum.field, Datum.opened, Dict.get, hget] using hid
    obtain ⟨r, l', hupdate, hkept, hconfined, hatomic⟩ :=
      @Ledger.update_kept l id t.module w.edit h (succeeds_work hw)
    refine ⟨r.map fun _ => .record (("success", .bool true) :: w.reply), l', ?_, hkept,
      hget ▸ hconfined, fun e he => ?_⟩
    · dsimp only
      rw [hupdate]
    · cases r
      case error e' => exact hatomic e' rfl
      case ok => cases he

/-! Runs -/

-- What a ledger is asked: to enter a project, or to run a tool.
inductive Request where
  | create (definition : Dict)
  | call (tool : Tool) (args : Dict)

namespace Request

-- Serves a request, with the id of the project that it enters and the definition of that project.
def serve (l : Ledger) : Request → List (String × Dict) × Ledger
  | create es =>
    match l.create (.dict es) with
    | (.ok id, l) => ([(id, es)], l)
    | (.error _, l) => ([], l)
  | call t args => ([], (Tool.call ⟨.text t.name, .dict args⟩ l).2)

-- Serves requests in turn.
def serveAll (l : Ledger) : List Request → List (String × Dict) × Ledger
  | [] => ([], l)
  | r :: rs =>
    let (made, l) := r.serve l
    let (more, l) := serveAll l rs
    (made ++ more, l)

-- The projects of a ledger as they were entered.
def entered (l : Ledger) : List (String × Dict) :=
  l.projects.map fun p => (p.id, p.definition)

variable {l : Ledger} {r : Request} {rs : List Request}

theorem entered_of_confined {l' : Ledger} {id : Datum} {m : String} (h : l.Confined id m l') :
    entered l' = entered l := by
  rw [entered, entered, ← List.forall₂_eq_eq_eq, List.forall₂_map_left_iff,
    List.forall₂_map_right_iff]
  exact h.projects.flip.imp fun p q h => Prod.ext h.1 h.2.1

theorem serve_kept (h : l.Kept) :
    (r.serve l).2.Kept ∧ entered (r.serve l).2 = entered l ++ (r.serve l).1 := by
  cases r
  case create es =>
    rw [serve]
    cases hname : (Ledger.nameOf es).toText
    case error f =>
      rw [Ledger.create_refused hname]
      exact ⟨h.skip, (List.append_nil _).symm⟩
    case ok name =>
      obtain ⟨id, l', hcreate, hkept, _, hprojects⟩ := Ledger.create_kept h hname
      rw [hcreate]
      exact ⟨hkept, by simp [entered, hprojects]⟩
  case call t args =>
    obtain ⟨answer, l', hcall, hkept, hconfined, _⟩ := @Tool.call_kept l t args h
    rw [serve, hcall]
    exact ⟨hkept, (entered_of_confined hconfined).trans (List.append_nil _).symm⟩

theorem serveAll_kept (h : l.Kept) :
    (serveAll l rs).2.Kept ∧ entered (serveAll l rs).2 = entered l ++ (serveAll l rs).1 := by
  induction rs generalizing l
  case nil => exact ⟨h, (List.append_nil _).symm⟩
  case cons r rs ih =>
    obtain ⟨hkept, hentered⟩ := @serve_kept l r h
    obtain ⟨hkept', hentered'⟩ := ih hkept
    exact ⟨hkept', by rw [serveAll, ← List.append_assoc, ← hentered, ← hentered']⟩

-- Two projects, the name of one looking like an id, with a tool run on each.
def shopRequests : List Request :=
  [.create [(.text "name", "shop")], .create [(.text "name", "shop-1")],
    .call .provider [(.text "project_id", "shop-1"), (.text "name", "cart")],
    .call .addTable [(.text "project_id", "shop-1-2"), (.text "name", "orders")]]

end Request

end Refit
