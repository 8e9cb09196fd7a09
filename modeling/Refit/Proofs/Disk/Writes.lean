import Mathlib.Logic.Function.Basic
import Refit.Proofs.Disk.Folders

/-!
What is on a disk after files were written: the files that were there, with those written over them,
and every folder that was there.
-/

namespace Refit

namespace Disk

-- The bytes of files by their place.
abbrev Tree := List String → Option (List UInt8)

-- Texts by the place that they are written to, in turn.
abbrev Writes := List (List String × String)

-- A tree with texts written over it in turn.
def Writes.onto (ws : Writes) (t : Tree) : Tree :=
  ws.foldl (fun t w => Function.update t w.1 (some w.2.toUTF8.toList)) t

namespace Writes

variable {ws vs : Writes} {t : Tree} {p : List String} {content : String}

theorem onto_append : onto (ws ++ vs) t = vs.onto (ws.onto t) :=
  List.foldl_append ..

theorem onto_singleton :
    onto [(p, content)] t = Function.update t p (some content.toUTF8.toList) :=
  rfl

-- The last text that is written to a place.
def last? (ws : Writes) (p : List String) : Option String :=
  ws.reverse.lookup p

theorem mem_of_last? (h : ws.last? p = some content) : (p, content) ∈ ws := by
  have ⟨_, _, hs, _⟩ := List.lookup_eq_some_iff.mp h
  exact List.mem_reverse.mp (hs ▸ List.mem_append_right _ (.head _))

theorem exists_last? (h : (p, content) ∈ ws) : ∃ last, ws.last? p = some last := by
  rw [last?, ← Option.isSome_iff_exists, List.lookup_isSome_iff]
  exact ⟨_, List.mem_reverse.mpr h, beq_self_eq_true p⟩

-- Of several texts that are written to a place the last one stays there.
theorem onto_eq_last? :
    ws.onto t p = ((ws.last? p).map fun content => content.toUTF8.toList).or (t p) := by
  induction ws generalizing t
  case nil => rfl
  case cons w ws ih =>
    have ⟨q, content⟩ := w
    change onto ws (Function.update t q (some content.toUTF8.toList)) p = _
    rw [ih, last?, last?, List.reverse_cons, List.lookup_append, lookup_cons_ite]
    by_cases hp : p = q
    case pos => cases h : List.lookup p ws.reverse <;> simp [hp]
    case neg => cases h : List.lookup p ws.reverse <;> simp [hp]

end Writes

def content? (d : Disk) : Tree := fun p =>
  match d.find? p with
  | some (.file b) => some b
  | _ => none

-- A disk after files were written: nothing else is changed or removed.
structure Overridden (d : Disk) (ws : Writes) (d' : Disk) : Prop where
  files : d'.content? = ws.onto d.content?
  folders : ∀ p, d.find? p = some .folder → d'.find? p = some .folder

namespace Overridden

variable {d d' d'' : Disk} {ws vs : Writes}

theorem refl (d : Disk) : Overridden d [] d where
  files := rfl
  folders _ h := h

theorem trans (h₁ : Overridden d ws d') (h₂ : Overridden d' vs d'') :
    Overridden d (ws ++ vs) d'' where
  files := by rw [h₂.files, h₁.files, Writes.onto_append]
  folders p hp := h₂.folders p (h₁.folders p hp)

end Overridden

/-! Texts as bytes -/

theorem toList_loop {b : ByteArray} {i : Nat} {acc : List UInt8} :
    ByteArray.toList.loop b i acc = acc.reverse ++ b.data.toList.drop i := by
  fun_induction ByteArray.toList.loop b i acc
  case case1 i acc h ih =>
    have hi : i < b.data.toList.length := h
    have hget : b.get! i = b.data.toList[i] := getElem!_pos b.data i h
    rw [ih, List.drop_eq_getElem_cons hi, List.reverse_cons, List.append_assoc, hget]
    rfl
  case case2 i acc h =>
    have hi : b.data.toList.length ≤ i := Nat.not_lt.mp h
    simp [List.drop_eq_nil_of_le hi]

theorem toUTF8_toList_inj {s t : String} : s.toUTF8.toList = t.toUTF8.toList ↔ s = t := by
  constructor
  case mp =>
    intro h
    rw [ByteArray.toList, ByteArray.toList, toList_loop, toList_loop] at h
    exact String.toByteArray_inj.mp (ByteArray.ext (Array.toList_inj.mp h))
  case mpr => exact fun h => h ▸ rfl

/-! Changes -/

variable {d d' : Disk} {cwd : List String} {l : Location} {p : List String} {content : String}
  {r : Except Stop Unit}

theorem content?_set_file {b : List UInt8} (hp : p ≠ []) :
    (d.set p (.file b)).content? = Function.update d.content? p (some b) := by
  funext q
  by_cases hq : q = p <;> simp [content?, find?_set hp, hq]

theorem Overridden.of_paved (h : Paved cwd l d d') : Overridden d [] d' where
  files := by
    funext p
    rcases h p with h | ⟨_, hn, hf⟩
    · simp [content?, h, Writes.onto]
    · simp [content?, hn, hf, Writes.onto]
  folders p hp := by
    rcases h p with h | ⟨_, _, hf⟩
    · exact h.trans hp
    · exact hf

theorem Overridden.set_file (h : d.find? p ≠ some .folder) :
    Overridden d [(p, content)] (d.set p (.file content.toUTF8.toList)) where
  files := by rw [content?_set_file (ne_nil_of_find?_ne h), Writes.onto_singleton]
  folders q hq := by
    have hne : q ≠ p := fun hp => h (hp ▸ hq)
    rw [find?_set (ne_nil_of_find?_ne h), if_neg hne, hq]

theorem makeFolders_stays : Stays (Overridden · [] ·) (makeFolders cwd l) :=
  fun _ _ _ h => .of_paved (makeFolders_paves _ _ _ h)

theorem writeBytes_cases {b : List UInt8} (h : Ends (writeBytes cwd l b) d r d') :
    ((∃ e, r = .error e) ∧ d' = d) ∨
      r = .ok () ∧ d.find? (l.reach cwd) ≠ some .folder ∧ d' = d.set (l.reach cwd) (.file b) := by
  rw [writeBytes, Ends.bind_iff] at h
  rcases h with ⟨p, t, hp, h⟩ | ⟨e, hr, h⟩
  case inr => exact .inl ⟨⟨e, hr⟩, (lift_iff.mp h).2⟩
  obtain ⟨hp, rfl⟩ := lift_iff.mp hp
  rw [Ends.get_bind_iff] at h
  split at h
  case h_1 =>
    have ⟨hr, hd⟩ := Ends.throw_iff.mp h
    exact .inl ⟨⟨_, hr⟩, hd⟩
  case h_2 hf =>
    have ⟨hr, hd⟩ := Ends.modify_iff.mp h
    rw [place_eq_ok hp.symm] at hf hd
    exact .inr ⟨hr, hf, hd⟩

theorem writeText_cases (h : Ends (writeText cwd l content) d r d') :
    ((∃ e, r = .error e) ∧ d' = d) ∨
      r = .ok () ∧ Overridden d [(l.reach cwd, content)] d' :=
  (writeBytes_cases h).imp_right fun ⟨hr, hf, hd⟩ => ⟨hr, hd ▸ .set_file hf⟩

-- A file that cannot be stored may leave folders behind, but no file.
theorem store_cases (h : Ends (store cwd l content) d r d') :
    ((∃ e, r = .error e) ∧ Overridden d [] d') ∨
      r = .ok () ∧ Overridden d [(l.reach cwd, content)] d' := by
  rw [store, Ends.bind_iff] at h
  rcases h with ⟨_, t, hm, h⟩ | ⟨e, hr, hm⟩
  case inl =>
    have hm := makeFolders_stays _ _ _ hm
    rcases writeText_cases h with ⟨he, rfl⟩ | ⟨hr, hw⟩
    · exact .inl ⟨he, hm⟩
    · exact .inr ⟨hr, hm.trans hw⟩
  case inr => exact .inl ⟨⟨e, hr⟩, makeFolders_stays _ _ _ hm⟩

end Disk

end Refit
