import Refit.Json.Writer
import Refit.Proofs.Datum.Numbers
import Refit.Yaml.Writer

/-!
Tidy values have a document, with numbers or without.
-/

namespace Refit

open Datum (Tidy AllTidy EntriesTidy)

variable {numbers : Bool}

namespace Yaml.Writer

variable {named : List Nat}

theorem exists_scalarOf {d : Datum} (h : d.Tidy numbers) (hd : d.isBlock = false)
    (hs : ∀ n e, d ≠ .shared n e) : ∃ s, scalarOf d = .ok s := by
  cases d
  case int i =>
    have hi : Datum.isWritable i = true := h
    exact ⟨_, by rw [scalarOf, Datum.toText, Datum.hasText, if_pos hi]; rfl⟩
  case shared n e => exact absurd rfl (hs n e)
  case list => cases hd
  case dict => cases hd
  case time => cases h
  case tuple => cases h
  case set => cases h
  case around => cases h
  all_goals exact ⟨_, rfl⟩

mutual

theorem exists_node : (d : Datum) → d.Tidy numbers → ∀ inMapping asKey indent p,
    ∃ q, node named d inMapping asKey indent p = .ok q
  | .null, _, _, _, _, _ | .bool _, _, _, _, _, _ | .text _, _, _, _, _, _ => ⟨_, rfl⟩
  | .int i, h, _, asKey, indent, p => by
    have ⟨s, hs⟩ := @exists_scalarOf numbers (.int i) h rfl (by simp)
    refine ⟨scalar s asKey indent p, ?_⟩
    change (scalarOf (.int i) >>= fun s => pure (scalar s asKey indent p)) = _
    rw [hs]
    rfl
  | .list [], _, _, _, _, _ | .dict [], _, _, _, _, _ => ⟨_, rfl⟩
  | .list (x :: xs), h, inMapping, _, indent, p =>
    exists_items (x :: xs) h (listIndent inMapping indent p) p
  | .dict (e :: es), h, _, _, indent, p =>
    exists_entries (e :: es) h (indent.elim 0 (· + step)) p
  | .shared n d, h, inMapping, asKey, indent, p => by
    rw [node]
    split
    · exact ⟨_, rfl⟩
    · exact exists_node d h.2.2 _ _ _ _

theorem exists_items : (xs : List Datum) → AllTidy numbers xs → ∀ indent p,
    ∃ q, items named xs indent p = .ok q
  | [], _, _, _ => ⟨_, rfl⟩
  | x :: xs, h, indent, p => by
    rw [items]
    exact exists_bind (exists_node x h.1 _ _ _ _) fun q => exists_items xs h.2 indent q

theorem exists_entries : (es : Dict) → EntriesTidy numbers es → ∀ indent p,
    ∃ q, entries named es indent p = .ok q
  | [], _, _, _ => ⟨_, rfl⟩
  | (k, v) :: es, h, indent, p => by
    obtain ⟨⟨s, rfl⟩, hv, hes⟩ := h
    simp only [entries]
    refine exists_bind ⟨_, rfl⟩ fun p => exists_bind (exists_node v hv _ _ _ _) fun q => ?_
    exact exists_entries es hes indent q

end

end Yaml.Writer

theorem Yaml.exists_write {d : Datum} (h : d.Tidy numbers) : ∃ s, write d = .ok s :=
  exists_bind (Writer.exists_node d h _ _ _ _) fun _ => ⟨_, rfl⟩

-- A mapping of texts has a JSON text.
theorem Json.exists_write {es : Dict} (h : ∀ e ∈ es, e.1.IsText ∧ e.2.IsText) :
    ∃ s, write (.dict es) = .ok s := by
  have hmembers {es : Dict} {depth : Nat} (h : ∀ e ∈ es, e.1.IsText ∧ e.2.IsText) :
      ∃ ss, memberTexts false [] depth es = .ok ss := by
    induction es
    case nil => exact ⟨[], rfl⟩
    case cons e es ih =>
      have ⟨k, v⟩ := e
      obtain ⟨⟨⟨s, rfl⟩, ⟨t, rfl⟩⟩, hes⟩ := List.forall_mem_cons.mp h
      exact exists_bind ⟨_, rfl⟩ fun _ => exists_bind ⟨_, rfl⟩ fun _ =>
        exists_bind (ih hes) fun _ => ⟨_, rfl⟩
  cases es
  case nil => exact ⟨_, rfl⟩
  case cons e es => exact exists_bind (hmembers h) fun _ => ⟨_, rfl⟩

end Refit
