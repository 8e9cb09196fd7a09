import Refit.Proofs.Datum.Numbers
import Refit.Proofs.Plan.Plain

/-!
Plans that are stored and read back, and what a snapshot or a plan is once it was stored.

What is stored is a copy of the value of a record. Of a plain value it is the value itself, so the
record that is read back is the one that was stored. Of a value that stands in several places it has
a copy in each of them, and so has the record that is read back.
-/

namespace Refit

open Datum

variable {d e : Datum}

namespace Schema

variable {p : Schema}

theorem ofDatum_toDatum : ofDatum p.toDatum = .ok p := by
  have hdefinition :
      Record.orElse p.toDatum "project_definition" (.dict []) = .ok (.dict p.definition) :=
    congrArg Except.ok orElse_dict_nil
  have hgeneration :
      Record.orElse p.toDatum "generation_plan" (.dict []) = .ok (.dict p.generation) :=
    congrArg Except.ok orElse_dict_nil
  rw [ofDatum, hdefinition, hgeneration]
  rfl

theorem ofDatum_plain (hd : d.Plain) (h : ofDatum d = .ok p) : p.toDatum.Plain := by
  simp only [ofDatum, bind_eq_ok, pure_eq_ok] at h
  obtain ⟨m, hvalue, _, hproject, _, hdefinition, _, hmodels, _, hscreens, _, hwidgets, _, hfiles,
    _, hgeneration, _, hpreserved, _, hwarnings, _, htables, rfl⟩ := h
  have hm : m.Plain := Record.orElse_plain hd hvalue trivial
  exact ⟨trivial, toDict_plain (Record.orElse_plain hd hproject trivial) hdefinition, trivial,
    ⟨trivial, Record.items_plain hm hmodels, trivial, Record.items_plain hm hscreens, trivial,
      Record.items_plain hm hwidgets, trivial⟩, trivial,
    toDict_plain (Record.orElse_plain hd hfiles trivial) hgeneration, trivial,
    Record.items_plain hd hpreserved, trivial, Record.items_plain hd hwarnings, trivial,
    Record.items_plain hd htables, trivial⟩

theorem exists_copy (h : p.toDatum.unshared = .ok e) : ∃ q : Schema, q.toDatum = e := by
  simp [toDatum] at h
  have ⟨definition, _, models, screens, widgets, _, generation, _, preserved, _, warnings, _, tables,
    _, he⟩ := h
  exact ⟨⟨definition, models, screens, widgets, generation, preserved, warnings, tables⟩, he⟩

end Schema

theorem Datum.IsText.items? (h : d.IsText) : d.items? = none := by
  obtain ⟨s, rfl⟩ := h
  rfl

theorem Snapshot.exists_ofDatum_copy {s : Snapshot} (h : s.architecture.reasoning.IsText)
    (he : s.toDatum.unshared = .ok e) : ∃ t, Snapshot.ofDatum e = .ok t ∧ t.toDatum = e := by
  obtain ⟨t, rfl, hreasoning⟩ := exists_copy he
  obtain ⟨r, hr⟩ := h
  rw [hr] at hreasoning
  exact ⟨t, ofDatum_toDatum (IsText.items? ⟨r, (Except.ok.inj hreasoning).symm⟩), rfl⟩

theorem Schema.exists_ofDatum_copy {p : Schema} (he : p.toDatum.unshared = .ok e) :
    ∃ q, Schema.ofDatum e = .ok q ∧ q.toDatum = e := by
  obtain ⟨q, rfl⟩ := exists_copy he
  exact ⟨q, ofDatum_toDatum, rfl⟩

-- Snapshots and plans are read back as they were stored: exactly so if they come of plain values, as
-- those of a document without references are, and else with copies of what stands in several places.
theorem stored_records_read_back :
    (∀ d s, d.Plain → Snapshot.ofDatum d = .ok s →
      (s.toDatum.unshared >>= Snapshot.ofDatum) = .ok s) ∧
    (∀ s : Snapshot, s.architecture.reasoning.IsText →
      Snapshot.ofDatum s.toDatum = .ok s ∧
      (s.toDatum.Plain → (s.toDatum.unshared >>= Snapshot.ofDatum) = .ok s) ∧
      ∀ e, s.toDatum.unshared = .ok e → ∃ t, Snapshot.ofDatum e = .ok t ∧ t.toDatum = e) ∧
    (∀ d p, d.Plain → Schema.ofDatum d = .ok p → (p.toDatum.unshared >>= Schema.ofDatum) = .ok p) ∧
    (∀ s o p, Schema.ofSnapshot s o = .ok p →
      Schema.ofDatum p.toDatum = .ok p ∧
      (s.toDatum.Plain → o.toDatum.Plain → (p.toDatum.unshared >>= Schema.ofDatum) = .ok p) ∧
      ∀ e, p.toDatum.unshared = .ok e → ∃ q, Schema.ofDatum e = .ok q ∧ q.toDatum = e) := by
  have hsnapshot {s : Snapshot} (h : s.architecture.reasoning.items? = none)
      (hp : s.toDatum.Plain) : (s.toDatum.unshared >>= Snapshot.ofDatum) = .ok s :=
    bind_eq_ok.mpr ⟨_, unshared_of_plain _ hp, Snapshot.ofDatum_toDatum h⟩
  have hplan {p : Schema} (hp : p.toDatum.Plain) :
      (p.toDatum.unshared >>= Schema.ofDatum) = .ok p :=
    bind_eq_ok.mpr ⟨_, unshared_of_plain _ hp, Schema.ofDatum_toDatum⟩
  refine ⟨fun d s hd h => ?_, fun s h => ⟨?_, fun hp => ?_, fun e he => ?_⟩, fun d p hd h => ?_,
    fun s o p h => ⟨Schema.ofDatum_toDatum, fun hs ho => ?_, fun e he => ?_⟩⟩
  · exact hsnapshot (Snapshot.items?_of_ofDatum h) (Snapshot.ofDatum_plain hd h)
  · exact Snapshot.ofDatum_toDatum h.items?
  · exact hsnapshot h.items? hp
  · exact Snapshot.exists_ofDatum_copy h he
  · exact hplan (Schema.ofDatum_plain hd h)
  · exact hplan (Schema.ofSnapshot_plain hs ho h)
  · exact Schema.exists_ofDatum_copy he

-- A stored analysis with a reasoning in parts and a model with a field, and what is read of it.
def storedShop : Datum :=
  .record [("name", "shop"), ("architecture", .record [("reasoning", .list ["no", "layers"])]),
    ("models", .list [.record [("name", "User"),
      ("fields", .list [.record [("name", "id"), ("type", "int")]])]])]

def shopRead : Snapshot :=
  { name := "shop"
    architecture := ⟨"custom", 0, .folder "lib" "lib" [], "no; layers"⟩
    models := [{ name := "User", file := "", fields := [{ name := "id", type := "int" }] }] }

-- A stored plan whose definition is given as pairs.
def storedPlan : Datum :=
  .record [("project_definition", .list [.list ["name", "shop"]])]

theorem stored_records_read_back_shop :
    (shopRead.toDatum.unshared >>= Snapshot.ofDatum) = .ok shopRead ∧
    (∃ p, Schema.ofDatum storedPlan = .ok p ∧
      (p.toDatum.unshared >>= Schema.ofDatum) = .ok p) ∧
    (∃ p, Schema.ofSnapshot shopRead {} = .ok p ∧
      (p.toDatum.unshared >>= Schema.ofDatum) = .ok p) := by
  obtain ⟨hread, _, hplan, hmade⟩ := stored_records_read_back
  have hstored : storedShop.Plain := by simp [storedShop, record_plain_iff, Plain, AllPlain]
  have hshop : Snapshot.ofDatum storedShop = .ok shopRead := rfl
  have hplain : shopRead.toDatum.Plain := Snapshot.ofDatum_plain hstored hshop
  refine ⟨hread storedShop shopRead hstored hshop, ?_, ?_⟩
  · obtain ⟨p, hp, _⟩ : ∃ p, Schema.ofDatum storedPlan = .ok p ∧ true :=
      any_toOption.mp (by decide +kernel)
    exact ⟨p, hp, hplan storedPlan p (by simp [storedPlan, record_plain_iff, Plain, AllPlain]) hp⟩
  · obtain ⟨p, hp, _⟩ : ∃ p, Schema.ofSnapshot shopRead {} = .ok p ∧ true :=
      any_toOption.mp (by decide +kernel)
    exact ⟨p, hp, (hmade shopRead {} p hp).2.1 hplain
      (by simp [Options.toDatum, record_plain_iff, Plain, AllPlain])⟩

end Refit
