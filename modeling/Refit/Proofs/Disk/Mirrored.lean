import Mathlib.Data.List.Nodup
import Refit.Proofs.Source.Reading

/-!
Folders that hold the same, on one disk or on two. What a way that does not step back leads to from
one of them, it leads to from the other.
-/

namespace Refit.Disk

variable {d d' : Disk} {p p' rel : List String} {n : Node} {name : String}

-- A disk that lists no place twice.
def Distinct (d : Disk) : Prop :=
  (d.nodes.map Prod.fst).Nodup

-- A folder in a place holds the same as a folder in another.
structure Mirrored (d d' : Disk) (p p' : List String) : Prop where
  below : d'.below p' = d.below p
  find? : ∀ rel, d'.find? (p' ++ rel) = d.find? (p ++ rel)
  children : ∀ rel, d'.children (p' ++ rel) = d.children (p ++ rel)

/-! What the listings tell -/

theorem mem_below : (rel, n) ∈ d.below p ↔ (p ++ rel, n) ∈ d.nodes ∧ rel ≠ [] := by
  rw [below, List.mem_mergeSort, List.mem_filterMap]
  constructor
  · rintro ⟨⟨q, m⟩, hm, h⟩
    split at h
    case isFalse => cases h
    case isTrue hq =>
      obtain ⟨hpre, hne⟩ := Bool.and_eq_true_iff.mp hq
      obtain ⟨rest, rfl⟩ := List.isPrefixOf_iff_prefix.mp hpre
      obtain ⟨rfl, rfl⟩ := Prod.mk.inj (Option.some.inj h)
      simp only [List.drop_left] at *
      exact ⟨hm, by rintro rfl; simp at hne⟩
  · rintro ⟨hm, hne⟩
    exact ⟨(p ++ rel, n), hm, by simp [hne]⟩

theorem mem_children : (name, n) ∈ d.children p ↔ (p ++ [name], n) ∈ d.nodes := by
  rw [children, List.mem_mergeSort, List.mem_filterMap]
  constructor
  · rintro ⟨⟨q, m⟩, hm, h⟩
    split at h
    case isFalse => cases h
    case isTrue hq =>
      obtain ⟨last, hlast, heq⟩ := Option.map_eq_some_iff.mp h
      obtain ⟨rfl, rfl⟩ := Prod.mk.inj heq
      rw [← eq_of_beq hq, List.dropLast_append_getLast? last hlast]
      exact hm
  · intro hm
    exact ⟨(p ++ [name], n), hm, by simp⟩

theorem Distinct.find?_iff (h : d.Distinct) (hne : p ≠ []) :
    d.find? p = some n ↔ (p, n) ∈ d.nodes := by
  rw [Disk.find?, if_neg (by simpa using hne)]
  constructor
  · intro hn
    obtain ⟨_, _, hnodes, _⟩ := List.lookup_eq_some_iff.mp hn
    exact hnodes ▸ by simp
  · intro hm
    cases hn : d.nodes.lookup p
    case none =>
      exact absurd (List.lookup_eq_none_iff.mp hn _ hm) (by simp)
    case some m =>
      obtain ⟨_, _, hnodes, _⟩ := List.lookup_eq_some_iff.mp hn
      have heq := List.inj_on_of_nodup_map h (x := (p, m)) (hnodes ▸ by simp) hm rfl
      rw [(Prod.mk.inj heq).2]

theorem Distinct.nodup_children (h : d.Distinct) : (d.children p).Nodup := by
  refine List.nodup_mergeSort.mpr (List.Nodup.filterMap (fun x y b hx hy => ?_) h.of_map)
  have hopen {x : List String × Node} (hx : b ∈ if x.1.dropLast == p then
      x.1.getLast?.map (·, x.2) else none) : x = (p ++ [b.1], b.2) := by
    split at hx
    case isFalse => cases hx
    case isTrue hp =>
      obtain ⟨last, hlast, rfl⟩ := Option.map_eq_some_iff.mp hx
      rw [← eq_of_beq hp, List.dropLast_append_getLast? last hlast]
  rw [hopen hx, hopen hy]

theorem pairwise_children (d : Disk) (p : List String) :
    (d.children p).Pairwise fun a b => a.1 ≤ b.1 := by
  have hsorted : (d.children p).Pairwise fun a b => decide (a.1 ≤ b.1) = true :=
    List.pairwise_mergeSort (fun a b c hab hbc => by
      simp only [decide_eq_true_eq] at *
      exact String.le_trans hab hbc) (fun a b => by simpa using String.le_total a.1 b.1) _
  exact hsorted.imp of_decide_eq_true

-- A name stands for one thing.
theorem Distinct.eq_of_mem_children (h : d.Distinct) {m : Node} (hn : (name, n) ∈ d.children p)
    (hm : (name, m) ∈ d.children p) : n = m :=
  (Prod.mk.inj (List.inj_on_of_nodup_map h (mem_children.mp hn) (mem_children.mp hm) rfl)).2

-- What is in a folder is listed by names, so the listing is told by its entries.
theorem Distinct.children_eq {q q' : List String} (hd : d.Distinct) (hd' : d'.Distinct)
    (h : ∀ x, x ∈ d'.children q' ↔ x ∈ d.children q) : d'.children q' = d.children q := by
  refine List.Perm.eq_of_pairwise (fun a b ha hb hab hba => ?_) (d'.pairwise_children q')
    (d.pairwise_children q)
    ((List.perm_ext_iff_of_nodup hd'.nodup_children hd.nodup_children).mpr h)
  obtain ⟨name, n⟩ := a
  obtain ⟨name', n'⟩ := b
  obtain rfl : name = name' := String.le_antisymm hab hba
  rw [hd.eq_of_mem_children ((h _).mp ha) hb]

-- The listing of a folder tells what is in it, and each of its folders is listed by names.
theorem Mirrored.of_below (hd : d.Distinct) (hd' : d'.Distinct) (hp : d.find? p = some .folder)
    (hp' : d'.find? p' = some .folder) (h : d'.below p' = d.below p) : Mirrored d d' p p' := by
  have hnodes {rel n} (hne : rel ≠ []) : (p' ++ rel, n) ∈ d'.nodes ↔ (p ++ rel, n) ∈ d.nodes := by
    have hmem := @mem_below d' p' rel n
    rw [h, mem_below] at hmem
    simpa [hne] using hmem.symm
  refine ⟨h, fun rel => ?_, fun rel => ?_⟩
  · by_cases hne : rel = []
    case pos => rw [hne, List.append_nil, List.append_nil, hp, hp']
    case neg =>
      refine Option.ext fun n => ?_
      rw [hd'.find?_iff (by simp [hne]), hd.find?_iff (by simp [hne]), hnodes hne]
  · refine hd.children_eq hd' fun ⟨name, n⟩ => ?_
    rw [mem_children, mem_children, List.append_assoc, List.append_assoc, hnodes (by simp)]

/-! Ways from a folder -/

theorem walk_append {at_ xs ys : List String} :
    d.walk at_ (xs ++ ys) = d.walk at_ xs >>= fun q => d.walk q ys := by
  induction xs generalizing at_
  case nil => rfl
  case cons x xs ih =>
    rw [List.cons_append, walk, walk]
    split
    case h_1 => rfl
    case h_2 => rfl
    case h_3 =>
      split
      case isTrue => exact ih
      case isFalse =>
        split
        case isTrue => rfl
        case isFalse => exact ih

-- What a way that does not step back leads to.
theorem Mirrored.find?_walk (h : Mirrored d d' p p') (hup : ".." ∉ rel) :
    (d'.walk p' rel).map d'.find? = (d.walk p rel).map d.find? := by
  have hfind := h.find?
  clear h
  induction rel generalizing p p'
  case nil => simpa [walk, Except.map] using hfind []
  case cons x xs ih =>
    obtain ⟨hx, hxs⟩ := List.ne_and_not_mem_of_not_mem_cons hup
    have hsame : d'.find? p' = d.find? p := by simpa using hfind []
    have hx' : (x == "..") = false := by simpa using hx.symm
    rw [walk, walk, hsame, hx']
    split
    case h_1 => rfl
    case h_2 => rfl
    case h_3 =>
      simp only [Bool.false_eq_true, if_false]
      split
      case isTrue => rfl
      case isFalse =>
        refine ih hxs fun rel => ?_
        simpa using hfind (x :: rel)

-- A path to a folder.
structure Rooted (d : Disk) (cwd : List String) (l : Location) (p : List String) : Prop where
  place : d.place cwd l = .ok p
  folder : d.find? p = some .folder

namespace Rooted

variable {cwd : List String} {l m : Location}

theorem isFolder (h : Rooted d cwd l p) : d.isFolder cwd l = .ok true := by
  rw [Disk.isFolder, look?, h.place]
  simp only [h.folder]
  rfl

-- A path that goes on from a folder is walked from there.
theorem place_append (h : Rooted d cwd l p) (hm : m.root = none) (hn : ¬m.HasNull)
    (hl : (l ++ m).text.utf8ByteSize ≤ pathLimit) :
    d.place cwd (l ++ m) = (d.walk p m.steps).mapError fun t => .file (t (l ++ m).text) := by
  have hnull : ¬(l ++ m).text.toList.contains '\x00' = true := by
    rw [List.contains_iff_mem, ← Location.hasNull_iff]
    exact fun hlm => (Location.hasNull_append hlm).elim (not_hasNull_of_isFolder h.isFolder) hn
  have hplace := h.place
  rw [Disk.place] at hplace ⊢
  rw [if_neg hnull, if_neg (Nat.not_lt.mpr hl)]
  split at hplace
  case isTrue => cases hplace
  case isFalse =>
    split at hplace
    case isTrue => cases hplace
    case isFalse =>
      have hw := mapError_eq_ok.mp hplace
      generalize (l ++ m).text = t
      rw [Location.append_eq hm]
      simp only [walk_append, hw, bind, Except.bind]

-- A segment that is a name leads to a place in the folder.
theorem place_child (h : Rooted d cwd l p) (hn : '\x00' ∉ name.toList) (hup : name ≠ "..")
    (hlong : name.utf8ByteSize ≤ nameLimit)
    (hl : (l.child name).text.utf8ByteSize ≤ pathLimit) :
    d.place cwd (l.child name) = .ok (p ++ [name]) := by
  have hchild : l.child name = l ++ ⟨none, [name]⟩ := rfl
  rw [hchild] at hl ⊢
  rw [h.place_append rfl (by simpa [Location.HasNull] using hn) hl]
  simp [walk, h.folder, hup, Nat.not_lt.mpr hlong, Except.mapError]

theorem utf8ByteSize_text_le_child (hname : name ≠ "") :
    l.text.utf8ByteSize ≤ (l.child name).text.utf8ByteSize := by
  have hjoin (ws : List String) :
      ("/".joining ws).utf8ByteSize ≤ ("/".joining (ws ++ [name])).utf8ByteSize := by
    by_cases hws : ws = []
    case pos =>
      subst hws
      exact Nat.zero_le _
    case neg =>
      rw [Path.joining_concat hws, String.utf8ByteSize_append, String.utf8ByteSize_append]
      omega
  rcases l with ⟨_ | r, steps⟩
  case none =>
    cases steps
    case nil =>
      change _ ≤ ("/".joining [name]).utf8ByteSize
      rw [Path.joining_singleton]
      exact Nat.pos_of_ne_zero (by simpa using hname)
    case cons => exact hjoin _
  case some =>
    rw [Location.text, Location.text, String.utf8ByteSize_append]
    exact (Nat.add_le_add_left (hjoin steps) _).trans_eq String.utf8ByteSize_append.symm

-- A path that leads anywhere leads through a folder.
theorem of_place_child (h : d.place cwd (l.child name) = .ok p) (hname : name ≠ "") :
    ∃ q, Rooted d cwd l q := by
  have hparent : (l.child name).parent = l := by
    rw [Location.child, Location.parent, List.dropLast_concat]
  rw [Disk.place] at h
  split at h
  case isTrue => cases h
  case isFalse hnull =>
    split at h
    case isTrue => cases h
    case isFalse hlong =>
      have hw := mapError_eq_ok.mp h
      rw [Location.child, walk_append] at hw
      obtain ⟨q, hq, hlast⟩ := bind_eq_ok.mp hw
      have hnull' : ¬l.text.toList.contains '\x00' = true := by
        rw [List.contains_iff_mem, ← Location.hasNull_iff] at hnull ⊢
        exact fun hl => hnull (Location.hasNull_of_parent (hparent.symm ▸ hl))
      refine ⟨q, ?_, ?_⟩
      case refine_1 =>
        rw [Disk.place, if_neg hnull',
          if_neg (Nat.not_lt.mpr ((utf8ByteSize_text_le_child hname).trans (Nat.not_lt.mp hlong)))]
        exact mapError_eq_ok.mpr hq
      case refine_2 =>
        rw [walk] at hlast
        split at hlast
        case h_1 => cases hlast
        case h_2 => cases hlast
        case h_3 hfolder => exact hfolder

end Rooted

end Refit.Disk
