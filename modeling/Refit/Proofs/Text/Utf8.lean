import Mathlib.Data.List.Basic
import Refit.Proofs.Datum.Basic
import Refit.Proofs.Disk.Writes
import Refit.Text.Portions

/-!
The bytes of a text are read as the text, and no other bytes are.
-/

namespace Refit

namespace Utf8

deriving instance DecidableEq for Open

variable {o : Open} {b low high : UInt8} {bs bytes : List UInt8} {c : Char} {bits n m : Nat}
  {s : String} {ps : List Piece} {cs : List Char}

/-! Bytes -/

theorem piecesFrom_last (hb : low ≤ b ∧ b ≤ high) :
    piecesFrom (some ⟨1, low, high, bits, bytes⟩) (b :: bs) =
      .ok (Char.ofNat (bits * 64 + b.toNat % 64)) :: piecesFrom none bs := by
  simp [piecesFrom, step, hb]

theorem piecesFrom_follow (hb : low ≤ b ∧ b ≤ high) :
    piecesFrom (some ⟨n + 2, low, high, bits, bytes⟩) (b :: bs) =
      piecesFrom (some ⟨n + 1, 0x80, 0xBF, bits * 64 + b.toNat % 64, b :: bytes⟩) bs := by
  simp [piecesFrom, step, hb]

theorem piecesFrom_start (hb : ¬ b < 0x80) (hs : start? b = some o) :
    piecesFrom none (b :: bs) = piecesFrom (some o) bs := by
  simp [piecesFrom, step, step.fresh, hb, hs]

theorem piecesFrom_plain (hb : b < 0x80) :
    piecesFrom none (b :: bs) = .ok (Char.ofNat b.toNat) :: piecesFrom none bs := by
  simp [piecesFrom, step, step.fresh, hb]

-- What the first byte of a character says, by the bits in it. The next byte starts at a bound where
-- fewer bytes would do, and ends at one where there are no characters.
theorem start?_two : ∀ n < 32, 2 ≤ n → start? (.ofNat (n + 192)) =
    some ⟨1, 0x80, 0xBF, n, [.ofNat (n + 192)]⟩ := by
  decide

theorem start?_three : ∀ n < 16, start? (.ofNat (n + 224)) =
    some ⟨2, .ofNat (128 + if n = 0 then 32 else 0), .ofNat (128 + if n = 13 then 31 else 63), n,
      [.ofNat (n + 224)]⟩ := by
  decide

theorem start?_four : ∀ n < 5, start? (.ofNat (n + 240)) =
    some ⟨3, .ofNat (128 + if n = 0 then 16 else 0), .ofNat (128 + if n = 4 then 15 else 63), n,
      [.ofNat (n + 240)]⟩ := by
  decide

-- A byte that comes after the first one of a character, with six of its bits.
theorem follow_toNat (hn : n < 64) : (UInt8.ofNat (n + 128)).toNat % 64 = n := by
  have hbyte : n + 128 < 256 := by omega
  rw [UInt8.toNat_ofNat_of_lt' hbyte]
  omega

theorem follow_fits {low high : Nat} (hn : n < 64) (hlow : 128 + low < 256)
    (hhigh : 128 + high < 256) (h : low ≤ n ∧ n ≤ high) :
    UInt8.ofNat (128 + low) ≤ .ofNat (n + 128) ∧
      UInt8.ofNat (n + 128) ≤ .ofNat (128 + high) := by
  have hbyte : n + 128 < 256 := by omega
  rw [UInt8.ofNat_le_iff_le hlow hbyte, UInt8.ofNat_le_iff_le hbyte hhigh]
  omega

theorem not_plain (hn : n < 256) (h : 128 ≤ n) : ¬ UInt8.ofNat n < 0x80 := by
  change ¬ UInt8.ofNat n < .ofNat 128
  rw [UInt8.ofNat_lt_iff_lt hn (by decide)]
  omega

theorem follow_fits_any (hn : n < 64) :
    0x80 ≤ UInt8.ofNat (n + 128) ∧ UInt8.ofNat (n + 128) ≤ 0xBF :=
  @follow_fits n 0 63 hn (by decide) (by decide) (by omega)

-- The bytes of a character are read as it, whatever follows them.
theorem piecesFrom_encode : piecesFrom none (String.utf8EncodeChar c ++ bs) =
    .ok c :: piecesFrom none bs := by
  have hvalid : c.val.toNat < 0xD800 ∨ 0xDFFF < c.val.toNat ∧ c.val.toNat < 0x110000 := c.valid
  have hc : Char.ofNat c.val.toNat = c := Char.ofNat_toNat c
  rw [String.utf8EncodeChar]
  generalize c.val.toNat = v at hvalid hc
  subst hc
  have hlast := @follow_fits_any (v % 64) (by omega)
  split
  case isTrue h =>
    have hbyte : v < 256 := by omega
    have hplain : UInt8.ofNat v < .ofNat 128 :=
      (UInt8.ofNat_lt_iff_lt hbyte (by decide)).mpr (by omega)
    rw [List.singleton_append, piecesFrom_plain hplain, UInt8.toNat_ofNat_of_lt' hbyte]
  case isFalse h =>
    split
    case isTrue h' =>
      have hstart := start?_two (v / 64 % 32) (by omega) (by omega)
      simp only [List.cons_append, List.nil_append]
      rw [piecesFrom_start (not_plain (by omega) (by omega)) hstart, piecesFrom_last hlast,
        follow_toNat (by omega), show v / 64 % 32 * 64 + v % 64 = v by omega]
    case isFalse h' =>
      split
      case isTrue h'' =>
        have hstart := start?_three (v / 4096 % 16) (by omega)
        have hnext := @follow_fits (v / 64 % 64) (if v / 4096 % 16 = 0 then 32 else 0)
          (if v / 4096 % 16 = 13 then 31 else 63) (by omega) (by split <;> decide)
          (by split <;> decide) (by split <;> split <;> omega)
        simp only [List.cons_append, List.nil_append]
        rw [piecesFrom_start (not_plain (by omega) (by omega)) hstart,
          piecesFrom_follow hnext, piecesFrom_last hlast, follow_toNat (by omega),
          follow_toNat (by omega),
          show (v / 4096 % 16 * 64 + v / 64 % 64) * 64 + v % 64 = v by omega]
      case isFalse h'' =>
        have hstart := start?_four (v / 262144 % 8) (by omega)
        have hnext := @follow_fits (v / 4096 % 64) (if v / 262144 % 8 = 0 then 16 else 0)
          (if v / 262144 % 8 = 4 then 15 else 63) (by omega) (by split <;> decide)
          (by split <;> decide) (by split <;> split <;> omega)
        have hthird := @follow_fits_any (v / 64 % 64) (by omega)
        simp only [List.cons_append, List.nil_append]
        rw [piecesFrom_start (not_plain (by omega) (by omega)) hstart,
          piecesFrom_follow hnext, piecesFrom_follow hthird,
          piecesFrom_last hlast, follow_toNat (by omega), follow_toNat (by omega),
          follow_toNat (by omega),
          show ((v / 262144 % 8 * 64 + v / 4096 % 64) * 64 + v / 64 % 64) * 64 + v % 64 = v by omega]

theorem toUTF8_toList : s.toUTF8.toList = s.toList.flatMap String.utf8EncodeChar := by
  have hbytes : s.toUTF8 = s.toList.utf8Encode := by
    rw [String.toUTF8, ← String.toByteArray_ofList, String.ofList_toList]
  rw [hbytes, ByteArray.toList, Disk.toList_loop, List.utf8Encode]
  simp

theorem pieces_toUTF8 : pieces s.toUTF8.toList = s.toList.map .ok := by
  rw [pieces, toUTF8_toList]
  induction s.toList
  case nil => rfl
  case cons c cs ih => rw [List.flatMap_cons, piecesFrom_encode, ih, List.map_cons]

theorem strictFrom_ok : strictFrom n (cs.map .ok) = .ok cs := by
  induction cs generalizing n
  case nil => rfl
  case cons c cs ih =>
    rw [List.map_cons, strictFrom, ih]
    rfl

theorem decode_toUTF8 : decode s.toUTF8.toList = .ok s := by
  rw [decode, pieces_toUTF8, strictFrom_ok]
  exact congrArg Except.ok (String.ofList_toList)

theorem decodeLossy_toUTF8 : decodeLossy s.toUTF8.toList = s := by
  rw [decodeLossy, pieces_toUTF8, List.map_map]
  exact (congrArg String.ofList (List.map_id' _)).trans String.ofList_toList

/-! Bytes that are read -/

theorem exists_fitting (h : piecesFrom (some o) bs = .ok c :: ps) :
    ∃ f r, bs = f :: r ∧ o.low ≤ f ∧ f ≤ o.high := by
  cases bs
  case nil => simp [piecesFrom] at h
  case cons f r =>
    refine ⟨f, r, rfl, ?_⟩
    by_contra hf
    simp [piecesFrom, step, hf] at h

theorem exists_last (h : piecesFrom (some ⟨1, 0x80, 0xBF, bits, bytes⟩) bs = .ok c :: ps) :
    ∃ f r, bs = f :: r ∧ 128 ≤ f.toNat ∧ f.toNat ≤ 191 ∧
      c = Char.ofNat (bits * 64 + f.toNat % 64) ∧ piecesFrom none r = ps := by
  obtain ⟨f, r, rfl, hf⟩ := exists_fitting h
  rw [piecesFrom_last hf, List.cons.injEq, Except.ok.injEq] at h
  exact ⟨f, r, rfl, hf.1, hf.2, h.1.symm, h.2⟩

theorem exists_follow
    (h : piecesFrom (some ⟨n + 2, low, high, bits, bytes⟩) bs = .ok c :: ps) :
    ∃ f r, bs = f :: r ∧ low.toNat ≤ f.toNat ∧ f.toNat ≤ high.toNat ∧
      piecesFrom (some ⟨n + 1, 0x80, 0xBF, bits * 64 + f.toNat % 64, f :: bytes⟩) r =
        .ok c :: ps := by
  obtain ⟨f, r, rfl, hf⟩ := exists_fitting h
  rw [piecesFrom_follow hf] at h
  exact ⟨f, r, rfl, hf.1, hf.2, h⟩

-- How many bytes follow the first one of a character, and between which bounds the next one is.
inductive Begun (b : UInt8) : Open → Prop
  | two (bits : Nat) : 194 ≤ b.toNat → b.toNat = bits + 192 → bits < 32 →
    Begun b ⟨1, 0x80, 0xBF, bits, [b]⟩
  | three (low high : UInt8) (bits : Nat) : b.toNat = bits + 224 → bits < 16 →
    128 ≤ low.toNat → high.toNat ≤ 191 → (bits = 0 → 160 ≤ low.toNat) →
    (bits = 13 → high.toNat ≤ 159) → Begun b ⟨2, low, high, bits, [b]⟩
  | four (low high : UInt8) (bits : Nat) : b.toNat = bits + 240 → bits ≤ 4 →
    128 ≤ low.toNat → high.toNat ≤ 191 → (bits = 0 → 144 ≤ low.toNat) →
    (bits = 4 → high.toNat ≤ 143) → Begun b ⟨3, low, high, bits, [b]⟩

theorem begun_of_start? (h : start? b = some o) : Begun b o := by
  have hle : ∀ c : UInt8, b ≤ c ↔ b.toNat ≤ c.toNat := fun _ => UInt8.le_iff_toNat_le
  have hge : ∀ c : UInt8, c ≤ b ↔ c.toNat ≤ b.toNat := fun _ => UInt8.le_iff_toNat_le
  have heq : ∀ c : UInt8, (b == c) = true ↔ b.toNat = c.toNat := fun c => by
    rw [beq_iff_eq, UInt8.toNat_inj]
  simp only [start?, Bool.and_eq_true, decide_eq_true_eq, hle, hge, heq, UInt8.reduceToNat] at h
  split_ifs at h
  all_goals obtain rfl := Option.some.inj h
  · exact .two _ (by omega) (by omega) (by omega)
  · exact .three _ _ _ (by omega) (by omega) (by decide) (by decide) (by decide) (by decide)
  · exact .three _ _ _ (by omega) (by omega) (by decide) (by decide) (by decide) (by decide)
  · exact .three _ _ _ (by omega) (by omega) (by decide) (by decide) (by omega) (by omega)
  · exact .four _ _ _ (by omega) (by omega) (by decide) (by decide) (by decide) (by decide)
  · exact .four _ _ _ (by omega) (by omega) (by decide) (by decide) (by omega) (by omega)
  · exact .four _ _ _ (by omega) (by omega) (by decide) (by decide) (by decide) (by decide)

theorem toNat_ofNat (h : m.isValidChar) : (Char.ofNat m).val.toNat = m := by
  rw [Char.ofNat, dif_pos h]
  rfl

theorem ofNat_eq (h : n = b.toNat) : UInt8.ofNat n = b := by
  rw [h, UInt8.ofNat_toNat]

-- The bytes that are read as a character are its own.
theorem eq_encode_of_pieces (h : piecesFrom none bs = .ok c :: ps) :
    ∃ r, bs = String.utf8EncodeChar c ++ r ∧ piecesFrom none r = ps := by
  rcases bs with _ | ⟨b, bs⟩
  case nil => simp [piecesFrom] at h
  by_cases hb : b < 0x80
  case pos =>
    rw [piecesFrom_plain hb, List.cons.injEq, Except.ok.injEq] at h
    obtain ⟨rfl, h⟩ := h
    have hbyte : b.toNat < 128 := hb
    refine ⟨bs, ?_, h⟩
    rw [String.utf8EncodeChar, toNat_ofNat (.inl (by omega)), if_pos (by omega), UInt8.ofNat_toNat]
    rfl
  case neg =>
    cases hs : start? b
    case none => simp [piecesFrom, step, step.fresh, hb, hs] at h
    case some o =>
      rw [piecesFrom_start hb hs] at h
      cases begun_of_start? hs
      case two bits hlow hbits hfew =>
        obtain ⟨f, r, rfl, hf, hf', rfl, hrest⟩ := exists_last h
        refine ⟨r, ?_, hrest⟩
        rw [String.utf8EncodeChar, toNat_ofNat (.inl (by omega)), if_neg (by omega),
          if_pos (by omega), ofNat_eq (b := b) (by omega), ofNat_eq (b := f) (by omega)]
        rfl
      case three low high bits hbits hfew hlow hhigh hzero hthirteen =>
        obtain ⟨f, _, rfl, hf, hf', hfollow⟩ := exists_follow h
        obtain ⟨g, r, rfl, hg, hg', rfl, hrest⟩ := exists_last hfollow
        refine ⟨r, ?_, hrest⟩
        have hvalid : ((bits * 64 + f.toNat % 64) * 64 + g.toNat % 64).isValidChar := by
          rw [Nat.isValidChar]
          omega
        rw [String.utf8EncodeChar, toNat_ofNat hvalid, if_neg (by omega),
          if_neg (by omega), if_pos (by omega), ofNat_eq (b := b) (by omega),
          ofNat_eq (b := f) (by omega), ofNat_eq (b := g) (by omega)]
        rfl
      case four low high bits hbits hfew hlow hhigh hzero hfour =>
        obtain ⟨f, _, rfl, hf, hf', hfollow⟩ := exists_follow h
        obtain ⟨g, _, rfl, hg, hg', hfollow'⟩ := exists_follow hfollow
        obtain ⟨k, r, rfl, hk, hk', rfl, hrest⟩ := exists_last hfollow'
        have hg : 128 ≤ g.toNat := hg
        have hg' : g.toNat ≤ 191 := hg'
        refine ⟨r, ?_, hrest⟩
        rw [String.utf8EncodeChar, toNat_ofNat (.inr (by omega)), if_neg (by omega),
          if_neg (by omega), if_neg (by omega), ofNat_eq (b := b) (by omega),
          ofNat_eq (b := f) (by omega), ofNat_eq (b := g) (by omega), ofNat_eq (b := k) (by omega)]
        rfl

-- A character that was begun leaves a piece, whatever comes of it.
theorem piecesFrom_some_ne_nil : piecesFrom (some o) bs ≠ [] := by
  induction bs generalizing o
  case nil => simp [piecesFrom]
  case cons b bs ih =>
    rw [piecesFrom, step]
    split
    case isTrue =>
      split
      · simp
      · simpa using ih
    case isFalse => simp

theorem piecesFrom_none_ne_nil : piecesFrom none (b :: bs) ≠ [] := by
  by_cases hb : b < 0x80
  case pos => simp [piecesFrom_plain hb]
  case neg =>
    cases hs : start? b
    case none => simp [piecesFrom, step, step.fresh, hb, hs]
    case some => exact piecesFrom_start hb hs ▸ piecesFrom_some_ne_nil

theorem eq_encodes_of_pieces (h : pieces bs = cs.map .ok) :
    bs = cs.flatMap String.utf8EncodeChar := by
  rw [pieces] at h
  induction cs generalizing bs
  case nil =>
    cases bs
    case nil => rfl
    case cons => exact absurd h piecesFrom_none_ne_nil
  case cons c cs ih =>
    obtain ⟨r, rfl, hr⟩ := eq_encode_of_pieces h
    rw [List.flatMap_cons, ih hr]

theorem strictFrom_eq_ok (h : strictFrom n ps = .ok cs) : ps = cs.map .ok := by
  induction ps generalizing n cs
  case nil =>
    obtain rfl := Except.ok.inj h
    rfl
  case cons p ps ih =>
    rcases p with _ | c
    case error => cases h
    case ok =>
      obtain ⟨cs, hcs, rfl⟩ := map_eq_ok.mp h
      rw [ih hcs, List.map_cons]

-- Bytes are read as a text when they are its own.
theorem decode_iff : decode bs = .ok s ↔ bs = s.toUTF8.toList := by
  refine ⟨fun h => ?_, fun h => h ▸ decode_toUTF8⟩
  obtain ⟨cs, hcs, rfl⟩ := map_eq_ok.mp h
  rw [toUTF8_toList, String.toList_ofList]
  exact eq_encodes_of_pieces (strictFrom_eq_ok hcs)

/-! Lines -/

-- Before a character other than a line feed, the lines are told by what is before it.
theorem unixLines_append {cs t : List Char} {c : Char} (hc : c ≠ '\n') :
    unixLines (cs ++ c :: t) = unixLines cs ++ unixLines (c :: t) := by
  fun_induction unixLines cs
  case case1 ih => rw [List.cons_append, List.cons_append, unixLines, ih, List.cons_append]
  case case2 r hlone ih =>
    have hlone' : ∀ r', r ++ c :: t ≠ '\n' :: r' := by
      cases r
      case nil => exact fun r' h => hc (List.cons.inj h).1
      case cons x r => exact fun r' h => hlone r (by rw [(List.cons.inj h).1])
    rw [List.cons_append, unixLines.eq_2 _ hlone', ih, List.cons_append]
  case case3 x r _ hplain ih =>
    rw [List.cons_append, unixLines.eq_3 _ _ (fun r' hx _ => hplain hx) hplain, ih,
      List.cons_append]
  case case4 => rfl

theorem not_mem_unixLines : '\r' ∉ unixLines cs := by
  fun_induction unixLines cs
  case case1 ih => simpa using ih
  case case2 ih => simpa using ih
  case case3 hplain ih => simpa [eq_comm] using ⟨hplain, ih⟩
  case case4 => exact List.not_mem_nil

-- A text without carriage returns keeps its lines.
theorem withUnixLines_eq_self (h : '\r' ∉ s.toList) : s.withUnixLines = s := by
  have hlines : ∀ cs : List Char, '\r' ∉ cs → unixLines cs = cs := by
    intro cs hcs
    fun_induction unixLines cs
    case case1 => exact absurd (.head _) hcs
    case case2 => exact absurd (.head _) hcs
    case case3 ih => rw [ih fun hc => hcs (.tail _ hc)]
    case case4 => rfl
  rw [String.withUnixLines, hlines _ h, String.ofList_toList]

theorem withUnixLines_eq_self_iff : s.withUnixLines = s ↔ '\r' ∉ s.toList := by
  refine ⟨fun h => ?_, withUnixLines_eq_self⟩
  rw [← h, String.withUnixLines, String.toList_ofList]
  exact not_mem_unixLines

theorem ofBytes_toUTF8 (h : '\r' ∉ s.toList) : Portions.ofBytes s.toUTF8.toList = ⟨s, none⟩ := by
  rw [Portions.ofBytes, decode_toUTF8]
  dsimp only
  rw [withUnixLines_eq_self h]

end Utf8

end Refit
