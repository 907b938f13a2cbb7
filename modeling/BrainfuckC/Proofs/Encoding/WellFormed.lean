import BrainfuckC.Proofs.Encoding.Utf8
import BrainfuckC.Text.Encoding

/-!
# Well-formed files

A file is well formed in an encoding if it is what some text is written as. Each
encoding reads back what it writes (`decode_of_encode?`), the marked form of
UTF-8 included, which takes away the one mark that it has put in front.

The other encodings have one form for each text, so what they read is well formed
(`decode_eq_ok_iff`), and the error names the end of the longest part in front
that is (`isGreatest_of_decode_eq_error`). This fails for the marked form: there a
file may also come without a mark.
-/

namespace BrainfuckC

namespace Encoding

/-- Some text is written as these bytes. -/
def WellFormed (e : Encoding) (bs : Bytes) : Prop := ∃ t, e.encode? t = some bs

/-- The characters that an encoding has. -/
def Has : Encoding → Char → Prop
  | utf8, _ | markedUtf8, _ => True
  | ascii, c => c.toNat < 0x80
  | latin1, c => c.toNat < 0x100

/-! ## One byte for a character -/

def byte? (limit : Nat) (c : Char) : Option Bytes :=
  if c.toNat < limit then some [UInt8.ofNat c.toNat] else none

theorem byte?_eq_some_iff {limit : Nat} {c : Char} {b : Bytes} :
    byte? limit c = some b ↔ c.toNat < limit ∧ b = [UInt8.ofNat c.toNat] := by
  rw [byte?]
  split
  · rename_i h
    simp [h, eq_comm]
  · rename_i h
    simp [h]

theorem toNat_ofNat_of_byte {n : Nat} (h : n < 0x100) : (Char.ofNat n).toNat = n := by
  have hvalid : n.isValidChar := .inl (h.trans (by decide))
  rw [Char.ofNat, dif_pos hvalid]
  rfl

theorem reads_widen {limit : Nat} (hlimit : limit ≤ 0x100) :
    Reads (byte? limit) (widen limit) where
  ne_nil := by
    intro c b hb
    rw [(byte?_eq_some_iff.1 hb).2]
    exact List.cons_ne_nil _ []
  nil _ := rfl
  char := by
    intro c b hb offset rest
    obtain ⟨hc, rfl⟩ := byte?_eq_some_iff.1 hb
    have htoNat : (UInt8.ofNat c.toNat).toNat = c.toNat := by
      rw [UInt8.toNat_ofNat']
      exact Nat.mod_eq_of_lt (hc.trans_le hlimit)
    rw [List.singleton_append, widen, htoNat, if_pos hc, Char.ofNat_toNat, List.length_singleton]
  stop := by
    intro bs hne hstop offset
    cases bs with
    | nil => exact absurd rfl hne
    | cons b bs =>
      rw [widen, if_neg]
      intro hb
      have hchar := toNat_ofNat_of_byte (hb.trans_le hlimit)
      apply hstop (Char.ofNat b.toNat) [b]
      · rw [byte?_eq_some_iff, hchar, UInt8.ofNat_toNat]
        exact ⟨hb, rfl⟩
      · exact List.prefix_append [b] bs

theorem narrow?_nil (limit : Nat) : narrow? limit [] = some [] := rfl

theorem narrow?_cons (limit : Nat) (c : Char) (t : Text) :
    narrow? limit (c :: t) = (byte? limit c).bind fun b => (narrow? limit t).map (b ++ ·) := by
  by_cases hc : c.toNat < limit
  · by_cases ht : t.all fun c => decide (c.toNat < limit)
    · simp [narrow?, byte?, hc, ht]
    · simp [narrow?, byte?, ht]
  · simp [narrow?, byte?, hc]

theorem spells_byte_iff {limit : Nat} {t : Text} {bs : Bytes} :
    Spells (byte? limit) t bs ↔ narrow? limit t = some bs := by
  constructor
  · intro h
    induction h with
    | nil => rfl
    | cons hc ht ih => rw [narrow?_cons, hc, ih, Option.bind_some, Option.map_some]
  · intro h
    induction t generalizing bs with
    | nil =>
      cases h
      exact .nil
    | cons c t ih =>
      rw [narrow?_cons, Option.bind_eq_some_iff] at h
      obtain ⟨b, hc, h⟩ := h
      obtain ⟨rest, hrest, rfl⟩ := Option.map_eq_some_iff.1 h
      exact .cons hc (ih hrest)

/-- All characters of a text have to be below the limit. -/
theorem narrow?_eq_some_iff {limit : Nat} {t : Text} {bs : Bytes} :
    narrow? limit t = some bs ↔
      (∀ c ∈ t, c.toNat < limit) ∧ bs = t.flatMap fun c => [UInt8.ofNat c.toNat] := by
  have hall : (t.all fun c => decide (c.toNat < limit)) ↔ ∀ c ∈ t, c.toNat < limit := by
    simp only [List.all_eq_true, decide_eq_true_eq]
  rw [narrow?, ← List.map_eq_flatMap, ← hall]
  split
  · rename_i h
    rw [Option.some.injEq, eq_comm]
    exact (and_iff_right h).symm
  · rename_i h
    exact iff_of_false nofun fun hbs => h hbs.1

theorem spelled_byte_iff {limit : Nat} (hlimit : limit ≤ 0x100) {bs : Bytes} :
    Spelled (byte? limit) bs ↔ ∀ b ∈ bs, b.toNat < limit := by
  constructor
  · rintro ⟨t, ht⟩
    induction ht with
    | nil => simp
    | cons hc ht ih =>
      obtain ⟨hlt, rfl⟩ := byte?_eq_some_iff.1 hc
      rw [List.singleton_append, List.forall_mem_cons, UInt8.toNat_ofNat',
        Nat.mod_eq_of_lt (hlt.trans_le hlimit)]
      exact ⟨hlt, ih⟩
  · intro h
    induction bs with
    | nil => exact ⟨[], .nil⟩
    | cons b bs ih =>
      rw [List.forall_mem_cons] at h
      obtain ⟨t, ht⟩ := ih h.2
      refine ⟨Char.ofNat b.toNat :: t, .cons (b := [b]) ?_ ht⟩
      rw [byte?_eq_some_iff, toNat_ofNat_of_byte (h.1.trans_le hlimit), UInt8.ofNat_toNat]
      exact ⟨h.1, rfl⟩

/-! ## All encodings -/

theorem wellFormed_ascii_iff (bs : Bytes) : ascii.WellFormed bs ↔ ∀ b ∈ bs, b.toNat < 0x80 := by
  rw [← spelled_byte_iff (by decide)]
  exact exists_congr fun t => spells_byte_iff.symm

/-- Every file is a text in Latin-1. -/
theorem wellFormed_latin1 (bs : Bytes) : latin1.WellFormed bs := by
  obtain ⟨t, ht⟩ := (spelled_byte_iff le_rfl).2 fun b (_ : b ∈ bs) => b.toNat_lt
  exact ⟨t, spells_byte_iff.1 ht⟩

/-- An encoding without a mark is read character by character. -/
theorem exists_reads {e : Encoding} (he : e ≠ markedUtf8) :
    ∃ bytes? read, Reads bytes? read ∧ (∀ bs, e.decode bs = read 0 bs) ∧
      ∀ t bs, e.encode? t = some bs ↔ Spells bytes? t bs := by
  cases e with
  | utf8 =>
    refine ⟨_, _, Utf8.reads_decodeFrom, fun _ => rfl, ?_⟩
    intro t bs
    rw [Utf8.spells_iff, encode?, Option.some.injEq]
  | markedUtf8 => exact absurd rfl he
  | ascii => exact ⟨_, _, reads_widen (by decide), fun _ => rfl, fun _ _ => spells_byte_iff.symm⟩
  | latin1 => exact ⟨_, _, reads_widen le_rfl, fun _ => rfl, fun _ _ => spells_byte_iff.symm⟩

theorem decode_eq_ok_iff {e : Encoding} (he : e ≠ markedUtf8) {bs : Bytes} {t : Text} :
    e.decode bs = .ok t ↔ e.encode? t = some bs := by
  obtain ⟨bytes?, read, hreads, hdecode, hencode⟩ := exists_reads he
  rw [hdecode, hencode, hreads.eq_ok_iff]

theorem withoutMark_append (bs : Bytes) : withoutMark (byteOrderMark ++ bs) = bs := by
  rw [withoutMark]
  split
  · rename_i h
    -- nothing is longer than the mark and a part of it
    rw [List.isPrefixOf_iff_prefix] at h
    have hlength := h.length_le
    rw [List.length_append] at hlength
    exact (List.eq_nil_of_length_eq_zero (by omega)).symm
  · rw [if_pos (by simp), List.drop_left]

/-- What has been written is read back. -/
theorem decode_of_encode? {e : Encoding} {t : Text} {bs : Bytes} (h : e.encode? t = some bs) :
    e.decode bs = .ok t := by
  by_cases he : e = markedUtf8
  · subst he
    cases h
    rw [decode, withoutMark_append]
    exact (decode_eq_ok_iff (e := utf8) (by decide)).2 rfl
  · exact (decode_eq_ok_iff he).2 h

/-- What an encoding puts in front of every text, the empty one included. -/
def mark : Encoding → Bytes
  | markedUtf8 => [0xef, 0xbb, 0xbf]
  | utf8 | ascii | latin1 => []

/-- The bytes of a character, if the encoding has it. -/
def charBytes : Encoding → Char → Bytes
  | utf8, c | markedUtf8, c => String.utf8EncodeChar c
  | ascii, c | latin1, c => [UInt8.ofNat c.toNat]

/-- A text is encoded as a whole or not at all, and character by character. -/
theorem encode?_eq_some_iff {e : Encoding} {t : Text} {bs : Bytes} :
    e.encode? t = some bs ↔ (∀ c ∈ t, e.Has c) ∧ bs = e.mark ++ t.flatMap e.charBytes := by
  cases e with
  | utf8 =>
    rw [encode?, Option.some.injEq, eq_comm]
    exact (and_iff_right fun _ _ => trivial).symm
  | markedUtf8 =>
    rw [encode?, Option.some.injEq, eq_comm]
    exact (and_iff_right fun _ _ => trivial).symm
  | ascii => exact narrow?_eq_some_iff
  | latin1 => exact narrow?_eq_some_iff

end Encoding

end BrainfuckC
