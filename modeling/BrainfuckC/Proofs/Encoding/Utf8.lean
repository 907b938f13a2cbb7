import BrainfuckC.Proofs.Encoding.Reading

/-!
# Reading UTF-8

The first byte of a character tells how many bytes it has, and without the bits
that say so all of its bytes together carry its number
(`exists_utf8EncodeChar_eq`). So a character is found where its bytes begin, and
since the reader accepts nothing but the bytes of a character, it stops at all
else: bytes that are cut off, that take more room than their number needs, or
that carry the number of no character.
-/

namespace BrainfuckC

namespace Utf8

theorem width_ofNat {n : Nat} (h : n < 0x100) :
    width (UInt8.ofNat n) =
      if n < 0x80 then 1 else if n < 0xe0 then 2 else if n < 0xf0 then 3 else 4 := by
  have hlt (m : Nat) (hm : m < 0x100) : UInt8.ofNat n < UInt8.ofNat m ↔ n < m := by
    rw [UInt8.lt_iff_toNat_lt, UInt8.toNat_ofNat', UInt8.toNat_ofNat', Nat.mod_eq_of_lt h,
      Nat.mod_eq_of_lt hm]
  simp only [width, ← hlt 0x80 (by decide), ← hlt 0xe0 (by decide), ← hlt 0xf0 (by decide)]
  rfl

/-- The first byte of a character tells how many there are, and all of them
together carry its number. -/
theorem exists_utf8EncodeChar_eq (c : Char) :
    ∃ lead tail, String.utf8EncodeChar c = lead :: tail ∧ width lead = tail.length + 1 ∧
      payload (lead :: tail) = c.toNat := by
  have hc : c.val.toNat < 0x110000 := by
    rcases c.valid with h | h
    · exact h.trans (by decide)
    · exact h.2
  -- one case for each number of bytes; the bounds keep the first byte in its range
  rw [String.utf8EncodeChar]
  split
  · refine ⟨_, _, rfl, ?_, ?_⟩
    · rw [width_ofNat (by omega), if_pos (by omega), List.length_nil]
    · simp only [payload, UInt8.toNat_ofNat', Char.toNat]
      omega
  · split
    · refine ⟨_, _, rfl, ?_, ?_⟩
      · rw [width_ofNat (by omega), if_neg (by omega), if_pos (by omega), List.length_singleton]
      · simp only [payload, UInt8.toNat_ofNat', Char.toNat]
        omega
    · split
      · refine ⟨_, _, rfl, ?_, ?_⟩
        · rw [width_ofNat (by omega), if_neg (by omega), if_neg (by omega), if_pos (by omega)]
          rfl
        · simp only [payload, UInt8.toNat_ofNat', Char.toNat]
          omega
      · refine ⟨_, _, rfl, ?_, ?_⟩
        · rw [width_ofNat (by omega), if_neg (by omega), if_neg (by omega), if_neg (by omega)]
          rfl
        · simp only [payload, UInt8.toNat_ofNat', Char.toNat]
          omega

theorem utf8EncodeChar_ne_nil (c : Char) : String.utf8EncodeChar c ≠ [] := by
  obtain ⟨lead, tail, hc, -, -⟩ := exists_utf8EncodeChar_eq c
  rw [hc]
  exact List.cons_ne_nil lead tail

/-- A character is found where its bytes begin. -/
theorem head?_append (c : Char) (rest : Bytes) :
    head? (String.utf8EncodeChar c ++ rest) = some c := by
  obtain ⟨lead, tail, hc, hwidth, hpayload⟩ := exists_utf8EncodeChar_eq c
  have hsequence : (lead :: (tail ++ rest)).take (width lead) = lead :: tail := by
    rw [hwidth, List.take_succ_cons, List.take_left]
  rw [hc, List.cons_append, head?, hsequence, hpayload, Char.ofNat_toNat, if_pos hc]

/-- The bytes behind the first one of a character are passed over. -/
theorem decodeFrom_char_append (c : Char) (offset : Nat) (rest : Bytes) :
    decodeFrom offset 0 (String.utf8EncodeChar c ++ rest) =
      (decodeFrom (offset + (String.utf8EncodeChar c).length) 0 rest).map (c :: ·) := by
  have hhead := head?_append c rest
  obtain ⟨lead, tail, hc, hwidth, -⟩ := exists_utf8EncodeChar_eq c
  rw [hc, List.cons_append] at hhead ⊢
  rw [decodeFrom, hhead]
  dsimp only
  rw [hwidth, Nat.add_sub_cancel, decodeFrom_append, List.length_cons, Nat.add_assoc,
    Nat.add_comm 1]

theorem decodeFrom_of_head?_eq_none {bs : Bytes} (hne : bs ≠ []) (h : head? bs = none)
    (offset : Nat) : decodeFrom offset 0 bs = .error offset := by
  cases bs with
  | nil => exact absurd rfl hne
  | cons b bs => rw [decodeFrom, h]

theorem reads_decodeFrom :
    Encoding.Reads (some ∘ String.utf8EncodeChar) fun offset => decodeFrom offset 0 where
  ne_nil := by
    rintro c b ⟨⟩
    exact utf8EncodeChar_ne_nil c
  nil offset := decodeFrom_nil offset 0
  char := by
    rintro c b ⟨⟩
    exact decodeFrom_char_append c
  stop := by
    intro bs hne hstop offset
    apply decodeFrom_of_head?_eq_none hne
    rw [Option.eq_none_iff_forall_ne_some]
    intro c hc
    obtain ⟨rest, rfl⟩ := eq_append_of_head?_eq_some hc
    exact hstop c _ rfl (List.prefix_append _ _)

theorem spells_iff {t : Text} {bs : Bytes} :
    Encoding.Spells (some ∘ String.utf8EncodeChar) t bs ↔ encode t = bs := by
  constructor
  · intro h
    induction h with
    | nil => rfl
    | cons hc ht ih =>
      cases hc
      rw [encode_cons, ih]
  · rintro rfl
    induction t with
    | nil => exact .nil
    | cons c t ih => exact .cons rfl ih

end Utf8

end BrainfuckC
