import BrainfuckC.Text

/-!
# UTF-8

A character is encoded by one to four bytes, the first of which tells how many.
The reader computes the number that such a sequence carries and then compares the
sequence with the encoding of that number. So a sequence is read exactly if it is
the encoding of some character, and no table of forbidden forms is needed:
overlong and truncated sequences, surrogates and numbers out of range are no
encodings of the character that they would stand for.

`decodeFrom` passes the bytes once. What is carried along is the number of bytes
behind it and how many bytes of the last character are still to be passed over,
so the recursion is on the bytes themselves.
-/

namespace BrainfuckC

abbrev Bytes := List UInt8

namespace Utf8

def encode (t : Text) : Bytes := t.flatMap String.utf8EncodeChar

@[simp] theorem encode_nil : encode [] = [] := rfl

@[simp] theorem encode_cons (c : Char) (t : Text) :
    encode (c :: t) = String.utf8EncodeChar c ++ encode t := rfl

theorem encode_append (s t : Text) : encode (s ++ t) = encode s ++ encode t :=
  List.flatMap_append

/-- How many bytes a first byte announces, itself included. -/
def width (lead : UInt8) : Nat :=
  if lead < 0x80 then 1 else if lead < 0xe0 then 2 else if lead < 0xf0 then 3 else 4

/-- The number that a sequence of bytes carries: all bits but those that mark
the first byte and the bytes that follow it. -/
def payload : Bytes → Nat
  | [a] => a.toNat
  | [a, b] => a.toNat % 0x20 * 0x40 + b.toNat % 0x40
  | [a, b, c] => a.toNat % 0x10 * 0x1000 + b.toNat % 0x40 * 0x40 + c.toNat % 0x40
  | [a, b, c, d] =>
    a.toNat % 0x8 * 0x40000 + b.toNat % 0x40 * 0x1000 + c.toNat % 0x40 * 0x40 + d.toNat % 0x40
  | _ => 0

/-- The character that is encoded at the front. -/
def head? : Bytes → Option Char
  | [] => none
  | lead :: rest =>
    let sequence := (lead :: rest).take (width lead)
    let c := Char.ofNat (payload sequence)
    if String.utf8EncodeChar c = sequence then some c else none

/-- What is read at the front is its own encoding. -/
theorem eq_append_of_head?_eq_some {bs : Bytes} {c : Char} (h : head? bs = some c) :
    ∃ rest, bs = String.utf8EncodeChar c ++ rest := by
  cases bs with
  | nil => simp [head?] at h
  | cons lead rest =>
    simp only [head?, Option.ite_none_right_eq_some, Option.some.injEq] at h
    obtain ⟨hseq, rfl⟩ := h
    exact ⟨(lead :: rest).drop (width lead), by rw [hseq, List.take_append_drop]⟩

/-- Reads the bytes from `offset` on, after passing over the `skip` bytes that
are left of the character before. The error is the offset of the first byte that
begins no character. -/
def decodeFrom (offset skip : Nat) : Bytes → Except Nat Text
  | [] => .ok []
  | b :: bs =>
    match skip with
    | skip + 1 => decodeFrom (offset + 1) skip bs
    | 0 =>
      match head? (b :: bs) with
      | some c => (decodeFrom (offset + 1) (width b - 1) bs).map (c :: ·)
      | none => .error offset

def decode (bs : Bytes) : Except Nat Text := decodeFrom 0 0 bs

@[simp] theorem decodeFrom_nil (offset skip : Nat) : decodeFrom offset skip [] = .ok [] := rfl

/-- The bytes to be passed over are not looked at. -/
theorem decodeFrom_append (offset : Nat) (passed bs : Bytes) :
    decodeFrom offset passed.length (passed ++ bs) =
      decodeFrom (offset + passed.length) 0 bs := by
  induction passed generalizing offset with
  | nil => rfl
  | cons b passed ih =>
    have h := ih (offset + 1)
    rw [Nat.add_assoc, Nat.add_comm 1] at h
    exact h

end Utf8

end BrainfuckC
