import BrainfuckC.Proofs.List
import BrainfuckC.Proofs.Location.Layout

/-!
# Positions and locations

A position counts all characters in front of it, a location counts lines and the
characters of one line. The location at a position is found by counting alone: the
line feeds in front of it give the line, and the distance from the last of them
gives the column (`Text.locationAt`). One character further it is the next location
(`Text.locationAt_succ`), so this is where a scan has got to when it has passed as
many characters (`Text.locationAt_eq_advance`).

A text has one instruction for each position at which a symbol stands, located at
that position. Nothing but a line feed ends a line, whatever else a text may hold:
every other character is found on its line at the location that counting gives
(`Program.ofText_eq_filterMap_locationAt`).
-/

namespace BrainfuckC

namespace Text

/-- Where the line of the position `k` begins: directly behind the last line feed in
front of `k`, or at the beginning of the text. -/
def lineStart (t : Text) (k : Nat) : Nat :=
  match ((List.range k).filter fun j => t[j]? = some '\n').getLast? with
  | some j => j + 1
  | none => 0

/-- The location of the position `k`. -/
def locationAt (t : Text) (k : Nat) : Location :=
  ⟨1 + (t.take k).count '\n', k + 1 - t.lineStart k⟩

@[simp] theorem lineStart_zero (t : Text) : t.lineStart 0 = 0 := rfl

theorem lineStart_succ_of_newline {t : Text} {k : Nat} (h : t[k]? = some '\n') :
    t.lineStart (k + 1) = k + 1 := by
  rw [lineStart, List.range_succ, List.filter_append, List.filter_singleton, decide_eq_true h,
    cond_true, List.getLast?_concat]

theorem lineStart_succ_of_ne {t : Text} {k : Nat} (h : t[k]? ≠ some '\n') :
    t.lineStart (k + 1) = t.lineStart k := by
  rw [lineStart, List.range_succ, List.filter_append, List.filter_singleton, decide_eq_false h,
    cond_false, List.append_nil, ← lineStart]

@[simp] theorem locationAt_zero (t : Text) : t.locationAt 0 = .start := rfl

/-- A character leads from the location of its position to the next one. -/
theorem locationAt_succ {t : Text} {k : Nat} {c : Char} (h : t[k]? = some c) :
    t.locationAt (k + 1) = (t.locationAt k).next c := by
  have hcount : (t.take (k + 1)).count '\n' = (t.take k).count '\n' + [c].count '\n' := by
    rw [List.take_add_one, h, Option.toList_some, List.count_append]
  by_cases hc : c = '\n'
  · subst hc
    rw [Location.next_newline, locationAt, locationAt, hcount, lineStart_succ_of_newline h,
      List.count_singleton_self]
    simp only [Location.mk.injEq]
    omega
  · have hne : t[k]? ≠ some '\n' := by rwa [h, Ne, Option.some.injEq]
    rw [Location.next_of_ne hc, locationAt, locationAt, hcount, lineStart_succ_of_ne hne,
      List.count_singleton]
    simp only [Location.mk.injEq, beq_iff_eq, hc, if_false]
    omega

/-- Counting finds the location to which passing leads. -/
theorem locationAt_eq_advance {t : Text} {k : Nat} (h : k ≤ t.length) :
    t.locationAt k = Location.start.advance (t.take k) := by
  induction k with
  | zero => rfl
  | succ k ih =>
    have hk := List.getElem?_eq_getElem h
    rw [locationAt_succ hk, ih (Nat.le_of_succ_le h), List.take_add_one, hk, Option.toList_some,
      Location.advance_append]
    rfl

/-- Every character that ends no line is found on its line, at its location. -/
theorem charAt?_locationAt {t : Text} {k : Nat} {c : Char} (h : t[k]? = some c)
    (hc : c ≠ '\n') : t.charAt? (t.locationAt k) = some c := by
  have hlt := (List.getElem?_eq_some_iff.1 h).1
  have hsplit := charAt?_advance hc (t.take k) (t.drop (k + 1))
  rwa [← eq_take_append_cons_drop h, ← locationAt_eq_advance hlt.le] at hsplit

end Text

namespace Program

/-- The instruction for the symbol at the position `k`, if there is a symbol. -/
def instructionAt? (t : Text) (k : Nat) : Option Instruction :=
  (t[k]?.bind Op.ofChar?).map (⟨·, t.locationAt k⟩)

theorem instructionAt?_eq_some_iff {t : Text} {k : Nat} {i : Instruction} :
    instructionAt? t k = some i ↔
      t[k]? = some i.op.symbol ∧ i.location = t.locationAt k := by
  simp only [instructionAt?, Option.map_eq_some_iff, Option.bind_eq_some_iff,
    Op.ofChar?_eq_some_iff]
  constructor
  · rintro ⟨o, ⟨c, hc, rfl⟩, rfl⟩
    exact ⟨hc, rfl⟩
  · rintro ⟨hc, hlocation⟩
    exact ⟨i.op, ⟨i.op.symbol, hc, rfl⟩, by rw [← hlocation]⟩

/-- Reading a text is looking at its positions one after the other. -/
theorem scanFrom_eq_filterMap (l : Location) (t : Text) :
    scanFrom l t = (List.range t.length).filterMap fun k =>
      (t[k]?.bind Op.ofChar?).map (⟨·, l.advance (t.take k)⟩) := by
  induction t generalizing l with
  | nil => rfl
  | cons c t ih =>
    -- the positions in `c :: t` are the first one and those in `t`, one further on
    rw [List.length_cons, List.range_succ_eq_map]
    cases hc : Op.ofChar? c with
    | none =>
      rw [scanFrom_cons_of_none hc, ih, List.filterMap_cons_none (by simp [hc]),
        List.filterMap_map]
      rfl
    | some o =>
      rw [scanFrom_cons_of_some hc, ih, List.filterMap_cons_some (b := ⟨o, l⟩) (by simp [hc]),
        List.filterMap_map]
      rfl

theorem ofText_eq_filterMap (t : Text) :
    ofText t = (List.range t.length).filterMap (instructionAt? t) := by
  rw [ofText, scanFrom_eq_filterMap]
  apply List.filterMap_congr
  intro k hk
  rw [instructionAt?, Text.locationAt_eq_advance (List.mem_range.1 hk).le]

theorem mem_ofText_iff {t : Text} {i : Instruction} :
    i ∈ ofText t ↔ ∃ k, t[k]? = some i.op.symbol ∧ i.location = t.locationAt k := by
  rw [ofText_eq_filterMap, List.mem_filterMap]
  constructor
  · rintro ⟨k, -, hk⟩
    exact ⟨k, instructionAt?_eq_some_iff.1 hk⟩
  · rintro ⟨k, hk⟩
    have hlt := (List.getElem?_eq_some_iff.1 hk.1).1
    exact ⟨k, List.mem_range.2 hlt, instructionAt?_eq_some_iff.2 hk⟩

/-- The instructions of a text are those of its positions, in order: one for each
position at which a symbol stands, and none besides. Each points at its own symbol
among the lines of the text, where every character but the line feed takes one column
and stays on its line. -/
theorem ofText_eq_filterMap_locationAt (t : Text) :
    ofText t = (List.range t.length).filterMap (instructionAt? t) ∧
    (∀ i, i ∈ ofText t ↔ ∃ k, t[k]? = some i.op.symbol ∧ i.location = t.locationAt k) ∧
    (∀ i ∈ ofText t, (1 ≤ i.location.line ∧ 1 ≤ i.location.column) ∧
      ∃ text, t.lines[(i.location.line - 1).toNat]? = some text ∧
        text[(i.location.column - 1).toNat]? = some i.op.symbol) ∧
    ∀ k c, t[k]? = some c → c ≠ '\n' →
      t.charAt? (t.locationAt k) = some c ∧
        t.locationAt (k + 1) = ⟨(t.locationAt k).line, (t.locationAt k).column + 1⟩ := by
  refine ⟨ofText_eq_filterMap t, fun i => mem_ofText_iff, ?_, ?_⟩
  · intro i hi
    exact Text.charAt?_eq_some_iff.1 (charAt?_of_mem_ofText hi)
  · intro k c hk hc
    refine ⟨Text.charAt?_locationAt hk hc, ?_⟩
    rw [Text.locationAt_succ hk, Location.next_of_ne hc]

/-- A carriage return, a line separator, a combining mark and an astral character are
passed before the bracket, which is the third character of the third line. -/
theorem ofText_eq_filterMap_locationAt_separators :
    let t : Text := "\r\u2028+\n\n\u0301😀[".toList
    ofText t = [⟨.increment, ⟨1, 3⟩⟩, ⟨.loopBegin, ⟨3, 3⟩⟩] ∧
      t.lines = ["\r\u2028+".toList, [], "\u0301😀[".toList] ∧
      t.locationAt 7 = ⟨3, 3⟩ ∧ t.charAt? (t.locationAt 1) = some '\u2028' ∧
      ∃ text, t.lines[2]? = some text ∧ text[2]? = some '[' := by
  intro t
  have h := ofText_eq_filterMap_locationAt t
  have hprogram : ofText t = [⟨.increment, ⟨1, 3⟩⟩, ⟨.loopBegin, ⟨3, 3⟩⟩] := by
    rw [h.1]
    decide
  have hseparator := h.2.2.2 1 '\u2028' (by decide) (by decide)
  have hbracket := h.2.2.1 ⟨.loopBegin, ⟨3, 3⟩⟩ (by simp [hprogram])
  exact ⟨hprogram, by decide, by decide, hseparator.1, hbracket.2⟩

end Program

end BrainfuckC
