import BrainfuckC.Program
import Mathlib.Data.List.DropRight

/-!
# Lines and locations

The location behind a text is found without passing it: its line is the number
of line feeds, and its column is the length of what follows the last of them
(`advance_start`). A text that is put behind another one goes on with the last
line of that one and leaves the lines before it as they are (`lines_append`), so
what stands behind a text `s` stands in `s ++ t` where counting says
(`charAt?_advance`), and it can be taken out there (`eraseAt_advance`).
-/

namespace BrainfuckC

namespace Text

/-- What follows the last line feed. -/
def lastLine (t : Text) : Text := t.rtakeWhile (· ≠ '\n')

@[simp] theorem lastLine_nil : lastLine [] = [] := rfl

theorem lastLine_concat_newline (t : Text) : lastLine (t ++ ['\n']) = [] :=
  List.rtakeWhile_concat_neg _ _ _ (by simp)

theorem lastLine_concat_of_ne {c : Char} (hc : c ≠ '\n') (t : Text) :
    lastLine (t ++ [c]) = t.lastLine ++ [c] :=
  List.rtakeWhile_concat_pos _ _ _ (by simpa using hc)

theorem lines_newline_cons (t : Text) : lines ('\n' :: t) = [] :: t.lines :=
  splitOn_cons_self '\n' t

theorem lines_cons_of_ne {c : Char} (hc : c ≠ '\n') (t : Text) :
    lines (c :: t) = t.lines.modifyHead (c :: ·) := by
  obtain ⟨piece, pieces, ht, hct⟩ := splitOn_cons_of_ne hc t
  rw [lines, lines, ht, hct, List.modifyHead_cons]

theorem unlines_lines (t : Text) : unlines t.lines = t :=
  intercalate_splitOn '\n' t

theorem modifyHead_nil_append (ls : List Text) : ls.modifyHead ([] ++ ·) = ls :=
  congrFun List.modifyHead_id ls

/-- The last line of a text is the beginning of the first line of what is put
behind it. -/
theorem lines_append (s t : Text) :
    lines (s ++ t) = s.lines.dropLast ++ t.lines.modifyHead (s.lastLine ++ ·) := by
  induction s using List.reverseRecOn generalizing t with
  | nil => exact (modifyHead_nil_append t.lines).symm
  | append_singleton s c ih =>
    rw [List.append_assoc, List.singleton_append, ih, ih [c]]
    by_cases hc : c = '\n'
    · subst hc
      rw [lines_newline_cons, lines_newline_cons, lastLine_concat_newline, modifyHead_nil_append]
      simp [lines]
    · rw [lines_cons_of_ne hc, lines_cons_of_ne hc, lastLine_concat_of_ne hc]
      simp [lines, Function.comp_def]

theorem length_dropLast_lines (s : Text) : s.lines.dropLast.length = s.count '\n' := by
  rw [List.length_dropLast]
  induction s with
  | nil => rfl
  | cons c s ih =>
    by_cases hc : c = '\n'
    · subst hc
      have hpos : 0 < (lines s).length := List.length_pos_iff.2 (splitOn_ne_nil '\n' s)
      rw [lines_newline_cons, List.count_cons_self, List.length_cons]
      omega
    · rw [lines_cons_of_ne hc, List.count_cons_of_ne hc, ← ih, List.length_modifyHead]

/-- The character at a location, if there is one. -/
def charAt? (t : Text) (l : Location) : Option Char :=
  if 1 ≤ l.line ∧ 1 ≤ l.column then
    (t.lines[(l.line - 1).toNat]?).bind (·[(l.column - 1).toNat]?)
  else none

theorem charAt?_eq_some_iff {t : Text} {l : Location} {c : Char} :
    t.charAt? l = some c ↔ (1 ≤ l.line ∧ 1 ≤ l.column) ∧
      ∃ s, t.lines[(l.line - 1).toNat]? = some s ∧ s[(l.column - 1).toNat]? = some c := by
  by_cases h : 1 ≤ l.line ∧ 1 ≤ l.column
  · rw [charAt?, if_pos h, Option.bind_eq_some_iff, and_iff_right h]
  · rw [charAt?, if_neg h]
    exact iff_of_false nofun fun hc => h hc.1

/-- A text without the character at a location. -/
def eraseAt (t : Text) (l : Location) : Text :=
  unlines (t.lines.modify (l.line - 1).toNat (·.eraseIdx (l.column - 1).toNat))

end Text

open Text

namespace Location

theorem advance_start (s : Text) :
    start.advance s = ⟨1 + s.count '\n', 1 + s.lastLine.length⟩ := by
  induction s using List.reverseRecOn with
  | nil => rfl
  | append_singleton s c ih =>
    rw [advance_append, ih, advance_cons, advance_nil, List.count_append]
    by_cases hc : c = '\n'
    · subst hc
      rw [next_newline, lastLine_concat_newline, List.count_singleton_self]
      simp [Int.add_assoc]
    · rw [next_of_ne hc, lastLine_concat_of_ne hc, List.count_singleton, List.length_append]
      simp [hc, Int.add_assoc]

theorem toNat_line_advance_start (s : Text) :
    ((start.advance s).line - 1).toNat = s.lines.dropLast.length := by
  rw [advance_start, length_dropLast_lines]
  change (1 + (s.count '\n' : Int) - 1).toNat = s.count '\n'
  omega

theorem toNat_column_advance_start (s : Text) :
    ((start.advance s).column - 1).toNat = s.lastLine.length := by
  rw [advance_start]
  change (1 + (s.lastLine.length : Int) - 1).toNat = s.lastLine.length
  omega

theorem one_le_advance_start (s : Text) :
    1 ≤ (start.advance s).line ∧ 1 ≤ (start.advance s).column := by
  rw [advance_start]
  exact ⟨Int.le_add_of_nonneg_right (Int.natCast_nonneg _),
    Int.le_add_of_nonneg_right (Int.natCast_nonneg _)⟩

end Location

namespace Text

variable {c : Char} (hc : c ≠ '\n') (s t : Text)
include hc

/-- The line on which a character stands between two texts, and what is left of
it without the character. -/
theorem exists_lines_append_cons :
    ∃ first rest, lines (s ++ c :: t) = s.lines.dropLast ++ (s.lastLine ++ c :: first) :: rest ∧
      lines (s ++ t) = s.lines.dropLast ++ (s.lastLine ++ first) :: rest := by
  obtain ⟨first, rest, ht, hct⟩ := splitOn_cons_of_ne hc t
  refine ⟨first, rest, ?_, ?_⟩
  · rw [lines_append, lines, lines, hct, List.modifyHead_cons]
  · rw [lines_append, lines, lines, ht, List.modifyHead_cons]

theorem charAt?_advance : charAt? (s ++ c :: t) (Location.start.advance s) = some c := by
  obtain ⟨first, rest, hlines, -⟩ := exists_lines_append_cons hc s t
  rw [charAt?, if_pos (Location.one_le_advance_start s), hlines, Location.toNat_line_advance_start,
    Location.toNat_column_advance_start, List.getElem?_append_right le_rfl, Nat.sub_self,
    List.getElem?_cons_zero, Option.bind_some, List.getElem?_append_right le_rfl,
    Nat.sub_self, List.getElem?_cons_zero]

theorem eraseAt_advance : eraseAt (s ++ c :: t) (Location.start.advance s) = s ++ t := by
  obtain ⟨first, rest, hlines, hwithout⟩ := exists_lines_append_cons hc s t
  have hcolumn : (s.lastLine ++ c :: first).eraseIdx s.lastLine.length = s.lastLine ++ first := by
    rw [List.eraseIdx_append_of_length_le le_rfl, Nat.sub_self, List.eraseIdx_cons_zero]
  have hline : (s.lines.dropLast ++ (s.lastLine ++ c :: first) :: rest).modify
      s.lines.dropLast.length (·.eraseIdx s.lastLine.length) =
        s.lines.dropLast ++ (s.lastLine ++ first) :: rest := by
    rw [List.modify_eq_take_drop, List.take_left, List.drop_left, List.modifyHead_cons, hcolumn]
  rw [eraseAt, hlines, Location.toNat_line_advance_start, Location.toNat_column_advance_start,
    hline, ← hwithout, unlines_lines]

end Text

/-- An instruction has its symbol in the text, at its location. -/
theorem Program.exists_eq_append_of_scanFrom_eq {l : Location} {t : Text} {p q : Program}
    {i : Instruction} (h : scanFrom l t = p ++ i :: q) :
    ∃ before after : Text, t = before ++ i.op.symbol :: after ∧ scanFrom l before = p ∧
      l.advance before = i.location := by
  induction t generalizing l p with
  | nil => simp at h
  | cons c t ih =>
    cases hc : Op.ofChar? c with
    | none =>
      rw [scanFrom_cons_of_none hc] at h
      obtain ⟨before, after, rfl, hp, hl⟩ := ih h
      exact ⟨c :: before, after, rfl, by rw [scanFrom_cons_of_none hc, hp], hl⟩
    | some o =>
      rw [scanFrom_cons_of_some hc] at h
      cases p with
      | nil =>
        obtain ⟨rfl, -⟩ := List.cons.inj h
        exact ⟨[], t, by rw [Op.ofChar?_eq_some_iff.1 hc]; rfl, rfl, rfl⟩
      | cons j p =>
        obtain ⟨rfl, htail⟩ := List.cons.inj h
        obtain ⟨before, after, rfl, hp, hl⟩ := ih htail
        exact ⟨c :: before, after, rfl, by rw [scanFrom_cons_of_some hc, hp], hl⟩

end BrainfuckC
