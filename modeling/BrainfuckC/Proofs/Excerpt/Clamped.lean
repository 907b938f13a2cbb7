import BrainfuckC.Proofs.Excerpt.Window
import Mathlib.Data.Int.Range

/-!
# Excerpts around any line

An excerpt may be asked for with any line, column and radius. The focus is held inside
of the source, and so are both ends of the window around it; where there is nothing to
be shown, the window is empty. So every number in the window is that of a line, and the
rows are found by looking up the lines number by number
(`Excerpt.rows_eq_flatMap_window`), which never looks outside of the source.

The numbers are integers here, as the ends of the window are computed from integers.
None of them is below one, so it makes no difference what a list has at such a number.
-/

namespace BrainfuckC

theorem range_natCast_eq_map_Ico (a b : Nat) :
    Int.range a b = (List.Ico a b).map fun i : Nat => (i : Int) := by
  have hcount : ((b : Int) - a).toNat = b - a := by omega
  rw [Int.range, List.Ico, List.range'_eq_map_range, List.map_map, hcount]
  apply List.map_congr_left
  intro r _
  exact (Int.natCast_add a r).symm

namespace Excerpt

variable {lines : List Text} {line radius : Int} {column : Option Int} {count : Nat}

/-- The numbers of the lines that are no farther from the focus than the radius. -/
def window (count : Nat) (line radius : Int) : List Int :=
  Int.range (max 1 (focus count line - radius))
    (min (count : Int) (focus count line + radius) + 1)

theorem window_eq_nil (h : count = 0 ∨ radius < 0) : window count line radius = [] := by
  rw [List.eq_nil_iff_forall_not_mem]
  intro i hi
  rw [window, Int.mem_range_iff] at hi
  omega

theorem one_le_and_le_of_mem_window {i : Int} (h : i ∈ window count line radius) :
    1 ≤ i ∧ i ≤ count := by
  rw [window, Int.mem_range_iff] at h
  omega

theorem length_window_le (hradius : 0 ≤ radius) :
    ((window count line radius).length : Int) ≤ 2 * radius + 1 := by
  rw [window, Int.range, List.length_map, List.length_range]
  omega

theorem rows_eq_nil (h : lines = [] ∨ radius < 0) : rows lines line column radius = [] := by
  rcases h with rfl | hradius
  · rfl
  · rw [rows, List.flatMap_eq_nil_iff]
    rintro ⟨text, number⟩ -
    exact if_neg (by omega)

/-- The rows are found number by number. -/
theorem rows_eq_flatMap_window (lines : List Text) (line : Int) (column : Option Int)
    (radius : Int) :
    rows lines line column radius = (window lines.length line radius).flatMap fun i =>
      .quoted (i = focus lines.length line) i.toNat (lines.getD (i.toNat - 1) []) ::
        if i = focus lines.length line then caretRows column else [] := by
  by_cases h : lines = [] ∨ radius < 0
  · rw [rows_eq_nil h, window_eq_nil (h.imp_left List.length_eq_zero_iff.2)]
    rfl
  · rw [not_or, Int.not_lt] at h
    obtain ⟨hone, hcount⟩ := focus_mem (List.length_pos_iff.2 h.1) line
    -- both ends are numbers of lines, and the focus is between them
    obtain ⟨first, hfirst⟩ : ∃ first : Nat, max 1 (focus lines.length line - radius) = first :=
      ⟨_, (Int.toNat_of_nonneg (by omega)).symm⟩
    obtain ⟨last, hlast⟩ :
        ∃ last : Nat, min (lines.length : Int) (focus lines.length line + radius) = last :=
      ⟨_, (Int.toNat_of_nonneg (by omega)).symm⟩
    have hend : (last : Int) + 1 = (last + 1 : Nat) := rfl
    have hwindow (i : Nat) (_ : 1 ≤ i) (_ : i ≤ lines.length) :
        focus lines.length line - radius ≤ i ∧ i ≤ focus lines.length line + radius ↔
          first ≤ i ∧ i ≤ last := by
      omega
    rw [rows_eq_flatMap_Ico (by omega) (by omega) (by omega) hwindow, window, hfirst, hlast,
      hend, range_natCast_eq_map_Ico, List.flatMap_map]
    rfl

/-- The number of a line is never out of range, so the text in its place is never used. -/
theorem getElem?_eq_getD {i : Int} (hone : 1 ≤ i) (hcount : i ≤ lines.length) :
    lines[(i - 1).toNat]? = some (lines.getD (i.toNat - 1) []) := by
  have hlt : (i - 1).toNat < lines.length := by omega
  have hindex : i.toNat - 1 = (i - 1).toNat := by omega
  rw [hindex, List.getD_eq_getElem?_getD, List.getElem?_eq_getElem hlt, Option.getD_some]

/-- The number that a row shows. -/
def Row.number? : Row → Option Int
  | quoted _ number _ => some number
  | caret _ => none

theorem filterMap_number?_caretRows (column : Option Int) :
    (caretRows column).filterMap Row.number? = [] := by
  rw [List.filterMap_eq_nil_iff]
  intro row hrow
  obtain ⟨c, rfl⟩ := eq_caret_of_mem_caretRows hrow
  rfl

/-- The numbers that are shown are those of the window, each of them once and in
order. -/
theorem filterMap_number?_rows (lines : List Text) (line : Int) (column : Option Int)
    (radius : Int) :
    (rows lines line column radius).filterMap Row.number? =
      window lines.length line radius := by
  rw [rows_eq_flatMap_window, List.filterMap_flatMap]
  conv_rhs => rw [← List.flatMap_singleton' (window lines.length line radius)]
  apply List.flatMap_congr
  intro i hi
  have hcaret : (if i = focus lines.length line then caretRows column else []).filterMap
      Row.number? = [] := by
    split
    · exact filterMap_number?_caretRows column
    · rfl
  have hnumber (marked : Bool) (text : Text) : (Row.quoted marked i.toNat text).number? = some i := by
    rw [Row.number?, Int.toNat_of_nonneg]
    exact Int.le_of_lt (one_le_and_le_of_mem_window hi).1
  rw [List.filterMap_cons_some (hnumber _ _), hcaret]

theorem caretRows_cases (column : Option Int) :
    (∃ c, column = some c ∧ 1 ≤ c ∧ caretRows column = [.caret c]) ∨
      (∀ c, column = some c → c < 1) ∧ caretRows column = [] := by
  cases column with
  | none =>
    refine .inr ⟨?_, rfl⟩
    rintro c ⟨⟩
  | some c =>
    by_cases hc : 1 ≤ c
    · exact .inl ⟨c, rfl, hc, if_pos hc⟩
    · refine .inr ⟨?_, if_neg hc⟩
      rintro c' ⟨⟩
      exact Int.not_le.1 hc

/-- What an excerpt shows, whatever it is asked for.

The lines are looked up by the numbers from `first` to `last`, each of which is the number
of a line, and these are the numbers that are shown, one after the other. If there are
lines and the radius is not negative, one row is marked, in the text by its first
character, and it is the one of the line in focus; a caret row comes directly below it if
a column is given that is not left of the line, and there is no other. Otherwise the
excerpt is empty. -/
theorem rows_of_clamped_window (lines : List Text) (line : Int) (column : Option Int)
    (radius : Int) :
    let n : Int := lines.length
    let center : Int := min (max 1 line) (max 1 n)
    let first : Int := max 1 (center - radius)
    let last : Int := min n (center + radius)
    let shown := rows lines line column radius
    (∃ text : Int → Text,
      (∀ i, first ≤ i → i ≤ last → 1 ≤ i ∧ i ≤ n ∧ lines[(i - 1).toNat]? = some (text i)) ∧
      shown = (Int.range first (last + 1)).flatMap fun i =>
        .quoted (i = center) i.toNat (text i) :: if i = center then caretRows column else []) ∧
    shown.filterMap Row.number? = Int.range first (last + 1) ∧
    (lines ≠ [] → 0 ≤ radius →
      ((shown.filterMap Row.number?).length : Int) ≤ 2 * radius + 1 ∧
      ∃ text carets above below, lines[(center - 1).toNat]? = some text ∧
        shown = above ++ .quoted true center.toNat text :: (carets ++ below) ∧
        (∀ row ∈ above ++ below, ∃ number text, row = .quoted false number text) ∧
        ((∃ c, column = some c ∧ 1 ≤ c ∧ carets = [.caret c]) ∨
          (∀ c, column = some c → c < 1) ∧ carets = []) ∧
        (shown.map Row.render).filter (·.head? = some '>') =
          [(Row.quoted true center.toNat text).render]) ∧
    (lines = [] ∨ radius < 0 → render lines line column radius = []) := by
  intro n center first last shown
  have hnumbers : shown.filterMap Row.number? = Int.range first (last + 1) :=
    filterMap_number?_rows lines line column radius
  refine ⟨?_, hnumbers, ?_, ?_⟩
  · refine ⟨fun i => lines.getD (i.toNat - 1) [], ?_, rows_eq_flatMap_window lines line column radius⟩
    intro i hfirst hlast
    have hone : 1 ≤ i := by omega
    have hn : i ≤ n := by omega
    exact ⟨hone, hn, getElem?_eq_getD hone hn⟩
  · intro hlines hradius
    obtain ⟨before, text, after, happend, hfocus⟩ := exists_eq_append_focus hlines line
    obtain ⟨above, below, hrows, hothers⟩ :=
      exists_rows_eq_around happend hfocus hradius column
    have hcenter : center.toNat = before.length + 1 := by
      rw [show center = focus lines.length line from rfl, hfocus]
      rfl
    have hindex : (center - 1).toNat = before.length := by omega
    refine ⟨?_, text, caretRows column, above, below, ?_, ?_, hothers, caretRows_cases column, ?_⟩
    · rw [hnumbers]
      exact length_window_le hradius
    · rw [hindex, happend, List.getElem?_append_right le_rfl, Nat.sub_self]
      rfl
    · rw [hcenter]
      exact hrows
    · rw [filter_map_render, filter_isMarked_rows happend hfocus hradius, hcenter]
      rfl
  · intro h
    rw [render, rows_eq_nil h]
    rfl

/-- The line asked for is behind the end of the source, and the line in focus holds a line
feed. -/
theorem rows_of_clamped_window_past_end :
    let lines : List Text := ["+".toList, "[\n".toList]
    let shown := rows lines 99 (some 2) 100000000000000000000
    shown.filterMap Row.number? = [1, 2] ∧
    (∃ above below, shown = above ++ .quoted true 2 "[\n".toList :: .caret 2 :: below) ∧
    render lines 99 (some 2) 100000000000000000000 =
      "     1 | +\n>    2 | [\n\n       |  ^".toList ∧
    render lines (-7) (some 1) (-1) = [] := by
  intro lines shown
  obtain ⟨-, hnumbers, hmarked, -⟩ :=
    rows_of_clamped_window lines 99 (some 2) 100000000000000000000
  obtain ⟨-, -, -, hempty⟩ := rows_of_clamped_window lines (-7) (some 1) (-1)
  obtain ⟨-, text, carets, above, below, htext, hshown, -, hcarets, -⟩ :=
    hmarked (by decide) (by decide)
  refine ⟨hnumbers.trans (by decide), ⟨above, below, ?_⟩, by decide, hempty (.inr (by decide))⟩
  obtain rfl : "[\n".toList = text := Option.some.inj htext
  obtain ⟨c, hc, -, rfl⟩ | ⟨hnone, -⟩ := hcarets
  · obtain rfl : 2 = c := Option.some.inj hc
    exact hshown
  · exact absurd (hnone 2 rfl) (by decide)

end Excerpt

end BrainfuckC
