import BrainfuckC.Diagnostic
import BrainfuckC.Proofs.List

/-!
# The rows of an excerpt

An excerpt is put together from rows, and it is taken apart into the same rows
again where it is cut at its line feeds, as no row holds one (`lines_render`).
Exactly one row is marked, the one that quotes the line in focus
(`filter_isMarked_rows`). In the text of a diagnostic it is told by its first
character (`Diagnostic.exists_markedRows`).
-/

namespace BrainfuckC

namespace Excerpt

def Row.isMarked : Row → Bool
  | quoted marked _ _ => marked
  | caret _ => false

/-- The line that is quoted, if there is one, is a single one. -/
def Row.OneLine : Row → Prop
  | quoted _ _ line => '\n' ∉ line
  | caret _ => True

theorem Row.head?_render (row : Row) :
    row.render.head? = some (if row.isMarked then '>' else ' ') := by
  cases row <;> rfl

theorem newline_not_mem_ofNat (n : Nat) : '\n' ∉ Decimal.ofNat n := by
  intro h
  exact absurd (Decimal.isDigit_of_mem_ofNat h) (by decide)

theorem Row.newline_not_mem_render {row : Row} (h : row.OneLine) : '\n' ∉ row.render := by
  cases row with
  | quoted marked number line =>
    have hline : '\n' ∉ line := h
    have hnumber := newline_not_mem_ofNat number
    cases marked <;> simp [render, bar, List.leftpad, hline, hnumber]
  | caret column => simp [render, bar]

variable {lines : List Text} {line radius : Int} {column : Option Int}

theorem eq_caret_of_mem_caretRows {row : Row} (h : row ∈ caretRows column) :
    ∃ c, row = .caret c := by
  cases column with
  | none => cases h
  | some column =>
    rw [caretRows] at h
    split at h
    · exact ⟨column, List.mem_singleton.1 h⟩
    · cases h

/-- A line is quoted in one row, and all other rows that it has are caret rows. -/
theorem eq_of_mem_rowsOfLine {center : Int} {number : Nat} {text : Text} {row : Row}
    (h : row ∈ rowsOfLine center radius column number text) :
    row = .quoted (number = center) number text ∨ ∃ c, row = .caret c := by
  rw [rowsOfLine] at h
  split at h
  · rcases List.mem_cons.1 h with h | h
    · exact .inl h
    · split at h
      · exact .inr (eq_caret_of_mem_caretRows h)
      · cases h
  · cases h

theorem oneLine_of_mem_rows (h : ∀ l ∈ lines, '\n' ∉ l) {row : Row}
    (hrow : row ∈ rows lines line column radius) : row.OneLine := by
  obtain ⟨⟨text, number⟩, hmem, hrow⟩ := List.mem_flatMap.1 hrow
  rcases eq_of_mem_rowsOfLine hrow with rfl | ⟨c, rfl⟩
  · exact h text (List.fst_mem_of_mem_zipIdx hmem)
  · trivial

/-! ## The marked row -/

theorem rowsOfLine_self (hradius : 0 ≤ radius) (column : Option Int) (number : Nat)
    (text : Text) :
    rowsOfLine number radius column number text =
      .quoted true number text :: caretRows column := by
  rw [rowsOfLine, if_pos (by omega), if_pos rfl, decide_eq_true rfl]

/-- A line that is not in focus is quoted without a mark, if it is shown at all. -/
theorem eq_quoted_of_mem_rowsOfLine {center : Int} {number : Nat} {text : Text} {row : Row}
    (hne : number ≠ center) (h : row ∈ rowsOfLine center radius column number text) :
    row = .quoted false number text := by
  rw [rowsOfLine, if_neg hne, decide_eq_false hne] at h
  split at h
  · exact List.mem_singleton.1 h
  · cases h

/-- The line in focus is quoted in a marked row, and the caret row is next to it. All
other rows quote other lines. -/
theorem exists_rows_eq_around {before after : List Text} {text : Text}
    (hlines : lines = before ++ text :: after)
    (hfocus : focus lines.length line = before.length + 1) (hradius : 0 ≤ radius)
    (column : Option Int) :
    ∃ above below, rows lines line column radius =
        above ++ .quoted true (before.length + 1) text :: (caretRows column ++ below) ∧
      ∀ row ∈ above ++ below, ∃ number text, row = .quoted false number text := by
  have houtside (part : List (Text × Nat)) (h : ∀ x ∈ part, x.2 ≠ before.length + 1) :
      ∀ row ∈ part.flatMap (fun x => rowsOfLine (before.length + 1) radius column x.2 x.1),
        ∃ number text, row = .quoted false number text := by
    intro row hrow
    obtain ⟨x, hx, hrow⟩ := List.mem_flatMap.1 hrow
    have hne : (x.2 : Int) ≠ before.length + 1 := by exact_mod_cast h x hx
    exact ⟨_, _, eq_quoted_of_mem_rowsOfLine hne hrow⟩
  have hbefore := houtside (before.zipIdx 1) fun x hx => by
    have hlt := List.snd_lt_add_of_mem_zipIdx hx
    omega
  have hafter := houtside (after.zipIdx (before.length + 1 + 1)) fun x hx => by
    have hle := List.le_snd_of_mem_zipIdx hx
    omega
  have hself := rowsOfLine_self hradius column (before.length + 1) text
  push_cast at hself
  rw [rows, hfocus, hlines, List.zipIdx_append, List.zipIdx_cons, List.flatMap_append,
    List.flatMap_cons, Nat.add_comm 1]
  dsimp only
  rw [hself]
  refine ⟨_, _, rfl, ?_⟩
  intro row hrow
  exact (List.mem_append.1 hrow).elim (hbefore row) (hafter row)

/-- Exactly one row is marked, and it quotes the line in focus. -/
theorem filter_isMarked_rows {before after : List Text} {text : Text}
    (hlines : lines = before ++ text :: after)
    (hfocus : focus lines.length line = before.length + 1) (hradius : 0 ≤ radius) :
    (rows lines line column radius).filter Row.isMarked =
      [.quoted true (before.length + 1) text] := by
  obtain ⟨above, below, hrows, hothers⟩ := exists_rows_eq_around hlines hfocus hradius column
  have hnone (part : List Row) (h : ∀ row ∈ part, ¬ row.isMarked) :
      part.filter Row.isMarked = [] :=
    List.filter_eq_nil_iff.2 h
  have hunmarked (row : Row) (hrow : row ∈ above ++ below) : ¬ row.isMarked := by
    obtain ⟨number, text, rfl⟩ := hothers row hrow
    exact Bool.false_ne_true
  have hcaret (row : Row) (hrow : row ∈ caretRows column) : ¬ row.isMarked := by
    obtain ⟨c, rfl⟩ := eq_caret_of_mem_caretRows hrow
    exact Bool.false_ne_true
  rw [hrows, List.filter_append, List.filter_cons_of_pos rfl, List.filter_append,
    hnone above fun row hrow => hunmarked row (List.mem_append_left below hrow),
    hnone below fun row hrow => hunmarked row (List.mem_append_right above hrow),
    hnone _ hcaret]
  rfl

/-- In a text, a row is known to be marked by its first character. -/
theorem filter_map_render (rs : List Row) :
    (rs.map Row.render).filter (·.head? = some '>') = (rs.filter Row.isMarked).map Row.render := by
  have hfirst : (fun l : Text => decide (l.head? = some '>')) ∘ Row.render = Row.isMarked := by
    funext row
    rw [Function.comp_apply, Row.head?_render]
    cases row.isMarked <;> rfl
  rw [List.filter_map, hfirst]

theorem exists_eq_append_focus (hlines : lines ≠ []) (line : Int) :
    ∃ before text after, lines = before ++ text :: after ∧
      focus lines.length line = before.length + 1 := by
  obtain ⟨hone, hcount⟩ := focus_mem (List.length_pos_iff.2 hlines) line
  obtain ⟨n, hn⟩ : ∃ n : Nat, focus lines.length line = n + 1 :=
    ⟨(focus lines.length line - 1).toNat, by omega⟩
  have hlt : n < lines.length := by omega
  refine ⟨lines.take n, lines[n], lines.drop (n + 1), ?_, ?_⟩
  · exact eq_take_append_cons_drop (List.getElem?_eq_getElem hlt)
  · rw [hn, List.length_take_of_le (Nat.le_of_lt hlt)]

theorem rows_ne_nil (hlines : lines ≠ []) (hradius : 0 ≤ radius) :
    rows lines line column radius ≠ [] := by
  obtain ⟨before, text, after, happend, hfocus⟩ := exists_eq_append_focus hlines line
  have hmarked : (rows lines line column radius).filter Row.isMarked = _ :=
    filter_isMarked_rows happend hfocus hradius
  intro hrows
  rw [hrows] at hmarked
  cases hmarked

/-- An excerpt of a source with lines has lines, and these are its rows. -/
theorem lines_render (hlines : lines ≠ []) (h : ∀ l ∈ lines, '\n' ∉ l) (hradius : 0 ≤ radius) :
    (render lines line column radius).lines =
      (rows lines line column radius).map Row.render := by
  apply Text.splitOn_intercalate
  · rw [Ne, List.map_eq_nil_iff]
    exact rows_ne_nil hlines hradius
  · rw [List.forall_mem_map]
    intro row hrow
    exact Row.newline_not_mem_render (oneLine_of_mem_rows h hrow)

end Excerpt

namespace Diagnostic

/-- The rows of the excerpt that are marked, as texts. -/
def markedRows (d : Diagnostic) : List Text :=
  d.context.lines.filter (·.head? = some '>')

def rows (d : Diagnostic) : List Excerpt.Row :=
  Excerpt.rows d.source.lines d.location.line (some d.location.column) radius

theorem lines_context (d : Diagnostic) : d.context.lines = d.rows.map Excerpt.Row.render := by
  apply Excerpt.lines_render (Text.splitOn_ne_nil '\n' d.source)
  · intro l hl
    exact Text.not_mem_of_mem_splitOn hl
  · decide

theorem markedRows_eq {d : Diagnostic} {before after : List Text} {text : Text}
    (hlines : d.source.lines = before ++ text :: after)
    (hfocus : Excerpt.focus d.source.lines.length d.location.line = before.length + 1) :
    d.markedRows = [(Excerpt.Row.quoted true (before.length + 1) text).render] := by
  have hmarked : d.rows.filter Excerpt.Row.isMarked = [.quoted true (before.length + 1) text] :=
    Excerpt.filter_isMarked_rows hlines hfocus (by decide)
  rw [markedRows, lines_context, Excerpt.filter_map_render, hmarked, List.map_singleton]

theorem exists_markedRows (d : Diagnostic) :
    ∃ number text, text ∈ d.source.lines ∧
      d.markedRows = [(Excerpt.Row.quoted true number text).render] := by
  have hlines : d.source.lines ≠ [] := Text.splitOn_ne_nil '\n' d.source
  obtain ⟨before, text, after, happend, hfocus⟩ :=
    Excerpt.exists_eq_append_focus hlines d.location.line
  refine ⟨before.length + 1, text, ?_, markedRows_eq happend hfocus⟩
  rw [happend]
  exact List.mem_append_right before List.mem_cons_self

end Diagnostic

end BrainfuckC
