import BrainfuckC.Compilation
import BrainfuckC.Proofs.Bracket.Relocation
import BrainfuckC.Proofs.Excerpt.Row
import BrainfuckC.Proofs.Location.Layout

/-!
# Where the caret stands

The row of the caret comes directly below the marked one, and it begins with a
fixed number of blanks: as many as a quoted row has characters in front of its
bar if the number of the line has no more than four digits. A longer number moves
the quoted line to the right, and the caret does not move with it. So it stands
below the bracket at fault up to the line 9999, and behind that too far to the
left, by one character for each further digit (`caretLeftOf_iff_of_refused`).
-/

namespace BrainfuckC

theorem Decimal.length_ofNat_le_four_iff (n : Nat) : (ofNat n).length ≤ 4 ↔ n < 10000 :=
  Nat.length_toDigits_le_iff (by decide) (by decide)

namespace Excerpt

/-- What a quoted row has in front of the line that it quotes. -/
def Row.lead (marked : Bool) (number : Nat) : Text :=
  (if marked then '>' else ' ') :: ' ' ::
    (List.leftpad numberWidth ' ' (Decimal.ofNat number) ++ bar)

theorem Row.render_quoted (marked : Bool) (number : Nat) (line : Text) :
    (quoted marked number line).render = lead marked number ++ line := rfl

theorem Row.length_lead (marked : Bool) (number : Nat) :
    (lead marked number).length = 5 + max 4 (Decimal.ofNat number).length := by
  simp only [lead, numberWidth, bar, List.length_cons, List.length_append, List.length_leftpad]
  have hbar : " | ".toList.length = 3 := rfl
  omega

theorem Row.render_caret (column : Int) :
    (caret column).render = List.replicate 7 ' ' ++ '|' ::
      (List.replicate (1 + (column - 1).toNat) ' ' ++ ['^']) := by
  rw [← List.replicate_append_replicate, List.append_assoc]
  rfl

end Excerpt

namespace Diagnostic

/-- The character at the location is `c`, and the caret stands `k` characters left
of it. The line is quoted at the end of the marked row, and the row directly below
that consists of blanks, a bar, blanks again and the caret. -/
def CaretLeftOf (d : Diagnostic) (c : Char) (k : Nat) : Prop :=
  ∃ (above : List Text) (lead text : Text) (left right : Nat) (below : List Text),
    d.context.lines = above ++ (lead ++ text) ::
      (List.replicate left ' ' ++ '|' :: (List.replicate right ' ' ++ ['^'])) :: below ∧
    d.markedRows = [lead ++ text] ∧
    d.source.lines[(d.location.line - 1).toNat]? = some text ∧
    text[(d.location.column - 1).toNat]? = some c ∧
    left + 1 + right + k = lead.length + (d.location.column - 1).toNat

/-- The marked row is a single one, so the rows determine where the caret
stands. -/
theorem CaretLeftOf.eq {d : Diagnostic} {c c' : Char} {k k' : Nat} (h : d.CaretLeftOf c k)
    (h' : d.CaretLeftOf c' k') : k = k' := by
  obtain ⟨above, lead, text, left, right, below, hlines, hmarked, htext, -, hk⟩ := h
  obtain ⟨above', lead', text', left', right', below', hlines', hmarked', htext', -, hk'⟩ := h'
  obtain rfl : text = text' := Option.some.inj (htext.symm.trans htext')
  obtain rfl : lead = lead' :=
    List.append_cancel_right (List.singleton_inj.1 (hmarked.symm.trans hmarked'))
  rw [markedRows, hlines] at hmarked
  obtain ⟨habove, hbelow⟩ := not_mem_of_filter_eq_singleton hmarked
  obtain ⟨-, -, hnext⟩ :=
    (List.append_cons_inj_of_notMem habove hbelow).1 (hlines.symm.trans hlines')
  have hlength := congrArg List.length (List.cons.inj hnext).1
  simp at hlength
  omega

theorem caretLeftOf_of_charAt? {d : Diagnostic} {c : Char}
    (h : d.source.charAt? d.location = some c) :
    d.CaretLeftOf c ((Decimal.ofInt d.location.line).length - 4) := by
  obtain ⟨⟨hline, hcolumn⟩, text, htext, hc⟩ := Text.charAt?_eq_some_iff.1 h
  obtain ⟨n, hn⟩ : ∃ n : Nat, d.location.line = n + 1 :=
    ⟨(d.location.line - 1).toNat, by omega⟩
  have hindex : (d.location.line - 1).toNat = n := by omega
  rw [hindex] at htext
  have hlt : n < d.source.lines.length := (List.getElem?_eq_some_iff.1 htext).1
  have happend := eq_take_append_cons_drop htext
  have hlength : (d.source.lines.take n).length = n := List.length_take_of_le (Nat.le_of_lt hlt)
  have hfocus : Excerpt.focus d.source.lines.length d.location.line =
      (d.source.lines.take n).length + 1 := by
    rw [Excerpt.focus_of_mem hline (by omega), hlength, hn]
  obtain ⟨above, below, hrows, -⟩ := Excerpt.exists_rows_eq_around happend hfocus
    (show 0 ≤ radius by decide) (some d.location.column)
  rw [Excerpt.caretRows, if_pos hcolumn, List.singleton_append] at hrows
  have hnumber : Decimal.ofInt d.location.line = Decimal.ofNat (n + 1) := by
    rw [hn]
    exact Decimal.ofInt_natCast (n + 1)
  refine ⟨above.map Excerpt.Row.render, Excerpt.Row.lead true (n + 1), text, 7,
    1 + (d.location.column - 1).toNat, below.map Excerpt.Row.render, ?_, ?_, ?_, hc, ?_⟩
  · rw [lines_context, rows, hrows, List.map_append, List.map_cons, List.map_cons,
      Excerpt.Row.render_quoted, Excerpt.Row.render_caret, hlength]
  · rw [markedRows_eq happend hfocus, Excerpt.Row.render_quoted, hlength]
  · rw [hindex, htext]
  · rw [Excerpt.Row.length_lead, hnumber]
    omega

end Diagnostic

/-- A fault is located at its bracket. -/
theorem Program.charAt?_of_loopFault? {s : Text} {fault : LoopFault}
    (h : (ofText s).loopFault? = some fault) :
    s.charAt? fault.location = some fault.kind.op.symbol :=
  charAt?_of_mem_ofText (mem_of_loopFault? h)

theorem LoopFault.caretLeftOf_iff {s : Text} {fault : LoopFault}
    (h : (Program.ofText s).loopFault? = some fault) (k : Nat) :
    (fault.diagnostic s).CaretLeftOf fault.kind.op.symbol k ↔
      k = (Decimal.ofInt fault.location.line).length - 4 := by
  have hcaret := Diagnostic.caretLeftOf_of_charAt? (d := fault.diagnostic s)
    (Program.charAt?_of_loopFault? h)
  constructor
  · intro hk
    exact hk.eq hcaret
  · rintro rfl
    exact hcaret

/-- The lines above a single bracket are empty. -/
theorem Program.loopFault?_newlines_concat_end (n : Nat) :
    (ofText (List.replicate (n + 1) '\n' ++ [']'])).loopFault? = some ⟨.unmatched, ⟨n + 2, 1⟩⟩ := by
  have hblank : scanFrom .start (List.replicate (n + 1) '\n') = [] := by
    apply scanFrom_eq_nil
    intro c hc
    rw [List.eq_of_mem_replicate hc]
    rfl
  have hline : (1 : Int) + n + 1 = n + 2 := by omega
  rw [ofText, scanFrom_append, hblank, Location.advance_replicate_newline, Location.start, hline]
  rfl

/-- For a source that is refused, the caret stands exactly as many characters left
of the bracket at fault as the number of its line has digits beyond the fourth. It
stands below the bracket if and only if that is one of the first 9999 lines. -/
theorem caretLeftOf_iff_of_refused {trace : Bool} {s : Text} {fault : LoopFault}
    (h : Compilation.ofText ⟨true, trace⟩ s = .error fault) :
    (∀ k, (fault.diagnostic s).CaretLeftOf fault.kind.op.symbol k ↔
      k = (Decimal.ofInt fault.location.line).length - 4) ∧
    ((fault.diagnostic s).CaretLeftOf fault.kind.op.symbol 0 ↔ fault.location.line < 10000) := by
  have hfault : (Program.ofText s).loopFault? = some fault := Compilation.ofText_eq_error_iff.1 h
  refine ⟨LoopFault.caretLeftOf_iff hfault, ?_⟩
  obtain ⟨⟨hline, -⟩, -⟩ := Text.charAt?_eq_some_iff.1 (Program.charAt?_of_loopFault? hfault)
  obtain ⟨n, hn⟩ : ∃ n : Nat, fault.location.line = n := ⟨_, (Int.toNat_of_nonneg (by omega)).symm⟩
  have hdigits := Decimal.length_ofNat_le_four_iff n
  rw [LoopFault.caretLeftOf_iff hfault, hn, Decimal.ofInt_natCast]
  omega

/-- The second of two loops is open at the end. -/
theorem caretLeftOf_iff_of_refused_unclosed :
    let s : Text := "+[-]\n  >[.\n,".toList
    let fault : LoopFault := ⟨.unclosed, ⟨2, 4⟩⟩
    Compilation.ofText ⟨true, false⟩ s = .error fault ∧
    (fault.diagnostic s).context.lines =
      ["     1 | +[-]".toList, ">    2 |   >[.".toList, "       |    ^".toList,
        "     3 | ,".toList] ∧
    (fault.diagnostic s).CaretLeftOf '[' 0 := by
  intro s fault
  have h : Compilation.ofText ⟨true, false⟩ s = .error fault := rfl
  exact ⟨h, by decide, (caretLeftOf_iff_of_refused h).2.2 (by decide)⟩

/-- On line 10000 the caret stands one character left of the bracket at fault, and
not below it. -/
theorem caret_not_below_bracket_on_line_10000 :
    let s : Text := List.replicate 9999 '\n' ++ [']']
    let fault : LoopFault := ⟨.unmatched, ⟨10000, 1⟩⟩
    Compilation.ofText ⟨true, false⟩ s = .error fault ∧
    (fault.diagnostic s).CaretLeftOf ']' 1 ∧ ¬ (fault.diagnostic s).CaretLeftOf ']' 0 := by
  intro s fault
  have hfault : (Program.ofText s).loopFault? = some fault :=
    Program.loopFault?_newlines_concat_end 9998
  have hcaret := LoopFault.caretLeftOf_iff hfault
  refine ⟨?_, (hcaret 1).2 (by decide), ?_⟩
  · rw [Compilation.ofText_eq_error_iff, Program.refusal?_strict, hfault]
  · intro hbelow
    exact absurd ((hcaret 0).1 hbelow) (by decide)

end BrainfuckC
