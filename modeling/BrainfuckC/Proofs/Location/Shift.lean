import BrainfuckC.Proofs.Bracket.Relocation
import BrainfuckC.Proofs.Location.Line

/-!
# Texts behind other texts

What is written behind a text `a` moves down by the lines of `a`, and its first
line moves to the right by the last line of `a` too. The instructions are the
same ones at the locations that they have moved to (`scanFrom_shift`), as passing
a character and moving may be done in either order.

This holds for locations from the first line on. A line feed leads to the first
column, so what stood on a line before the first one would have to move to the
right as soon as it gets there.
-/

namespace BrainfuckC

namespace Location

/-- Where a location of a text moves to if the text is put behind `a`. -/
def shift (a : Text) (l : Location) : Location :=
  ⟨l.line + a.count '\n', if l.line = 1 then l.column + a.lastLine.length else l.column⟩

theorem shift_start (a : Text) : start.shift a = start.advance a := by
  rw [advance_start]
  rfl

theorem next_shift {l : Location} (h : 1 ≤ l.line) (a : Text) (c : Char) :
    (l.shift a).next c = (l.next c).shift a := by
  by_cases hc : c = '\n'
  · subst hc
    simp only [next_newline, shift, mk.injEq]
    omega
  · simp only [next_of_ne hc, shift, mk.injEq, true_and]
    split <;> omega

theorem one_le_line_next {l : Location} (h : 1 ≤ l.line) (c : Char) : 1 ≤ (l.next c).line := by
  by_cases hc : c = '\n'
  · subst hc
    rw [next_newline]
    exact Int.le_add_one h
  · rwa [next_of_ne hc]

end Location

namespace Program

theorem scanFrom_shift {l : Location} (h : 1 ≤ l.line) (a t : Text) :
    scanFrom (l.shift a) t = (scanFrom l t).relocate (Location.shift a) := by
  induction t generalizing l with
  | nil => rfl
  | cons c t ih =>
    have hrest := ih (Location.one_le_line_next h c)
    rw [← Location.next_shift h] at hrest
    cases hc : Op.ofChar? c with
    | none => rw [scanFrom_cons_of_none hc, scanFrom_cons_of_none hc, hrest]
    | some o =>
      rw [scanFrom_cons_of_some hc, scanFrom_cons_of_some hc, hrest]
      rfl

/-- A text is read as the first part of it and then the second, moved behind the
first. -/
theorem ofText_append (a b : Text) :
    ofText (a ++ b) = ofText a ++ (ofText b).relocate (Location.shift a) := by
  rw [ofText, scanFrom_append, ← Location.shift_start]
  exact congrArg (ofText a ++ ·) (scanFrom_shift le_rfl a b)

end Program

end BrainfuckC
