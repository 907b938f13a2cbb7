import BrainfuckC.Text.Decimal

/-!
# Excerpts

An excerpt shows a line of a source among its neighbours. The line asked for may
be any integer: the line in focus is the existing one that is closest to it. The
lines whose distance from the focus is at most `radius` are quoted with their
numbers, and a caret row under the focused one points at a column.

`rows` decides what is shown and `Row.render` how a row looks. The rows are taken
from the numbered lines themselves, so a radius of any size costs nothing and no
row can fall outside of the source.
-/

namespace BrainfuckC

namespace Excerpt

/-- A row of an excerpt: a numbered line of the source, marked if it is the one
in focus, or the row that points at a column. -/
inductive Row where
  | quoted (marked : Bool) (number : Nat) (line : Text)
  | caret (column : Int)
  deriving DecidableEq

/-- The width to which line numbers are filled up with blanks on the left. -/
def numberWidth : Nat := 4

def bar : Text := " | ".toList

/-- How a row looks. A caret row has as many blanks in front of the bar as a
quoted row with a number of the usual width has characters. -/
def Row.render : Row → Text
  | quoted marked number line =>
    (if marked then '>' else ' ') :: ' ' ::
      (List.leftpad numberWidth ' ' (Decimal.ofNat number) ++ bar ++ line)
  | caret column =>
    List.replicate (2 + numberWidth) ' ' ++ bar ++
      List.replicate (column - 1).toNat ' ' ++ ['^']

/-- The number of the line in focus, among `count` lines. -/
def focus (count : Nat) (line : Int) : Int := min (max 1 line) (max 1 count)

/-- The caret row for a column. There is none for a column left of the line. -/
def caretRows : Option Int → List Row
  | none => []
  | some column => if 1 ≤ column then [.caret column] else []

def rowsOfLine (focus radius : Int) (column : Option Int) (number : Nat) (line : Text) :
    List Row :=
  if focus - radius ≤ number ∧ number ≤ focus + radius then
    .quoted (number = focus) number line :: if number = focus then caretRows column else []
  else []

/-- The rows of the excerpt around a line. -/
def rows (lines : List Text) (line : Int) (column : Option Int) (radius : Int) : List Row :=
  let center := focus lines.length line
  (lines.zipIdx 1).flatMap fun (text, number) => rowsOfLine center radius column number text

def render (lines : List Text) (line : Int) (column : Option Int) (radius : Int) : Text :=
  Text.unlines ((rows lines line column radius).map Row.render)

@[simp] theorem rows_nil (line : Int) (column : Option Int) (radius : Int) :
    rows [] line column radius = [] := rfl

/-- The focus is the number of an existing line, if there is one at all. -/
theorem focus_mem {count : Nat} (h : 0 < count) (line : Int) :
    1 ≤ focus count line ∧ focus count line ≤ count := by
  unfold focus
  omega

theorem focus_of_mem {count : Nat} {line : Int} (h₁ : 1 ≤ line) (h₂ : line ≤ count) :
    focus count line = line := by
  unfold focus
  omega

end Excerpt

end BrainfuckC
