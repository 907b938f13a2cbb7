import BrainfuckC.Text.Decimal

/-!
# Locations

A location is a line and a column, both counted from one. They are integers, as
a location may also be given from outside and is then taken as it stands.

`next` moves a location past one character and `advance` past a whole text, the
line feed being the only character that ends a line. What else a screen may
break, join or double does not matter here: a carriage return, a combining mark
and an astral character each take one column.
-/

namespace BrainfuckC

structure Location where
  line : Int
  column : Int
  deriving DecidableEq

namespace Location

def start : Location := ⟨1, 1⟩

/-- The location behind the character `c` that stands at `l`. -/
def next (l : Location) (c : Char) : Location :=
  if c = '\n' then ⟨l.line + 1, 1⟩ else ⟨l.line, l.column + 1⟩

@[simp] theorem next_newline (l : Location) : l.next '\n' = ⟨l.line + 1, 1⟩ := rfl

theorem next_of_ne {c : Char} (hc : c ≠ '\n') (l : Location) :
    l.next c = ⟨l.line, l.column + 1⟩ := if_neg hc

/-- The location behind the text `t` that begins at `l`. -/
def advance (l : Location) (t : Text) : Location := t.foldl next l

@[simp] theorem advance_nil (l : Location) : l.advance [] = l := rfl

@[simp] theorem advance_cons (l : Location) (c : Char) (t : Text) :
    l.advance (c :: t) = (l.next c).advance t := rfl

theorem advance_append (l : Location) (s t : Text) :
    l.advance (s ++ t) = (l.advance s).advance t := List.foldl_append

def render (l : Location) : Text :=
  Decimal.ofInt l.line ++ ':' :: Decimal.ofInt l.column

end Location

end BrainfuckC
