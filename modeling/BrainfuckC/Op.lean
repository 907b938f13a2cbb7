import BrainfuckC.Text

/-!
# Operations

The language has eight operations, and each of them is written as one symbol.
`ofChar?` reads a symbol and `symbol` writes it; `ofChar?_eq_some_iff` says that
the two are inverse to each other, so every other character is a comment.
-/

namespace BrainfuckC

/-- The operations on the tape: `increment` and `decrement` change the cell
under the cursor, `moveRight` and `moveLeft` move the cursor, `readInput` and
`writeOutput` exchange one character with the world, and the code between
`loopBegin` and `loopEnd` runs again as long as the cell is not zero. -/
inductive Op where
  | increment
  | decrement
  | moveRight
  | moveLeft
  | readInput
  | writeOutput
  | loopBegin
  | loopEnd
  deriving DecidableEq

namespace Op

/-- Every operation once, in the order in which they are listed. -/
def all : List Op :=
  [increment, decrement, moveRight, moveLeft, readInput, writeOutput, loopBegin, loopEnd]

theorem mem_all (o : Op) : o ∈ all := by
  cases o <;> decide

def symbol : Op → Char
  | increment => '+'
  | decrement => '-'
  | moveRight => '>'
  | moveLeft => '<'
  | readInput => ','
  | writeOutput => '.'
  | loopBegin => '['
  | loopEnd => ']'

def ofChar? (c : Char) : Option Op := all.find? (·.symbol = c)

@[simp] theorem ofChar?_symbol (o : Op) : ofChar? o.symbol = some o := by
  cases o <;> rfl

/-- A character stands for an operation only if it is its symbol. -/
theorem ofChar?_eq_some_iff {c : Char} {o : Op} : ofChar? c = some o ↔ c = o.symbol := by
  constructor
  · intro h
    have hc := List.find?_some (show all.find? (fun p : Op => p.symbol = c) = some o from h)
    exact (of_decide_eq_true hc).symm
  · rintro rfl
    exact ofChar?_symbol o

theorem symbol_injective {o p : Op} (h : o.symbol = p.symbol) : o = p := by
  have hp := ofChar?_symbol p
  rw [← h, ofChar?_symbol] at hp
  exact Option.some.inj hp

/-- The line feed separates lines and is no operation. -/
@[simp] theorem ofChar?_newline : ofChar? '\n' = none := rfl

/-- The operation written as a whole text, which has to be its symbol and
nothing else. -/
def ofText? : Text → Option Op
  | [c] => ofChar? c
  | _ => none

theorem ofText?_eq_some_iff {t : Text} {o : Op} : ofText? t = some o ↔ t = [o.symbol] := by
  match t with
  | [] => simp [ofText?]
  | [c] => simp [ofText?, ofChar?_eq_some_iff]
  | _ :: _ :: _ => simp [ofText?]

def name : Op → Text
  | increment => "INCREMENT".toList
  | decrement => "DECREMENT".toList
  | moveRight => "MOVE_RIGHT".toList
  | moveLeft => "MOVE_LEFT".toList
  | readInput => "READ_INPUT".toList
  | writeOutput => "WRITE_OUTPUT".toList
  | loopBegin => "LOOP_BEGIN".toList
  | loopEnd => "LOOP_END".toList

end Op

end BrainfuckC
