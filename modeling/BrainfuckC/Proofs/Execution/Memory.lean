import BrainfuckC.Op

/-!
# Memory

What a run works on: a tape of cells, a cursor, the input that is left and the
output so far. How long the tape is, how many bits a cell has and what is stored
when the input is at its end are left open by the language. A `Convention` fixes
them, and whatever is said about runs is said for every convention.

Arithmetic on a cell wraps around. A move past an end of the tape is not possible
and gives nothing, so that the cursor never leaves the tape.
-/

namespace BrainfuckC

structure Convention where
  tapeLength : Nat
  cellWidth : Nat
  endOfInput : BitVec cellWidth

/-- What one cell holds, and what is read and written at a time. -/
abbrev Convention.Cell (C : Convention) := BitVec C.cellWidth

/-- A tape with a cursor on it, the input that is left and the output so far. -/
structure Memory (C : Convention) where
  tape : Vector C.Cell C.tapeLength
  cursor : Fin C.tapeLength
  input : List C.Cell
  output : List C.Cell

namespace Memory

variable {C : Convention}

def cell (m : Memory C) : C.Cell := m.tape[m.cursor]

def store (m : Memory C) (c : C.Cell) : Memory C :=
  { m with tape := m.tape.set m.cursor c }

def moveRight? (m : Memory C) : Option (Memory C) :=
  if h : m.cursor + 1 < C.tapeLength then some { m with cursor := ⟨m.cursor + 1, h⟩ } else none

def moveLeft? (m : Memory C) : Option (Memory C) :=
  if m.cursor.val = 0 then none
  else some { m with cursor := ⟨m.cursor - 1, by omega⟩ }

/-- Takes the next character of the input, or what stands for its end. -/
def read (m : Memory C) : Memory C :=
  match m.input with
  | [] => m.store C.endOfInput
  | c :: input => { m.store c with input := input }

def write (m : Memory C) : Memory C :=
  { m with output := m.output ++ [m.cell] }

end Memory

/-- What may be seen of a run: that it has come to its end, that it is stuck at a
move that is not possible, or that it is still running; and the memory at this
moment. -/
inductive Outcome (C : Convention) where
  | finished (m : Memory C)
  | stuck (m : Memory C)
  | running (m : Memory C)

namespace Op

variable {C : Convention}

/-- The meaning of an operation that is no bracket. A bracket decides where a run
goes on and leaves the memory as it is. -/
def perform? (m : Memory C) : Op → Option (Memory C)
  | increment => some (m.store (m.cell + 1))
  | decrement => some (m.store (m.cell - 1))
  | moveRight => m.moveRight?
  | moveLeft => m.moveLeft?
  | readInput => some m.read
  | writeOutput => some m.write
  | loopBegin => some m
  | loopEnd => some m

end Op

end BrainfuckC
