import BrainfuckC.Op

/-!
# Statements

Each operation becomes one line of C. The lines stand between the preface, which
declares the tape and the cursor and opens the block of `main`, and the brace
that closes that block. A loop opens a block of its own with `loopBegin` and
closes it with `loopEnd`.
-/

namespace BrainfuckC

def Op.statement : Op → Text
  | increment => "(*ptr)++;".toList
  | decrement => "(*ptr)--;".toList
  | moveRight => "ptr++;".toList
  | moveLeft => "ptr--;".toList
  | readInput => "*ptr = getchar();".toList
  | writeOutput => "putchar(*ptr);".toList
  | loopBegin => "while (*ptr) \x7b".toList
  | loopEnd => "\x7d".toList

namespace Code

/-- The lines that come before the statements, if nothing else is asked for: a
tape of 30000 cells, the cursor on its first cell, and the head of `main`. -/
def preface : Text := Text.closedLines
  ["#include <stdio.h>".toList,
   [],
   "char array[30000] = \x7b0\x7d;".toList,
   "char *ptr = array;".toList,
   [],
   "int main(void) \x7b".toList]

/-- The line that closes the block of `main`. -/
def closing : Text := "\x7d\n".toList

/-- The blanks for one level of nesting. -/
def indentUnit : Text := "    ".toList

/-- A line at a depth, closed by a line feed. There is no indentation outside of
all blocks, where the depth is zero or less. -/
def indented (depth : Int) (line : Text) : Text :=
  (List.replicate depth.toNat indentUnit).flatten ++ line ++ ['\n']

/-- The indentation consists of blanks, four for a level. -/
theorem indented_eq (depth : Int) (line : Text) :
    indented depth line = List.replicate (4 * depth.toNat) ' ' ++ line ++ ['\n'] := by
  have h : ∀ n : Nat, (List.replicate n indentUnit).flatten = List.replicate (4 * n) ' ' := by
    intro n
    induction n with
    | zero => rfl
    | succ n ih =>
      rw [List.replicate_succ, List.flatten_cons, ih, Nat.mul_succ, Nat.add_comm,
        ← List.replicate_append_replicate]
      rfl
  rw [indented, h]

end Code

end BrainfuckC
