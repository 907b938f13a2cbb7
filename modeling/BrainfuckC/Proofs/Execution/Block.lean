import BrainfuckC.Proofs.Execution.Memory
import BrainfuckC.Statement

/-!
# Reading the C text back

What the emitted text means is said by C and not by what it was emitted from, so
it is read again here. Behind the preface the text is cut into lines, blanks in
front of a line are dropped and blank lines left out. Each line is the head of a
loop, a closing brace, or a statement; anything else is not understood.

Lines become blocks from the last one on. A closing brace is the end of a block
that is not read yet, a statement comes before what has been read of the
innermost block, and the head of a loop takes the innermost block as its body.
At the first line one block has to be left, which is the one of `main`.
-/

namespace BrainfuckC

namespace Code

/-- The statements of C that are understood. -/
inductive Statement where
  | incrementCell
  | decrementCell
  | incrementPointer
  | decrementPointer
  | storeCharacter
  | putCharacter
  deriving DecidableEq

namespace Statement

def all : List Statement :=
  [incrementCell, decrementCell, incrementPointer, decrementPointer, storeCharacter,
    putCharacter]

def text : Statement → Text
  | incrementCell => "(*ptr)++;".toList
  | decrementCell => "(*ptr)--;".toList
  | incrementPointer => "ptr++;".toList
  | decrementPointer => "ptr--;".toList
  | storeCharacter => "*ptr = getchar();".toList
  | putCharacter => "putchar(*ptr);".toList

def perform? {C : Convention} (m : Memory C) : Statement → Option (Memory C)
  | incrementCell => some (m.store (m.cell + 1))
  | decrementCell => some (m.store (m.cell - 1))
  | incrementPointer => m.moveRight?
  | decrementPointer => m.moveLeft?
  | storeCharacter => some m.read
  | putCharacter => some m.write

end Statement

/-- What a line of code is for the blocks. -/
inductive Line where
  | head
  | brace
  | statement (s : Statement)
  deriving DecidableEq

def Line.ofText? (t : Text) : Option Line :=
  if t = "while (*ptr) \x7b".toList then some .head
  else if t = "\x7d".toList then some .brace
  else (Statement.all.find? (·.text = t)).map .statement

/-- The lines of a text without the blanks in front of them and without those
that are blank. -/
def stripped (t : Text) : List Text :=
  (t.lines.map (·.dropWhile (· = ' '))).filter (· ≠ [])

end Code

/-- The statements up to the end of a block. -/
inductive Block where
  | done
  | statement (s : Code.Statement) (rest : Block)
  | loop (body rest : Block)
  deriving DecidableEq

namespace Block

/-- The blocks that are open in front of a line, given those that are open behind
it: what is left of each, the innermost one first. -/
def before? : Code.Line → List Block → Option (List Block)
  | .brace, blocks => some (.done :: blocks)
  | .statement s, block :: blocks => some (.statement s block :: blocks)
  | .head, body :: rest :: blocks => some (.loop body rest :: blocks)
  | _, _ => none

def ofLines? : List Code.Line → Option (List Block)
  | [] => some []
  | l :: ls => (ofLines? ls).bind (before? l)

/-- The block of `main` in a C text behind the preface. -/
def ofCode? (code : Text) : Option Block := do
  let body ← Code.preface.isPrefixOf? code
  let lines ← (Code.stripped body).mapM Code.Line.ofText?
  match ← ofLines? lines with
  | [block] => some block
  | _ => none

variable {C : Convention}

/-- What may be seen of a run of a block. A loop is run as long as the cell is
not zero; where its body does not come to an end, nothing behind it is run. -/
inductive Runs : Block → Memory C → Outcome C → Prop where
  | pause (b : Block) (m : Memory C) : Runs b m (.running m)
  | done (m : Memory C) : Runs .done m (.finished m)
  | stick {s : Code.Statement} {m : Memory C} (rest : Block) (h : s.perform? m = none) :
      Runs (.statement s rest) m (.stuck m)
  | statement {s : Code.Statement} {rest : Block} {m m' : Memory C} {o : Outcome C}
      (h : s.perform? m = some m') (hrest : Runs rest m' o) : Runs (.statement s rest) m o
  | leave {rest : Block} {m : Memory C} {o : Outcome C} (body : Block) (h : m.cell = 0)
      (hrest : Runs rest m o) : Runs (.loop body rest) m o
  | again {body rest : Block} {m m' : Memory C} {o : Outcome C} (h : m.cell ≠ 0)
      (hbody : Runs body m (.finished m')) (hloop : Runs (.loop body rest) m' o) :
      Runs (.loop body rest) m o
  | inside {body : Block} {m : Memory C} {o : Outcome C} (rest : Block) (h : m.cell ≠ 0)
      (hbody : Runs body m o) (ho : ∀ m', o ≠ .finished m') : Runs (.loop body rest) m o

end Block

end BrainfuckC
