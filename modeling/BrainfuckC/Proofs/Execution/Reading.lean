import BrainfuckC.Proofs.Emission.Line
import BrainfuckC.Proofs.Execution.Block
import BrainfuckC.Proofs.Forest.Basic
import Mathlib.Data.List.Basic

/-!
# The block behind a program

What is read from the code of a forest is the forest again, with a statement of
C for each simple instruction and a loop of C for each loop. The lines give the
statements back whatever their indentation is, as no statement holds a line feed
or begins with a blank. That the blocks come out right is one induction along
the forest, for any lines behind it.
-/

namespace BrainfuckC

namespace Op

def toStatement : (o : Op) → o.isBracket = false → Code.Statement
  | increment, _ => .incrementCell
  | decrement, _ => .decrementCell
  | moveRight, _ => .incrementPointer
  | moveLeft, _ => .decrementPointer
  | readInput, _ => .storeCharacter
  | writeOutput, _ => .putCharacter

/-- What the line of an operation is for the blocks. -/
def toLine : Op → Code.Line
  | increment => .statement .incrementCell
  | decrement => .statement .decrementCell
  | moveRight => .statement .incrementPointer
  | moveLeft => .statement .decrementPointer
  | readInput => .statement .storeCharacter
  | writeOutput => .statement .putCharacter
  | loopBegin => .head
  | loopEnd => .brace

theorem toLine_of_not_bracket {o : Op} (h : o.isBracket = false) :
    o.toLine = .statement (o.toStatement h) := by
  cases o <;> first | rfl | cases h

theorem ofText?_statement (o : Op) : Code.Line.ofText? o.statement = some o.toLine := by
  cases o <;> decide

/-- A statement of C does to the memory what its operation means. -/
theorem perform?_toStatement {o : Op} (h : o.isBracket = false) {C : Convention}
    (m : Memory C) : (o.toStatement h).perform? m = o.perform? m := by
  cases o <;> first | rfl | cases h

theorem statement_ne_nil (o : Op) : o.statement ≠ [] := by
  cases o <;> decide

end Op

namespace Code

theorem stripped_line (n : Nat) (o : Op) (t : Text) :
    stripped (line n o.statement ++ '\n' :: t) = o.statement :: stripped t := by
  have hlines : Text.lines (line n o.statement ++ '\n' :: t) =
      line n o.statement :: Text.lines t :=
    Text.splitOn_append_cons (newline_not_mem_line n o) t
  rw [stripped, hlines, List.map_cons, dropWhile_line]
  exact List.filter_cons_of_pos (decide_eq_true o.statement_ne_nil)

theorem stripped_closing : stripped closing = ["\x7d".toList] := by decide

end Code

namespace Program

theorem stripped_code (d : Int) (p : Program) (t : Text) :
    Code.stripped (p.code d ++ t) = p.map (·.op.statement) ++ Code.stripped t := by
  induction p generalizing d with
  | nil => rfl
  | cons i p ih =>
    rw [code_cons, Instruction.codeLine_eq, Instruction.lineAt, List.append_assoc,
      List.append_assoc, List.singleton_append, Code.stripped_line, ih]
    rfl

theorem mapM_ofText?_statement (p : Program) :
    (p.map (·.op.statement)).mapM Code.Line.ofText? = some (p.map (·.op.toLine)) := by
  induction p with
  | nil => rfl
  | cons i p ih => simp [i.op.ofText?_statement, ih]

end Program

namespace Forest

def block : Forest → Block
  | nil => .done
  | simple i h rest => .statement (i.op.toStatement h) rest.block
  | loop _ _ body rest => .loop body.block rest.block

theorem eq_nil_of_block_eq {f : Forest} (h : f.block = .done) : f = nil := by
  cases f with
  | nil => rfl
  | simple i hi rest => cases h
  | loop first last body rest => cases h

theorem eq_simple_of_block_eq {f : Forest} {s : Code.Statement} {b : Block}
    (h : f.block = .statement s b) :
    ∃ i hi rest, f = simple i hi rest ∧ i.op.toStatement hi = s ∧ rest.block = b := by
  cases f with
  | nil => cases h
  | simple i hi rest =>
    rcases Block.statement.inj h with ⟨hs, hb⟩
    exact ⟨i, hi, rest, rfl, hs, hb⟩
  | loop first last body rest => cases h

theorem eq_loop_of_block_eq {f : Forest} {b c : Block} (h : f.block = .loop b c) :
    ∃ first last body rest, f = loop first last body rest ∧ body.block = b ∧
      rest.block = c := by
  cases f with
  | nil => cases h
  | simple i hi rest => cases h
  | loop first last body rest =>
    rcases Block.loop.inj h with ⟨hb, hc⟩
    exact ⟨first, last, body, rest, rfl, hb, hc⟩

/-- In front of a forest that a brace ends, its block is open. -/
theorem ofLines?_program (f : Forest) {ls : List Code.Line} {blocks : List Block}
    (h : Block.ofLines? ls = some blocks) :
    Block.ofLines? (f.program.map (·.op.toLine) ++ .brace :: ls) = some (f.block :: blocks) := by
  induction f generalizing ls blocks with
  | nil =>
    rw [program, List.map_nil, List.nil_append, Block.ofLines?, h]
    rfl
  | simple i hi rest ih =>
    rw [program, List.map_cons, List.cons_append, Block.ofLines?, ih h,
      Op.toLine_of_not_bracket hi]
    rfl
  | loop first last body rest ihbody ihrest =>
    have hrest := ihbody (ihrest h)
    rw [program, List.map_cons, List.map_append, List.map_cons, List.cons_append,
      List.append_assoc, List.cons_append, Block.ofLines?]
    rw [show Op.toLine .loopEnd = .brace from rfl, hrest]
    rfl

/-- What is read from the code of a forest is its block. -/
theorem ofCode?_render (f : Forest) :
    Block.ofCode? (f.program.render Code.preface) = some f.block := by
  have hbody : Code.preface.isPrefixOf? (f.program.render Code.preface) =
      some (f.program.code Program.startDepth ++ Code.closing) := by
    rw [List.isPrefixOf?_eq_some_iff_append_eq, Program.render, List.append_assoc]
  have hbrace : ["\x7d".toList].mapM Code.Line.ofText? = some [Code.Line.brace] := by decide
  have hlines : (Code.stripped (f.program.code Program.startDepth ++ Code.closing)).mapM
      Code.Line.ofText? = some (f.program.map (·.op.toLine) ++ [.brace]) := by
    rw [Program.stripped_code, Code.stripped_closing, List.mapM_append,
      Program.mapM_ofText?_statement, hbrace]
    rfl
  have hblocks : Block.ofLines? (f.program.map (·.op.toLine) ++ [.brace]) = some [f.block] :=
    f.ofLines?_program rfl
  simp only [Block.ofCode?, hbody, Option.bind_eq_bind, Option.bind_some, hlines, hblocks]

example : Block.ofCode? ((Program.ofText "+[.]".toList).render Code.preface) =
    some (.statement .incrementCell (.loop (.statement .putCharacter .done) .done)) := by
  decide

end Forest

end BrainfuckC
