import BrainfuckC.Proofs.Emission.Line

/-!
# Reading operations off the code

Each line of the code is the line of one operation, and its statement tells which
one, wherever it is indented to. So the operations are read off the code again,
and neither their number nor their order can be lost (`operations_code`). Loops
need not be well formed for this: the brace of a `loopEnd` is read at any depth,
and the brace that closes `main` is no part of what is read.
-/

namespace BrainfuckC

/-- The operation that is emitted as a statement. -/
def Op.ofStatement? (t : Text) : Option Op := Op.all.find? (·.statement = t)

theorem Op.ofStatement?_statement (o : Op) : Op.ofStatement? o.statement = some o := by
  cases o <;> decide

/-- The operations that the lines of a C text are emitted for. -/
def Code.operations (code : Text) : List Op :=
  code.lines.filterMap fun l => Op.ofStatement? (l.dropWhile (· = ' '))

namespace Program

theorem operations_code (d : Int) (p : Program) :
    Code.operations (p.code d) = p.map Instruction.op := by
  induction p generalizing d with
  | nil => rfl
  | cons i p ih =>
    have hlines : Text.lines (i.lineAt d ++ '\n' :: code (i.op.depthBehind d) p) =
        i.lineAt d :: Text.lines (code (i.op.depthBehind d) p) :=
      Text.splitOn_append_cons (Code.newline_not_mem_line _ _) _
    rw [code_cons, Instruction.codeLine_eq, List.append_assoc, List.singleton_append,
      Code.operations, hlines, List.filterMap_cons, Instruction.lineAt, Code.dropWhile_line,
      Op.ofStatement?_statement, List.map_cons, ← ih (i.op.depthBehind d)]
    rfl

/-- The code does not depend on where the instructions stand. -/
theorem code_eq_of_map_op_eq {p q : Program}
    (h : p.map Instruction.op = q.map Instruction.op) (d : Int) : p.code d = q.code d := by
  induction p generalizing q d with
  | nil =>
    rw [List.map_nil, eq_comm, List.map_eq_nil_iff] at h
    rw [h]
  | cons i p ih =>
    rw [List.map_cons, eq_comm, List.map_eq_cons_iff] at h
    obtain ⟨j, q, rfl, hop, hrest⟩ := h
    have hline : i.codeLine d = j.codeLine d := by
      rw [Instruction.codeLine, Instruction.codeLine, hop]
    rw [code_cons, code_cons, hline, ← hop, ih hrest.symm]

theorem render_eq_render_iff (preface : Text) (p q : Program) :
    p.render preface = q.render preface ↔ p.map Instruction.op = q.map Instruction.op := by
  constructor
  · intro h
    rw [render, render, List.append_left_inj, List.append_right_inj] at h
    rw [← operations_code startDepth p, ← operations_code startDepth q, h]
  · intro h
    rw [render, render, code_eq_of_map_op_eq h]

end Program

end BrainfuckC
