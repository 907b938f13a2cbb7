import BrainfuckC.Emitter
import BrainfuckC.Proofs.Bracket.Balanced

/-!
# The emitted lines

The code of a program has one line for each instruction: blanks, four for each
level of the depth at which the line stands, and the statement. `codeLines` is
the list of these lines, and `code_eq_closedLines` says that the code is nothing
but them, each with its line feed. The depth behind a program is the depth in
front of it, raised by what begins and lowered by what ends.
-/

namespace BrainfuckC

namespace Op

theorem newline_not_mem_statement (o : Op) : '\n' ∉ o.statement := by
  cases o <;> decide

theorem dropWhile_statement (o : Op) : o.statement.dropWhile (· = ' ') = o.statement := by
  cases o <;> decide

/-- A statement is found behind any number of blanks, as it begins with none itself. -/
theorem dropWhile_blanks_append (o : Op) (n : Nat) :
    (List.replicate n ' ' ++ o.statement).dropWhile (· = ' ') = o.statement := by
  rw [List.dropWhile_append_of_pos, o.dropWhile_statement]
  intro c hc
  exact decide_eq_true (List.eq_of_mem_replicate hc)

end Op

namespace Code

/-- A line of code with its indentation of `4 * n` blanks. -/
def line (n : Nat) (statement : Text) : Text := List.replicate (4 * n) ' ' ++ statement

theorem newline_not_mem_line (n : Nat) (o : Op) : '\n' ∉ line n o.statement := by
  rw [line, List.mem_append, not_or]
  refine ⟨fun h => ?_, o.newline_not_mem_statement⟩
  exact absurd (List.eq_of_mem_replicate h) (by decide)

theorem dropWhile_line (n : Nat) (o : Op) :
    (line n o.statement).dropWhile (· = ' ') = o.statement :=
  o.dropWhile_blanks_append (4 * n)

end Code

namespace Instruction

/-- The line of an instruction that is met at depth `d`, without its line
feed. -/
def lineAt (d : Int) (i : Instruction) : Text :=
  Code.line (i.op.depthAt d).toNat i.op.statement

theorem codeLine_eq (d : Int) (i : Instruction) : i.codeLine d = i.lineAt d ++ ['\n'] :=
  Code.indented_eq _ _

theorem lineAt_of_not_bracket {o : Op} (h : o.isBracket = false) (d : Int) (l : Location) :
    lineAt d ⟨o, l⟩ = Code.line d.toNat o.statement := by
  cases o <;> first | rfl | cases h

theorem lineAt_loopBegin (d : Int) (l : Location) :
    lineAt d ⟨.loopBegin, l⟩ = Code.line d.toNat "while (*ptr) \x7b".toList := rfl

theorem lineAt_loopEnd (d : Int) (l : Location) :
    lineAt d ⟨.loopEnd, l⟩ = Code.line (d - 1).toNat "\x7d".toList := rfl

end Instruction

theorem Op.depthBehind_of_not_bracket {o : Op} (h : o.isBracket = false) (d : Int) :
    o.depthBehind d = d := by
  cases o <;> first | rfl | cases h

namespace Program

def codeLines (d : Int) : Program → List Text
  | [] => []
  | i :: p => i.lineAt d :: codeLines (i.op.depthBehind d) p

@[simp] theorem codeLines_nil (d : Int) : codeLines d [] = [] := rfl

@[simp] theorem codeLines_cons (d : Int) (i : Instruction) (p : Program) :
    codeLines d (i :: p) = i.lineAt d :: codeLines (i.op.depthBehind d) p := rfl

theorem codeLines_append (d : Int) (p q : Program) :
    codeLines d (p ++ q) = codeLines d p ++ codeLines (depthBehind d p) q := by
  induction p generalizing d with
  | nil => rfl
  | cons i p ih => simp [ih]

@[simp] theorem length_codeLines (d : Int) (p : Program) :
    (codeLines d p).length = p.length := by
  induction p generalizing d with
  | nil => rfl
  | cons i p ih => simp [ih]

theorem code_eq_closedLines (d : Int) (p : Program) :
    p.code d = Text.closedLines (p.codeLines d) := by
  induction p generalizing d with
  | nil => rfl
  | cons i p ih => simp [Instruction.codeLine_eq, ih]

theorem depthBehind_eq (d : Int) (p : Program) :
    p.depthBehind d = d + p.occurrences .loopBegin - p.occurrences .loopEnd := by
  induction p generalizing d with
  | nil => simp
  | cons i p ih =>
    rcases i with ⟨o, l⟩
    rw [depthBehind_cons, ih, occurrences_cons, occurrences_cons]
    cases o <;> simp [Op.depthBehind] <;> omega

theorem depthBehind_of_balanced {p : Program} (h : Balanced p.brackets) (d : Int) :
    p.depthBehind d = d := by
  rw [depthBehind_eq, occurrences_eq_of_balanced h]
  omega

/-- The lines of a loop: its own two stand at the depth at which it is met, and
those of its body one deeper. -/
theorem codeLines_loop (d : Int) (first last : Location) {body : Program}
    (h : Balanced body.brackets) (after : Program) :
    codeLines d (⟨.loopBegin, first⟩ :: (body ++ ⟨.loopEnd, last⟩ :: after)) =
      Code.line d.toNat "while (*ptr) \x7b".toList ::
        (body.codeLines (d + 1) ++ Code.line d.toNat "\x7d".toList :: after.codeLines d) := by
  have hbegin : Op.depthBehind d .loopBegin = d + 1 := rfl
  have hend : Op.depthBehind (d + 1) .loopEnd = d := Int.add_sub_cancel d 1
  rw [codeLines_cons, codeLines_append, codeLines_cons, hbegin, depthBehind_of_balanced h,
    hend, Instruction.lineAt_loopBegin, Instruction.lineAt_loopEnd, Int.add_sub_cancel]

end Program

namespace Emitter

theorem depth_generate_ofProgram (e : Emitter) (preface : Text) (p : Program) :
    (e.generate preface (.ofProgram p)).2.depth = p.depthBehind Program.startDepth := by
  rw [generate, Listing.emit_ofProgram]
  rfl

end Emitter

end BrainfuckC
