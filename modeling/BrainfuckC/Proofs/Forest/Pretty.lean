import BrainfuckC.Proofs.Emission.Line
import BrainfuckC.Proofs.Forest.Basic

/-!
# Printing a forest

`pretty d` prints a forest by recursion on the tree: the body of a loop at
`d + 1`, between two lines at `d`. The emission carries a depth along a flat
list instead and knows nothing about partners. Where the loop check accepts a
program, both write the same text, as the depth is back where it was at the end
of each body.
-/

namespace BrainfuckC

namespace Forest

/-- The code of a forest at depth `d`. -/
def pretty (d : Nat) : Forest → Text
  | nil => []
  | simple i _ rest => Code.line d i.op.statement ++ '\n' :: rest.pretty d
  | loop _ _ body rest =>
    Code.line d "while (*ptr) \x7b".toList ++ '\n' :: body.pretty (d + 1) ++
      Code.line d "\x7d".toList ++ '\n' :: rest.pretty d

theorem depthBehind_program (d : Int) (f : Forest) : f.program.depthBehind d = d :=
  Program.depthBehind_of_balanced f.balanced_program d

theorem code_program (d : Nat) (f : Forest) : f.program.code d = f.pretty d := by
  induction f generalizing d with
  | nil => rfl
  | simple i h rest ih =>
    rcases i with ⟨o, l⟩
    rw [program, Program.code_cons, Instruction.codeLine_eq,
      Instruction.lineAt_of_not_bracket h, Op.depthBehind_of_not_bracket h, ih,
      List.append_assoc]
    rfl
  | loop first last body rest ihbody ihrest =>
    have hbody : body.program.code ((d : Int) + 1) = body.pretty (d + 1) := ihbody (d + 1)
    rw [program, Program.code_eq_closedLines,
      Program.codeLines_loop _ _ _ body.balanced_program, Text.closedLines_cons,
      Text.closedLines_append, Text.closedLines_cons, ← Program.code_eq_closedLines,
      ← Program.code_eq_closedLines, hbody, ihrest, Int.toNat_natCast]
    simp [pretty]

theorem indented_codeLines_program (d : Nat) (f : Forest) :
    ∀ l ∈ f.program.codeLines d, List.replicate (4 * d) ' ' <+: l := by
  induction f generalizing d with
  | nil =>
    intro l hl
    cases hl
  | simple i h rest ih =>
    rcases i with ⟨o, m⟩
    intro l hl
    rw [program, Program.codeLines_cons, List.mem_cons,
      Op.depthBehind_of_not_bracket h] at hl
    rcases hl with rfl | hl
    · rw [Instruction.lineAt_of_not_bracket h]
      exact List.prefix_append _ _
    · exact ih d l hl
  | loop first last body rest ihbody ihrest =>
    intro l hl
    rw [program, Program.codeLines_loop _ _ _ body.balanced_program, List.mem_cons,
      List.mem_append, List.mem_cons] at hl
    rcases hl with rfl | hl | rfl | hl
    · exact List.prefix_append _ _
    · have hdeep : List.replicate (4 * d) ' ' <+: List.replicate (4 * (d + 1)) ' ' := by
        rw [Nat.mul_succ, ← List.replicate_append_replicate]
        exact List.prefix_append _ _
      exact hdeep.trans (ihbody (d + 1) l hl)
    · exact List.prefix_append _ _
    · exact ihrest d l hl

end Forest

/-- Where the loop check accepts a program, the emission is the print of its one
forest and comes back to the depth at which it began. Both ends of a loop have
the same indentation, and every line between them at least four blanks more. -/
theorem generate_eq_pretty {p : Program} (h : p.loopFault? = none) :
    (∃! f : Forest, f.program = p) ∧
    (∀ (f : Forest) (e : Emitter) (preface : Text), f.program = p →
      (e.generate preface (.ofProgram p)).1 = .ok (preface ++ f.pretty 1 ++ "\x7d\n".toList) ∧
      (e.generate preface (.ofProgram p)).2.depth = 1) ∧
    (∀ (e : Emitter) (preface : Text), (e.generate preface (.ofProgram p)).1 =
      .ok (preface ++ Text.closedLines (p.codeLines 1) ++ "\x7d\n".toList)) ∧
    ∀ (before body after : Program) (first last : Location),
      p = before ++ ⟨.loopBegin, first⟩ :: (body ++ ⟨.loopEnd, last⟩ :: after) →
      Balanced body.brackets →
      ∃ n : Nat,
        p.codeLines 1 = before.codeLines 1 ++ Code.line n "while (*ptr) \x7b".toList ::
          (body.codeLines (n + 1) ++ Code.line n "\x7d".toList :: after.codeLines n) ∧
        ∀ l ∈ body.codeLines (n + 1), List.replicate (4 * n + 4) ' ' <+: l := by
  refine ⟨Forest.existsUnique_program_eq h, ?_, ?_, ?_⟩
  · rintro f e preface rfl
    constructor
    · rw [Emitter.generate_ofProgram, Program.render, ← Forest.code_program]
      rfl
    · rw [Emitter.depth_generate_ofProgram, Forest.depthBehind_program]
      rfl
  · intro e preface
    rw [Emitter.generate_ofProgram, Program.render, Program.code_eq_closedLines]
    rfl
  · rintro before body after first last rfl hbody
    have hopen := Program.staysOpen_of_loopFault?_eq_none h before (List.prefix_append _ _)
    obtain ⟨n, hn⟩ : ∃ n : Nat, before.depthBehind 1 = n := by
      rw [Program.depthBehind_eq]
      exact Int.eq_ofNat_of_zero_le (by omega)
    obtain ⟨f, hf⟩ := Forest.exists_program_eq hbody rfl
    refine ⟨n, ?_, ?_⟩
    · rw [Program.codeLines_append, hn, Program.codeLines_loop _ _ _ hbody, Int.toNat_natCast]
    · rw [← hf]
      exact f.indented_codeLines_program (n + 1)

/-- A loop in a loop, printed from its forest. -/
theorem generate_eq_pretty_nested :
    let p := Program.ofText "+[-[.]]".toList
    p.loopFault? = none ∧ (∃! f : Forest, f.program = p) ∧
      ∃ n : Nat, p.codeLines 1 =
        Program.codeLines 1 (p.take 1) ++ Code.line n "while (*ptr) \x7b".toList ::
          (Program.codeLines (n + 1) ((p.drop 2).take 4) ++
            Code.line n "\x7d".toList :: Program.codeLines n []) ∧
        ∀ l ∈ Program.codeLines (n + 1) ((p.drop 2).take 4),
          List.replicate (4 * n + 4) ' ' <+: l := by
  have h : (Program.ofText "+[-[.]]".toList).loopFault? = none := by decide
  have hbody : Balanced (Program.brackets (((Program.ofText "+[-[.]]".toList).drop 2).take 4)) :=
    .loop .nil .nil
  exact ⟨h, (generate_eq_pretty h).1,
    (generate_eq_pretty h).2.2.2 _ _ [] ⟨1, 2⟩ ⟨1, 7⟩ rfl hbody⟩

end BrainfuckC
