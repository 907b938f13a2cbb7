import BrainfuckC.Proofs.Emission.Line

/-!
# The depth of each line

All that the emission of an instruction knows of the instructions before it is
the depth that they lead to. `depthAt` finds the depth at which an instruction
stands without any emission, by counting: the loops that have begun before it,
less those that have ended with it. So the code and the trace are both written
down instruction by instruction (`codeLines_eq_mapIdx`, `trace_eq_mapIdx`).

The depth is not clamped on the way. Where more loops end than begin it is
negative, and a loop that begins later raises it from there; only the blanks in
front of the line are no fewer than none.
-/

namespace BrainfuckC

/-- Lines are found again when they have been closed. Behind the last line feed
there is an empty line. -/
theorem Text.lines_closedLines {ls : List Text} (h : ∀ l ∈ ls, '\n' ∉ l) :
    (closedLines ls).lines = ls ++ [[]] := by
  induction ls with
  | nil => rfl
  | cons l ls ih =>
    rw [List.forall_mem_cons] at h
    rw [closedLines_cons, lines, splitOn_append_cons h.1]
    exact congrArg (l :: ·) (ih h.2)

namespace Program

/-- The depth at which the instruction stands that has `n` instructions before
it, in a program that is met at depth `d`. -/
def depthAt (d : Int) (p : Program) (n : Nat) : Int :=
  d + occurrences .loopBegin (p.take n) - occurrences .loopEnd (p.take (n + 1))

theorem depthAt_cons_zero (d : Int) (i : Instruction) (p : Program) :
    depthAt d (i :: p) 0 = i.op.depthAt d := by
  rcases i with ⟨o, l⟩
  cases o <;> simp [depthAt, Op.depthAt, occurrences_cons]

/-- The first instruction changes the depth at which the others are met. -/
theorem depthAt_cons_succ (d : Int) (i : Instruction) (p : Program) (n : Nat) :
    depthAt d (i :: p) (n + 1) = depthAt (i.op.depthBehind d) p n := by
  rcases i with ⟨o, l⟩
  rw [depthAt, depthAt, List.take_succ_cons, List.take_succ_cons, occurrences_cons,
    occurrences_cons]
  cases o <;> simp [Op.depthBehind] <;> omega

theorem codeLines_eq_mapIdx (d : Int) (p : Program) :
    p.codeLines d = p.mapIdx fun n i => Code.line (depthAt d p n).toNat i.op.statement := by
  induction p generalizing d with
  | nil => rfl
  | cons i p ih =>
    rw [codeLines_cons, List.mapIdx_cons, ih, depthAt_cons_zero]
    simp only [depthAt_cons_succ]
    rfl

theorem trace_eq_mapIdx (d : Int) (p : Program) :
    p.trace d = p.mapIdx fun n i =>
      i.location.render ++ ' ' :: i.op.symbol :: " depth=".toList ++
        Decimal.ofInt (depthAt d p n) := by
  induction p generalizing d with
  | nil => rfl
  | cons i p ih =>
    rw [trace_cons, List.mapIdx_cons, ih, depthAt_cons_zero]
    simp only [depthAt_cons_succ]
    rfl

theorem newline_not_mem_codeLines {d : Int} {p : Program} {l : Text} (h : l ∈ p.codeLines d) :
    '\n' ∉ l := by
  rw [codeLines_eq_mapIdx, List.mem_mapIdx] at h
  obtain ⟨n, hn, rfl⟩ := h
  exact Code.newline_not_mem_line _ _

end Program

namespace Emitter

/-- What is emitted for a program, and what is recorded of it, in closed form.

The instruction that has `n` others before it stands at `depth n`, whether or not
the loops are well formed. Between the preface and the last brace there is one
line for each instruction: four blanks for each level of its depth, none if that
is negative, and its statement. Where traces are kept, there is one line of the
trace for each instruction too, with its location, its symbol and the same depth
as it is. -/
theorem generate_eq_mapIdx (e : Emitter) (preface : Text) (p : Program) :
    let depth (n : Nat) : Int := 1 + Program.occurrences .loopBegin (p.take n) -
      Program.occurrences .loopEnd (p.take (n + 1))
    let emitted : List Text := p.mapIdx fun n i =>
      List.replicate (4 * (max 0 (depth n)).toNat) ' ' ++ i.op.statement
    let body : Text := emitted.flatMap (· ++ ['\n'])
    let recorded : List Text := p.mapIdx fun n i =>
      Decimal.ofInt i.location.line ++ ':' :: Decimal.ofInt i.location.column ++
        ' ' :: i.op.symbol :: " depth=".toList ++ Decimal.ofInt (depth n)
    (e.generate preface (.ofProgram p)).1 =
      .ok (preface ++ body ++ "\x7d\n".toList) ∧
    body.lines = emitted ++ [[]] ∧
    (e.generate preface (.ofProgram p)).2.trace = if e.tracing then recorded else [] := by
  intro depth emitted body recorded
  have hemitted : p.codeLines Program.startDepth = emitted := by
    rw [Program.codeLines_eq_mapIdx]
    apply congrArg (List.mapIdx · p)
    funext n i
    have hclamp : (depth n).toNat = (max 0 (depth n)).toNat := by omega
    exact congrArg (Code.line · i.op.statement) hclamp
  refine ⟨?_, ?_, ?_⟩
  · rw [generate_ofProgram, Program.render, Program.code_eq_closedLines, hemitted]
    rfl
  · apply Text.lines_closedLines
    rw [← hemitted]
    exact fun l => Program.newline_not_mem_codeLines
  · rw [trace_generate_ofProgram, Program.trace_eq_mapIdx]
    rfl

/-- Two loops too many are ended, so the next one begins left of the margin. -/
example :
    (fresh true).generate "\x7b\n".toList (.ofProgram (.ofText "]]\n[[.".toList)) =
      (.ok "\x7b\n\x7d\n\x7d\nwhile (*ptr) \x7b\nwhile (*ptr) \x7b\n    putchar(*ptr);\n\x7d\n".toList,
        ⟨1, ["1:1 ] depth=0".toList, "1:2 ] depth=-1".toList, "2:1 [ depth=-1".toList,
          "2:2 [ depth=0".toList, "2:3 . depth=1".toList], true⟩) :=
  rfl

end Emitter

end BrainfuckC
