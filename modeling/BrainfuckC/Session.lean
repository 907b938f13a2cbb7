import BrainfuckC.Compilation

/-!
# Sessions

A session keeps its options from one compilation to the next, and the
instructions and the trace of the last one for inspection. A refused text leaves
its instructions there too, but the trace stays that of the last compilation
that was made.
-/

namespace BrainfuckC

/-- The options in force and what the last compilation left. -/
structure Session where
  options : Options
  program : Program
  trace : List Text
  deriving DecidableEq

namespace Session

def fresh (o : Options) : Session := ⟨o, [], []⟩

def setOptions (s : Session) (o : Options) : Session := { s with options := o }

def compile (s : Session) (preface source : Text) : Except LoopFault Text × Session :=
  match Compilation.ofTextWith preface s.options source with
  | .ok made => (.ok made.code, { s with program := made.program, trace := made.trace })
  | .error fault => (.error fault, { s with program := .ofText source })

theorem options_compile (s : Session) (preface source : Text) :
    (s.compile preface source).2.options = s.options := by
  unfold compile
  split <;> rfl

/-- The instructions are those of the text, whether it is refused or not. -/
theorem program_compile (s : Session) (preface source : Text) :
    (s.compile preface source).2.program = .ofText source := by
  unfold compile
  cases h : (Program.ofText source).refusal? s.options with
  | none => rw [Compilation.ofTextWith_of_no_refusal h]
  | some fault => rw [Compilation.ofTextWith_of_refusal h]

end Session

end BrainfuckC
