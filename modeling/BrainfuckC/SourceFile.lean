import BrainfuckC.Compilation
import BrainfuckC.Diagnostic
import BrainfuckC.TextFile

/-!
# Source files

The compilation of a source file is the compilation of the text that it holds.
It fails if the file holds no text that can be read, or if the text is refused.
-/

namespace BrainfuckC

/-- Why a source file has no compilation. A refused text is kept with its fault,
as the excerpt in the message is taken from it. -/
inductive SourceFileError where
  | unreadable (error : TextFileError)
  | refused (fault : LoopFault) (source : Text)

namespace SourceFile

/-- The encoding of a file unless another one is asked for. -/
def defaultLabel : Text := "utf-8".toList

def compileText (o : Options) (source : Text) : Except SourceFileError Compilation :=
  match Compilation.ofText o source with
  | .error fault => .error (.refused fault source)
  | .ok made => .ok made

def compile (t : FileTree) (here : Place) (p : Path) (label : Text) (o : Options) :
    Except SourceFileError Compilation :=
  match TextFile.read t here p label with
  | .error e => .error (.unreadable e)
  | .ok source => compileText o source

theorem compileText_eq_refused_iff {o : Options} {source refused : Text} {fault : LoopFault} :
    compileText o source = .error (.refused fault refused) ↔
      Compilation.ofText o source = .error fault ∧ source = refused := by
  rw [compileText]
  cases Compilation.ofText o source <;> simp

/-- Only a text that has been read is refused. -/
theorem compile_eq_refused_iff {t : FileTree} {here : Place} {p : Path} {label : Text}
    {o : Options} {fault : LoopFault} {source : Text} :
    compile t here p label o = .error (.refused fault source) ↔
      TextFile.read t here p label = .ok source ∧ Compilation.ofText o source = .error fault := by
  rw [compile]
  cases TextFile.read t here p label with
  | error e => simp
  | ok found =>
    rw [compileText_eq_refused_iff, Except.ok.injEq, and_comm]
    constructor <;>
      · rintro ⟨rfl, h⟩
        exact ⟨rfl, h⟩

end SourceFile

end BrainfuckC
