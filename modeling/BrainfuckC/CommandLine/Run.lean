import BrainfuckC.CommandLine.Outcome
import BrainfuckC.CommandLine.Request
import BrainfuckC.SourceFile

/-!
# Runs

A run reads its arguments, compiles the input file and only then writes the
output file, so whatever is refused is refused before anything is changed, and
the input may be its own output. The trace is printed when the output has been
written.
-/

namespace BrainfuckC

namespace CommandLine

/-- How a run comes to its end: with an outcome, or by an error that is not
reported as an outcome. -/
inductive Ending where
  | exited (outcome : Outcome)
  | escaped (error : TextFileError)

namespace Ending

def ofTextFileError (e : TextFileError) : Ending :=
  match e.fileError? with
  | some error => exited (.fileFailed error)
  | none => escaped e

def ofSourceFileError : SourceFileError → Ending
  | .unreadable e => ofTextFileError e
  | .refused fault source => exited (.loopsRefused (fault.diagnostic source))

end Ending

/-- Compiles a file in a tree, for someone who is at `here`. -/
def compileInput (t : FileTree) (here : Place) (s : Settings) : Ending × FileTree :=
  match SourceFile.compile t here (.ofText s.input) SourceFile.defaultLabel s.options with
  | .error e => (.ofSourceFileError e, t)
  | .ok made =>
    match TextFile.write t here s.outputPath SourceFile.defaultLabel made.code with
    | (.error e, left) => (.ofTextFileError e, left)
    | (.ok (), left) => (.exited (.written made.trace), left)

def run (t : FileTree) (here : Place) (arguments : List Text) : Ending × FileTree :=
  match Request.ofTexts arguments with
  | .error e => (.exited (.misused e), t)
  | .ok .help => (.exited .helped, t)
  | .ok (.compile settings) => compileInput t here settings

end CommandLine

end BrainfuckC
