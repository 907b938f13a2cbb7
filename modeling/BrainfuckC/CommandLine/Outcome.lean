import BrainfuckC.CommandLine.Usage
import BrainfuckC.Diagnostic
import BrainfuckC.FileError

/-!
# Outcomes

A run of the program ends with an exit code and with what it has printed on its
two streams. Whatever goes wrong is told on the second one, and then the first
one stays empty.
-/

namespace BrainfuckC

namespace CommandLine

/-- How a run ends that has got as far as the compilation. -/
inductive ExitCode where
  | success
  | fileFailure
  | loopFailure
  deriving DecidableEq

namespace ExitCode

def all : List ExitCode := [success, fileFailure, loopFailure]

def name : ExitCode → Text
  | success => "SUCCESS".toList
  | fileFailure => "IO_FAILURE".toList
  | loopFailure => "SYNTAX_FAILURE".toList

def number : ExitCode → Nat
  | success => 0
  | fileFailure => 1
  | loopFailure => 2

end ExitCode

/-- The number that the program exits with if it cannot make sense of its
arguments. -/
def usageFailure : Nat := 2

structure Outcome where
  exit : Nat
  stdout : Text
  stderr : Text
  deriving DecidableEq

namespace Outcome

/-- A file has been written; the trace is printed. -/
def written (trace : List Text) : Outcome :=
  ⟨ExitCode.success.number, Text.closedLines trace, []⟩

def helped : Outcome := ⟨ExitCode.success.number, helpText, []⟩

def misused (e : UsageError) : Outcome := ⟨usageFailure, [], e.message⟩

def errorLine (message : Text) : Text := "Error: ".toList ++ message ++ ['\n']

def fileFailed (e : FileError) : Outcome :=
  ⟨ExitCode.fileFailure.number, [], errorLine e.message⟩

def loopsRefused (d : Diagnostic) : Outcome :=
  ⟨ExitCode.loopFailure.number, [], errorLine d.message⟩

end Outcome

end CommandLine

end BrainfuckC
