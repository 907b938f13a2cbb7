import BrainfuckC.CommandLine.Run

/-!
# The program

The program takes its arguments and files from the system and gives its streams
and exit code to it. What it does with them is said elsewhere: requests are read
and outcomes are made without the system, and here they are only carried out.
-/

namespace BrainfuckC

namespace CommandLine

/-- The report on a file for which the system gives an error number. The words
for the numbers that are known are always the same ones. -/
def reportOfNumber (file : Text) (number : Int) (words : Text) : SystemReport :=
  match AccessError.ofNumber? number with
  | some e => e.report file
  | none => .numbered (some number) (some words) (some file)

/-- What the system reports on a file by an error. The number may come with
either sign, according to the call that failed. -/
def reportOf (file : Text) : IO.Error → SystemReport
  | .noFileOrDirectory _ number words
  | .inappropriateType _ number words
  | .permissionDenied _ number words
  | .invalidArgument _ number words =>
    reportOfNumber file number.toInt32.toInt.natAbs words.toList
  | e => .remark (toString e).toList

def conclude (o : Outcome) : IO UInt32 := do
  (← IO.getStdout).putStr (String.ofList o.stdout)
  (← IO.getStderr).putStr (String.ofList o.stderr)
  return o.exit.toUInt32

/-- Brings a run to its end. An error that is no outcome is left to the system. -/
def concludeEnding : Ending → IO UInt32
  | .exited o => conclude o
  | .escaped .nullCharacter => throw (.userError "a name holds a null character")
  | .escaped .unknownEncoding => throw (.userError "unknown encoding")
  | .escaped _ => throw (.userError "a character has no encoding")

def concludeRefused (p : Path) (e : IO.Error) : IO UInt32 :=
  conclude (.fileFailed ⟨p.render, .reported (reportOf p.render e)⟩)

def writeCompilation (p : Path) (made : Compilation) : IO UInt32 := do
  match TextFile.encode SourceFile.defaultLabel made.code with
  | .error e => concludeEnding (.ofTextFileError e)
  | .ok content =>
    match ← EIO.toBaseIO (IO.FS.writeBinFile (String.ofList p.render) ⟨content.toArray⟩) with
    | .error e => concludeRefused p e
    | .ok () => conclude (.written made.trace)

def compileNamed (s : Settings) : IO UInt32 := do
  let input := Path.ofText s.input
  match ← EIO.toBaseIO (IO.FS.readBinFile (String.ofList input.render)) with
  | .error e => concludeRefused input e
  | .ok content =>
    match TextFile.decode input SourceFile.defaultLabel content.toList with
    | .error e => concludeEnding (.ofTextFileError e)
    | .ok source =>
      match SourceFile.compileText s.options source with
      | .error e => concludeEnding (.ofSourceFileError e)
      | .ok made => writeCompilation s.outputPath made

end CommandLine

end BrainfuckC

open BrainfuckC CommandLine in
def main (arguments : List String) : IO UInt32 :=
  match Request.ofTexts (arguments.map String.toList) with
  | .error e => conclude (.misused e)
  | .ok .help => conclude .helped
  | .ok (.compile settings) => compileNamed settings
