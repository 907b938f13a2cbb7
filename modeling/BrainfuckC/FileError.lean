import BrainfuckC.Text.Decimal
import BrainfuckC.Text.Quoted

/-!
# File errors

A file error names a file and says why it could not be read or written. The
reason is the system's own, if it gives one in words; otherwise it is all that
the system has reported. A file that could be read but does not hold text names
the codec and the first byte that does not belong.
-/

namespace BrainfuckC

inductive AccessError where
  | notFound
  | isDirectory
  | notDirectory
  | nameTooLong
  deriving DecidableEq

/-- What the system reports: nothing, a remark, or an error number with a reason
and the file that it concerns, each of which may be left out. -/
inductive SystemReport where
  | empty
  | remark (text : Text)
  | numbered (number : Option Int) (reason : Option Text) (file : Option Text)
  deriving DecidableEq

namespace SystemReport

/-- What stands in the place of something left out. -/
def absent : Text := "None".toList

def render : SystemReport → Text
  | empty => []
  | remark text => text
  | numbered number reason file =>
    "[Errno ".toList ++ (number.map Decimal.ofInt).getD absent ++ "] ".toList ++
      reason.getD absent ++
      match file with
      | some file => ": ".toList ++ Text.quoted file
      | none => []

def reason : SystemReport → Text
  | numbered _ (some (c :: t)) _ => c :: t
  | report => report.render

end SystemReport

namespace AccessError

def number : AccessError → Int
  | notFound => 2
  | notDirectory => 20
  | isDirectory => 21
  | nameTooLong => 36

/-- The refusal that a number of the system stands for. -/
def ofNumber? (n : Int) : Option AccessError :=
  [notFound, isDirectory, notDirectory, nameTooLong].find? (·.number = n)

theorem ofNumber?_number (e : AccessError) : ofNumber? e.number = some e := by
  cases e <;> rfl

def words : AccessError → Text
  | notFound => "No such file or directory".toList
  | notDirectory => "Not a directory".toList
  | isDirectory => "Is a directory".toList
  | nameTooLong => "File name too long".toList

/-- The system's report on a file that it refuses to open. -/
def report (e : AccessError) (file : Text) : SystemReport :=
  .numbered (some e.number) (some e.words) (some file)

/-- The system always gives its words as the reason. -/
theorem reason_report (e : AccessError) (file : Text) : (e.report file).reason = e.words := by
  cases e <;> rfl

end AccessError

inductive FileError.Cause where
  | reported (report : SystemReport)
  | undecodable (codec : Text) (offset : Int)
  deriving DecidableEq

structure FileError where
  path : Text
  cause : FileError.Cause
  deriving DecidableEq

namespace FileError

def Cause.reason : Cause → Text
  | reported report => report.reason
  | undecodable codec offset =>
    "not valid ".toList ++ codec ++ " (byte ".toList ++ Decimal.ofInt offset ++ [')']

def message (e : FileError) : Text := e.cause.reason ++ ": ".toList ++ e.path

end FileError

end BrainfuckC
