import BrainfuckC.Text.Quoted

/-!
# Usage

The options of the command line, the text that explains them, and the ways in
which a list of arguments can go against them.
-/

namespace BrainfuckC

namespace CommandLine

inductive Flag where
  | help
  | output
  | strict
  | trace
  deriving DecidableEq

namespace Flag

def all : List Flag := [help, output, strict, trace]

def word : Flag → Text
  | help => "help".toList
  | output => "output".toList
  | strict => "strict".toList
  | trace => "trace".toList

def ofLetter? (c : Char) : Option Flag :=
  if c = 'h' then some help else if c = 'o' then some output else none

def spelled (f : Flag) : Text := '-' :: '-' :: f.word

/-- An option with all of its names. -/
def display : Flag → Text
  | help => "-h/".toList ++ help.spelled
  | output => "-o/".toList ++ output.spelled
  | f => f.spelled

end Flag

inductive UsageError where
  /-- No input file is named. -/
  | missingInput
  /-- Arguments are left over that have no meaning. -/
  | unrecognized (arguments : List Text)
  /-- An option lacks its value. -/
  | missingValue (flag : Flag)
  /-- An option that takes no value is given one. -/
  | ignoredValue (flag : Flag) (value : Text)
  /-- An abbreviated option may be any of several. -/
  | ambiguous (argument : Text) (candidates : List Flag)
  deriving DecidableEq

def usageLine : Text :=
  "usage: bf2c [-h] [-o OUTPUT] [--strict] [--trace] INPUT\n".toList

def helpText : Text := usageLine ++ '\n' :: Text.closedLines
  ["Translate a Brainfuck program into C source code.".toList,
   [],
   "positional arguments:".toList,
   "  INPUT                 The Brainfuck source file.".toList,
   [],
   "options:".toList,
   "  -h, --help            show this help message and exit".toList,
   "  -o OUTPUT, --output OUTPUT".toList,
   "                        The generated C file. [default: ./<INPUT stem>.c]".toList,
   "  --strict              Reject unbalanced '[' and ']'".toList,
   "  --trace               Print one trace line per generated statement".toList]

namespace UsageError

def words : UsageError → Text
  | missingInput => "the following arguments are required: INPUT".toList
  | unrecognized arguments =>
    "unrecognized arguments: ".toList ++ List.intercalate [' '] arguments
  | missingValue flag => "argument ".toList ++ flag.display ++ ": expected one argument".toList
  | ignoredValue flag value =>
    "argument ".toList ++ flag.display ++ ": ignored explicit argument ".toList ++
      Text.quoted value
  | ambiguous argument candidates =>
    "ambiguous option: ".toList ++ argument ++ " could match ".toList ++
      List.intercalate ", ".toList (candidates.map Flag.spelled)

def message (e : UsageError) : Text :=
  usageLine ++ "bf2c: error: ".toList ++ e.words ++ ['\n']

end UsageError

end CommandLine

end BrainfuckC
