import BrainfuckC.CommandLine.Argument
import BrainfuckC.Path
import BrainfuckC.Compilation

/-!
# Requests

A list of arguments asks for a compilation or for help, or it is in error. The
arguments are taken one by one, so the order of options and words does not
matter but for this: the first word is the input file, a later value of an
option replaces an earlier one, and help is given as soon as it is asked for,
whatever may be wrong with the arguments behind it.
-/

namespace BrainfuckC

namespace CommandLine

/-- What is to be compiled, and how. An output that is absent or empty stands
for the default one. -/
structure Settings where
  input : Text
  output : Option Text
  options : Options
  deriving DecidableEq

def Settings.outputPath (s : Settings) : Path :=
  match s.output with
  | some (c :: t) => .ofText (c :: t)
  | _ => (Path.ofText s.input).defaultOutput

inductive Request where
  | help
  | compile (settings : Settings)
  deriving DecidableEq

/-! ## One option -/

/-- What an option asks for, once the letters behind its own are taken apart. -/
inductive Demand where
  | help
  | strict
  | trace
  | output (value : Text)
  /-- The next argument is to be the output, and help may be asked for, too. -/
  | outputNext (alsoHelp : Bool)
  deriving DecidableEq

/-- The letters behind the letter for help, which name further options. -/
def Demand.ofHelpLetters : Text → Except UsageError Demand
  | [] => .ok .help
  | 'h' :: t => ofHelpLetters t
  | ['o'] => .ok (.outputNext true)
  | 'o' :: _ => .ok .help
  | t => .error (.ignoredValue .help t)

/-- What an option asks for. The text that separates options from words is no
value, so attached to the output it leaves it empty. -/
def Demand.ofOption (flag : Flag) (spelling : Spelling) (attached : Option Text) :
    Except UsageError Demand :=
  match flag, spelling, attached with
  | .output, _, some value => .ok (.output (if value = Argument.separatorText then [] else value))
  | .output, _, none => .ok (.outputNext false)
  | .help, _, none => .ok .help
  | .strict, _, none => .ok .strict
  | .trace, _, none => .ok .trace
  | .help, .letter, some (c :: t) => ofHelpLetters (c :: t)
  | flag, _, some value => .error (.ignoredValue flag value)

/-! ## All arguments -/

/-- What has been read so far. The surplus are the arguments without a meaning,
in the order in which they came. -/
structure Progress where
  input : Option Text := none
  output : Option Text := none
  options : Options := {}
  surplus : List Text := []
  deriving DecidableEq

namespace Progress

def addSurplus (p : Progress) (t : Text) : Progress := { p with surplus := p.surplus ++ [t] }

/-- Takes a word: the first one is the input. -/
def addWord (p : Progress) (t : Text) : Progress :=
  if p.input.isNone then { p with input := some t } else p.addSurplus t

def setOutput (p : Progress) (t : Text) : Progress := { p with output := some t }

def setStrict (p : Progress) : Progress := { p with options := { p.options with strict := true } }

def setTrace (p : Progress) : Progress := { p with options := { p.options with trace := true } }

def finish (p : Progress) : Except UsageError Request :=
  match p.input, p.surplus with
  | none, _ => .error .missingInput
  | some input, [] => .ok (.compile ⟨input, p.output, p.options⟩)
  | some _, surplus => .error (.unrecognized surplus)

end Progress

namespace Request

/-- Takes the arguments one by one. A separator next to the input belongs to it;
any other one is surplus. -/
def ofArguments (p : Progress) : List Argument → Except UsageError Request
  | [] => p.finish
  | .word t :: .separator :: as =>
    if p.input.isNone then ofArguments (p.addWord t) as
    else ofArguments ((p.addSurplus t).addSurplus Argument.separatorText) as
  | .word t :: as => ofArguments (p.addWord t) as
  | .separator :: as =>
    if p.input.isNone && !as.isEmpty then ofArguments p as
    else ofArguments (p.addSurplus Argument.separatorText) as
  | .unknown t :: as => ofArguments (p.addSurplus t) as
  | .option flag spelling attached :: as =>
    match Demand.ofOption flag spelling attached with
    | .error e => .error e
    | .ok .help => .ok .help
    | .ok .strict => ofArguments p.setStrict as
    | .ok .trace => ofArguments p.setTrace as
    | .ok (.output value) => ofArguments (p.setOutput value) as
    | .ok (.outputNext alsoHelp) =>
      match as with
      | .word value :: as =>
        if alsoHelp then .ok .help else ofArguments (p.setOutput value) as
      | _ => .error (.missingValue .output)

def ofTexts (texts : List Text) : Except UsageError Request :=
  match Argument.ofTexts texts with
  | .error e => .error e
  | .ok arguments => ofArguments {} arguments

end Request

end CommandLine

end BrainfuckC
