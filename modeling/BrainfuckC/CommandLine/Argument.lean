import BrainfuckC.CommandLine.Usage
import BrainfuckC.Text.DecimalDigit

/-!
# Arguments

What an argument is shows by itself: a word, an option with or without a value
attached to it, or something that looks like an option and is none. Only a
double hyphen acts on what follows, since all arguments behind the first one are
words.

An option is named by its word behind two hyphens, or by the first letters of
that word as long as they fit no other option, with a value behind an equals
sign; or by its letter behind one hyphen, with a value directly behind it or
behind an equals sign.
-/

namespace BrainfuckC

namespace CommandLine

/-- Whether an option is named by its word or by its letter. -/
inductive Spelling where
  | word
  | letter
  deriving DecidableEq

inductive Argument where
  /-- A word: the input file, or the value of the option before it. -/
  | word (text : Text)
  /-- The double hyphen behind which all arguments are words. -/
  | separator
  /-- An option, with the value that is attached to it. -/
  | option (flag : Flag) (spelling : Spelling) (attached : Option Text)
  /-- Something that looks like an option and is none. -/
  | unknown (text : Text)
  deriving DecidableEq

/-- Digits, or digits behind a point with or without digits in front of it. -/
def isUnsignedNumber (t : Text) : Bool :=
  match t.span Text.isDecimalDigit with
  | (whole, []) => !whole.isEmpty
  | (_, '.' :: fraction) => !fraction.isEmpty && fraction.all Text.isDecimalDigit
  | _ => false

/-- Whether what stands behind a hyphen makes it a negative number. A line feed
at the end does not count. -/
def isNumberBehindHyphen (t : Text) : Bool :=
  isUnsignedNumber (if t.getLast? = some '\n' then t.dropLast else t)

namespace Argument

/-- An argument that begins with a hyphen and names no option. Negative numbers
and texts with blanks are words all the same. -/
def unlisted (behindHyphen : Text) : Argument :=
  if isNumberBehindHyphen behindHyphen || behindHyphen.contains ' ' then
    .word ('-' :: behindHyphen)
  else .unknown ('-' :: behindHyphen)

/-- The value that an equals sign sets apart from what stands in front of it. -/
def valueBehindEquals (t : Text) : Option Text :=
  match t.dropWhile (· ≠ '=') with
  | [] => none
  | _ :: value => some value

def ofWordText (t : Text) : Except UsageError Argument :=
  match Flag.all.filter fun f => (t.takeWhile (· ≠ '=')).isPrefixOf f.word with
  | [] => .ok (unlisted ('-' :: t))
  | [flag] => .ok (.option flag .word (valueBehindEquals t))
  | candidates => .error (.ambiguous ('-' :: '-' :: t) candidates)

def ofLetterText (c : Char) (t : Text) : Argument :=
  match Flag.ofLetter? c, t with
  | none, t => unlisted (c :: t)
  | some flag, [] => .option flag .letter none
  | some flag, '=' :: value => .option flag .letter (some value)
  | some flag, value => .option flag .letter (some value)

/-- The argument that a text is, in front of the first double hyphen. -/
def ofText : Text → Except UsageError Argument
  | '-' :: '-' :: t => ofWordText t
  | '-' :: c :: t => .ok (ofLetterText c t)
  | t => .ok (.word t)

def separatorText : Text := "--".toList

def ofTexts : List Text → Except UsageError (List Argument)
  | [] => .ok []
  | t :: ts =>
    if t = separatorText then .ok (.separator :: ts.map .word)
    else
      match ofText t with
      | .error e => .error e
      | .ok argument =>
        match ofTexts ts with
        | .error e => .error e
        | .ok arguments => .ok (argument :: arguments)

end Argument

end CommandLine

end BrainfuckC
