import BrainfuckC.Excerpt
import BrainfuckC.LoopFault

/-!
# Diagnostics

A diagnostic says what is wrong with a source text and where. Its message holds
the summary with the location, an excerpt of the source and, where there is an
advice to give, a hint. The hint is chosen by the words of the summary, in
letters of any case.
-/

namespace BrainfuckC

/-- What is wrong with a source text, and where. -/
structure Diagnostic where
  summary : Text
  source : Text
  location : Location
  deriving DecidableEq

namespace Diagnostic

/-- How many lines are quoted on either side of the line at fault. -/
def radius : Int := 2

/-- The part of the source around the location, with a caret under its
column. -/
def context (d : Diagnostic) : Text :=
  Excerpt.render d.source.lines d.location.line (some d.location.column) radius

def mentions (phrase : Text) : Text → Bool
  | [] => phrase.isEmpty
  | c :: t => phrase.isPrefixOf (c :: t) || mentions phrase t

/-- The advice for a summary. Both phrases are written in letters that only
ASCII capitals are capitals of, so lowering ASCII letters is enough to find them
in any case. -/
def hint? (summary : Text) : Option Text :=
  let lowered := summary.map Char.toLower
  if mentions "unmatched ']'".toList lowered then
    some ("Every \"]\" must close a \"[\" opened before it. " ++
      "Remove the extra \"]\" or add a matching \"[\".").toList
  else if mentions "unclosed '['".toList lowered then
    some "Add a matching \"]\" after the loop body.".toList
  else none

/-- The line that gives the hint, with the line feed in front of it. -/
def hintLine (summary : Text) : Text :=
  match hint? summary with
  | some hint => "\nHint: ".toList ++ hint
  | none => []

def headline (d : Diagnostic) : Text :=
  "LoopError: ".toList ++ d.summary ++ " (line ".toList ++ Decimal.ofInt d.location.line ++
    ", column ".toList ++ Decimal.ofInt d.location.column ++ [')']

def message (d : Diagnostic) : Text :=
  d.headline ++ '\n' :: d.context ++ hintLine d.summary

end Diagnostic

def LoopFault.diagnostic (f : LoopFault) (source : Text) : Diagnostic :=
  ⟨f.kind.summary, source, f.location⟩

end BrainfuckC
