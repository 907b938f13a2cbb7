import BrainfuckC.Location
import BrainfuckC.Op

/-!
# Programs

A program is the list of the instructions of a source text, each with the
location at which its symbol stands. `Program.ofText` reads it in one pass. The
current location is carried along explicitly, so a text may be read from any
location on, and reading splits at every cut (`scanFrom_append`).

A listing is a program from outside: its entries may name operations that do
not exist. `Listing.program` keeps what is known.
-/

namespace BrainfuckC

/-- An operation and where it stands. -/
structure Instruction where
  op : Op
  location : Location
  deriving DecidableEq

/-- Instructions in the order in which they stand. -/
abbrev Program := List Instruction

namespace Program

/-- The instructions of a text that begins at `l`. -/
def scanFrom (l : Location) : Text → Program
  | [] => []
  | c :: t =>
    match Op.ofChar? c with
    | some o => ⟨o, l⟩ :: scanFrom (l.next c) t
    | none => scanFrom (l.next c) t

/-- The instructions of a text. Everything that is no symbol is a comment, and
takes its place in the count of lines and columns. -/
def ofText (t : Text) : Program := scanFrom .start t

@[simp] theorem scanFrom_nil (l : Location) : scanFrom l [] = [] := rfl

/-- A symbol gives the instruction at its place. -/
theorem scanFrom_cons_of_some {c : Char} {o : Op} (h : Op.ofChar? c = some o)
    (l : Location) (t : Text) :
    scanFrom l (c :: t) = ⟨o, l⟩ :: scanFrom (l.next c) t := by
  simp [scanFrom, h]

/-- A comment character only moves the location. -/
theorem scanFrom_cons_of_none {c : Char} (h : Op.ofChar? c = none)
    (l : Location) (t : Text) :
    scanFrom l (c :: t) = scanFrom (l.next c) t := by
  simp [scanFrom, h]

/-- Reading splits at every cut of the text. -/
theorem scanFrom_append (l : Location) (s t : Text) :
    scanFrom l (s ++ t) = scanFrom l s ++ scanFrom (l.advance s) t := by
  induction s generalizing l with
  | nil => rfl
  | cons c s ih =>
    rw [List.cons_append]
    cases h : Op.ofChar? c with
    | none => simp [scanFrom_cons_of_none h, ih]
    | some o => simp [scanFrom_cons_of_some h, ih]

/-- Locations aside, the program is the subsequence of the symbols of the
text. -/
theorem map_op_scanFrom (l : Location) (t : Text) :
    (scanFrom l t).map Instruction.op = t.filterMap Op.ofChar? := by
  induction t generalizing l with
  | nil => rfl
  | cons c t ih =>
    cases h : Op.ofChar? c with
    | none => simp [scanFrom_cons_of_none h, h, ih]
    | some o => simp [scanFrom_cons_of_some h, h, ih]

end Program

/-- One line of a program from outside: an instruction, or a word that names no
operation. -/
inductive Entry where
  | known (instruction : Instruction)
  | foreign (symbol : Text) (location : Location)
  deriving DecidableEq

namespace Entry

/-- The entry that a written symbol and a location make up. -/
def ofSymbol (symbol : Text) (l : Location) : Entry :=
  match Op.ofText? symbol with
  | some o => known ⟨o, l⟩
  | none => foreign symbol l

/-- The instruction of an entry, if it is known. -/
def instruction? : Entry → Option Instruction
  | known i => some i
  | foreign _ _ => none

end Entry

/-- A program from outside. -/
abbrev Listing := List Entry

namespace Listing

/-- A program taken as a listing. -/
def ofProgram (p : Program) : Listing := p.map .known

/-- The known instructions of a listing. -/
def program (es : Listing) : Program := es.filterMap Entry.instruction?

@[simp] theorem program_ofProgram (p : Program) : program (ofProgram p) = p := by
  induction p with
  | nil => rfl
  | cons i p ih => simpa [program, ofProgram, Entry.instruction?] using ih

end Listing

end BrainfuckC
