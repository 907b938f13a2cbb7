import BrainfuckC.Program
import BrainfuckC.Statement

/-!
# Emission

The statements of a program are emitted one below the other, each at the depth
that the loops around it give it. The depth is carried along explicitly: a
`loopBegin` stands at the depth that it is met at and raises it for what
follows, a `loopEnd` lowers it first and then stands at the lower depth, with
the loop that it closes.

Loops need not be well formed. The depth is an integer and goes below zero when
more loops end than begin; only the indentation stops at the margin.

Along with every statement goes a line of the trace, which says what was emitted
for which instruction and at which depth. A listing is emitted as far as it is
known; the first foreign symbol ends the emission and is reported.
-/

namespace BrainfuckC

namespace Op

/-- The depth at which the statement of an operation stands that is met at depth
`d`. -/
def depthAt (d : Int) : Op → Int
  | loopEnd => d - 1
  | _ => d

def depthBehind (d : Int) : Op → Int
  | loopBegin => d + 1
  | loopEnd => d - 1
  | _ => d

end Op

namespace Instruction

def codeLine (d : Int) (i : Instruction) : Text :=
  Code.indented (i.op.depthAt d) i.op.statement

def traceLine (d : Int) (i : Instruction) : Text :=
  i.location.render ++ ' ' :: i.op.symbol :: " depth=".toList ++
    Decimal.ofInt (i.op.depthAt d)

end Instruction

/-- What has been emitted: the lines of code, the lines of the trace, the depth
that is reached, and the foreign symbol that stopped the emission, if one
did. -/
structure Emission where
  code : Text
  trace : List Text
  depth : Int
  foreign? : Option Text
  deriving DecidableEq

/-- What a listing emits from depth `d` on. -/
def Listing.emit (d : Int) : Listing → Emission
  | [] => ⟨[], [], d, none⟩
  | .foreign symbol _ :: _ => ⟨[], [], d, some symbol⟩
  | .known i :: es =>
    let rest := emit (i.op.depthBehind d) es
    { rest with
      code := i.codeLine d ++ rest.code
      trace := i.traceLine d :: rest.trace }

namespace Program

def code (d : Int) : Program → Text
  | [] => []
  | i :: p => i.codeLine d ++ code (i.op.depthBehind d) p

def trace (d : Int) : Program → List Text
  | [] => []
  | i :: p => i.traceLine d :: trace (i.op.depthBehind d) p

def depthBehind (d : Int) : Program → Int
  | [] => d
  | i :: p => depthBehind (i.op.depthBehind d) p

/-- Statements are nested into the block that the preface opens. -/
def startDepth : Int := 1

/-- The whole C text of a program behind a preface. -/
def render (preface : Text) (p : Program) : Text :=
  preface ++ p.code startDepth ++ Code.closing

@[simp] theorem code_nil (d : Int) : code d [] = [] := rfl

@[simp] theorem code_cons (d : Int) (i : Instruction) (p : Program) :
    code d (i :: p) = i.codeLine d ++ code (i.op.depthBehind d) p := rfl

@[simp] theorem trace_nil (d : Int) : trace d [] = [] := rfl

@[simp] theorem trace_cons (d : Int) (i : Instruction) (p : Program) :
    trace d (i :: p) = i.traceLine d :: trace (i.op.depthBehind d) p := rfl

@[simp] theorem depthBehind_nil (d : Int) : depthBehind d [] = d := rfl

@[simp] theorem depthBehind_cons (d : Int) (i : Instruction) (p : Program) :
    depthBehind d (i :: p) = depthBehind (i.op.depthBehind d) p := rfl

theorem depthBehind_append (d : Int) (p q : Program) :
    depthBehind d (p ++ q) = depthBehind (depthBehind d p) q := by
  induction p generalizing d with
  | nil => rfl
  | cons i p ih => simp [ih]

theorem code_append (d : Int) (p q : Program) :
    code d (p ++ q) = code d p ++ code (depthBehind d p) q := by
  induction p generalizing d with
  | nil => rfl
  | cons i p ih => simp [ih]

theorem trace_append (d : Int) (p q : Program) :
    trace d (p ++ q) = trace d p ++ trace (depthBehind d p) q := by
  induction p generalizing d with
  | nil => rfl
  | cons i p ih => simp [ih]

end Program

namespace Listing

@[simp] theorem emit_nil (d : Int) : emit d [] = ⟨[], [], d, none⟩ := rfl

@[simp] theorem emit_foreign (d : Int) (symbol : Text) (l : Location) (es : Listing) :
    emit d (.foreign symbol l :: es) = ⟨[], [], d, some symbol⟩ := rfl

/-- A program emits its code and its trace, and nothing stops it. -/
theorem emit_ofProgram (d : Int) (p : Program) :
    emit d (ofProgram p) = ⟨p.code d, p.trace d, p.depthBehind d, none⟩ := by
  induction p generalizing d with
  | nil => rfl
  | cons i p ih =>
    have hp : ofProgram (i :: p) = .known i :: ofProgram p := rfl
    rw [hp, emit, ih]
    rfl

end Listing

end BrainfuckC
